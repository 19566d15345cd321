import OresLocks.Postgres.TokenAuthority

/-!
# Tokens increase in commit order

The owner of the row has been given the numbers right after the committed one, in
call order, and the others of the open transactions nothing. Committing moves the
counter to the last of them; rolling back gives them back.
-/

namespace OresLocks.Postgres.TokenAuthority

set_option autoImplicit false

open Shared.RowLocks Shared.Runs Shared.Utf8

universe u

variable {τ : Type u} {t : τ} {row row' : Row τ Nat}

/-- The committed counter; a missing row counts from zero. -/
def counter (row : Row τ Nat) : Nat := row.committed.getD 0

/-- What an open transaction has been given: nothing, or the numbers after the
committed one. -/
def Given (row : Row τ Nat) (t : τ) (returned : List String) : Prop :=
  (returned = [] ∧ row.owner ≠ some t) ∨
  (∃ k, row.owner = some t ∧ returned = (List.range' (counter row + 1) k).map toString ∧
    row.working = some (counter row + k) ∧ counter row + k ≤ maxToken)

/-- A transaction other than the one that takes the row has been given nothing. -/
theorem Given.others {t' : τ} {returned : List String} {version : Nat} (h : Given row t' returned)
    (ha : row.Available t) (hne : t' ≠ t) : Given (row.take t version) t' returned := by
  rcases h with ⟨hret, _⟩ | ⟨_, howner, _⟩
  · exact Or.inl ⟨hret, by simp [Ne.symm hne]⟩
  · exact absurd howner (Row.owner_of_available ha hne)

/-- Once the owner has ended, whatever it left, the others have been given nothing. -/
theorem Given.released {t' : τ} {returned : List String} {lastToken : Option Nat}
    (h : Given row t' returned) (howner : row.owner = some t) (hne : t' ≠ t) :
    Given (.stored lastToken) t' returned := by
  rcases h with ⟨hret, _⟩ | ⟨_, howner', _⟩
  · exact Or.inl ⟨hret, by simp [Row.stored]⟩
  · rw [howner] at howner'
    exact absurd (Option.some.inj howner').symm hne

variable [DecidableEq τ] {tenantScope resourceKey : Option String}

/-- A returned token is the successor of what the transaction saw, and the
transaction then owns the row. -/
theorem nextFencingToken_ok {token : String}
    (h : nextFencingToken tenantScope resourceKey t row = some (.ok token, row')) :
    row.Available t ∧ ∃ n, token = toString (n + 1) ∧ n = (row.visible t).getD 0 ∧
      n < maxToken ∧ row' = row.take t (n + 1) := by
  unfold nextFencingToken at h
  split at h
  · cases h
  split at h
  · cases h
  split at h
  · cases h
  · cases h
  · rename_i next row'' hupsert
    cases h
    obtain ⟨ha, hcases⟩ := Row.upsert_cases hupsert
    refine ⟨ha, ?_⟩
    rcases hcases with ⟨hv, hret, hrow⟩ | ⟨found, changed, hv, hchange, hret, hrow⟩ |
      ⟨found, hv, hchange, hret, hrow⟩
    · cases hret
      exact ⟨0, rfl, by rw [hv]; rfl, by decide, hrow⟩
    · cases hret
      unfold increment at hchange
      split at hchange
      · rename_i hlt
        cases hchange
        exact ⟨found, rfl, by rw [hv]; rfl, hlt, hrow⟩
      · cases hchange
    · cases hret

/-- A call that raises changes nothing, or it found the counter at its maximum and
owns the row unchanged. -/
theorem nextFencingToken_error {raised : SqlError}
    (h : nextFencingToken tenantScope resourceKey t row = some (.error raised, row')) :
    row' = row ∨ (row.Available t ∧ ∃ found, row.visible t = some found ∧ maxToken ≤ found ∧
      row' = row.take t found) := by
  unfold nextFencingToken at h
  split at h
  · cases h
    exact Or.inl rfl
  split at h
  · cases h
    exact Or.inl rfl
  split at h
  · cases h
  · rename_i row'' hupsert
    cases h
    obtain ⟨ha, hcases⟩ := Row.upsert_cases hupsert
    right
    refine ⟨ha, ?_⟩
    rcases hcases with ⟨_, hret, _⟩ | ⟨_, _, _, _, hret, _⟩ | ⟨found, hv, hchange, _, hrow⟩
    · cases hret
    · cases hret
    · unfold increment at hchange
      split at hchange
      · cases hchange
      · rename_i hge
        exact ⟨found, hv, by omega, hrow⟩
  · cases h

/-- Both arguments pass their checks. -/
def ArgumentsValid (tenantScope resourceKey : Option String) : Prop :=
  (∃ value, requireText "tenantScope" 256 tenantScope = .ok value) ∧
    ∃ value, requireText "resourceKey" 512 resourceKey = .ok value

/-- What a call answers that finds the counter there. -/
def answerAt (lastToken : Nat) : Except SqlError String :=
  if lastToken < maxToken then .ok (toString (lastToken + 1)) else .error exhausted

/-- A call that may take the row is answered. -/
theorem nextFencingToken_available (hvalid : ArgumentsValid tenantScope resourceKey)
    (ha : row.Available t) : ∃ row', nextFencingToken tenantScope resourceKey t row =
      some (answerAt ((row.visible t).getD 0), row') := by
  obtain ⟨⟨tenant, htenant⟩, resource, hresource⟩ := hvalid
  unfold nextFencingToken Row.upsert
  rw [htenant, hresource, if_pos ha]
  cases hv : row.visible t with
  | none => exact ⟨_, rfl⟩
  | some found =>
    dsimp only [Option.getD_some]
    unfold increment answerAt
    by_cases hlt : found < maxToken
    · rw [if_pos hlt, if_pos hlt]
      exact ⟨_, rfl⟩
    · rw [if_neg hlt, if_neg hlt]
      exact ⟨_, rfl⟩

/-- Wrong arguments raise, and the row is not waited for. -/
theorem nextFencingToken_invalid (hinvalid : ¬ ArgumentsValid tenantScope resourceKey) :
    ∃ raised, nextFencingToken tenantScope resourceKey t row = some (.error raised, row) := by
  unfold nextFencingToken
  cases htenant : requireText "tenantScope" 256 tenantScope with
  | error raised => exact ⟨raised, rfl⟩
  | ok tenant =>
    cases hresource : requireText "resourceKey" 512 resourceKey with
    | error raised => exact ⟨raised, rfl⟩
    | ok resource => exact absurd ⟨⟨tenant, htenant⟩, resource, hresource⟩ hinvalid

structure Inv (ls : List (Label τ)) (s : State τ) : Prop where
  bounded : counter s.row ≤ maxToken
  log : ∃ ns : List Nat, committedTokens ls = ns.map toString ∧ ns.Pairwise (· < ·) ∧
    ∀ n ∈ ns, 1 ≤ n ∧ n ≤ counter s.row
  given : ∀ t returned, s.txns t = .active returned → Given s.row t returned
  unended : ∀ t, s.row.owner = some t → s.txns t ≠ .ended

theorem Given.returns {returned : List String} {token : String} (h : Given row t returned)
    (hcall : nextFencingToken tenantScope resourceKey t row = some (.ok token, row')) :
    row.Available t ∧ (∃ n, row' = row.take t n) ∧ Given row' t (returned ++ [token]) := by
  obtain ⟨ha, n, htoken, hn, hlt, hrow⟩ := nextFencingToken_ok hcall
  refine ⟨ha, ⟨n + 1, hrow⟩, ?_⟩
  subst hrow htoken
  right
  have hcounter : counter (row.take t (n + 1)) = counter row := rfl
  rw [hcounter]
  rcases h with ⟨hret, howner⟩ | ⟨k, howner, hret, hwork, hle⟩
  · rw [Row.visible_other howner] at hn
    have hn' : n = counter row := hn
    exact ⟨1, rfl, by rw [hret, hn']; rfl, by rw [hn']; rfl, by omega⟩
  · rw [Row.visible_owner howner, hwork] at hn
    have hn' : n = counter row + k := hn
    refine ⟨k + 1, rfl, ?_, by rw [hn']; rfl, by omega⟩
    rw [hret, hn', List.range'_concat, List.map_append]
    congr 3
    omega

theorem Inv.put {ls : List (Label τ)} {l : Label τ} {s : State τ} {txn : Txn} (h : Inv ls s)
    (hl : l.committed = []) (hcounter : counter row = counter s.row)
    (hself : ∀ returned, txn = .active returned → Given row t returned)
    (hothers : ∀ t' returned, t' ≠ t → Given s.row t' returned → Given row t' returned)
    (howner : ∀ t', row.owner = some t' →
      t' = t ∧ txn ≠ .ended ∨ t' ≠ t ∧ s.row.owner = some t') :
    Inv (ls ++ [l]) (s.put t txn row) where
  bounded := by
    simp only [State.put]
    rw [hcounter]
    exact h.bounded
  log := by
    obtain ⟨ns, hns, hsorted, hrange⟩ := h.log
    refine ⟨ns, by simp [committedTokens, hl, ← hns], hsorted, ?_⟩
    intro n hn
    simp only [State.put]
    rw [hcounter]
    exact hrange n hn
  given := by
    intro t' returned ht'
    simp only [State.put] at ht' ⊢
    split at ht'
    · rename_i heq
      subst heq
      exact hself returned ht'
    · rename_i hne
      exact hothers t' returned hne (h.given t' returned ht')
  unended := by
    intro t' hrow
    simp only [State.put]
    rcases howner t' hrow with ⟨rfl, htxn⟩ | ⟨hne, hold⟩
    · rw [if_pos rfl]
      exact htxn
    · rw [if_neg hne]
      exact h.unended t' hold

theorem Given.commit {t' : τ} {returned : List String} (h : Given row t' returned)
    (hne : t' ≠ t) : Given (row.commit t) t' returned := by
  by_cases howner : row.owner = some t
  · rw [Row.commit_owner howner]
    exact h.released howner hne
  · rwa [Row.commit_other howner]

theorem Given.rollback {t' : τ} {returned : List String} (h : Given row t' returned)
    (hne : t' ≠ t) : Given (row.rollback t) t' returned := by
  by_cases howner : row.owner = some t
  · rw [Row.rollback_owner howner]
    exact h.released howner hne
  · rwa [Row.rollback_other howner]

theorem Inv.commit {ls : List (Label τ)} {s : State τ} {returned : List String} (h : Inv ls s)
    (ht : s.txns t = .active returned) :
    Inv (ls ++ [.commit t returned]) (s.put t .ended (s.row.commit t)) := by
  have hgiven : ∀ t' returned', (s.put t .ended (s.row.commit t)).txns t' = .active returned' →
      Given (s.row.commit t) t' returned' := by
    intro t' returned' ht'
    simp only [State.put] at ht'
    split at ht'
    · cases ht'
    · rename_i hne
      exact (h.given t' returned' ht').commit hne
  have hunended : ∀ t', (s.row.commit t).owner = some t' →
      (s.put t .ended (s.row.commit t)).txns t' ≠ .ended := by
    intro t' hrow
    obtain ⟨hne, hold⟩ := Row.owner_commit hrow
    simp only [State.put]
    rw [if_neg hne]
    exact h.unended t' hold
  obtain ⟨ns, hns, hsorted, hrange⟩ := h.log
  have hlog : committedTokens (ls ++ [.commit t returned]) = ns.map toString ++ returned := by
    simp [committedTokens, Label.committed, ← hns]
  rcases h.given t returned ht with ⟨hret, howner⟩ | ⟨k, howner, hret, hwork, hle⟩
  · have hrow : s.row.commit t = s.row := Row.commit_other howner
    refine ⟨?_, ⟨ns, by rw [hlog, hret, List.append_nil], hsorted, ?_⟩, hgiven, hunended⟩
    · simp only [State.put, hrow]
      exact h.bounded
    · simp only [State.put, hrow]
      exact hrange
  · have hcounter : counter (s.row.commit t) = counter s.row + k := by
      rw [Row.commit_owner howner, hwork]
      rfl
    refine ⟨?_, ⟨ns ++ List.range' (counter s.row + 1) k, ?_, ?_, ?_⟩, hgiven, hunended⟩
    · simp only [State.put, hcounter]
      exact hle
    · rw [hlog, hret, List.map_append]
    · rw [List.pairwise_append]
      refine ⟨hsorted, List.pairwise_lt_range', ?_⟩
      intro a ha b hb
      rw [List.mem_range'_1] at hb
      have := (hrange a ha).2
      omega
    · intro n hn
      simp only [State.put, hcounter]
      rcases List.mem_append.mp hn with hold | hnew
      · have := hrange n hold
        omega
      · rw [List.mem_range'_1] at hnew
        omega

theorem Step.inv {ls : List (Label τ)} {l : Label τ} {s s' : State τ} (h : Inv ls s)
    (hs : Step tenantScope resourceKey s l s') : Inv (ls ++ [l]) s' := by
  cases hs with
  | returns t returned token row' ht hcall =>
    obtain ⟨ha, ⟨n, hrow⟩, hgiven⟩ := (h.given t returned ht).returns hcall
    apply h.put rfl (by rw [hrow]; rfl)
    · intro returned' heq
      cases heq
      exact hgiven
    · intro t' returned' hne hold
      rw [hrow]
      exact hold.others ha hne
    · intro t' howner
      rw [hrow, Row.take_owner, Option.some.injEq] at howner
      exact .inl ⟨howner.symm, nofun⟩
  | raises t returned raised row' ht hcall =>
    rcases nextFencingToken_error hcall with hrow | ⟨ha, found, _, _, hrow⟩
    · apply h.put rfl (by rw [hrow])
      · intro returned' heq
        cases heq
      · intro t' returned' _ hold
        rwa [hrow]
      · intro t' howner
        rw [hrow] at howner
        by_cases hself : t' = t
        · exact .inl ⟨hself, nofun⟩
        · exact .inr ⟨hself, howner⟩
    · apply h.put rfl (by rw [hrow]; rfl)
      · intro returned' heq
        cases heq
      · intro t' returned' hne hold
        rw [hrow]
        exact hold.others ha hne
      · intro t' howner
        rw [hrow, Row.take_owner, Option.some.injEq] at howner
        exact .inl ⟨howner.symm, nofun⟩
  | commit t returned ht => exact h.commit ht
  | rollback t ht =>
    apply h.put rfl (by rw [counter, Row.rollback_committed, counter])
    · intro returned' heq
      cases heq
    · intro t' returned' hne hold
      exact hold.rollback hne
    · intro t' howner
      exact .inr (Row.owner_rollback howner)

theorem inv_of_exec {ls : List (Label τ)} {s : State τ} {lastToken : Option Nat}
    (hstart : ∀ n, lastToken = some n → n ≤ maxToken)
    (h : Exec (Step tenantScope resourceKey) (start lastToken) ls s) : Inv ls s := by
  refine h.invariant (I := Inv) ⟨?_, ⟨[], rfl, .nil, by simp⟩, ?_, ?_⟩ (fun _ hi hs => hs.inv hi)
  · cases lastToken with
    | none => exact Nat.zero_le _
    | some n => exact hstart n rfl
  · intro t returned ht
    cases ht
    exact Or.inl ⟨rfl, by simp [start, Row.stored]⟩
  · intro t howner
    cases howner

/-- Over every interleaving: the tokens of the committed transactions increase strictly
in commit order and, within one transaction, in call order; every returned token is a
positive unsigned 64-bit number, whether its transaction commits or not; a call that
finds the counter at the maximum raises and leaves it there. A call of an open
transaction that may take the row is answered, with the next token or, at the maximum,
with the error; one that may not waits for a transaction that has not ended, and whose
rollback lets it go on. -/
theorem tokens_increase_in_commit_order (τ : Type u) [DecidableEq τ]
    (tenantScope resourceKey : Option String) (lastToken : Option Nat) (ls : List (Label τ))
    (s : State τ) (hstart : ∀ n, lastToken = some n → n ≤ 18446744073709551615)
    (h : Exec (Step tenantScope resourceKey) (start lastToken) ls s) :
    (∃ ns : List Nat, committedTokens ls = ns.map toString ∧ ns.Pairwise (· < ·)) ∧
    (∀ t token, .call t (.ok token) ∈ ls →
      ∃ n, token = toString n ∧ 1 ≤ n ∧ n ≤ 18446744073709551615) ∧
    (∀ t result s', Step tenantScope resourceKey s (.call t result) s' →
      s.row.visible t = some 18446744073709551615 →
      (∃ raised, result = .error raised) ∧ s'.row.visible t = some 18446744073709551615 ∧
        s'.row.committed = s.row.committed) ∧
    (∀ t returned, s.txns t = .active returned →
      (ArgumentsValid tenantScope resourceKey → s.row.Available t →
        ∃ s', Step tenantScope resourceKey s (.call t (answerAt ((s.row.visible t).getD 0))) s') ∧
      (¬ ArgumentsValid tenantScope resourceKey →
        ∃ raised s', Step tenantScope resourceKey s (.call t (.error raised)) s')) ∧
    (∀ t, ¬ s.row.Available t → ∃ t' s', Step tenantScope resourceKey s (.rollback t') s' ∧
      s'.row.Available t) := by
  refine ⟨?_, ?_, ?_, ?_, ?_⟩
  · obtain ⟨ns, hns, hsorted, _⟩ := (inv_of_exec hstart h).log
    exact ⟨ns, hns, hsorted⟩
  · intro t token hl
    obtain ⟨pre, post, rfl⟩ := List.append_of_mem hl
    obtain ⟨u, v, hpre, hstep, _⟩ := h.split_at
    cases hstep with
    | returns _ returned _ row' ht hcall =>
      obtain ⟨_, n, htoken, _, hlt, _⟩ := nextFencingToken_ok hcall
      have hmax : maxToken = 18446744073709551615 := rfl
      exact ⟨n + 1, htoken, by omega, by omega⟩
  · intro t result s' hstep hmax
    cases hstep with
    | returns _ returned token row' ht hcall =>
      obtain ⟨_, n, _, hn, hlt, _⟩ := nextFencingToken_ok hcall
      rw [hmax] at hn
      rw [hn] at hlt
      exact absurd hlt (by decide)
    | raises _ returned raised row' ht hcall =>
      refine ⟨⟨raised, rfl⟩, ?_⟩
      simp only [State.put]
      rcases nextFencingToken_error hcall with hrow | ⟨_, found, hv, _, hrow⟩
      · rw [hrow]
        exact ⟨hmax, rfl⟩
      · rw [hrow, Row.visible_owner rfl, ← hmax, hv]
        exact ⟨rfl, rfl⟩
  · intro t returned ht
    constructor
    · intro hvalid ha
      obtain ⟨row', hcall⟩ := nextFencingToken_available hvalid ha
      cases hanswer : answerAt ((s.row.visible t).getD 0) with
      | ok token => exact ⟨_, .returns t returned token row' ht (hanswer ▸ hcall)⟩
      | error raised => exact ⟨_, .raises t returned raised row' ht (hanswer ▸ hcall)⟩
    · intro hinvalid
      obtain ⟨raised, hcall⟩ :
          ∃ raised, nextFencingToken _ _ t s.row = some (.error raised, s.row) :=
        nextFencingToken_invalid hinvalid
      exact ⟨raised, _, .raises t returned raised s.row ht hcall⟩
  · intro t hblocked
    cases howner : s.row.owner with
    | none => exact absurd (Or.inl howner) hblocked
    | some t' =>
      refine ⟨t', _, .rollback t' ((inv_of_exec hstart h).unended t' howner), ?_⟩
      simp only [State.put]
      rw [Row.rollback_owner howner]
      exact Or.inl rfl

/-- The first of two transactions rolls its token back, the second commits two. -/
def sampleRun : List (Label Bool) :=
  [.call true (.ok (toString 1)), .rollback true, .call false (.ok (toString 1)),
    .call false (.ok (toString 2)), .commit false [toString 1, toString 2]]

theorem sampleRun_increases :
    committedTokens sampleRun = [toString 1, toString 2] ∧
    ∃ ns : List Nat, committedTokens sampleRun = ns.map toString ∧ ns.Pairwise (· < ·) := by
  have h₁ : Exec (Step (some "t") (some "r")) (start none)
      [.call true (.ok (toString 1))] _ := .single (.returns true [] _ _ rfl rfl)
  have h₂ := h₁.snoc (.rollback true (by simp [State.put]))
  have h₃ := h₂.snoc (.returns false [] _ _ rfl rfl)
  have h₄ := h₃.snoc (.returns false [toString 1] _ _ rfl rfl)
  have h₅ := h₄.snoc (.commit false [toString 1, toString 2] rfl)
  exact ⟨rfl, (tokens_increase_in_commit_order Bool (some "t") (some "r") none sampleRun _ (by simp)
    h₅).1⟩

end OresLocks.Postgres.TokenAuthority
