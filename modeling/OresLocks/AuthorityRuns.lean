import OresLocks.AuthoritySteps

/-!
# Row and token invariants of the authority

They hold along every run, for any bodies and under any clock readings.
-/

namespace OresLocks.Authority

set_option autoImplicit false

open Shared.Numeral Shared.Runs

/-- The counter is a numeral of the mintable domain, and the three lease columns
are present together, with the newest token. -/
structure RowInvariant (row : Row) : Prop where
  counter : ∃ n, n ≤ maxMintedFencingToken ∧ row.nextToken = numeral n
  lease : (row.holder = none ∧ row.token = none ∧ row.expiresMs = none ∧ row.requestId = none) ∨
    (∃ holder expires, row.holder = some holder ∧ row.token = some row.nextToken ∧
      row.expiresMs = some expires)

def counterValue (row : Row) : Nat := natOf row.nextToken

theorem nextToken_ok {current token : JsString} (h : nextToken current = .ok token) :
    token = numeral (natOf current + 1) ∧ natOf current + 1 ≤ maxMintedFencingToken := by
  unfold nextToken at h
  split at h
  · simp at h
  · split at h
    · simp at h
    · cases h
      exact ⟨rfl, by omega⟩

theorem nextToken_exhausted_of_max :
    nextToken (numeral maxMintedFencingToken) = .error .fencingTokenExhausted := by
  simp [nextToken]

theorem rowInvariant_fresh : RowInvariant fresh.row :=
  ⟨⟨0, by decide, rfl⟩, Or.inl ⟨rfl, rfl, rfl, rfl⟩⟩

theorem RowInvariant.cleared {row : Row} (h : RowInvariant row) : RowInvariant (clearLease row) :=
  ⟨h.counter, Or.inl ⟨rfl, rfl, rfl, rfl⟩⟩

theorem RowInvariant.newest {row : Row} (h : RowInvariant row) {holder : JsString}
    (hh : row.holder = some holder) : row.token = some row.nextToken := by
  rcases h.lease with ⟨hn, _⟩ | ⟨_, _, _, ht, _⟩
  · rw [hh] at hn
    cases hn
  · exact ht

theorem Change.rowInvariant {row row' : Row} {e : Event} (hc : Change row e row')
    (h : RowInvariant row) : RowInvariant row' := by
  cases hc with
  | acquire hs =>
    cases hs with
    | invalid | refused | exhausted | corrupt => exact h
    | replayed holder expires requestId _ hh he =>
      exact ⟨h.counter, Or.inr ⟨holder, expires, hh, h.newest hh, he⟩⟩
    | granted holder token _ _ hn =>
      obtain ⟨rfl, hle⟩ := nextToken_ok hn
      exact ⟨⟨_, hle, rfl⟩, Or.inr ⟨_, _, rfl, rfl, rfl⟩⟩
  | renew hs =>
    cases hs with
    | invalid | notOwner => exact h
    | expired => exact h.cleared
    | renewed holder token expires _ _ hh =>
      exact ⟨h.counter, Or.inr ⟨holder, _, hh, h.newest hh, rfl⟩⟩
  | release hs =>
    cases hs with
    | invalid | notOwner => exact h
    | expired | released => exact h.cleared
  | alarmIdle => exact h
  | alarmExpired => exact h.cleared

theorem rowInvariant_of_exec {es : List Event} {s : Storage} (h : Exec Step fresh es s) :
    RowInvariant s.row :=
  (change_of_exec h).stateInvariant rowInvariant_fresh (fun hi hc => hc.rowInvariant hi)

/-- The token an answer hands to the caller, if any. -/
def Event.returnedToken : Event → Option JsString
  | .acquire _ _ (.replayed token _) => token
  | .acquire _ _ (.granted token _ _) => some token
  | _ => none

/-- The token of an answer with `acquired: true` and `replayed: false`. -/
def Event.freshToken : Event → Option JsString
  | .acquire _ _ (.granted token _ _) => some token
  | _ => none

/-- Only a fresh grant moves the counter, and it hands out the new value. -/
theorem Change.counter {row row' : Row} {e : Event} (hc : Change row e row') :
    (e.freshToken = none ∧ row'.nextToken = row.nextToken) ∨
    (e.freshToken = some (numeral (counterValue row + 1)) ∧
      row'.nextToken = numeral (counterValue row + 1) ∧
      counterValue row + 1 ≤ maxMintedFencingToken) := by
  cases hc with
  | acquire hs =>
    cases hs with
    | invalid | refused | exhausted | corrupt | replayed => exact Or.inl ⟨rfl, rfl⟩
    | granted holder token _ _ hn =>
      obtain ⟨rfl, hle⟩ := nextToken_ok hn
      exact Or.inr ⟨rfl, rfl, hle⟩
  | renew hs => cases hs <;> exact Or.inl ⟨rfl, rfl⟩
  | release hs => cases hs <;> exact Or.inl ⟨rfl, rfl⟩
  | alarmIdle | alarmExpired => exact Or.inl ⟨rfl, rfl⟩

/-- The stored token and the returned one were stored before or are freshly granted. -/
theorem Change.token_source {row row' : Row} {e : Event} (hc : Change row e row') :
    (row'.token = none ∨ row'.token = row.token ∨ row'.token = e.freshToken) ∧
    (e.returnedToken = none ∨ e.returnedToken = row.token ∨ e.returnedToken = e.freshToken) := by
  cases hc with
  | acquire hs =>
    cases hs with
    | invalid | refused | exhausted | corrupt => exact ⟨Or.inr (Or.inl rfl), Or.inl rfl⟩
    | replayed => exact ⟨Or.inr (Or.inl rfl), Or.inr (Or.inl rfl)⟩
    | granted => exact ⟨Or.inr (Or.inr rfl), Or.inr (Or.inr rfl)⟩
  | renew hs =>
    cases hs with
    | invalid | notOwner | renewed => exact ⟨Or.inr (Or.inl rfl), Or.inl rfl⟩
    | expired => exact ⟨Or.inl rfl, Or.inl rfl⟩
  | release hs =>
    cases hs with
    | invalid | notOwner => exact ⟨Or.inr (Or.inl rfl), Or.inl rfl⟩
    | expired | released => exact ⟨Or.inl rfl, Or.inl rfl⟩
  | alarmIdle => exact ⟨Or.inr (Or.inl rfl), Or.inl rfl⟩
  | alarmExpired => exact ⟨Or.inl rfl, Or.inl rfl⟩

/-- The fresh grants of a run, oldest first. -/
def grants (es : List Event) : List JsString := es.filterMap Event.freshToken

theorem mem_grants_concat {es : List Event} {e : Event} {token : JsString} :
    token ∈ grants (es ++ [e]) ↔ token ∈ grants es ∨ e.freshToken = some token := by
  unfold grants
  rw [List.filterMap_append, List.mem_append]
  cases he : e.freshToken <;> simp [he, eq_comm]

/-- Every token a call returns was freshly granted at some time. -/
theorem returnedToken_mem_grants {es : List Event} {s : Storage} (h : Exec Step fresh es s) :
    (∀ token, s.row.token = some token → token ∈ grants es) ∧
    ∀ e ∈ es, ∀ token, e.returnedToken = some token → token ∈ grants es := by
  have hstart : (∀ token, fresh.row.token = some token → token ∈ grants []) ∧
      ∀ e ∈ ([] : List Event), ∀ token, e.returnedToken = some token → token ∈ grants [] := by
    simp [fresh]
  refine (change_of_exec h).invariant (I := fun es row =>
    (∀ token, row.token = some token → token ∈ grants es) ∧
    ∀ e ∈ es, ∀ token, e.returnedToken = some token → token ∈ grants es) hstart ?_
  intro es row e row' _ hi hc
  obtain ⟨hrow, hret⟩ := hc.token_source
  refine ⟨?_, ?_⟩
  · intro token ht
    rw [mem_grants_concat]
    rcases hrow with hn | hold | hnew
    · rw [hn] at ht
      cases ht
    · exact Or.inl (hi.1 token (hold ▸ ht))
    · exact Or.inr (hnew ▸ ht)
  · intro e' he' token ht
    rw [mem_grants_concat]
    rcases List.mem_append.mp he' with hmem | hmem
    · exact Or.inl (hi.2 e' hmem token ht)
    · rw [List.mem_singleton] at hmem
      subst hmem
      rcases hret with hn | hold | hnew
      · rw [hn] at ht
        cases ht
      · exact Or.inl (hi.1 token (hold ▸ ht))
      · exact Or.inr (hnew ▸ ht)

theorem Change.counter_le {row row' : Row} {e : Event} (hc : Change row e row') :
    counterValue row ≤ counterValue row' := by
  unfold counterValue
  rcases hc.counter with ⟨_, hn⟩ | ⟨_, hn, _⟩
  · rw [hn]
  · rw [hn, natOf_numeral, counterValue]
    omega

/-- Every token handed out is at most the counter after the call. -/
theorem Change.returnedToken_le {row row' : Row} {e : Event} (hc : Change row e row')
    (h : RowInvariant row) {token : JsString} (ht : e.returnedToken = some token) :
    token = numeral (natOf token) ∧ natOf token ≤ counterValue row' := by
  cases hc with
  | acquire hs =>
    cases hs with
    | invalid | refused | exhausted | corrupt => simp [Event.returnedToken] at ht
    | replayed holder expires requestId _ hh he =>
      simp only [Event.returnedToken, h.newest hh, Option.some.injEq] at ht
      subst ht
      obtain ⟨n, _, hn⟩ := h.counter
      simp [counterValue, hn]
    | granted holder token' _ _ hn =>
      simp only [Event.returnedToken, Option.some.injEq] at ht
      obtain ⟨rfl, _⟩ := nextToken_ok hn
      subst ht
      simp [counterValue]
  | renew | release | alarmIdle | alarmExpired => simp [Event.returnedToken] at ht

/-- All tokens handed out so far are numerals not above the counter. -/
theorem returnedToken_le_of_exec {es : List Event} {s : Storage} (h : Exec Step fresh es s) :
    ∀ e ∈ es, ∀ token, e.returnedToken = some token →
      token = numeral (natOf token) ∧ natOf token ≤ counterValue s.row := by
  refine (change_of_exec h).invariant
    (I := fun es row => ∀ e ∈ es, ∀ token, e.returnedToken = some token →
      token = numeral (natOf token) ∧ natOf token ≤ counterValue row) (by simp) ?_
  intro es row e row' hexec hi hc e' he' token ht
  have hrow : RowInvariant row :=
    hexec.stateInvariant rowInvariant_fresh (fun hi hc => hc.rowInvariant hi)
  rcases List.mem_append.mp he' with hold | hnew
  · obtain ⟨hn, hle⟩ := hi e' hold token ht
    exact ⟨hn, hle.trans hc.counter_le⟩
  · rw [List.mem_singleton] at hnew
    subst e'
    exact hc.returnedToken_le hrow ht

/-- A fresh token is new: above everything handed out before it. -/
theorem freshToken_gt {pre post : List Event} {e : Event} {s : Storage}
    (h : Exec Step fresh (pre ++ e :: post) s) {token : JsString}
    (hf : e.freshToken = some token) :
    token = numeral (natOf token) ∧ natOf token ≤ maxMintedFencingToken ∧
    ∀ e' ∈ pre, ∀ token', e'.returnedToken = some token' →
      token' = numeral (natOf token') ∧ natOf token' < natOf token := by
  obtain ⟨t, t', hpre, hstep, _⟩ := h.split_at
  rcases hstep.change.counter with ⟨hnone, _⟩ | ⟨hsome, _, hle⟩
  · rw [hf] at hnone
    cases hnone
  · rw [hf] at hsome
    cases hsome
    rw [natOf_numeral]
    refine ⟨rfl, hle, ?_⟩
    intro e' he' token' ht
    obtain ⟨hn, hlt⟩ := returnedToken_le_of_exec hpre e' he' token' ht
    exact ⟨hn, by omega⟩

theorem Event.returnedToken_of_fresh {e : Event} {token : JsString}
    (h : e.freshToken = some token) : e.returnedToken = some token := by
  unfold Event.freshToken at h
  split at h
  · exact h
  · cases h

/-- Fresh grants come in the order of their numbers. -/
theorem grants_increasing {es : List Event} {s : Storage} (h : Exec Step fresh es s) :
    (grants es).Pairwise fun a b => natOf a < natOf b := by
  unfold grants
  rw [List.pairwise_filterMap]
  apply h.pairwise
  intro es t e u hexec hstep e' he' a ha b hb
  exact ((freshToken_gt (hexec.snoc hstep) hb).2.2 e' he' a (e'.returnedToken_of_fresh ha)).2

theorem counter_mono {es : List Event} {s t : Storage} (h : Exec Step s es t) :
    counterValue s.row ≤ counterValue t.row :=
  (change_of_exec h).related (R := fun a b => counterValue a ≤ counterValue b)
    (fun _ => le_refl _) (fun hab hbc => hab.trans hbc) Change.counter_le

/-- At the last mintable token `acquire` rolls its transaction back, so that a
lease it had begun to clear is still there. -/
theorem acquire_exhausted {body : LeaseBody} {now : Int} {s : Storage}
    (hholder : validHolder body.holder = true) (hreq : validRequestId body.requestId = true)
    (httl : validTtl body.ttlMs = true) (hfree : Free s.row now)
    (hmax : s.row.nextToken = numeral maxMintedFencingToken) :
    acquire body now s = (.error .fencingTokenExhausted, s) := by
  unfold acquire
  simp only [hholder, hreq, httl, Bool.not_true, Bool.false_eq_true, if_false, transactionSync,
    acquireTransaction_free hfree, acquireFresh, hmax, nextToken_exhausted_of_max]

/-- The row and token law of the authority over every run: the lease columns are
null together, a stored token is the newest one, the counter never decreases, a
fresh grant carries a token above all earlier ones and inside the safe-integer
domain, and an exhausted counter refuses every mint without touching storage. -/
theorem rows_and_tokens_of_run (es : List Event) (s : Storage) (h : Exec Step fresh es s) :
    ((s.row.holder = none ∧ s.row.token = none ∧ s.row.expiresMs = none ∧ s.row.requestId = none) ∨
      (s.row.holder ≠ none ∧ s.row.token ≠ none ∧ s.row.expiresMs ≠ none)) ∧
    (∀ token, s.row.token = some token → token = s.row.nextToken) ∧
    (∀ fs t, Exec Step s fs t → ∃ n m, s.row.nextToken = numeral n ∧ t.row.nextToken = numeral m ∧
      n ≤ m) ∧
    (∀ pre post body now token expires ttl,
      es = pre ++ .acquire body now (.granted token expires ttl) :: post →
      ∃ n, token = numeral n ∧ n ≤ 9007199254740991 ∧
        ∀ e ∈ pre, ∀ token', e.returnedToken = some token' → ∃ m, token' = numeral m ∧ m < n) ∧
    (∀ t : Storage, t.row.nextToken = numeral 9007199254740991 →
      ∀ body now, validHolder body.holder = true → validRequestId body.requestId = true →
        validTtl body.ttlMs = true → Free t.row now →
        acquire body now t = (.error .fencingTokenExhausted, t)) := by
  have hinv := rowInvariant_of_exec h
  refine ⟨?_, ?_, ?_, ?_, ?_⟩
  · rcases hinv.lease with hnull | ⟨holder, expires, hh, ht, he⟩
    · exact Or.inl hnull
    · exact Or.inr ⟨by simp [hh], by simp [ht], by simp [he]⟩
  · intro token htoken
    rcases hinv.lease with ⟨_, hn, _⟩ | ⟨_, _, _, ht, _⟩
    · rw [htoken] at hn
      cases hn
    · rw [htoken] at ht
      exact Option.some.inj ht
  · intro fs t hfs
    obtain ⟨n, _, hn⟩ := hinv.counter
    obtain ⟨m, _, hm⟩ := (rowInvariant_of_exec (h.append hfs)).counter
    have hle := counter_mono hfs
    simp only [counterValue, hn, hm, natOf_numeral] at hle
    exact ⟨n, m, hn, hm, hle⟩
  · intro pre post body now token expires ttl hes
    rw [hes] at h
    obtain ⟨hn, hmax, hlt⟩ := freshToken_gt h rfl
    exact ⟨natOf token, hn, hmax, fun e he token' ht => ⟨natOf token', hlt e he token' ht⟩⟩
  · intro t hmax body now hholder hreq httl hfree
    exact acquire_exhausted hholder hreq httl hfree hmax

/-- A body that acquires for the holder `a` with a TTL of one second. -/
def sampleBody : LeaseBody :=
  ⟨.string [0x61], .undefined, .number (.ofInt 1000), .undefined⟩

/-- The same for the holder `b`. -/
def otherBody : LeaseBody :=
  ⟨.string [0x62], .undefined, .number (.ofInt 1000), .undefined⟩

/-- `a` acquires, `b` is refused while that lease lasts, and `b` acquires after it. -/
def secondGrant : List Event :=
  [.acquire sampleBody 5 (.granted (numeral 1) 1005 1000),
    .acquire otherBody 100 (.refused .contention 1005),
    .acquire otherBody 2000 (.granted (numeral 2) 3000 1000)]

theorem secondGrant_run : ∃ s, Exec Step fresh secondGrant s ∧ s.row.holder = some [0x62] := by
  have hfirst : (acquire sampleBody 5 fresh).1 = .granted (numeral 1) 1005 1000 := by decide
  have hrefused : (acquire otherBody 100 (acquire sampleBody 5 fresh).2).1 =
      .refused .contention 1005 := by decide
  have hsecond : (acquire otherBody 2000 (acquire otherBody 100 (acquire sampleBody 5 fresh).2).2).1 =
      .granted (numeral 2) 3000 1000 := by decide
  have hrun := Exec.snoc (Exec.snoc (Exec.single (Step.acquire (s := fresh) sampleBody 5))
    (.acquire otherBody 100)) (.acquire otherBody 2000)
  rw [hfirst, hrefused, hsecond] at hrun
  exact ⟨_, hrun, by decide⟩

theorem rows_and_tokens_of_second_grant :
    ∃ s, Exec Step fresh secondGrant s ∧ s.row.token ≠ none ∧
      ∃ n, (numeral 2 : JsString) = numeral n ∧ ∀ e ∈ secondGrant.take 2, ∀ token,
        e.returnedToken = some token → ∃ m, token = numeral m ∧ m < n := by
  obtain ⟨s, hrun, hholder⟩ := secondGrant_run
  have hrows := rows_and_tokens_of_run _ _ hrun
  have htoken : s.row.token ≠ none := by
    rcases hrows.1 with ⟨hnone, _⟩ | ⟨_, htoken, _⟩
    · rw [hholder] at hnone
      cases hnone
    · exact htoken
  obtain ⟨n, hn, _, hbefore⟩ :=
    hrows.2.2.2.1 (secondGrant.take 2) [] otherBody 2000 (numeral 2) 3000 1000 rfl
  exact ⟨s, hrun, htoken, n, hn, hbefore⟩

end OresLocks.Authority
