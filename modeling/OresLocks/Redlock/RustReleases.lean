import OresLocks.Redlock.Rust

/-!
# What `Ok(false)` of a release says about the handle

The handle of a grant is in one place at a time: in the map, or with the one call that
took it out. A release that comes while another call has it finds the map empty.
-/

namespace OresLocks.Redlock

set_option autoImplicit false

open Shared.Runs

abbrev Runs : State → List Input → State → Prop := Exec fun s e t => s.step e = some t

def opened (held : Held) : State := ⟨held, fun _ => none⟩

/-- The call has taken the handle of the grant out of the map. -/
def Call.Takes (id : GrantId) : Call → Prop
  | .extending grant _ _ => .fromGrant grant = id
  | .cleaning grant _ => .fromGrant grant = id
  | .releasing grant _ => .fromGrant grant = id
  | .renewed _ _ => False
  | .released _ _ => False

def State.Taken (s : State) (id : GrantId) : Prop :=
  ∃ call c, s.calls call = some c ∧ c.Takes id

/-- The adapter still owns an unreleased handle for the grant. -/
def State.Owns (s : State) (id : GrantId) : Prop := s.held id ≠ none ∨ s.Taken id

/-- Some release of the grant has returned `Ok(false)`. -/
def State.SaidFalse (s : State) (id : GrantId) : Prop :=
  ∃ call grant, s.calls call = some (.released grant (.ok false)) ∧ .fromGrant grant = id

/-- A release is called while no other call of the grant awaits the quorum. -/
def Unshared (id : GrantId) (s : State) (input : Input) : Prop :=
  match input with
  | .release call grant => s.calls call = none → .fromGrant grant = id → ¬ s.Taken id
  | _ => True

/-- One place at a time. -/
structure Single (id : GrantId) (s : State) : Prop where
  one : ∀ a b c d, s.calls a = some c → s.calls b = some d → c.Takes id → d.Takes id → a = b
  apart : s.held id ≠ none → ¬ s.Taken id

namespace State

variable {s : State} {call : Nat} {c : Call} {id : GrantId}

@[simp] theorem put_self : (s.put call c).calls call = some c := by simp [put]

theorem put_other {other : Nat} (h : other ≠ call) : (s.put call c).calls other = s.calls other := by
  simp [put, h]

theorem calls_put {other : Nat} {d : Call} (h : (s.put call c).calls other = some d) :
    other = call ∧ c = d ∨ other ≠ call ∧ s.calls other = some d := by
  by_cases heq : other = call
  · subst heq
    rw [put_self] at h
    exact .inl ⟨rfl, Option.some.inj h⟩
  · rw [put_other heq] at h
    exact .inr ⟨heq, h⟩

/-- Who has the handle after one call has moved on. -/
theorem taken_put : (s.put call c).Taken id ↔
    c.Takes id ∨ ∃ other d, other ≠ call ∧ s.calls other = some d ∧ d.Takes id := by
  constructor
  · rintro ⟨other, d, hd, htakes⟩
    obtain ⟨_, rfl⟩ | ⟨h, hd⟩ := calls_put hd
    · exact .inl htakes
    · exact .inr ⟨other, d, h, hd, htakes⟩
  · rintro (htakes | ⟨other, d, h, hd, htakes⟩)
    · exact ⟨call, c, put_self, htakes⟩
    · exact ⟨other, d, by rw [put_other h, hd], htakes⟩

end State

/-- No call but this one has the handle. -/
def State.Clear (s : State) (call : Nat) (id : GrantId) : Prop :=
  ∀ other d, other ≠ call → s.calls other = some d → ¬ d.Takes id

/-- What one step does with the handle of `id`. -/
inductive Move (id : GrantId) (s : State) : State → Prop where
  | done {call : Nat} {c : Call} {held : Held} (same : held id = s.held id)
      (free : ¬ c.Takes id) : Move id s ({ s with held := held }.put call c)
  | take {call : Nat} {c : Call} {held : Held} (full : s.held id ≠ none)
      (emptied : held id = none) : Move id s ({ s with held := held }.put call c)
  | keep {call : Nat} {c old : Call} (was : s.calls call = some old) (owner : old.Takes id) :
      Move id s (s.put call c)
  | back {call : Nat} {c old : Call} {held : Held} (was : s.calls call = some old)
      (owner : old.Takes id) (free : ¬ c.Takes id) :
      Move id s ({ s with held := held }.put call c)

section Places

variable {id : GrantId} {s t : State} {call : Nat} {c old : Call} {held : Held}

theorem Single.clear_of_held (h : Single id s) (hin : s.held id ≠ none) : s.Clear call id :=
  fun other d _ hd htakes => h.apart hin ⟨other, d, hd, htakes⟩

theorem Single.clear_of_taker (h : Single id s) (hcall : s.calls call = some old)
    (hold : old.Takes id) : s.Clear call id :=
  fun other d hother hd htakes => hother (h.one other call d old hd hcall htakes hold)

theorem Single.put (h : Single id s)
    (hclear : c.Takes id ∨ held id ≠ none → s.Clear call id)
    (happart : held id ≠ none → ¬ c.Takes id) :
    Single id ({ s with held := held }.put call c) := by
  refine ⟨?_, ?_⟩
  · intro a b d e ha hb hd he
    obtain ⟨hac, rfl⟩ | ⟨hac, ha⟩ := State.calls_put ha
    · obtain ⟨hbc, _⟩ | ⟨hbc, hb⟩ := State.calls_put hb
      · rw [hac, hbc]
      · exact absurd he (hclear (.inl hd) b e hbc hb)
    · obtain ⟨hbc, rfl⟩ | ⟨hbc, hb⟩ := State.calls_put hb
      · exact absurd hd (hclear (.inl he) a d hac ha)
      · exact h.one a b d e ha hb hd he
  · intro hne
    rw [State.taken_put]
    rintro (htakes | ⟨other, d, hother, hd, htakes⟩)
    · exact happart hne htakes
    · exact hclear (.inr hne) other d hother hd htakes

theorem single_move (h : Single id s) (hmove : Move id s t) : Single id t := by
  cases hmove with
  | @done call c held hheld hc =>
    apply h.put
    · rintro (htakes | hne)
      · exact absurd htakes hc
      · exact h.clear_of_held (by rwa [hheld] at hne)
    · exact fun _ => hc
  | @take call c held hin hout =>
    exact h.put (fun _ => h.clear_of_held hin) (fun hne => absurd hout hne)
  | @keep call c old hcall hold =>
    apply h.put
    · exact fun _ => h.clear_of_taker hcall hold
    · exact fun hne => absurd ⟨call, old, hcall, hold⟩ (h.apart hne)
  | @back call c old held hcall hold hc =>
    exact h.put (fun _ => h.clear_of_taker hcall hold) (fun _ => hc)

/-- What the adapter does not own it does not get back. -/
theorem disowned_move (h : ¬ s.Owns id) (hmove : Move id s t) : ¬ t.Owns id := by
  unfold State.Owns at h
  rw [not_or, not_not] at h
  obtain ⟨hnone, hfree⟩ := h
  cases hmove with
  | @done call c held hheld hc =>
    rintro (hne | htaken)
    · exact hne (hheld.trans hnone)
    rw [State.taken_put] at htaken
    obtain htakes | ⟨other, d, _, hd, htakes⟩ := htaken
    · exact hc htakes
    · exact hfree ⟨other, d, hd, htakes⟩
  | take hin _ => exact absurd hnone hin
  | @keep call c old hcall hold => exact absurd ⟨call, old, hcall, hold⟩ hfree
  | @back call c old held hcall hold _ => exact absurd ⟨call, old, hcall, hold⟩ hfree

end Places

section Steps

variable {id : GrantId} {s t : State} {input : Input} {call : Nat} {c old : Call}
  {grant : LeaseGrant} {handle : RedlockHandle}

theorem remove_other {held : Held} {other : GrantId} (h : ¬ other = id) :
    remove held other id = held id := if_neg (fun heq => h heq.symm)

theorem insert_other {held : Held} {other : GrantId} (h : ¬ other = id) :
    insert held other handle id = held id := if_neg (fun heq => h heq.symm)

theorem move_take (hin : s.held (.fromGrant grant) = some handle)
    (hc : c.Takes id → .fromGrant grant = id) :
    Move id s ({ s with held := remove s.held (.fromGrant grant) }.put call c) := by
  by_cases hg : .fromGrant grant = id
  · subst hg
    exact .take (by rw [hin]; simp) (if_pos rfl)
  · exact .done (remove_other hg) (fun htakes => hg (hc htakes))

theorem move_back (hcall : s.calls call = some old) (hold : .fromGrant grant = id → old.Takes id)
    (hc : ¬ c.Takes id) :
    Move id s ({ s with held := insert s.held (.fromGrant grant) handle }.put call c) := by
  by_cases hg : .fromGrant grant = id
  · exact .back hcall (hold hg) hc
  · exact .done (insert_other hg) hc

theorem move_of_step (hs : s.step input = some t) (id : GrantId) : Move id s t := by
  cases input with
  | renew call grant ttl =>
    simp only [State.step] at hs
    split at hs
    · cases hs
      unfold State.renew
      dsimp only
      split
      · exact .done rfl not_false
      split
      · exact .done rfl not_false
      · rename_i handle hin
        exact move_take hin fun htakes => htakes
    · cases hs
  | release call grant =>
    simp only [State.step] at hs
    split at hs
    · cases hs
      unfold State.release
      split
      · exact .done rfl not_false
      · rename_i handle hin
        exact move_take hin fun htakes => htakes
    · cases hs
  | extended call answer now =>
    simp only [State.step] at hs
    split at hs
    · rename_i grant ttlMs handle hcall
      cases hs
      unfold State.extended
      cases answer with
      | error message => exact .done rfl not_false
      | ok expires =>
        dsimp only
        split
        · exact move_back hcall (fun hg => hg) not_false
        by_cases hg : .fromGrant grant = id
        · exact .keep hcall hg
        · exact .done rfl hg
    · cases hs
  | cleaned call answer =>
    simp only [State.step] at hs
    split at hs
    · cases hs
      exact .done rfl not_false
    · cases hs
  | quorumReleased call answer =>
    simp only [State.step] at hs
    split at hs
    · rename_i grant handle hcall
      cases hs
      unfold State.quorumReleased
      cases answer with
      | ok value => exact .done rfl not_false
      | error message => exact move_back hcall (fun hg => hg) not_false
    · cases hs

theorem saidFalse_put {held : Held} (h : ({ s with held := held }.put call c).SaidFalse id) :
    s.SaidFalse id ∨ ∃ grant, c = .released grant (.ok false) ∧ .fromGrant grant = id := by
  obtain ⟨other, grant, hcall, hid⟩ := h
  obtain ⟨_, rfl⟩ | ⟨_, hold⟩ := State.calls_put hcall
  · exact .inr ⟨grant, rfl, hid⟩
  · exact .inl ⟨other, grant, hold, hid⟩

/-- A call that ends in another way than by `Ok(false)`. -/
theorem saidFalse_put_of_ne {held : Held}
    (h : ({ s with held := held }.put call c).SaidFalse id)
    (hne : ∀ grant, c ≠ .released grant (.ok false)) : s.SaidFalse id := by
  obtain h | ⟨grant, hc, _⟩ := saidFalse_put h
  · exact h
  · exact absurd hc (hne grant)

/-- Only a release that finds the map empty answers false. -/
theorem saidFalse_of_step (hs : s.step input = some t) (h : t.SaidFalse id) :
    s.SaidFalse id ∨ ∃ call grant, input = .release call grant ∧ s.calls call = none ∧
      .fromGrant grant = id ∧ s.held id = none := by
  cases input with
  | renew call grant ttl =>
    left
    simp only [State.step] at hs
    split at hs
    · cases hs
      unfold State.renew at h
      dsimp only at h
      split at h
      · exact saidFalse_put_of_ne h (by simp)
      split at h
      · exact saidFalse_put_of_ne h (by simp)
      · exact saidFalse_put_of_ne h (by simp)
    · cases hs
  | release call grant =>
    simp only [State.step] at hs
    split at hs
    · rename_i hcall
      cases hs
      unfold State.release at h
      split at h
      · rename_i hin
        obtain h | ⟨grant', hc, hid⟩ := saidFalse_put h
        · exact .inl h
        · cases hc
          exact .inr ⟨call, grant, rfl, hcall, hid, by rw [← hid]; exact hin⟩
      · exact .inl (saidFalse_put_of_ne h (by simp))
    · cases hs
  | extended call answer now =>
    left
    simp only [State.step] at hs
    split at hs
    · cases hs
      unfold State.extended at h
      cases answer with
      | error message => exact saidFalse_put_of_ne h (by simp)
      | ok expires =>
        dsimp only at h
        split at h
        · exact saidFalse_put_of_ne h (by simp)
        · exact saidFalse_put_of_ne h (by simp)
    · cases hs
  | cleaned call answer =>
    left
    simp only [State.step] at hs
    split at hs
    · cases hs
      exact saidFalse_put_of_ne h (by simp)
    · cases hs
  | quorumReleased call answer =>
    left
    simp only [State.step] at hs
    split at hs
    · cases hs
      unfold State.quorumReleased at h
      cases answer with
      | ok value => exact saidFalse_put_of_ne h (by simp)
      | error message => exact saidFalse_put_of_ne h (by simp)
    · cases hs

end Steps

section Runs

variable {held : Held} {es : List Input} {s t : State} {id : GrantId}

theorem single_opened : Single id (opened held) := by
  refine ⟨?_, ?_⟩
  · intro a b c d ha
    cases ha
  · rintro _ ⟨call, c, hc, _⟩
    cases hc

theorem single_of_runs (h : Runs (opened held) es s) : Single id s :=
  h.stateInvariant single_opened (fun hi hs => single_move hi (move_of_step hs id))

theorem disowned_of_runs (h : Runs s es t) (hs : ¬ s.Owns id) : ¬ t.Owns id :=
  h.stateInvariant (I := fun t => ¬ t.Owns id) hs
    (fun hi hstep => disowned_move hi (move_of_step hstep id))

/-- Along a run of unshared releases, `Ok(false)` means that the handle is gone. -/
theorem gone_of_runs (h : Runs (opened held) es s)
    (hall : ∀ pre input post u, es = pre ++ input :: post → Runs (opened held) pre u →
      Unshared id u input) : s.SaidFalse id → ¬ s.Owns id := by
  induction h with
  | nil =>
    rintro ⟨call, grant, hcall, _⟩
    cases hcall
  | @snoc es u input v hu hs ih =>
    have hbefore := ih (fun pre input' post w hes hw =>
      hall pre input' (post ++ [input]) w (by simp [hes]) hw)
    intro hsaid
    apply disowned_move _ (move_of_step hs id)
    obtain hsaid | ⟨call, grant, rfl, hcall, hid, hnone⟩ := saidFalse_of_step hs hsaid
    · exact hbefore hsaid
    · have hfree := hall es _ [] u rfl hu hcall hid
      rintro (hne | htaken)
      · exact hne hnone
      · exact hfree htaken

theorem runs_unique {u : State} (h : Runs s es t) (h' : Runs s es u) : t = u := by
  apply Exec.unique ?_ h h'
  intro a e b b' hb hb'
  exact Option.some.inj (hb.symm.trans hb')

/-- A release under another call's await answers false while the handle is owned. -/
theorem shared_release_owns (hsingle : Single id s) {call : Nat} {grant : LeaseGrant}
    (hs : s.step (.release call grant) = some t) (hcall : s.calls call = none)
    (hid : .fromGrant grant = id) (htaken : s.Taken id) : t.SaidFalse id ∧ t.Owns id := by
  have hnone : s.held id = none := by
    by_contra hne
    exact hsingle.apart hne htaken
  simp only [State.step, hcall] at hs
  cases hs
  subst hid
  simp only [State.release, hnone]
  refine ⟨⟨call, grant, State.put_self, rfl⟩, .inr ?_⟩
  obtain ⟨other, d, hd, htakes⟩ := htaken
  rw [State.taken_put]
  refine .inr ⟨other, d, ?_, hd, htakes⟩
  rintro rfl
  rw [hcall] at hd
  cases hd

/-- A run keeps the promise of `Ok(false)`, at every later point, exactly when no release
of the grant is called while a renewal or another release of it awaits the quorum. -/
theorem release_false_is_final_iff_unshared (h : Runs (opened held) es t) (id : GrantId) :
    (∀ pre mid post s u, es = pre ++ mid ++ post → Runs (opened held) pre s → Runs s mid u →
      s.SaidFalse id → ¬ u.Owns id) ↔
    (∀ pre input post s, es = pre ++ input :: post → Runs (opened held) pre s →
      Unshared id s input) := by
  constructor
  · intro hfinal pre input post s hes hs
    obtain ⟨u, v, hu, hstep, _⟩ := (hes ▸ h).split_at
    cases runs_unique hs hu
    cases input with
    | release call grant =>
      intro hcall hid htaken
      have hbad := shared_release_owns (single_of_runs hs) hstep hcall hid htaken
      exact hfinal (pre ++ [.release call grant]) [] post v v (by simp [hes]) (hs.snoc hstep) .nil
        hbad.1 hbad.2
    | renew call grant ttl => trivial
    | extended call answer now => trivial
    | cleaned call answer => trivial
    | quorumReleased call answer => trivial
  · intro hall pre mid post s u hes hs hu hsaid
    have hgone := gone_of_runs hs (fun pre' input post' w hpre hw =>
      hall pre' input (post' ++ mid ++ post) w (by simp [hes, hpre]) hw)
    exact disowned_of_runs hu (hgone hsaid)

end Runs

section Sample

def renewedGrant : LeaseGrant := ⟨⟨"orders", orders_admitted⟩, "worker", 7, some 9000, 1000⟩

def renewedHeld : Held := insert (fun _ => none) (.fromGrant renewedGrant) ⟨0, 9000⟩

/-- A release under a renewal. -/
def overlapped : List Input := [.renew 0 renewedGrant (10 ^ 9), .release 1 renewedGrant]

def overlappedEnd : State :=
  (((opened renewedHeld).renew 0 renewedGrant (10 ^ 9)).release 1 renewedGrant)

def restoredEnd : State :=
  overlappedEnd.extended 0 renewedGrant 1000 ⟨0, 9000⟩ (.ok 9500) 8500

/-- The release answers false, and the renewal then puts the handle back. -/
theorem release_false_before_handle_returns :
    ¬ ∀ (held : Held) (es mid : List Input) (s u : State) (id : GrantId),
      Runs (opened held) es s → Runs s mid u → s.SaidFalse id → ¬ u.Owns id := by
  intro h
  apply h renewedHeld overlapped [.extended 0 (.ok 9500) 8500] overlappedEnd restoredEnd
    (.fromGrant renewedGrant) (Exec.of_foldlM rfl) (Exec.of_foldlM rfl)
  · exact ⟨1, renewedGrant, rfl, rfl⟩
  · exact .inl (by decide)

theorem overlapped_release_false :
    Runs (opened renewedHeld) overlapped overlappedEnd ∧
    ((∀ pre mid post s u, overlapped = pre ++ mid ++ post → Runs (opened renewedHeld) pre s →
      Runs s mid u → s.SaidFalse (.fromGrant renewedGrant) →
        ¬ u.Owns (.fromGrant renewedGrant)) ↔
    (∀ pre input post s, overlapped = pre ++ input :: post → Runs (opened renewedHeld) pre s →
      Unshared (.fromGrant renewedGrant) s input)) := by
  have hrun : Runs (opened renewedHeld) overlapped overlappedEnd := Exec.of_foldlM rfl
  exact ⟨hrun, release_false_is_final_iff_unshared hrun (.fromGrant renewedGrant)⟩

end Sample

end OresLocks.Redlock
