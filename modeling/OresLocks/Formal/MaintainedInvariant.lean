import OresLocks.Formal.MaintainedModel

/-!
# The assertions of the maintained model hold in every reachable state

`Shape` says what a state looks like in its phase. Up to the commit only the flags of
the phases that are over are set; from a failure on, one failure is recorded for each
step that failed, and the last one of the cleanup is the primary one. Every transition
moves on to a later phase or uses up one renewal or one retry.
-/

namespace OresLocks.Formal.Maintained

set_option autoImplicit false

open Shared.Runs

/-- Nothing has failed, and the lease is held. -/
def held (s : State) (phase : Phase) : State :=
  { initialState with
    phase
    acquired := true
    authorityLive := true
    periodicRenewals := s.periodicRenewals
    contentionRetries := s.contentionRetries }

/-- What is settled before the release: the transaction is over, and one failure is
recorded unless it was committed. -/
structure Unreleased (o : Options) (s : State) : Prop where
  acquired : s.acquired = true
  releases : s.releaseAttempts = 0
  released : s.released = false
  result : s.result = none
  commit : s.committed = true →
    s.begun = true ∧ s.locked = true ∧ s.workCompleted = true ∧
      (o.requireFinalRenewal = true → s.finalRenewAttempted = true ∧ s.finalRenewed = true) ∧
      s.authorityLostBeforeCommit = false
  exclusive : ¬ (s.commitAttempted = true ∧ s.rollbackAttempted = true)
  rollback : s.rolledBack = true → s.rollbackAttempted = true
  authority : ¬ (s.authorityLost = true ∧ s.authorityLive = true)
  clean : s.primaryFailure = none ↔ s.committed = true
  retained : ∀ code, s.primaryFailure = some code → code ∈ s.failures
  cleanup : ∀ code, (s.failures.filter Failure.isCleanup).getLast? = some code →
    s.primaryFailure = some code

/-- The lease is held, nothing has failed and the commit has not been tried. -/
structure Going (s : State) : Prop where
  acquired : s.acquired = true
  committed : s.committed = false
  commitAttempted : s.commitAttempted = false
  rollbackAttempted : s.rollbackAttempted = false
  rolledBack : s.rolledBack = false
  releases : s.releaseAttempts = 0
  released : s.released = false
  result : s.result = none
  lost : s.authorityLost = false
  primary : s.primaryFailure = none
  failures : s.failures = []

/-- One failure has ended the transaction, which has not been rolled back yet. -/
structure Failed (s : State) (code : Failure) : Prop where
  acquired : s.acquired = true
  committed : s.committed = false
  commitAttempted : s.commitAttempted = false
  rollbackAttempted : s.rollbackAttempted = false
  rolledBack : s.rolledBack = false
  releases : s.releaseAttempts = 0
  released : s.released = false
  result : s.result = none
  authority : ¬ (s.authorityLost = true ∧ s.authorityLive = true)
  primary : s.primaryFailure = some code
  failures : s.failures = [code]
  first : code.isCleanup = false

def Shape (o : Options) (s : State) : Prop :=
  match s.phase with
  | .acquire => s = initialState
  | .begin => s = held s .begin
  | .lock => s = { held s .lock with begun := true }
  | .work => s = { held s .work with begun := true, locked := true }
  | .finalRenew => o.requireFinalRenewal = true ∧
      s = { held s .finalRenew with begun := true, locked := true, workCompleted := true }
  | .commit => s = { held s .commit with
      begun := true
      locked := true
      workCompleted := true
      finalRenewAttempted := o.requireFinalRenewal
      finalRenewed := o.requireFinalRenewal }
  | .rollback => ∃ code, Failed s code
  | .release => Unreleased o s
  | .done => Asserts o s ∧ s.result ≠ none

variable {o : Options} {s t : State} {e : Edge} {code : Failure}

/-- Between the acquisition and the commit the shape says that nothing has failed. -/
theorem Shape.going (h : Shape o s) (hphase : s.phase = .begin ∨ s.phase = .lock ∨
    s.phase = .work ∨ s.phase = .finalRenew ∨ s.phase = .commit) : Going s := by
  unfold Shape at h
  rcases hphase with hphase | hphase | hphase | hphase | hphase
  all_goals rw [hphase] at h
  case inr.inr.inr.inl =>
    rw [h.2]
    exact ⟨rfl, rfl, rfl, rfl, rfl, rfl, rfl, rfl, rfl, rfl, rfl⟩
  all_goals
    rw [h]
    exact ⟨rfl, rfl, rfl, rfl, rfl, rfl, rfl, rfl, rfl, rfl, rfl⟩

theorem Going.recordFailure (h : Going s) (hcode : code.isCleanup = false) :
    Failed (recordFailure s code false) code where
  acquired := h.acquired
  committed := h.committed
  commitAttempted := h.commitAttempted
  rollbackAttempted := h.rollbackAttempted
  rolledBack := h.rolledBack
  releases := h.releases
  released := h.released
  result := h.result
  authority hb := by
    have hlost : s.authorityLost = true := hb.1
    rw [h.lost] at hlost
    cases hlost
  primary := by simp [Maintained.recordFailure, h.primary]
  failures := by simp [Maintained.recordFailure, h.failures]
  first := hcode

theorem Going.loseAuthority (h : Going s) (hcode : code.isCleanup = false) :
    Failed (loseAuthority s code) code where
  acquired := h.acquired
  committed := h.committed
  commitAttempted := h.commitAttempted
  rollbackAttempted := h.rollbackAttempted
  rolledBack := h.rolledBack
  releases := h.releases
  released := h.released
  result := h.result
  authority hb := absurd hb.2 Bool.false_ne_true
  primary := by simp [Maintained.loseAuthority, Maintained.recordFailure, h.primary]
  failures := by simp [Maintained.loseAuthority, Maintained.recordFailure, h.failures]
  first := hcode

theorem Failed.inPhase (h : Failed s code) (phase : Phase) : Failed { s with phase } code :=
  ⟨h.acquired, h.committed, h.commitAttempted, h.rollbackAttempted, h.rolledBack, h.releases,
    h.released, h.result, h.authority, h.primary, h.failures, h.first⟩

theorem Going.inPhase (h : Going s) (phase : Phase) : Going { s with phase } :=
  ⟨h.acquired, h.committed, h.commitAttempted, h.rollbackAttempted, h.rolledBack, h.releases,
    h.released, h.result, h.lost, h.primary, h.failures⟩

/-- A failed transaction that has nothing to roll back. -/
theorem Failed.unreleased (h : Failed s code) : Unreleased o s where
  acquired := h.acquired
  releases := h.releases
  released := h.released
  result := h.result
  commit hc := by
    rw [h.committed] at hc
    cases hc
  exclusive hb := by
    rw [h.rollbackAttempted] at hb
    exact absurd hb.2 Bool.false_ne_true
  rollback hr := by
    rw [h.rolledBack] at hr
    cases hr
  authority := h.authority
  clean := by
    rw [h.primary, h.committed]
    simp
  retained first hfirst := by
    rw [h.primary] at hfirst
    cases hfirst
    rw [h.failures]
    exact List.mem_singleton.mpr rfl
  cleanup first hfirst := by
    rw [h.failures, List.filter_cons, h.first] at hfirst
    cases hfirst


/-- What the maintainer does in a phase: it fails, or one more renewal succeeds. -/
theorem periodic_cases {next : Phase} (h : (e, t) ∈ periodic o s next) :
    (∃ code, code.isCleanup = false ∧ t = { loseAuthority s code with phase := next }) ∨
      s.periodicRenewals < o.maxPeriodicRenewals ∧
        t = { s with periodicRenewals := s.periodicRenewals + 1 } := by
  unfold periodic at h
  rcases List.mem_append.mp h with hfailed | hrenewed
  · simp only [List.mem_cons, Prod.mk.injEq, List.not_mem_nil, or_false] at hfailed
    rcases hfailed with ⟨_, ht⟩ | ⟨_, ht⟩
    · exact Or.inl ⟨_, rfl, ht⟩
    · exact Or.inl ⟨_, rfl, ht⟩
  · split at hrenewed
    · rename_i hbound
      simp only [List.mem_cons, Prod.mk.injEq, List.not_mem_nil, or_false] at hrenewed
      exact Or.inr ⟨hbound, hrenewed.2⟩
    · cases hrenewed

/-- Renewals and retries only count. -/
theorem Shape.counted (h : Shape o s) (periodicRenewals contentionRetries : Nat)
    (hphase : s.phase = .begin ∨ s.phase = .lock ∨ s.phase = .work) :
    Shape o { s with periodicRenewals, contentionRetries } := by
  unfold Shape at h ⊢
  rcases hphase with hphase | hphase | hphase
  all_goals
    simp only [hphase] at h ⊢
    rw [h]
    rfl

theorem periodic_shape {next : Phase} (h : Shape o s)
    (hphase : s.phase = .begin ∨ s.phase = .lock ∨ s.phase = .work)
    (hnext : next = .release ∨ next = .rollback) (hstep : (e, t) ∈ periodic o s next) :
    Shape o t := by
  have hgoing : Going s := h.going (by tauto)
  rcases periodic_cases hstep with ⟨code, hcode, rfl⟩ | ⟨_, rfl⟩
  · have hfailed := (hgoing.loseAuthority hcode).inPhase next
    rcases hnext with rfl | rfl
    · exact hfailed.unreleased
    · exact ⟨code, hfailed⟩
  · exact h.counted (s.periodicRenewals + 1) s.contentionRetries hphase

theorem begin_shape (h : Shape o s) (hphase : s.phase = .begin) (hstep : Step o s e t) :
    Shape o t := by
  have hgoing : Going s := h.going (Or.inl hphase)
  unfold Step successors at hstep
  rw [hphase] at hstep
  rcases List.mem_append.mp hstep with hown | hperiodic
  · simp only [List.mem_cons, Prod.mk.injEq, List.not_mem_nil, or_false] at hown
    rcases hown with ⟨_, rfl⟩ | ⟨_, rfl⟩
    · unfold Shape at h ⊢
      simp only [hphase] at h ⊢
      rw [h]
      rfl
    · exact ((hgoing.inPhase .release).recordFailure rfl).unreleased
  · exact periodic_shape h (Or.inl hphase) (Or.inl rfl) hperiodic

theorem lock_shape (h : Shape o s) (hphase : s.phase = .lock) (hstep : Step o s e t) :
    Shape o t := by
  have hgoing : Going s := h.going (by tauto)
  unfold Step successors at hstep
  rw [hphase] at hstep
  rcases List.mem_append.mp hstep with hown | hperiodic
  · rcases List.mem_append.mp hown with hown | hretry
    · simp only [List.mem_cons, Prod.mk.injEq, List.not_mem_nil, or_false] at hown
      rcases hown with ⟨_, rfl⟩ | ⟨_, rfl⟩ | ⟨_, rfl⟩
      · unfold Shape at h ⊢
        simp only [hphase] at h ⊢
        rw [h]
        rfl
      · exact ⟨_, (hgoing.inPhase .rollback).recordFailure rfl⟩
      · exact ⟨_, (hgoing.inPhase .rollback).recordFailure rfl⟩
    · split at hretry
      · simp only [List.mem_cons, Prod.mk.injEq, List.not_mem_nil, or_false] at hretry
        rw [hretry.2]
        simpa only [hphase] using
          h.counted s.periodicRenewals (s.contentionRetries + 1) (Or.inr (Or.inl hphase))
      · cases hretry
  · exact periodic_shape h (by tauto) (Or.inr rfl) hperiodic

theorem work_shape (h : Shape o s) (hphase : s.phase = .work) (hstep : Step o s e t) :
    Shape o t := by
  have hgoing : Going s := h.going (by tauto)
  unfold Step successors at hstep
  rw [hphase] at hstep
  rcases List.mem_append.mp hstep with hown | hperiodic
  · simp only [List.mem_cons, Prod.mk.injEq, List.not_mem_nil, or_false] at hown
    rcases hown with ⟨_, rfl⟩ | ⟨_, rfl⟩
    · unfold Shape at h ⊢
      simp only [hphase] at h
      cases hrequired : o.requireFinalRenewal with
      | true =>
        simp only [if_true]
        rw [h]
        exact ⟨trivial, rfl⟩
      | false =>
        simp only [Bool.false_eq_true, if_false]
        rw [h]
        rfl
    · exact ⟨_, (hgoing.inPhase .rollback).recordFailure rfl⟩
  · exact periodic_shape h (by tauto) (Or.inr rfl) hperiodic

theorem finalRenew_shape (h : Shape o s) (hphase : s.phase = .finalRenew)
    (hstep : Step o s e t) : Shape o t := by
  have hgoing : Going s := h.going (by tauto)
  have hattempted : Going { s with finalRenewAttempted := true } :=
    ⟨hgoing.acquired, hgoing.committed, hgoing.commitAttempted, hgoing.rollbackAttempted,
      hgoing.rolledBack, hgoing.releases, hgoing.released, hgoing.result, hgoing.lost,
      hgoing.primary, hgoing.failures⟩
  unfold Step successors at hstep
  rw [hphase] at hstep
  simp only [List.mem_cons, Prod.mk.injEq, List.not_mem_nil, or_false] at hstep
  rcases hstep with ⟨_, rfl⟩ | ⟨_, rfl⟩ | ⟨_, rfl⟩
  · unfold Shape at h ⊢
    simp only [hphase] at h ⊢
    rw [h.2, h.1]
    rfl
  · rw [← hphase]
    exact ⟨_, (hattempted.loseAuthority rfl).inPhase .rollback⟩
  · rw [← hphase]
    exact ⟨_, (hattempted.loseAuthority rfl).inPhase .rollback⟩

theorem commit_shape (h : Shape o s) (hphase : s.phase = .commit) (hstep : Step o s e t) :
    Shape o t := by
  have hgoing : Going s := h.going (by tauto)
  have hflags : s.begun = true ∧ s.locked = true ∧ s.workCompleted = true ∧
      (o.requireFinalRenewal = true → s.finalRenewAttempted = true ∧ s.finalRenewed = true) ∧
      s.authorityLostBeforeCommit = false := by
    unfold Shape at h
    simp only [hphase] at h
    rw [h]
    exact ⟨rfl, rfl, rfl, fun hrequired => ⟨hrequired, hrequired⟩, rfl⟩
  unfold Step successors at hstep
  rw [hphase] at hstep
  simp only [List.mem_cons, Prod.mk.injEq, List.not_mem_nil, or_false] at hstep
  rcases hstep with ⟨_, rfl⟩ | ⟨_, rfl⟩
  · refine ⟨hgoing.acquired, hgoing.releases, hgoing.released, hgoing.result, fun _ => hflags,
      ?_, ?_, ?_, ?_, ?_, ?_⟩
    · intro hb
      exact absurd hb.2 (by simp [hgoing.rollbackAttempted])
    · intro hr
      exact absurd hr (by simp [hgoing.rolledBack])
    · intro hb
      exact absurd hb.1 (by simp [hgoing.lost])
    · simp [hgoing.primary]
    · intro code hcode
      exact absurd hcode (by simp [hgoing.primary])
    · intro code hcode
      exact absurd hcode (by simp [hgoing.failures])
  · refine ⟨hgoing.acquired, hgoing.releases, hgoing.released, hgoing.result, ?_, ?_, ?_, ?_, ?_,
      ?_, ?_⟩
    · intro hc
      exact absurd hc (by simp [recordFailure, hgoing.committed])
    · intro hb
      exact absurd hb.2 (by simp [recordFailure, hgoing.rollbackAttempted])
    · intro hr
      exact absurd hr (by simp [recordFailure, hgoing.rolledBack])
    · intro hb
      exact absurd hb.1 (by simp [recordFailure, hgoing.lost])
    · simp [recordFailure, hgoing.primary, hgoing.committed]
    · intro code hcode
      simp only [recordFailure, hgoing.primary, hgoing.failures] at hcode ⊢
      simpa using hcode.symm
    · intro code hcode
      exact absurd hcode (by simp [recordFailure, hgoing.failures, Failure.isCleanup])

theorem rollback_shape (h : Shape o s) (hphase : s.phase = .rollback) (hstep : Step o s e t) :
    Shape o t := by
  obtain ⟨first, hfailed⟩ : ∃ code, Failed s code := by
    unfold Shape at h
    simpa only [hphase] using h
  unfold Step successors at hstep
  rw [hphase] at hstep
  simp only [List.mem_cons, Prod.mk.injEq, List.not_mem_nil, or_false] at hstep
  have hopen : Unreleased o s := hfailed.unreleased
  have huncommitted : s.committed ≠ true := by simp [hfailed.committed]
  have hunattempted : s.commitAttempted ≠ true := by simp [hfailed.commitAttempted]
  rcases hstep with ⟨_, rfl⟩ | ⟨_, rfl⟩
  · exact ⟨hfailed.acquired, hfailed.releases, hfailed.released, hfailed.result,
      fun hc => absurd hc huncommitted, fun hb => absurd hb.1 hunattempted, fun _ => rfl,
      hfailed.authority, hopen.clean, hopen.retained, hopen.cleanup⟩
  · refine ⟨hfailed.acquired, hfailed.releases, hfailed.released, hfailed.result,
      fun hc => absurd hc huncommitted, fun hb => absurd hb.1 hunattempted, fun _ => rfl,
      hfailed.authority, ?_, ?_, ?_⟩
    · simp [recordFailure, hfailed.committed]
    · intro code hcode
      simp only [recordFailure, Bool.true_or, if_true, Option.some.injEq] at hcode ⊢
      subst hcode
      simp
    · intro code hcode
      simp only [recordFailure, hfailed.failures, List.filter_append, List.filter_cons,
        Failure.isCleanup] at hcode
      simpa [recordFailure] using hcode

/-- Whatever the release answers, the run is over and the assertions hold. -/
theorem release_shape (h : Shape o s) (hphase : s.phase = .release) (hstep : Step o s e t) :
    Shape o t := by
  have hopen : Unreleased o s := by
    unfold Shape at h
    simpa only [hphase] using h
  have hcommit : s.committed = true → s.acquired = true ∧ s.begun = true ∧ s.locked = true ∧
      s.workCompleted = true ∧
      (o.requireFinalRenewal = true → s.finalRenewAttempted = true ∧ s.finalRenewed = true) ∧
      s.authorityLostBeforeCommit = false := fun hc => ⟨hopen.acquired, hopen.commit hc⟩
  have hone : s.releaseAttempts + 1 = 1 := by rw [hopen.releases]
  have hunacquired : s.acquired ≠ false := by simp [hopen.acquired]
  have hfailure (code : Failure) (hcode : code.isCleanup = true) :
      (∀ c, (if true || s.primaryFailure.isNone then some code else s.primaryFailure) = some c →
        c ∈ s.failures ++ [code]) ∧
      ∀ c, ((s.failures ++ [code]).filter Failure.isCleanup).getLast? = some c →
        (if true || s.primaryFailure.isNone then some code else s.primaryFailure) = some c := by
    refine ⟨fun c hc => ?_, fun c hc => ?_⟩
    · simp only [Bool.true_or, if_true, Option.some.injEq] at hc
      subst hc
      simp
    · simpa [List.filter_append, hcode] using hc
  unfold Step successors at hstep
  rw [hphase] at hstep
  simp only [List.mem_cons, Prod.mk.injEq, List.not_mem_nil, or_false] at hstep
  rcases hstep with ⟨_, rfl⟩ | ⟨_, rfl⟩ | ⟨_, rfl⟩
  · refine ⟨⟨hcommit, hopen.exclusive, hopen.rollback, Nat.le_of_eq hone, fun hu => absurd hu hunacquired,
      fun _ _ => hone, ?_, fun hb => absurd hb.2 Bool.false_ne_true, hopen.retained,
      hopen.cleanup⟩, ?_⟩
    · intro hresult
      cases hcommitted : s.committed with
      | true => exact ⟨rfl, rfl, hopen.clean.mpr hcommitted⟩
      | false => exact absurd hresult (by simp [hcommitted])
    · dsimp only
      split
      · exact Option.some_ne_none _
      · exact Option.some_ne_none _
  · obtain ⟨hretained, hcleanup⟩ := hfailure .releaseMismatch rfl
    exact ⟨⟨hcommit, hopen.exclusive, hopen.rollback, Nat.le_of_eq hone, fun hu => absurd hu hunacquired,
      fun _ _ => hone, fun hresult => absurd hresult (by simp [recordFailure]),
      fun hb => absurd hb.2 Bool.false_ne_true, hretained, hcleanup⟩, Option.some_ne_none _⟩
  · obtain ⟨hretained, hcleanup⟩ := hfailure .releaseFailed rfl
    exact ⟨⟨hcommit, hopen.exclusive, hopen.rollback, Nat.le_of_eq hone, fun hu => absurd hu hunacquired,
      fun _ _ => hone, fun hresult => absurd hresult (by simp [recordFailure]),
      fun hb => absurd hb.2 Bool.false_ne_true, hretained, hcleanup⟩, Option.some_ne_none _⟩

theorem acquire_shape (h : Shape o s) (hphase : s.phase = .acquire) (hstep : Step o s e t) :
    Shape o t := by
  have hs : s = initialState := by
    unfold Shape at h
    simpa only [hphase] using h
  subst hs
  unfold Step successors at hstep
  simp only [initialState, List.mem_cons, Prod.mk.injEq, List.not_mem_nil, or_false] at hstep
  rcases hstep with ⟨_, rfl⟩ | ⟨_, rfl⟩
  · rfl
  · refine ⟨⟨?_, ?_, ?_, ?_, ?_, ?_, ?_, ?_, ?_, ?_⟩, Option.some_ne_none _⟩
    all_goals simp [recordFailure, Failure.isCleanup]

theorem shape_step (h : Shape o s) (hstep : Step o s e t) : Shape o t := by
  cases hphase : s.phase with
  | acquire => exact acquire_shape h hphase hstep
  | begin => exact begin_shape h hphase hstep
  | lock => exact lock_shape h hphase hstep
  | work => exact work_shape h hphase hstep
  | finalRenew => exact finalRenew_shape h hphase hstep
  | commit => exact commit_shape h hphase hstep
  | rollback => exact rollback_shape h hphase hstep
  | release => exact release_shape h hphase hstep
  | done =>
    unfold Step successors at hstep
    rw [hphase] at hstep
    cases hstep

theorem shape_run {es : List Edge} (h : Exec (Step o) initialState es s) : Shape o s := by
  have hstart : Shape o initialState := by
    change initialState = initialState
    rfl
  exact h.stateInvariant hstart fun hshape hstep => shape_step hshape hstep

theorem Going.asserts (h : Going s) (hphase : s.phase ≠ .done) : Asserts o s where
  commit hc := by
    rw [h.committed] at hc
    cases hc
  exclusive hb := by
    rw [h.commitAttempted] at hb
    exact absurd hb.1 Bool.false_ne_true
  rollback hr := by
    rw [h.rolledBack] at hr
    cases hr
  releases := by
    rw [h.releases]
    exact Nat.zero_le 1
  unacquired _ := h.releases
  terminal hd := absurd hd hphase
  success hs := by
    rw [h.result] at hs
    cases hs
  authority hb := by
    rw [h.lost] at hb
    exact absurd hb.1 Bool.false_ne_true
  retained code hcode := by
    rw [h.primary] at hcode
    cases hcode
  cleanup code hcode := by
    rw [h.failures] at hcode
    cases hcode

theorem Unreleased.asserts (h : Unreleased o s) (hphase : s.phase ≠ .done) : Asserts o s where
  commit hc := ⟨h.acquired, h.commit hc⟩
  exclusive := h.exclusive
  rollback := h.rollback
  releases := by
    rw [h.releases]
    exact Nat.zero_le 1
  unacquired _ := h.releases
  terminal hd := absurd hd hphase
  success hs := by
    rw [h.result] at hs
    cases hs
  authority := h.authority
  retained := h.retained
  cleanup := h.cleanup

theorem Shape.asserts (h : Shape o s) : Asserts o s := by
  cases hphase : s.phase with
  | acquire =>
    have hs : s = initialState := by
      unfold Shape at h
      simpa only [hphase] using h
    subst hs
    refine ⟨?_, ?_, ?_, ?_, ?_, ?_, ?_, ?_, ?_, ?_⟩
    all_goals simp [initialState]
  | rollback =>
    obtain ⟨code, hfailed⟩ : ∃ code, Failed s code := by
      unfold Shape at h
      simpa only [hphase] using h
    exact hfailed.unreleased.asserts (by simp [hphase])
  | release =>
    have hopen : Unreleased o s := by
      unfold Shape at h
      simpa only [hphase] using h
    exact hopen.asserts (by simp [hphase])
  | done =>
    unfold Shape at h
    rw [hphase] at h
    exact h.1
  | _ => exact (h.going (by simp [hphase])).asserts (by simp [hphase])

/-- How far a phase is from the end. -/
def Phase.rank : Phase → Nat
  | .acquire => 7
  | .begin => 6
  | .lock => 5
  | .work => 4
  | .finalRenew => 3
  | .commit => 2
  | .rollback => 2
  | .release => 1
  | .done => 0

/-- The steps that are left at most. -/
def remaining (o : Options) (s : State) : Nat :=
  s.phase.rank + (o.maxPeriodicRenewals - s.periodicRenewals) +
    (o.maxContentionRetries - s.contentionRetries)

theorem remaining_of_rank {phase : Phase} (hphase : s.phase = phase) (next : Phase)
    (hnext : t.phase = next) (hrank : next.rank < phase.rank)
    (hperiodic : t.periodicRenewals = s.periodicRenewals)
    (hretries : t.contentionRetries = s.contentionRetries) : remaining o t < remaining o s := by
  unfold remaining
  rw [hphase, hnext, hperiodic, hretries]
  omega

theorem periodic_remaining {next : Phase} (hnext : next.rank < s.phase.rank)
    (hstep : (e, t) ∈ periodic o s next) : remaining o t < remaining o s := by
  rcases periodic_cases hstep with ⟨code, _, rfl⟩ | ⟨hbound, rfl⟩
  · exact remaining_of_rank rfl next rfl hnext rfl rfl
  · unfold remaining
    dsimp only
    omega

theorem step_remaining (hstep : Step o s e t) : remaining o t < remaining o s := by
  unfold Step successors at hstep
  cases hphase : s.phase with
  | acquire =>
    rw [hphase] at hstep
    simp only [List.mem_cons, Prod.mk.injEq, List.not_mem_nil, or_false] at hstep
    rcases hstep with ⟨_, rfl⟩ | ⟨_, rfl⟩
    · exact remaining_of_rank hphase .begin rfl (by decide) rfl rfl
    · exact remaining_of_rank hphase .done rfl (by decide) rfl rfl
  | begin =>
    rw [hphase] at hstep
    rcases List.mem_append.mp hstep with hown | hperiodic
    · simp only [List.mem_cons, Prod.mk.injEq, List.not_mem_nil, or_false] at hown
      rcases hown with ⟨_, rfl⟩ | ⟨_, rfl⟩
      · exact remaining_of_rank hphase .lock rfl (by decide) rfl rfl
      · exact remaining_of_rank hphase .release rfl (by decide) rfl rfl
    · exact periodic_remaining (by rw [hphase]; decide) hperiodic
  | lock =>
    rw [hphase] at hstep
    rcases List.mem_append.mp hstep with hown | hperiodic
    · rcases List.mem_append.mp hown with hown | hretry
      · simp only [List.mem_cons, Prod.mk.injEq, List.not_mem_nil, or_false] at hown
        rcases hown with ⟨_, rfl⟩ | ⟨_, rfl⟩ | ⟨_, rfl⟩
        · exact remaining_of_rank hphase .work rfl (by decide) rfl rfl
        · exact remaining_of_rank hphase .rollback rfl (by decide) rfl rfl
        · exact remaining_of_rank hphase .rollback rfl (by decide) rfl rfl
      · split at hretry
        · simp only [List.mem_cons, Prod.mk.injEq, List.not_mem_nil, or_false] at hretry
          rw [hretry.2]
          unfold remaining
          rw [hphase]
          dsimp only
          omega
        · cases hretry
    · exact periodic_remaining (by rw [hphase]; decide) hperiodic
  | work =>
    rw [hphase] at hstep
    rcases List.mem_append.mp hstep with hown | hperiodic
    · simp only [List.mem_cons, Prod.mk.injEq, List.not_mem_nil, or_false] at hown
      rcases hown with ⟨_, rfl⟩ | ⟨_, rfl⟩
      · cases hrequired : o.requireFinalRenewal with
        | true => exact remaining_of_rank hphase .finalRenew rfl (by decide) rfl rfl
        | false => exact remaining_of_rank hphase .commit rfl (by decide) rfl rfl
      · exact remaining_of_rank hphase .rollback rfl (by decide) rfl rfl
    · exact periodic_remaining (by rw [hphase]; decide) hperiodic
  | finalRenew =>
    rw [hphase] at hstep
    simp only [List.mem_cons, Prod.mk.injEq, List.not_mem_nil, or_false] at hstep
    rcases hstep with ⟨_, rfl⟩ | ⟨_, rfl⟩ | ⟨_, rfl⟩
    · exact remaining_of_rank hphase .commit rfl (by decide) rfl rfl
    · exact remaining_of_rank hphase .rollback rfl (by decide) rfl rfl
    · exact remaining_of_rank hphase .rollback rfl (by decide) rfl rfl
  | release =>
    rw [hphase] at hstep
    simp only [List.mem_cons, Prod.mk.injEq, List.not_mem_nil, or_false] at hstep
    rcases hstep with ⟨_, rfl⟩ | ⟨_, rfl⟩ | ⟨_, rfl⟩
    · exact remaining_of_rank hphase .done rfl (by decide) rfl rfl
    · exact remaining_of_rank hphase .done rfl (by decide) rfl rfl
    · exact remaining_of_rank hphase .done rfl (by decide) rfl rfl
  | done =>
    rw [hphase] at hstep
    cases hstep
  | _ =>
    rw [hphase] at hstep
    simp only [List.mem_cons, Prod.mk.injEq, List.not_mem_nil, or_false] at hstep
    rcases hstep with ⟨_, rfl⟩ | ⟨_, rfl⟩
    · exact remaining_of_rank hphase .release rfl (by decide) rfl rfl
    · exact remaining_of_rank hphase .release rfl (by decide) rfl rfl

/-- Only a finished state has no transition. -/
theorem successors_nil_iff : successors o s = [] ↔ s.phase = .done := by
  constructor
  · intro h
    cases hphase : s.phase with
    | done => rfl
    | _ =>
      unfold successors at h
      rw [hphase] at h
      simp at h
  · intro hphase
    unfold successors
    rw [hphase]

theorem run_bounded {es : List Edge} (h : Exec (Step o) s es t) :
    es.length + remaining o t ≤ remaining o s := by
  induction h with
  | nil => simp
  | snoc _ hstep ih =>
    have hless := step_remaining hstep
    rw [List.length_append, List.length_singleton]
    omega

theorem Shape.result_iff (h : Shape o s) : s.phase = .done ↔ s.result ≠ none := by
  cases hphase : s.phase with
  | acquire =>
    unfold Shape at h
    rw [hphase] at h
    simp [h, initialState]
  | rollback =>
    unfold Shape at h
    rw [hphase] at h
    obtain ⟨code, hfailed⟩ := h
    simp [hfailed.result]
  | release =>
    unfold Shape at h
    rw [hphase] at h
    simp [h.result]
  | done =>
    unfold Shape at h
    rw [hphase] at h
    simpa using h.2
  | _ => simp [(h.going (by simp [hphase])).result]

/-- In the model with any bounds, with or without the final renewal: every reachable state
passes `assertState`, every run ends, and it can only end in a finished state with a
result. -/
theorem maintained_model_holds (o : Options) (es : List Edge) (s : State)
    (h : Exec (Step o) initialState es s) :
    Asserts o s ∧ es.length ≤ 7 + o.maxPeriodicRenewals + o.maxContentionRetries ∧
      (successors o s = [] ↔ s.phase = .done) ∧ (s.phase = .done ↔ s.result ≠ none) := by
  have hshape := shape_run h
  have hbound := run_bounded h
  have hstart : remaining o initialState =
      7 + o.maxPeriodicRenewals + o.maxContentionRetries := rfl
  exact ⟨hshape.asserts, by omega, successors_nil_iff, hshape.result_iff⟩

/-- The state that the transition of a name leads to. -/
def follow (o : Options) (s : State) (e : Edge) : Option State := (successors o s).lookup e

theorem follow_step (h : follow o s e = some t) : Step o s e t := by
  obtain ⟨before, after, hsplit, _⟩ := List.lookup_eq_some_iff.mp h
  unfold Step
  rw [hsplit]
  simp

theorem exec_of_follow {es : List Edge} (h : es.foldlM (follow o) s = some t) :
    Exec (Step o) s es t := (Exec.of_foldlM h).project id follow_step

/-- The options that `explore` uses for the production model. -/
def production : Options := ⟨true, 2, 2⟩

def successfulPath : List Edge :=
  [.acquireSuccess, .periodicRenewSuccess, .beginSuccess, .lockContentionRetry, .lockSuccess,
    .periodicRenewSuccess, .workSuccess, .finalRenewSuccess, .commitSuccess, .releaseSuccess]

theorem successful_path_holds :
    ∃ s, Exec (Step production) initialState successfulPath s ∧ s.result = some .success ∧
      Asserts production s := by
  have hrun : ∃ s, successfulPath.foldlM (follow production) initialState = some s ∧
      s.result = some .success := ⟨_, rfl, rfl⟩
  obtain ⟨s, hrun, hresult⟩ := hrun
  have hexec := exec_of_follow hrun
  exact ⟨s, hexec, hresult, (maintained_model_holds production successfulPath s hexec).1⟩

end OresLocks.Formal.Maintained
