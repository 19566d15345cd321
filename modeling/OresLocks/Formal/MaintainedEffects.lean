import OresLocks.Formal.MaintainedInvariant
import OresLocks.Shared.Simulation

/-!
# What a maintained transaction does to the database and the authority

An `Effect` is an answer that changes what the database or the lease authority holds, or
that admits the commit; contention is none. The answers to the renewals of the maintainer
are observed beside them. The lemmas below say how the model moves on from each phase.

A package's routine looks at its maintainer when its own call has returned, and the model
ends a phase with the renewal that fails. So a model `Trailing` a package owes a failed
renewal until the package looks.
-/

namespace OresLocks.Formal.Maintained

set_option autoImplicit false

open Shared.Runs

inductive ReleaseAnswer where
  | released
  | mismatch
  | failed
  deriving DecidableEq

inductive Effect where
  | began
  | locked
  | renewed (ok : Bool)
  | committed (ok : Bool)
  | rolledBack (ok : Bool)
  | released (answer : ReleaseAnswer)
  deriving DecidableEq

def Edge.effects : Edge → List Effect
  | .beginSuccess => [.began]
  | .lockSuccess => [.locked]
  | .finalRenewSuccess => [.renewed true]
  | .finalRenewFailure => [.renewed false]
  | .finalTokenDrift => [.renewed false]
  | .commitSuccess => [.committed true]
  | .commitFailure => [.committed false]
  | .rollbackSuccess => [.rolledBack true]
  | .rollbackFailure => [.rolledBack false]
  | .releaseSuccess => [.released .released]
  | .releaseMismatch => [.released .mismatch]
  | .releaseFailure => [.released .failed]
  | _ => []

/-- The answer to a renewal of the maintainer. -/
def Edge.renewals : Edge → List Bool
  | .periodicRenewSuccess => [true]
  | .periodicRenewFailure => [false]
  | .periodicTokenDrift => [false]
  | _ => []

/-- The phases in which the maintainer renews. -/
def Phase.renews : Phase → Bool
  | .begin => true
  | .lock => true
  | .work => true
  | _ => false

theorem Phase.renews_iff {phase : Phase} :
    phase.renews = true ↔ phase = .begin ∨ phase = .lock ∨ phase = .work := by
  cases phase <;> simp [Phase.renews]

section Advances

variable {o : Options} {m : State}

theorem recordFailure_primary (m : State) (code : Failure) (cleanup : Bool) :
    (recordFailure m code cleanup).primaryFailure ≠ none := by
  unfold recordFailure
  dsimp only
  split
  · exact Option.some_ne_none code
  · rename_i h
    intro hnone
    rw [hnone] at h
    simp at h

/-- A step fails before the transaction has begun. -/
theorem begin_fails (h : m.phase = .begin) :
    ∃ t, Step o m .beginFailure t ∧ t.phase = .release ∧ t.primaryFailure ≠ none := by
  refine ⟨recordFailure { m with phase := .release } .beginFailed false, ?_, rfl,
    recordFailure_primary _ _ _⟩
  unfold Step successors
  rw [h]
  simp

theorem begin_loses (h : m.phase = .begin) :
    ∃ t, Step o m .periodicRenewFailure t ∧ t.phase = .release ∧ t.primaryFailure ≠ none := by
  refine ⟨{ loseAuthority m .periodicRenewFailed with phase := .release }, ?_, rfl,
    recordFailure_primary _ _ _⟩
  unfold Step successors
  rw [h]
  simp [periodic]

theorem renews_on (h : m.phase.renews = true) (hbound : m.periodicRenewals < o.maxPeriodicRenewals) :
    Step o m .periodicRenewSuccess { m with periodicRenewals := m.periodicRenewals + 1 } := by
  unfold Step successors periodic
  rcases Phase.renews_iff.mp h with h | h | h
  · rw [h, if_pos hbound]
    simp
  · rw [h, if_pos hbound]
    simp
  · rw [h, if_pos hbound]
    simp

theorem begin_succeeds (h : m.phase = .begin) : ∃ t, Step o m .beginSuccess t ∧ t.phase = .lock := by
  refine ⟨{ m with phase := .lock, begun := true }, ?_, rfl⟩
  unfold Step successors
  rw [h]
  simp

/-- The maintainer loses the lease in an open transaction. -/
theorem open_loses (h : m.phase = .lock ∨ m.phase = .work) :
    ∃ t, Step o m .periodicRenewFailure t ∧ t.phase = .rollback := by
  refine ⟨{ loseAuthority m .periodicRenewFailed with phase := .rollback }, ?_, rfl⟩
  unfold Step successors
  rcases h with h | h
  · rw [h]
    simp [periodic]
  · rw [h]
    simp [periodic]

theorem lock_fails (h : m.phase = .lock) :
    ∃ t, Step o m .lockTimeout t ∧ t.phase = .rollback := by
  refine ⟨recordFailure { m with phase := .rollback } .lockTimeout false, ?_, rfl⟩
  unfold Step successors
  rw [h]
  simp

theorem lock_succeeds (h : m.phase = .lock) : ∃ t, Step o m .lockSuccess t ∧ t.phase = .work := by
  refine ⟨{ m with phase := .work, locked := true }, ?_, rfl⟩
  unfold Step successors
  rw [h]
  simp

theorem work_fails (h : m.phase = .work) :
    ∃ t, Step o m .workFailure t ∧ t.phase = .rollback := by
  refine ⟨recordFailure { m with phase := .rollback } .workFailed false, ?_, rfl⟩
  unfold Step successors
  rw [h]
  simp

theorem work_succeeds (hrequired : o.requireFinalRenewal = true) (h : m.phase = .work) :
    ∃ t, Step o m .workSuccess t ∧ t.phase = .finalRenew := by
  refine ⟨{ m with
      phase := if o.requireFinalRenewal then .finalRenew else .commit
      workCompleted := true }, ?_, ?_⟩
  · unfold Step successors
    rw [h]
    simp
  · simp [hrequired]

theorem finalRenew_succeeds (h : m.phase = .finalRenew) :
    ∃ t, Step o m .finalRenewSuccess t ∧ t.phase = .commit := by
  refine ⟨{ m with phase := .commit, finalRenewAttempted := true, finalRenewed := true }, ?_, rfl⟩
  unfold Step successors
  rw [h]
  simp

theorem finalRenew_fails (h : m.phase = .finalRenew) :
    ∃ t, Step o m .finalRenewFailure t ∧ t.phase = .rollback := by
  refine ⟨{ loseAuthority { m with finalRenewAttempted := true } .finalRenewFailed with
    phase := .rollback }, ?_, rfl⟩
  unfold Step successors
  rw [h]
  simp

theorem commit_succeeds (hshape : Shape o m) (h : m.phase = .commit) :
    ∃ t, Step o m .commitSuccess t ∧ t.phase = .release ∧ t.primaryFailure = none := by
  refine ⟨{ m with phase := .release, commitAttempted := true, committed := true }, ?_, rfl,
    (hshape.going (by simp [h])).primary⟩
  unfold Step successors
  rw [h]
  simp

theorem commit_fails (h : m.phase = .commit) :
    ∃ t, Step o m .commitFailure t ∧ t.phase = .release ∧ t.primaryFailure ≠ none := by
  refine ⟨recordFailure { m with phase := .release, commitAttempted := true } .commitFailed false,
    ?_, rfl, recordFailure_primary _ _ _⟩
  unfold Step successors
  rw [h]
  simp

theorem rollback_succeeds (hshape : Shape o m) (h : m.phase = .rollback) :
    ∃ t, Step o m .rollbackSuccess t ∧ t.phase = .release ∧ t.primaryFailure ≠ none := by
  obtain ⟨code, hfailed⟩ : ∃ code, Failed m code := by
    unfold Shape at hshape
    simpa only [h] using hshape
  refine ⟨{ m with phase := .release, rollbackAttempted := true, rolledBack := true }, ?_, rfl, ?_⟩
  · unfold Step successors
    rw [h]
    simp
  · dsimp only
    rw [hfailed.primary]
    exact Option.some_ne_none code

theorem rollback_fails (h : m.phase = .rollback) :
    ∃ t, Step o m .rollbackFailure t ∧ t.phase = .release ∧ t.primaryFailure ≠ none := by
  refine ⟨recordFailure { m with phase := .release, rollbackAttempted := true } .rollbackFailed true,
    ?_, rfl, recordFailure_primary _ _ _⟩
  unfold Step successors
  rw [h]
  simp

/-- A run ends as a success exactly when the release finds its grant and nothing has failed. -/
theorem release_ends (hshape : Shape o m) (h : m.phase = .release) (answer : ReleaseAnswer) :
    ∃ e t, Step o m e t ∧ e.effects = [.released answer] ∧ e.renewals = [] ∧ t.phase = .done ∧
      (t.result = some .success ↔ answer = .released ∧ m.primaryFailure = none) := by
  have hopen : Unreleased o m := by
    unfold Shape at hshape
    simpa only [h] using hshape
  cases answer with
  | released =>
    refine ⟨.releaseSuccess, { m with
        phase := .done
        releaseAttempts := m.releaseAttempts + 1
        released := true
        authorityLive := false
        result := if m.primaryFailure.isNone && m.committed then some .success else some .error },
      ?_, rfl, rfl, rfl, ?_⟩
    · unfold Step successors
      rw [h]
      simp
    · dsimp only
      cases hcommitted : m.committed with
      | true => simp [hopen.clean.mpr hcommitted]
      | false =>
        have hprimary : m.primaryFailure ≠ none := by
          intro hnone
          have hcommitted' := hopen.clean.mp hnone
          rw [hcommitted] at hcommitted'
          cases hcommitted'
        simp [hprimary]
  | mismatch =>
    refine ⟨.releaseMismatch, recordFailure { m with
        phase := .done
        releaseAttempts := m.releaseAttempts + 1
        authorityLive := false
        authorityLost := true
        result := some .error } .releaseMismatch true, ?_, rfl, rfl, rfl, ?_⟩
    · unfold Step successors
      rw [h]
      simp
    · simp [recordFailure]
  | failed =>
    refine ⟨.releaseFailure, recordFailure { m with
        phase := .done
        releaseAttempts := m.releaseAttempts + 1
        authorityLive := false
        result := some .error } .releaseFailed true, ?_, rfl, rfl, rfl, ?_⟩
    · unfold Step successors
      rw [h]
      simp
    · simp [recordFailure]

end Advances

section Counting

variable {o : Options} {m t : State} {e : Edge}

theorem periodic_count {next : Phase} (h : (e, t) ∈ periodic o m next) :
    t.periodicRenewals = m.periodicRenewals + e.renewals.count true := by
  unfold periodic at h
  rcases List.mem_append.mp h with hfailed | hrenewed
  · simp only [List.mem_cons, Prod.mk.injEq, List.not_mem_nil, or_false] at hfailed
    rcases hfailed with ⟨rfl, rfl⟩ | ⟨rfl, rfl⟩
    · rfl
    · rfl
  · split at hrenewed
    · simp only [List.mem_cons, Prod.mk.injEq, List.not_mem_nil, or_false] at hrenewed
      obtain ⟨rfl, rfl⟩ := hrenewed
      rfl
    · cases hrenewed

/-- The model counts the renewals that succeed. -/
theorem step_count (h : Step o m e t) :
    t.periodicRenewals = m.periodicRenewals + e.renewals.count true := by
  unfold Step successors at h
  split at h
  · simp only [List.mem_cons, Prod.mk.injEq, List.not_mem_nil, or_false] at h
    rcases h with ⟨rfl, rfl⟩ | ⟨rfl, rfl⟩ <;> rfl
  · rcases List.mem_append.mp h with h | h
    · simp only [List.mem_cons, Prod.mk.injEq, List.not_mem_nil, or_false] at h
      rcases h with ⟨rfl, rfl⟩ | ⟨rfl, rfl⟩ <;> rfl
    · exact periodic_count h
  · rcases List.mem_append.mp h with h | h
    · rcases List.mem_append.mp h with h | h
      · simp only [List.mem_cons, Prod.mk.injEq, List.not_mem_nil, or_false] at h
        rcases h with ⟨rfl, rfl⟩ | ⟨rfl, rfl⟩ | ⟨rfl, rfl⟩ <;> rfl
      · split at h
        · simp only [List.mem_cons, Prod.mk.injEq, List.not_mem_nil, or_false] at h
          obtain ⟨rfl, rfl⟩ := h
          rfl
        · cases h
    · exact periodic_count h
  · rcases List.mem_append.mp h with h | h
    · simp only [List.mem_cons, Prod.mk.injEq, List.not_mem_nil, or_false] at h
      rcases h with ⟨rfl, rfl⟩ | ⟨rfl, rfl⟩ <;> rfl
    · exact periodic_count h
  · simp only [List.mem_cons, Prod.mk.injEq, List.not_mem_nil, or_false] at h
    rcases h with ⟨rfl, rfl⟩ | ⟨rfl, rfl⟩ | ⟨rfl, rfl⟩ <;> rfl
  · simp only [List.mem_cons, Prod.mk.injEq, List.not_mem_nil, or_false] at h
    rcases h with ⟨rfl, rfl⟩ | ⟨rfl, rfl⟩ <;> rfl
  · simp only [List.mem_cons, Prod.mk.injEq, List.not_mem_nil, or_false] at h
    rcases h with ⟨rfl, rfl⟩ | ⟨rfl, rfl⟩ <;> rfl
  · simp only [List.mem_cons, Prod.mk.injEq, List.not_mem_nil, or_false] at h
    rcases h with ⟨rfl, rfl⟩ | ⟨rfl, rfl⟩ | ⟨rfl, rfl⟩ <;> rfl
  · cases h

theorem run_count {s : State} {es : List Edge} (h : Exec (Step o) s es t) :
    t.periodicRenewals = s.periodicRenewals + (observed Edge.renewals es).count true := by
  induction h with
  | nil => rfl
  | snoc _ hstep ih =>
    rw [step_count hstep, ih, observed_append, observed_singleton, List.count_append, Nat.add_assoc]

end Counting

section Trailing

variable {o : Options} {m t : State} {e : Edge} {effects : List Effect} {renewals : List Bool}
  {lost : Bool}

/-- The state in which a call holds its grant. -/
def granted : State :=
  { initialState with phase := .begin, acquired := true, authorityLive := true }

theorem acquires (o : Options) : Step o initialState .acquireSuccess granted := by
  simp [Step, successors, initialState, granted]

theorem acquire_fails (o : Options) :
    Step o initialState .acquireFailure
      (recordFailure { initialState with phase := .done, result := some .error } .acquireFailed
        false) := by
  simp [Step, successors, initialState]

/-- A failed renewal that the package has not looked at. -/
def owed (phase : Phase) (lost : Bool) : List Bool := if phase.renews && lost then [false] else []

/-- The model has shown the effects of the package, and its renewals but for a lost one. -/
def Trailing (o : Options) (effects : List Effect) (renewals : List Bool) (lost : Bool)
    (m : State) : Prop :=
  Trails (Step o) Edge.effects Edge.renewals granted effects renewals (owed m.phase lost) m

namespace Trailing

theorem start (o : Options) : Trailing o [] [] false granted := Trails.start

theorem shape (h : Trailing o effects renewals lost m) : Shape o m := by
  obtain ⟨es, hrun, _⟩ := h.run
  exact shape_run (Exec.append (.single (acquires o)) hrun)

theorem count (h : Trailing o effects renewals lost m) :
    m.periodicRenewals ≤ renewals.count true := by
  obtain ⟨es, hrun, _, hsound⟩ := h.run
  rw [run_count hrun, ← hsound, List.count_append]
  exact Nat.le_trans (Nat.le_of_eq (Nat.zero_add _)) (Nat.le_add_right _ _)

/-- A transition that is no renewal. -/
theorem step (h : Trailing o effects renewals lost m) (hstep : Step o m e t)
    (hquiet : e.renewals = []) (howed : owed t.phase lost = owed m.phase lost) :
    Trailing o (effects ++ e.effects) renewals lost t := by
  have hpays : Trails (Step o) Edge.effects Edge.renewals granted effects renewals
      (e.renewals ++ owed t.phase lost) m := by
    rw [hquiet, howed]
    exact h
  exact hpays.step hstep

/-- The package looks at a lost lease: the model fails its renewal. -/
theorem lose (h : Trailing o effects renewals true m) (hrenews : m.phase.renews = true)
    (hstep : Step o m .periodicRenewFailure t) (hover : t.phase.renews = false) :
    Trailing o effects renewals true t := by
  have hpays : Trails (Step o) Edge.effects Edge.renewals granted effects renewals
      (Edge.renewals .periodicRenewFailure ++ owed t.phase true) m := by
    have howed : owed m.phase true = [false] := by
      unfold owed
      rw [hrenews]
      rfl
    have hpaid : owed t.phase true = [] := by
      unfold owed
      rw [hover]
      rfl
    rw [hpaid]
    unfold Trailing at h
    rw [howed] at h
    exact h
  have hsteps := hpays.step hstep
  rw [show Edge.effects .periodicRenewFailure = [] from rfl, List.append_nil] at hsteps
  exact hsteps

/-- A renewal of the maintainer keeps the lease. -/
theorem renewed (h : Trailing o effects renewals false m) (hrenews : m.phase.renews = true)
    (hbound : (renewals ++ [true]).count true ≤ o.maxPeriodicRenewals) :
    ∃ t, t.phase = m.phase ∧ Trailing o effects (renewals ++ [true]) false t := by
  have hroom : m.periodicRenewals < o.maxPeriodicRenewals := by
    have hcount := h.count
    rw [List.count_append, List.count_singleton_self] at hbound
    omega
  refine ⟨{ m with periodicRenewals := m.periodicRenewals + 1 }, rfl, ?_⟩
  have hnone (phase : Phase) : owed phase false = [] := by
    unfold owed
    rw [Bool.and_false]
    rfl
  have hpays : Trails (Step o) Edge.effects Edge.renewals granted effects (renewals ++ [true])
      (Edge.renewals .periodicRenewSuccess ++ []) m := by
    have hheard := h.hear [true]
    rw [hnone] at hheard
    exact hheard
  have hsteps := hpays.step (renews_on hrenews hroom)
  rw [show Edge.effects .periodicRenewSuccess = [] from rfl, List.append_nil] at hsteps
  unfold Trailing
  rw [hnone]
  exact hsteps

/-- A renewal of the maintainer fails, which the package looks at later. -/
theorem failed (h : Trailing o effects renewals false m) (hrenews : m.phase.renews = true) :
    Trailing o effects (renewals ++ [false]) true m := by
  have hheard := h.hear [false]
  unfold Trailing owed
  unfold owed at hheard
  rw [Bool.and_false] at hheard
  rw [hrenews]
  exact hheard

/-- A model that still owes a lost renewal can fail it at once. -/
theorem paid (h : Trailing o effects renewals lost m) :
    ∃ es t, Exec (Step o) initialState (.acquireSuccess :: es) t ∧
      observed Edge.effects es = effects ∧ observed Edge.renewals es = renewals ∧ Asserts o t ∧
      (m.phase.renews = false → t = m) := by
  have hpaid : ∃ t, Trails (Step o) Edge.effects Edge.renewals granted effects renewals [] t ∧
      (m.phase.renews = false → t = m) := by
    cases hrenews : m.phase.renews with
    | false =>
      refine ⟨m, ?_, fun _ => rfl⟩
      unfold Trailing owed at h
      rw [hrenews] at h
      exact h
    | true =>
      cases lost with
      | false =>
        refine ⟨m, ?_, fun _ => rfl⟩
        unfold Trailing owed at h
        rw [Bool.and_false] at h
        exact h
      | true =>
        have hloses : ∃ t, Step o m .periodicRenewFailure t ∧ t.phase.renews = false := by
          rcases Phase.renews_iff.mp hrenews with hphase | hopen
          · obtain ⟨t, hstep, hphase', _⟩ := begin_loses (o := o) hphase
            exact ⟨t, hstep, by rw [hphase']; rfl⟩
          · obtain ⟨t, hstep, hphase'⟩ := open_loses (o := o) hopen
            exact ⟨t, hstep, by rw [hphase']; rfl⟩
        obtain ⟨t, hstep, hover⟩ := hloses
        refine ⟨t, ?_, nofun⟩
        have hlost := h.lose hrenews hstep hover
        unfold Trailing owed at hlost
        rw [hover] at hlost
        exact hlost
  obtain ⟨t, htrails, hsame⟩ := hpaid
  obtain ⟨es, hrun, hsight, hsound⟩ := htrails.run
  have hmodel := Exec.append (.single (acquires o)) hrun
  rw [List.append_nil] at hsound
  exact ⟨es, t, hmodel, hsight, hsound, (shape_run hmodel).asserts, hsame⟩

end Trailing

end Trailing

end OresLocks.Formal.Maintained
