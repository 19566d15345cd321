import OresLocks.MaintainedTsRuns

/-!
# What the maintained routine resolves and rejects with

While `inner` is `undefined` the work has resolved, and any other `inner` is a lock
error. A rejected `BEGIN` is not wrapped, so this needs it to reject with a lock error.
-/

namespace OresLocks.Ts

set_option autoImplicit false

universe u

open Shared.Runs State

def Thrown.isLockError : Thrown → Bool
  | .lockError _ => true
  | _ => false

section Outcomes

variable {α : Type u}

/-- The work resolved with a value. -/
def Worked (value : α) (log : List (Event α)) : Prop := .worked (.ok value) ∈ log

/-- `COMMIT` resolved after the work had resolved with this value. -/
def CommittedWork (value : α) (log : List (Event α)) : Prop :=
  ∃ before rows after, log = before ++ .queried .commit (.ok rows) :: after ∧ Worked value before

/-- The routine resolves with what the work resolved with, once that is committed, and
rejects with lock errors. -/
def Sound (log : List (Event α)) : Except Thrown (Option α) → Prop
  | .ok value => ∃ v, value = some v ∧ CommittedWork v log
  | .error thrown => thrown.isLockError = true

variable {inputs : Inputs} {grant : LeaseGrant} {s : State α}

/-- The work has resolved, and its value is kept. -/
def HasValue (s : State α) : Prop := ∃ v, s.value = some v ∧ Worked v s.log

/-- What holds where the routine is suspended. -/
def SoundAt (s : State α) : Prop :=
  match s.pc with
  | .stopping inner => if inner = .undefined then HasValue s else inner.isLockError = true
  | .renewing => HasValue s
  | .rollingBack inner => inner.isLockError = true
  | .committing => HasValue s
  | .closing outcome => Sound s.log outcome
  | .releasing outcome => Sound s.log outcome
  | .settled result => Sound s.log result
  | _ => True

theorem CommittedWork.append {value : α} {log : List (Event α)} (h : CommittedWork value log)
    (e : Event α) : CommittedWork value (log ++ [e]) := by
  obtain ⟨before, rows, after, rfl, hworked⟩ := h
  exact ⟨before, rows, after ++ [e], by simp, hworked⟩

theorem Sound.append {log : List (Event α)} {result : Except Thrown (Option α)}
    (h : Sound log result) (e : Event α) : Sound (log ++ [e]) result := by
  cases result with
  | ok value =>
    obtain ⟨v, hv, hcommitted⟩ := h
    exact ⟨v, hv, hcommitted.append e⟩
  | error thrown => exact h

theorem HasValue.emit (h : HasValue s) (e : Event α) : HasValue (s.emit e) := by
  obtain ⟨v, hv, hworked⟩ := h
  exact ⟨v, hv, List.mem_append_left _ hworked⟩

theorem HasValue.stop (h : HasValue s) : HasValue s.stop := by
  unfold State.stop
  split
  · exact h
  · exact h.emit .stopped

theorem Sound.stop {outcome : Except Thrown (Option α)} (h : Sound s.log outcome) :
    Sound s.stop.log outcome := by
  unfold State.stop
  split
  · exact h
  · exact h.append .stopped

theorem isLockError_iff {thrown : Thrown} :
    thrown.isLockError = true ↔ ∃ error, thrown = .lockError error := by
  cases thrown <;> simp [Thrown.isLockError]

theorem cleanupFailure_lockError {inner : Thrown} (h : inner.isLockError = true)
    (cleanup : LockError) : ∃ error, cleanupFailure cleanup inner = .ok error := by
  obtain ⟨error, rfl⟩ := isLockError_iff.mp h
  exact ⟨_, rfl⟩

theorem ofBuilt_isLockError {built : Except Thrown LockError} (h : ∃ error, built = .ok error) :
    (Thrown.ofBuilt built).isLockError = true := by
  obtain ⟨error, rfl⟩ := h
  rfl

theorem releaseFailure_lockError {answer : Except Thrown Bool} {built : Except Thrown LockError}
    (hanswer : ∀ cause, answer = .error cause → cause.isLockError = true)
    (h : releaseFailure inputs grant answer = some built) : ∃ error, built = .ok error := by
  unfold releaseFailure at h
  split at h
  · cases h
  · cases h
    exact ⟨_, rfl⟩
  · cases h
    exact ⟨_, rfl⟩
  · rename_i cause hne
    obtain ⟨error, herror⟩ := isLockError_iff.mp (hanswer cause rfl)
    exact absurd herror (hne error)

/-- A release that fails with a lock error leaves one, and otherwise the outcome stays. -/
theorem Sound.settle {log : List (Event α)} {outcome : Except Thrown (Option α)}
    {answer : Except Thrown Bool} (h : Sound log outcome)
    (hanswer : ∀ cause, answer = .error cause → cause.isLockError = true) :
    Sound log (settle inputs grant outcome answer) := by
  unfold State.settle
  cases hfailure : releaseFailure inputs grant answer with
  | none => exact h
  | some built =>
    obtain ⟨cleanup, rfl⟩ := releaseFailure_lockError hanswer hfailure
    cases outcome with
    | ok value => rfl
    | error inner => exact ofBuilt_isLockError (cleanupFailure_lockError h cleanup)

/-- Steps of the maintainer keep what the routine has. -/
theorem SoundAt.maintainer {t : State α} (h : SoundAt s) (hpc : t.pc = s.pc)
    (hvalue : t.value = s.value) (hlog : t.log = s.log ∨ ∃ e, t.log = s.log ++ [e]) :
    SoundAt t := by
  have hhas : HasValue s → HasValue t := by
    rintro ⟨v, hv, hworked⟩
    refine ⟨v, hvalue.trans hv, ?_⟩
    rcases hlog with hlog | ⟨e, hlog⟩
    · rwa [hlog]
    · rw [hlog]
      exact List.mem_append_left _ hworked
  have hsound : ∀ outcome, Sound s.log outcome → Sound t.log outcome := by
    intro outcome houtcome
    rcases hlog with hlog | ⟨e, hlog⟩
    · rwa [hlog]
    · rw [hlog]
      exact houtcome.append e
  unfold SoundAt at h ⊢
  rw [hpc]
  cases hs : s.pc with
  | stopping inner =>
    rw [hs] at h
    simp only at h ⊢
    split
    · rename_i hundefined
      rw [if_pos hundefined] at h
      exact hhas h
    · rename_i hdefined
      rwa [if_neg hdefined] at h
  | renewing =>
    rw [hs] at h
    exact hhas h
  | rollingBack inner =>
    rw [hs] at h
    exact h
  | committing =>
    rw [hs] at h
    exact hhas h
  | closing outcome =>
    rw [hs] at h
    exact hsound outcome h
  | releasing outcome =>
    rw [hs] at h
    exact hsound outcome h
  | settled result =>
    rw [hs] at h
    exact hsound result h
  | _ => trivial

end Outcomes

section Runs

end Runs

end OresLocks.Ts
