import OresLocks.MaintainedTsRuns

/-!
# The lease releases of the TypeScript routine

`lease.release` is called by `settle` only. A value that is not a closed object of own
data properties ends the routine before there is a grant to release.
-/

namespace OresLocks.Ts

set_option autoImplicit false

open Shared.Runs State

universe u

variable {α : Type u} {inputs : Inputs} {grant : LeaseGrant}

def Event.isRelease : Event α → Bool
  | .releaseIssued => true
  | _ => false

/-- How often `lease.release` has been called. -/
def releases (log : List (Event α)) : Nat := log.countP Event.isRelease

theorem releases_concat (log : List (Event α)) {e : Event α} (h : e.isRelease = false) :
    releases (log ++ [e]) = releases log := by
  simp [releases, List.countP_append, h]

theorem releases_release (log : List (Event α)) :
    releases (log ++ [.releaseIssued]) = releases log + 1 := by
  simp [releases, List.countP_append, Event.isRelease]

/-- The calls of `lease.release` before each await. -/
def Pc.released : Pc α → Nat
  | .releasing _ => 1
  | .settled _ => 1
  | _ => 0

/-- The log agrees with the await the routine is suspended at. -/
def Counted (s : State α) : Prop := releases s.log = s.pc.released

/-- A state before the release. -/
def Unreleased (s : State α) : Prop := releases s.log = 0

section Routine

variable {s : State α}

theorem Unreleased.emit (h : Unreleased s) {e : Event α} (he : e.isRelease = false) :
    Unreleased (s.emit e) := (releases_concat s.log he).trans h

theorem Unreleased.stop (h : Unreleased s) : Unreleased s.stop := by
  unfold State.stop
  split
  · exact h
  · exact h.emit rfl

theorem Unreleased.goto (h : Unreleased s) {pc : Pc α} (hpc : pc.released = 0) :
    Counted (s.goto pc) := by
  unfold Counted
  change releases s.log = pc.released
  rw [hpc]
  exact h

theorem Unreleased.toStop (h : Unreleased s) (inner : Thrown) : Counted (s.toStop inner) :=
  h.stop.goto rfl

theorem Unreleased.toClose (h : Unreleased s) (outcome : Except Thrown (Option α)) :
    Counted (s.toClose outcome) := h.stop.goto rfl

theorem Unreleased.pollLock (h : Unreleased s) : Counted s.pollLock := by
  unfold State.pollLock
  split
  · exact h.toStop _
  · exact (h.emit rfl).goto rfl

theorem Unreleased.afterConnect (h : Unreleased s) (answer : Except Thrown Unit) :
    Counted (s.afterConnect inputs answer) := by
  have he : Unreleased (s.emit (.connected answer)) := h.emit rfl
  unfold State.afterConnect
  cases answer with
  | ok _ =>
    have hclient : Unreleased { s.emit (.connected (.ok ())) with client := true } := he
    exact (hclient.emit rfl).goto rfl
  | error cause =>
    dsimp only
    split
    · exact he.toStop _
    · exact he.toClose _

theorem Unreleased.afterBegin (h : Unreleased s) (answer : Except Thrown Rows) :
    Counted (s.afterBegin answer) := by
  have he : Unreleased (s.emit (.queried .begin answer)) := h.emit rfl
  unfold State.afterBegin
  cases answer with
  | ok rows =>
    have hbegan : Unreleased { s.emit (.queried .begin (.ok rows)) with began := true } := he
    exact hbegan.pollLock
  | error cause => exact he.toStop _

theorem Unreleased.afterPoll (h : Unreleased s) (answer : Except Thrown Rows) (elapsedMs : Int) :
    Counted (s.afterPoll inputs answer elapsedMs) := by
  have he : Unreleased (s.emit (.queried .tryAdvisoryXactLock answer)) := h.emit rfl
  unfold State.afterPoll
  cases answer with
  | error cause => exact he.toStop _
  | ok rows =>
    dsimp only
    split
    · exact (he.emit rfl).goto rfl
    split
    · exact he.toStop _
    split
    · exact he.toStop _
    split
    · exact he.toStop _
    · exact he.goto rfl

theorem Unreleased.afterWork (h : Unreleased s) (answer : Except Thrown α) :
    Counted (s.afterWork inputs answer) := by
  have he : Unreleased (s.emit (.worked answer)) := h.emit rfl
  unfold State.afterWork
  cases answer with
  | ok value =>
    have hvalue : Unreleased { s.emit (.worked (.ok value)) with value := some value } := he
    exact hvalue.toStop _
  | error cause => exact he.toStop _

theorem Unreleased.failTransaction (h : Unreleased s) (inner : Thrown) :
    Counted (s.failTransaction inner) := by
  unfold State.failTransaction
  split
  · exact (h.emit rfl).goto rfl
  · exact h.toClose _

theorem Unreleased.afterStop (h : Unreleased s) (inner : Thrown) : Counted (s.afterStop inner) := by
  unfold State.afterStop
  split
  · exact h.toClose _
  split
  · exact (h.emit rfl).goto rfl
  · exact h.failTransaction _

theorem Unreleased.afterFinalRenewal (h : Unreleased s) (answer : Except Thrown RawGrant) :
    Counted (s.afterFinalRenewal inputs grant answer) := by
  have he : Unreleased (s.emit (.renewed .final answer)) := h.emit rfl
  unfold State.afterFinalRenewal
  dsimp only
  split
  · exact (he.emit rfl).goto rfl
  split
  · exact he.failTransaction _
  · exact he.toClose _

theorem Unreleased.afterRollback (h : Unreleased s) (inner : Thrown)
    (answer : Except Thrown Rows) : Counted (s.afterRollback inputs inner answer) := by
  have he : Unreleased (s.emit (.queried .rollback answer)) := h.emit rfl
  unfold State.afterRollback
  cases answer with
  | ok rows => exact he.toClose _
  | error cause =>
    dsimp only
    split
    · exact he.toClose _
    · exact he.toClose _

theorem Unreleased.afterCommit (h : Unreleased s) (answer : Except Thrown Rows) :
    Counted (s.afterCommit inputs answer) := by
  have he : Unreleased (s.emit (.queried .commit answer)) := h.emit rfl
  unfold State.afterCommit
  cases answer with
  | ok rows =>
    have hcommitted : Unreleased { s.emit (.queried .commit (.ok rows)) with
        began := false, poisonClient := false } := he
    exact hcommitted.toClose _
  | error cause => exact he.toClose _

/-- The one call of `lease.release`. -/
theorem Unreleased.afterClose (h : Unreleased s) (outcome : Except Thrown (Option α))
    (answer : Except Thrown Unit) : Counted (s.afterClose outcome answer) := by
  have hreturned : Unreleased (if s.client then s.emit (.clientReleased s.poisonClient) else s) := by
    split
    · exact h.emit rfl
    · exact h
  unfold State.afterClose Counted
  change releases (_ ++ [_]) = 1
  rw [releases_release, hreturned]

theorem counted_afterRelease {outcome : Except Thrown (Option α)} (h : releases s.log = 1)
    (answer : Except Thrown Bool) : Counted (s.afterRelease inputs grant outcome answer) :=
  (releases_concat s.log rfl).trans h

/-- Steps of the maintainer keep the await and log no release. -/
theorem Counted.maintainer {t : State α} (h : Counted s) (hpc : t.pc = s.pc)
    (hlog : t.log = s.log ∨ ∃ e, t.log = s.log ++ [e] ∧ e.isRelease = false) : Counted t := by
  unfold Counted at h ⊢
  rw [hpc]
  rcases hlog with hlog | ⟨e, hlog, he⟩
  · rw [hlog, h]
  · rw [hlog, releases_concat _ he, h]

theorem counted_maintainerWoken (h : Counted s) : Counted s.maintainerWoken := by
  unfold State.maintainerWoken
  split
  · exact h.maintainer rfl (Or.inl rfl)
  · exact h.maintainer rfl (Or.inr ⟨_, rfl, rfl⟩)

theorem counted_maintainerRead (h : Counted s) (answer : Except Thrown RawGrant) :
    Counted (s.maintainerRead inputs grant answer) := by
  unfold State.maintainerRead
  split
  · split
    · exact h.maintainer rfl (Or.inl rfl)
    · exact h.maintainer rfl (Or.inl rfl)
  split
  · exact h.maintainer rfl (Or.inl rfl)
  · exact h

end Routine

theorem counted_step {s t : State α} {input : Input α} (h : Counted s)
    (hstep : Step inputs grant s input t) : Counted t := by
  have hbefore : s.pc.released = 0 → Unreleased s := fun hpc => h.trans hpc
  unfold Step step at hstep
  split at hstep
  · rename_i hpc
    cases hstep
    exact (hbefore (by rw [hpc]; rfl)).afterConnect _
  · rename_i hpc
    cases hstep
    exact (hbefore (by rw [hpc]; rfl)).afterBegin _
  · rename_i hpc
    cases hstep
    exact (hbefore (by rw [hpc]; rfl)).afterPoll _ _
  · rename_i hpc
    cases hstep
    exact (hbefore (by rw [hpc]; rfl)).pollLock
  · rename_i hpc
    split at hstep
    · cases hstep
      exact (hbefore (by rw [hpc]; rfl)).toStop _
    · cases hstep
  · rename_i hpc
    cases hstep
    exact (hbefore (by rw [hpc]; rfl)).afterWork _
  · rename_i hpc
    split at hstep
    · cases hstep
      exact (hbefore (by rw [hpc]; rfl)).afterStop _
    · cases hstep
  · rename_i hpc
    cases hstep
    exact (hbefore (by rw [hpc]; rfl)).afterFinalRenewal _
  · rename_i hpc
    cases hstep
    exact (hbefore (by rw [hpc]; rfl)).afterRollback _ _
  · rename_i hpc
    cases hstep
    exact (hbefore (by rw [hpc]; rfl)).afterCommit _
  · rename_i hpc
    split at hstep
    · cases hstep
      exact (hbefore (by rw [hpc]; rfl)).afterClose _ _
    · cases hstep
  · rename_i hpc
    cases hstep
    unfold Counted at h
    rw [hpc] at h
    exact counted_afterRelease h _
  · split at hstep
    · cases hstep
      exact h.maintainer rfl (Or.inl rfl)
    · cases hstep
  · split at hstep
    · cases hstep
      exact h.maintainer rfl (Or.inr ⟨_, rfl, rfl⟩)
    · cases hstep
  · split at hstep
    · cases hstep
      exact counted_maintainerWoken h
    · cases hstep
      exact counted_maintainerRead h _
    · cases hstep
  · cases hstep

theorem counted_run {answer : Except Thrown RawGrant} {is : List (Input α)} {s : State α}
    (h : Exec (Step inputs grant) (opened answer) is s) : Counted s := by
  have hstart : Counted (opened (α := α) answer) := rfl
  exact h.stateInvariant hstart counted_step

/-- The promise of `withMaintainedXactLock` settles with `result` after the calls and
answers of `log`. -/
inductive Settles (inputs : Inputs) (answer : Except Thrown RawGrant) :
    List (Event α) → Except Thrown (Option α) → Prop where
  | ended {result : Except Thrown (Option α)} {log : List (Event α)} :
      withMaintainedXactLock inputs answer = .ended result log → Settles inputs answer log result
  | refused {grant : LeaseGrant} {error : LockError} {log : List (Event α)}
      (released : Except Thrown Bool) :
      withMaintainedXactLock inputs answer = .refused grant error log →
      Settles inputs answer (log ++ [.released released])
        (settle inputs grant (.error (.lockError error)) released)
  | ran {grant : LeaseGrant} {start s : State α} {is : List (Input α)}
      {result : Except Thrown (Option α)} :
      withMaintainedXactLock inputs answer = .running grant start →
      Exec (Step inputs grant) start is s → s.pc = .settled result →
      Settles inputs answer s.log result

/-- An inspectable object whose own properties are all data properties of a grant. -/
def RawGrant.isClosed : RawGrant → Bool
  | .object properties => properties.all fun property =>
      property.value.isSome && property.name.any grantFields.contains
  | _ => false

theorem ownFields_closed {properties : List Property} {fields : List (JsString × JsValue)}
    (h : ownFields properties = .ok fields) : (RawGrant.object properties).isClosed = true := by
  induction properties generalizing fields with
  | nil => rfl
  | cons property rest ih =>
    unfold ownFields at h
    split at h
    · cases h
    rename_i name hname
    split at h
    · cases h
    rename_i hknown
    split at h
    · cases h
    rename_i value hvalue
    split at h
    · cases h
    rename_i fields' hrest
    have hall := ih hrest
    simp only [RawGrant.isClosed] at hall ⊢
    rw [List.all_cons, hall, hname, hvalue]
    simpa using hknown

theorem snapshotAuthorityGrant_closed {key : JsString} {raw : RawGrant} {step : LockStep}
    {kind : LockErrorKind} (h : snapshotAuthorityGrant key raw step kind = .ok grant) :
    raw.isClosed = true := by
  unfold snapshotAuthorityGrant at h
  split at h
  · cases h
  · cases h
  split at h
  · cases h
  · rename_i fields hfields
    exact ownFields_closed hfields

/-- How often the lease is released for a settled acquisition. -/
def releasesFor (inputs : Inputs) : Except Thrown RawGrant → Nat
  | .error _ => 0
  | .ok raw =>
    match snapshotAuthorityGrant inputs.key raw (acquireStep inputs) .transport with
    | .error _ => 0
    | .ok _ => 1

theorem releases_of_settles {answer : Except Thrown RawGrant} {log : List (Event α)}
    {result : Except Thrown (Option α)} (h : Settles inputs answer log result) :
    releases log = releasesFor inputs answer := by
  unfold releasesFor
  cases answer with
  | error cause =>
    cases h with
    | ended hsession =>
      cases hsession
      rfl
    | refused released hsession => cases hsession
    | ran hsession _ _ => cases hsession
  | ok raw =>
    dsimp only
    cases hsnapshot : snapshotAuthorityGrant inputs.key raw (acquireStep inputs) .transport with
    | error error =>
      have hsession' : withMaintainedXactLock (α := α) inputs (.ok raw) =
          .ended (.error (.lockError error)) [.acquired (.ok raw)] := by
        simp only [withMaintainedXactLock, hsnapshot]
      cases h with
      | ended hsession =>
        rw [hsession'] at hsession
        cases hsession
        rfl
      | refused released hsession =>
        rw [hsession'] at hsession
        cases hsession
      | ran hsession _ _ =>
        rw [hsession'] at hsession
        cases hsession
    | ok grant =>
      cases h with
      | ended hsession =>
        simp only [withMaintainedXactLock, hsnapshot] at hsession
        split at hsession
        · cases hsession
        · cases hsession
      | refused released hsession =>
        simp only [withMaintainedXactLock, hsnapshot] at hsession
        split at hsession
        · cases hsession
          rfl
        · cases hsession
      | ran hsession hrun hpc =>
        simp only [withMaintainedXactLock, hsnapshot] at hsession
        split at hsession
        · cases hsession
        · cases hsession
          have hcounted := counted_run hrun
          unfold Counted at hcounted
          rw [hcounted, hpc]
          rfl

/-- Whatever the environment answers, at most one release has been called when the
promise settles: one for a value that passes the snapshot, none for a value that is no
closed object of own data properties, and none after a rejected acquisition. -/
theorem snapshot_grants_released_once (inputs : Inputs) (answer : Except Thrown RawGrant)
    (log : List (Event α)) (result : Except Thrown (Option α))
    (h : Settles inputs answer log result) :
    releases log ≤ 1 ∧
    (∀ cause, answer = .error cause → releases log = 0) ∧
    (∀ raw grant, answer = .ok raw →
      snapshotAuthorityGrant inputs.key raw (acquireStep inputs) .transport = .ok grant →
      releases log = 1) ∧
    (∀ raw, answer = .ok raw → raw.isClosed = false → releases log = 0) := by
  have hcount := releases_of_settles h
  unfold releasesFor at hcount
  refine ⟨?_, ?_, ?_, ?_⟩
  · rw [hcount]
    split
    · omega
    split
    · omega
    · omega
  · intro cause hanswer
    rw [hcount]
    simp only [hanswer]
  · intro raw grant hanswer hsnapshot
    rw [hcount]
    simp only [hanswer, hsnapshot]
  · intro raw hanswer hopen
    rw [hcount]
    simp only [hanswer]
    split
    · rfl
    · rename_i grant hsnapshot
      rw [snapshotAuthorityGrant_closed hsnapshot] at hopen
      cases hopen

theorem sample_released_once :
    Settles sampleInputs (.ok sampleRaw) sampleEnd.log (.ok (some 3)) ∧
      releases sampleEnd.log = 1 := by
  have hsettles : Settles sampleInputs (.ok sampleRaw) sampleEnd.log (.ok (some 3)) :=
    .ran sample_running sample_exec rfl
  exact ⟨hsettles, (snapshot_grants_released_once sampleInputs (.ok sampleRaw) sampleEnd.log
    (.ok (some 3)) hsettles).2.2.1 sampleRaw sampleGrant rfl rfl⟩

/-- A grant whose holder is an accessor. -/
def accessorRaw : RawGrant :=
  .object [⟨some (js "key"), some (.string (js "k"))⟩, ⟨some (js "holder"), none⟩,
    ⟨some (js "fencingToken"), some (.bigint 7)⟩,
    ⟨some (js "ttlMs"), some (.number (.ofInt 1000))⟩]

theorem accessor_grant_never_released :
    ¬ ∀ (raw : RawGrant) (log : List (Event Nat)) (result : Except Thrown (Option Nat)),
      Settles sampleInputs (.ok raw) log result → releases log = 1 := by
  intro h
  have hended : Settles (α := Nat) sampleInputs (.ok accessorRaw) [.acquired (.ok accessorRaw)] _ :=
    .ended rfl
  have hone := h accessorRaw _ _ hended
  cases hone

end OresLocks.Ts
