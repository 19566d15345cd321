import OresLocks.MaintainedGo
import OresLocks.Shared.Logs
import OresLocks.Shared.Runs

/-!
# Runs of the maintained routine of the Go package

A history is the list of the inputs, oldest first. The routine moves through its calls
in one order, while the maintainer, the contexts and `database/sql` act in between.
-/

namespace OresLocks.Go

set_option autoImplicit false

open Shared.Runs Shared.Logs State
open RenewalGo (milliseconds)

variable {inputs : Inputs} {grant : LeaseGrant} {s t : State} {input : Input}

/-- One enabled step: the call the caller's goroutine was in, or what else happened. -/
inductive Moves (inputs : Inputs) (grant : LeaseGrant) (s : State) : Input → State → Prop where
  | begun (answer : Answer) (hpc : s.pc = .beginning) :
      Moves inputs grant s (.begun answer) (s.afterBegin answer)
  | stoppedBegin (err : GoError) (hpc : s.pc = .stoppingBegin err)
      (hphase : s.maintainer.phase = .finished) :
      Moves inputs grant s .stopReturned (s.afterStopBegin inputs err)
  | polled (answer : Except GoError Bool) (elapsed : Int) (hpc : s.pc = .polling) :
      Moves inputs grant s (.polled answer elapsed) (s.afterPoll inputs answer elapsed)
  | timerFired (delay : Int) (hpc : s.pc = .waiting delay) :
      Moves inputs grant s .timerFired (s.goto .polling)
  | waitCancelled (delay : Int) (done : Done) (hpc : s.pc = .waiting delay)
      (hdone : s.workCtx = some done) :
      Moves inputs grant s .waitCancelled (s.afterWaitCancelled inputs done)
  | worked (answer : Answer) (hpc : s.pc = .working) :
      Moves inputs grant s (.worked answer) (s.afterWork inputs answer)
  | stopped (inner : Option GoError) (hpc : s.pc = .stopping inner)
      (hphase : s.maintainer.phase = .finished) :
      Moves inputs grant s .stopReturned (s.afterStop inputs inner)
  | renewed (answer : Except GoError LeaseGrant) (hpc : s.pc = .renewing) :
      Moves inputs grant s (.renewed answer) (s.afterFinalRenewal inputs grant answer)
  | commitStarted (hpc : s.pc = .admitted) (hctx : s.workCtx = none) (htx : s.tx = .open) :
      Moves inputs grant s .commitStarted ({ s with tx := .done }.goto .committing)
  | commitRefused (err : GoError) (hpc : s.pc = .admitted) (herr : s.commitRefusal = some err) :
      Moves inputs grant s .commitRefused (s.commitFailed inputs err)
  | committed (answer : Answer) (hpc : s.pc = .committing) :
      Moves inputs grant s (.committed answer) (s.afterCommit inputs answer)
  | rollbackStarted (inner : GoError) (hpc : s.pc = .aborting inner) (htx : s.tx = .open) :
      Moves inputs grant s .rollbackStarted ({ s with tx := .done }.goto (.rollingBack inner))
  | rollbackVoid (inner : GoError) (hpc : s.pc = .aborting inner) (htx : s.tx ≠ .open) :
      Moves inputs grant s .rollbackVoid (s.goto (.releasing (some inner)))
  | rolledBack (answer : Answer) (inner : GoError) (hpc : s.pc = .rollingBack inner) :
      Moves inputs grant s (.rolledBack answer)
        (s.goto (.releasing (some (rollbackMaintained inputs inner answer))))
  | released (answer : Except GoError Bool) (inner : Option GoError)
      (hpc : s.pc = .releasing inner) :
      Moves inputs grant s (.released answer) (s.goto (.settled (settle inputs grant inner answer)))
  | ticked (hphase : s.maintainer.phase = .selecting) :
      Moves inputs grant s .ticked { s with maintainer := { s.maintainer with phase := .renewing } }
  | maintainerRenewed (answer : Except GoError LeaseGrant)
      (hphase : s.maintainer.phase = .renewing) :
      Moves inputs grant s (.maintainerRenewed answer) (s.maintainerRead inputs grant answer)
  | maintainerLeft (hphase : s.maintainer.phase = .selecting) :
      Moves inputs grant s .maintainerLeft
        { s with maintainer := { s.maintainer with phase := .finished } }
  | parentCancelled (done : Done) (hparent : s.parent = none) :
      Moves inputs grant s (.parentCancelled done) { s with parent := some done }
  | parentPropagated (hctx : s.workCtx = none) (hparent : s.parent ≠ none) :
      Moves inputs grant s .parentPropagated { s with workCtx := s.parent }
  | txWatched (htx : s.tx = .open) (hctx : s.workCtx ≠ none) :
      Moves inputs grant s .txWatched { s with tx := .done }
  | workEndedTx (hpc : s.pc = .working) (htx : s.tx = .open) :
      Moves inputs grant s .workEndedTx { s with tx := .done }

theorem commitRefusal_none (h : s.commitRefusal = none) : s.workCtx = none ∧ s.tx = .open := by
  unfold commitRefusal at h
  split at h
  · cases h
  · cases h
  · rename_i hctx htx
    exact ⟨hctx, htx⟩
  · cases h

theorem step_moves (h : Step inputs grant s input t) : Moves inputs grant s input t := by
  unfold Step step at h
  split at h
  · cases h
    exact .begun _ (by assumption)
  · cases h
    exact .polled _ _ (by assumption)
  · cases h
    exact .timerFired _ (by assumption)
  · obtain ⟨done, hdone, rfl⟩ := Option.map_eq_some_iff.mp h
    exact .waitCancelled _ done (by assumption) hdone
  · cases h
    exact .worked _ (by assumption)
  · split at h
    · cases h
      exact .stopped _ (by assumption) (by assumption)
    · cases h
  · split at h
    · cases h
      exact .stoppedBegin _ (by assumption) (by assumption)
    · cases h
  · cases h
    exact .renewed _ (by assumption)
  · split at h
    · rename_i hpc _ hrefusal
      cases h
      obtain ⟨hctx, htx⟩ := commitRefusal_none hrefusal
      exact .commitStarted hpc hctx htx
    · cases h
  · obtain ⟨err, herr, rfl⟩ := Option.map_eq_some_iff.mp h
    exact .commitRefused err (by assumption) herr
  · cases h
    exact .committed _ (by assumption)
  · split at h
    · cases h
      exact .rollbackStarted _ (by assumption) (by assumption)
    · cases h
  · split at h
    · cases h
    · cases h
      exact .rollbackVoid _ (by assumption) (by assumption)
  · cases h
    exact .rolledBack _ _ (by assumption)
  · cases h
    exact .released _ _ (by assumption)
  · split at h
    · cases h
      exact .ticked (by assumption)
    · cases h
  · split at h
    · cases h
      exact .maintainerRenewed _ (by assumption)
    · cases h
  · split at h
    · rename_i hleft
      cases h
      exact .maintainerLeft hleft.1
    · cases h
  · split at h
    · rename_i hparent
      cases h
      exact .parentCancelled _ (Option.isNone_iff_eq_none.mp hparent)
    · cases h
  · split at h
    · rename_i hboth
      cases h
      exact .parentPropagated (Option.isNone_iff_eq_none.mp hboth.2)
        (Option.isSome_iff_ne_none.mp hboth.1)
    · cases h
  · split at h
    · rename_i hboth
      cases h
      exact .txWatched hboth.2 (Option.isSome_iff_ne_none.mp hboth.1)
    · cases h
  · split at h
    · cases h
      exact .workEndedTx (by assumption) (by assumption)
    · cases h
  · cases h

/-- The routine has received from `doneCh`. -/
def Pc.stopped : Pc → Bool
  | .beginning => false
  | .stoppingBegin _ => false
  | .polling => false
  | .waiting _ => false
  | .working => false
  | .stopping _ => false
  | _ => true

/-- How many of the answers that a successful call needs have come. -/
def Pc.progress : Pc → Nat
  | .working => 1
  | .stopping none => 2
  | .renewing => 3
  | .admitted => 4
  | .committing => 5
  | .releasing none => 6
  | .settled none => 7
  | _ => 0

section Results

variable (inputs : Inputs) (s : State)

theorem afterStopBegin_failed (err : GoError) :
    ∃ result, s.afterStopBegin inputs err = s.goto (.releasing (some result)) := by
  unfold afterStopBegin
  split
  · exact ⟨_, rfl⟩
  · split
    · exact ⟨_, rfl⟩
    · exact ⟨_, rfl⟩

theorem afterPoll_cases (answer : Except GoError Bool) (elapsed : Int) :
    answer = .ok true ∧ s.afterPoll inputs answer elapsed = s.goto .working ∨
    (answer ≠ .ok true ∧ ∃ err, s.afterPoll inputs answer elapsed = s.toStop (some err)) ∨
    (answer ≠ .ok true ∧ ∃ delay, s.afterPoll inputs answer elapsed = s.goto (.waiting delay)) := by
  unfold afterPoll
  split
  · have hne (err : GoError) : (.error err : Except GoError Bool) ≠ .ok true := by
      intro h
      cases h
    split
    · exact Or.inr (Or.inl ⟨hne _, _, rfl⟩)
    · exact Or.inr (Or.inl ⟨hne _, _, rfl⟩)
  · exact Or.inl ⟨rfl, rfl⟩
  · have hne : (.ok false : Except GoError Bool) ≠ .ok true := by
      intro h
      cases h
    split
    · exact Or.inr (Or.inl ⟨hne, _, rfl⟩)
    · split
      · exact Or.inr (Or.inl ⟨hne, _, rfl⟩)
      · exact Or.inr (Or.inr ⟨hne, _, rfl⟩)

theorem afterWaitCancelled_failed (done : Done) :
    ∃ err, s.afterWaitCancelled inputs done = s.toStop (some err) := by
  unfold afterWaitCancelled
  split
  · exact ⟨_, rfl⟩
  · exact ⟨_, rfl⟩

theorem afterStop_cases (inner : Option GoError) :
    (inner = none ∧ s.maintainer.failure = none ∧ s.parent = none ∧
      s.afterStop inputs inner = s.goto .renewing) ∨
    ∃ err, s.afterStop inputs inner = s.goto (.aborting err) := by
  unfold afterStop withFailure
  cases s.maintainer.failure with
  | some failure => exact Or.inr ⟨_, rfl⟩
  | none =>
    cases inner with
    | some inner => exact Or.inr ⟨_, rfl⟩
    | none =>
      cases s.parent with
      | some parent => exact Or.inr ⟨_, rfl⟩
      | none => exact Or.inl ⟨rfl, rfl, rfl, rfl⟩

end Results

/-- The authority has extended this grant and no other. -/
structure Extends (inputs : Inputs) (grant renewed : LeaseGrant) : Prop where
  key : renewed.key = grant.key
  holder : renewed.holder = grant.holder
  fencingToken : renewed.fencingToken = grant.fencingToken
  ttlMs : renewed.ttlMs = milliseconds inputs.acquire.ttl
  leaseExpiresMs : 0 ≤ renewed.leaseExpiresMs

theorem renewChecked_ok {answer : Except GoError LeaseGrant} {renewed : LeaseGrant}
    (h : renewChecked grant inputs.acquire.ttl answer = .ok renewed) :
    answer = .ok renewed ∧ Extends inputs grant renewed := by
  unfold renewChecked at h
  split at h
  · cases h
  · split at h
    · cases h
    · rename_i hchange
      cases h
      refine ⟨rfl, ?_⟩
      unfold renewedChange at hchange
      split at hchange
      · cases hchange
      split at hchange
      · cases hchange
      split at hchange
      · cases hchange
      split at hchange
      · cases hchange
      split at hchange
      · cases hchange
      rename_i hkey hholder htoken httl hexpires
      exact ⟨not_not.mp hkey, not_not.mp hholder, not_not.mp htoken, not_not.mp httl,
        not_lt.mp hexpires⟩

theorem renewChecked_extends {renewed : LeaseGrant} (h : Extends inputs grant renewed) :
    renewChecked grant inputs.acquire.ttl (.ok renewed) = .ok renewed := by
  have hchange : renewedChange grant renewed inputs.acquire.ttl = none := by
    unfold renewedChange
    rw [if_neg (not_not.mpr h.key), if_neg (not_not.mpr h.holder),
      if_neg (not_not.mpr h.fencingToken), if_neg (not_not.mpr h.ttlMs),
      if_neg (not_lt.mpr h.leaseExpiresMs)]
  unfold renewChecked
  dsimp only
  rw [hchange]

/-- The answer does not prove that the grant was extended. -/
def Refuses (inputs : Inputs) (grant : LeaseGrant) (answer : Except GoError LeaseGrant) : Prop :=
  ∀ renewed, renewChecked grant inputs.acquire.ttl answer ≠ .ok renewed

theorem afterFinalRenewal_cases (inputs : Inputs) (grant : LeaseGrant) (s : State)
    (answer : Except GoError LeaseGrant) :
    (∃ renewed, answer = .ok renewed ∧ Extends inputs grant renewed ∧
      s.afterFinalRenewal inputs grant answer = s.goto .admitted) ∨
    (Refuses inputs grant answer ∧
      ∃ err, s.afterFinalRenewal inputs grant answer = s.goto (.aborting err)) := by
  unfold afterFinalRenewal Refuses
  cases hrenewed : renewChecked grant inputs.acquire.ttl answer with
  | ok renewed =>
    obtain ⟨hanswer, hextends⟩ := renewChecked_ok hrenewed
    exact Or.inl ⟨renewed, hanswer, hextends, rfl⟩
  | error err =>
    refine Or.inr ⟨?_, err, rfl⟩
    intro renewed h
    cases h

theorem maintainerRead_cases (inputs : Inputs) (grant : LeaseGrant) (s : State)
    (answer : Except GoError LeaseGrant) :
    (∃ renewed, answer = .ok renewed ∧ Extends inputs grant renewed ∧
      s.maintainerRead inputs grant answer =
        { s with maintainer := { s.maintainer with phase := .selecting } }) ∨
    ∃ err, s.maintainerRead inputs grant answer =
      { s with
        maintainer := { s.maintainer with phase := .finished, failure := some err }
        workCtx := s.workCtx.or (some ⟨.canceled, err⟩) } := by
  unfold maintainerRead
  cases hrenewed : renewChecked grant inputs.acquire.ttl answer with
  | ok renewed =>
    obtain ⟨hanswer, hextends⟩ := renewChecked_ok hrenewed
    exact Or.inl ⟨renewed, hanswer, hextends, rfl⟩
  | error err => exact Or.inr ⟨err, rfl⟩

/-- Not a step of the caller's goroutine. -/
def Input.isBackground : Input → Bool
  | .ticked => true
  | .maintainerRenewed _ => true
  | .maintainerLeft => true
  | .parentCancelled _ => true
  | .parentPropagated => true
  | .txWatched => true
  | .workEndedTx => true
  | _ => false

/-- The calls of the routine in their order. -/
inductive Flow (inputs : Inputs) (grant : LeaseGrant) : Pc → Input → Pc → Prop where
  | begun : Flow inputs grant .beginning (.begun (.ok ())) .polling
  | notBegun (err : GoError) :
      Flow inputs grant .beginning (.begun (.error err)) (.stoppingBegin err)
  | stoppedBegin (err result : GoError) :
      Flow inputs grant (.stoppingBegin err) .stopReturned (.releasing (some result))
  | locked (elapsed : Int) : Flow inputs grant .polling (.polled (.ok true) elapsed) .working
  | notLocked (answer : Except GoError Bool) (elapsed : Int) (err : GoError)
      (hanswer : answer ≠ .ok true) :
      Flow inputs grant .polling (.polled answer elapsed) (.stopping (some err))
  | contended (answer : Except GoError Bool) (elapsed delay : Int) (hanswer : answer ≠ .ok true) :
      Flow inputs grant .polling (.polled answer elapsed) (.waiting delay)
  | timerFired (delay : Int) : Flow inputs grant (.waiting delay) .timerFired .polling
  | waitCancelled (delay : Int) (err : GoError) :
      Flow inputs grant (.waiting delay) .waitCancelled (.stopping (some err))
  | worked : Flow inputs grant .working (.worked (.ok ())) (.stopping none)
  | workFailed (err : GoError) :
      Flow inputs grant .working (.worked (.error err)) (.stopping (some (workErr inputs.key err)))
  | proceeds : Flow inputs grant (.stopping none) .stopReturned .renewing
  | aborts (inner : Option GoError) (err : GoError) :
      Flow inputs grant (.stopping inner) .stopReturned (.aborting err)
  | renewed (renewed : LeaseGrant) (hextends : Extends inputs grant renewed) :
      Flow inputs grant .renewing (.renewed (.ok renewed)) .admitted
  | notRenewed (answer : Except GoError LeaseGrant) (err : GoError)
      (hrefuses : Refuses inputs grant answer) :
      Flow inputs grant .renewing (.renewed answer) (.aborting err)
  | commitStarted : Flow inputs grant .admitted .commitStarted .committing
  | commitRefused (err : GoError) :
      Flow inputs grant .admitted .commitRefused (.releasing (some (dbErr inputs.key .pgCommit err)))
  | committed : Flow inputs grant .committing (.committed (.ok ())) (.releasing none)
  | notCommitted (err : GoError) :
      Flow inputs grant .committing (.committed (.error err))
        (.releasing (some (dbErr inputs.key .pgCommit err)))
  | rollbackStarted (inner : GoError) :
      Flow inputs grant (.aborting inner) .rollbackStarted (.rollingBack inner)
  | rollbackVoid (inner : GoError) :
      Flow inputs grant (.aborting inner) .rollbackVoid (.releasing (some inner))
  | rolledBack (answer : Answer) (inner : GoError) :
      Flow inputs grant (.rollingBack inner) (.rolledBack answer)
        (.releasing (some (rollbackMaintained inputs inner answer)))
  | released (answer : Except GoError Bool) (inner : Option GoError) :
      Flow inputs grant (.releasing inner) (.released answer)
        (.settled (settle inputs grant inner answer))

theorem Moves.flow (h : Moves inputs grant s input t) :
    Flow inputs grant s.pc input t.pc ∨ input.isBackground = true ∧ t.pc = s.pc := by
  cases h with
  | begun answer hpc =>
    rw [hpc]
    cases answer with
    | ok value => exact Or.inl .begun
    | error err => exact Or.inl (.notBegun err)
  | stoppedBegin err hpc hphase =>
    obtain ⟨result, hresult⟩ := afterStopBegin_failed inputs s err
    rw [hpc, hresult]
    exact Or.inl (.stoppedBegin err result)
  | polled answer elapsed hpc =>
    rw [hpc]
    rcases afterPoll_cases inputs s answer elapsed with
      ⟨rfl, h⟩ | ⟨hanswer, err, h⟩ | ⟨hanswer, delay, h⟩
    · rw [h]
      exact Or.inl (.locked elapsed)
    · rw [h]
      exact Or.inl (.notLocked answer elapsed err hanswer)
    · rw [h]
      exact Or.inl (.contended answer elapsed delay hanswer)
  | timerFired delay hpc =>
    rw [hpc]
    exact Or.inl (.timerFired delay)
  | waitCancelled delay done hpc hdone =>
    obtain ⟨err, herr⟩ := afterWaitCancelled_failed inputs s done
    rw [hpc, herr]
    exact Or.inl (.waitCancelled delay err)
  | worked answer hpc =>
    rw [hpc]
    cases answer with
    | ok value => exact Or.inl .worked
    | error err => exact Or.inl (.workFailed err)
  | stopped inner hpc hphase =>
    rcases afterStop_cases inputs s inner with ⟨rfl, _, _, h⟩ | ⟨err, h⟩
    · rw [hpc, h]
      exact Or.inl .proceeds
    · rw [hpc, h]
      exact Or.inl (.aborts inner err)
  | renewed answer hpc =>
    rcases afterFinalRenewal_cases inputs grant s answer with
      ⟨renewed, rfl, hextends, h⟩ | ⟨hrefuses, err, h⟩
    · rw [hpc, h]
      exact Or.inl (.renewed renewed hextends)
    · rw [hpc, h]
      exact Or.inl (.notRenewed answer err hrefuses)
  | commitStarted hpc hctx htx =>
    rw [hpc]
    exact Or.inl .commitStarted
  | commitRefused err hpc herr =>
    rw [hpc]
    exact Or.inl (.commitRefused err)
  | committed answer hpc =>
    rw [hpc]
    cases answer with
    | ok value => exact Or.inl .committed
    | error err => exact Or.inl (.notCommitted err)
  | rollbackStarted inner hpc htx =>
    rw [hpc]
    exact Or.inl (.rollbackStarted inner)
  | rollbackVoid inner hpc htx =>
    rw [hpc]
    exact Or.inl (.rollbackVoid inner)
  | rolledBack answer inner hpc =>
    rw [hpc]
    exact Or.inl (.rolledBack answer inner)
  | released answer inner hpc =>
    rw [hpc]
    exact Or.inl (.released answer inner)
  | ticked hphase => exact Or.inr ⟨rfl, rfl⟩
  | maintainerRenewed answer hphase =>
    rcases maintainerRead_cases inputs grant s answer with
      ⟨renewed, _, _, h⟩ | ⟨err, h⟩
    · rw [h]
      exact Or.inr ⟨rfl, rfl⟩
    · rw [h]
      exact Or.inr ⟨rfl, rfl⟩
  | maintainerLeft hphase => exact Or.inr ⟨rfl, rfl⟩
  | parentCancelled done hparent => exact Or.inr ⟨rfl, rfl⟩
  | parentPropagated hctx hparent => exact Or.inr ⟨rfl, rfl⟩
  | txWatched htx hctx => exact Or.inr ⟨rfl, rfl⟩
  | workEndedTx hpc htx => exact Or.inr ⟨rfl, rfl⟩

/-- What the caller's goroutine leaves to the others. -/
structure CallerFrame (s t : State) : Prop where
  phase : t.maintainer.phase = s.maintainer.phase
  failure : t.maintainer.failure = s.maintainer.failure
  parent : t.parent = s.parent
  workCtx : t.workCtx = s.workCtx

theorem goto_frame (s : State) (pc : Pc) : CallerFrame s (s.goto pc) := ⟨rfl, rfl, rfl, rfl⟩

theorem toStop_frame (s : State) (inner : Option GoError) : CallerFrame s (s.toStop inner) :=
  ⟨rfl, rfl, rfl, rfl⟩

theorem Moves.callerFrame (h : Moves inputs grant s input t) (hcaller : input.isBackground = false) :
    CallerFrame s t := by
  cases h with
  | begun answer hpc =>
    cases answer with
    | ok value => exact ⟨rfl, rfl, rfl, rfl⟩
    | error err => exact ⟨rfl, rfl, rfl, rfl⟩
  | stoppedBegin err hpc hphase =>
    obtain ⟨result, hresult⟩ := afterStopBegin_failed inputs s err
    rw [hresult]
    exact goto_frame s _
  | polled answer elapsed hpc =>
    rcases afterPoll_cases inputs s answer elapsed with ⟨_, h⟩ | ⟨_, err, h⟩ | ⟨_, delay, h⟩
    · rw [h]
      exact goto_frame s _
    · rw [h]
      exact toStop_frame s _
    · rw [h]
      exact goto_frame s _
  | timerFired delay hpc => exact goto_frame s _
  | waitCancelled delay done hpc hdone =>
    obtain ⟨err, herr⟩ := afterWaitCancelled_failed inputs s done
    rw [herr]
    exact toStop_frame s _
  | worked answer hpc =>
    cases answer with
    | ok value => exact toStop_frame s _
    | error err => exact toStop_frame s _
  | stopped inner hpc hphase =>
    rcases afterStop_cases inputs s inner with ⟨_, _, _, h⟩ | ⟨err, h⟩
    · rw [h]
      exact goto_frame s _
    · rw [h]
      exact goto_frame s _
  | renewed answer hpc =>
    rcases afterFinalRenewal_cases inputs grant s answer with
      ⟨renewed, _, _, h⟩ | ⟨_, err, h⟩
    · rw [h]
      exact goto_frame s _
    · rw [h]
      exact goto_frame s _
  | commitStarted hpc hctx htx => exact ⟨rfl, rfl, rfl, rfl⟩
  | commitRefused err hpc herr => exact goto_frame s _
  | committed answer hpc =>
    cases answer with
    | ok value => exact goto_frame s _
    | error err => exact goto_frame s _
  | rollbackStarted inner hpc htx => exact ⟨rfl, rfl, rfl, rfl⟩
  | rollbackVoid inner hpc htx => exact goto_frame s _
  | rolledBack answer inner hpc => exact goto_frame s _
  | released answer inner hpc => exact goto_frame s _
  | ticked hphase => cases hcaller
  | maintainerRenewed answer hphase => cases hcaller
  | maintainerLeft hphase => cases hcaller
  | parentCancelled done hparent => cases hcaller
  | parentPropagated hctx hparent => cases hcaller
  | txWatched htx hctx => cases hcaller
  | workEndedTx hpc htx => cases hcaller

/-- The routine has called `Commit` or `Rollback`, or has no transaction to end. -/
def Pc.closed : Pc → Bool
  | .committing => true
  | .rollingBack _ => true
  | .releasing _ => true
  | .settled _ => true
  | _ => false

/-- `BeginTx` has not answered with a transaction. -/
def Pc.unopened : Pc → Bool
  | .beginning => true
  | .stoppingBegin _ => true
  | _ => false

theorem Moves.finished (h : Moves inputs grant s .stopReturned t) :
    s.maintainer.phase = .finished := by
  cases h with
  | stoppedBegin err hpc hphase => exact hphase
  | stopped inner hpc hphase => exact hphase

theorem Moves.proceeds (h : Moves inputs grant s .stopReturned t) (hpc : t.pc = .renewing) :
    s.maintainer.failure = none ∧ s.parent = none := by
  cases h with
  | stoppedBegin err hpc' hphase =>
    obtain ⟨result, hresult⟩ := afterStopBegin_failed inputs s err
    rw [hresult] at hpc
    cases hpc
  | stopped inner hpc' hphase =>
    rcases afterStop_cases inputs s inner with ⟨_, hfailure, hparent, _⟩ | ⟨err, herr⟩
    · exact ⟨hfailure, hparent⟩
    · rw [herr] at hpc
      cases hpc

/-- How a transaction opens and ends. -/
theorem Moves.tx (h : Moves inputs grant s input t) :
    t.tx = s.tx ∨ (s.pc = .beginning ∧ t.pc = .polling) ∨ (s.tx = .open ∧ t.tx = .done) := by
  cases h with
  | begun answer hpc =>
    cases answer with
    | ok value => exact Or.inr (Or.inl ⟨hpc, rfl⟩)
    | error err => exact Or.inl rfl
  | stoppedBegin err hpc hphase =>
    obtain ⟨result, hresult⟩ := afterStopBegin_failed inputs s err
    rw [hresult]
    exact Or.inl rfl
  | polled answer elapsed hpc =>
    rcases afterPoll_cases inputs s answer elapsed with ⟨_, h⟩ | ⟨_, err, h⟩ | ⟨_, delay, h⟩
    · rw [h]
      exact Or.inl rfl
    · rw [h]
      exact Or.inl rfl
    · rw [h]
      exact Or.inl rfl
  | waitCancelled delay done hpc hdone =>
    obtain ⟨err, herr⟩ := afterWaitCancelled_failed inputs s done
    rw [herr]
    exact Or.inl rfl
  | worked answer hpc =>
    cases answer with
    | ok value => exact Or.inl rfl
    | error err => exact Or.inl rfl
  | stopped inner hpc hphase =>
    rcases afterStop_cases inputs s inner with ⟨_, _, _, h⟩ | ⟨err, h⟩
    · rw [h]
      exact Or.inl rfl
    · rw [h]
      exact Or.inl rfl
  | renewed answer hpc =>
    rcases afterFinalRenewal_cases inputs grant s answer with
      ⟨renewed, _, _, h⟩ | ⟨_, err, h⟩
    · rw [h]
      exact Or.inl rfl
    · rw [h]
      exact Or.inl rfl
  | committed answer hpc =>
    cases answer with
    | ok value => exact Or.inl rfl
    | error err => exact Or.inl rfl
  | maintainerRenewed answer hphase =>
    rcases maintainerRead_cases inputs grant s answer with
      ⟨renewed, _, _, h⟩ | ⟨err, h⟩
    · rw [h]
      exact Or.inl rfl
    · rw [h]
      exact Or.inl rfl
  | commitStarted hpc hctx htx => exact Or.inr (Or.inr ⟨htx, rfl⟩)
  | rollbackStarted inner hpc htx => exact Or.inr (Or.inr ⟨htx, rfl⟩)
  | txWatched htx hctx => exact Or.inr (Or.inr ⟨htx, rfl⟩)
  | workEndedTx hpc htx => exact Or.inr (Or.inr ⟨htx, rfl⟩)
  | _ => exact Or.inl rfl

/-- The inputs after which no transaction is open. -/
def Input.endsTx : Input → Bool
  | .commitStarted => true
  | .rollbackStarted => true
  | .txWatched => true
  | .workEndedTx => true
  | _ => false

theorem Moves.endsTx (h : Moves inputs grant s input t) (hinput : input.endsTx = true) :
    t.tx = .done := by
  cases h with
  | commitStarted hpc hctx htx => rfl
  | rollbackStarted inner hpc htx => rfl
  | txWatched htx hctx => rfl
  | workEndedTx hpc htx => rfl
  | _ => cases hinput

theorem Pc.stopped_of_progress {p : Pc} (h : 3 ≤ p.progress) : p.stopped = true := by
  cases p with
  | beginning => exact absurd h (by decide)
  | stoppingBegin => exact absurd h (Nat.not_succ_le_zero 2)
  | polling => exact absurd h (by decide)
  | waiting => exact absurd h (Nat.not_succ_le_zero 2)
  | working => exact absurd h (by decide)
  | stopping inner =>
    cases inner with
    | none => exact absurd h (by decide)
    | some inner => exact absurd h (Nat.not_succ_le_zero 2)
  | _ => rfl

namespace Flow

variable {p q : Pc}

theorem caller (h : Flow inputs grant p input q) : input.isBackground = false := by
  cases h with
  | _ => rfl

theorem stopped (h : Flow inputs grant p input q) (hq : q.stopped = true) :
    p.stopped = true ∨ input = .stopReturned := by
  cases h with
  | stoppedBegin => exact Or.inr rfl
  | proceeds => exact Or.inr rfl
  | aborts => exact Or.inr rfl
  | renewed => exact Or.inl rfl
  | notRenewed => exact Or.inl rfl
  | commitStarted => exact Or.inl rfl
  | commitRefused => exact Or.inl rfl
  | committed => exact Or.inl rfl
  | notCommitted => exact Or.inl rfl
  | rollbackStarted => exact Or.inl rfl
  | rollbackVoid => exact Or.inl rfl
  | rolledBack => exact Or.inl rfl
  | released => exact Or.inl rfl
  | _ => cases hq

theorem unopened (h : Flow inputs grant p input q) (hq : q.unopened = true) : p.unopened = true := by
  cases h with
  | notBegun => rfl
  | _ => cases hq

/-- A call succeeds only from calls that have succeeded. -/
theorem clean (h : Flow inputs grant p input q) (hq : 3 ≤ q.progress) :
    3 ≤ p.progress ∨ input = .stopReturned ∧ q = .renewing := by
  cases h with
  | proceeds => exact Or.inr ⟨rfl, rfl⟩
  | renewed => exact Or.inl (by decide)
  | commitStarted => exact Or.inl (by decide)
  | committed => exact Or.inl (by decide)
  | released answer inner =>
    cases inner with
    | none => exact Or.inl (by decide)
    | some inner =>
      refine absurd hq ?_
      unfold settle
      split
      · exact Nat.not_succ_le_zero 2
      · exact Nat.not_succ_le_zero 2
  | worked => exact absurd hq (by decide)
  | locked => exact absurd hq (by decide)
  | begun => exact absurd hq (by decide)
  | timerFired => exact absurd hq (by decide)
  | _ => exact absurd hq (Nat.not_succ_le_zero 2)

end Flow

/-- What holds between two steps, whatever has happened. A transaction can only be open
after its end was asked for when its context is done: `database/sql` will roll it back. -/
structure Steady (s : State) : Prop where
  failed : s.maintainer.failure ≠ none → s.maintainer.phase = .finished ∧ s.workCtx ≠ none
  stopped : s.pc.stopped = true → s.maintainer.phase = .finished
  clean : 3 ≤ s.pc.progress → s.maintainer.failure = none
  unopened : s.pc.unopened = true → s.tx = .none
  closed : s.pc.closed = true → s.tx = .open → s.workCtx ≠ none

theorem steady_opened : Steady opened where
  failed := fun h => absurd rfl h
  stopped := by
    intro h
    cases h
  clean := fun _ => rfl
  unopened := fun _ => rfl
  closed := by
    intro h
    cases h

theorem steady_refused (err : GoError) : Steady (refused err) where
  failed := fun h => absurd rfl h
  stopped := fun _ => rfl
  clean := fun _ => rfl
  unopened := fun _ => rfl
  closed := by
    intro _ h
    cases h

/-- What a background step does to the maintainer and the contexts. -/
structure BackgroundFrame (s t : State) : Prop where
  finished : s.maintainer.phase = .finished → t.maintainer = s.maintainer
  failed : t.maintainer.failure ≠ none → s.maintainer.failure = none →
    t.maintainer.phase = .finished ∧ t.workCtx ≠ none
  ctx : s.workCtx ≠ none → t.workCtx ≠ none

theorem Moves.backgroundFrame (h : Moves inputs grant s input t)
    (hbackground : input.isBackground = true) : BackgroundFrame s t := by
  cases h with
  | ticked hphase =>
    refine ⟨fun h => ?_, fun h hnone => absurd hnone h, fun h => h⟩
    rw [hphase] at h
    cases h
  | maintainerRenewed answer hphase =>
    rcases maintainerRead_cases inputs grant s answer with
      ⟨renewed, _, _, h⟩ | ⟨err, h⟩
    · rw [h]
      refine ⟨fun h => ?_, fun h hnone => absurd hnone h, fun h => h⟩
      rw [hphase] at h
      cases h
    · rw [h]
      refine ⟨fun h => ?_, fun _ _ => ⟨rfl, ?_⟩, fun h => ?_⟩
      · rw [hphase] at h
        cases h
      · cases s.workCtx with
        | none => exact Option.some_ne_none _
        | some done => exact Option.some_ne_none _
      · cases hctx : s.workCtx with
        | none => exact absurd hctx h
        | some done => exact Option.some_ne_none _
  | maintainerLeft hphase =>
    refine ⟨fun h => ?_, fun h hnone => absurd hnone h, fun h => h⟩
    rw [hphase] at h
    cases h
  | parentCancelled done hparent =>
    exact ⟨fun _ => rfl, fun h hnone => absurd hnone h, fun h => h⟩
  | parentPropagated hctx hparent =>
    exact ⟨fun _ => rfl, fun h hnone => absurd hnone h, fun h => absurd hctx h⟩
  | txWatched htx hctx => exact ⟨fun _ => rfl, fun h hnone => absurd hnone h, fun h => h⟩
  | workEndedTx hpc htx => exact ⟨fun _ => rfl, fun h hnone => absurd hnone h, fun h => h⟩
  | _ => cases hbackground

theorem commitRefusal_open {err : GoError} (h : s.commitRefusal = some err) (hopen : s.tx = .open) :
    s.workCtx ≠ none := by
  intro hctx
  unfold commitRefusal at h
  rw [hctx, hopen] at h
  cases h

theorem steady_unopened (h : Steady s) (hmoves : Moves inputs grant s input t)
    (hunopened : t.pc.unopened = true) : t.tx = .none := by
  have hs : s.pc.unopened = true := by
    rcases hmoves.flow with hflow | ⟨_, hpc⟩
    · exact hflow.unopened hunopened
    · rw [← hpc]
      exact hunopened
  rcases hmoves.tx with htx | ⟨_, hpolling⟩ | ⟨hopen, _⟩
  · rw [htx]
    exact h.unopened hs
  · rw [hpolling] at hunopened
    cases hunopened
  · rw [h.unopened hs] at hopen
    cases hopen

theorem Moves.keeps_ctx (h : Moves inputs grant s input t) (hctx : s.workCtx ≠ none) :
    t.workCtx ≠ none := by
  cases hbackground : input.isBackground with
  | false =>
    rw [(h.callerFrame hbackground).workCtx]
    exact hctx
  | true => exact (h.backgroundFrame hbackground).ctx hctx

/-- A transaction is still open once its end was asked for only if `Commit` refused it. -/
theorem closed_cases (h : Steady s) (hmoves : Moves inputs grant s input t)
    (hclosed : t.pc.closed = true) (hopen : t.tx = .open) :
    s.tx = .open ∧
      (s.pc.closed = true ∨ input = .commitRefused ∧ ∃ err, s.commitRefusal = some err) := by
  have hends (hinput : input.endsTx = true) : False := by
    rw [hmoves.endsTx hinput] at hopen
    cases hopen
  have hs : s.tx = .open := by
    rcases hmoves.tx with htx | ⟨_, hpolling⟩ | ⟨_, htx⟩
    · rw [← htx]
      exact hopen
    · rw [hpolling] at hclosed
      cases hclosed
    · rw [htx] at hopen
      cases hopen
  refine ⟨hs, ?_⟩
  rcases hmoves.flow with hflow | ⟨_, hpc⟩
  · generalize hp : s.pc = p at hflow
    generalize t.pc = q at hflow hclosed
    cases hflow with
    | stoppedBegin =>
      have hnone := h.unopened (by rw [hp]; rfl)
      rw [hs] at hnone
      cases hnone
    | commitStarted => exact (hends rfl).elim
    | rollbackStarted => exact (hends rfl).elim
    | commitRefused =>
      cases hmoves with
      | commitRefused err _ herr => exact Or.inr ⟨rfl, err, herr⟩
    | rollbackVoid =>
      cases hmoves with
      | rollbackVoid inner _ htx => exact absurd hs htx
    | committed => exact Or.inl rfl
    | notCommitted => exact Or.inl rfl
    | rolledBack => exact Or.inl rfl
    | released => exact Or.inl rfl
    | _ => cases hclosed
  · rw [hpc] at hclosed
    exact Or.inl hclosed

theorem steady_closed (h : Steady s) (hmoves : Moves inputs grant s input t)
    (hclosed : t.pc.closed = true) (hopen : t.tx = .open) : t.workCtx ≠ none := by
  apply hmoves.keeps_ctx
  obtain ⟨hs, hcases⟩ := closed_cases h hmoves hclosed hopen
  rcases hcases with hbefore | ⟨_, err, herr⟩
  · exact h.closed hbefore hs
  · exact commitRefusal_open herr hs

theorem steady_step (h : Steady s) (hmoves : Moves inputs grant s input t) : Steady t := by
  refine ⟨?_, ?_, ?_, steady_unopened h hmoves, steady_closed h hmoves⟩
  · intro hfailure
    cases hbackground : input.isBackground with
    | false =>
      obtain ⟨hphase, hsame, _, hctx⟩ := hmoves.callerFrame hbackground
      rw [hphase, hctx]
      rw [hsame] at hfailure
      exact h.failed hfailure
    | true =>
      have hframe := hmoves.backgroundFrame hbackground
      by_cases hnone : s.maintainer.failure = none
      · exact hframe.failed hfailure hnone
      · obtain ⟨hphase, hctx⟩ := h.failed hnone
        rw [hframe.finished hphase]
        exact ⟨hphase, hframe.ctx hctx⟩
  · intro hstopped
    rcases hmoves.flow with hflow | ⟨hbackground, hpc⟩
    · rw [(hmoves.callerFrame hflow.caller).phase]
      rcases hflow.stopped hstopped with hs | rfl
      · exact h.stopped hs
      · exact hmoves.finished
    · rw [hpc] at hstopped
      rw [(hmoves.backgroundFrame hbackground).finished (h.stopped hstopped)]
      exact h.stopped hstopped
  · intro hclean
    rcases hmoves.flow with hflow | ⟨hbackground, hpc⟩
    · rw [(hmoves.callerFrame hflow.caller).failure]
      rcases hflow.clean hclean with hs | ⟨rfl, hq⟩
      · exact h.clean hs
      · exact (hmoves.proceeds hq).1
    · rw [hpc] at hclean
      rw [(hmoves.backgroundFrame hbackground).finished
        (h.stopped (Pc.stopped_of_progress hclean))]
      exact h.clean hclean

/-- The answers that a successful call needs, in their order. -/
def milestones (elapsed : Int) (renewed : LeaseGrant) : List Input :=
  [.polled (.ok true) elapsed, .worked (.ok ()), .stopReturned, .renewed (.ok renewed),
    .commitStarted, .committed (.ok ()), .released (.ok true)]

/-- The first `n` of them have come. -/
def Through (inputs : Inputs) (grant : LeaseGrant) (n : Nat) (is : List Input) : Prop :=
  ∃ elapsed renewed, (4 ≤ n → Extends inputs grant renewed) ∧
    ((milestones elapsed renewed).take n).Sublist is

theorem Through.zero {is : List Input} : Through inputs grant 0 is :=
  ⟨0, grant, fun h => absurd h (by decide), List.nil_sublist is⟩

theorem Through.append {n : Nat} {is : List Input} (h : Through inputs grant n is) (es : List Input) :
    Through inputs grant n (is ++ es) := by
  obtain ⟨elapsed, renewed, hextends, hsub⟩ := h
  exact ⟨elapsed, renewed, hextends, hsub.trans (List.sublist_append_left is es)⟩

theorem sublist_concat {α : Type} {xs ys : List α} (h : xs.Sublist ys) (a : α) :
    (xs ++ [a]).Sublist (ys ++ [a]) := h.append (List.Sublist.refl [a])

/-- A call that may still succeed has had all the answers that lead to it. -/
theorem Flow.through {p q : Pc} {is : List Input} (h : Flow inputs grant p input q)
    (hthrough : Through inputs grant p.progress is) :
    Through inputs grant q.progress (is ++ [input]) := by
  obtain ⟨elapsed, renewed, hextends, hsub⟩ := hthrough
  cases h with
  | locked now =>
    exact ⟨now, renewed, fun h => absurd h (by decide), sublist_concat (List.nil_sublist is) _⟩
  | worked =>
    exact ⟨elapsed, renewed, fun h => absurd h (by decide), sublist_concat hsub _⟩
  | proceeds =>
    exact ⟨elapsed, renewed, fun h => absurd h (by decide), sublist_concat hsub _⟩
  | renewed renewed' hextends' =>
    exact ⟨elapsed, renewed', fun _ => hextends', sublist_concat hsub _⟩
  | commitStarted =>
    exact ⟨elapsed, renewed, fun _ => hextends (by decide), sublist_concat hsub _⟩
  | committed =>
    exact ⟨elapsed, renewed, fun _ => hextends (by decide), sublist_concat hsub _⟩
  | released answer inner =>
    cases inner with
    | none =>
      cases answer with
      | ok released =>
        cases released with
        | true => exact ⟨elapsed, renewed, fun _ => hextends (by decide), sublist_concat hsub _⟩
        | false => exact .zero
      | error err => exact .zero
    | some inner =>
      unfold settle
      split
      · exact .zero
      · exact .zero
  | _ => exact .zero

/-- What is known when `Commit` starts. -/
structure Admits (inputs : Inputs) (grant : LeaseGrant) (is : List Input) : Prop where
  answers : ∃ elapsed renewed, Extends inputs grant renewed ∧
    [.polled (.ok true) elapsed, .worked (.ok ()), .stopReturned, .renewed (.ok renewed)].Sublist is
  renewals : ∀ answer, .maintainerRenewed answer ∈ is →
    ∃ renewed, answer = .ok renewed ∧ Extends inputs grant renewed
  live : .parentPropagated ∉ is
  uncancelled : BeforeEach (· = .stopReturned) (fun pre => ∀ done, .parentCancelled done ∉ pre) is
  untouched : ∀ e ∈ is, e.endsTx = false

/-- A step of the maintainer, or a rollback, by the routine or by `database/sql`. -/
def Input.opposesCommit : Input → Bool
  | .ticked => true
  | .maintainerRenewed _ => true
  | .maintainerLeft => true
  | .rollbackStarted => true
  | .rollbackVoid => true
  | .txWatched => true
  | _ => false

/-- The routine may have started a commit. -/
def Pc.commits : Pc → Bool
  | .committing => true
  | .releasing _ => true
  | .settled _ => true
  | _ => false

/-- What a history says about the state it leads to. -/
structure Recorded (inputs : Inputs) (grant : LeaseGrant) (is : List Input) (s : State) : Prop where
  steady : Steady s
  through : Through inputs grant s.pc.progress is
  renewals : s.maintainer.failure = none → ∀ answer, .maintainerRenewed answer ∈ is →
    ∃ renewed, answer = .ok renewed ∧ Extends inputs grant renewed
  live : s.workCtx = none → .parentPropagated ∉ is
  parent : s.parent = none → ∀ done, .parentCancelled done ∉ is
  running : s.pc.stopped = false → .stopReturned ∉ is ∧ .commitStarted ∉ is
  uncommitted : s.pc.commits = false → .commitStarted ∉ is
  untouched : s.tx ≠ .done → ∀ e ∈ is, e.endsTx = false
  uncancelled : 3 ≤ s.pc.progress →
    BeforeEach (· = .stopReturned) (fun pre => ∀ done, .parentCancelled done ∉ pre) is

theorem recorded_nil (h : Steady s) (hprogress : s.pc.progress = 0) :
    Recorded inputs grant [] s where
  steady := h
  through := by
    rw [hprogress]
    exact .zero
  renewals := by simp
  live := by simp
  parent := by simp
  running := by simp
  uncommitted := by simp
  untouched := by simp
  uncancelled := fun _ => BeforeEach.of_forall_not (by simp)

theorem forall_mem_concat {α : Type} {P : α → Prop} {xs : List α} {a : α} (h : ∀ x ∈ xs, P x)
    (ha : P a) : ∀ x ∈ xs ++ [a], P x := by
  intro x hx
  rcases List.mem_append.mp hx with hx | hx
  · exact h x hx
  · rw [List.mem_singleton.mp hx]
    exact ha

theorem not_mem_concat {α : Type} {xs : List α} {a b : α} (h : b ∉ xs) (ha : b ≠ a) :
    b ∉ xs ++ [a] := by
  intro hb
  rcases List.mem_append.mp hb with hb | hb
  · exact h hb
  · exact ha (List.mem_singleton.mp hb)

section Steps

variable {is : List Input}

theorem renewals_step (h : Recorded inputs grant is s) (hmoves : Moves inputs grant s input t)
    (hfailure : t.maintainer.failure = none) :
    ∀ answer, .maintainerRenewed answer ∈ is ++ [input] →
      ∃ renewed, answer = .ok renewed ∧ Extends inputs grant renewed := by
  have hs : s.maintainer.failure = none := by
    cases hbackground : input.isBackground with
    | false => rw [← (hmoves.callerFrame hbackground).failure, hfailure]
    | true =>
      by_contra hfailed
      have hsame := (hmoves.backgroundFrame hbackground).finished (h.steady.failed hfailed).1
      rw [hsame] at hfailure
      exact hfailed hfailure
  intro answer hmem
  rcases List.mem_append.mp hmem with hmem | hmem
  · exact h.renewals hs answer hmem
  · rw [← List.mem_singleton.mp hmem] at hmoves
    cases hmoves with
    | maintainerRenewed _ hphase =>
      rcases maintainerRead_cases inputs grant s answer with
        ⟨renewed, hanswer, hextends, _⟩ | ⟨err, herr⟩
      · exact ⟨renewed, hanswer, hextends⟩
      · rw [herr] at hfailure
        cases hfailure

theorem live_step (h : Recorded inputs grant is s) (hmoves : Moves inputs grant s input t)
    (hctx : t.workCtx = none) : .parentPropagated ∉ is ++ [input] := by
  have hs : s.workCtx = none := by
    by_contra hdone
    exact hmoves.keeps_ctx hdone hctx
  apply not_mem_concat (h.live hs)
  intro hinput
  rw [← hinput] at hmoves
  cases hmoves with
  | parentPropagated _ hparent => exact hparent hctx

theorem parent_step (h : Recorded inputs grant is s) (hmoves : Moves inputs grant s input t)
    (hparent : t.parent = none) : ∀ done, .parentCancelled done ∉ is ++ [input] := by
  intro done
  cases hbackground : input.isBackground with
  | false =>
    rw [(hmoves.callerFrame hbackground).parent] at hparent
    apply not_mem_concat (h.parent hparent done)
    intro hinput
    rw [← hinput] at hbackground
    cases hbackground
  | true =>
    cases hmoves with
    | parentCancelled done' _ => cases hparent
    | maintainerRenewed answer _ =>
      have hsame : (s.maintainerRead inputs grant answer).parent = s.parent := by
        rcases maintainerRead_cases inputs grant s answer with
          ⟨renewed, _, _, h⟩ | ⟨err, h⟩
        · rw [h]
        · rw [h]
      rw [hsame] at hparent
      exact not_mem_concat (h.parent hparent done) (by intro h; cases h)
    | ticked => exact not_mem_concat (h.parent hparent done) (by intro h; cases h)
    | maintainerLeft => exact not_mem_concat (h.parent hparent done) (by intro h; cases h)
    | parentPropagated => exact not_mem_concat (h.parent hparent done) (by intro h; cases h)
    | txWatched => exact not_mem_concat (h.parent hparent done) (by intro h; cases h)
    | workEndedTx => exact not_mem_concat (h.parent hparent done) (by intro h; cases h)
    | _ => cases hbackground

/-- What the input of a call says about the call after it. -/
theorem Flow.stopped_of_input {p q : Pc} (h : Flow inputs grant p input q)
    (hinput : input = .stopReturned ∨ input = .commitStarted) : q.stopped = true := by
  cases h with
  | stoppedBegin => rfl
  | proceeds => rfl
  | aborts => rfl
  | commitStarted => rfl
  | _ => simp at hinput

theorem Flow.running {p q : Pc} (h : Flow inputs grant p input q) (hq : q.stopped = false) :
    p.stopped = false := by
  cases h with
  | _ => first | rfl | cases hq

theorem running_step (h : Recorded inputs grant is s) (hmoves : Moves inputs grant s input t)
    (hrunning : t.pc.stopped = false) :
    .stopReturned ∉ is ++ [input] ∧ .commitStarted ∉ is ++ [input] := by
  rcases hmoves.flow with hflow | ⟨hbackground, hpc⟩
  · have hinput (hor : input = .stopReturned ∨ input = .commitStarted) : False := by
      rw [hflow.stopped_of_input hor] at hrunning
      cases hrunning
    obtain ⟨hstop, hcommit⟩ := h.running (hflow.running hrunning)
    exact ⟨not_mem_concat hstop fun h => hinput (Or.inl h.symm),
      not_mem_concat hcommit fun h => hinput (Or.inr h.symm)⟩
  · rw [hpc] at hrunning
    obtain ⟨hstop, hcommit⟩ := h.running hrunning
    refine ⟨not_mem_concat hstop ?_, not_mem_concat hcommit ?_⟩
    · intro hinput
      rw [← hinput] at hbackground
      cases hbackground
    · intro hinput
      rw [← hinput] at hbackground
      cases hbackground

theorem Flow.uncommitted {p q : Pc} (h : Flow inputs grant p input q) (hq : q.commits = false) :
    p.commits = false ∧ input ≠ .commitStarted := by
  cases h with
  | commitStarted => cases hq
  | commitRefused => cases hq
  | committed => cases hq
  | notCommitted => cases hq
  | stoppedBegin => cases hq
  | rollbackVoid => cases hq
  | rolledBack => cases hq
  | released => cases hq
  | _ => exact ⟨rfl, by intro h; cases h⟩

theorem uncommitted_step (h : Recorded inputs grant is s) (hmoves : Moves inputs grant s input t)
    (hbefore : t.pc.commits = false) : .commitStarted ∉ is ++ [input] := by
  rcases hmoves.flow with hflow | ⟨hbackground, hpc⟩
  · obtain ⟨hs, hinput⟩ := hflow.uncommitted hbefore
    exact not_mem_concat (h.uncommitted hs) hinput.symm
  · rw [hpc] at hbefore
    apply not_mem_concat (h.uncommitted hbefore)
    intro hinput
    rw [← hinput] at hbackground
    cases hbackground

theorem untouched_step (h : Recorded inputs grant is s) (hmoves : Moves inputs grant s input t)
    (htx : t.tx ≠ .done) : ∀ e ∈ is ++ [input], e.endsTx = false := by
  have hs : s.tx ≠ .done := by
    intro hdone
    rcases hmoves.tx with hsame | ⟨hbeginning, _⟩ | ⟨hopen, _⟩
    · exact htx (hsame.trans hdone)
    · rw [h.steady.unopened (by rw [hbeginning]; rfl)] at hdone
      cases hdone
    · rw [hdone] at hopen
      cases hopen
  apply forall_mem_concat (h.untouched hs)
  cases hinput : input.endsTx with
  | false => rfl
  | true => exact absurd (hmoves.endsTx hinput) htx

theorem uncancelled_step (h : Recorded inputs grant is s) (hmoves : Moves inputs grant s input t)
    (hprogress : 3 ≤ t.pc.progress) :
    BeforeEach (· = .stopReturned) (fun pre => ∀ done, .parentCancelled done ∉ pre)
      (is ++ [input]) := by
  rcases hmoves.flow with hflow | ⟨hbackground, hpc⟩
  · rcases hflow.clean hprogress with hs | ⟨rfl, hq⟩
    · apply (h.uncancelled hs).concat
      intro hinput
      subst hinput
      have hrunning := Pc.stopped_of_progress hs
      generalize s.pc = p at hflow hrunning
      generalize t.pc = q at hflow
      cases hflow with
      | stoppedBegin => cases hrunning
      | proceeds => cases hrunning
      | aborts => cases hrunning
    · have hrunning : s.pc.stopped = false := by
        rw [hq] at hflow
        generalize s.pc = p at hflow
        cases hflow with
        | proceeds => rfl
      apply BeforeEach.concat
      · apply BeforeEach.of_forall_not
        intro e he hstop
        rw [hstop] at he
        exact (h.running hrunning).1 he
      · intro _
        exact h.parent (hmoves.proceeds hq).2
  · rw [hpc] at hprogress
    apply (h.uncancelled hprogress).concat
    intro hinput
    rw [hinput] at hbackground
    cases hbackground

theorem recorded_step (h : Recorded inputs grant is s) (hmoves : Moves inputs grant s input t) :
    Recorded inputs grant (is ++ [input]) t where
  steady := steady_step h.steady hmoves
  through := by
    rcases hmoves.flow with hflow | ⟨_, hpc⟩
    · exact hflow.through h.through
    · rw [hpc]
      exact h.through.append [input]
  renewals := renewals_step h hmoves
  live := live_step h hmoves
  parent := parent_step h hmoves
  running := running_step h hmoves
  uncommitted := uncommitted_step h hmoves
  untouched := untouched_step h hmoves
  uncancelled := uncancelled_step h hmoves

end Steps

theorem Recorded.admits {is : List Input} (h : Recorded inputs grant is s) (hpc : s.pc = .admitted)
    (hctx : s.workCtx = none) (htx : s.tx = .open) : Admits inputs grant is := by
  have hprogress : s.pc.progress = 4 := by
    rw [hpc]
    rfl
  have hthrough := h.through
  rw [hprogress] at hthrough
  obtain ⟨elapsed, renewed, hextends, hsub⟩ := hthrough
  have hopen : s.tx ≠ .done := by
    rw [htx]
    decide
  exact ⟨⟨elapsed, renewed, hextends (by decide), hsub⟩,
    h.renewals (h.steady.clean (by rw [hprogress]; decide)), h.live hctx,
    h.uncancelled (by rw [hprogress]; decide), h.untouched hopen⟩

/-- What opposes a commit finds none started. -/
theorem Recorded.unopposed {is : List Input} (h : Recorded inputs grant is s)
    (hmoves : Moves inputs grant s input t) (hopposes : input.opposesCommit = true) :
    .commitStarted ∉ is := by
  have hrunning (hphase : s.maintainer.phase ≠ .finished) : .commitStarted ∉ is := by
    cases hstopped : s.pc.stopped with
    | true => exact absurd (h.steady.stopped hstopped) hphase
    | false => exact (h.running hstopped).2
  cases hmoves with
  | ticked hphase => exact hrunning (by rw [hphase]; decide)
  | maintainerRenewed answer hphase => exact hrunning (by rw [hphase]; decide)
  | maintainerLeft hphase => exact hrunning (by rw [hphase]; decide)
  | rollbackStarted inner hpc htx => exact h.uncommitted (by rw [hpc]; rfl)
  | rollbackVoid inner hpc htx => exact h.uncommitted (by rw [hpc]; rfl)
  | txWatched htx hctx =>
    intro hcommit
    have hends := h.untouched (by rw [htx]; decide) _ hcommit
    cases hends
  | _ => cases hopposes

theorem opened_of_valid {present : Present} {answer : Except GoError LeaseGrant} {start : State}
    (h : withMaintainedXactLock inputs present answer = .held grant start) :
    start = opened ∧ acquiredChange inputs grant = none ∨ ∃ err, start = refused err := by
  unfold withMaintainedXactLock at h
  split at h
  · cases h
  · split at h
    · cases h
    · split at h
      · cases h
        exact Or.inr ⟨_, rfl⟩
      · rename_i hvalid
        cases h
        refine Or.inl ⟨rfl, ?_⟩
        unfold validateMaintainedAcquiredGrant at hvalid
        exact Option.map_eq_none_iff.mp hvalid

/-- A refused grant is released, and nothing else happens. -/
def Pc.refusing : Pc → Bool
  | .releasing (some _) => true
  | .settled (some _) => true
  | _ => false

theorem refused_run {err : GoError} {is : List Input}
    (h : Exec (Step inputs grant) (refused err) is s) :
    s.pc.refusing = true ∧ .commitStarted ∉ is := by
  refine h.invariant (I := fun is s => s.pc.refusing = true ∧ .commitStarted ∉ is)
    ⟨rfl, by simp⟩ ?_
  intro is s input t _ hrefusing hstep
  obtain ⟨hpc, hcommit⟩ := hrefusing
  rcases (step_moves hstep).flow with hflow | ⟨hbackground, hsame⟩
  · generalize s.pc = p at hflow hpc
    generalize t.pc = q at hflow
    cases hflow with
    | released answer inner =>
      refine ⟨?_, not_mem_concat hcommit (by intro h; cases h)⟩
      cases inner with
      | none => cases hpc
      | some inner =>
        unfold settle
        split
        · rfl
        · rfl
    | _ => cases hpc
  · rw [hsame]
    refine ⟨hpc, not_mem_concat hcommit ?_⟩
    intro hinput
    rw [← hinput] at hbackground
    cases hbackground

/-- In every run, `Commit` reaches the driver only with the lock taken, the work done, the
maintainer gone without a failure and the final renewal granted, all in this order, and
with a work context that is live. From then on nothing renews and nothing rolls back. -/
theorem commit_needs_admission (inputs : Inputs) (present : Present)
    (answer : Except GoError LeaseGrant) :
    match withMaintainedXactLock inputs present answer with
    | .ended _ => True
    | .held grant start => ∀ is s, Exec (Step inputs grant) start is s →
        BeforeEach (· = .commitStarted)
          (fun pre => acquiredChange inputs grant = none ∧ Admits inputs grant pre) is ∧
        BeforeEach (fun e => e.opposesCommit = true) (fun pre => .commitStarted ∉ pre) is := by
  cases hsession : withMaintainedXactLock inputs present answer with
  | ended result => trivial
  | held grant start =>
    intro is s hrun
    rcases opened_of_valid hsession with ⟨rfl, hvalid⟩ | ⟨err, rfl⟩
    · have hboth := hrun.invariant (I := fun is s => Recorded inputs grant is s ∧
        BeforeEach (· = .commitStarted)
          (fun pre => acquiredChange inputs grant = none ∧ Admits inputs grant pre) is ∧
        BeforeEach (fun e => e.opposesCommit = true) (fun pre => .commitStarted ∉ pre) is)
        ⟨recorded_nil steady_opened rfl, BeforeEach.of_forall_not (by simp),
          BeforeEach.of_forall_not (by simp)⟩ ?_
      · exact hboth.2
      · intro is s input t _ h hstep
        obtain ⟨hrecorded, hadmitted, hunopposed⟩ := h
        have hmoves := step_moves hstep
        refine ⟨recorded_step hrecorded hmoves, hadmitted.concat ?_, hunopposed.concat ?_⟩
        · intro hinput
          subst hinput
          cases hmoves with
          | commitStarted hpc hctx htx => exact ⟨hvalid, hrecorded.admits hpc hctx htx⟩
        · exact hrecorded.unopposed hmoves
    · have hno := (refused_run hrun).2
      refine ⟨BeforeEach.of_forall_not ?_, ?_⟩
      · intro e he heq
        rw [heq] at he
        exact hno he
      · intro pre e post hsplit _ hmem
        exact hno (by rw [hsplit]; exact List.mem_append_left _ hmem)

def sampleInputs : Inputs := ⟨"k", true, ⟨60000000000, 30000000000, 250000000, ""⟩, 20000000000⟩

def sampleGrant : LeaseGrant := ⟨"k", "h", 7, 1000, 60000⟩

def samplePresent : Present := ⟨true, true, true⟩

/-- One background renewal while the work runs. -/
def sampleSchedule : List Input :=
  [.begun (.ok ()), .polled (.ok false) 0, .timerFired, .polled (.ok true) 250000000, .ticked,
    .maintainerRenewed (.ok sampleGrant), .worked (.ok ()), .maintainerLeft, .stopReturned,
    .renewed (.ok sampleGrant), .commitStarted, .committed (.ok ()), .released (.ok true)]

theorem sample_held :
    withMaintainedXactLock sampleInputs samplePresent (.ok sampleGrant) =
      .held sampleGrant opened := by
  rfl

/-- The state in which the call has returned nil. -/
def sampleEnd : State where
  pc := .settled none
  maintainer := ⟨.finished, true, none⟩
  parent := none
  workCtx := none
  tx := .done

theorem sample_exec : Exec (Step sampleInputs sampleGrant) opened sampleSchedule sampleEnd :=
  Exec.of_foldlM rfl

theorem sample_commit_needs_admission :
    Admits sampleInputs sampleGrant (sampleSchedule.take 10) := by
  have h := commit_needs_admission sampleInputs samplePresent (.ok sampleGrant)
  rw [sample_held] at h
  exact ((h sampleSchedule sampleEnd sample_exec).1 _ _ (sampleSchedule.drop 11) rfl rfl).2

end OresLocks.Go
