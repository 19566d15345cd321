import OresLocks.GoErrors

/-!
# The maintained transaction routine of the Go package

The goroutine of the caller and the goroutine of its lease maintainer share the channel
`stopCh`, the stored failure and the work context. `parent` and `workCtx` are `Err()` and
`Cause()` of a context that is done. A `Pc` is the call the routine waits for.

`database/sql` rolls a transaction back when its context is done, and refuses to commit
it then; a transaction that has ended answers `ErrTxDone`.
-/

namespace OresLocks.Go

set_option autoImplicit false

open RenewalGo (milliseconds maxRenewalTtlMs)

abbrev LeaseGrant := RenewalGo.LeaseGrant

/-- Durations are nanoseconds. -/
structure AcquireOptions where
  ttl : Int
  waitTimeout : Int
  retryInterval : Int
  holder : String
  deriving DecidableEq

structure Inputs where
  key : String
  wait : Bool
  acquire : AcquireOptions
  renewInterval : Int
  deriving DecidableEq

/-- `LeaseMaintenanceOptions.Validate`. -/
def validate (inputs : Inputs) : Option GoError :=
  let acquire := inputs.acquire
  if acquire.ttl ≤ 0 then
    some (invalidPlan inputs.key "fiducia lease TTL must be greater than zero")
  else if maxRenewalTtlMs < milliseconds acquire.ttl then
    some (invalidPlan inputs.key
      ("fiducia lease TTL must be no greater than " ++ toString maxRenewalTtlMs ++ " ms"))
  else if inputs.renewInterval ≤ 0 then
    some (invalidPlan inputs.key "fiducia renewal interval must be greater than zero")
  else if acquire.ttl.tdiv 2 < inputs.renewInterval then
    some (invalidPlan inputs.key
      ("fiducia renewal interval " ++ toString (milliseconds inputs.renewInterval) ++
        " ms is unsafe for TTL " ++ toString (milliseconds acquire.ttl) ++
        " ms; it must be no greater than half the TTL"))
  else if acquire.waitTimeout < 0 then
    some (invalidPlan inputs.key "PostgreSQL advisory-lock wait timeout must not be negative")
  else if acquire.retryInterval < 0 then
    some (invalidPlan inputs.key "PostgreSQL advisory-lock retry interval must not be negative")
  else if inputs.wait && decide (acquire.retryInterval ≤ 0) then
    some (invalidPlan inputs.key
      "PostgreSQL advisory-lock retry interval must be greater than zero when wait is enabled")
  else none

def maintainedAcquireStep (wait : Bool) : LockStep :=
  if wait then .fiduciaAcquire else .fiduciaTryAcquire

def acquiredChange (inputs : Inputs) (grant : LeaseGrant) : Option String :=
  if grant.key ≠ inputs.key then some "key"
  else if grant.holder = "" then some "holder"
  else if inputs.acquire.holder ≠ "" ∧ grant.holder ≠ inputs.acquire.holder then some "holder"
  else if grant.ttlMs ≠ milliseconds inputs.acquire.ttl then some "TTL"
  else if grant.leaseExpiresMs < 0 then some "expiry"
  else none

def validateMaintainedAcquiredGrant (inputs : Inputs) (grant : LeaseGrant) : Option GoError :=
  (acquiredChange inputs grant).map fun changed =>
    .lock .lostLease inputs.key (some (maintainedAcquireStep inputs.wait))
      ("fiducia acquisition returned an invalid grant " ++ changed ++
        "; maintained authority cannot be proven") none

def renewedChange (original renewed : LeaseGrant) (ttl : Int) : Option String :=
  if renewed.key ≠ original.key then some "key"
  else if renewed.holder ≠ original.holder then some "holder"
  else if renewed.fencingToken ≠ original.fencingToken then some "fencing token"
  else if renewed.ttlMs ≠ milliseconds ttl then some "TTL"
  else if renewed.leaseExpiresMs < 0 then some "expiry"
  else none

/-- `renewChecked` once `lease.Renew` has answered. -/
def renewChecked (original : LeaseGrant) (ttl : Int) (answer : Except GoError LeaseGrant) :
    Except GoError LeaseGrant :=
  match answer with
  | .error err => .error (tagStep err .fiduciaRenew)
  | .ok renewed =>
    match renewedChange original renewed ttl with
    | some changed =>
      .error (.lock .lostLease original.key (some .fiduciaRenew)
        ("fiducia renewal changed the grant " ++ changed ++
          "; fenced authority cannot be proven") none)
    | none => .ok renewed

/-- `Err()` and `Cause()`. -/
structure Done where
  err : GoError
  cause : GoError

/-- Where the goroutine of the maintainer is: in its `select`, in `lease.Renew`, or gone. -/
inductive MaintainerPhase where
  | selecting
  | renewing
  | finished
  deriving DecidableEq

structure LeaseMaintainer where
  phase : MaintainerPhase
  stopped : Bool
  failure : Option GoError

inductive Tx where
  | none
  | open
  | done
  deriving DecidableEq

inductive Pc where
  | beginning
  | stoppingBegin (err : GoError)
  | polling
  | waiting (delay : Int)
  | working
  | stopping (inner : Option GoError)
  | renewing
  | admitted
  | committing
  | aborting (inner : GoError)
  | rollingBack (inner : GoError)
  | releasing (inner : Option GoError)
  | settled (result : Option GoError)

structure State where
  pc : Pc
  maintainer : LeaseMaintainer
  parent : Option Done
  workCtx : Option Done
  tx : Tx

/-- What happens next. The last ten are not steps of the caller's goroutine. -/
inductive Input where
  | begun (answer : Answer)
  | polled (answer : Except GoError Bool) (elapsed : Int)
  | timerFired
  | waitCancelled
  | worked (answer : Answer)
  | stopReturned
  | renewed (answer : Except GoError LeaseGrant)
  | commitStarted
  | commitRefused
  | committed (answer : Answer)
  | rollbackStarted
  | rollbackVoid
  | rolledBack (answer : Answer)
  | released (answer : Except GoError Bool)
  | ticked
  | maintainerRenewed (answer : Except GoError LeaseGrant)
  | maintainerLeft
  | parentCancelled (done : Done)
  | parentPropagated
  | txWatched
  | workEndedTx

def maintenanceCause (workCtx : Option Done) : Option GoError :=
  match workCtx with
  | none => none
  | some done => done.cause.asLock

/-- The text and step of a lost release. -/
def releaseLost (inputs : Inputs) (grant : LeaseGrant) : GoError :=
  .lock .lostLease inputs.key (some .fiduciaRelease)
    ("release of `" ++ inputs.key ++ "` (holder " ++ grant.holder ++ ", fencing token " ++
      toString grant.fencingToken ++ ") matched no grant: the lease lapsed while the work ran") none

def releaseFailure (inputs : Inputs) (grant : LeaseGrant) (answer : Except GoError Bool) :
    Option GoError :=
  match answer with
  | .ok true => none
  | .ok false => some (releaseLost inputs grant)
  | .error err => some (tagStep err .fiduciaRelease)

/-- `settle` once `lease.Release` has answered. -/
def settle (inputs : Inputs) (grant : LeaseGrant) (inner : Option GoError)
    (answer : Except GoError Bool) : Option GoError :=
  match releaseFailure inputs grant answer with
  | some cleanup => some (cleanupFailure cleanup inner)
  | none => inner

def rollbackMaintained (inputs : Inputs) (inner : GoError) (answer : Answer) : GoError :=
  match answer with
  | .ok () => inner
  | .error err =>
    if err.isTxDone then inner else cleanupFailure (dbErr inputs.key .pgRollback err) (some inner)

def lockQueryStep (inputs : Inputs) : LockStep :=
  if inputs.wait then .pgAdvisoryXactLock else .pgTryAdvisoryXactLock

/-- What a failed `stop()` puts before `inner`. -/
def withFailure (failure inner : Option GoError) : Option GoError :=
  match failure with
  | some failure => some (cleanupFailure failure inner)
  | none => inner

namespace State

def goto (s : State) (pc : Pc) : State := { s with pc }

/-- `stop()` up to its receive from `doneCh`. -/
def stop (s : State) : State := { s with maintainer := { s.maintainer with stopped := true } }

def toStop (s : State) (inner : Option GoError) : State := s.stop.goto (.stopping inner)

def afterBegin (s : State) (answer : Answer) : State :=
  match answer with
  | .ok () => { s with tx := .open }.goto .polling
  | .error err => s.stop.goto (.stoppingBegin err)

def afterStopBegin (inputs : Inputs) (s : State) (err : GoError) : State :=
  match s.maintainer.failure with
  | some maintained =>
    s.goto (.releasing (some (cleanupFailure maintained (some (dbErr inputs.key .pgBegin err)))))
  | none =>
    match maintenanceCause s.workCtx with
    | some cause => s.goto (.releasing (some cause))
    | none => s.goto (.releasing (some (dbErr inputs.key .pgBegin err)))

def afterPoll (inputs : Inputs) (s : State) (answer : Except GoError Bool) (elapsed : Int) :
    State :=
  match answer with
  | .error err =>
    match maintenanceCause s.workCtx with
    | some cause => s.toStop (some cause)
    | none => s.toStop (some (dbErr inputs.key (lockQueryStep inputs) err))
  | .ok true => s.goto .working
  | .ok false =>
    if !inputs.wait then s.toStop (some (contention inputs.key .pgTryAdvisoryXactLock))
    else if inputs.acquire.waitTimeout ≤ elapsed then
      s.toStop (some (timeout inputs.key .pgAdvisoryXactLock
        (milliseconds inputs.acquire.waitTimeout)))
    else
      let remaining := inputs.acquire.waitTimeout - elapsed
      let delay := inputs.acquire.retryInterval
      s.goto (.waiting (if remaining < delay then remaining else delay))

def afterWaitCancelled (inputs : Inputs) (s : State) (workCtx : Done) : State :=
  match maintenanceCause (some workCtx) with
  | some cause => s.toStop (some cause)
  | none => s.toStop (some (workErr inputs.key workCtx.err))

def afterWork (inputs : Inputs) (s : State) (answer : Answer) : State :=
  match answer with
  | .ok () => s.toStop none
  | .error err => s.toStop (some (workErr inputs.key err))

/-- A cancelled caller fails work that has succeeded. -/
def afterStop (inputs : Inputs) (s : State) (inner : Option GoError) : State :=
  match withFailure s.maintainer.failure inner with
  | some inner => s.goto (.aborting inner)
  | none =>
    match s.parent with
    | some parent => s.goto (.aborting (workErr inputs.key parent.err))
    | none => s.goto .renewing

def afterFinalRenewal (inputs : Inputs) (grant : LeaseGrant) (s : State)
    (answer : Except GoError LeaseGrant) : State :=
  match renewChecked grant inputs.acquire.ttl answer with
  | .ok _ => s.goto .admitted
  | .error err => s.goto (.aborting err)

def commitFailed (inputs : Inputs) (s : State) (err : GoError) : State :=
  s.goto (.releasing (some (dbErr inputs.key .pgCommit err)))

/-- What `Commit` answers without asking the driver. -/
def commitRefusal (s : State) : Option GoError :=
  match s.workCtx, s.tx with
  | some _, .done => some .txDone
  | some workCtx, _ => some workCtx.err
  | none, .open => none
  | none, _ => some .txDone

def afterCommit (inputs : Inputs) (s : State) (answer : Answer) : State :=
  match answer with
  | .ok () => s.goto (.releasing none)
  | .error err => s.commitFailed inputs err

/-- The maintainer reads the answer of its renewal. The first cancellation of the work
context is the one that stays. -/
def maintainerRead (inputs : Inputs) (grant : LeaseGrant) (s : State)
    (answer : Except GoError LeaseGrant) : State :=
  match renewChecked grant inputs.acquire.ttl answer with
  | .ok _ => { s with maintainer := { s.maintainer with phase := .selecting } }
  | .error err =>
    { s with
      maintainer := { s.maintainer with phase := .finished, failure := some err }
      workCtx := s.workCtx.or (some ⟨.canceled, err⟩) }

end State

open State

/-- One step of the system, when it is enabled. -/
def step (inputs : Inputs) (grant : LeaseGrant) (s : State) (input : Input) : Option State :=
  match input, s.pc with
  | .begun answer, .beginning => some (s.afterBegin answer)
  | .polled answer elapsed, .polling => some (s.afterPoll inputs answer elapsed)
  | .timerFired, .waiting _ => some (s.goto .polling)
  | .waitCancelled, .waiting _ => s.workCtx.map (s.afterWaitCancelled inputs)
  | .worked answer, .working => some (s.afterWork inputs answer)
  | .stopReturned, .stopping inner =>
    if s.maintainer.phase = .finished then some (s.afterStop inputs inner) else none
  | .stopReturned, .stoppingBegin err =>
    if s.maintainer.phase = .finished then some (s.afterStopBegin inputs err) else none
  | .renewed answer, .renewing => some (s.afterFinalRenewal inputs grant answer)
  | .commitStarted, .admitted =>
    match s.commitRefusal with
    | none => some ({ s with tx := .done }.goto .committing)
    | some _ => none
  | .commitRefused, .admitted => s.commitRefusal.map (s.commitFailed inputs)
  | .committed answer, .committing => some (s.afterCommit inputs answer)
  | .rollbackStarted, .aborting inner =>
    if s.tx = .open then some ({ s with tx := .done }.goto (.rollingBack inner)) else none
  | .rollbackVoid, .aborting inner =>
    if s.tx = .open then none
    else some (s.goto (.releasing (some (rollbackMaintained inputs inner (.error .txDone)))))
  | .rolledBack answer, .rollingBack inner =>
    some (s.goto (.releasing (some (rollbackMaintained inputs inner answer))))
  | .released answer, .releasing inner =>
    some (s.goto (.settled (settle inputs grant inner answer)))
  | .ticked, _ =>
    if s.maintainer.phase = .selecting then
      some { s with maintainer := { s.maintainer with phase := .renewing } }
    else none
  | .maintainerRenewed answer, _ =>
    if s.maintainer.phase = .renewing then some (s.maintainerRead inputs grant answer) else none
  | .maintainerLeft, _ =>
    if s.maintainer.phase = .selecting ∧ (s.maintainer.stopped = true ∨ s.parent.isSome = true) then
      some { s with maintainer := { s.maintainer with phase := .finished } }
    else none
  | .parentCancelled done, _ => if s.parent.isNone then some { s with parent := some done } else none
  | .parentPropagated, _ =>
    if s.parent.isSome ∧ s.workCtx.isNone then some { s with workCtx := s.parent } else none
  | .txWatched, _ =>
    if s.workCtx.isSome ∧ s.tx = .open then some { s with tx := .done } else none
  | .workEndedTx, .working => if s.tx = .open then some { s with tx := .done } else none
  | _, _ => none

def Step (inputs : Inputs) (grant : LeaseGrant) (s : State) (input : Input) (t : State) : Prop :=
  step inputs grant s input = some t

/-- The call once `lease.Acquire` has answered: over, or holding a grant. -/
inductive Session where
  | ended (result : GoError)
  | held (grant : LeaseGrant) (state : State)

/-- The state in which `BeginTx` is called. -/
def opened : State where
  pc := .beginning
  maintainer := ⟨.selecting, false, none⟩
  parent := none
  workCtx := none
  tx := .none

/-- A grant that fails validation is only released. -/
def refused (err : GoError) : State where
  pc := .releasing (some err)
  maintainer := ⟨.finished, true, none⟩
  parent := none
  workCtx := none
  tx := .none

/-- The arguments that may be nil. -/
structure Present where
  lease : Bool
  db : Bool
  work : Bool
  deriving DecidableEq

/-- The checks made before anything is acquired. -/
def preflight (inputs : Inputs) (present : Present) : Option GoError :=
  if !present.lease then some (invalidPlan inputs.key "a Fiducia lease authority is required")
  else if !present.db then some (invalidPlan inputs.key "a PostgreSQL database is required")
  else if !present.work then
    some (invalidPlan inputs.key "maintained transaction work must not be nil")
  else validate inputs

def withMaintainedXactLock (inputs : Inputs) (present : Present)
    (answer : Except GoError LeaseGrant) : Session :=
  match preflight inputs present with
  | some err => .ended err
  | none =>
    match answer with
    | .error err => .ended (tagStep err (maintainedAcquireStep inputs.wait))
    | .ok grant =>
      match validateMaintainedAcquiredGrant inputs grant with
      | some err => .held grant (refused err)
      | none => .held grant opened

end OresLocks.Go
