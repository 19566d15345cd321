import OresLocks.MaintainedTs
import OresLocks.Shared.Runs

/-!
# The two coroutines of the maintained routine

`Pc` is the await the routine is suspended at. `inner` is the JavaScript variable of
that name: `undefined` means that nothing has failed.
-/

namespace OresLocks.Ts

set_option autoImplicit false

universe u

inductive Sql where
  | begin
  | tryAdvisoryXactLock
  | commit
  | rollback
  deriving DecidableEq

/-- Who issued a renewal: the maintainer's loop, or the routine before `COMMIT`. -/
inductive Renewer where
  | maintainer
  | final
  deriving DecidableEq

/-- The values of the rows a query resolves with. -/
abbrev Rows := List (List JsValue)

inductive Event (α : Type u) where
  | acquired (answer : Except Thrown RawGrant)
  | connectIssued
  | connected (answer : Except Thrown Unit)
  | queryIssued (sql : Sql)
  | queried (sql : Sql) (answer : Except Thrown Rows)
  | workStarted
  | worked (answer : Except Thrown α)
  | renewIssued (renewer : Renewer)
  | renewed (renewer : Renewer) (answer : Except Thrown RawGrant)
  | stopped
  | clientReleased (poison : Bool)
  | releaseIssued
  | released (answer : Except Thrown Bool)

/-- Where `#run` is suspended. `answered` is the time between the settling of the
renewal and the resumption that reads it. -/
inductive Phase where
  | sleeping
  | woken
  | renewing
  | answered (answer : Except Thrown RawGrant)
  | finished

structure LeaseMaintainer where
  phase : Phase
  stopped : Bool
  failure : Option LockError

inductive Pc (α : Type u) where
  | connecting
  | beginning
  | polling
  | sleeping
  | working
  | stopping (inner : Thrown)
  | renewing
  | rollingBack (inner : Thrown)
  | committing
  | closing (outcome : Except Thrown (Option α))
  | releasing (outcome : Except Thrown (Option α))
  | settled (result : Except Thrown (Option α))

structure State (α : Type u) where
  pc : Pc α
  maintainer : LeaseMaintainer
  client : Bool
  began : Bool
  poisonClient : Bool
  value : Option α
  log : List (Event α)

/-- What the environment does next. -/
inductive Input (α : Type u) where
  | connected (answer : Except Thrown Unit)
  | begun (answer : Except Thrown Rows)
  | polled (answer : Except Thrown Rows) (elapsedMs : Int)
  | sleepElapsed
  | sleepFailed
  | worked (answer : Except Thrown α)
  | stopReturned
  | renewed (answer : Except Thrown RawGrant)
  | rolledBack (answer : Except Thrown Rows)
  | committed (answer : Except Thrown Rows)
  | closed (answer : Except Thrown Unit)
  | released (answer : Except Thrown Bool)
  | timer
  | maintainerAnswered (answer : Except Thrown RawGrant)
  | maintainerResumed

def firstBool (rows : Rows) : Bool :=
  match rows with
  | (value :: _) :: _ => value == .boolean true || value == .string (js "t")
  | _ => false

def acquireStep (inputs : Inputs) : LockStep :=
  if inputs.wait then .fiduciaAcquire else .fiduciaTryAcquire

def lockQueryStep (inputs : Inputs) : LockStep :=
  if inputs.wait then .pgAdvisoryXactLock else .pgTryAdvisoryXactLock

namespace State

variable {α : Type u}

def emit (s : State α) (e : Event α) : State α := { s with log := s.log ++ [e] }

def goto (s : State α) (pc : Pc α) : State α := { s with pc }

/-- `maintainer.stop()` up to its `await`: a sleeping loop is woken. -/
def stop (s : State α) : State α :=
  if s.maintainer.stopped then s
  else
    let phase := match s.maintainer.phase with
      | .sleeping => .woken
      | phase => phase
    { s.emit .stopped with maintainer := { s.maintainer with stopped := true, phase } }

/-- The `catch` of the guarded block, or its end with `inner` undefined. -/
def toStop (s : State α) (inner : Thrown) : State α := s.stop.goto (.stopping inner)

/-- The `finally` block. -/
def toClose (s : State α) (outcome : Except Thrown (Option α)) : State α :=
  s.stop.goto (.closing outcome)

/-- The head of the loop of `acquireMaintainedXactLock`. -/
def pollLock (s : State α) : State α :=
  match s.maintainer.failure with
  | some failure => s.toStop (.lockError failure)
  | none => (s.emit (.queryIssued .tryAdvisoryXactLock)).goto .polling

def afterConnect (inputs : Inputs) (s : State α) (answer : Except Thrown Unit) : State α :=
  let s := s.emit (.connected answer)
  match answer with
  | .ok () => ({ s with client := true }.emit (.queryIssued .begin)).goto .beginning
  | .error cause =>
    match LockError.database inputs.key .pgBegin cause with
    | .ok error => s.toStop (.lockError error)
    | .error thrown => s.toClose (.error thrown)

/-- A rejected `BEGIN` becomes `inner` as it is. -/
def afterBegin (s : State α) (answer : Except Thrown Rows) : State α :=
  let s := s.emit (.queried .begin answer)
  match answer with
  | .ok _ => { s with began := true }.pollLock
  | .error cause => s.toStop cause

def afterPoll (inputs : Inputs) (s : State α) (answer : Except Thrown Rows) (elapsedMs : Int) :
    State α :=
  let s := s.emit (.queried .tryAdvisoryXactLock answer)
  match answer with
  | .error cause => s.toStop (.ofBuilt (LockError.database inputs.key (lockQueryStep inputs) cause))
  | .ok rows =>
    if firstBool rows then (s.emit .workStarted).goto .working
    else if !inputs.wait then
      s.toStop (.lockError (.contention inputs.key .pgTryAdvisoryXactLock))
    else if (inputs.waitTimeoutMs : Int) ≤ elapsedMs then
      s.toStop (.lockError (.timeout inputs.key .pgAdvisoryXactLock inputs.waitTimeoutMs))
    else
      match s.maintainer.failure with
      | some failure => s.toStop (.lockError failure)
      | none => s.goto .sleeping

def afterWork (inputs : Inputs) (s : State α) (answer : Except Thrown α) : State α :=
  let s := s.emit (.worked answer)
  match answer with
  | .ok value => { s with value := some value }.toStop .undefined
  | .error cause => s.toStop (.ofBuilt (LockError.work inputs.key cause))

/-- Roll back what began, then throw. -/
def failTransaction (s : State α) (inner : Thrown) : State α :=
  if s.began && s.client then (s.emit (.queryIssued .rollback)).goto (.rollingBack inner)
  else s.toClose (.error inner)

/-- A failure of the maintainer goes before `inner`. -/
def withFailure (failure : Option LockError) (inner : Thrown) : Except Thrown Thrown :=
  match failure with
  | none => .ok inner
  | some failure =>
    if inner = .undefined then .ok (.lockError failure)
    else
      match cleanupFailure failure inner with
      | .ok error => .ok (.lockError error)
      | .error thrown => .error thrown

def afterStop (s : State α) (inner : Thrown) : State α :=
  match withFailure s.maintainer.failure inner with
  | .error thrown => s.toClose (.error thrown)
  | .ok inner =>
    if inner = .undefined then (s.emit (.renewIssued .final)).goto .renewing
    else s.failTransaction inner

def afterFinalRenewal (inputs : Inputs) (grant : LeaseGrant) (s : State α)
    (answer : Except Thrown RawGrant) : State α :=
  let s := s.emit (.renewed .final answer)
  match renewChecked grant inputs.ttlMs answer with
  | .ok _ => (s.emit (.queryIssued .commit)).goto .committing
  | .error cause =>
    match renewalError inputs.key cause with
    | .ok error => s.failTransaction (.lockError error)
    | .error thrown => s.toClose (.error thrown)

def afterRollback (inputs : Inputs) (s : State α) (inner : Thrown) (answer : Except Thrown Rows) :
    State α :=
  let s := s.emit (.queried .rollback answer)
  match answer with
  | .ok _ => s.toClose (.error inner)
  | .error cause =>
    match LockError.database inputs.key .pgRollback cause with
    | .error thrown => s.toClose (.error thrown)
    | .ok error => s.toClose (.error (.ofBuilt (cleanupFailure error inner)))

def afterCommit (inputs : Inputs) (s : State α) (answer : Except Thrown Rows) : State α :=
  let s := s.emit (.queried .commit answer)
  match answer with
  | .ok _ => { s with began := false, poisonClient := false }.toClose (.ok s.value)
  | .error cause =>
    s.toClose (.error (.ofBuilt (LockError.database inputs.key .pgCommit cause)))

/-- The end of `finally`, then the call of `lease.release`. A `client.release` that
throws replaces the outcome. -/
def afterClose (s : State α) (outcome : Except Thrown (Option α)) (answer : Except Thrown Unit) :
    State α :=
  let t := if s.client then s.emit (.clientReleased s.poisonClient) else s
  let outcome := match s.client, answer with
    | true, .error thrown => .error thrown
    | _, _ => outcome
  (t.emit .releaseIssued).goto (.releasing outcome)

def releaseLost (inputs : Inputs) (grant : LeaseGrant) : LockError :=
  ⟨.lostLease, inputs.key, some .fiduciaRelease, js "release of `" ++ inputs.key ++
    js "` (holder " ++ grant.holder ++ js ", fencing token " ++
    Shared.Numeral.numeral grant.fencingToken ++
    js ") matched no grant: the lease lapsed while the work ran"⟩

/-- The failure of the release, if there is one. -/
def releaseFailure (inputs : Inputs) (grant : LeaseGrant) (answer : Except Thrown Bool) :
    Option (Except Thrown LockError) :=
  match answer with
  | .ok true => none
  | .ok false => some (.ok (releaseLost inputs grant))
  | .error (.lockError error) => some (.ok (tagLockError error .fiduciaRelease))
  | .error cause =>
    some (match LockError.transport inputs.key cause with
      | .ok error => .ok (tagLockError error .fiduciaRelease)
      | .error thrown => .error thrown)

/-- `settle`: the outcome of the release combined with the inner one. -/
def settle (inputs : Inputs) (grant : LeaseGrant) (outcome : Except Thrown (Option α))
    (answer : Except Thrown Bool) : Except Thrown (Option α) :=
  match releaseFailure inputs grant answer with
  | none => outcome
  | some (.error thrown) => .error thrown
  | some (.ok cleanup) =>
    match outcome with
    | .ok _ => .error (.lockError cleanup)
    | .error inner => .error (.ofBuilt (cleanupFailure cleanup inner))

def afterRelease (inputs : Inputs) (grant : LeaseGrant) (s : State α)
    (outcome : Except Thrown (Option α)) (answer : Except Thrown Bool) : State α :=
  (s.emit (.released answer)).goto (.settled (settle inputs grant outcome answer))

def setPhase (s : State α) (phase : Phase) : State α :=
  { s with maintainer := { s.maintainer with phase } }

/-- The head of the loop of `#run` after a wake-up. -/
def maintainerWoken (s : State α) : State α :=
  if s.maintainer.stopped then s.setPhase .finished
  else (s.emit (.renewIssued .maintainer)).setPhase .renewing

/-- `#run` reads the answer of its renewal. -/
def maintainerRead (inputs : Inputs) (grant : LeaseGrant) (s : State α)
    (answer : Except Thrown RawGrant) : State α :=
  match renewChecked grant inputs.ttlMs answer with
  | .ok _ => if s.maintainer.stopped then s.setPhase .finished else s.setPhase .sleeping
  | .error cause =>
    match renewalError grant.key cause with
    | .ok error => { s with maintainer := { s.maintainer with phase := .finished, failure := some error } }
    | .error _ => s

end State

open State

/-- One step of the system, when the input is enabled. -/
def step {α : Type u} (inputs : Inputs) (grant : LeaseGrant) (s : State α) (input : Input α) :
    Option (State α) :=
  match input, s.pc with
  | .connected answer, .connecting => some (s.afterConnect inputs answer)
  | .begun answer, .beginning => some (s.afterBegin answer)
  | .polled answer elapsedMs, .polling => some (s.afterPoll inputs answer elapsedMs)
  | .sleepElapsed, .sleeping => some s.pollLock
  | .sleepFailed, .sleeping =>
    match s.maintainer.failure with
    | some failure => some (s.toStop (.lockError failure))
    | none => none
  | .worked answer, .working => some (s.afterWork inputs answer)
  | .stopReturned, .stopping inner =>
    match s.maintainer.phase with
    | .finished => some (s.afterStop inner)
    | _ => none
  | .renewed answer, .renewing => some (s.afterFinalRenewal inputs grant answer)
  | .rolledBack answer, .rollingBack inner => some (s.afterRollback inputs inner answer)
  | .committed answer, .committing => some (s.afterCommit inputs answer)
  | .closed answer, .closing outcome =>
    match s.maintainer.phase with
    | .finished => some (s.afterClose outcome answer)
    | _ => none
  | .released answer, .releasing outcome => some (s.afterRelease inputs grant outcome answer)
  | .timer, _ =>
    match s.maintainer.phase with
    | .sleeping => some (s.setPhase .woken)
    | _ => none
  | .maintainerAnswered answer, _ =>
    match s.maintainer.phase with
    | .renewing => some ((s.emit (.renewed .maintainer answer)).setPhase (.answered answer))
    | _ => none
  | .maintainerResumed, _ =>
    match s.maintainer.phase with
    | .woken => some s.maintainerWoken
    | .answered answer => some (s.maintainerRead inputs grant answer)
    | _ => none
  | _, _ => none

def Step {α : Type u} (inputs : Inputs) (grant : LeaseGrant) (s : State α) (input : Input α)
    (t : State α) : Prop :=
  step inputs grant s input = some t

/-- The routine once `lease.acquire` has settled: over, only releasing a grant that
failed validation, or running its transaction. -/
inductive Session (α : Type u) where
  | ended (result : Except Thrown (Option α)) (log : List (Event α))
  | refused (grant : LeaseGrant) (error : LockError) (log : List (Event α))
  | running (grant : LeaseGrant) (state : State α)

/-- The state in which the transaction starts, with its maintainer. -/
def opened {α : Type u} (answer : Except Thrown RawGrant) : State α where
  pc := .connecting
  maintainer := ⟨.sleeping, false, none⟩
  client := false
  began := false
  poisonClient := true
  value := none
  log := [.acquired answer, .connectIssued]

def withMaintainedXactLock {α : Type u} (inputs : Inputs) (answer : Except Thrown RawGrant) :
    Session α :=
  match answer with
  | .error cause => .ended (.error (tagStep cause (acquireStep inputs))) [.acquired answer]
  | .ok raw =>
    match snapshotAuthorityGrant inputs.key raw (acquireStep inputs) .transport with
    | .error error => .ended (.error (.lockError error)) [.acquired answer]
    | .ok grant =>
      match validateMaintainedAcquiredGrant inputs grant (acquireStep inputs) with
      | .error error => .refused grant error [.acquired answer, .releaseIssued]
      | .ok () => .running grant (opened answer)

end OresLocks.Ts
