import OresLocks.LocalFile.Recovery
import OresLocks.Shared.Runs

/-!
# Many calls on one lock path

Every call of every process is a thread. An action starts a call, lets the pending
filesystem step of a call happen or fail without effect, or crashes a process, whose
calls then never move again.
-/

namespace OresLocks.LocalFile

set_option autoImplicit false

open Shared.Programs

inductive Thread where
  | idle
  | acquiring (owner : JsString) (program : FsProg (Except Failure (Option LocalFileLock)))
  | refused (owner : JsString) (result : Except Failure Unit)
  | holding (lock : LocalFileLock)
  | recovering (expectedOwner : JsString) (program : FsProg (Except Failure Bool))
  | recovered (expectedOwner : JsString) (result : Except Failure Bool)

inductive Action where
  | acquire (call : Call) (owner : JsString)
  | release (call : Call)
  | recover (call : Call) (expectedOwner : JsString) (confirmedInactive : Bool)
  | perform (call : Call) (choice : Choice)
  | fail (call : Call) (error : FsError)
  | crash (process : Nat)

structure System where
  fs : Fs
  threads : Call → Thread
  crashed : Nat → Bool

/-- The promise of an acquisition, settled when its program is over. -/
def settleAcquire (owner : JsString) : FsProg (Except Failure (Option LocalFileLock)) → Thread
  | .done (.ok (some lock)) => .holding lock
  | .done (.ok none) => .refused owner (.ok ())
  | .done (.error error) => .refused owner (.error error)
  | .call op next => .acquiring owner (.call op next)

def settleRecover (expectedOwner : JsString) : FsProg (Except Failure Bool) → Thread
  | .done result => .recovered expectedOwner result
  | .call op next => .recovering expectedOwner (.call op next)

namespace LocalFileLock

/-- The handle while a release runs and once it has settled. -/
def settleRelease (lock : LocalFileLock) :
    FsProg (ReleaseState × Except Failure Unit) → LocalFileLock
  | .done (state, result) => { lock with
      releaseState := state
      partialReleaseError := match state, result with
        | .partially, .error error => some error
        | _, _ => lock.partialReleaseError
      releasePromise := none }
  | .call op next => { lock with releasePromise := some (.call op next) }

/-- A call of `release`: it starts a release only when the handle is held and none is
in flight. -/
def release (win32 : Bool) (lock : LocalFileLock) : LocalFileLock :=
  match lock.releaseState, lock.releasePromise with
  | .held, none => lock.settleRelease (releaseOnce win32 lock)
  | _, _ => lock

end LocalFileLock

namespace Thread

/-- The thread after its pending step, which `run` answers. -/
def advance (run : (op : FsOp) → FsAnswer op × Fs) : Thread → Option (Thread × Fs)
  | .acquiring owner (.call op next) =>
    some (settleAcquire owner (next (run op).1), (run op).2)
  | .recovering expected (.call op next) =>
    some (settleRecover expected (next (run op).1), (run op).2)
  | .holding lock =>
    match lock.releasePromise with
    | some (.call op next) => some (.holding (lock.settleRelease (next (run op).1)), (run op).2)
    | _ => none
  | _ => none

end Thread

namespace System

def setThread (s : System) (call : Call) (thread : Thread) : System :=
  { s with threads := fun c => if c = call then thread else s.threads c }

/-- Let the pending step of a call be answered. -/
def advance (s : System) (call : Call) (run : (op : FsOp) → FsAnswer op × Fs) : Option System :=
  if s.crashed call.process then none
  else
    match (s.threads call).advance run with
    | none => none
    | some (thread, fs) => some { s.setThread call thread with fs }

def step (win32 : Bool) (s : System) : Action → Option System
  | .acquire call owner =>
    if s.crashed call.process then none
    else
      match s.threads call with
      | .idle => some (s.setThread call
          (settleAcquire owner (tryAcquireLocalFileLock win32 owner).run))
      | _ => none
  | .release call =>
    if s.crashed call.process then none
    else
      match s.threads call with
      | .holding lock => some (s.setThread call (.holding (lock.release win32)))
      | _ => none
  | .recover call expectedOwner confirmedInactive =>
    if s.crashed call.process then none
    else
      match s.threads call with
      | .idle => some (s.setThread call (settleRecover expectedOwner
          (recoverLocalFileLock win32 expectedOwner confirmedInactive).run))
      | _ => none
  | .perform call choice => s.advance call (s.fs.perform call choice)
  | .fail call error => s.advance call (fun _ => (.error error, s.fs))
  | .crash process => some { s with
      crashed := fun p => if p = process then true else s.crashed p }

def Step (win32 : Bool) (s : System) (action : Action) (t : System) : Prop :=
  s.step win32 action = some t

/-- Before any call: whatever stands at the path and its parent. -/
structure Initial (s : System) : Prop where
  threads : ∀ call, s.threads call = .idle
  trace : s.fs.trace = []
  foreign : ∀ node, s.fs.lock = some node → node.creator = none ∧ node.tenant = none

end System

end OresLocks.LocalFile
