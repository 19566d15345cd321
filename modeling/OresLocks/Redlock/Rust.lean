import OresLocks.Lease
import OresLocks.Redlock.Ledger
import OresLocks.Shared.Runs

/-!
# The Redlock adapter of the Rust crate

`renew` and `release` take the handle out of the map for as long as they await the
quorum. Two futures interleave at their awaits only.
-/

namespace OresLocks.Redlock

set_option autoImplicit false

open Shared.Runs

inductive RedlockAcquireError where
  | contention (message : String)
  | transport (message : String)
  deriving DecidableEq

/-- A quorum handle; `expirationMs` is what it reports until it is extended. -/
structure RedlockHandle where
  identity : Nat
  expirationMs : Nat
  deriving DecidableEq

structure AcquireOptions where
  ttl : Duration
  waitTimeout : Duration
  retryInterval : Duration
  holder : Option String

structure GrantId where
  key : String
  holder : String
  fencingToken : Nat
  deriving DecidableEq

def GrantId.fromGrant (grant : LeaseGrant) : GrantId :=
  ⟨grant.key.text, grant.holder, grant.fencingToken⟩

/-- The adapter's `held`. -/
abbrev Held := GrantId → Option RedlockHandle

def insert (held : Held) (id : GrantId) (handle : RedlockHandle) : Held :=
  fun other => if other = id then some handle else held other

def remove (held : Held) (id : GrantId) : Held :=
  fun other => if other = id then none else held other

namespace Acquire

/-- The arguments of one `acquire`, with the id a missing holder is replaced by. -/
structure Inputs where
  key : LockKey
  opts : AcquireOptions
  generatedHolder : String
  wait : Bool

def Inputs.holder (inputs : Inputs) : String := inputs.opts.holder.getD inputs.generatedHolder

def Inputs.ttlMs (inputs : Inputs) : Nat := durationMs inputs.opts.ttl

abbrev Event := Ledger.Event RedlockHandle Nat Nat GrantId

/-- The await the call is suspended at. -/
inductive Pc where
  | acquiring
  | sleeping
  | minting (handle : RedlockHandle)
  | cleaning (error : LockError)
  | settled (result : Except LockError LeaseGrant)

structure State where
  pc : Pc
  held : Held
  log : List Event

inductive Input where
  | refused (error : RedlockAcquireError) (waited : Duration)
  | acquired (handle : RedlockHandle) (now : Nat)
  | sleepElapsed
  | minted (answer : Except String Nat) (now : Nat)
  | cleaned (answer : Except String Unit)

namespace State

def goto (s : State) (pc : Pc) : State := { s with pc }

def emit (s : State) (e : Event) : State := { s with log := s.log ++ [e] }

def fail (s : State) (error : LockError) : State := s.goto (.settled (.error error))

/-- `handle.release().await`, whose answer is dropped. -/
def clean (s : State) (handle : RedlockHandle) (error : LockError) : State :=
  (s.emit (.releaseIssued handle)).goto (.cleaning error)

end State

def start (inputs : Inputs) (held : Held) : State :=
  let s : State := ⟨.acquiring, held, []⟩
  if inputs.ttlMs = 0 then s.fail (LockError.invalidPlan inputs.key "Redlock ttl must be positive")
  else s

def refused (inputs : Inputs) (s : State) (error : RedlockAcquireError) (waited : Duration) :
    State :=
  match error with
  | .transport message =>
    s.fail ((LockError.new .transport inputs.key message).at
      (if inputs.wait then .fiduciaAcquire else .fiduciaTryAcquire))
  | .contention _ =>
    if !inputs.wait then s.fail (LockError.contention inputs.key .fiduciaTryAcquire)
    else if inputs.opts.waitTimeout ≤ waited then
      s.fail (LockError.timeout inputs.key .fiduciaAcquire (durationMs waited))
    else s.goto .sleeping

def acquired (inputs : Inputs) (s : State) (handle : RedlockHandle) (now : Nat) : State :=
  let s := (s.emit (.quorumAcquired handle)).emit (.clockRead now)
  if handle.expirationMs ≤ now then
    s.clean handle (LockError.new .lostLease inputs.key
      "Redlock grant was already expired when acquisition returned")
  else (s.emit .mintIssued).goto (.minting handle)

def minted (inputs : Inputs) (s : State) (handle : RedlockHandle) (answer : Except String Nat)
    (now : Nat) : State :=
  match answer with
  | .error message =>
    s.clean handle ((LockError.new .transport inputs.key message).at .fiduciaAcquire)
  | .ok token =>
    let s := s.emit (.minted token)
    if token = 0 then
      s.clean handle ((LockError.new .transport inputs.key
        "fencing authority returned a non-positive token").at .fiduciaAcquire)
    else
      let s := s.emit (.clockRead now)
      if handle.expirationMs ≤ now then
        s.clean handle (LockError.new .lostLease inputs.key
          "Redlock grant expired while allocating its fencing token")
      else
        let grant : LeaseGrant :=
          ⟨inputs.key, inputs.holder, token, some handle.expirationMs, inputs.ttlMs⟩
        let s := s.emit (.stored (.fromGrant grant))
        { s with held := insert s.held (.fromGrant grant) handle, pc := .settled (.ok grant) }

def step (inputs : Inputs) (s : State) (input : Input) : Option State :=
  match s.pc, input with
  | .acquiring, .refused error waited => some (refused inputs s error waited)
  | .acquiring, .acquired handle now => some (acquired inputs s handle now)
  | .sleeping, .sleepElapsed => some (s.goto .acquiring)
  | .minting handle, .minted answer now => some (minted inputs s handle answer now)
  | .cleaning error, .cleaned _ => some (s.fail error)
  | _, _ => none

end Acquire

/-- One call of `renew` or `release` and the await it is suspended at. -/
inductive Call where
  | extending (grant : LeaseGrant) (ttlMs : Nat) (handle : RedlockHandle)
  | cleaning (grant : LeaseGrant) (handle : RedlockHandle)
  | renewed (grant : LeaseGrant) (result : Except LockError LeaseGrant)
  | releasing (grant : LeaseGrant) (handle : RedlockHandle)
  | released (grant : LeaseGrant) (result : Except LockError Bool)

structure State where
  held : Held
  calls : Nat → Option Call

inductive Input where
  | renew (call : Nat) (grant : LeaseGrant) (ttl : Duration)
  | release (call : Nat) (grant : LeaseGrant)
  | extended (call : Nat) (answer : Except String Nat) (now : Nat)
  | cleaned (call : Nat) (answer : Except String Unit)
  | quorumReleased (call : Nat) (answer : Except String Unit)

namespace State

def put (s : State) (call : Nat) (c : Call) : State :=
  { s with calls := fun other => if other = call then some c else s.calls other }

/-- `renew` up to its first `await`. -/
def renew (s : State) (call : Nat) (grant : LeaseGrant) (ttl : Duration) : State :=
  let ttlMs := durationMs ttl
  if ttlMs = 0 then
    s.put call (.renewed grant (.error (LockError.invalidPlan grant.key
      "Redlock renewal ttl must be positive")))
  else
    match s.held (.fromGrant grant) with
    | none => s.put call (.renewed grant (.error (LockError.new .lostLease grant.key
        "Redlock grant is not held by this adapter instance; fenced authority is lost")))
    | some handle =>
      { s with held := remove s.held (.fromGrant grant) }.put call (.extending grant ttlMs handle)

/-- `renew` from the answer of `extend` on; a refused handle is dropped. -/
def extended (s : State) (call : Nat) (grant : LeaseGrant) (ttlMs : Nat) (handle : RedlockHandle)
    (answer : Except String Nat) (now : Nat) : State :=
  match answer with
  | .ok expires =>
    if now < expires then
      { s with held := insert s.held (.fromGrant grant) handle }.put call
        (.renewed grant (.ok { grant with leaseExpiresMs := some expires, ttlMs }))
    else s.put call (.cleaning grant handle)
  | .error message =>
    s.put call (.renewed grant (.error (LockError.new .lostLease grant.key
      ("Redlock quorum refused renewal: " ++ message))))

def cleaned (s : State) (call : Nat) (grant : LeaseGrant) : State :=
  s.put call (.renewed grant (.error (LockError.new .lostLease grant.key
    "Redlock renewal returned an already-expired validity window")))

/-- `release` up to its `await`. -/
def release (s : State) (call : Nat) (grant : LeaseGrant) : State :=
  match s.held (.fromGrant grant) with
  | none => s.put call (.released grant (.ok false))
  | some handle =>
    { s with held := remove s.held (.fromGrant grant) }.put call (.releasing grant handle)

def quorumReleased (s : State) (call : Nat) (grant : LeaseGrant) (handle : RedlockHandle)
    (answer : Except String Unit) : State :=
  match answer with
  | .ok () => s.put call (.released grant (.ok true))
  | .error message =>
    { s with held := insert s.held (.fromGrant grant) handle }.put call
      (.released grant (.error ((LockError.new .transport grant.key message).at .fiduciaRelease)))

def step (s : State) (input : Input) : Option State :=
  match input with
  | .renew call grant ttl =>
    match s.calls call with
    | none => some (s.renew call grant ttl)
    | some _ => none
  | .release call grant =>
    match s.calls call with
    | none => some (s.release call grant)
    | some _ => none
  | .extended call answer now =>
    match s.calls call with
    | some (.extending grant ttlMs handle) =>
      some (s.extended call grant ttlMs handle answer now)
    | _ => none
  | .cleaned call _ =>
    match s.calls call with
    | some (.cleaning grant _) => some (s.cleaned call grant)
    | _ => none
  | .quorumReleased call answer =>
    match s.calls call with
    | some (.releasing grant handle) => some (s.quorumReleased call grant handle answer)
    | _ => none

end State

end OresLocks.Redlock
