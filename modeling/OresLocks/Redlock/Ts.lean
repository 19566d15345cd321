import OresLocks.JsErrors
import OresLocks.Redlock.Ledger
import OresLocks.Shared.Runs

/-!
# The Redlock adapter of the TypeScript package

A call runs without interruption between two awaits. The environment answers the
quorum and the token authority, reads the clock and resumes the calls in any order.
`log` records what a call asked of the quorum, of the clock and of the authority,
oldest first.
-/

namespace OresLocks.Ts.Redlock

set_option autoImplicit false

open Shared.Runs

def gt (a b : JsNumber) : Bool :=
  match a, b with
  | .finite a, .finite b => decide (b < a)
  | .finite _, .infinity negative => negative
  | .infinity false, .infinity negative => negative
  | .infinity false, .finite _ => true
  | _, _ => false

def ge (a b : JsNumber) : Bool :=
  match a, b with
  | .nan, _ => false
  | _, .nan => false
  | a, b => !gt b a

/-- `Math.round` of a number below 10²¹ in absolute value, as a template prints it. -/
def roundText : JsNumber → JsString
  | .nan => js "NaN"
  | .infinity false => js "Infinity"
  | .infinity true => js "-Infinity"
  | .finite q => js (toString (q + 1 / 2).floor)

/-- A handle object of the Redlock library. -/
structure RedlockHandle where
  identity : Nat
  expiration : JsNumber
  deriving DecidableEq

inductive RedlockAcquireErrorKind where
  | contention
  | transport
  deriving DecidableEq

structure AcquireOptions where
  ttlMs : JsNumber
  waitTimeoutMs : JsNumber
  retryIntervalMs : JsNumber
  holder : Option JsString

structure LeaseGrant where
  key : JsString
  holder : JsString
  fencingToken : Int
  leaseExpiresMs : Option JsNumber
  ttlMs : JsNumber
  deriving DecidableEq

structure HeldRedlock where
  handle : RedlockHandle
  grant : LeaseGrant
  deriving DecidableEq

/-- The adapter's `#held`. -/
abbrev Held := JsString → Option HeldRedlock

def set (held : Held) (id : JsString) (entry : HeldRedlock) : Held :=
  fun other => if other = id then some entry else held other

def delete (held : Held) (id : JsString) : Held :=
  fun other => if other = id then none else held other

def grantId (grant : LeaseGrant) : JsString :=
  grant.key ++ [0] ++ grant.holder ++ [0] ++ js (toString grant.fencingToken)

def validExpiration (expiration now : JsNumber) : Bool :=
  expiration.isSafeInteger && gt expiration now

def lostLease (key : JsString) (message : String) : Thrown :=
  .lockError ⟨.lostLease, key, none, js message⟩

def invalidPlan (key : JsString) (message : String) : Thrown :=
  .lockError ⟨.invalidPlan, key, none, js message⟩

def transport (key : JsString) (cause : Thrown) (step : LockStep) : Thrown :=
  .ofBuilt (LockError.fromCause .transport key (some step) cause)

namespace Acquire

/-- The arguments of one `acquire`, with the id a missing holder is replaced by. -/
structure Inputs where
  key : JsString
  opts : AcquireOptions
  generatedHolder : JsString
  wait : Bool

def Inputs.holder (inputs : Inputs) : JsString := inputs.opts.holder.getD inputs.generatedHolder

abbrev Event := Ledger.Event RedlockHandle JsNumber Int JsString

/-- The await the call is suspended at. -/
inductive Pc where
  | acquiring
  | sleeping
  | minting (handle : RedlockHandle)
  | cleaning (error : Thrown)
  | settled (result : Except Thrown LeaseGrant)

structure State where
  pc : Pc
  held : Held
  log : List Event

inductive Input where
  | refused (cause : Thrown) (kind : Except Thrown RedlockAcquireErrorKind) (waited : JsNumber)
  | acquired (handle : RedlockHandle) (now : JsNumber)
  | sleepElapsed
  | sleepFailed (thrown : Thrown)
  | minted (answer : Except Thrown Int) (now : JsNumber)
  | cleaned (answer : Except Thrown Unit)

namespace State

def goto (s : State) (pc : Pc) : State := { s with pc }

def emit (s : State) (e : Event) : State := { s with log := s.log ++ [e] }

def fail (s : State) (error : Thrown) : State := s.goto (.settled (.error error))

/-- `releaseBestEffort` up to its `await`; the error follows whatever it answers. -/
def clean (s : State) (handle : RedlockHandle) (error : Thrown) : State :=
  (s.emit (.releaseIssued handle)).goto (.cleaning error)

end State

def start (inputs : Inputs) (held : Held) : State :=
  let s : State := ⟨.acquiring, held, []⟩
  let opts := inputs.opts
  if !opts.ttlMs.isSafeInteger || decide (opts.ttlMs.toInt ≤ 0) then
    s.fail (invalidPlan inputs.key "Redlock ttlMs must be a positive safe integer")
  else if !opts.retryIntervalMs.isSafeInteger || decide (opts.retryIntervalMs.toInt < 0) then
    s.fail (invalidPlan inputs.key "Redlock retryIntervalMs must be a non-negative safe integer")
  else if !opts.waitTimeoutMs.isSafeInteger || decide (opts.waitTimeoutMs.toInt < 0) then
    s.fail (invalidPlan inputs.key "Redlock waitTimeoutMs must be a non-negative safe integer")
  else s

/-- The `catch` around the quorum acquire. -/
def refused (inputs : Inputs) (s : State) (cause : Thrown) (kind : RedlockAcquireErrorKind)
    (waited : JsNumber) : State :=
  if kind = .transport then
    s.fail (transport inputs.key cause (if inputs.wait then .fiduciaAcquire else .fiduciaTryAcquire))
  else if !inputs.wait then
    s.fail (.lockError (LockError.contention inputs.key .fiduciaTryAcquire))
  else if ge waited inputs.opts.waitTimeoutMs then
    s.fail (.lockError ⟨.timeout, inputs.key, some .fiduciaAcquire,
      js "gave up waiting for `" ++ inputs.key ++ js "` after " ++ roundText waited ++ js " ms"⟩)
  else s.goto .sleeping

def acquired (inputs : Inputs) (s : State) (handle : RedlockHandle) (now : JsNumber) : State :=
  let s := (s.emit (.quorumAcquired handle)).emit (.clockRead now)
  if !validExpiration handle.expiration now then
    s.clean handle (lostLease inputs.key
      "Redlock grant was already expired or returned an invalid expiration")
  else (s.emit .mintIssued).goto (.minting handle)

def minted (inputs : Inputs) (s : State) (handle : RedlockHandle) (answer : Except Thrown Int)
    (now : JsNumber) : State :=
  match answer with
  | .error cause => s.clean handle (transport inputs.key cause .fiduciaAcquire)
  | .ok token =>
    let s := s.emit (.minted token)
    if token ≤ 0 then
      s.clean handle (transport inputs.key
        (.named "Error" (js "fencing authority returned a non-positive token")) .fiduciaAcquire)
    else
      let s := s.emit (.clockRead now)
      if !validExpiration handle.expiration now then
        s.clean handle (lostLease inputs.key
          "Redlock grant expired while allocating its fencing token")
      else
        let grant : LeaseGrant :=
          ⟨inputs.key, inputs.holder, token, some handle.expiration, inputs.opts.ttlMs⟩
        let s := s.emit (.stored (grantId grant))
        { s with held := set s.held (grantId grant) ⟨handle, grant⟩, pc := .settled (.ok grant) }

def step (inputs : Inputs) (s : State) (input : Input) : Option State :=
  match s.pc, input with
  | .acquiring, .refused cause (.ok kind) waited => some (refused inputs s cause kind waited)
  | .acquiring, .refused _ (.error thrown) _ => some (s.fail thrown)
  | .acquiring, .acquired handle now => some (acquired inputs s handle now)
  | .sleeping, .sleepElapsed => some (s.goto .acquiring)
  | .sleeping, .sleepFailed thrown => some (s.fail thrown)
  | .minting handle, .minted answer now => some (minted inputs s handle answer now)
  | .cleaning error, .cleaned _ => some (s.fail error)
  | _, _ => none

end Acquire

/-- One call of `renew` or `release` and the await it is suspended at. -/
inductive Call where
  | extending (grant : LeaseGrant) (ttlMs : JsNumber) (handle : RedlockHandle)
  | cleaning (grant : LeaseGrant) (handle : RedlockHandle)
  | renewed (grant : LeaseGrant) (result : Except Thrown LeaseGrant)
  | releasing (grant : LeaseGrant) (handle : RedlockHandle)
  | released (grant : LeaseGrant) (result : Except Thrown Bool)

inductive QuorumEvent where
  | extendIssued (call : Nat)
  | releaseConfirmed (id : JsString)
  deriving DecidableEq

structure State where
  held : Held
  calls : Nat → Option Call
  log : List QuorumEvent

inductive Input where
  | renew (call : Nat) (grant : LeaseGrant) (ttlMs : JsNumber)
  | release (call : Nat) (grant : LeaseGrant)
  | extended (call : Nat) (answer : Except Thrown RedlockHandle) (now : JsNumber)
  | cleaned (call : Nat) (answer : Except Thrown Unit)
  | quorumReleased (call : Nat) (answer : Except Thrown Unit)

namespace State

def put (s : State) (call : Nat) (c : Call) : State :=
  { s with calls := fun other => if other = call then some c else s.calls other }

def emit (s : State) (e : QuorumEvent) : State := { s with log := s.log ++ [e] }

/-- `renew` up to its first `await`. -/
def renew (s : State) (call : Nat) (grant : LeaseGrant) (ttlMs : JsNumber) : State :=
  if !ttlMs.isSafeInteger || decide (ttlMs.toInt ≤ 0) then
    s.put call (.renewed grant (.error (invalidPlan grant.key
      "Redlock renewal ttlMs must be a positive safe integer")))
  else
    match s.held (grantId grant) with
    | none => s.put call (.renewed grant (.error (lostLease grant.key
        "Redlock grant is not held by this adapter instance; fenced authority is lost")))
    | some entry =>
      (s.emit (.extendIssued call)).put call (.extending grant ttlMs entry.handle)

def refusal (grant : LeaseGrant) (cause : Thrown) : Thrown :=
  match cause.message with
  | .ok message => .lockError ⟨.lostLease, grant.key, none,
      js "Redlock quorum refused renewal: " ++ message⟩
  | .error thrown => thrown

/-- `renew` from the answer of `extend` on. -/
def extended (s : State) (call : Nat) (grant : LeaseGrant) (ttlMs : JsNumber)
    (answer : Except Thrown RedlockHandle) (now : JsNumber) : State :=
  match answer with
  | .error cause =>
    { s with held := delete s.held (grantId grant) }.put call
      (.renewed grant (.error (refusal grant cause)))
  | .ok handle =>
    if !validExpiration handle.expiration now then
      { s with held := delete s.held (grantId grant) }.put call (.cleaning grant handle)
    else
      let renewed := { grant with ttlMs, leaseExpiresMs := some handle.expiration }
      { s with held := set s.held (grantId grant) ⟨handle, renewed⟩ }.put call
        (.renewed grant (.ok renewed))

def cleaned (s : State) (call : Nat) (grant : LeaseGrant) : State :=
  s.put call (.renewed grant (.error (lostLease grant.key
    "Redlock renewal returned an already-expired or invalid validity window")))

/-- `release` up to its `await`. -/
def release (s : State) (call : Nat) (grant : LeaseGrant) : State :=
  match s.held (grantId grant) with
  | none => s.put call (.released grant (.ok false))
  | some entry => s.put call (.releasing grant entry.handle)

def quorumReleased (s : State) (call : Nat) (grant : LeaseGrant) (answer : Except Thrown Unit) :
    State :=
  match answer with
  | .error cause =>
    s.put call (.released grant (.error (transport grant.key cause .fiduciaRelease)))
  | .ok () =>
    ({ s with held := delete s.held (grantId grant) }.emit (.releaseConfirmed (grantId grant))).put
      call (.released grant (.ok true))

def step (s : State) (input : Input) : Option State :=
  match input with
  | .renew call grant ttlMs =>
    match s.calls call with
    | none => some (s.renew call grant ttlMs)
    | some _ => none
  | .release call grant =>
    match s.calls call with
    | none => some (s.release call grant)
    | some _ => none
  | .extended call answer now =>
    match s.calls call with
    | some (.extending grant ttlMs _) => some (s.extended call grant ttlMs answer now)
    | _ => none
  | .cleaned call _ =>
    match s.calls call with
    | some (.cleaning grant _) => some (s.cleaned call grant)
    | _ => none
  | .quorumReleased call answer =>
    match s.calls call with
    | some (.releasing grant _) => some (s.quorumReleased call grant answer)
    | _ => none

end State

end OresLocks.Ts.Redlock
