import OresLocks.BeamScale.Adapter
import OresLocks.Lease

/-!
# The BeamScale adapter of the Rust crate

A call runs without interruption between two awaits; a future that is dropped is a call
that is never resumed. The transport answers the calls in any order. `log` records what was
sent and answered, oldest first.
-/

namespace OresLocks.BeamScale

set_option autoImplicit false

open Shared.Runs

def Token.valid (token : Token) : Bool :=
  decide (0 < token.runtimeEpoch) && decide (0 < token.ownerEpoch) && decide (0 < token.sequence)

structure CriticalSectionGrant where
  token : Token
  leaseExpiresMs : Nat
  deriving DecidableEq

inductive AcquireResult where
  | acquired (grant : CriticalSectionGrant)
  | contended
  | fencingExhausted
  deriving DecidableEq

inductive RenewResult where
  | renewed (grant : CriticalSectionGrant)
  | lost
  deriving DecidableEq

structure AcquireOptions where
  ttl : Duration
  waitTimeout : Duration
  retryInterval : Duration
  holder : Option String
  requestId : Option String

structure RegistryKey where
  key : String
  holder : String
  fencingToken : Nat
  deriving DecidableEq

/-- The adapter's `tokens`. -/
abbrev Tokens := RegistryKey → Option Token

def insert (tokens : Tokens) (id : RegistryKey) (token : Token) : Tokens :=
  fun other => if other = id then some token else tokens other

def remove (tokens : Tokens) (id : RegistryKey) : Tokens :=
  fun other => if other = id then none else tokens other

def registryKey (grant : LeaseGrant) : RegistryKey :=
  ⟨grant.key.text, grant.holder, grant.fencingToken⟩

def transportError (key : LockKey) (message : String) : LockError :=
  .new .transport key ("beamscale: " ++ message)

def lookup (tokens : Tokens) (grant : LeaseGrant) : Except LockError Token :=
  match tokens (registryKey grant) with
  | some token => .ok token
  | none => .error (.new .lostLease grant.key
      "beamscale: full authority token is unavailable for this grant")

def remember (tokens : Tokens) (key : LockKey) (holder : String) (grant : CriticalSectionGrant) :
    Except LockError (Nat × Tokens) :=
  if !grant.token.valid || grant.leaseExpiresMs = 0 then
    .error (transportError key "invalid BeamScale grant")
  else
    let fencingToken := grant.token.sequence
    .ok (fencingToken, insert tokens ⟨key.text, holder, fencingToken⟩ grant.token)

def forget (tokens : Tokens) (grant : LeaseGrant) : Tokens := remove tokens (registryKey grant)

/-- The arguments of one `acquire`, with the ids that missing ones are replaced by. -/
structure Inputs where
  key : LockKey
  opts : AcquireOptions
  generatedHolder : String
  generatedRequestId : String
  wait : Bool

namespace Inputs

def holder (inputs : Inputs) : String := inputs.opts.holder.getD inputs.generatedHolder

def requestId (inputs : Inputs) : String := inputs.opts.requestId.getD inputs.generatedRequestId

def ttlMs (inputs : Inputs) : Nat := durationMs inputs.opts.ttl

def identity (inputs : Inputs) : Identity String :=
  ⟨inputs.key.text, inputs.holder, inputs.requestId⟩

end Inputs

/-- One call and the await it is suspended at. -/
inductive Call where
  | acquiring (inputs : Inputs) (ambiguousRetries : Nat)
  | sleeping (inputs : Inputs) (ambiguousRetries : Nat)
  | acquired (result : Except LockError LeaseGrant)
  | renewing (grant : LeaseGrant) (ttlMs : Nat) (expected : Token)
  | renewed (result : Except LockError LeaseGrant)
  | releasing (grant : LeaseGrant) (token : Token)
  | released (result : Except LockError Bool)

abbrev State := Adapter Tokens Call String

inductive Input where
  | acquire (call : Nat) (inputs : Inputs)
  | renew (call : Nat) (grant : LeaseGrant) (ttl : Duration)
  | release (call : Nat) (grant : LeaseGrant)
  | acquireAnswered (call : Nat) (answer : Except String AcquireResult) (waited : Duration)
  | slept (call : Nat)
  | renewAnswered (call : Nat) (answer : Except String RenewResult)
  | releaseAnswered (call : Nat) (answer : Except String Bool)

/-- The grant as the requests for it name it. -/
def grantName (grant : LeaseGrant) : Name String :=
  ⟨grant.key.text, grant.holder, grant.fencingToken⟩

namespace State

/-- The transport's `acquire` up to its `await`. -/
def sendAcquire (s : State) (call : Nat) (inputs : Inputs) (ambiguousRetries : Nat) : State :=
  (s.emit (.acquireSent call inputs.identity)).put call (.acquiring inputs ambiguousRetries)

def acquire (s : State) (call : Nat) (inputs : Inputs) : State :=
  if inputs.ttlMs = 0 then
    s.put call (.acquired (.error (LockError.invalidPlan inputs.key
      "BeamScale lease ttl must be positive")))
  else s.sendAcquire call inputs 0

def contended (s : State) (call : Nat) (inputs : Inputs) (ambiguousRetries : Nat)
    (waited : Duration) : State :=
  if !inputs.wait then
    s.put call (.acquired (.error (LockError.contention inputs.key .fiduciaTryAcquire)))
  else if inputs.opts.waitTimeout < waited + inputs.opts.retryInterval then
    s.put call (.acquired (.error (LockError.timeout inputs.key .fiduciaAcquire
      (durationMs waited))))
  else s.put call (.sleeping inputs ambiguousRetries)

/-- The body of the loop of `acquire` from the answer on. -/
def acquireAnswered (s : State) (call : Nat) (inputs : Inputs) (ambiguousRetries : Nat)
    (answer : Except String AcquireResult) (waited : Duration) : State :=
  match answer with
  | .error message =>
    let s : State := s.emit (.acquireFailed call)
    if ambiguousRetries = 0 then s.sendAcquire call inputs 1
    else s.put call (.acquired (.error (transportError inputs.key message)))
  | .ok (.acquired native) =>
    match remember s.tokens inputs.key inputs.holder native with
    | .error error => (s.emit (.acquireFailed call)).put call (.acquired (.error error))
    | .ok (fencingToken, tokens) =>
      let s : State := { s with tokens }.emit (.acquired call inputs.identity native.token)
      s.put call (.acquired (.ok ⟨inputs.key, inputs.holder, fencingToken,
        some native.leaseExpiresMs, inputs.ttlMs⟩))
  | .ok .fencingExhausted =>
    s.put call (.acquired (.error (LockError.invalidPlan inputs.key
      "beamscale: critical-section fencing sequence is exhausted")))
  | .ok .contended => s.contended call inputs ambiguousRetries waited

/-- `renew` up to its `await`. -/
def renew (s : State) (call : Nat) (grant : LeaseGrant) (ttl : Duration) : State :=
  let ttlMs := durationMs ttl
  if ttlMs = 0 then
    s.put call (.renewed (.error (LockError.invalidPlan grant.key
      "BeamScale renewal ttl must be positive")))
  else
    match lookup s.tokens grant with
    | .error error => s.put call (.renewed (.error error))
    | .ok expected =>
      (s.emit (.renewSent call (grantName grant) expected)).put call
        (.renewing grant ttlMs expected)

def renewAnswered (s : State) (call : Nat) (grant : LeaseGrant) (ttlMs : Nat) (expected : Token)
    (answer : Except String RenewResult) : State :=
  match answer with
  | .error message => s.put call (.renewed (.error (transportError grant.key message)))
  | .ok .lost =>
    let s : State := s.emit (.renewAnswered call (grantName grant) expected .lost)
    { s with tokens := forget s.tokens grant }.put call
      (.renewed (.error (LockError.new .lostLease grant.key
        "beamscale: renewal refused; fenced authority is lost")))
  | .ok (.renewed native) =>
    let s : State := s.emit
      (.renewAnswered call (grantName grant) expected (.renewed (some native.token)))
    if native.token ≠ expected ∨ native.leaseExpiresMs = 0 then
      { s with tokens := forget s.tokens grant }.put call
        (.renewed (.error (LockError.new .lostLease grant.key
          "beamscale: renewal changed or omitted the full authority token")))
    else
      s.put call (.renewed (.ok { grant with leaseExpiresMs := some native.leaseExpiresMs, ttlMs }))

/-- `release` up to its `await`. -/
def release (s : State) (call : Nat) (grant : LeaseGrant) : State :=
  match lookup s.tokens grant with
  | .error error => s.put call (.released (.error error))
  | .ok token =>
    (s.emit (.releaseSent call (grantName grant) token)).put call (.releasing grant token)

def releaseAnswered (s : State) (call : Nat) (grant : LeaseGrant) (answer : Except String Bool) :
    State :=
  match answer with
  | .error message => s.put call (.released (.error (transportError grant.key message)))
  | .ok released =>
    let s : State := s.emit (.released call (grantName grant))
    { s with tokens := forget s.tokens grant }.put call (.released (.ok released))

def step (s : State) (input : Input) : Option State :=
  match input with
  | .acquire call inputs =>
    match s.calls call with
    | none => some (s.acquire call inputs)
    | some _ => none
  | .renew call grant ttl =>
    match s.calls call with
    | none => some (s.renew call grant ttl)
    | some _ => none
  | .release call grant =>
    match s.calls call with
    | none => some (s.release call grant)
    | some _ => none
  | .acquireAnswered call answer waited =>
    match s.calls call with
    | some (.acquiring inputs ambiguousRetries) =>
      some (s.acquireAnswered call inputs ambiguousRetries answer waited)
    | _ => none
  | .slept call =>
    match s.calls call with
    | some (.sleeping inputs ambiguousRetries) => some (s.sendAcquire call inputs ambiguousRetries)
    | _ => none
  | .renewAnswered call answer =>
    match s.calls call with
    | some (.renewing grant ttlMs expected) =>
      some (s.renewAnswered call grant ttlMs expected answer)
    | _ => none
  | .releaseAnswered call answer =>
    match s.calls call with
    | some (.releasing grant _) => some (s.releaseAnswered call grant answer)
    | _ => none

end State

abbrev Runs : State → List Input → State → Prop := Exec fun s e t => s.step e = some t

/-- A new adapter. -/
def opened : State := ⟨fun _ => none, fun _ => none, []⟩

end OresLocks.BeamScale
