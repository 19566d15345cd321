import OresLocks.BeamScale.Adapter
import OresLocks.FiduciaLease
import OresLocks.Shared.Json

/-!
# The BeamScale adapter of the TypeScript package

A call runs without interruption between two awaits: of `fetch`, of the text of its response
and of a timer. The environment resumes the calls in any order. `log` records what was sent
and answered, oldest first. Tokens are kept in a map of texts.
-/

namespace OresLocks.Ts.BeamScale

set_option autoImplicit false

open Shared.Numeral Shared.Runs
open OresLocks.BeamScale (Adapter Token Identity Name Renewal Event)
open OresLocks.Ts.Fiducia (Json add error)
open OresLocks.Ts.Redlock (gt ge roundText)

/-- The package has one type of grants. -/
abbrev LeaseGrant := Redlock.LeaseGrant

def positiveSafeInteger : Option Json → Option Nat
  | some (.number n) => if n.isSafeInteger && decide (0 < n.toInt) then some n.toInt.toNat else none
  | _ => none

def nonnegativeSafeInteger : Option Json → Option JsNumber
  | some (.number n) => if n.isSafeInteger && decide (0 ≤ n.toInt) then some n else none
  | _ => none

def decodeToken : Option Json → Option Token
  | some (.object members) => do
    let token := Json.object members
    let runtimeEpoch ← positiveSafeInteger (token.member "runtime_epoch")
    let ownerEpoch ← positiveSafeInteger (token.member "owner_epoch")
    let sequence ← positiveSafeInteger (token.member "sequence")
    if u64Max < sequence then none else some ⟨runtimeEpoch, ownerEpoch, sequence⟩
  | _ => none

def sameToken (left right : Token) : Bool :=
  left.runtimeEpoch == right.runtimeEpoch && left.ownerEpoch == right.ownerEpoch &&
    left.sequence == right.sequence

/-- `BigInt.prototype.toString`. -/
def bigintText (n : Int) : JsString := (if n < 0 then [0x2d] else []) ++ numeral n.natAbs

def tokenRegistryKey (key holder : JsString) (fencingToken : Int) : JsString :=
  Shared.Json.writeArray [key, holder, bigintText fencingToken]

/-- The adapter's `#tokens`. -/
abbrev Tokens := JsString → Option Token

def set (tokens : Tokens) (id : JsString) (token : Token) : Tokens :=
  fun other => if other = id then some token else tokens other

def delete (tokens : Tokens) (id : JsString) : Tokens :=
  fun other => if other = id then none else tokens other

def remember (tokens : Tokens) (key holder : JsString) (token : Token) : Int × Tokens :=
  let fencingToken : Int := token.sequence
  (fencingToken, set tokens (tokenRegistryKey key holder fencingToken) token)

def lostLease (key : JsString) (message : String) : Thrown :=
  .lockError ⟨.lostLease, key, none, js message⟩

def lookup (tokens : Tokens) (grant : LeaseGrant) : Except Thrown Token :=
  match tokens (tokenRegistryKey grant.key grant.holder grant.fencingToken) with
  | some token => .ok token
  | none => .error (lostLease grant.key ("beamscale: full authority token is unavailable for " ++
      "this grant; renew/release cannot be proven"))

def forget (tokens : Tokens) (grant : LeaseGrant) : Tokens :=
  delete tokens (tokenRegistryKey grant.key grant.holder grant.fencingToken)

/-- A thrown value; `read` is what reading its property `kind` gives if it is an object, and
`undefined` if it is not. A `LockError` has its own kind. -/
structure Rejection where
  cause : Thrown
  read : Except Thrown JsValue

def Rejection.kind (rejection : Rejection) : Except Thrown JsValue :=
  match rejection.cause with
  | .lockError lock => .ok (.string (js lock.kind.asStr))
  | _ => rejection.read

/-- The text of a response, what `JSON.parse` makes of it, and what `String` makes of its
`error_code` where that is a number, an array or an object. -/
structure Body where
  text : JsString
  parsed : Except Thrown Json
  shown : Except Thrown JsString

structure Answer where
  status : Nat
  body : Json
  shown : Except Thrown JsString

/-- What `#post` throws when `fetch` does. -/
def fetchFailed (key : JsString) (cause : Thrown) : Rejection :=
  ⟨.ofBuilt (LockError.transport key cause), .ok .undefined⟩

def invalidJson (key : JsString) (text : Except Thrown JsString) : Rejection :=
  match text with
  | .ok text => ⟨.ofBuilt (LockError.transport key
      (error (js "beamscale: invalid JSON response: " ++ text))), .ok .undefined⟩
  | .error thrown => ⟨thrown, .ok .undefined⟩

/-- `#post` from the text of the response on. -/
def readBody (key : JsString) (status : Nat) (body : Body) : Except Rejection Answer :=
  if body.text.isEmpty then .ok ⟨status, .object [], body.shown⟩
  else
    match body.parsed with
    | .error cause => .error (invalidJson key cause.text)
    | .ok (.object members) => .ok ⟨status, .object members, body.shown⟩
    | .ok _ => .error (invalidJson key (.ok (js "Error: response was not an object")))

namespace Answer

variable (answer : Answer)

/-- `status >= 200 && status < 300 && body.ok === true`. -/
def accepted : Bool :=
  decide (200 ≤ answer.status) && decide (answer.status < 300) &&
    Json.isTrue (answer.body.member "ok")

def hasCode (code : String) : Bool := Json.isText (js code) (answer.body.member "error_code")

/-- `String(body.error_code ?? "unknown")`. -/
def code : Except Thrown JsString :=
  match answer.body.member "error_code" with
  | none => .ok (js "unknown")
  | some .null => .ok (js "unknown")
  | some (.boolean b) => .ok (js (if b then "true" else "false"))
  | some (.string s) => .ok s
  | some _ => answer.shown

/-- The transport error for an answer that no other branch takes. -/
def rejected (key : JsString) (operation : String) : Thrown :=
  match answer.code with
  | .ok code => .ofBuilt (LockError.transport key (error (js "beamscale: " ++ js operation ++
      js " rejected with HTTP " ++ numeral answer.status ++ js " / " ++ code)))
  | .error thrown => thrown

def token : Option Token := decodeToken (answer.body.member "token")

def leaseExpiresMs : Option JsNumber := nonnegativeSafeInteger (answer.body.member "expires_at_ms")

/-- The lease is another holder's or nobody's. -/
def stale : Bool := decide (answer.status = 409) && answer.hasCode "stale_or_not_owner"

end Answer

structure AcquireOptions where
  ttlMs : JsNumber
  waitTimeoutMs : JsNumber
  retryIntervalMs : JsNumber
  holder : Option JsString
  requestId : Option JsString

/-- The arguments of one `acquire`, with the ids that missing ones are replaced by and the
time it started at. -/
structure Inputs where
  key : JsString
  opts : AcquireOptions
  generatedHolder : JsString
  generatedRequestId : JsString
  wait : Bool
  started : Int

namespace Inputs

def holder (inputs : Inputs) : JsString := inputs.opts.holder.getD inputs.generatedHolder

def requestId (inputs : Inputs) : JsString := inputs.opts.requestId.getD inputs.generatedRequestId

def identity (inputs : Inputs) : Identity JsString := ⟨inputs.key, inputs.holder, inputs.requestId⟩

end Inputs

/-- The two awaits of `#post`. -/
inductive Post where
  | fetching
  | reading (status : Nat)

/-- One call and the await it is suspended at. -/
inductive Call where
  | acquiring (inputs : Inputs) (ambiguousRetries : Nat) (post : Post)
  | sleeping (inputs : Inputs) (ambiguousRetries : Nat)
  | acquired (result : Except Thrown LeaseGrant)
  | renewing (grant : LeaseGrant) (ttlMs : JsNumber) (token : Token) (post : Post)
  | renewed (result : Except Thrown LeaseGrant)
  | releasing (grant : LeaseGrant) (token : Token) (post : Post)
  | released (result : Except Thrown Bool)

abbrev State := Adapter Tokens Call JsString

inductive Input where
  | acquire (call : Nat) (inputs : Inputs)
  | renew (call : Nat) (grant : LeaseGrant) (ttlMs : JsNumber)
  | release (call : Nat) (grant : LeaseGrant)
  | fetched (call : Nat) (response : Except Thrown Nat)
  | read (call : Nat) (body : Except Rejection Body) (now : Int)
  | slept (call : Nat)

/-- The grant as the requests for it name it. -/
def grantName (grant : LeaseGrant) : Name JsString := ⟨grant.key, grant.holder, grant.fencingToken⟩

namespace State

/-- `acquire` from the top of its loop to the first `await`. -/
def sendAcquire (s : State) (call : Nat) (inputs : Inputs) (ambiguousRetries : Nat) : State :=
  (s.emit (.acquireSent call inputs.identity)).put call
    (.acquiring inputs ambiguousRetries .fetching)

/-- The `catch` of `acquire`. -/
def acquireThrown (s : State) (call : Nat) (inputs : Inputs) (ambiguousRetries : Nat)
    (rejection : Rejection) : State :=
  let s : State := s.emit (.acquireFailed call)
  match rejection.kind with
  | .error thrown => s.put call (.acquired (.error thrown))
  | .ok kind =>
    if kind = .string (js "transport") ∧ ambiguousRetries = 0 then
      s.sendAcquire call inputs (ambiguousRetries + 1)
    else s.put call (.acquired (.error rejection.cause))

def contended (s : State) (call : Nat) (inputs : Inputs) (ambiguousRetries : Nat) (now : Int) :
    State :=
  if !inputs.wait then
    s.put call (.acquired (.error (.lockError
      (LockError.contention inputs.key .fiduciaTryAcquire))))
  else
    let waited := JsNumber.ofInt (now - inputs.started)
    if ge waited inputs.opts.waitTimeoutMs ||
        gt (add waited inputs.opts.retryIntervalMs) inputs.opts.waitTimeoutMs then
      s.put call (.acquired (.error (.lockError ⟨.timeout, inputs.key, some .fiduciaAcquire,
        js "gave up waiting for `" ++ inputs.key ++ js "` after " ++ roundText waited ++
          js " ms"⟩)))
    else s.put call (.sleeping inputs ambiguousRetries)

/-- The loop body of `acquire` after an answer. -/
def acquireAnswered (s : State) (call : Nat) (inputs : Inputs) (ambiguousRetries : Nat)
    (answer : Answer) (now : Int) : State :=
  let fail (thrown : Thrown) : State :=
    (s.emit (.acquireFailed call)).put call (.acquired (.error thrown))
  if answer.accepted then
    match answer.token, answer.leaseExpiresMs with
    | some token, some leaseExpiresMs =>
      let (fencingToken, tokens) := remember s.tokens inputs.key inputs.holder token
      let s : State := { s with tokens }.emit (.acquired call inputs.identity token)
      s.put call (.acquired (.ok ⟨inputs.key, inputs.holder, fencingToken, some leaseExpiresMs,
        inputs.opts.ttlMs⟩))
    | _, _ => fail (.ofBuilt (LockError.transport inputs.key
        (error (js "beamscale: acquire returned an invalid grant"))))
  else if answer.hasCode "fencing_exhausted" then
    s.put call (.acquired (.error (Redlock.invalidPlan inputs.key
      "beamscale: critical-section fencing sequence is exhausted")))
  else if answer.status = 409 ∧ answer.hasCode "busy" then
    s.contended call inputs ambiguousRetries now
  else fail (answer.rejected inputs.key "acquire")

/-- `renew` up to its first `await`. -/
def renew (s : State) (call : Nat) (grant : LeaseGrant) (ttlMs : JsNumber) : State :=
  match lookup s.tokens grant with
  | .error thrown => s.put call (.renewed (.error thrown))
  | .ok token =>
    (s.emit (.renewSent call (grantName grant) token)).put call
      (.renewing grant ttlMs token .fetching)

def renewAnswered (s : State) (call : Nat) (grant : LeaseGrant) (ttlMs : JsNumber) (token : Token)
    (answer : Answer) : State :=
  if answer.stale then
    let s : State := s.emit (.renewAnswered call (grantName grant) token .lost)
    { s with tokens := forget s.tokens grant }.put call (.renewed (.error (lostLease grant.key
      "beamscale: renewal refused; durable critical-section authority is lost")))
  else if !answer.accepted then
    s.put call (.renewed (.error (answer.rejected grant.key "renew")))
  else
    let s : State := s.emit (.renewAnswered call (grantName grant) token (.renewed answer.token))
    let lose : State := { s with tokens := forget s.tokens grant }.put call
      (.renewed (.error (lostLease grant.key
        "beamscale: renewal changed or omitted the full fencing token")))
    match answer.token, answer.leaseExpiresMs with
    | some renewedToken, some leaseExpiresMs =>
      if sameToken token renewedToken then
        s.put call (.renewed (.ok { grant with leaseExpiresMs := some leaseExpiresMs, ttlMs }))
      else lose
    | _, _ => lose

/-- `release` up to its first `await`. -/
def release (s : State) (call : Nat) (grant : LeaseGrant) : State :=
  match lookup s.tokens grant with
  | .error thrown => s.put call (.released (.error thrown))
  | .ok token =>
    (s.emit (.releaseSent call (grantName grant) token)).put call (.releasing grant token .fetching)

/-- The `catch` of `release`. -/
def releaseThrown (s : State) (call : Nat) (thrown : Thrown) : State :=
  s.put call (.released (.error (tagStep thrown .fiduciaRelease)))

def releaseAnswered (s : State) (call : Nat) (grant : LeaseGrant) (answer : Answer) : State :=
  let complete (result : Bool) : State :=
    let s : State := s.emit (.released call (grantName grant))
    { s with tokens := forget s.tokens grant }.put call (.released (.ok result))
  if answer.stale then complete false
  else if !answer.accepted then s.releaseThrown call (answer.rejected grant.key "release")
  else complete true

/-- `fetch` resolves with a status or rejects. -/
def fetched (s : State) (call : Nat) (response : Except Thrown Nat) : Option State :=
  match s.calls call, response with
  | some (.acquiring inputs ambiguousRetries .fetching), .ok status =>
    some (s.put call (.acquiring inputs ambiguousRetries (.reading status)))
  | some (.acquiring inputs ambiguousRetries .fetching), .error cause =>
    some (s.acquireThrown call inputs ambiguousRetries (fetchFailed inputs.key cause))
  | some (.renewing grant ttlMs token .fetching), .ok status =>
    some (s.put call (.renewing grant ttlMs token (.reading status)))
  | some (.renewing grant _ _ .fetching), .error cause =>
    some (s.put call (.renewed (.error (fetchFailed grant.key cause).cause)))
  | some (.releasing grant token .fetching), .ok status =>
    some (s.put call (.releasing grant token (.reading status)))
  | some (.releasing grant _ .fetching), .error cause =>
    some (s.releaseThrown call (fetchFailed grant.key cause).cause)
  | _, _ => none

/-- The text of a response arrives or fails to. -/
def read (s : State) (call : Nat) (body : Except Rejection Body) (now : Int) : Option State :=
  match s.calls call with
  | some (.acquiring inputs ambiguousRetries (.reading status)) =>
    match body.bind (readBody inputs.key status) with
    | .error rejection => some (s.acquireThrown call inputs ambiguousRetries rejection)
    | .ok answer => some (s.acquireAnswered call inputs ambiguousRetries answer now)
  | some (.renewing grant ttlMs token (.reading status)) =>
    match body.bind (readBody grant.key status) with
    | .error rejection => some (s.put call (.renewed (.error rejection.cause)))
    | .ok answer => some (s.renewAnswered call grant ttlMs token answer)
  | some (.releasing grant _ (.reading status)) =>
    match body.bind (readBody grant.key status) with
    | .error rejection => some (s.releaseThrown call rejection.cause)
    | .ok answer => some (s.releaseAnswered call grant answer)
  | _ => none

def step (s : State) (input : Input) : Option State :=
  match input with
  | .acquire call inputs =>
    match s.calls call with
    | none => some (s.sendAcquire call inputs 0)
    | some _ => none
  | .renew call grant ttlMs =>
    match s.calls call with
    | none => some (s.renew call grant ttlMs)
    | some _ => none
  | .release call grant =>
    match s.calls call with
    | none => some (s.release call grant)
    | some _ => none
  | .fetched call response => s.fetched call response
  | .read call body now => s.read call body now
  | .slept call =>
    match s.calls call with
    | some (.sleeping inputs ambiguousRetries) => some (s.sendAcquire call inputs ambiguousRetries)
    | _ => none

end State

abbrev Runs : State → List Input → State → Prop := Exec fun s e t => s.step e = some t

/-- A new adapter. -/
def opened : State := ⟨fun _ => none, fun _ => none, []⟩

end OresLocks.Ts.BeamScale
