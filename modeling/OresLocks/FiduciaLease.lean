import OresLocks.Redlock.Ts

/-!
# The Fiducia adapter of the TypeScript package

One call of `acquire` against a lock service that also serves other clients, promotes
queued requests and lets grants expire. The call has at most one post outstanding; a
post whose answer does not arrive ends the call, so a later post never overtakes it.
What the adapter relies on of the service is the list of laws of `LockService`.
-/

namespace OresLocks.Ts.Fiducia

set_option autoImplicit false

open Shared.Numeral Shared.Runs

/-- What `JSON.parse` makes of a text. No modelled function looks inside an array. -/
inductive Json where
  | null
  | boolean (b : Bool)
  | number (n : JsNumber)
  | string (s : JsString)
  | array
  | object (members : List (JsString × Json))

namespace Json

/-- A property read; the last of several members with one name counts. -/
def member (value : Json) (name : String) : Option Json :=
  match value with
  | .object members => (members.reverse.find? fun m => m.1 == js name).map Prod.snd
  | _ => none

def isTrue : Option Json → Bool
  | some (.boolean b) => b
  | _ => false

def isText (text : JsString) : Option Json → Bool
  | some (.string s) => s == text
  | _ => false

end Json

def asUint : Option Json → Option Nat
  | some (.number n) =>
    if n.isSafeInteger && decide (0 ≤ n.toInt) then some n.toInt.toNat else none
  | some (.string s) => if !s.isEmpty && isDigits s then some (natOf s) else none
  | _ => none

/-- A response with what `JSON.parse` makes of its text. -/
structure Response where
  status : Nat
  text : JsString
  parsed : Except Thrown Json

def error (message : JsString) : Thrown := .named "Error" message

/-- `#post` from the response on. -/
def readResponse (response : Response) : Except Thrown Json :=
  if 300 ≤ response.status then
    .error (error (js "fiducia: HTTP " ++ numeral response.status ++ js ": " ++
      JsString.trim response.text))
  else if response.text.isEmpty then .ok (.object [])
  else
    match response.parsed with
    | .error thrown => .error thrown
    | .ok parsed =>
      match (parsed.member "result").bind fun result => result.member "output" with
      | some (.object members) => .ok (.object members)
      | some .array => .ok .array
      | _ => .ok (.object [])

/-- The identity under which a call waits and holds. -/
structure Request where
  key : JsString
  holder : JsString
  requestId : JsString
  deriving DecidableEq

inductive Post where
  | acquire (request : Request) (ttlMs : JsNumber) (waitTimeoutMs : Option JsNumber)
  | cancel (request : Request)
  | release (key holder : JsString) (fencingToken : Nat)

/-- The arguments of one `acquire`, with the ids it uses and the time it started at. An
abort signal is its `cancelledCause`. -/
structure Inputs where
  refusal : Option JsString
  request : Request
  ttlMs : JsNumber
  waitTimeoutMs : JsNumber
  retryIntervalMs : JsNumber
  wait : Bool
  signal : Option Thrown
  started : Int

structure LeaseGrant where
  key : JsString
  holder : JsString
  fencingToken : Nat
  ttlMs : JsNumber
  leaseExpiresMs : Option Nat
  deriving DecidableEq

/-- The await the call is suspended at. -/
inductive Pc where
  | polling
  | sleeping
  | cancelling (terminal : LockError)
  | releasing (terminal : LockError) (fencingToken : Nat)
  | settled (result : Except Thrown LeaseGrant)

/-- The post that is under way, and its response once the service has made one. -/
inductive Wire where
  | idle
  | sent (post : Post)
  | answered (post : Post) (response : Response)

structure Call where
  pc : Pc
  wire : Wire
  attempted : Bool
  aborted : Bool

/-- `encodeWireInteger` refuses a token that a number does not hold exactly. -/
def prepare (inputs : Inputs) (post : Post) : Except Thrown Post :=
  match inputs.refusal with
  | some message => .error (error message)
  | none =>
    match post with
    | .release _ _ fencingToken =>
      if JsNumber.maxSafeInteger < fencingToken then
        let message := js "fiducia: fencing token " ++ numeral fencingToken ++
          js " cannot be represented exactly by the current numeric JSON wire format"
        .error (.named "RangeError" message)
      else .ok post
    | _ => .ok post

/-- The exact sum; a double sum differs from it beyond 2⁵³ only. -/
def add : JsNumber → JsNumber → JsNumber
  | .nan, _ => .nan
  | _, .nan => .nan
  | .infinity a, .infinity b => if a = b then .infinity a else .nan
  | .infinity a, _ => .infinity a
  | _, .infinity b => .infinity b
  | .finite a, .finite b => .finite (a + b)

namespace Inputs

variable (inputs : Inputs)

def transport (cause : Thrown) : Thrown :=
  .ofBuilt (LockError.transport inputs.request.key cause)

/-- `LockError.transport` with the step `fiducia.acquire`. -/
def transportAt (cause : Thrown) : Except Thrown LockError :=
  LockError.fromCause .transport inputs.request.key (some .fiduciaAcquire) cause

def timeout (waited : Int) : LockError :=
  ⟨.timeout, inputs.request.key, some .fiduciaAcquire,
    js "gave up waiting for `" ++ inputs.request.key ++ js "` after " ++
      Redlock.roundText (.ofInt waited) ++ js " ms"⟩

def cancelledCause : Thrown :=
  inputs.signal.getD (error (js "fiducia: acquisition cancelled by caller"))

def acquirePost : Post :=
  .acquire inputs.request inputs.ttlMs (if inputs.wait then some inputs.waitTimeoutMs else none)

end Inputs

namespace Call

variable (inputs : Inputs) (call : Call)

def fail (thrown : Thrown) : Call :=
  { call with pc := .settled (.error thrown), wire := .idle }

/-- `#cancelBeforeTerminal` up to the answer of its first post. -/
def cancelBeforeTerminal (terminal : LockError) : Call :=
  match prepare inputs (.cancel inputs.request) with
  | .error cause => call.fail (.ofBuilt (inputs.transportAt cause))
  | .ok post => { call with pc := .cancelling terminal, wire := .sent post }

/-- The error is built before `#cancelBeforeTerminal` is called with it. -/
def cancelAborted : Call :=
  match inputs.transportAt inputs.cancelledCause with
  | .error thrown => call.fail thrown
  | .ok terminal => call.cancelBeforeTerminal inputs terminal

def poll : Call :=
  match prepare inputs inputs.acquirePost with
  | .error cause => { call with attempted := true }.fail (inputs.transport cause)
  | .ok post => { call with attempted := true, pc := .polling, wire := .sent post }

/-- The top of the loop. -/
def loop : Call :=
  if call.aborted then
    if !call.attempted then call.fail (.ofBuilt (inputs.transportAt inputs.cancelledCause))
    else call.cancelAborted inputs
  else call.poll inputs

/-- The loop body from the answer of a poll on. -/
def polled (now : Int) (out : Json) : Call :=
  if Json.isTrue (out.member "acquired") then
    match asUint (out.member "fencing_token") with
    | none => call.fail (inputs.transport
        (error (js "fiducia: acquired without a positive fencing token")))
    | some fencingToken =>
      if fencingToken = 0 then
        call.fail (inputs.transport
          (error (js "fiducia: acquired without a positive fencing token")))
      else
        { call with
          pc := .settled (.ok ⟨inputs.request.key, inputs.request.holder, fencingToken,
            inputs.ttlMs, asUint (out.member "lease_expires_ms")⟩)
          wire := .idle }
  else if !inputs.wait then
    call.fail (.lockError (LockError.contention inputs.request.key .fiduciaTryAcquire))
  else if call.aborted then call.cancelAborted inputs
  else
    let waited := now - inputs.started
    if Redlock.gt (add (.ofInt waited) inputs.retryIntervalMs) inputs.waitTimeoutMs then
      call.cancelBeforeTerminal inputs (inputs.timeout waited)
    else { call with pc := .sleeping, wire := .idle }

end Call

/-- The token of a grant that the answer to `cancel` must name with its holder. -/
def racedToken (holder : JsString) (grant : Json) : Except String Nat :=
  match asUint (grant.member "fencing_token") with
  | none => .error "fiducia: cancel returned mismatched or malformed raced-grant authority"
  | some fencingToken =>
    if !Json.isText holder (grant.member "holder") || fencingToken == 0 then
      .error "fiducia: cancel returned mismatched or malformed raced-grant authority"
    else .ok fencingToken

/-- What `#cancelQueuedAcquire` makes of its answer: nothing is left, or a raced grant. -/
def readCancel (holder : JsString) (out : Json) : Except String (Option Nat) :=
  if Json.isTrue (out.member "cancelled") && !Json.isTrue (out.member "acquired") then .ok none
  else if !Json.isTrue (out.member "acquired") then
    .error "fiducia: cancel did not establish a safe terminal acquisition state"
  else
    match out.member "grant" with
    | some (.object members) => (racedToken holder (.object members)).map some
    | some .array => (racedToken holder .array).map some
    | _ => .error "fiducia: cancel reported a raced grant without grant authority"

namespace Call

variable (inputs : Inputs) (call : Call)

/-- A failure inside `#cancelQueuedAcquire`, caught by `#cancelBeforeTerminal`. -/
def unsafeTerminal (cause : Thrown) : Call := call.fail (.ofBuilt (inputs.transportAt cause))

def cancelAnswered (terminal : LockError) (out : Json) : Call :=
  match readCancel inputs.request.holder out with
  | .error message => call.unsafeTerminal inputs (error (js message))
  | .ok none => call.fail (.lockError terminal)
  | .ok (some fencingToken) =>
    match prepare inputs (.release inputs.request.key inputs.request.holder fencingToken) with
    | .error cause => call.unsafeTerminal inputs cause
    | .ok post => { call with pc := .releasing terminal fencingToken, wire := .sent post }

def releaseAnswered (terminal : LockError) (out : Json) : Call :=
  if Json.isTrue (out.member "released") then call.fail (.lockError terminal)
  else call.unsafeTerminal inputs
    (error (js "fiducia: raced grant release was a no-op; ownership safety is unknown"))

/-- The call goes on when its outstanding post is answered or fails. -/
def receive (now : Int) (answer : Except Thrown Json) : Call :=
  match call.pc with
  | .polling =>
    match answer with
    | .error cause => call.fail (inputs.transport cause)
    | .ok out => call.polled inputs now out
  | .cancelling terminal =>
    match answer with
    | .error cause => call.unsafeTerminal inputs cause
    | .ok out => call.cancelAnswered inputs terminal out
  | .releasing terminal _ =>
    match answer with
    | .error cause => call.unsafeTerminal inputs cause
    | .ok out => call.releaseAnswered inputs terminal out
  | _ => call

end Call

/-- How a request stands with the lock authority. -/
inductive Standing where
  | absent
  | queued
  | granted (fencingToken : Nat)
  deriving DecidableEq

/-- A lock service, and what its documentation promises about the requests that come
from one client only. -/
structure LockService where
  State : Type
  standing : State → Request → Standing
  /-- Promotions, expiries and the requests of clients with other request ids. -/
  others : Request → State → State → Prop
  /-- What the service may do before it answers an acquire poll. -/
  progress : Request → State → State → Prop
  serve : State → Post → State → Response → Prop
  others_law : ∀ {r : Request} {σ σ' : State}, others r σ σ' →
    standing σ' r = standing σ r ∨ standing σ' r = .absent ∨
      standing σ r = .queued ∧ ∃ fencingToken, standing σ' r = .granted fencingToken
  cancelled_law : ∀ {r : Request} {σ σ' : State} {response : Response} {out : Json},
    serve σ (.cancel r) σ' response → readResponse response = .ok out →
    Json.isTrue (out.member "cancelled") = true → Json.isTrue (out.member "acquired") = false →
    (standing σ r = .queued ∨ standing σ r = .absent) ∧ standing σ' r = .absent
  raced_law : ∀ {r : Request} {σ σ' : State} {response : Response} {out : Json},
    serve σ (.cancel r) σ' response → readResponse response = .ok out →
    Json.isTrue (out.member "acquired") = true →
    ∃ fencingToken, standing σ r = .granted fencingToken ∧
      standing σ' r = .granted fencingToken ∧
      ∀ grant named, out.member "grant" = some grant →
        asUint (grant.member "fencing_token") = some named → named = fencingToken
  released_law : ∀ {r : Request} {fencingToken : Nat} {σ σ' : State} {response : Response}
      {out : Json},
    serve σ (.release r.key r.holder fencingToken) σ' response → readResponse response = .ok out →
    Json.isTrue (out.member "released") = true →
    (standing σ r = .granted fencingToken → standing σ' r = .absent) ∧
      (standing σ r ≠ .granted fencingToken → standing σ' r = standing σ r)

variable (S : LockService)

/-- The call beside the service. -/
structure State where
  call : Call
  service : S.State

inductive Event where
  | others
  | progressed
  | served (response : Response)
  | received (now : Int)
  | lost (cause : Thrown) (now : Int)
  | elapsed
  | aborted
  | abortHeard

inductive Step (inputs : Inputs) (s : State S) : Event → State S → Prop where
  | others {σ : S.State} : S.others inputs.request s.service σ → Step inputs s .others ⟨s.call, σ⟩
  | progressed {ttlMs : JsNumber} {waitTimeoutMs : Option JsNumber} {σ : S.State} :
      s.call.wire = .sent (.acquire inputs.request ttlMs waitTimeoutMs) →
      S.progress inputs.request s.service σ → Step inputs s .progressed ⟨s.call, σ⟩
  | served {post : Post} {response : Response} {σ : S.State} : s.call.wire = .sent post →
      S.serve s.service post σ response →
      Step inputs s (.served response) ⟨{ s.call with wire := .answered post response }, σ⟩
  | received {post : Post} {response : Response} (now : Int) :
      s.call.wire = .answered post response →
      Step inputs s (.received now)
        ⟨s.call.receive inputs now (readResponse response), s.service⟩
  | lost (cause : Thrown) (now : Int) : s.call.wire ≠ .idle →
      Step inputs s (.lost cause now) ⟨s.call.receive inputs now (.error cause), s.service⟩
  | elapsed : s.call.pc = .sleeping → Step inputs s .elapsed ⟨s.call.loop inputs, s.service⟩
  | aborted : inputs.signal.isSome = true →
      Step inputs s .aborted ⟨{ s.call with aborted := true }, s.service⟩
  | abortHeard : s.call.pc = .sleeping → s.call.aborted = true →
      Step inputs s .abortHeard ⟨s.call.cancelAborted inputs, s.service⟩

/-- The call up to its first `await`; the signal may already be aborted. -/
def start (inputs : Inputs) (aborted : Bool) : Call :=
  Call.loop inputs ⟨.polling, .idle, false, aborted⟩

end OresLocks.Ts.Fiducia
