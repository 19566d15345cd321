import OresLocks.AuthorityRequests
import OresLocks.AuthorityExclusion
import OresLocks.JsErrors

/-!
# The Cloudflare lease adapter

`CloudflareDurableObjectLease.acquire` of one client that always passes the same
holder and request id, against the Durable Object authority. A call posts, waits
for the answer and goes on from there; between the post and the answer the
authority serves other requests and runs alarms. The transport can fail before a
request reaches the authority and after the authority has served it; the adapter
cannot tell the two apart. Any number of calls may be under way at once.
-/

namespace OresLocks.Cloudflare

set_option autoImplicit false

open Shared.Numeral Shared.Runs Authority Ts

/-- The fields of an answer that the adapter reads; an absent one is `undefined`. -/
structure LeaseResponse where
  acquired : JsValue
  replayed : JsValue
  renewed : JsValue
  fencingToken : JsValue
  leaseExpiresMs : JsValue
  deriving DecidableEq

def maxFencingToken : Nat := JsNumber.maxSafeInteger

def asBigInt : JsValue → Option Nat
  | .string value =>
    if JsString.matchesPositiveDecimal value && decide (natOf value ≤ maxFencingToken) then
      some (natOf value)
    else none
  | .number value =>
    if value.isSafeInteger && decide (0 < value.toInt) &&
        decide (value.toInt.toNat ≤ maxFencingToken) then
      some value.toInt.toNat
    else none
  | _ => none

def asSafeMs : JsValue → Option Int
  | .number value =>
    if value.isSafeInteger && decide (0 ≤ value.toInt) then some value.toInt else none
  | .string value =>
    if !value.isEmpty && isDigits value && decide (natOf value ≤ JsNumber.maxSafeInteger) then
      some (natOf value)
    else none
  | _ => none

/-- A number after `JSON.stringify` and `JSON.parse`. -/
def overJson : JsNumber → JsValue
  | .finite q => .number (.finite q)
  | _ => .null

structure AcquireOptions where
  ttlMs : JsNumber
  wait : Bool
  waitTimeoutMs : Int
  retryIntervalMs : Int
  deriving DecidableEq

structure LeaseGrant where
  key : JsString
  holder : JsString
  fencingToken : Nat
  ttlMs : JsNumber
  leaseExpiresMs : Option Int
  deriving DecidableEq

/-- What every call of the client passes to the adapter. -/
structure Client where
  key : JsString
  holder : JsString
  requestId : JsString

def Client.acquireBody (client : Client) (opts : AcquireOptions) : LeaseBody :=
  ⟨.string client.holder, .string client.requestId, overJson opts.ttlMs, .undefined⟩

/-- The Worker canonicalises the token; a decimal numeral stays as it is. -/
def renewBody (grant : LeaseGrant) (ttlMs : JsNumber) : LeaseBody :=
  ⟨.string grant.holder, .undefined, overJson ttlMs, .string (numeral grant.fencingToken)⟩

def AcquireError.code : AcquireError → String
  | .invalidHolder => "invalid_holder"
  | .invalidRequestId => "invalid_request_id"
  | .invalidTtl => "invalid_ttl"
  | .fencingTokenExhausted => "fencing_token_exhausted"

def RenewError.code : RenewError → String
  | .invalidHolder => "invalid_holder"
  | .invalidTtl => "invalid_ttl"
  | .invalidFencingToken => "invalid_fencing_token"

/-- `#post` for an answer with a status of 300 or more. -/
def httpFailure (key : JsString) (status : Nat) (text : String) : Thrown :=
  let message := js "cloudflare-do: HTTP " ++ numeral status ++ js ": " ++ js text
  .ofBuilt (Ts.LockError.transport key (.named "Error" message))

/-- What `#post` makes of the Worker's answer to `acquire`. -/
def acquireAnswer (key : JsString) : AcquireOutcome → Except Thrown LeaseResponse
  | .error error => .error (httpFailure key
      (if error = .fencingTokenExhausted then 503 else 400)
      ("\x7b\"acquired\":false,\"error\":\"" ++ AcquireError.code error ++ "\"\x7d"))
  | .threw _ => .error (httpFailure key 503 "\x7b\"error\":\"authority_rpc_failed\"\x7d")
  | .refused _ expires =>
    .ok ⟨.boolean false, .undefined, .undefined, .undefined, .number (.ofInt expires)⟩
  | .replayed token expires =>
    .ok ⟨.boolean true, .boolean true, .boolean false,
      (token.map JsValue.string).getD .null, .number (.ofInt expires)⟩
  | .granted token expires _ =>
    .ok ⟨.boolean true, .boolean false, .boolean false, .string token, .number (.ofInt expires)⟩

def renewAnswer (key : JsString) : RenewOutcome → Except Thrown LeaseResponse
  | .error error => .error (httpFailure key 400
      ("\x7b\"renewed\":false,\"error\":\"" ++ RenewError.code error ++ "\"\x7d"))
  | .refused _ => .ok ⟨.undefined, .undefined, .boolean false, .undefined, .undefined⟩
  | .renewed expires _ =>
    .ok ⟨.undefined, .undefined, .boolean true, .undefined, .number (.ofInt expires)⟩

/-- Where a call waits: for the answer of a post, for its retry timer, or no more. -/
inductive Phase where
  | acquiring
  | renewing (grant : LeaseGrant)
  | sleeping
  | settled (result : Except Thrown LeaseGrant)
  deriving DecidableEq

def transportFailure (key : JsString) (message : String) : Thrown :=
  .ofBuilt (Ts.LockError.transport key (.named "Error" (js message)))

/-- `LockError.timeout` with a wait that a stepped clock can make negative. -/
def waitTimeout (key : JsString) (waited : Int) : Thrown :=
  .lockError ⟨.timeout, key, some .fiduciaAcquire,
    js "gave up waiting for `" ++ key ++ js "` after " ++
      (if waited < 0 then js "-" else []) ++ numeral waited.natAbs ++ js " ms"⟩

/-- The body of the loop of `acquire` after its post has been answered. -/
def afterAcquire (client : Client) (opts : AcquireOptions) (started now : Int) :
    Except Thrown LeaseResponse → Phase
  | .error thrown => .settled (.error thrown)
  | .ok out =>
    if out.acquired = .boolean true then
      match asBigInt out.fencingToken with
      | none => .settled (.error (transportFailure client.key
          "cloudflare-do: acquired without a valid fencing token"))
      | some fencingToken =>
        let grant : LeaseGrant :=
          ⟨client.key, client.holder, fencingToken, opts.ttlMs, asSafeMs out.leaseExpiresMs⟩
        if out.replayed = .boolean true then .renewing grant
        else .settled (.ok grant)
    else if !opts.wait then
      .settled (.error (.lockError (Ts.LockError.contention client.key .fiduciaTryAcquire)))
    else if opts.waitTimeoutMs < now - started + opts.retryIntervalMs then
      .settled (.error (waitTimeout client.key (now - started)))
    else .sleeping

/-- `renew` after its post has been answered. -/
def afterRenew (grant : LeaseGrant) (ttlMs : JsNumber) : Except Thrown LeaseResponse → Phase
  | .error thrown => .settled (.error thrown)
  | .ok out =>
    if out.renewed ≠ .boolean true then
      .settled (.error (.lockError ⟨.lostLease, grant.key, none,
        js "cloudflare-do: renewal refused; fenced authority is lost"⟩))
    else
      match asSafeMs out.leaseExpiresMs with
      | none => .settled (.ok { grant with ttlMs })
      | some leaseExpiresMs => .settled (.ok { grant with ttlMs, leaseExpiresMs })

/-- One call of `acquire`; `answer` is what the authority said to its outstanding
post, while it is on its way back. -/
structure Call where
  opts : AcquireOptions
  started : Int
  phase : Phase
  answer : Option (Except Thrown LeaseResponse)
  deriving DecidableEq

structure State where
  storage : Storage
  calls : Nat → Option Call

def State.put (s : State) (i : Nat) (call : Call) : State :=
  { s with calls := fun j => if j = i then some call else s.calls j }

def init : State := ⟨fresh, fun _ => none⟩

inductive Label where
  | start (i : Nat) (opts : AcquireOptions) (started : Int)
  | serve (i : Nat) (event : Event)
  | other (event : Event)
  | lost (i : Nat) (cause : Thrown)
  | receive (i : Nat) (now : Int) (phase : Phase)
  | wake (i : Nat)

/-- The calls that wait for the answer of a post. -/
def Phase.posted : Phase → Bool
  | .acquiring => true
  | .renewing _ => true
  | _ => false

inductive Step (client : Client) (s : State) : Label → State → Prop where
  | start (i : Nat) (opts : AcquireOptions) (started : Int) : s.calls i = none →
      Step client s (.start i opts started) (s.put i ⟨opts, started, .acquiring, none⟩)
  | serveAcquire (i : Nat) (call : Call) (now : Int) (storage : Storage)
      (outcome : AcquireOutcome) :
      s.calls i = some call → call.phase = .acquiring → call.answer = none →
      acquire (client.acquireBody call.opts) now s.storage = (outcome, storage) →
      Step client s (.serve i (.acquire (client.acquireBody call.opts) now outcome))
        ({ s with storage }.put i { call with answer := some (acquireAnswer client.key outcome) })
  | serveRenew (i : Nat) (call : Call) (grant : LeaseGrant) (now : Int) (storage : Storage)
      (outcome : RenewOutcome) :
      s.calls i = some call → call.phase = .renewing grant → call.answer = none →
      renew (renewBody grant call.opts.ttlMs) now s.storage = (outcome, storage) →
      Step client s (.serve i (.renew (renewBody grant call.opts.ttlMs) now outcome))
        ({ s with storage }.put i { call with answer := some (renewAnswer client.key outcome) })
  | other (event : Event) (storage : Storage) : Authority.Step s.storage event storage →
      Step client s (.other event) { s with storage }
  | lost (i : Nat) (call : Call) (cause : Thrown) :
      s.calls i = some call → call.phase.posted = true →
      Step client s (.lost i cause)
        (s.put i { call with
          phase := .settled (.error (.ofBuilt (Ts.LockError.transport client.key cause)))
          answer := none })
  | receiveAcquire (i : Nat) (call : Call) (answer : Except Thrown LeaseResponse) (now : Int) :
      s.calls i = some call → call.phase = .acquiring → call.answer = some answer →
      Step client s (.receive i now (afterAcquire client call.opts call.started now answer))
        (s.put i { call with
          phase := afterAcquire client call.opts call.started now answer, answer := none })
  | receiveRenew (i : Nat) (call : Call) (grant : LeaseGrant)
      (answer : Except Thrown LeaseResponse) (now : Int) :
      s.calls i = some call → call.phase = .renewing grant → call.answer = some answer →
      Step client s (.receive i now (afterRenew grant call.opts.ttlMs answer))
        (s.put i { call with phase := afterRenew grant call.opts.ttlMs answer, answer := none })
  | wake (i : Nat) (call : Call) :
      s.calls i = some call → call.phase = .sleeping →
      Step client s (.wake i) (s.put i { call with phase := .acquiring })

/-- What the authority served, for whomever, oldest first. -/
def Label.event : Label → Option Event
  | .serve _ event => some event
  | .other event => some event
  | _ => none

def history (ls : List Label) : List Event := ls.filterMap Label.event

/-- What the authority served for one call of the client. -/
def Label.servedFor (i : Nat) : Label → Option Event
  | .serve j event => if j = i then some event else none
  | _ => none

def served (i : Nat) (ls : List Label) : List Event := ls.filterMap (Label.servedFor i)

end OresLocks.Cloudflare
