import OresLocks.JsErrors
import OresLocks.RedisLeaseAtomicity
import OresLocks.Shared.Runs

/-!
# The Upstash adapter

`UpstashRedisLease.acquire` and `renew`, one call after the other, over the scripts in
Redis. A command is sent, executed at some later time and answered later still, or lost
before or after its execution. Both sides read one clock. Between an execution and the
receipt of its answer no other script runs on that lease; apart from this other clients may
do anything at any time.
-/

namespace OresLocks.Upstash

set_option autoImplicit false

open Shared.Numeral Shared.Utf8 Redis RedisLease Ts

structure AcquireOptions where
  ttlMs : JsNumber
  waitTimeoutMs : Int
  retryIntervalMs : Int
  deriving DecidableEq

structure LeaseGrant where
  key : JsString
  holder : JsString
  fencingToken : Int
  ttlMs : JsNumber
  leaseExpiresMs : Option Int
  deriving DecidableEq

def maxFencingToken : Nat := 9007199254740991

def asFlag : JsValue → Bool
  | .number value => value == .ofInt 1
  | .string value => value == [0x31]
  | _ => false

def asBigInt : JsValue → Option Nat
  | .string value =>
    if JsString.matchesPositiveDecimal value && decide (natOf value ≤ maxFencingToken) then
      some (natOf value)
    else none
  | .number value =>
    if value.isSafeInteger && decide (0 < value.toInt) &&
        decide (value.toInt.toNat ≤ maxFencingToken) then
      some value.toInt.toNat
    else none
  | _ => none

def asNonNegativeMs : JsValue → Option Int
  | .number value =>
    if value.isSafeInteger && decide (0 ≤ value.toInt) then some value.toInt else none
  | .string value =>
    if !value.isEmpty && isDigits value && decide (natOf value ≤ JsNumber.maxSafeInteger) then
      some (natOf value)
    else none
  | _ => none

def validTtl (ttlMs : JsNumber) : Bool := ttlMs.isSafeInteger && decide (0 < ttlMs.toInt)

def invalidTtl (key : JsString) : Thrown :=
  .lockError ⟨.invalidPlan, key, none, js "redis lease ttlMs must be a positive safe integer"⟩

/-- `LockError.transport(key, new Error("redis-rest: ..."))`. -/
def transportFailure (key : JsString) (message : String) : Thrown :=
  let message := js "redis-rest: " ++ js message
  .ofBuilt (Ts.LockError.transport key (.named "Error" message))

def waitTimeout (key : JsString) (waited : Int) : Thrown :=
  .lockError ⟨.timeout, key, some .fiduciaAcquire,
    js "gave up waiting for `" ++ key ++ js "` after " ++ js (toString waited) ++ js " ms"⟩

/-- What `#command` returns or throws; `none` is a result that is no array. -/
abbrev Result := Except Thrown (Option (List JsValue))

/-- The answer of the REST API to `acquire.lua`. A token with a byte outside ASCII is no
decimal text in any decoding. -/
def acquireResult (key : JsString) : AcquireReply → Result
  | .error message => .error (transportFailure key message)
  | .reply acquired token pttl replayed => .ok (some
      [.number (.ofInt (if acquired then 1 else 0)),
        .string (token.map fun byte => UInt16.ofNat byte.toNat), .number (.ofInt pttl),
        .number (.ofInt (if replayed then 1 else 0))])

def renewResult (key : JsString) : RenewReply → Result
  | .error message => .error (transportFailure key message)
  | .reply renewed pttl => .ok (some
      [.number (.ofInt (if renewed then 1 else 0)), .number (.ofInt pttl)])

/-- One call of `acquire`, past its argument check. -/
structure Attempt where
  key : JsString
  holder : JsString
  opts : AcquireOptions
  wait : Bool
  started : Int
  deriving DecidableEq

/-- Where a call waits: for the answer to a command, which has been executed at some time
or not yet, for its retry timer, or no more. -/
inductive Phase where
  | acquiring (attempt : Attempt) (answer : Option (Int × AcquireReply))
  | sleeping (attempt : Attempt)
  | renewing (grant : LeaseGrant) (ttlMs : JsNumber) (answer : Option (Int × RenewReply))
  | settled (result : Except Thrown LeaseGrant)
  deriving DecidableEq

def fail (thrown : Thrown) : Phase := .settled (.error thrown)

/-- `acquire` up to its first command. -/
def acquire (key holder : JsString) (opts : AcquireOptions) (wait : Bool) (now : Int) : Phase :=
  if !validTtl opts.ttlMs then fail (invalidTtl key)
  else .acquiring ⟨key, holder, opts, wait, now⟩ none

/-- `renew` up to its command. -/
def renew (grant : LeaseGrant) (ttlMs : JsNumber) : Phase :=
  if !validTtl ttlMs then fail (invalidTtl grant.key) else .renewing grant ttlMs none

/-- The body of the loop of `acquire` after its command. -/
def afterAcquire (attempt : Attempt) (now : Int) : Result → Phase
  | .error thrown => fail thrown
  | .ok result =>
    match result with
    | some (acquired :: token :: rest) =>
      if asFlag acquired then
        match asBigInt token with
        | none => fail (transportFailure attempt.key "acquired without a valid fencing token")
        | some fencingToken =>
          let pttl := asNonNegativeMs (rest.getD 0 .undefined)
          let grant : LeaseGrant :=
            ⟨attempt.key, attempt.holder, fencingToken, attempt.opts.ttlMs, pttl.map (now + ·)⟩
          if asFlag (rest.getD 1 .undefined) then renew grant attempt.opts.ttlMs
          else .settled (.ok grant)
      else if !attempt.wait then
        fail (.lockError (Ts.LockError.contention attempt.key .fiduciaTryAcquire))
      else
        let waited := now - attempt.started
        if attempt.opts.waitTimeoutMs < waited + attempt.opts.retryIntervalMs then
          fail (waitTimeout attempt.key waited)
        else .sleeping attempt
    | _ => fail (transportFailure attempt.key "malformed acquire result")

/-- `renew` after its command. -/
def afterRenew (grant : LeaseGrant) (ttlMs : JsNumber) (now : Int) : Result → Phase
  | .error thrown => fail thrown
  | .ok result =>
    match result with
    | some (renewed :: rest) =>
      if !asFlag renewed then
        fail (.lockError ⟨.lostLease, grant.key, none,
          js "redis: renewal refused; fenced authority is lost"⟩)
      else
        match asNonNegativeMs (rest.getD 0 .undefined) with
        | none => .settled (.ok { grant with ttlMs })
        | some pttl => .settled (.ok { grant with ttlMs, leaseExpiresMs := some (now + pttl) })
    | _ => fail (transportFailure grant.key "malformed renew result")

/-! ## The adapter and Redis -/

structure State where
  now : Int
  store : Store
  phase : Phase

/-- The decimal text of a time to live, as a command carries it. -/
def ttlText (ttlMs : JsNumber) : Bytes := numeral ttlMs.toInt.toNat

/-- `renew.lua` with the overflow check of `PEXPIRE`. -/
def renewScript (now : Int) (lockKey holder token ttlMs : Bytes) (store : Store) :
    RenewReply × Store :=
  match hget now store lockKey holderField, hget now store lockKey tokenField with
  | .ok currentHolder, .ok currentToken =>
    if currentHolder ≠ some holder then (.reply false (-2), store)
    else if currentToken ≠ some token then (.reply false (-2), store)
    else
      match expireChecked now lockKey ttlMs store with
      | .error message => (.error message, store)
      | .ok expiring => (.reply true (pttl now expiring lockKey), expiring)
  | _, _ => (.error wrongType, store)

def executeAcquire (ns : Bytes) (attempt : Attempt) (now : Int) (store : Store) :
    AcquireReply × Store :=
  let keys := redisKeys ns attempt.key
  acquireScript now keys.1 keys.2 (JsString.encode attempt.holder) (ttlText attempt.opts.ttlMs) store

def executeRenew (ns : Bytes) (grant : LeaseGrant) (ttlMs : JsNumber) (now : Int) (store : Store) :
    RenewReply × Store :=
  renewScript now (redisKeys ns grant.key).1 (JsString.encode grant.holder)
    (utf8 (toString grant.fencingToken)) (ttlText ttlMs) store

/-- The absolute expiry a key has, if it exists. -/
def expiryAt (now : Int) (store : Store) (key : Bytes) : Option Int :=
  (lookup now store key).bind (·.expiresAt)

/-- `returned` is the receipt of an answer that makes the call return a grant. -/
inductive Label where
  | passed
  | others
  | called
  | executed
  | failed
  | woke
  | received
  | returned (grant : LeaseGrant) (executedAt receivedAt : Int) (expiry : Option Int)

/-- The receipt of the answer to a command that was executed at `executedAt`. -/
def receipt (ns : Bytes) (executedAt : Int) (s : State) (phase : Phase) : Label :=
  match phase with
  | .settled (.ok grant) =>
    .returned grant executedAt s.now (expiryAt s.now s.store (redisKeys ns grant.key).1)
  | _ => .received

/-- The lock whose script has been executed, with its answer still on the way. -/
def Phase.answering : Phase → Option JsString
  | .acquiring attempt (some _) => some attempt.key
  | .renewing grant _ (some _) => some grant.key
  | _ => none

inductive Step (ns : Bytes) (s : State) : Label → State → Prop where
  | passed (later : Int) : s.now ≤ later → Step ns s .passed { s with now := later }
  | others (store : Store) :
      (∀ key, s.phase.answering = some key →
        store (redisKeys ns key).1 = s.store (redisKeys ns key).1) →
      Step ns s .others { s with store }
  | acquire (result : Except Thrown LeaseGrant) (key holder : JsString) (opts : AcquireOptions)
      (wait : Bool) : s.phase = .settled result →
      Step ns s .called { s with phase := acquire key holder opts wait s.now }
  | renew (result : Except Thrown LeaseGrant) (grant : LeaseGrant) (ttlMs : JsNumber) :
      s.phase = .settled result → Step ns s .called { s with phase := renew grant ttlMs }
  | executeAcquire (attempt : Attempt) : s.phase = .acquiring attempt none →
      Step ns s .executed { s with
        store := (executeAcquire ns attempt s.now s.store).2
        phase := .acquiring attempt (some (s.now, (executeAcquire ns attempt s.now s.store).1)) }
  | executeRenew (grant : LeaseGrant) (ttlMs : JsNumber) : s.phase = .renewing grant ttlMs none →
      Step ns s .executed { s with
        store := (executeRenew ns grant ttlMs s.now s.store).2
        phase := .renewing grant ttlMs (some (s.now, (executeRenew ns grant ttlMs s.now s.store).1)) }
  | failAcquire (attempt : Attempt) (answer : Option (Int × AcquireReply)) (thrown : Thrown) :
      s.phase = .acquiring attempt answer → Step ns s .failed { s with phase := fail thrown }
  | failRenew (grant : LeaseGrant) (ttlMs : JsNumber) (answer : Option (Int × RenewReply))
      (thrown : Thrown) : s.phase = .renewing grant ttlMs answer →
      Step ns s .failed { s with phase := fail thrown }
  | receiveAcquire (attempt : Attempt) (executedAt : Int) (reply : AcquireReply) (phase : Phase) :
      s.phase = .acquiring attempt (some (executedAt, reply)) →
      phase = afterAcquire attempt s.now (acquireResult attempt.key reply) →
      Step ns s (receipt ns executedAt s phase) { s with phase }
  | receiveRenew (grant : LeaseGrant) (ttlMs : JsNumber) (executedAt : Int) (reply : RenewReply)
      (phase : Phase) : s.phase = .renewing grant ttlMs (some (executedAt, reply)) →
      phase = afterRenew grant ttlMs s.now (renewResult grant.key reply) →
      Step ns s (receipt ns executedAt s phase) { s with phase }
  | wake (attempt : Attempt) : s.phase = .sleeping attempt →
      Step ns s .woke { s with phase := .acquiring attempt none }

/-- A returned deadline is not past the expiry that the key has at that moment. -/
def Label.Honest : Label → Prop
  | .returned grant _ _ expiry =>
    ∀ deadline, grant.leaseExpiresMs = some deadline → ∃ expires, expiry = some expires ∧
      deadline ≤ expires
  | _ => True

/-- The answer arrives in the millisecond in which its script ran. -/
def Label.Prompt : Label → Prop
  | .returned _ executedAt receivedAt _ => receivedAt = executedAt
  | _ => True

end OresLocks.Upstash
