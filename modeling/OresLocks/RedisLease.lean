import OresLocks.RedisStore
import OresLocks.Shared.Utf8

/-!
# The Redis lease scripts

`acquire.lua`, `renew.lua` and `release.lua`. One execution takes the clock at which
Redis runs the script and the whole keyspace. The counter is incremented digit by
digit on its decimal text. An error of `redis.call` ends a script with that error.
-/

namespace OresLocks.RedisLease

set_option autoImplicit false

open Shared.Numeral Shared.Utf8 Redis

/-- The reply of `acquire.lua`: `{acquired, token, pttl, replayed}` or an error. -/
inductive AcquireReply where
  | error (message : String)
  | reply (acquired : Bool) (token : Bytes) (pttl : Int) (replayed : Bool)
  deriving DecidableEq

/-- The reply of `renew.lua`: `{renewed, pttl}` or an error. -/
inductive RenewReply where
  | error (message : String)
  | reply (renewed : Bool) (pttl : Int)
  deriving DecidableEq

/-- The reply of `release.lua`: the number of deleted keys, or an error. -/
inductive ReleaseReply where
  | error (message : String)
  | deleted (count : Nat)
  deriving DecidableEq

def wrongType : String := "WRONGTYPE Operation against a key holding the wrong kind of value"

def notInteger : String := "ERR value is not an integer or out of range"

def holderField : Bytes := utf8 "holder"

def tokenField : Bytes := utf8 "token"

theorem holderField_ne_tokenField : holderField ≠ tokenField := by
  unfold holderField tokenField
  rw [Ne, utf8_inj]
  decide

/-- The lower-case hexadecimal digits of the encoded key. -/
def utf8Hex (value : JsString) : Bytes :=
  (JsString.encode value).flatMap fun byte =>
    [byte / 16, byte % 16].map fun d => if d < 10 then 0x30 + d else 0x57 + d

/-- The two keys of one lock, in one hash slot. -/
def redisKeys (ns : Bytes) (key : JsString) : Bytes × Bytes :=
  let tag := ns ++ utf8 ":\x7b" ++ utf8Hex key
  (tag ++ utf8 "\x7d:lease", tag ++ utf8 "\x7d:fence")

theorem redisKeys_ne (ns : Bytes) (key : JsString) : (redisKeys ns key).1 ≠ (redisKeys ns key).2 := by
  intro h
  have hsuffix : utf8 "\x7d:lease" = utf8 "\x7d:fence" := List.append_cancel_left h
  rw [utf8_inj] at hsuffix
  exact absurd hsuffix (by decide)

/-- `string.gsub(current, '^0+', '')`, and `'0'` when nothing is left. -/
def stripZeros (current : Bytes) : Bytes :=
  let stripped := current.dropWhile (· == 0x30)
  if stripped.isEmpty then [0x30] else stripped

/-- The loop over the digits from the last to the first; the result is reversed. -/
def addCarry : Bytes → Nat → Bytes
  | [], carry => if carry = 1 then [0x31] else []
  | byte :: rest, carry =>
    if 10 ≤ byte.toNat - 48 + carry then
      UInt8.ofNat (48 + (byte.toNat - 48 + carry - 10)) :: addCarry rest 1
    else UInt8.ofNat (48 + (byte.toNat - 48 + carry)) :: addCarry rest 0

def nextToken (current : Bytes) : Bytes := (addCarry (stripZeros current).reverse 1).reverse

def maxSafeJsonInteger : Bytes := utf8 "9007199254740991"

def isExhausted (nextToken : Bytes) : Bool :=
  decide (16 < nextToken.length) ||
    (nextToken.length == 16 && decide (maxSafeJsonInteger < nextToken))

def exhausted : String := "ores-locks: safe-integer fencing token exhausted"

/-- The part of `acquire.lua` for an existing lease. -/
def acquireExisting (now : Int) (lockKey holder : Bytes) (store : Store) : AcquireReply :=
  if pttl now store lockKey ≤ 0 then
    .error "ores-locks: active lease is missing a positive TTL"
  else
    match hget now store lockKey holderField, hget now store lockKey tokenField with
    | .error _, _ => .error wrongType
    | _, .error _ => .error wrongType
    | .ok (some currentHolder), .ok (some currentToken) =>
      if currentHolder = holder then .reply true currentToken (pttl now store lockKey) true
      else .reply false [] (pttl now store lockKey) false
    | _, _ => .error "ores-locks: corrupt active lease"

/-- The three writes of `acquire.lua`; an error leaves the earlier ones in place. `expire`
is what `PEXPIRE` does to the new lease. -/
def acquireWriteBy (expire : Store → Except String Store) (now : Int)
    (lockKey fenceKey holder token : Bytes) (store : Store) : AcquireReply × Store :=
  match hset now (set store fenceKey token) lockKey [(holderField, holder), (tokenField, token)] with
  | .error _ => (.error wrongType, set store fenceKey token)
  | .ok written =>
    match expire written with
    | .error message => (.error message, written)
    | .ok expiring => (.reply true token (pttl now expiring lockKey) false, expiring)

def acquireBy (expire : Store → Except String Store) (now : Int)
    (lockKey fenceKey holder : Bytes) (store : Store) : AcquireReply × Store :=
  if exists? now store lockKey then (acquireExisting now lockKey holder store, store)
  else
    match get now store fenceKey with
    | .error _ => (.error wrongType, store)
    | .ok stored =>
      let current := stored.getD [0x30]
      if current.isEmpty || !isDigits current then
        (.error "ores-locks: corrupt decimal fencing counter", store)
      else if isExhausted (nextToken current) then (.error exhausted, store)
      else acquireWriteBy expire now lockKey fenceKey holder (nextToken current) store

/-- `PEXPIRE` where no expiry time is past the largest one. -/
def expireUnbounded (now : Int) (lockKey ttlMs : Bytes) (written : Store) : Except String Store :=
  match pexpire now written lockKey ttlMs with
  | none => .error notInteger
  | some expiring => .ok expiring

/-- `acquire.lua` at a time to live that ends before the largest expiry time. -/
def acquire (now : Int) (lockKey fenceKey holder ttlMs : Bytes) (store : Store) :
    AcquireReply × Store :=
  acquireBy (expireUnbounded now lockKey ttlMs) now lockKey fenceKey holder store

def renew (now : Int) (lockKey holder token ttlMs : Bytes) (store : Store) : RenewReply × Store :=
  match hget now store lockKey holderField, hget now store lockKey tokenField with
  | .ok currentHolder, .ok currentToken =>
    if currentHolder ≠ some holder then (.reply false (-2), store)
    else if currentToken ≠ some token then (.reply false (-2), store)
    else
      match pexpire now store lockKey ttlMs with
      | none => (.error notInteger, store)
      | some expiring => (.reply true (pttl now expiring lockKey), expiring)
  | _, _ => (.error wrongType, store)

def release (now : Int) (lockKey holder token : Bytes) (store : Store) : ReleaseReply × Store :=
  match hget now store lockKey holderField, hget now store lockKey tokenField with
  | .ok currentHolder, .ok currentToken =>
    if currentHolder ≠ some holder then (.deleted 0, store)
    else if currentToken ≠ some token then (.deleted 0, store)
    else if exists? now store lockKey then (.deleted 1, del store lockKey)
    else (.deleted 0, store)
  | _, _ => (.error wrongType, store)

end OresLocks.RedisLease
