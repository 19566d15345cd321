import OresLocks.RedisStore
import OresLocks.Fence

/-!
# The Redis fenced-write script

One script execution takes the clock at which Redis runs it, the lists `KEYS` and
`ARGV` and the whole keyspace. Lua strings are byte strings and compare byte by
byte, as `strcoll` does in the locale Redis sets.
-/

namespace OresLocks.FencedWrite

set_option autoImplicit false

open Shared.Numeral Shared.Utf8 Redis Fence

def maxToken : Bytes := utf8 "18446744073709551615"

/-- An error reply, or `{ decision, should_apply, current_token, previous_token }`. -/
inductive Reply where
  | error (message : String)
  | decision (kind : FenceDecisionKind) (shouldApply : Bool) (currentToken previousToken : Bytes)
  deriving DecidableEq

def fail (message : String) : Reply := .error ("ORES_FENCE " ++ message)

/-- The text between the first brace and the next closing brace. -/
def hashTag (key : Bytes) : Option Bytes :=
  match key.dropWhile (· != 0x7b) with
  | [] => none
  | _ :: rest =>
    if rest.all (· != 0x7d) then none
    else if (rest.takeWhile (· != 0x7d)).isEmpty then none
    else some (rest.takeWhile (· != 0x7d))

def canonicalToken (value : Bytes) : Bool :=
  if value.length = 0 ∨ 20 < value.length then false
  else if 1 < value.length ∧ value.head? = some 0x30 then false
  else if !value.all fun byte => 0x30 ≤ byte && byte ≤ 0x39 then false
  else if value.length = 20 ∧ maxToken < value then false
  else true

def compareDecimal (left right : Bytes) : Ordering :=
  if left.length < right.length then .lt
  else if right.length < left.length then .gt
  else if left < right then .lt
  else if right < left then .gt
  else .eq

def validOptional (value : Bytes) (maxBytes : Nat) : Bool :=
  value.isEmpty || (decide (1 ≤ value.length) && decide (value.length ≤ maxBytes))

def validStoredOptional (value : Option Bytes) (maxBytes : Nat) : Bool :=
  match value with
  | none => false
  | some value =>
    value.isEmpty || (decide (1 ≤ value.length) && decide (value.length ≤ maxBytes))

def validSha256 (value : Bytes) : Bool := value.length == 64 && value.all isLowerHex

structure Request where
  watermarkKey : Bytes
  stateKey : Bytes
  incoming : Bytes
  operationId : Bytes
  payloadSha256 : Bytes
  serializedValue : Bytes
  holder : Bytes
  leaseId : Bytes
  deriving DecidableEq

/-- The checks made before any Redis command. -/
def Request.check (r : Request) : Except String Unit :=
  if r.watermarkKey = r.stateKey then .error "watermark and state keys must be distinct"
  else if (hashTag r.watermarkKey).isNone ∨ (hashTag r.stateKey).isNone ∨
      hashTag r.watermarkKey ≠ hashTag r.stateKey then
    .error "watermark and state keys must use the same non-empty hash tag"
  else if !canonicalToken r.incoming then
    .error "fencing token must be canonical unsigned-64 decimal text"
  else if r.operationId.length < 1 ∨ 128 < r.operationId.length then
    .error "operation id must contain 1..128 bytes"
  else if !validSha256 r.payloadSha256 then
    .error "payload SHA-256 must be 64 lowercase hexadecimal characters"
  else if !validOptional r.holder 256 then .error "holder must be absent or contain 1..256 bytes"
  else if !validOptional r.leaseId 256 then
    .error "lease id must be absent or contain 1..256 bytes"
  else .ok ()

/-- Reads `KEYS` and `ARGV`; an absent optional argument is the empty text. -/
def arguments (keys argv : List Bytes) : Except String Request :=
  match keys with
  | [watermarkKey, stateKey] =>
    match argv with
    | incoming :: operationId :: payloadSha256 :: serializedValue :: optional =>
      if 2 < optional.length then
        .error "expected four required and up to two optional arguments"
      else
        let r : Request := ⟨watermarkKey, stateKey, incoming, operationId, payloadSha256,
          serializedValue, optional.getD 0 [], optional.getD 1 []⟩
        match r.check with
        | .ok () => .ok r
        | .error message => .error message
    | _ => .error "expected four required and up to two optional arguments"
  | _ => .error "expected exactly two keys"

def fencingTokenField : Bytes := utf8 "fencing_token"

def operationIdField : Bytes := utf8 "operation_id"

def payloadSha256Field : Bytes := utf8 "payload_sha256"

def holderField : Bytes := utf8 "holder"

def leaseIdField : Bytes := utf8 "lease_id"

def Request.fields (r : Request) : List (Bytes × Bytes) :=
  [(fencingTokenField, r.incoming), (operationIdField, r.operationId),
    (payloadSha256Field, r.payloadSha256), (holderField, r.holder), (leaseIdField, r.leaseId)]

/-- The two writes of an accepted request. -/
def write (now : Int) (r : Request) (store : Store) (previous : Bytes) : Reply × Store :=
  match hset now store r.watermarkKey r.fields with
  | .error _ => (.error "WRONGTYPE", store)
  | .ok store => (.decision .advanced true r.incoming previous, set store r.stateKey r.serializedValue)

/-- The checks of the other stored fields; gives the stored operation and payload. -/
def storedFields (stored : List (Option Bytes)) : Except String (Bytes × Bytes) :=
  match stored with
  | [operation, payload, holder, leaseId] =>
    match operation with
    | none => .error "stored watermark operation_id is missing or invalid"
    | some operation =>
      if operation.length < 1 ∨ 128 < operation.length then
        .error "stored watermark operation_id is missing or invalid"
      else
        match payload with
        | none => .error "stored watermark payload_sha256 is missing or invalid"
        | some payload =>
          if !validSha256 payload then
            .error "stored watermark payload_sha256 is missing or invalid"
          else if !validStoredOptional holder 256 then
            .error "stored watermark holder is missing or invalid"
          else if !validStoredOptional leaseId 256 then
            .error "stored watermark lease_id is missing or invalid"
          else .ok (operation, payload)
  | _ => .error "stored watermark operation_id is missing or invalid"

/-- The decision against an existing watermark with the given token. -/
def decideStored (now : Int) (r : Request) (store : Store) (current : Bytes) : Reply × Store :=
  match hmget now store r.watermarkKey
      [operationIdField, payloadSha256Field, holderField, leaseIdField] with
  | .error _ => (fail "watermark key must contain a hash", store)
  | .ok stored =>
    match storedFields stored with
    | .error message => (fail message, store)
    | .ok (operation, payload) =>
      match hlen now store r.watermarkKey with
      | .error _ => (.error "WRONGTYPE", store)
      | .ok count =>
        if count ≠ 5 then (fail "stored watermark must contain exactly five fields", store)
        else
          match compareDecimal r.incoming current with
          | .gt => write now r store current
          | .lt => (.decision .stale false current current, store)
          | .eq =>
            if operation = r.operationId ∧ payload = r.payloadSha256 then
              (.decision .replay false current current, store)
            else (.decision .tokenReuse false current current, store)

def execute (now : Int) (r : Request) (store : Store) : Reply × Store :=
  match hget now store r.watermarkKey fencingTokenField with
  | .error _ => (fail "watermark key must contain a hash", store)
  | .ok current =>
    match get now store r.stateKey with
    | .error _ => (fail "protected state key must contain a string", store)
    | .ok protectedState =>
      match current with
      | none =>
        if exists? now store r.watermarkKey then
          (fail "stored watermark is missing fencing_token", store)
        else if protectedState.isSome then
          (fail "orphan protected state exists without a watermark", store)
        else write now r store []
      | some current =>
        if protectedState.isNone then
          (fail "protected state is missing for the existing watermark", store)
        else if !canonicalToken current then
          (fail "stored watermark is not canonical unsigned-64 decimal text", store)
        else decideStored now r store current

def fencedWrite (now : Int) (keys argv : List Bytes) (store : Store) : Reply × Store :=
  match arguments keys argv with
  | .error message => (fail message, store)
  | .ok r => execute now r store

end OresLocks.FencedWrite
