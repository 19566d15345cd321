import OresLocks.Fencing.Go
import OresLocks.Fencing.RequestText

/-!
# The wire decoder of the Go package

`DecodeFencedWriteRequestJSON` over what `json.Decoder` serves. The message of an error is
its format with the arguments.
-/

namespace OresLocks.Fencing.Go

set_option autoImplicit false

open Fence Shared.Json Shared.Numeral Shared.Utf8
open OresLocks.Ts (js)

def maxFencedWriteJsonBytes : Nat := 4096

def validationInvalidType : String := "invalid_type"

def validationUnexpectedField : String := "unexpected_field"

def validationEmptyField : String := "empty_field"

def validationTooLong : String := "too_long"

def validationInvalidFencingToken : String := "invalid_fencing_token"

def validationInvalidPayloadSha256 : String := "invalid_payload_sha256"

def validationIdentityMismatch : String := "identity_mismatch"

inductive Message where
  | outsideSizeLimit
  | notObject
  | invalidKey
  | nonStringKey
  | unknownField (key : Bytes)
  | duplicateField (key : Bytes)
  | invalidMember (key : Bytes)
  | incomplete
  | trailingValue
  | notOwnString (field : WireField)
  | notString (field : WireField)
  | invalidString (field : WireField)
  | emptyWhenPresent (field : WireField)
  | lockKey (invalid : InvalidLockKey)
  | core (error : FenceValidationError)
  deriving DecidableEq

/-- `FenceValidationError` with the texts it carries. -/
structure WireFenceError where
  code : String
  field : Bytes
  message : Message
  deriving DecidableEq

/-- The code and the field of an error of the constructors. -/
def ofCore (error : FenceValidationError) : WireFenceError :=
  match error with
  | .emptyField field => ⟨validationEmptyField, utf8 (fieldName field), .core error⟩
  | .tooLong field _ _ => ⟨validationTooLong, utf8 (fieldName field), .core error⟩
  | .invalidFencingToken _ => ⟨validationInvalidFencingToken, utf8 "fencingToken", .core error⟩
  | .invalidPayloadSha256 => ⟨validationInvalidPayloadSha256, utf8 "payloadSha256", .core error⟩
  | .identityMismatch => ⟨validationIdentityMismatch, [], .core error⟩

/-! ## The standard library -/

inductive Token where
  | delim (byte : UInt8)
  | string (value : Bytes)
  | other

/-- What the decoder serves in one turn of the member loop; `none` is an error. -/
structure Read where
  key : Option Token
  raw : Option Bytes

/-- What `json.Decoder` serves for an input. -/
structure Decoder where
  opening : Option Token
  members : List Read
  closing : Option Token
  atEnd : Bool

/-- A member as the decoder reads it: its name decoded, its value as it stands. -/
def readMember (member : Member) : Read :=
  ⟨some (.string (JsString.encode member.name)), some (JsString.encode member.item.value)⟩

/-- The decoder on the text of an object. -/
def newDecoder (object : Shared.Json.Object) : Decoder :=
  ⟨some (.delim 0x7b), object.members.map readMember, some (.delim 0x7d), true⟩

/-- `json.Unmarshal` of one string literal in valid UTF-8. -/
def unmarshalString (data : Bytes) : Option Bytes := do
  let chars ← decode data
  let value ← decodeLiteral (js (String.ofList chars))
  return JsString.encode value

/-! ## The decoder -/

abbrev RawFields := List (Bytes × Bytes)

def RawFields.get (fields : RawFields) (key : Bytes) : Option Bytes :=
  (fields.find? fun entry => entry.1 == key).map (·.2)

def isFencedWriteField (key : Bytes) : Bool :=
  WireField.all.any fun field => key == utf8 field.name

/-- The loop over the members. -/
def decodeMembers (fields : RawFields) : List Read → Except WireFenceError RawFields
  | [] => .ok fields
  | read :: rest =>
    match read.key with
    | none => .error ⟨validationInvalidType, utf8 "request", .invalidKey⟩
    | some (.string key) =>
      if !isFencedWriteField key then
        .error ⟨validationUnexpectedField, key, .unknownField key⟩
      else if (fields.get key).isSome then
        .error ⟨validationUnexpectedField, key, .duplicateField key⟩
      else
        match read.raw with
        | none => .error ⟨validationInvalidType, key, .invalidMember key⟩
        | some raw => decodeMembers (fields ++ [(key, raw)]) rest
    | some _ => .error ⟨validationInvalidType, utf8 "request", .nonStringKey⟩

def requiredJsonString (fields : RawFields) (field : WireField) (wrongTypeCode : String) :
    Except WireFenceError Bytes :=
  match fields.get (utf8 field.name) with
  | none => .error ⟨validationInvalidType, utf8 field.name, .notOwnString field⟩
  | some raw =>
    let trimmed := trimSpace raw
    if trimmed.head? ≠ some 0x22 then
      .error ⟨wrongTypeCode, utf8 field.name, .notString field⟩
    else
      match unmarshalString trimmed with
      | none => .error ⟨wrongTypeCode, utf8 field.name, .invalidString field⟩
      | some value => .ok value

def optionalJsonString (fields : RawFields) (field : WireField) : Except WireFenceError Bytes :=
  match fields.get (utf8 field.name) with
  | none => .ok []
  | some _ => do
    let value ← requiredJsonString fields field validationInvalidType
    if value = [] then .error ⟨validationEmptyField, utf8 field.name, .emptyWhenPresent field⟩
    else return value

/-- The texts of the fields. -/
def requestTexts (fields : RawFields) : Except WireFenceError (Write Bytes Bytes Bytes Bytes) := do
  let tenantScope ← requiredJsonString fields .tenantScope validationInvalidType
  let resourceKey ← requiredJsonString fields .resourceKey validationInvalidType
  let fencingToken ← requiredJsonString fields .fencingToken validationInvalidFencingToken
  let operationId ← requiredJsonString fields .operationId validationInvalidType
  let payloadSha256 ← requiredJsonString fields .payloadSha256 validationInvalidPayloadSha256
  let holder ← optionalJsonString fields .holder
  let leaseId ← optionalJsonString fields .leaseId
  return ⟨tenantScope, resourceKey, fencingToken, operationId, payloadSha256, holder, leaseId⟩

def wireLockKey (key : Bytes) : Except WireFenceError Bytes :=
  match newLockKey key with
  | .error invalid => .error ⟨validationInvalidType, utf8 "resourceKey", .lockKey invalid⟩
  | .ok key => .ok key

/-- The request made of the texts. -/
def requestOfTexts (texts : Write Bytes Bytes Bytes Bytes) :
    Except WireFenceError FencedWriteRequest :=
  if texts.resourceKey = [] then .error (ofCore (.emptyField .resourceKey))
  else if maxLockKeyBytes < texts.resourceKey.length then
    .error (ofCore (.tooLong .resourceKey texts.resourceKey.length maxLockKeyBytes))
  else do
    let resourceKey ← wireLockKey texts.resourceKey
    let fencingToken ← (parseFencingTokenText texts.fencingToken).mapError ofCore
    (newFencedWriteRequest ⟨texts.tenantScope, resourceKey, fencingToken, texts.operationId,
      texts.payloadSha256, texts.holder, texts.leaseId⟩).mapError ofCore

def decodeFencedWriteRequestJson (data : Bytes) (decoder : Decoder) :
    Except WireFenceError FencedWriteRequest :=
  if data = [] ∨ maxFencedWriteJsonBytes < data.length ∨ (decode data).isNone then
    .error ⟨validationInvalidType, utf8 "request", .outsideSizeLimit⟩
  else
    match decoder.opening with
    | some (.delim 0x7b) => do
      let fields ← decodeMembers [] decoder.members
      match decoder.closing with
      | some (.delim 0x7d) =>
        if !decoder.atEnd then .error ⟨validationInvalidType, utf8 "request", .trailingValue⟩
        else do
          let texts ← requestTexts fields
          requestOfTexts texts
      | _ => .error ⟨validationInvalidType, utf8 "request", .incomplete⟩
    | _ => .error ⟨validationInvalidType, utf8 "request", .notObject⟩

/-- The Go decoder on the bytes of a request. -/
def decodeRequest (request : RequestText) : Except WireFenceError FencedWriteRequest :=
  decodeFencedWriteRequestJson (JsString.encode request.object.text) (newDecoder request.object)

end OresLocks.Fencing.Go
