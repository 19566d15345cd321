import OresLocks.DartWireDuplicates
import OresLocks.Fencing.Dart
import OresLocks.Fencing.RequestText

/-!
# The wire decoder of the Dart package

`decodeFencedWriteRequestJson`: the scanner for duplicate members, then the map that
`jsonDecode` makes. A map keeps the place of a key's first member and the value of its last.
-/

namespace OresLocks.Fencing.Dart

set_option autoImplicit false

open Fence Shared.Json DartWire Shared.Numeral
open OresLocks.Ts (js)

def maxFencedWriteJsonBytes : Nat := 4096

/-- What ends the decoder other than a return. -/
inductive Thrown where
  | fence (exception : DartWire.FenceValidationException)
  | argumentError (invalid : InvalidLockKey)
  | scanner (stop : Stop)

def fence (code message : String) (field : JsString) : Thrown :=
  .fence ⟨code, js message, some field⟩

/-- An exception of the constructors with the texts it carries. -/
def ofCore : FenceValidationException → DartWire.FenceValidationException
  | .emptyField field => ⟨"empty_field", js (fieldName field ++ " must not be empty"),
      some (js (fieldName field))⟩
  | .tooLong field bytes max => ⟨"too_long", js (fieldName field ++ " is " ++ toString bytes ++
      " bytes; maximum is " ++ toString max), some (js (fieldName field))⟩
  | .notCanonical value => ⟨"invalid_fencing_token", js "fencing token " ++ jsonEncode value ++
      js " is not canonical unsigned-64 decimal text", some (js "fencingToken")⟩
  | .outsideRange value => ⟨"invalid_fencing_token", js "fencing token " ++ jsonEncode value ++
      js " is outside the unsigned-64 range", some (js "fencingToken")⟩
  | .invalidPayloadSha256 => ⟨"invalid_payload_sha256",
      js "payloadSha256 must be exactly 64 lowercase hexadecimal characters",
      some (js "payloadSha256")⟩
  | .identityMismatch => ⟨"identity_mismatch",
      js "current watermark and incoming request identify different resources", none⟩

/-! ## The standard library -/

/-- A map: its keys and values in order, `none` where one is no string. -/
abbrev JsonMap := List (Option JsString × Option JsString)

inductive Decoded where
  | map (entries : JsonMap)
  | other

def insert (entries : JsonMap) (key : JsString) (value : Option JsString) : JsonMap :=
  if entries.any fun entry => entry.1 == some key then
    entries.map fun entry => if entry.1 == some key then (entry.1, value) else entry
  else entries ++ [(some key, value)]

/-- `jsonDecode` of the text of an object; a `FormatException` would be `none`. -/
def jsonDecode (object : Shared.Json.Object) : Option Decoded :=
  some (.map (object.members.foldl (fun entries member =>
    insert entries member.name (decodeLiteral member.item.value)) []))

/-! ## The decoder -/

abbrev StringFields := List (JsString × Option JsString)

def StringFields.get (fields : StringFields) (key : JsString) : FieldValue :=
  (fields.find? fun entry => entry.1 == key).map (·.2)

def stringKeys : JsonMap → Except Thrown StringFields
  | [] => .ok []
  | (none, _) :: _ => .error (fence "invalid_type"
      "fenced write request must be a JSON object with string keys" (js "request"))
  | (some key, value) :: rest => do
    let fields ← stringKeys rest
    return (key, value) :: fields

def isFencedWriteField (key : JsString) : Bool := WireField.all.any fun field => key == js field.name

def unknownField (field : JsString) : DartWire.FenceValidationException :=
  ⟨"unexpected_field", js "fenced write request contains unknown field " ++ jsonEncode field,
    some field⟩

def rejectUnknownFields : StringFields → Except Thrown Unit
  | [] => .ok ()
  | (field, _) :: rest =>
    if !isFencedWriteField field then .error (.fence (unknownField field))
    else rejectUnknownFields rest

def requiredString (fields : StringFields) (field : WireField) (wrongTypeCode : String) :
    Except Thrown JsString :=
  match fields.get (js field.name) with
  | some (some value) => .ok value
  | _ => .error (fence wrongTypeCode (field.name ++ " must be an own JSON string field")
      (js field.name))

def optionalString (fields : StringFields) (field : WireField) : Except Thrown (Option JsString) :=
  match fields.get (js field.name) with
  | none => .ok none
  | some (some value) => .ok (some value)
  | some none => .error (fence "invalid_type"
      (field.name ++ " must be an own JSON string field when present") (js field.name))

/-- The texts of the fields. -/
def requestTexts (fields : StringFields) :
    Except Thrown (Write JsString JsString JsString (Option JsString)) := do
  let tenantScope ← requiredString fields .tenantScope "invalid_type"
  let resourceKey ← requiredString fields .resourceKey "invalid_type"
  let fencingToken ← requiredString fields .fencingToken "invalid_fencing_token"
  let operationId ← requiredString fields .operationId "invalid_type"
  let payloadSha256 ← requiredString fields .payloadSha256 "invalid_payload_sha256"
  let holder ← optionalString fields .holder
  let leaseId ← optionalString fields .leaseId
  return ⟨tenantScope, resourceKey, fencingToken, operationId, payloadSha256, holder, leaseId⟩

/-- The request made of the texts. -/
def requestOfTexts (texts : Write JsString JsString JsString (Option JsString)) :
    Except Thrown FencedWriteRequest :=
  if texts.resourceKey = [] then .error (.fence (ofCore (.emptyField .resourceKey)))
  else
    let resourceBytes := (JsString.encode texts.resourceKey).length
    if maxLockKeyBytes < resourceBytes then
      .error (.fence (ofCore (.tooLong .resourceKey resourceBytes maxLockKeyBytes)))
    else do
      let resourceKey ← (LockKey.new texts.resourceKey).mapError .argumentError
      let fencingToken ← (FencingTokenText.parse texts.fencingToken).mapError (.fence ∘ ofCore)
      (FencedWriteRequest.new ⟨texts.tenantScope, resourceKey, fencingToken, texts.operationId,
        texts.payloadSha256, texts.holder, texts.leaseId⟩).mapError (.fence ∘ ofCore)

def fencedWriteRequestFromJsonValue (value : Decoded) : Except Thrown FencedWriteRequest :=
  match value with
  | .other => .error (fence "invalid_type"
      "fenced write request must be a JSON object with string keys" (js "request"))
  | .map entries => do
    let fields ← stringKeys entries
    rejectUnknownFields fields
    let texts ← requestTexts fields
    requestOfTexts texts

/-- What the scanner throws or runs into. -/
def scanned (result : Except Stop Unit) : Except Thrown Unit :=
  match result with
  | .ok () => .ok ()
  | .error (.thrown exception) => .error (.fence exception)
  | .error stop => .error (.scanner stop)

def decodeFencedWriteRequestJson (source : JsString) (decoded : Option Decoded) :
    Except Thrown FencedWriteRequest :=
  let bytes := (JsString.encode source).length
  if bytes = 0 ∨ maxFencedWriteJsonBytes < bytes then
    .error (fence "invalid_type"
      "fenced write request must be non-empty JSON within the size limit" (js "request"))
  else do
    scanned (rejectDuplicateTopLevelKeys (source.length + 1) source)
    match decoded with
    | none => .error (fence "invalid_type"
        "fenced write request must contain exactly one valid JSON value" (js "request"))
    | some value => fencedWriteRequestFromJsonValue value

/-- The Dart decoder on the text of a request. -/
def decodeRequest (request : RequestText) : Except Thrown FencedWriteRequest :=
  decodeFencedWriteRequestJson request.object.text (jsonDecode request.object)

end OresLocks.Fencing.Dart
