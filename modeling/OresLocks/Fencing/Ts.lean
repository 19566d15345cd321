import OresLocks.Fencing.Decision
import OresLocks.MaintainedTs

/-!
# Fencing decisions of the TypeScript package

The validators read any JavaScript value through its own data properties.
`evaluateFence` validates both of its arguments again and decides on the snapshots.
-/

namespace OresLocks.Fencing.Ts

set_option autoImplicit false

open Fence Shared.Numeral
open OresLocks.Ts (js Property)

def maxFencingToken : Nat := 18446744073709551615

inductive FenceValidationError where
  | emptyField (field : Field)
  | tooLong (field : Field) (bytes max : Nat)
  | notString (field : Field)
  | notObject
  | uninspectable
  | unexpectedField (key : JsString)
  | notDataProperty (key : JsString)
  | tokenNotText
  | tokenNotCanonical (value : JsString)
  | tokenOutsideRange (value : JsString)
  | bigintOutsideRange (value : Int)
  | invalidPayloadSha256
  | invalidLockKey
  | identityMismatch
  deriving DecidableEq

/-- A token is its canonical text. -/
def fencingTokenText (value : JsValue) : Except FenceValidationError JsString :=
  match value with
  | .bigint value =>
    if value < 0 ∨ (maxFencingToken : Int) < value then .error (.bigintOutsideRange value)
    else .ok (numeral value.toNat)
  | .string value =>
    if !JsString.matchesTokenText value then .error (.tokenNotCanonical value)
    else
      let parsed := natOf value
      if maxFencingToken < parsed ∨ numeral parsed ≠ value then .error (.tokenOutsideRange value)
      else .ok value
  | _ => .error .tokenNotText

def fencingTokenValue (value : JsString) : Except FenceValidationError Nat :=
  match fencingTokenText (.string value) with
  | .ok text => .ok (natOf text)
  | .error e => .error e

section Tokens

variable {value text : JsString}

theorem of_parse (h : fencingTokenText (.string value) = .ok text) :
    text = value ∧ natOf value < 2 ^ 64 ∧ value = numeral (natOf value) := by
  unfold fencingTokenText at h
  dsimp only at h
  split at h
  · cases h
  split at h
  · cases h
  rename_i hrange
  cases h
  simp only [maxFencingToken, not_or, not_lt, not_not] at hrange
  exact ⟨rfl, by omega, hrange.2.symm⟩

theorem parse_numeral {n : Nat} (h : n < 2 ^ 64) :
    fencingTokenText (.string (numeral n)) = .ok (numeral n) := by
  have hrange : ¬ (maxFencingToken < n ∨ (numeral n : JsString) ≠ numeral n) := by
    simp only [maxFencingToken, ne_eq, not_true, or_false]
    omega
  unfold fencingTokenText
  dsimp only
  rw [JsString.matchesTokenText_numeral h, if_neg (by simp), natOf_numeral, if_neg hrange]

/-- The parser accepts the numerals of the unsigned 64-bit numbers. -/
theorem parse_iff (value : JsString) :
    (∃ text, fencingTokenText (.string value) = .ok text) ↔
      ∃ n, n < 2 ^ 64 ∧ value = numeral n := by
  constructor
  · rintro ⟨text, h⟩
    obtain ⟨_, hlt, hvalue⟩ := of_parse h
    exact ⟨natOf value, hlt, hvalue⟩
  · rintro ⟨n, hn, rfl⟩
    exact ⟨_, parse_numeral hn⟩

theorem fencingTokenValue_of_parse (h : fencingTokenText (.string value) = .ok text) :
    fencingTokenValue value = .ok (natOf value) := by
  obtain ⟨rfl, _⟩ := of_parse h
  rw [fencingTokenValue, h]

end Tokens

/-- What a caller hands over as a request or as persisted state. -/
inductive RawRequest where
  | notObject
  | uninspectable
  | object (properties : List Property)
  deriving DecidableEq

def fencedWriteFields : List JsString :=
  [js "tenantScope", js "resourceKey", js "fencingToken", js "operationId", js "payloadSha256",
    js "holder", js "leaseId"]

/-- Symbols are skipped; another name or an accessor is refused. -/
def ownDataProperties :
    List Property → Except FenceValidationError (List (JsString × JsValue))
  | [] => .ok []
  | property :: rest =>
    match property.name with
    | none => ownDataProperties rest
    | some key =>
      if !fencedWriteFields.contains key then .error (.unexpectedField key)
      else
        match property.value with
        | none => .error (.notDataProperty key)
        | some value =>
          match ownDataProperties rest with
          | .ok snapshot => .ok ((key, value) :: snapshot)
          | .error e => .error e

def requestRecord : RawRequest → Except FenceValidationError (List (JsString × JsValue))
  | .notObject => .error .notObject
  | .uninspectable => .error .uninspectable
  | .object properties => ownDataProperties properties

/-- A property of the snapshot, whose prototype is null. -/
def property (record : List (JsString × JsValue)) (name : String) : JsValue :=
  (OresLocks.Ts.field record name).getD .undefined

def validateField (field : Field) (value : JsValue) (max : Nat) :
    Except FenceValidationError JsString :=
  match value with
  | .string value =>
    if value = [] then .error (.emptyField field)
    else if max < (JsString.encode value).length then
      .error (.tooLong field (JsString.encode value).length max)
    else .ok value
  | _ => .error (.notString field)

def validateOptionalField (field : Field) (value : JsValue) (max : Nat) :
    Except FenceValidationError (Option JsString) :=
  if value = .undefined then .ok none
  else
    match validateField field value max with
    | .ok value => .ok (some value)
    | .error e => .error e

def validatePayloadSha256 (value : JsValue) : Except FenceValidationError JsString :=
  match value with
  | .string value =>
    if JsString.matchesLowerSha256 value then .ok value else .error .invalidPayloadSha256
  | _ => .error .invalidPayloadSha256

/-- `lockKey`, whose refusal is a `RangeError`. -/
def checkedLockKey (value : JsString) : Except FenceValidationError JsString :=
  match OresLocks.Ts.lockKey (.string value) with
  | some key => .ok key
  | none => .error .invalidLockKey

abbrev FencedWriteRequest := Write JsString JsString JsString (Option JsString)

def fencedWriteRequest (input : RawRequest) : Except FenceValidationError FencedWriteRequest := do
  let record ← requestRecord input
  let tenantScope ← validateField .tenantScope (property record "tenantScope") maxTenantScopeBytes
  let resourceKey ← validateField .resourceKey (property record "resourceKey")
    OresLocks.Ts.maxLockKeyBytes
  let operationId ← validateField .operationId (property record "operationId") maxOperationIdBytes
  let holder ← validateOptionalField .holder (property record "holder") maxFenceMetadataBytes
  let leaseId ← validateOptionalField .leaseId (property record "leaseId") maxFenceMetadataBytes
  let payloadSha256 ← validatePayloadSha256 (property record "payloadSha256")
  match property record "fencingToken" with
  | .string _ | .bigint _ =>
    let resourceKey ← checkedLockKey resourceKey
    let fencingToken ← fencingTokenText (property record "fencingToken")
    return ⟨tenantScope, resourceKey, fencingToken, operationId, payloadSha256, holder, leaseId⟩
  | _ => throw .tokenNotText

/-- The object `fencedWriteRequest` returns. -/
def toObject (r : FencedWriteRequest) : RawRequest :=
  .object (
    [⟨some (js "tenantScope"), some (.string r.tenantScope)⟩,
      ⟨some (js "resourceKey"), some (.string r.resourceKey)⟩,
      ⟨some (js "fencingToken"), some (.string r.fencingToken)⟩,
      ⟨some (js "operationId"), some (.string r.operationId)⟩,
      ⟨some (js "payloadSha256"), some (.string r.payloadSha256)⟩] ++
    (match r.holder with
      | some holder => [⟨some (js "holder"), some (.string holder)⟩]
      | none => []) ++
    (match r.leaseId with
      | some leaseId => [⟨some (js "leaseId"), some (.string leaseId)⟩]
      | none => []))

def fenceWatermark (input : RawRequest) : Except FenceValidationError FencedWriteRequest :=
  fencedWriteRequest input

abbrev FenceDecision := Decision JsString

def evaluateFence (current : Option RawRequest) (incoming : RawRequest) :
    Except FenceValidationError FenceDecision := do
  let validatedIncoming ← fencedWriteRequest incoming
  match current with
  | none =>
    return ⟨.advanced, true, validatedIncoming.fencingToken, validatedIncoming.fencingToken, none⟩
  | some current =>
    let validatedCurrent ← fenceWatermark current
    if validatedCurrent.tenantScope ≠ validatedIncoming.tenantScope ∨
        validatedCurrent.resourceKey ≠ validatedIncoming.resourceKey then
      throw .identityMismatch
    let incomingValue ← fencingTokenValue validatedIncoming.fencingToken
    let currentValue ← fencingTokenValue validatedCurrent.fencingToken
    if currentValue < incomingValue then
      return ⟨.advanced, true, validatedIncoming.fencingToken, validatedIncoming.fencingToken,
        some validatedCurrent.fencingToken⟩
    if incomingValue < currentValue then
      return ⟨.stale, false, validatedIncoming.fencingToken, validatedCurrent.fencingToken,
        some validatedCurrent.fencingToken⟩
    let kind := if validatedCurrent.operationId = validatedIncoming.operationId ∧
        validatedCurrent.payloadSha256 = validatedIncoming.payloadSha256 then .replay
      else .tokenReuse
    return ⟨kind, false, validatedIncoming.fencingToken, validatedCurrent.fencingToken,
      some validatedCurrent.fencingToken⟩

section Validation

variable {field : Field} {value : JsValue} {text : JsString} {max : Nat} {r : FencedWriteRequest}

/-- A validated field is validated again with the same result. -/
theorem validateField_again (h : validateField field value max = .ok text) :
    validateField field (.string text) max = .ok text := by
  cases value with
  | string s =>
    have hs := h
    unfold validateField at hs
    dsimp only at hs
    split at hs
    · cases hs
    split at hs
    · cases hs
    cases hs
    exact h
  | _ => cases h

/-- What a value of the request type has passed. -/
structure Valid (r : FencedWriteRequest) : Prop where
  tenantScope :
    validateField .tenantScope (.string r.tenantScope) maxTenantScopeBytes = .ok r.tenantScope
  resourceKey : validateField .resourceKey (.string r.resourceKey) OresLocks.Ts.maxLockKeyBytes =
    .ok r.resourceKey
  operationId :
    validateField .operationId (.string r.operationId) maxOperationIdBytes = .ok r.operationId
  holder : ∀ holder, r.holder = some holder →
    validateField .holder (.string holder) maxFenceMetadataBytes = .ok holder
  leaseId : ∀ leaseId, r.leaseId = some leaseId →
    validateField .leaseId (.string leaseId) maxFenceMetadataBytes = .ok leaseId
  payloadSha256 : validatePayloadSha256 (.string r.payloadSha256) = .ok r.payloadSha256
  lockKey : checkedLockKey r.resourceKey = .ok r.resourceKey
  fencingToken : fencingTokenText (.string r.fencingToken) = .ok r.fencingToken

theorem validateOptionalField_again {optional : Option JsString}
    (h : validateOptionalField field value max = .ok optional) :
    ∀ text, optional = some text → validateField field (.string text) max = .ok text := by
  intro text htext
  unfold validateOptionalField at h
  split at h
  · cases h
    cases htext
  split at h
  · rename_i checked hchecked
    cases h
    cases htext
    exact validateField_again hchecked
  · cases h

theorem validatePayloadSha256_again (h : validatePayloadSha256 value = .ok text) :
    validatePayloadSha256 (.string text) = .ok text := by
  cases value with
  | string s =>
    have hs := h
    unfold validatePayloadSha256 at hs
    dsimp only at hs
    split at hs
    · cases hs
      exact h
    · cases hs
  | _ => cases h

theorem checkedLockKey_eq {key : JsString} (h : checkedLockKey key = .ok text) : text = key := by
  unfold checkedLockKey OresLocks.Ts.lockKey at h
  dsimp only at h
  split at h
  · rename_i hkey
    split at hkey
    · cases hkey
    · cases hkey
      cases h
      rfl
  · cases h

theorem fencingTokenText_again (h : fencingTokenText value = .ok text) :
    fencingTokenText (.string text) = .ok text := by
  cases value with
  | string s =>
    obtain ⟨rfl, _⟩ := of_parse h
    exact h
  | bigint n =>
    unfold fencingTokenText at h
    dsimp only at h
    split at h
    · cases h
    rename_i hrange
    cases h
    simp only [maxFencingToken, not_or, not_lt] at hrange
    exact parse_numeral (by omega)
  | _ => cases h

theorem valid_of_fencedWriteRequest {input : RawRequest} (h : fencedWriteRequest input = .ok r) :
    Valid r := by
  unfold fencedWriteRequest at h
  simp only [bind, Except.bind] at h
  split at h
  · cases h
  split at h
  · cases h
  rename_i tenantScope htenant
  split at h
  · cases h
  rename_i resourceKey hresource
  split at h
  · cases h
  rename_i operationId hoperation
  split at h
  · cases h
  rename_i holder hholder
  split at h
  · cases h
  rename_i leaseId hlease
  split at h
  · cases h
  rename_i payload hpayload
  have hlast : ∀ key token, checkedLockKey resourceKey = .ok key →
      (∃ value, fencingTokenText value = .ok token) →
      Valid ⟨tenantScope, key, token, operationId, payload, holder, leaseId⟩ := by
    intro key token hkey htoken
    obtain ⟨value, htoken⟩ := htoken
    obtain rfl := checkedLockKey_eq hkey
    exact {
      tenantScope := validateField_again htenant
      resourceKey := validateField_again hresource
      operationId := validateField_again hoperation
      holder := validateOptionalField_again hholder
      leaseId := validateOptionalField_again hlease
      payloadSha256 := validatePayloadSha256_again hpayload
      lockKey := hkey
      fencingToken := fencingTokenText_again htoken }
  split at h
  · split at h
    · cases h
    rename_i key hkey
    split at h
    · cases h
    rename_i token htoken
    cases h
    exact hlast key token hkey ⟨_, htoken⟩
  · split at h
    · cases h
    rename_i key hkey
    split at h
    · cases h
    rename_i token htoken
    cases h
    exact hlast key token hkey ⟨_, htoken⟩
  · cases h

/-- The properties of the object a request is returned as. -/
structure Snapshot (r : FencedWriteRequest) (record : List (JsString × JsValue)) : Prop where
  read : requestRecord (toObject r) = .ok record
  tenantScope : property record "tenantScope" = .string r.tenantScope
  resourceKey : property record "resourceKey" = .string r.resourceKey
  fencingToken : property record "fencingToken" = .string r.fencingToken
  operationId : property record "operationId" = .string r.operationId
  payloadSha256 : property record "payloadSha256" = .string r.payloadSha256
  holder : property record "holder" = (r.holder.map JsValue.string).getD .undefined
  leaseId : property record "leaseId" = (r.leaseId.map JsValue.string).getD .undefined

theorem exists_snapshot (r : FencedWriteRequest) : ∃ record, Snapshot r record := by
  obtain ⟨_, _, _, _, _, holder, leaseId⟩ := r
  cases holder <;> cases leaseId <;> exact ⟨_, rfl, rfl, rfl, rfl, rfl, rfl, rfl, rfl⟩

theorem validateOptionalField_string (s : JsString) :
    validateOptionalField field (.string s) max = (validateField field (.string s) max).map some := by
  rw [validateOptionalField, if_neg (by simp)]
  cases validateField field (.string s) max <;> rfl

/-- Validating the object of a validated request gives the request back. -/
theorem Valid.fencedWriteRequest_toObject (h : Valid r) :
    fencedWriteRequest (toObject r) = .ok r := by
  obtain ⟨record, hs⟩ := exists_snapshot r
  have hholder : validateOptionalField .holder ((r.holder.map JsValue.string).getD .undefined)
      maxFenceMetadataBytes = .ok r.holder := by
    cases hr : r.holder with
    | none => rfl
    | some holder =>
      rw [Option.map_some, Option.getD_some, validateOptionalField_string, h.holder holder hr]
      rfl
  have hlease : validateOptionalField .leaseId ((r.leaseId.map JsValue.string).getD .undefined)
      maxFenceMetadataBytes = .ok r.leaseId := by
    cases hr : r.leaseId with
    | none => rfl
    | some leaseId =>
      rw [Option.map_some, Option.getD_some, validateOptionalField_string, h.leaseId leaseId hr]
      rfl
  simp only [fencedWriteRequest, hs.read, hs.tenantScope, hs.resourceKey, hs.operationId,
    hs.payloadSha256, hs.holder, hs.leaseId, hs.fencingToken, h.tenantScope, h.resourceKey,
    h.operationId, h.payloadSha256, h.lockKey, h.fencingToken, hholder, hlease, bind, Except.bind]
  rfl

theorem validateField_string {s : JsString} (h : validateField field (.string s) max = .ok text) :
    text = s := by
  unfold validateField at h
  dsimp only at h
  split at h
  · cases h
  split at h
  · cases h
  · cases h
    rfl

theorem validateOptionalField_texts {given optional : Option JsString}
    (h : validateOptionalField field ((given.map JsValue.string).getD .undefined) max =
      .ok optional) : optional = given := by
  cases given with
  | none =>
    cases h
    rfl
  | some s =>
    rw [Option.map_some, Option.getD_some, validateOptionalField_string] at h
    cases hv : validateField field (.string s) max with
    | error e =>
      rw [hv] at h
      cases h
    | ok checked =>
      rw [hv] at h
      cases h
      rw [validateField_string hv]

theorem validatePayloadSha256_string {s : JsString}
    (h : validatePayloadSha256 (.string s) = .ok text) : text = s := by
  unfold validatePayloadSha256 at h
  dsimp only at h
  split at h
  · cases h
    rfl
  · cases h

/-- Validation of an object made of texts changes none of them. -/
theorem eq_of_fencedWriteRequest {fields : FencedWriteRequest}
    (h : fencedWriteRequest (toObject fields) = .ok r) : r = fields := by
  obtain ⟨record, hs⟩ := exists_snapshot fields
  simp only [fencedWriteRequest, hs.read, hs.tenantScope, hs.resourceKey, hs.operationId,
    hs.payloadSha256, hs.holder, hs.leaseId, hs.fencingToken, bind, Except.bind] at h
  split at h
  · cases h
  rename_i tenantScope htenant
  split at h
  · cases h
  rename_i resourceKey hresource
  split at h
  · cases h
  rename_i operationId hoperation
  split at h
  · cases h
  rename_i holder hholder
  split at h
  · cases h
  rename_i leaseId hlease
  split at h
  · cases h
  rename_i payload hpayload
  split at h
  · cases h
  rename_i key hkey
  split at h
  · cases h
  rename_i token htoken
  cases h
  obtain rfl := checkedLockKey_eq hkey
  obtain ⟨rfl, _⟩ := of_parse htoken
  rw [validateField_string htenant, validateField_string hresource, validateField_string hoperation,
    validateOptionalField_texts hholder, validateOptionalField_texts hlease,
    validatePayloadSha256_string hpayload]

end Validation

section Decisions

variable {w r : FencedWriteRequest}

theorem Valid.tokenValue (h : Valid r) :
    fencingTokenValue r.fencingToken = .ok (natOf r.fencingToken) :=
  fencingTokenValue_of_parse h.fencingToken

theorem evaluateFence_first (hr : Valid r) :
    evaluateFence none (toObject r) = .ok (.first r.fencingToken) := by
  unfold evaluateFence
  rw [hr.fencedWriteRequest_toObject]
  rfl

theorem evaluateFence_mismatch (hr : Valid r) (hw : Valid w)
    (hid : ¬ (w.tenantScope = r.tenantScope ∧ w.resourceKey = r.resourceKey)) :
    evaluateFence (some (toObject w)) (toObject r) = .error .identityMismatch := by
  have hne : w.tenantScope ≠ r.tenantScope ∨ w.resourceKey ≠ r.resourceKey := by tauto
  simp only [evaluateFence, fenceWatermark, hr.fencedWriteRequest_toObject,
    hw.fencedWriteRequest_toObject, bind, Except.bind, if_pos hne]
  rfl

theorem evaluateFence_found (hr : Valid r) (hw : Valid w)
    (htenant : w.tenantScope = r.tenantScope) (hresource : w.resourceKey = r.resourceKey) :
    evaluateFence (some (toObject w)) (toObject r) = .ok (.against
      (compare (natOf r.fencingToken) (natOf w.fencingToken))
      (w.operationId = r.operationId ∧ w.payloadSha256 = r.payloadSha256)
      r.fencingToken w.fencingToken) := by
  have hid : ¬ (w.tenantScope ≠ r.tenantScope ∨ w.resourceKey ≠ r.resourceKey) := by
    simp [htenant, hresource]
  simp only [evaluateFence, fenceWatermark, hr.fencedWriteRequest_toObject,
    hw.fencedWriteRequest_toObject, hr.tokenValue, hw.tokenValue, bind, Except.bind, if_neg hid]
  cases hc : compare (natOf r.fencingToken) (natOf w.fencingToken) with
  | gt =>
    rw [if_pos (Nat.compare_eq_gt.mp hc)]
    rfl
  | lt =>
    have hlt := Nat.compare_eq_lt.mp hc
    rw [if_neg (by omega), if_pos hlt]
    rfl
  | eq =>
    have heq := Nat.compare_eq_eq.mp hc
    rw [if_neg (by omega), if_neg (by omega)]
    simp only [Decision.against]
    split <;> rfl

end Decisions

end OresLocks.Fencing.Ts
