import OresLocks.LockKey

/-!
# Application-side fencing decisions of the Rust crate

`evaluate_fence` with its validation. A `FencingTokenText` carries the proof that
its text is the decimal numeral of its unsigned 64-bit value.
-/

namespace OresLocks.Fence

set_option autoImplicit false

open Shared.Numeral Shared.Utf8

def maxTenantScopeBytes : Nat := 256

def maxOperationIdBytes : Nat := 128

def maxFenceMetadataBytes : Nat := 256

structure FencingTokenText where
  text : String
  value : Nat
  inRange : value < 2 ^ 64
  canonical : text = toString value

def FencingTokenText.fromU64 (value : Nat) (h : value < 2 ^ 64) : FencingTokenText :=
  ⟨toString value, value, h, rfl⟩

inductive FenceDecisionKind where
  | advanced
  | replay
  | stale
  | tokenReuse
  deriving DecidableEq, Repr

def classifyValidatedFence (hasCurrent : Bool) (currentToken incomingToken : Nat)
    (sameOperation samePayload : Bool) : FenceDecisionKind :=
  if !hasCurrent || decide (currentToken < incomingToken) then .advanced
  else if incomingToken < currentToken then .stale
  else if sameOperation && samePayload then .replay
  else .tokenReuse

/-- The field a validation error names. -/
inductive Field where
  | tenantScope
  | resourceKey
  | operationId
  | holder
  | leaseId
  deriving DecidableEq, Repr

inductive FenceValidationError where
  | emptyField (field : Field)
  | tooLong (field : Field) (bytes max : Nat)
  | invalidFencingToken (text : String)
  | invalidPayloadSha256
  | identityMismatch
  deriving DecidableEq, Repr

/-- `str::parse::<u64>`: an optional plus sign, then digits that do not overflow. -/
def parseU64 (text : List UInt8) : Option Nat :=
  if text = [] ∨ text = [0x2b] ∨ text = [0x2d] then none
  else if text.head? = some 0x2b then readDigits (2 ^ 64) 0 text.tail
  else readDigits (2 ^ 64) 0 text

theorem parseU64_lt {text : List UInt8} {value : Nat} (h : parseU64 text = some value) :
    value < 2 ^ 64 := by
  unfold parseU64 at h
  split at h
  · cases h
  split at h <;> exact ((readDigits_zero (by decide)).mp h).2.2

theorem parseU64_numeral {n : Nat} (h : n < 2 ^ 64) : parseU64 (numeral n) = some n := by
  have hdigits := isDigits_numeral (α := UInt8) n
  unfold parseU64
  rw [if_neg, if_neg]
  · exact readDigits_numeral h
  · intro hplus
    obtain ⟨s, hs⟩ := List.head?_eq_some_iff.mp hplus
    rw [hs, isDigits_cons] at hdigits
    exact absurd (Bool.and_eq_true_iff.mp hdigits).1 (by decide)
  · rintro (h0 | hsign | hsign)
    · exact numeral_ne_nil n h0
    · rw [hsign] at hdigits
      exact absurd hdigits (by decide)
    · rw [hsign] at hdigits
      exact absurd hdigits (by decide)

def FencingTokenText.parse (text : String) : Except FenceValidationError FencingTokenText :=
  match h : parseU64 (utf8 text) with
  | none => .error (.invalidFencingToken text)
  | some value =>
    if hprint : toString value = text then .ok ⟨text, value, parseU64_lt h, hprint.symm⟩
    else .error (.invalidFencingToken text)

/-- `Ord` of the tokens. -/
def FencingTokenText.cmp (left right : FencingTokenText) : Ordering :=
  compare left.value right.value

theorem FencingTokenText.text_of_parse {text : String} {token : FencingTokenText}
    (h : FencingTokenText.parse text = .ok token) : token.text = text := by
  unfold FencingTokenText.parse at h
  split at h
  · cases h
  split at h
  · cases h
    rfl
  · cases h

/-- The parser accepts the texts that some unsigned 64-bit number prints as. -/
theorem FencingTokenText.parse_iff (text : String) :
    (∃ token, FencingTokenText.parse text = .ok token) ↔ ∃ n, n < 2 ^ 64 ∧ text = toString n := by
  constructor
  · rintro ⟨token, h⟩
    have htext := text_of_parse h
    exact ⟨token.value, token.inRange, by rw [← htext, token.canonical]⟩
  · rintro ⟨n, hn, rfl⟩
    have hparse : parseU64 (utf8 (toString n)) = some n := by
      rw [utf8_toString]
      exact parseU64_numeral hn
    refine ⟨fromU64 n hn, ?_⟩
    unfold FencingTokenText.parse
    split
    · rename_i hnone
      rw [hparse] at hnone
      cases hnone
    · rename_i value hvalue
      rw [hparse, Option.some.injEq] at hvalue
      subst hvalue
      rw [dif_pos rfl]
      rfl

def validateNonEmpty (field : Field) (value : String) (max : Nat) :
    Except FenceValidationError Unit :=
  if (utf8 value).isEmpty then .error (.emptyField field)
  else if max < (utf8 value).length then .error (.tooLong field (utf8 value).length max)
  else .ok ()

def validateOptional (field : Field) (value : Option String) (max : Nat) :
    Except FenceValidationError Unit :=
  match value with
  | some value => validateNonEmpty field value max
  | none => .ok ()

def isLowerHex (byte : UInt8) : Bool :=
  (0x30 ≤ byte && byte ≤ 0x39) || (0x61 ≤ byte && byte ≤ 0x66)

def validateSha256 (value : String) : Except FenceValidationError Unit :=
  if (utf8 value).length ≠ 64 ∨ ¬ (utf8 value).all isLowerHex then .error .invalidPayloadSha256
  else .ok ()

structure FencedWriteRequest where
  tenantScope : String
  resourceKey : LockKey
  fencingToken : FencingTokenText
  operationId : String
  payloadSha256 : String
  holder : Option String
  leaseId : Option String

def FencedWriteRequest.validate (request : FencedWriteRequest) :
    Except FenceValidationError Unit := do
  validateNonEmpty .tenantScope request.tenantScope maxTenantScopeBytes
  validateNonEmpty .resourceKey request.resourceKey.text 512
  validateNonEmpty .operationId request.operationId maxOperationIdBytes
  validateSha256 request.payloadSha256
  validateOptional .holder request.holder maxFenceMetadataBytes
  validateOptional .leaseId request.leaseId maxFenceMetadataBytes

/-- The request is given as the record of the arguments. -/
def FencedWriteRequest.new (request : FencedWriteRequest) :
    Except FenceValidationError FencedWriteRequest := do
  request.validate
  return request

/-- Last accepted write of one `(tenant_scope, resource_key)` pair. -/
structure FenceWatermark where
  tenantScope : String
  resourceKey : LockKey
  fencingToken : FencingTokenText
  operationId : String
  payloadSha256 : String
  holder : Option String
  leaseId : Option String

def FenceWatermark.fromRequest (request : FencedWriteRequest) : FenceWatermark :=
  ⟨request.tenantScope, request.resourceKey, request.fencingToken, request.operationId,
    request.payloadSha256, request.holder, request.leaseId⟩

def FenceWatermark.validate (watermark : FenceWatermark) : Except FenceValidationError Unit :=
  FencedWriteRequest.validate
    ⟨watermark.tenantScope, watermark.resourceKey, watermark.fencingToken, watermark.operationId,
      watermark.payloadSha256, watermark.holder, watermark.leaseId⟩

structure FenceDecision where
  kind : FenceDecisionKind
  shouldApply : Bool
  incomingToken : FencingTokenText
  currentToken : FencingTokenText
  previousToken : Option FencingTokenText

def evaluateFence (current : Option FenceWatermark) (incoming : FencedWriteRequest) :
    Except FenceValidationError FenceDecision := do
  incoming.validate
  match current with
  | none =>
    let kind := classifyValidatedFence false 0 incoming.fencingToken.value true true
    return ⟨kind, kind == .advanced, incoming.fencingToken, incoming.fencingToken, none⟩
  | some current =>
    current.validate
    if current.tenantScope ≠ incoming.tenantScope ∨ current.resourceKey ≠ incoming.resourceKey then
      throw .identityMismatch
    else
      let kind := classifyValidatedFence true current.fencingToken.value incoming.fencingToken.value
        (current.operationId == incoming.operationId)
        (current.payloadSha256 == incoming.payloadSha256)
      let currentToken := if kind == .advanced then incoming.fencingToken else current.fencingToken
      return ⟨kind, kind == .advanced, incoming.fencingToken, currentToken,
        some current.fencingToken⟩

/-- The watermark a datastore keeps after acting on the decision for a request. -/
def advance (current : Option FenceWatermark) (incoming : FencedWriteRequest) :
    Option FenceWatermark :=
  match evaluateFence current incoming with
  | .ok decision => if decision.shouldApply then some (.fromRequest incoming) else current
  | .error _ => current

theorem token_text (token : FencingTokenText) : utf8 token.text = numeral token.value := by
  rw [token.canonical, utf8_toString]

section Validation

variable {field : Field} {value : String} {max : Nat}

theorem validateNonEmpty_iff : validateNonEmpty field value max = .ok () ↔
    1 ≤ (utf8 value).length ∧ (utf8 value).length ≤ max := by
  unfold validateNonEmpty
  constructor
  · intro h
    split at h
    · simp at h
    rename_i hne
    split at h
    · simp at h
    rename_i hlen
    rw [List.isEmpty_iff_length_eq_zero] at hne
    exact ⟨by omega, by omega⟩
  · intro h
    have hne : ¬ (utf8 value).isEmpty = true := by
      rw [List.isEmpty_iff_length_eq_zero]
      omega
    rw [if_neg hne, if_neg (by omega)]

/-- A valid request has passed each of the six checks. -/
theorem checks_of_validate {r : FencedWriteRequest} (h : r.validate = .ok ()) :
    validateNonEmpty .tenantScope r.tenantScope maxTenantScopeBytes = .ok () ∧
    validateNonEmpty .resourceKey r.resourceKey.text 512 = .ok () ∧
    validateNonEmpty .operationId r.operationId maxOperationIdBytes = .ok () ∧
    validateSha256 r.payloadSha256 = .ok () ∧
    validateOptional .holder r.holder maxFenceMetadataBytes = .ok () ∧
    validateOptional .leaseId r.leaseId maxFenceMetadataBytes = .ok () := by
  unfold FencedWriteRequest.validate at h
  simp only [bind, Except.bind] at h
  split at h
  · cases h
  rename_i htenant
  split at h
  · cases h
  rename_i hresource
  split at h
  · cases h
  rename_i hop
  split at h
  · cases h
  rename_i hsha
  split at h
  · cases h
  rename_i hholder
  exact ⟨htenant, hresource, hop, hsha, hholder, h⟩

end Validation

section Decisions

variable {w : FenceWatermark} {r : FencedWriteRequest}

theorem valid_of_new {request : FencedWriteRequest} (h : request.new = .ok r) :
    r = request ∧ r.validate = .ok () := by
  unfold FencedWriteRequest.new at h
  cases hv : request.validate with
  | error e =>
    rw [hv] at h
    cases h
  | ok u =>
    rw [hv] at h
    cases h
    exact ⟨rfl, hv⟩

theorem evaluateFence_first (h : r.validate = .ok ()) :
    evaluateFence none r = .ok ⟨.advanced, true, r.fencingToken, r.fencingToken, none⟩ := by
  simp only [evaluateFence, h]
  rfl

/-- The decision of the crate by the order of the two tokens. -/
theorem evaluateFence_found (hr : r.validate = .ok ()) (hw : w.validate = .ok ())
    (htenant : w.tenantScope = r.tenantScope) (hresource : w.resourceKey = r.resourceKey) :
    evaluateFence (some w) r = .ok (
      match compare r.fencingToken.value w.fencingToken.value with
      | .gt => ⟨.advanced, true, r.fencingToken, r.fencingToken, some w.fencingToken⟩
      | .lt => ⟨.stale, false, r.fencingToken, w.fencingToken, some w.fencingToken⟩
      | .eq =>
        if w.operationId = r.operationId ∧ w.payloadSha256 = r.payloadSha256 then
          ⟨.replay, false, r.fencingToken, w.fencingToken, some w.fencingToken⟩
        else ⟨.tokenReuse, false, r.fencingToken, w.fencingToken, some w.fencingToken⟩) := by
  have hid : ¬ (w.tenantScope ≠ r.tenantScope ∨ w.resourceKey ≠ r.resourceKey) := by
    simp [htenant, hresource]
  simp only [evaluateFence, hr, hw, if_neg hid]
  cases hc : compare r.fencingToken.value w.fencingToken.value with
  | gt =>
    have hlt := Nat.compare_eq_gt.mp hc
    simp [classifyValidatedFence, hlt]
    rfl
  | lt =>
    have hlt := Nat.compare_eq_lt.mp hc
    have hnot : ¬ w.fencingToken.value < r.fencingToken.value := by omega
    simp [classifyValidatedFence, hlt, hnot]
    rfl
  | eq =>
    have heq := Nat.compare_eq_eq.mp hc
    have h1 : ¬ w.fencingToken.value < r.fencingToken.value := by omega
    have h2 : ¬ r.fencingToken.value < w.fencingToken.value := by omega
    simp only [classifyValidatedFence, h1, h2, Bool.not_true, Bool.false_or, decide_false,
      Bool.false_eq_true, if_false, Bool.and_eq_true, beq_iff_eq]
    split <;> rfl

end Decisions

end OresLocks.Fence
