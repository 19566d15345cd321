import OresLocks.Fencing.Decision
import OresLocks.JsValue

/-!
# Fencing decisions of the Dart package

Dart strings are sequences of UTF-16 code units. The constructors are private, so an
instance of a class has passed the checks of the factory that made it.
-/

namespace OresLocks.Fencing.Dart

set_option autoImplicit false

open Fence Shared.Numeral

def maxLockKeyBytes : Nat := 512

/-- The code units `String.trim` strips: the Unicode White_Space property and U+FEFF. -/
def isTrimmed (u : UInt16) : Bool := JsString.isTrimmed u || u == 0x0085

def trim (s : JsString) : JsString :=
  ((s.dropWhile isTrimmed).reverse.dropWhile isTrimmed).reverse

/-- The checks of the `LockKey` factory. -/
def LockKey.check (key : JsString) : Except InvalidLockKey Unit :=
  if key = [] then .error .empty
  else if trim key ≠ key then .error .surroundingWhitespace
  else if key.any fun unit => unit ≤ 0x1f || unit == 0x7f then .error .asciiControl
  else if maxLockKeyBytes < (JsString.encode key).length then
    .error (.tooLong (JsString.encode key).length maxLockKeyBytes)
  else .ok ()

structure LockKey where
  value : JsString
  admitted : LockKey.check value = .ok ()
  deriving DecidableEq

def LockKey.new (key : JsString) : Except InvalidLockKey LockKey :=
  match h : LockKey.check key with
  | .ok () => .ok ⟨key, h⟩
  | .error invalid => .error invalid

theorem LockKey.value_inj {a b : LockKey} : a.value = b.value ↔ a = b := by
  cases a
  cases b
  simp

theorem LockKey.value_of_new {key : JsString} {k : LockKey} (h : LockKey.new key = .ok k) :
    k.value = key := by
  unfold LockKey.new at h
  split at h
  · cases h
    rfl
  · cases h

inductive FenceValidationException where
  | emptyField (field : Field)
  | tooLong (field : Field) (bytes max : Nat)
  | notCanonical (value : JsString)
  | outsideRange (value : JsString)
  | invalidPayloadSha256
  | identityMismatch
  deriving DecidableEq

def maxFencingToken : Nat := 18446744073709551615

structure FencingTokenText where
  value : JsString
  numeric : Nat
  inRange : numeric < 2 ^ 64
  canonical : value = numeral numeric

def FencingTokenText.fromBigInt (value : Nat) (h : value < 2 ^ 64) : FencingTokenText :=
  ⟨numeral value, value, h, rfl⟩

theorem lt_of_not_exceeds {n : Nat} {value : JsString}
    (h : ¬ (maxFencingToken < n ∨ numeral n ≠ value)) : n < 2 ^ 64 ∧ value = numeral n := by
  simp only [maxFencingToken, not_or, not_lt, not_not] at h
  exact ⟨by omega, h.2.symm⟩

def FencingTokenText.parse (value : JsString) :
    Except FenceValidationException FencingTokenText :=
  if !JsString.matchesTokenText value then .error (.notCanonical value)
  else
    let numeric := natOf value
    if h : maxFencingToken < numeric ∨ numeral numeric ≠ value then .error (.outsideRange value)
    else .ok ⟨value, numeric, (lt_of_not_exceeds h).1, (lt_of_not_exceeds h).2⟩

def FencingTokenText.compareTo (token other : FencingTokenText) : Ordering :=
  compare token.numeric other.numeric

section Tokens

variable {value : JsString} {token : FencingTokenText}

theorem value_of_parse (h : FencingTokenText.parse value = .ok token) : token.value = value := by
  unfold FencingTokenText.parse at h
  split at h
  · cases h
  dsimp only at h
  split at h
  · cases h
  · cases h
    rfl

theorem parse_numeral {n : Nat} (h : n < 2 ^ 64) :
    FencingTokenText.parse (numeral n) = .ok (.fromBigInt n h) := by
  have hexceeds : ¬ (maxFencingToken < n ∨ (numeral n : JsString) ≠ numeral n) := by
    simp only [maxFencingToken, ne_eq, not_true, or_false]
    omega
  unfold FencingTokenText.parse
  rw [JsString.matchesTokenText_numeral h]
  simp only [Bool.not_true, Bool.false_eq_true, if_false, natOf_numeral]
  rw [dif_neg hexceeds]
  rfl

/-- The parser accepts the numerals of the unsigned 64-bit numbers. -/
theorem parse_iff (value : JsString) :
    (∃ token, FencingTokenText.parse value = .ok token) ↔
      ∃ n, n < 2 ^ 64 ∧ value = numeral n := by
  constructor
  · rintro ⟨token, h⟩
    have hvalue := value_of_parse h
    exact ⟨token.numeric, token.inRange, by rw [← hvalue, token.canonical]⟩
  · rintro ⟨n, hn, rfl⟩
    exact ⟨_, parse_numeral hn⟩

end Tokens

def validateField (field : Field) (value : JsString) (maxBytes : Nat) :
    Except FenceValidationException Unit :=
  if value = [] then .error (.emptyField field)
  else if maxBytes < (JsString.encode value).length then
    .error (.tooLong field (JsString.encode value).length maxBytes)
  else .ok ()

def validateOptionalField (field : Field) (value : Option JsString) (maxBytes : Nat) :
    Except FenceValidationException Unit :=
  match value with
  | some value => validateField field value maxBytes
  | none => .ok ()

abbrev Fields := Write JsString LockKey FencingTokenText (Option JsString)

/-- The checks of the `FencedWriteRequest` factory. -/
def FencedWriteRequest.check (fields : Fields) : Except FenceValidationException Unit := do
  validateField .tenantScope fields.tenantScope maxTenantScopeBytes
  validateField .resourceKey fields.resourceKey.value maxLockKeyBytes
  validateField .operationId fields.operationId maxOperationIdBytes
  validateOptionalField .holder fields.holder maxFenceMetadataBytes
  validateOptionalField .leaseId fields.leaseId maxFenceMetadataBytes
  if !JsString.matchesLowerSha256 fields.payloadSha256 then throw .invalidPayloadSha256

structure FencedWriteRequest where
  fields : Fields
  admitted : FencedWriteRequest.check fields = .ok ()

def FencedWriteRequest.new (fields : Fields) :
    Except FenceValidationException FencedWriteRequest :=
  match h : FencedWriteRequest.check fields with
  | .ok () => .ok ⟨fields, h⟩
  | .error e => .error e

theorem FencedWriteRequest.fields_of_new {fields : Fields} {request : FencedWriteRequest}
    (h : FencedWriteRequest.new fields = .ok request) : request.fields = fields := by
  unfold FencedWriteRequest.new at h
  split at h
  · cases h
    rfl
  · cases h

structure FenceWatermark where
  fields : Fields
  admitted : FencedWriteRequest.check fields = .ok ()

def FenceWatermark.fromRequest (request : FencedWriteRequest) : FenceWatermark :=
  ⟨request.fields, request.admitted⟩

abbrev FenceDecision := Decision FencingTokenText

def evaluateFence (current : Option FenceWatermark) (incoming : FencedWriteRequest) :
    Except FenceValidationException FenceDecision :=
  let incoming := incoming.fields
  match current with
  | none => .ok ⟨.advanced, true, incoming.fencingToken, incoming.fencingToken, none⟩
  | some current =>
    let current := current.fields
    if current.tenantScope ≠ incoming.tenantScope ∨ current.resourceKey ≠ incoming.resourceKey then
      .error .identityMismatch
    else
      let comparison := incoming.fencingToken.compareTo current.fencingToken
      if comparison = .gt then
        .ok ⟨.advanced, true, incoming.fencingToken, incoming.fencingToken,
          some current.fencingToken⟩
      else if comparison = .lt then
        .ok ⟨.stale, false, incoming.fencingToken, current.fencingToken, some current.fencingToken⟩
      else
        let sameOperation := current.operationId = incoming.operationId ∧
          current.payloadSha256 = incoming.payloadSha256
        .ok ⟨if sameOperation then .replay else .tokenReuse, false, incoming.fencingToken,
          current.fencingToken, some current.fencingToken⟩

section Decisions

variable {w : FenceWatermark} {r : FencedWriteRequest}

theorem evaluateFence_mismatch
    (hid : ¬ (w.fields.tenantScope = r.fields.tenantScope ∧
      w.fields.resourceKey = r.fields.resourceKey)) :
    evaluateFence (some w) r = .error .identityMismatch := by
  unfold evaluateFence
  dsimp only
  rw [if_pos (by tauto)]

theorem evaluateFence_found (htenant : w.fields.tenantScope = r.fields.tenantScope)
    (hresource : w.fields.resourceKey = r.fields.resourceKey) :
    evaluateFence (some w) r = .ok (.against
      (r.fields.fencingToken.compareTo w.fields.fencingToken)
      (w.fields.operationId = r.fields.operationId ∧
        w.fields.payloadSha256 = r.fields.payloadSha256)
      r.fields.fencingToken w.fields.fencingToken) := by
  unfold evaluateFence
  dsimp only
  rw [if_neg (by simp [htenant, hresource])]
  cases hc : r.fields.fencingToken.compareTo w.fields.fencingToken with
  | gt => rfl
  | lt => rfl
  | eq =>
    by_cases hsame : w.fields.operationId = r.fields.operationId ∧
        w.fields.payloadSha256 = r.fields.payloadSha256 <;>
      simp [Decision.against, hsame]

end Decisions

end OresLocks.Fencing.Dart
