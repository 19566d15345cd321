import OresLocks.Fencing.Decision
import OresLocks.JsValue

/-!
# Fencing decisions of the Gleam package

Gleam runs on Erlang: a string is its UTF-8 bytes, and an integer has any size. The
grapheme clusters of a text come from the Erlang runtime; what the package relies on is
that the clusters make up the text and that letters and digits of ASCII do not join.
-/

namespace OresLocks.Fencing.Gleam

set_option autoImplicit false

open Fence Shared.Numeral Shared.Utf8

/-- `string.to_graphemes`. -/
structure Graphemes where
  clusters : String → List String
  flatten : ∀ text, (clusters text).flatMap String.toList = text.toList
  separate : ∀ text, (∀ c ∈ text.toList, c.isAlphanum = true) →
    clusters text = text.toList.map String.singleton

def maxLockKeyBytes : Nat := 512

/-- The checks of `lock_key`. -/
def LockKey.check (key : String) : Except InvalidLockKey Unit :=
  if (utf8 key).length = 0 then .error .empty
  else if maxLockKeyBytes < (utf8 key).length then
    .error (.tooLong (utf8 key).length maxLockKeyBytes)
  else .ok ()

structure LockKey where
  text : String
  admitted : LockKey.check text = .ok ()
  deriving DecidableEq

def lockKey (key : String) : Except InvalidLockKey LockKey :=
  match h : LockKey.check key with
  | .ok () => .ok ⟨key, h⟩
  | .error invalid => .error invalid

theorem LockKey.text_inj {a b : LockKey} : a.text = b.text ↔ a = b := by
  cases a
  cases b
  simp

theorem text_of_lockKey {key : String} {k : LockKey} (h : lockKey key = .ok k) :
    k.text = key := by
  unfold lockKey at h
  split at h
  · cases h
    rfl
  · cases h

inductive FenceValidationError where
  | emptyField (field : Field)
  | tooLong (field : Field) (bytes max : Nat)
  | invalidFencingToken (text : String)
  | invalidPayloadSha256
  | identityMismatch
  deriving DecidableEq

def decimalDigits : List String := ["0", "1", "2", "3", "4", "5", "6", "7", "8", "9"]

def isDecimalDigit (value : String) : Bool := decimalDigits.contains value

def isLowerHexDigit (value : String) : Bool :=
  (decimalDigits ++ ["a", "b", "c", "d", "e", "f"]).contains value

def maxFencingToken : Int := 18446744073709551615

/-- `int.parse`: Erlang's `binary_to_integer`, an optional sign and digits. -/
def parseInt (text : Bytes) : Option Int :=
  let digits := if text.head? = some 0x2b ∨ text.head? = some 0x2d then text.tail else text
  if digits = [] ∨ !isDigits digits then none
  else if text.head? = some 0x2d then some (-(natOf digits : Int))
  else some (natOf digits)

def canonical (G : Graphemes) (text : String) : Bool :=
  let graphemes := G.clusters text
  if text = "0" then true
  else graphemes != [] && decide (graphemes.length ≤ 20) &&
    !(utf8 "0").isPrefixOf (utf8 text) && graphemes.all isDecimalDigit

section Canonical

variable {G : Graphemes} {text : String}

theorem decimalDigits_eq :
    decimalDigits = (List.range 10).map fun d => String.singleton d.digitChar := by decide

theorem isDecimalDigit_iff (value : String) :
    isDecimalDigit value = true ↔ ∃ d, d < 10 ∧ value = String.singleton d.digitChar := by
  rw [isDecimalDigit, List.contains_iff_mem, decimalDigits_eq, List.mem_map]
  constructor
  · rintro ⟨d, hd, rfl⟩
    exact ⟨d, List.mem_range.mp hd, rfl⟩
  · rintro ⟨d, hd, rfl⟩
    exact ⟨d, List.mem_range.mpr hd, rfl⟩

theorem eq_digitChar {c : Char} (h : c.isDigit = true) : ∃ d, d < 10 ∧ c = d.digitChar := by
  simp only [Char.isDigit, Bool.and_eq_true, decide_eq_true_eq, UInt32.le_iff_toNat_le] at h
  have h0 : 48 ≤ c.toNat := h.1
  have h9 : c.toNat ≤ 57 := h.2
  refine ⟨c.toNat - 48, by omega, ?_⟩
  apply Char.toNat_inj.mp
  rw [Nat.toNat_digitChar_of_lt_ten (by omega)]
  omega

theorem utf8_digit {d : Nat} (h : d < 10) :
    utf8 (String.singleton d.digitChar) = [DigitAlphabet.ofChar d.digitChar] := by
  rw [utf8, String.toList_singleton, List.flatMap_singleton]
  exact utf8EncodeChar_digit (by rw [Nat.isDigit_digitChar, decide_eq_true h])

theorem utf8_clusters (G : Graphemes) (text : String) :
    utf8 text = (G.clusters text).flatMap utf8 := by
  rw [utf8, ← G.flatten, List.flatMap_assoc]
  rfl

theorem zero_isPrefixOf (bytes : Bytes) :
    (utf8 "0").isPrefixOf bytes = true ↔ bytes.head? = some 0x30 := by
  have h0 : utf8 "0" = [0x30] := by decide
  rw [h0]
  cases bytes with
  | nil => simp [List.isPrefixOf]
  | cons b bytes =>
    rw [List.isPrefixOf, List.isPrefixOf_nil_left, Bool.and_true, beq_iff_eq, List.head?_cons,
      Option.some.injEq, eq_comm]

/-- The grapheme test accepts no other texts than numerals. -/
theorem isNumeral_of_canonical (h : canonical G text = true) : isNumeral (utf8 text) = true := by
  unfold canonical at h
  dsimp only at h
  split at h
  · rename_i hzero
    rw [hzero]
    decide
  simp only [Bool.and_eq_true, bne_iff_ne, Bool.not_eq_true', Bool.eq_false_iff, ne_eq,
    zero_isPrefixOf, List.all_eq_true] at h
  obtain ⟨⟨⟨hne, _⟩, hhead⟩, hall⟩ := h
  have hdigits : isDigits (utf8 text) = true := by
    rw [utf8_clusters G, isDigits, List.all_flatMap, List.all_eq_true]
    intro cluster hmem
    obtain ⟨d, hd, rfl⟩ := (isDecimalDigit_iff cluster).mp (hall cluster hmem)
    simp [utf8_digit hd, value_digitChar hd]
  have hnonempty : utf8 text ≠ [] := by
    obtain ⟨cluster, rest, hc⟩ := List.exists_cons_of_ne_nil hne
    obtain ⟨d, hd, rfl⟩ := (isDecimalDigit_iff cluster).mp (hall cluster (by simp [hc]))
    rw [utf8_clusters G, hc, List.flatMap_cons, utf8_digit hd]
    simp
  cases hbytes : utf8 text with
  | nil => exact absurd hbytes hnonempty
  | cons b bytes =>
    rw [hbytes] at hdigits hhead
    have hzero : DigitAlphabet.value b ≠ some 0 := by
      intro hb
      apply hhead
      rw [List.head?_cons, ← (DigitAlphabet.ofChar_value b 0 hb).2]
      rfl
    simp [isNumeral, hdigits, hzero]

theorem canonical_toString {n : Nat} (h : n < 2 ^ 64) : canonical G (toString n) = true := by
  have hlist : (toString n).toList = Nat.toDigits 10 n := by
    simp [Nat.repr]
  have hdigit : ∀ c ∈ (toString n).toList, c.isDigit = true := by
    intro c hc
    rw [hlist] at hc
    exact Nat.isDigit_of_mem_toDigits (by decide : 0 < 10) (by decide) hc
  have hclusters := G.separate (toString n) fun c hc => by
    simp [Char.isAlphanum, hdigit c hc]
  have hlen : (Nat.toDigits 10 n).length ≤ 20 := by
    have := length_numeral_le (α := UInt8) (n := n) (k := 20) (by decide) (by omega)
    simpa [numeral] using this
  unfold canonical
  dsimp only
  split
  · rfl
  rename_i hzero
  have hn : n ≠ 0 := by
    rintro rfl
    exact hzero rfl
  obtain ⟨b, bytes, hb, hb0⟩ := head_numeral_ne_zero (α := UInt8) hn
  simp only [Bool.and_eq_true, bne_iff_ne, Bool.not_eq_true', Bool.eq_false_iff, ne_eq,
    zero_isPrefixOf, List.all_eq_true, decide_eq_true_eq, utf8_toString, hclusters, hlist]
  refine ⟨⟨⟨?_, ?_⟩, ?_⟩, ?_⟩
  · intro hnil
    have hnum := numeral_ne_nil (α := UInt8) n
    simp only [List.map_eq_nil_iff] at hnil
    exact hnum (by rw [numeral, hnil, List.map_nil])
  · rwa [List.length_map]
  · intro hhead
    rw [hb, List.head?_cons, Option.some.injEq] at hhead
    subst hhead
    exact hb0 (by decide)
  · intro cluster hmem
    obtain ⟨c, hc, rfl⟩ := List.mem_map.mp hmem
    obtain ⟨d, hd, rfl⟩ := eq_digitChar (hdigit c (by rw [hlist]; exact hc))
    exact (isDecimalDigit_iff _).mpr ⟨d, hd, rfl⟩

theorem parseInt_of_isDigits {bytes : Bytes} (hne : bytes ≠ []) (h : isDigits bytes = true) :
    parseInt bytes = some (natOf bytes : Int) := by
  have hsign : ¬ (bytes.head? = some 0x2b ∨ bytes.head? = some 0x2d) := by
    cases bytes with
    | nil => simp
    | cons b bytes =>
      rw [isDigits_cons, Bool.and_eq_true] at h
      rw [List.head?_cons, Option.some.injEq, Option.some.injEq]
      rintro (rfl | rfl)
      · exact absurd h.1 (by decide)
      · exact absurd h.1 (by decide)
  unfold parseInt
  dsimp only
  rw [if_neg hsign, if_neg (by simp [hne, h]), if_neg (fun hm => hsign (Or.inr hm))]

/-- A canonical text is what its integer prints as. -/
theorem text_of_canonical (h : canonical G text = true) {value : Int}
    (hparse : parseInt (utf8 text) = some value) (hmax : value ≤ maxFencingToken) :
    value.toNat < 2 ^ 64 ∧ text = toString value.toNat := by
  have hn := isNumeral_of_canonical h
  have hne : utf8 text ≠ [] := by
    intro hnil
    rw [hnil] at hn
    cases hn
  rw [parseInt_of_isDigits hne (isDigits_of_isNumeral hn), Option.some.injEq] at hparse
  subst hparse
  simp only [maxFencingToken] at hmax
  refine ⟨by omega, utf8_injective ?_⟩
  rw [utf8_toString, Int.toNat_natCast, numeral_natOf hn]

end Canonical

/-- The type is opaque: only `fencing_token_text` makes a token. -/
structure FencingTokenText where
  text : String
  value : Nat
  inRange : value < 2 ^ 64
  printed : text = toString value

def fencingTokenText (G : Graphemes) (text : String) :
    Except FenceValidationError FencingTokenText :=
  match hc : canonical G text, hp : parseInt (utf8 text) with
  | true, some value =>
    if h : 0 ≤ value ∧ value ≤ maxFencingToken then
      .ok ⟨text, value.toNat, (text_of_canonical hc hp h.2).1, (text_of_canonical hc hp h.2).2⟩
    else .error (.invalidFencingToken text)
  | _, _ => .error (.invalidFencingToken text)

def fencingTokenToString (token : FencingTokenText) : String := token.text

def fencingTokenValue (token : FencingTokenText) : Nat := token.value

section Tokens

variable {G : Graphemes} {text : String} {token : FencingTokenText}

theorem text_of_parse (h : fencingTokenText G text = .ok token) : token.text = text := by
  unfold fencingTokenText at h
  split at h
  · split at h
    · cases h
      rfl
    · cases h
  · cases h

/-- The parser accepts the texts that some unsigned 64-bit number prints as. -/
theorem parse_iff (G : Graphemes) (text : String) :
    (∃ token, fencingTokenText G text = .ok token) ↔ ∃ n, n < 2 ^ 64 ∧ text = toString n := by
  constructor
  · rintro ⟨token, h⟩
    have htext := text_of_parse h
    exact ⟨token.value, token.inRange, by rw [← htext, token.printed]⟩
  · rintro ⟨n, hn, rfl⟩
    have hcanonical := canonical_toString (G := G) hn
    have hparse : parseInt (utf8 (toString n)) = some (n : Int) := by
      rw [utf8_toString, parseInt_of_isDigits (numeral_ne_nil n) (isDigits_numeral n),
        natOf_numeral]
    refine ⟨⟨toString n, n, hn, rfl⟩, ?_⟩
    unfold fencingTokenText
    split
    · rename_i value _ hvalue
      rw [hparse, Option.some.injEq] at hvalue
      subst hvalue
      rw [dif_pos (by simp only [maxFencingToken]; omega)]
      rfl
    · rename_i hneither
      exact absurd hparse (hneither _ hcanonical)

end Tokens

def validateField (field : Field) (value : String) (max : Nat) :
    Except FenceValidationError Unit :=
  let bytes := (utf8 value).length
  if bytes = 0 then .error (.emptyField field)
  else if max < bytes then .error (.tooLong field bytes max)
  else .ok ()

def validateOptionalField (field : Field) (value : Option String) (max : Nat) :
    Except FenceValidationError Unit :=
  match value with
  | none => .ok ()
  | some value => validateField field value max

def validatePayloadSha256 (G : Graphemes) (value : String) : Except FenceValidationError Unit :=
  let graphemes := G.clusters value
  if graphemes.length = 64 ∧ graphemes.all isLowerHexDigit then .ok ()
  else .error .invalidPayloadSha256

abbrev FencedWriteRequest := Write String LockKey FencingTokenText (Option String)

abbrev FenceWatermark := Write String LockKey FencingTokenText (Option String)

/-- The request is given as the record of the arguments. -/
def newFencedWriteRequest (G : Graphemes) (request : FencedWriteRequest) :
    Except FenceValidationError FencedWriteRequest := do
  validateField .tenantScope request.tenantScope maxTenantScopeBytes
  validateField .resourceKey request.resourceKey.text maxLockKeyBytes
  validateField .operationId request.operationId maxOperationIdBytes
  validateOptionalField .holder request.holder maxFenceMetadataBytes
  validateOptionalField .leaseId request.leaseId maxFenceMetadataBytes
  validatePayloadSha256 G request.payloadSha256
  return request

def watermarkFromRequest (request : FencedWriteRequest) : FenceWatermark :=
  ⟨request.tenantScope, request.resourceKey, request.fencingToken, request.operationId,
    request.payloadSha256, request.holder, request.leaseId⟩

abbrev FenceDecision := Decision FencingTokenText

def evaluateFence (current : Option FenceWatermark) (incoming : FencedWriteRequest) :
    Except FenceValidationError FenceDecision :=
  match current with
  | none => .ok ⟨.advanced, true, incoming.fencingToken, incoming.fencingToken, none⟩
  | some current =>
    match decide (current.tenantScope = incoming.tenantScope) &&
        decide (current.resourceKey = incoming.resourceKey) with
    | false => .error .identityMismatch
    | true =>
      let previous := some current.fencingToken
      let incomingValue := fencingTokenValue incoming.fencingToken
      let currentValue := fencingTokenValue current.fencingToken
      match decide (currentValue < incomingValue), decide (incomingValue < currentValue) with
      | true, _ => .ok ⟨.advanced, true, incoming.fencingToken, incoming.fencingToken, previous⟩
      | false, true => .ok ⟨.stale, false, incoming.fencingToken, current.fencingToken, previous⟩
      | false, false =>
        let kind := if current.operationId = incoming.operationId ∧
            current.payloadSha256 = incoming.payloadSha256 then .replay else .tokenReuse
        .ok ⟨kind, false, incoming.fencingToken, current.fencingToken, previous⟩

section Decisions

variable {w : FenceWatermark} {r : FencedWriteRequest}

theorem eq_of_new {G : Graphemes} {request : FencedWriteRequest}
    (h : newFencedWriteRequest G request = .ok r) : r = request := by
  unfold newFencedWriteRequest at h
  simp only [bind, Except.bind] at h
  repeat' split at h
  all_goals cases h
  rfl

theorem evaluateFence_mismatch
    (hid : ¬ (w.tenantScope = r.tenantScope ∧ w.resourceKey = r.resourceKey)) :
    evaluateFence (some w) r = .error .identityMismatch := by
  have hfalse : (decide (w.tenantScope = r.tenantScope) &&
      decide (w.resourceKey = r.resourceKey)) = false := by
    rw [← Bool.decide_and, decide_eq_false hid]
  simp only [evaluateFence, hfalse]

theorem evaluateFence_found (htenant : w.tenantScope = r.tenantScope)
    (hresource : w.resourceKey = r.resourceKey) :
    evaluateFence (some w) r = .ok (.against
      (compare r.fencingToken.value w.fencingToken.value)
      (w.operationId = r.operationId ∧ w.payloadSha256 = r.payloadSha256)
      r.fencingToken w.fencingToken) := by
  simp only [evaluateFence, htenant, hresource, decide_true, Bool.and_true, fencingTokenValue]
  cases hc : compare r.fencingToken.value w.fencingToken.value with
  | gt =>
    have hlt := Nat.compare_eq_gt.mp hc
    simp [hlt, Decision.against]
  | lt =>
    have hlt := Nat.compare_eq_lt.mp hc
    have hnot : ¬ w.fencingToken.value < r.fencingToken.value := by omega
    simp [hlt, hnot, Decision.against]
  | eq =>
    have heq := Nat.compare_eq_eq.mp hc
    by_cases hsame : w.operationId = r.operationId ∧ w.payloadSha256 = r.payloadSha256 <;>
      simp [heq, hsame, Decision.against]

end Decisions

end OresLocks.Fencing.Gleam
