import OresLocks.Fencing.Decision
import OresLocks.JsValue

/-!
# Fencing decisions of the Go package

Go texts are byte strings, of any bytes. An absent optional field is the empty text.
The fields of a request are exported, so `EvaluateFence` validates both arguments again.
-/

namespace OresLocks.Fencing.Go

set_option autoImplicit false

open Fence Shared.Numeral Shared.Utf8

def maxLockKeyBytes : Nat := 512

/-- The encodings of the runes `unicode.IsSpace` accepts. -/
def spaces : List Bytes :=
  [0x09, 0x0a, 0x0b, 0x0c, 0x0d, 0x20, 0x85, 0xa0, 0x1680, 0x2000, 0x2001, 0x2002, 0x2003, 0x2004,
    0x2005, 0x2006, 0x2007, 0x2008, 0x2009, 0x200a, 0x2028, 0x2029, 0x202f, 0x205f, 0x3000].map
    fun n => String.utf8EncodeChar (Char.ofNat n)

/-- Drops what one of the texts is a prefix of, at most `fuel` times. -/
def dropPrefixes (texts : List Bytes) : Nat → Bytes → Bytes
  | 0, s => s
  | fuel + 1, s =>
    match texts.find? fun text => text.isPrefixOf s with
    | some text => dropPrefixes texts fuel (s.drop text.length)
    | none => s

/-- `strings.TrimSpace`. A rune at the end of a text is found by its reversed encoding. -/
def trimSpace (s : Bytes) : Bytes :=
  let left := dropPrefixes spaces s.length s
  (dropPrefixes (spaces.map List.reverse) left.length left.reverse).reverse

section Trimming

variable {texts : List Bytes}

theorem dropPrefixes_suffix (texts : List Bytes) (fuel : Nat) (s : Bytes) :
    dropPrefixes texts fuel s <:+ s := by
  induction fuel generalizing s with
  | zero => exact List.suffix_rfl
  | succ fuel ih =>
    unfold dropPrefixes
    split
    · exact (ih _).trans (List.drop_suffix _ s)
    · exact List.suffix_rfl

theorem dropPrefixes_eq_self_iff (hne : ∀ text ∈ texts, text ≠ []) (s : Bytes) :
    dropPrefixes texts s.length s = s ↔ ∀ text ∈ texts, ¬ text <+: s := by
  cases s with
  | nil =>
    refine iff_of_true rfl ?_
    intro text hmem hstart
    exact hne text hmem (List.prefix_nil.mp hstart)
  | cons b s =>
    rw [List.length_cons]
    unfold dropPrefixes
    cases hfind : texts.find? fun text => text.isPrefixOf (b :: s) with
    | none =>
      refine iff_of_true rfl ?_
      intro text hmem hstart
      exact List.find?_eq_none.mp hfind text hmem (List.isPrefixOf_iff_prefix.mpr hstart)
    | some text =>
      have hmem := List.mem_of_find?_eq_some hfind
      have hstart : text <+: b :: s := List.isPrefixOf_iff_prefix.mp
        (List.find?_some (p := fun text : Bytes => text.isPrefixOf (b :: s)) hfind)
      refine iff_of_false ?_ (fun h => h text hmem hstart)
      intro hself
      have hpos := List.length_pos_iff.mpr (hne text hmem)
      have hlen := (dropPrefixes_suffix texts s.length ((b :: s).drop text.length)).length_le
      dsimp only at hself
      rw [hself, List.length_drop, List.length_cons] at hlen
      omega

theorem spaces_ne_nil : ∀ space ∈ spaces, space ≠ [] := by
  intro space hmem
  obtain ⟨n, _, rfl⟩ := List.mem_map.mp hmem
  exact encode_ne_nil _

theorem trimSpace_eq_self_iff (s : Bytes) : trimSpace s = s ↔
    (∀ space ∈ spaces, ¬ space <+: s) ∧ ∀ space ∈ spaces, ¬ space <:+ s := by
  have hreversed : ∀ space ∈ spaces.map List.reverse, space ≠ [] := by
    intro space hmem
    obtain ⟨text, htext, rfl⟩ := List.mem_map.mp hmem
    exact fun hnil => spaces_ne_nil text htext (List.reverse_eq_nil_iff.mp hnil)
  have hends : (∀ space ∈ spaces.map List.reverse, ¬ space <+: s.reverse) ↔
      ∀ space ∈ spaces, ¬ space <:+ s := by
    simp only [List.forall_mem_map, List.reverse_prefix]
  unfold trimSpace
  dsimp only
  rw [← dropPrefixes_eq_self_iff spaces_ne_nil, ← hends]
  constructor
  · intro h
    have hleft : dropPrefixes spaces s.length s = s := by
      have hlen := congrArg List.length h
      have hfirst := dropPrefixes_suffix spaces s.length s
      have hsecond := (dropPrefixes_suffix (spaces.map List.reverse)
        (dropPrefixes spaces s.length s).length
        (dropPrefixes spaces s.length s).reverse).length_le
      have hle := hfirst.length_le
      rw [List.length_reverse] at hlen hsecond
      exact hfirst.eq_of_length (by omega)
    rw [hleft] at h
    have hright := congrArg List.reverse h
    rw [List.reverse_reverse, ← List.length_reverse, dropPrefixes_eq_self_iff hreversed] at hright
    exact ⟨hleft, hright⟩
  · rintro ⟨hleft, hright⟩
    rw [← dropPrefixes_eq_self_iff hreversed, List.length_reverse] at hright
    rw [hleft, hright, List.reverse_reverse]

/-- No space begins with a graphic ASCII byte, and none ends in a quotation mark. -/
theorem space_ends : ∀ space ∈ spaces,
    space.head?.all (fun b => b ≤ 0x20 || 0x7f ≤ b) = true ∧ space.getLast? ≠ some 0x22 := by
  decide

theorem not_space_start {b : UInt8} (hlow : 0x20 < b) (hhigh : b < 0x7f) (s : Bytes) :
    ∀ space ∈ spaces, ¬ space <+: b :: s := by
  intro space hmem hstart
  have hfirst := (space_ends space hmem).1
  obtain ⟨c, rest, rfl⟩ := List.exists_cons_of_ne_nil (spaces_ne_nil space hmem)
  rw [(List.cons_prefix_cons.mp hstart).1] at hfirst
  simp only [List.head?_cons, Option.all_some, Bool.or_eq_true, decide_eq_true_eq] at hfirst
  simp only [UInt8.lt_iff_toNat_lt, UInt8.le_iff_toNat_le] at hlow hhigh hfirst
  omega

/-- A text between quotation marks is not trimmed. -/
theorem trimSpace_quoted (s : Bytes) : trimSpace (0x22 :: (s ++ [0x22])) = 0x22 :: (s ++ [0x22]) := by
  refine (trimSpace_eq_self_iff _).mpr ⟨not_space_start (by decide) (by decide) _, ?_⟩
  intro space hmem hsuffix
  obtain ⟨front, last, rfl⟩ := List.eq_nil_or_concat space |>.resolve_left (spaces_ne_nil space hmem)
  have hlast := (space_ends _ hmem).2
  obtain ⟨before, hbefore⟩ := hsuffix
  have hsame := congrArg List.getLast? hbefore
  rw [List.concat_eq_append, ← List.append_assoc, List.getLast?_concat, ← List.cons_append,
    List.getLast?_concat] at hsame
  exact hlast (by rw [List.concat_eq_append, List.getLast?_concat, hsame])

/-- Trimming takes no graphic ASCII byte from the front of a text. -/
theorem trimSpace_head {b : UInt8} (hlow : 0x20 < b) (hhigh : b < 0x7f) (s : Bytes) :
    ∀ c, (trimSpace (b :: s)).head? = some c → c = b := by
  have hleft : dropPrefixes spaces (b :: s).length (b :: s) = b :: s :=
    (dropPrefixes_eq_self_iff spaces_ne_nil _).mpr (not_space_start hlow hhigh s)
  have hstart : trimSpace (b :: s) <+: b :: s := by
    unfold trimSpace
    dsimp only
    rw [hleft]
    have hsuffix := dropPrefixes_suffix (spaces.map List.reverse) (b :: s).length (b :: s).reverse
    simpa using List.reverse_prefix.mpr hsuffix
  intro c hc
  obtain ⟨rest, hrest⟩ := hstart
  cases htrim : trimSpace (b :: s) with
  | nil =>
    rw [htrim] at hc
    cases hc
  | cons d tail =>
    rw [htrim] at hc hrest
    cases hc
    exact (List.cons_eq_cons.mp hrest).1

end Trimming

def newLockKey (key : Bytes) : Except InvalidLockKey Bytes :=
  if key = [] then .error .empty
  else if trimSpace key ≠ key then .error .surroundingWhitespace
  else if key.any fun b => b ≤ 0x1f || b == 0x7f then .error .asciiControl
  else if maxLockKeyBytes < key.length then .error (.tooLong key.length maxLockKeyBytes)
  else .ok key

theorem newLockKey_eq {key checked : Bytes} (h : newLockKey key = .ok checked) :
    checked = key := by
  unfold newLockKey at h
  repeat' split at h
  all_goals cases h
  rfl

inductive FenceValidationError where
  | emptyField (field : Field)
  | tooLong (field : Field) (bytes max : Nat)
  | invalidFencingToken (value : Bytes)
  | invalidPayloadSha256
  | identityMismatch
  deriving DecidableEq, Repr

/-- A token is the zero value of its type or was made by a validated constructor. -/
structure FencingTokenText where
  text : Bytes
  value : Nat
  made : text = [] ∧ value = 0 ∨ value < 2 ^ 64 ∧ text = numeral value

/-- `strconv.ParseUint` in base 10 at 64 bits. -/
def parseUint (value : Bytes) : Option Nat :=
  if value = [] then none else readDigits (2 ^ 64) 0 value

theorem parseUint_lt {value : Bytes} {parsed : Nat} (h : parseUint value = some parsed) :
    parsed < 2 ^ 64 := by
  unfold parseUint at h
  split at h
  · cases h
  · exact ((readDigits_zero (by decide)).mp h).2.2

theorem parseUint_numeral {n : Nat} (h : n < 2 ^ 64) : parseUint (numeral n) = some n := by
  rw [parseUint, if_neg (numeral_ne_nil n)]
  exact readDigits_numeral h

def fencingTokenTextFromUint64 (value : Nat) (h : value < 2 ^ 64) : FencingTokenText :=
  ⟨numeral value, value, Or.inr ⟨h, rfl⟩⟩

def parseFencingTokenText (value : Bytes) : Except FenceValidationError FencingTokenText :=
  match h : parseUint value with
  | none => .error (.invalidFencingToken value)
  | some parsed =>
    if hprint : numeral parsed = value then
      .ok ⟨value, parsed, Or.inr ⟨parseUint_lt h, hprint.symm⟩⟩
    else .error (.invalidFencingToken value)

section Tokens

variable {value : Bytes} {token : FencingTokenText}

theorem of_parse (h : parseFencingTokenText value = .ok token) :
    token.text = value ∧ token.value < 2 ^ 64 ∧ value = numeral token.value := by
  unfold parseFencingTokenText at h
  split at h
  · cases h
  rename_i parsed hparsed
  split at h
  · rename_i hprint
    cases h
    exact ⟨rfl, parseUint_lt hparsed, hprint.symm⟩
  · cases h

theorem parse_numeral {n : Nat} (h : n < 2 ^ 64) :
    parseFencingTokenText (numeral n) = .ok (fencingTokenTextFromUint64 n h) := by
  have hparse := parseUint_numeral h
  unfold parseFencingTokenText
  split
  · rename_i hnone
    rw [hparse] at hnone
    cases hnone
  · rename_i parsed hparsed
    rw [hparse, Option.some.injEq] at hparsed
    subst hparsed
    rw [dif_pos rfl]
    rfl

/-- The parser accepts the numerals of the unsigned 64-bit numbers. -/
theorem parse_iff (value : Bytes) :
    (∃ token, parseFencingTokenText value = .ok token) ↔ ∃ n, n < 2 ^ 64 ∧ value = numeral n := by
  constructor
  · rintro ⟨token, h⟩
    obtain ⟨_, hlt, hvalue⟩ := of_parse h
    exact ⟨token.value, hlt, hvalue⟩
  · rintro ⟨n, hn, rfl⟩
    exact ⟨_, parse_numeral hn⟩

end Tokens

def validateFenceField (field : Field) (value : Bytes) (max : Nat) (optional : Bool) :
    Except FenceValidationError Unit :=
  if value = [] then if optional then .ok () else .error (.emptyField field)
  else if max < value.length then .error (.tooLong field value.length max)
  else .ok ()

def isLowerSha256 (value : Bytes) : Bool := value.length == 64 && value.all isLowerHex

abbrev FencedWriteRequest := Write Bytes Bytes FencingTokenText Bytes

abbrev FenceWatermark := Write Bytes Bytes FencingTokenText Bytes

def validate (r : FencedWriteRequest) : Except FenceValidationError Unit := do
  validateFenceField .tenantScope r.tenantScope maxTenantScopeBytes false
  validateFenceField .resourceKey r.resourceKey maxLockKeyBytes false
  let _ ← parseFencingTokenText r.fencingToken.text
  validateFenceField .operationId r.operationId maxOperationIdBytes false
  if !isLowerSha256 r.payloadSha256 then throw .invalidPayloadSha256
  validateFenceField .holder r.holder maxFenceMetadataBytes true
  validateFenceField .leaseId r.leaseId maxFenceMetadataBytes true

/-- The request is given as the record of the constructor's arguments. -/
def newFencedWriteRequest (request : FencedWriteRequest) :
    Except FenceValidationError FencedWriteRequest := do
  validate request
  return request

def watermarkFromRequest (request : FencedWriteRequest) : FenceWatermark :=
  ⟨request.tenantScope, request.resourceKey, request.fencingToken, request.operationId,
    request.payloadSha256, request.holder, request.leaseId⟩

abbrev FenceDecision := Decision FencingTokenText

def evaluateFence (current : Option FenceWatermark) (incoming : FencedWriteRequest) :
    Except FenceValidationError FenceDecision := do
  validate incoming
  match current with
  | none => return ⟨.advanced, true, incoming.fencingToken, incoming.fencingToken, none⟩
  | some current =>
    validate current
    if current.tenantScope ≠ incoming.tenantScope ∨ current.resourceKey ≠ incoming.resourceKey then
      throw .identityMismatch
    let previous := current.fencingToken
    let incomingValue := incoming.fencingToken.value
    let currentValue := current.fencingToken.value
    if currentValue < incomingValue then
      return ⟨.advanced, true, incoming.fencingToken, incoming.fencingToken, some previous⟩
    else if incomingValue < currentValue then
      return ⟨.stale, false, incoming.fencingToken, current.fencingToken, some previous⟩
    else
      let kind := if current.operationId = incoming.operationId ∧
          current.payloadSha256 = incoming.payloadSha256 then .replay else .tokenReuse
      return ⟨kind, false, incoming.fencingToken, current.fencingToken, some previous⟩

section Decisions

variable {w : FenceWatermark} {r : FencedWriteRequest}

theorem valid_of_new {request : FencedWriteRequest} (h : newFencedWriteRequest request = .ok r) :
    r = request ∧ validate r = .ok () := by
  unfold newFencedWriteRequest at h
  cases hv : validate request with
  | error e =>
    rw [hv] at h
    cases h
  | ok u =>
    rw [hv] at h
    cases h
    exact ⟨rfl, hv⟩

theorem evaluateFence_first (hr : validate r = .ok ()) :
    evaluateFence none r = .ok (.first r.fencingToken) := by
  unfold evaluateFence
  rw [hr]
  rfl

theorem evaluateFence_mismatch (hr : validate r = .ok ()) (hw : validate w = .ok ())
    (hid : ¬ (w.tenantScope = r.tenantScope ∧ w.resourceKey = r.resourceKey)) :
    evaluateFence (some w) r = .error .identityMismatch := by
  have hne : w.tenantScope ≠ r.tenantScope ∨ w.resourceKey ≠ r.resourceKey := by tauto
  simp only [evaluateFence, hr, hw, bind, Except.bind, if_pos hne]
  rfl

theorem evaluateFence_found (hr : validate r = .ok ()) (hw : validate w = .ok ())
    (htenant : w.tenantScope = r.tenantScope) (hresource : w.resourceKey = r.resourceKey) :
    evaluateFence (some w) r = .ok (.against
      (compare r.fencingToken.value w.fencingToken.value)
      (w.operationId = r.operationId ∧ w.payloadSha256 = r.payloadSha256)
      r.fencingToken w.fencingToken) := by
  have hid : ¬ (w.tenantScope ≠ r.tenantScope ∨ w.resourceKey ≠ r.resourceKey) := by
    simp [htenant, hresource]
  simp only [evaluateFence, hr, hw, bind, Except.bind, if_neg hid]
  cases hc : compare r.fencingToken.value w.fencingToken.value with
  | gt =>
    rw [if_pos (Nat.compare_eq_gt.mp hc)]
    rfl
  | lt =>
    have hlt := Nat.compare_eq_lt.mp hc
    rw [if_neg (by omega), if_pos hlt]
    rfl
  | eq =>
    have heq := Nat.compare_eq_eq.mp hc
    rw [if_neg (by omega), if_neg (by omega)]
    simp only [Decision.against]
    split <;> rfl

end Decisions

end OresLocks.Fencing.Go
