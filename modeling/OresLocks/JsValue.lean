import OresLocks.Shared.Numeral
import Mathlib.Data.Rat.Defs

/-!
# JavaScript values

Strings are lists of UTF-16 code units, so unpaired surrogates are ordinary
values here. A finite number is a rational; the doubles are among them, and
every test below (`isSafeInteger`, order) reads the exact value only. Objects,
functions and symbols are one value: no modelled function looks inside them.
-/

namespace OresLocks

set_option autoImplicit false

open Shared.Numeral

abbrev JsString := List UInt16

abbrev Bytes := List UInt8

inductive JsNumber where
  | nan
  | infinity (negative : Bool)
  | finite (q : ℚ)
  deriving DecidableEq

inductive JsValue where
  | undefined
  | null
  | boolean (b : Bool)
  | number (n : JsNumber)
  | bigint (n : Int)
  | string (s : JsString)
  | object
  deriving DecidableEq

namespace JsNumber

def maxSafeInteger : Nat := 9007199254740991

def ofInt (n : Int) : JsNumber := .finite (Rat.ofInt n)

/-- `Number.isSafeInteger`. -/
def isSafeInteger : JsNumber → Bool
  | .finite q => q.den == 1 && decide (q.num.natAbs ≤ maxSafeInteger)
  | _ => false

/-- The integer a safe integer denotes. -/
def toInt : JsNumber → Int
  | .finite q => q.num
  | _ => 0

@[simp] theorem toInt_ofInt (n : Int) : (ofInt n).toInt = n := rfl

end JsNumber

namespace JsString

/-- The code units `String.prototype.trim` strips: white space and line terminators. -/
def isTrimmed (u : UInt16) : Bool :=
  (0x0009 ≤ u && u ≤ 0x000d) || u == 0x0020 || u == 0x00a0 || u == 0x1680 ||
  (0x2000 ≤ u && u ≤ 0x200a) || u == 0x2028 || u == 0x2029 || u == 0x202f ||
  u == 0x205f || u == 0x3000 || u == 0xfeff

def trim (s : JsString) : JsString :=
  ((s.dropWhile isTrimmed).reverse.dropWhile isTrimmed).reverse

def isHighSurrogate (u : UInt16) : Bool := 0xd800 ≤ u && u ≤ 0xdbff

def isLowSurrogate (u : UInt16) : Bool := 0xdc00 ≤ u && u ≤ 0xdfff

/-- One code unit outside a surrogate pair; an unpaired surrogate becomes U+FFFD. -/
def encodeUnit (u : UInt16) : Bytes :=
  if isHighSurrogate u || isLowSurrogate u then String.utf8EncodeChar '\uFFFD'
  else String.utf8EncodeChar (Char.ofNat u.toNat)

def encodePair (hi lo : UInt16) : Bytes :=
  String.utf8EncodeChar
    (Char.ofNat (0x10000 + (hi.toNat - 0xd800) * 0x400 + (lo.toNat - 0xdc00)))

/-- `TextEncoder.encode`. -/
def encode : JsString → Bytes
  | [] => []
  | [u] => encodeUnit u
  | hi :: lo :: rest =>
    if isHighSurrogate hi && isLowSurrogate lo then encodePair hi lo ++ encode rest
    else encodeUnit hi ++ encode (lo :: rest)

theorem high_iff (u : UInt16) :
    isHighSurrogate u = true ↔ 0xd800 ≤ u.toNat ∧ u.toNat ≤ 0xdbff := by
  simp [isHighSurrogate, UInt16.le_iff_toNat_le]

theorem low_iff (u : UInt16) :
    isLowSurrogate u = true ↔ 0xdc00 ≤ u.toNat ∧ u.toNat ≤ 0xdfff := by
  simp [isLowSurrogate, UInt16.le_iff_toNat_le]

/-- One code unit outside a surrogate pair as a well-formed text has it. -/
def toWellFormedUnit (u : UInt16) : UInt16 :=
  if isHighSurrogate u || isLowSurrogate u then 0xfffd else u

/-- `String.prototype.toWellFormed`: every unpaired surrogate becomes U+FFFD. -/
def toWellFormed : JsString → JsString
  | [] => []
  | [u] => [toWellFormedUnit u]
  | hi :: lo :: rest =>
    if isHighSurrogate hi && isLowSurrogate lo then hi :: lo :: toWellFormed rest
    else toWellFormedUnit hi :: toWellFormed (lo :: rest)

@[simp] theorem toWellFormed_eq_nil (s : JsString) : toWellFormed s = [] ↔ s = [] := by
  match s with
  | [] => simp [toWellFormed]
  | [u] => simp [toWellFormed]
  | hi :: lo :: rest =>
    rw [toWellFormed]
    split <;> simp

theorem toWellFormed_cons {u : UInt16} (h : (isHighSurrogate u || isLowSurrogate u) = false)
    (rest : JsString) : toWellFormed (u :: rest) = u :: toWellFormed rest := by
  cases rest with
  | nil => simp [toWellFormed, toWellFormedUnit, h]
  | cons v rest =>
    rw [Bool.or_eq_false_iff] at h
    simp [toWellFormed, toWellFormedUnit, h.1, h.2]

theorem toWellFormedUnit_not_surrogate (u : UInt16) :
    (isHighSurrogate (toWellFormedUnit u) || isLowSurrogate (toWellFormedUnit u)) = false := by
  unfold toWellFormedUnit
  split
  · decide
  · rename_i h
    exact Bool.eq_false_iff.mpr h

/-- What has been made well formed stays as it is. -/
@[simp] theorem toWellFormed_idem (s : JsString) :
    toWellFormed (toWellFormed s) = toWellFormed s := by
  induction s using toWellFormed.induct with
  | case1 => rfl
  | case2 u =>
    rw [toWellFormed, toWellFormed_cons (toWellFormedUnit_not_surrogate u)]
    rfl
  | case3 hi lo rest hpair ih =>
    rw [toWellFormed, if_pos hpair, toWellFormed, if_pos hpair, ih]
  | case4 hi lo rest hpair ih =>
    rw [toWellFormed, if_neg hpair, toWellFormed_cons (toWellFormedUnit_not_surrogate hi), ih]

theorem toNat_ofNat {n : Nat} (h : n.isValidChar) : (Char.ofNat n).toNat = n := by
  rw [Char.ofNat, dif_pos h]
  rfl

theorem encodeUnit_ascii {u : UInt16} (h : u.toNat < 128) : encodeUnit u = [UInt8.ofNat u.toNat] := by
  have hs : (isHighSurrogate u || isLowSurrogate u) = false := by
    simp only [isHighSurrogate, isLowSurrogate, Bool.or_eq_false_iff, Bool.and_eq_false_iff,
      decide_eq_false_iff_not, UInt16.le_iff_toNat_le]
    refine ⟨Or.inl ?_, Or.inl ?_⟩ <;> simp <;> omega
  have hv : u.toNat.isValidChar := Or.inl (by omega)
  have hc : (Char.ofNat u.toNat).val.toNat = u.toNat := toNat_ofNat hv
  rw [encodeUnit, hs, if_neg (by simp), String.utf8EncodeChar_eq_singleton]
  · simp [UInt8.ofNat, UInt32.toUInt8, hc]
  · rw [Char.utf8Size, if_pos]
    rw [UInt32.le_iff_toNat_le, hc]
    simp
    omega

theorem encode_ascii {s : JsString} (h : ∀ u ∈ s, u.toNat < 128) :
    encode s = s.map fun u => UInt8.ofNat u.toNat := by
  induction s with
  | nil => rfl
  | cons u s ih =>
    have hu := h u List.mem_cons_self
    have hs := ih (fun v hv => h v (List.mem_cons_of_mem u hv))
    cases s with
    | nil => simp [encode, encodeUnit_ascii hu]
    | cons v s =>
      have hh : isHighSurrogate u = false := by
        simp only [isHighSurrogate, Bool.and_eq_false_iff, decide_eq_false_iff_not,
          UInt16.le_iff_toNat_le]
        left
        simp
        omega
      simp only [encode, hh, Bool.false_and, Bool.false_eq_true, if_false, encodeUnit_ascii hu, hs]
      rfl

/-- A decimal numeral is the same letters in UTF-16 and in UTF-8. -/
@[simp] theorem encode_numeral (n : Nat) : encode (numeral n) = numeral n := by
  have hd : ∀ c ∈ Nat.toDigits 10 n, c.toNat < 128 := by
    intro c hc
    have h := Nat.isDigit_of_mem_toDigits (by decide : 0 < 10) (by decide) hc
    simp only [Char.isDigit, Bool.and_eq_true, decide_eq_true_eq, UInt32.le_iff_toNat_le] at h
    have h9 := h.2
    change c.toNat ≤ 57 at h9
    omega
  have hu : ∀ c ∈ Nat.toDigits 10 n,
      (DigitAlphabet.ofChar c : UInt16).toNat = c.toNat := by
    intro c hc
    have := hd c hc
    exact UInt16.toNat_ofNat_of_lt' (by simp [UInt16.size]; omega)
  rw [numeral, encode_ascii]
  · rw [numeral, List.map_map]
    apply List.map_congr_left
    intro c hc
    simp only [Function.comp_apply, hu c hc]
    rfl
  · intro u hmem
    obtain ⟨c, hc, rfl⟩ := List.mem_map.mp hmem
    rw [hu c hc]
    exact hd c hc

/-- The pattern `/^[1-9][0-9]*$/`. -/
def matchesPositiveDecimal : JsString → Bool
  | [] => false
  | u :: rest => 0x31 ≤ u && u ≤ 0x39 && rest.all fun v => 0x30 ≤ v && v ≤ 0x39

/-- The pattern `/^(0|[1-9][0-9]*)$/`. -/
def matchesDecimal (s : JsString) : Bool := s == [0x30] || matchesPositiveDecimal s

theorem value_isSome (u : UInt16) :
    (DigitAlphabet.value u).isSome = (decide (0x30 ≤ u) && decide (u ≤ 0x39)) := by
  change (asciiValue u.toNat).isSome = _
  simp only [asciiValue, UInt16.le_iff_toNat_le]
  by_cases h : 48 ≤ u.toNat ∧ u.toNat ≤ 57
  · simp [h]
  · rw [if_neg h]
    simp only [Option.isSome_none, Eq.comm (a := false), Bool.and_eq_false_iff,
      decide_eq_false_iff_not]
    simp
    omega

theorem isDigits_eq_all (s : JsString) :
    isDigits s = s.all fun v => 0x30 ≤ v && v ≤ 0x39 := by
  simp only [isDigits, value_isSome]

theorem value_eq_zero (u : UInt16) : DigitAlphabet.value u = some 0 ↔ u = 0x30 := by
  constructor
  · intro h
    rw [← (DigitAlphabet.ofChar_value u 0 h).2]
    rfl
  · rintro rfl
    rfl

theorem first_digit (u : UInt16) : (decide (0x31 ≤ u) && decide (u ≤ 0x39)) = true ↔
    (DigitAlphabet.value u).isSome = true ∧ DigitAlphabet.value u ≠ some 0 := by
  rw [value_isSome, Ne, value_eq_zero]
  simp only [Bool.and_eq_true, decide_eq_true_eq, UInt16.le_iff_toNat_le, ← UInt16.toNat_inj]
  simp
  omega

theorem matchesPositiveDecimal_iff (s : JsString) :
    matchesPositiveDecimal s = true ↔ isNumeral s = true ∧ natOf s ≠ 0 := by
  cases s with
  | nil => simp [matchesPositiveDecimal, isNumeral]
  | cons u s =>
    simp only [matchesPositiveDecimal, ← isDigits_eq_all]
    rw [Bool.and_eq_true, first_digit]
    constructor
    · rintro ⟨⟨hu, hz⟩, hs⟩
      refine ⟨by simp [isNumeral, hu, hs, hz], ?_⟩
      obtain ⟨d, hd⟩ := Option.isSome_iff_exists.mp hu
      have hpos : d ≠ 0 := fun h0 => hz (by rw [hd, h0])
      rw [natOf_cons, hd]
      have hp : 0 < 10 ^ s.length := Nat.pow_pos (by decide)
      have hm := Nat.mul_le_mul_right (10 ^ s.length) (Nat.one_le_iff_ne_zero.mpr hpos)
      simp only [Option.getD_some]
      omega
    · rintro ⟨hn, hv⟩
      simp only [isNumeral, isDigits_cons, Bool.and_eq_true, Bool.or_eq_true, List.isEmpty_iff,
        bne_iff_ne] at hn
      obtain ⟨⟨hu, hs⟩, hz⟩ := hn
      refine ⟨⟨hu, ?_⟩, hs⟩
      rcases hz with rfl | hz
      · intro h0
        exact hv (by simp [natOf, h0])
      · exact hz

theorem matchesDecimal_iff (s : JsString) : matchesDecimal s = true ↔ isNumeral s = true := by
  rw [matchesDecimal, Bool.or_eq_true, matchesPositiveDecimal_iff, beq_iff_eq]
  constructor
  · rintro (rfl | h)
    · decide
    · exact h.1
  · intro h
    by_cases h0 : natOf s = 0
    · left
      rw [← numeral_natOf h, h0]
      decide
    · exact Or.inr ⟨h, h0⟩

@[simp] theorem matchesDecimal_numeral (n : Nat) : matchesDecimal (numeral n) = true :=
  (matchesDecimal_iff _).mpr (isNumeral_numeral n)

/-- The pattern `/^(0|[1-9][0-9]{0,19})$/`. -/
def matchesTokenText (s : JsString) : Bool :=
  s == [0x30] || (matchesPositiveDecimal s && decide (s.length ≤ 20))

theorem matchesTokenText_iff (s : JsString) :
    matchesTokenText s = true ↔ isNumeral s = true ∧ s.length ≤ 20 := by
  rw [matchesTokenText, Bool.or_eq_true, Bool.and_eq_true, beq_iff_eq, decide_eq_true_eq,
    ← matchesDecimal_iff, matchesDecimal, Bool.or_eq_true, beq_iff_eq]
  constructor
  · rintro (rfl | h)
    · exact ⟨Or.inl rfl, by decide⟩
    · exact ⟨Or.inr h.1, h.2⟩
  · rintro ⟨h0 | h, hlen⟩
    · exact Or.inl h0
    · exact Or.inr ⟨h, hlen⟩

theorem matchesTokenText_numeral {n : Nat} (h : n < 2 ^ 64) :
    matchesTokenText (numeral n) = true :=
  (matchesTokenText_iff _).mpr ⟨isNumeral_numeral n, length_numeral_le (by decide) (by omega)⟩

/-- The pattern `/^[0-9a-f]{64}$/`. -/
def matchesLowerSha256 (s : JsString) : Bool :=
  s.length == 64 && s.all fun u => (0x30 ≤ u && u ≤ 0x39) || (0x61 ≤ u && u ≤ 0x66)

end JsString

end OresLocks
