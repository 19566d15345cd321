import Mathlib.Tactic.Common
import Mathlib.Data.List.Induction
import Mathlib.Algebra.Order.Ring.Nat
import Mathlib.Tactic.Ring

/-!
# Shortest decimal numerals over an arbitrary alphabet

A text is a list of letters. `DigitAlphabet` says which ten letters are the
digits; bytes, UTF-16 code units and Unicode characters are instances. The
numeral of a number is unique among the digit texts without a leading zero, and
length followed by the lexicographic order is the numeric order.
-/

namespace Shared.Numeral

set_option autoImplicit false

universe u

class DigitAlphabet (α : Type u) where
  ofChar : Char → α
  value : α → Option Nat
  value_ofChar : ∀ d, d < 10 → value (ofChar d.digitChar) = some d
  ofChar_value : ∀ a d, value a = some d → d < 10 ∧ ofChar d.digitChar = a

variable {α : Type u} [DigitAlphabet α]

open DigitAlphabet

def isDigits (s : List α) : Bool := s.all fun a => (value a).isSome

/-- Positional value, read from the most significant letter. -/
def natOf (s : List α) : Nat := s.foldl (fun n a => 10 * n + (value a).getD 0) 0

def numeral (n : Nat) : List α := (Nat.toDigits 10 n).map ofChar

/-- A nonempty digit text that starts with a zero only when it is that zero. -/
def isNumeral : List α → Bool
  | [] => false
  | a :: s => isDigits (a :: s) && (s.isEmpty || value a != some 0)

@[simp] theorem isDigits_nil : isDigits ([] : List α) = true := rfl

@[simp] theorem isDigits_cons (a : α) (s : List α) :
    isDigits (a :: s) = ((value a).isSome && isDigits s) := by
  simp [isDigits]

@[simp] theorem isDigits_append (s t : List α) :
    isDigits (s ++ t) = (isDigits s && isDigits t) := by
  simp [isDigits]

@[simp] theorem natOf_nil : natOf ([] : List α) = 0 := rfl

@[simp] theorem natOf_concat (s : List α) (a : α) :
    natOf (s ++ [a]) = 10 * natOf s + (value a).getD 0 := by
  simp [natOf]

theorem value_lt {a : α} {d : Nat} (h : value a = some d) : d < 10 := (ofChar_value a d h).1

theorem getD_value_lt (a : α) : (value a).getD 0 < 10 := by
  cases h : value a with
  | none => simp
  | some d => simpa using value_lt h

theorem natOf_cons (a : α) (s : List α) :
    natOf (a :: s) = (value a).getD 0 * 10 ^ s.length + natOf s := by
  induction s using List.reverseRecOn with
  | nil => simp [natOf]
  | append_singleton s b ih =>
    rw [← List.cons_append, natOf_concat, natOf_concat, ih]
    simp only [List.length_append, List.length_singleton, pow_succ]
    ring

theorem natOf_lt (s : List α) : natOf s < 10 ^ s.length := by
  induction s with
  | nil => simp
  | cons a s ih =>
    have hd := getD_value_lt a
    have hm : (value a).getD 0 * 10 ^ s.length ≤ 9 * 10 ^ s.length :=
      Nat.mul_le_mul_right _ (by omega)
    rw [natOf_cons, List.length_cons, pow_succ]
    omega

theorem le_natOf {s : List α} (h : isNumeral s = true) (h2 : 2 ≤ s.length) :
    10 ^ (s.length - 1) ≤ natOf s := by
  cases s with
  | nil => simp at h2
  | cons a s =>
    simp only [isNumeral, isDigits_cons, Bool.and_eq_true, Bool.or_eq_true, List.isEmpty_iff,
      bne_iff_ne] at h
    obtain ⟨⟨ha, _⟩, hz⟩ := h
    obtain ⟨d, hd⟩ := Option.isSome_iff_exists.mp ha
    have hpos : 1 ≤ d := by
      rcases hz with rfl | hz
      · simp at h2
      · rw [hd] at hz
        exact Nat.one_le_iff_ne_zero.mpr fun h0 => hz (by rw [h0])
    rw [natOf_cons, hd]
    simp only [List.length_cons, Nat.add_sub_cancel, Option.getD_some]
    have hm : 1 * 10 ^ s.length ≤ d * 10 ^ s.length := Nat.mul_le_mul_right _ hpos
    omega

theorem value_digitChar {d : Nat} (h : d < 10) : value (ofChar (α := α) d.digitChar) = some d :=
  value_ofChar d h

theorem numeral_of_lt {n : Nat} (h : n < 10) : numeral (α := α) n = [ofChar n.digitChar] := by
  simp [numeral, Nat.toDigits_of_lt_base h]

theorem numeral_of_le {n : Nat} (h : 10 ≤ n) :
    numeral (α := α) n = numeral (n / 10) ++ [ofChar (n % 10).digitChar] := by
  simp [numeral, Nat.toDigits_of_base_le (by decide : 1 < 10) h]

@[simp] theorem natOf_numeral (n : Nat) : natOf (numeral (α := α) n) = n := by
  induction n using Nat.strongRecOn with
  | ind n ih =>
    by_cases h : n < 10
    · rw [numeral_of_lt h]
      simp [natOf, value_digitChar h]
    · rw [numeral_of_le (by omega), natOf_concat, ih (n / 10) (by omega),
        value_digitChar (Nat.mod_lt n (by decide))]
      simp only [Option.getD_some]
      omega

theorem numeral_injective : Function.Injective (numeral (α := α)) :=
  Function.LeftInverse.injective natOf_numeral

@[simp] theorem numeral_inj {m n : Nat} : numeral (α := α) m = numeral n ↔ m = n :=
  numeral_injective.eq_iff

theorem numeral_ne_nil (n : Nat) : numeral (α := α) n ≠ [] := by
  by_cases h : n < 10
  · simp [numeral_of_lt h]
  · simp [numeral_of_le (by omega : 10 ≤ n)]

theorem isDigits_numeral (n : Nat) : isDigits (numeral (α := α) n) = true := by
  induction n using Nat.strongRecOn with
  | ind n ih =>
    by_cases h : n < 10
    · simp [numeral_of_lt h, value_digitChar h]
    · have hd := value_digitChar (α := α) (Nat.mod_lt n (by decide : 0 < 10))
      simp [numeral_of_le (by omega : 10 ≤ n), ih (n / 10) (by omega), hd]

theorem head_numeral_ne_zero {n : Nat} (h : n ≠ 0) :
    ∃ a s, numeral (α := α) n = a :: s ∧ value a ≠ some 0 := by
  induction n using Nat.strongRecOn with
  | ind n ih =>
    by_cases hn : n < 10
    · exact ⟨_, [], numeral_of_lt hn, by rw [value_digitChar hn]; simpa using h⟩
    · obtain ⟨a, s, hs, ha⟩ := ih (n / 10) (by omega) (by omega)
      exact ⟨a, s ++ [ofChar (n % 10).digitChar], by rw [numeral_of_le (by omega), hs]; rfl, ha⟩

theorem isNumeral_numeral (n : Nat) : isNumeral (numeral (α := α) n) = true := by
  by_cases h : n = 0
  · subst n
    rw [numeral_of_lt (by decide)]
    simp [isNumeral, value_digitChar]
  · obtain ⟨a, s, hs, ha⟩ := head_numeral_ne_zero (α := α) h
    have hd := isDigits_numeral (α := α) n
    rw [hs] at hd ⊢
    simp [isNumeral, hd, ha]

/-- A number below a power of ten has at most as many digits. -/
theorem length_numeral_le {n k : Nat} (hk : 1 ≤ k) (h : n < 10 ^ k) :
    (numeral (α := α) n).length ≤ k := by
  by_contra hlong
  have hlow := le_natOf (isNumeral_numeral (α := α) n) (by omega)
  have hpow : 10 ^ k ≤ 10 ^ ((numeral (α := α) n).length - 1) :=
    Nat.pow_le_pow_right (by decide) (by omega)
  rw [natOf_numeral] at hlow
  omega

theorem isDigits_of_isNumeral {s : List α} (h : isNumeral s = true) : isDigits s = true := by
  cases s with
  | nil => simp [isNumeral] at h
  | cons a s => exact (Bool.and_eq_true_iff.mp h).1

theorem ofChar_getD_value {a : α} (h : (value a).isSome = true) :
    ofChar ((value a).getD 0).digitChar = a := by
  obtain ⟨d, hd⟩ := Option.isSome_iff_exists.mp h
  rw [hd]
  exact (ofChar_value a d hd).2

/-- Removing the last letter of a numeral of two or more letters leaves a numeral
of a positive number. -/
theorem isNumeral_dropLast {s : List α} {a : α} (hs : s ≠ [])
    (h : isNumeral (s ++ [a]) = true) : isNumeral s = true ∧ 1 ≤ natOf s := by
  cases s with
  | nil => exact absurd rfl hs
  | cons b s =>
    simp only [List.cons_append, isNumeral, isDigits_cons, isDigits_append, Bool.and_eq_true,
      Bool.or_eq_true, List.isEmpty_iff, bne_iff_ne, List.append_eq_nil_iff, List.cons_ne_nil,
      and_false, false_or] at h
    obtain ⟨⟨hb, hds, _⟩, hz⟩ := h
    have hn : isNumeral (b :: s) = true := by simp [isNumeral, hb, hds, hz]
    refine ⟨hn, ?_⟩
    obtain ⟨d, hd⟩ := Option.isSome_iff_exists.mp hb
    have hpos : 1 ≤ d := Nat.one_le_iff_ne_zero.mpr fun h0 => hz (by rw [hd, h0])
    rw [natOf_cons, hd]
    have hp : 0 < 10 ^ s.length := Nat.pow_pos (by decide)
    have hm := Nat.mul_le_mul_right (10 ^ s.length) hpos
    simp only [Option.getD_some]
    omega

/-- A digit text without a leading zero is the numeral of its value. -/
theorem numeral_natOf {s : List α} (h : isNumeral s = true) : numeral (natOf s) = s := by
  induction s using List.reverseRecOn with
  | nil => simp [isNumeral] at h
  | append_singleton s a ih =>
    have hd := isDigits_of_isNumeral h
    simp only [isDigits_append, isDigits_cons, isDigits_nil, Bool.and_true, Bool.and_eq_true] at hd
    have ha := getD_value_lt a
    by_cases hs : s = []
    · subst s
      simp only [List.nil_append, natOf, List.foldl_cons, List.foldl_nil, Nat.mul_zero,
        Nat.zero_add]
      rw [numeral_of_lt ha, ofChar_getD_value hd.2]
    · obtain ⟨hn, hpos⟩ := isNumeral_dropLast hs h
      rw [natOf_concat, numeral_of_le (by omega)]
      have hq : (10 * natOf s + (value a).getD 0) / 10 = natOf s := by omega
      have hr : (10 * natOf s + (value a).getD 0) % 10 = (value a).getD 0 := by omega
      rw [hq, hr, ih hn, ofChar_getD_value hd.2]

theorem isNumeral_iff (s : List α) : isNumeral s = true ↔ ∃ n, s = numeral n :=
  ⟨fun h => ⟨natOf s, (numeral_natOf h).symm⟩, by rintro ⟨n, rfl⟩; exact isNumeral_numeral n⟩

/-- A digit text of a number that no other digit text of it is shorter than. -/
structure IsShortest (n : Nat) (s : List α) : Prop where
  digits : isDigits s = true
  nonempty : s ≠ []
  value : natOf s = n
  shortest : ∀ t : List α, isDigits t = true → t ≠ [] → natOf t = n → s.length ≤ t.length

theorem isShortest_iff (n : Nat) (s : List α) : IsShortest n s ↔ s = numeral n := by
  constructor
  · intro h
    have hn : isNumeral s = true := by
      obtain ⟨a, t, rfl⟩ := List.exists_cons_of_ne_nil h.nonempty
      simp only [isNumeral, h.digits, Bool.true_and, Bool.or_eq_true, List.isEmpty_iff,
        bne_iff_ne]
      by_contra hzero
      push Not at hzero
      -- without its leading zero the text would be shorter
      have hvalue : natOf t = n := by
        have := h.value
        rw [natOf_cons, hzero.2] at this
        simpa using this
      have hdigits := h.digits
      rw [isDigits_cons, Bool.and_eq_true] at hdigits
      have hlen := h.shortest t hdigits.2 hzero.1 hvalue
      simp at hlen
    rw [← h.value, numeral_natOf hn]
  · rintro rfl
    refine ⟨isDigits_numeral n, numeral_ne_nil n, natOf_numeral n, ?_⟩
    intro t _ hne hvalue
    have hlt := natOf_lt t
    rw [hvalue] at hlt
    exact length_numeral_le (List.length_pos_iff.mpr hne) hlt

section Order

/-- A longer numeral is a larger number. -/
theorem natOf_lt_of_length_lt {s t : List α} (hs : isNumeral s = true) (ht : isNumeral t = true)
    (h : s.length < t.length) : natOf s < natOf t := by
  have hs1 : 1 ≤ s.length := by
    cases s with
    | nil => simp [isNumeral] at hs
    | cons a s => simp
  have hlo := le_natOf ht (by omega)
  have hhi := natOf_lt s
  have hp : 10 ^ s.length ≤ 10 ^ (t.length - 1) := Nat.pow_le_pow_right (by decide) (by omega)
  omega

variable [LT α]

/-- Between digit texts of one length the lexicographic order is numeric. -/
theorem lex_iff_natOf_lt
    (digits_lt : ∀ (a b : α) (d e : Nat), value a = some d → value b = some e → (a < b ↔ d < e))
    {s t : List α} (hs : isDigits s = true) (ht : isDigits t = true)
    (hl : s.length = t.length) : s < t ↔ natOf s < natOf t := by
  induction s generalizing t with
  | nil =>
    have h0 : t = [] := List.eq_nil_of_length_eq_zero (by simpa using hl.symm)
    subst t
    simp
  | cons a s ih =>
    cases t with
    | nil => simp at hl
    | cons b t =>
      simp only [isDigits_cons, Bool.and_eq_true] at hs ht
      obtain ⟨d, hd⟩ := Option.isSome_iff_exists.mp hs.1
      obtain ⟨e, he⟩ := Option.isSome_iff_exists.mp ht.1
      have hlen : s.length = t.length := by simpa using hl
      have hab := digits_lt a b d e hd he
      have hst := natOf_lt s
      have htt := natOf_lt t
      rw [List.cons_lt_cons_iff, natOf_cons, natOf_cons, hd, he, hab,
        ih hs.2 ht.2 hlen]
      simp only [Option.getD_some]
      rw [hlen] at hst ⊢
      rcases Nat.lt_trichotomy d e with hlt | heq | hgt
      · have hm := Nat.mul_le_mul_right (10 ^ t.length) hlt
        rw [Nat.succ_mul] at hm
        exact ⟨fun _ => by omega, fun _ => Or.inl hlt⟩
      · subst e
        have hba : a = b := by
          rw [← (ofChar_value a d hd).2, ← (ofChar_value b d he).2]
        simp [hba]
      · have hm := Nat.mul_le_mul_right (10 ^ t.length) hgt
        rw [Nat.succ_mul] at hm
        constructor
        · rintro (h | ⟨h, _⟩)
          · omega
          · subst h
            rw [hd] at he
            cases he
            omega
        · intro h
          omega

end Order

section Reading

/-- Reads the digits after a value already read; `none` at a letter that is no digit, and
as soon as the value is not below the bound. -/
def readDigits (bound : Nat) : Nat → List α → Option Nat
  | n, [] => some n
  | n, a :: s =>
    match value a with
    | none => none
    | some d => if 10 * n + d < bound then readDigits bound (10 * n + d) s else none

/-- The value only grows while it is read, so the check at each digit is one check of the
whole value. -/
theorem readDigits_eq_some {bound n m : Nat} {s : List α} (hn : n < bound) :
    readDigits bound n s = some m ↔
      isDigits s = true ∧ m = n * 10 ^ s.length + natOf s ∧ m < bound := by
  induction s generalizing n with
  | nil =>
    simp only [readDigits, Option.some.injEq, isDigits_nil, List.length_nil, pow_zero, Nat.mul_one,
      natOf_nil, Nat.add_zero, true_and]
    constructor
    · rintro rfl
      exact ⟨rfl, hn⟩
    · intro h
      exact h.1.symm
  | cons a s ih =>
    cases ha : value a with
    | none => simp [readDigits, ha]
    | some d =>
      have hvalue : n * 10 ^ (a :: s).length + natOf (a :: s) =
          (10 * n + d) * 10 ^ s.length + natOf s := by
        rw [natOf_cons, ha, List.length_cons, pow_succ]
        simp only [Option.getD_some]
        ring
      have hle : 10 * n + d ≤ (10 * n + d) * 10 ^ s.length + natOf s := by
        have hp : 0 < 10 ^ s.length := Nat.pow_pos (by decide)
        have hm := Nat.le_mul_of_pos_right (10 * n + d) hp
        omega
      simp only [readDigits, ha, isDigits_cons, Option.isSome_some, Bool.true_and, hvalue]
      by_cases hb : 10 * n + d < bound
      · rw [if_pos hb, ih hb]
      · rw [if_neg hb]
        constructor
        · intro h
          cases h
        · rintro ⟨_, rfl, hlt⟩
          omega

theorem readDigits_zero {bound m : Nat} {s : List α} (hb : 0 < bound) :
    readDigits bound 0 s = some m ↔ isDigits s = true ∧ m = natOf s ∧ m < bound := by
  rw [readDigits_eq_some hb, Nat.zero_mul, Nat.zero_add]

/-- A text is the numeral that its own value prints as. -/
theorem readDigits_numeral {bound m : Nat} (h : m < bound) :
    readDigits bound 0 (numeral m : List α) = some m :=
  (readDigits_zero (by omega)).mpr ⟨isDigits_numeral m, (natOf_numeral m).symm, h⟩

end Reading

section Instances

/-- Digit letters of an alphabet whose letters are numbered like ASCII. -/
def asciiValue (code : Nat) : Option Nat :=
  if 48 ≤ code ∧ code ≤ 57 then some (code - 48) else none

theorem asciiValue_digitChar {d : Nat} (h : d < 10) : asciiValue d.digitChar.toNat = some d := by
  rw [Nat.toNat_digitChar_of_lt_ten h, asciiValue, if_pos (by omega)]
  simp

theorem asciiValue_eq_some {code d : Nat} (h : asciiValue code = some d) :
    d < 10 ∧ d.digitChar.toNat = code := by
  unfold asciiValue at h
  split at h
  · cases h
    rw [Nat.toNat_digitChar_of_lt_ten (by omega)]
    exact ⟨by omega, by omega⟩
  · simp at h

theorem digitChar_toNat_lt {d : Nat} (h : d < 10) : d.digitChar.toNat < 128 := by
  rw [Nat.toNat_digitChar_of_lt_ten h]
  omega

instance : DigitAlphabet UInt8 where
  ofChar c := UInt8.ofNat c.toNat
  value a := asciiValue a.toNat
  value_ofChar d h := by
    have hc := digitChar_toNat_lt h
    rw [UInt8.toNat_ofNat_of_lt' (by simp [UInt8.size]; omega)]
    exact asciiValue_digitChar h
  ofChar_value a d h := by
    obtain ⟨hd, hc⟩ := asciiValue_eq_some h
    exact ⟨hd, by rw [hc]; simp⟩

instance : DigitAlphabet UInt16 where
  ofChar c := UInt16.ofNat c.toNat
  value a := asciiValue a.toNat
  value_ofChar d h := by
    have hc := digitChar_toNat_lt h
    rw [UInt16.toNat_ofNat_of_lt' (by simp [UInt16.size]; omega)]
    exact asciiValue_digitChar h
  ofChar_value a d h := by
    obtain ⟨hd, hc⟩ := asciiValue_eq_some h
    exact ⟨hd, by rw [hc]; simp⟩

theorem byte_lt_iff (a b : UInt8) (d e : Nat) (ha : value a = some d) (hb : value b = some e) :
    a < b ↔ d < e := by
  obtain ⟨hd, ha'⟩ := asciiValue_eq_some ha
  obtain ⟨he, hb'⟩ := asciiValue_eq_some hb
  rw [UInt8.lt_iff_toNat_lt, ← ha', ← hb', Nat.toNat_digitChar_of_lt_ten hd,
    Nat.toNat_digitChar_of_lt_ten he]
  omega

theorem value_isSome_byte (b : UInt8) :
    (value b).isSome = (decide (0x30 ≤ b) && decide (b ≤ 0x39)) := by
  change (asciiValue b.toNat).isSome = _
  simp only [asciiValue, UInt8.le_iff_toNat_le]
  by_cases h : 48 ≤ b.toNat ∧ b.toNat ≤ 57
  · simp [h]
  · rw [if_neg h]
    simp only [Option.isSome_none, Eq.comm (a := false), Bool.and_eq_false_iff,
      decide_eq_false_iff_not]
    simp
    omega

theorem value_eq_zero_byte (b : UInt8) : value b = some 0 ↔ b = 0x30 := by
  constructor
  · intro h
    rw [← (ofChar_value b 0 h).2]
    rfl
  · intro h
    subst h
    rfl

theorem isDigits_bytes (s : List UInt8) :
    isDigits s = s.all fun byte => 0x30 ≤ byte && byte ≤ 0x39 := by
  simp only [isDigits, value_isSome_byte]

end Instances

end Shared.Numeral
