import OresLocks.RedisLease

/-!
# The decimal counter of the Redis lease scripts

On a numeral the digit loop is the successor, and the two length and text
comparisons are the comparison with the largest exact JSON integer.
-/

namespace OresLocks.RedisLease

set_option autoImplicit false

open Shared.Numeral Shared.Utf8 Redis

def digit (d : Nat) : UInt8 := UInt8.ofNat (48 + d)

theorem toNat_digit {d : Nat} (h : d < 10) : (digit d).toNat = 48 + d :=
  UInt8.toNat_ofNat_of_lt' (by simp [UInt8.size]; omega)

theorem ofChar_digitChar {d : Nat} (h : d < 10) :
    (DigitAlphabet.ofChar d.digitChar : UInt8) = digit d := by
  change UInt8.ofNat d.digitChar.toNat = UInt8.ofNat (48 + d)
  rw [Nat.toNat_digitChar_of_lt_ten h]

theorem numeral_digit {n : Nat} (h : n < 10) : (numeral n : Bytes) = [digit n] := by
  rw [numeral_of_lt h, ofChar_digitChar h]

theorem numeral_concat {n : Nat} (h : 10 ≤ n) :
    (numeral n : Bytes) = numeral (n / 10) ++ [digit (n % 10)] := by
  rw [numeral_of_le h, ofChar_digitChar (Nat.mod_lt n (by decide))]

/-- One round of the loop on a digit. -/
theorem addCarry_digit {d carry : Nat} (h : d < 10) (rest : Bytes) :
    addCarry (digit d :: rest) carry =
      if 10 ≤ d + carry then digit (d + carry - 10) :: addCarry rest 1
      else digit (d + carry) :: addCarry rest 0 := by
  have hd : (digit d).toNat - 48 = d := by
    rw [toNat_digit h]
    omega
  simp only [addCarry, hd]
  rfl

/-- Without a carry the loop copies the digits. -/
theorem addCarry_zero (n : Nat) : addCarry (numeral n).reverse 0 = (numeral n).reverse := by
  induction n using Nat.strongRecOn with
  | ind n ih =>
    rcases Nat.lt_or_ge n 10 with h | h
    · rw [numeral_digit h, List.reverse_singleton, addCarry_digit h, if_neg (by omega)]
      rfl
    · have hmod := Nat.mod_lt n (by decide : 0 < 10)
      rw [numeral_concat h, List.reverse_append, List.reverse_singleton, List.singleton_append,
        addCarry_digit hmod, if_neg (by omega), ih (n / 10) (by omega)]
      rfl

theorem addCarry_one (n : Nat) : addCarry (numeral n).reverse 1 = (numeral (n + 1)).reverse := by
  induction n using Nat.strongRecOn with
  | ind n ih =>
    rcases Nat.lt_or_ge n 10 with h | h
    · rw [numeral_digit h, List.reverse_singleton, addCarry_digit h]
      split
      · have hnine : n = 9 := by omega
        subst hnine
        decide
      · rw [numeral_digit (by omega)]
        rfl
    · have hmod := Nat.mod_lt n (by decide : 0 < 10)
      rw [numeral_concat h, List.reverse_append, List.reverse_singleton, List.singleton_append,
        addCarry_digit hmod]
      split
      · have hdiv : (n + 1) / 10 = n / 10 + 1 := by omega
        have hlast : n % 10 + 1 - 10 = (n + 1) % 10 := by omega
        rw [ih (n / 10) (by omega), numeral_concat (by omega : 10 ≤ n + 1), List.reverse_append,
          List.reverse_singleton, hdiv, hlast]
        rfl
      · have hdiv : (n + 1) / 10 = n / 10 := by omega
        have hlast : n % 10 + 1 = (n + 1) % 10 := by omega
        rw [addCarry_zero, numeral_concat (by omega : 10 ≤ n + 1), List.reverse_append,
          List.reverse_singleton, hdiv, hlast]
        rfl

theorem stripZeros_numeral (n : Nat) : stripZeros (numeral n) = numeral n := by
  rcases Nat.eq_zero_or_pos n with rfl | hpos
  · decide
  · obtain ⟨byte, rest, hn, hvalue⟩ :=
      head_numeral_ne_zero (α := UInt8) (Nat.pos_iff_ne_zero.mp hpos)
    have hbyte : (byte == 0x30) = false := by
      rw [beq_eq_false_iff_ne]
      intro hzero
      rw [hzero] at hvalue
      exact hvalue rfl
    rw [hn]
    simp [stripZeros, hbyte]

/-- The digit loop of `acquire.lua` is the successor of the counter. -/
theorem nextToken_numeral (n : Nat) : nextToken (numeral n) = numeral (n + 1) := by
  rw [nextToken, stripZeros_numeral, addCarry_one, List.reverse_reverse]

theorem maxSafeJsonInteger_eq : maxSafeJsonInteger = numeral 9007199254740991 := by decide

theorem isExhausted_numeral (n : Nat) :
    isExhausted (numeral n) = true ↔ 9007199254740991 < n := by
  unfold isExhausted
  rw [Bool.or_eq_true, Bool.and_eq_true, decide_eq_true_eq, decide_eq_true_eq, beq_iff_eq]
  have hlex : (numeral n : Bytes).length = 16 →
      (maxSafeJsonInteger < numeral n ↔ 9007199254740991 < n) := by
    intro hlen
    have hsame : (numeral 9007199254740991 : Bytes).length = (numeral n : Bytes).length := by
      rw [hlen]
      decide
    rw [maxSafeJsonInteger_eq, lex_iff_natOf_lt byte_lt_iff (isDigits_numeral _)
      (isDigits_numeral _) hsame, natOf_numeral, natOf_numeral]
  constructor
  · rintro (hlong | ⟨hlen, hlt⟩)
    · have hlow := le_natOf (isNumeral_numeral (α := UInt8) n) (by omega)
      have hpow : 10 ^ 16 ≤ 10 ^ ((numeral n : Bytes).length - 1) :=
        Nat.pow_le_pow_right (by decide) (by omega)
      rw [natOf_numeral] at hlow
      omega
    · exact (hlex hlen).mp hlt
  · intro hlt
    rcases Nat.lt_trichotomy (numeral n : Bytes).length 16 with hshort | hlen | hlong
    · have hhigh := natOf_lt (numeral n : Bytes)
      have hpow : 10 ^ (numeral n : Bytes).length ≤ 10 ^ 15 :=
        Nat.pow_le_pow_right (by decide) (by omega)
      rw [natOf_numeral] at hhigh
      omega
    · exact Or.inr ⟨hlen, (hlex hlen).mpr hlt⟩
    · exact Or.inl hlong

end OresLocks.RedisLease
