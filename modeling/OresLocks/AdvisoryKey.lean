import OresLocks.JsValue
import OresLocks.Shared.Utf8
import Mathlib.Data.Int.Bitwise

/-!
# One advisory key in three integer arithmetics

FNV-1a over the UTF-8 bytes of a lock key. Rust hashes in wrapping 64-bit words, Gleam in
integers of any size that are masked after every step, Dart in a `BigInt`.
-/

namespace OresLocks.AdvisoryKey

set_option autoImplicit false

namespace Rust

def fnvOffsetBasis : UInt64 := 0xcbf29ce484222325

def fnvPrime : UInt64 := 0x00000100000001b3

def fnv1a64 (key : Bytes) : UInt64 :=
  key.foldl (fun hash byte => (hash ^^^ byte.toUInt64) * fnvPrime) fnvOffsetBasis

/-- `as i64` keeps the bits. -/
def advisoryKey (key : Bytes) : Int64 := (fnv1a64 key).toInt64

end Rust

namespace Gleam

def fnvOffsetBasis : Int := 14695981039346656037

def fnvPrime : Int := 1099511628211

def mask64 : Int := 18446744073709551615

def two63 : Int := 9223372036854775808

def two64 : Int := 18446744073709551616

def foldBytes : Bytes → Int → Int
  | byte :: rest, hash => foldBytes rest (Int.land (Int.xor hash byte.toNat * fnvPrime) mask64)
  | [], hash => hash

def fnv1a64 (key : Bytes) : Int := foldBytes key fnvOffsetBasis

def advisoryKey (key : Bytes) : Int :=
  let unsigned := fnv1a64 key
  if two63 ≤ unsigned then unsigned - two64 else unsigned

end Gleam

namespace Dart

def fnvOffsetBasis : Int := 14695981039346656037

def fnvPrime : Int := 1099511628211

def mask64 : Int := 2 ^ 64 - 1

/-- `BigInt.toSigned`: the low bits, the highest of them as the sign. -/
def toSigned (value : Int) (width : Nat) : Int :=
  let signMask := 2 ^ (width - 1)
  Int.land value (signMask - 1) - Int.land value signMask

def fnv1a64 (key : Bytes) : Int :=
  key.foldl (fun hash byte =>
    let hash := Int.xor hash byte.toNat
    Int.land (hash * fnvPrime) mask64) fnvOffsetBasis

def advisoryKey (key : Bytes) : Int := toSigned (fnv1a64 key) 64

end Dart

/-! ## The hashes -/

/-- The masked step on the value of a word is the wrapping step. -/
theorem masked_step (hash : UInt64) (byte : UInt8) :
    Int.land (Int.xor hash.toNat byte.toNat * 1099511628211) 18446744073709551615 =
      ((hash ^^^ byte.toUInt64) * Rust.fnvPrime).toNat := by
  have hprime : Rust.fnvPrime.toNat = 1099511628211 := rfl
  have hxor : (hash ^^^ byte.toUInt64).toNat = hash.toNat ^^^ byte.toNat := by
    rw [UInt64.toNat_xor, UInt8.toNat_toUInt64]
  change Int.ofNat (((hash.toNat ^^^ byte.toNat) * 1099511628211) &&& (2 ^ 64 - 1)) = _
  rw [Nat.and_two_pow_sub_one_eq_mod, UInt64.toNat_mul, hxor, hprime]
  rfl

/-- The masked hash of a byte string is the value of the wrapping one. -/
theorem foldl_masked (key : Bytes) (hash : UInt64) :
    key.foldl (fun hash byte =>
      Int.land (Int.xor hash byte.toNat * 1099511628211) 18446744073709551615) (hash.toNat : Int) =
      (key.foldl (fun hash byte => (hash ^^^ byte.toUInt64) * Rust.fnvPrime) hash).toNat := by
  induction key generalizing hash with
  | nil => rfl
  | cons byte rest ih => rw [List.foldl_cons, List.foldl_cons, masked_step, ih]

theorem dart_fnv1a64 (key : Bytes) : Dart.fnv1a64 key = (Rust.fnv1a64 key).toNat :=
  foldl_masked key Rust.fnvOffsetBasis

theorem gleam_foldBytes (key : Bytes) (hash : Int) :
    Gleam.foldBytes key hash = key.foldl (fun hash byte =>
      Int.land (Int.xor hash byte.toNat * 1099511628211) 18446744073709551615) hash := by
  induction key generalizing hash with
  | nil => rfl
  | cons byte rest ih =>
    rw [List.foldl_cons]
    exact ih _

theorem gleam_fnv1a64 (key : Bytes) : Gleam.fnv1a64 key = (Rust.fnv1a64 key).toNat := by
  rw [Gleam.fnv1a64, gleam_foldBytes]
  exact foldl_masked key Rust.fnvOffsetBasis

/-! ## The signed reading -/

/-- The signed integer with the bits of the word. -/
theorem toInt_toInt64 (word : UInt64) :
    word.toInt64.toInt =
      if 2 ^ 63 ≤ word.toNat then (word.toNat : Int) - 2 ^ 64 else (word.toNat : Int) := by
  have hcond := BitVec.toInt_eq_toNat_cond word.toBitVec
  change word.toBitVec.toInt = _
  rw [hcond, UInt64.toNat_toBitVec]
  split
  · rw [if_neg (by omega)]
  · rw [if_pos (by omega)]
    rfl

theorem toSigned_word (word : UInt64) : Dart.toSigned word.toNat 64 = word.toInt64.toInt := by
  have hlt := word.toNat_lt
  have hlow : Int.land word.toNat (2 ^ 63 - 1) = ((word.toNat % 2 ^ 63 : Nat) : Int) := by
    rw [← Nat.and_two_pow_sub_one_eq_mod]
    rfl
  have hhigh : Int.land word.toNat (2 ^ 63) = ((word.toNat / 2 ^ 63 % 2 * 2 ^ 63 : Nat) : Int) := by
    have hbit := Nat.and_two_pow word.toNat 63
    rw [Nat.toNat_testBit] at hbit
    rw [← hbit]
    rfl
  rw [toInt_toInt64]
  unfold Dart.toSigned
  dsimp only
  rw [hlow, hhigh]
  split <;> omega

theorem gleam_advisoryKey (key : Bytes) :
    Gleam.advisoryKey key = (Rust.advisoryKey key).toInt := by
  have h63 : Gleam.two63 = 2 ^ 63 := rfl
  have h64 : Gleam.two64 = 2 ^ 64 := rfl
  unfold Gleam.advisoryKey
  dsimp only
  rw [Rust.advisoryKey, toInt_toInt64, gleam_fnv1a64]
  rcases Nat.lt_or_ge (Rust.fnv1a64 key).toNat (2 ^ 63) with hlow | hhigh
  · rw [if_neg (by omega), if_neg (by omega)]
  · rw [if_pos (by omega), if_pos hhigh, h64]

theorem dart_advisoryKey (key : Bytes) :
    Dart.advisoryKey key = (Rust.advisoryKey key).toInt := by
  rw [Dart.advisoryKey, dart_fnv1a64, toSigned_word]
  rfl

theorem advisoryKey_bounds (key : Bytes) :
    -2 ^ 63 ≤ (Rust.advisoryKey key).toInt ∧ (Rust.advisoryKey key).toInt ≤ 2 ^ 63 - 1 := by
  have hlt := (Rust.fnv1a64 key).toNat_lt
  rw [Rust.advisoryKey, toInt_toInt64]
  rcases Nat.lt_or_ge (Rust.fnv1a64 key).toNat (2 ^ 63) with hlow | hhigh
  · rw [if_neg (by omega)]
    omega
  · rw [if_pos hhigh]
    omega

/-- The three advisory keys of a byte string are one signed 64-bit integer. -/
theorem advisoryKeys_agree (key : Bytes) :
    Gleam.advisoryKey key = (Rust.advisoryKey key).toInt ∧
    Dart.advisoryKey key = (Rust.advisoryKey key).toInt ∧
    -2 ^ 63 ≤ (Rust.advisoryKey key).toInt ∧ (Rust.advisoryKey key).toInt ≤ 2 ^ 63 - 1 :=
  ⟨gleam_advisoryKey key, dart_advisoryKey key, advisoryKey_bounds key⟩

example : (Rust.advisoryKey (Shared.Utf8.utf8 "orders/checkout")).toInt = 1827953472736452509 := by
  decide +kernel

end OresLocks.AdvisoryKey
