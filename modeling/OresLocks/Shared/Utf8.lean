import OresLocks.Shared.Numeral
import Mathlib.Data.Nat.Bitwise

/-!
# UTF-8 bytes of a text

Texts are sequences of Unicode scalar values. Encoding is injective, its length
is the byte size, a strict decoder undoes it, and a decimal number is printed with the
digit bytes. No character's bytes begin or end another's.
-/

namespace Shared.Utf8

set_option autoImplicit false

open Shared.Numeral

def utf8 (s : String) : List UInt8 := s.toList.flatMap String.utf8EncodeChar

theorem toByteArray_utf8 (s : String) : (utf8 s).toByteArray = s.toByteArray := by
  rw [← String.utf8Encode_toList]
  rfl

theorem utf8_injective : Function.Injective utf8 := by
  intro s t h
  rw [← String.toByteArray_inj, ← toByteArray_utf8, ← toByteArray_utf8, h]

@[simp] theorem utf8_inj {s t : String} : utf8 s = utf8 t ↔ s = t := utf8_injective.eq_iff

/-- Strict decoding of at most `fuel` scalar values. -/
def decodeScalars : Nat → List UInt8 → Option (List Char)
  | _, [] => some []
  | 0, _ :: _ => none
  | fuel + 1, bytes@(_ :: _) =>
    match bytes.toByteArray.utf8DecodeChar? 0 with
    | none => none
    | some c => (decodeScalars fuel (bytes.drop c.utf8Size)).map (c :: ·)

/-- Strict decoding: `none` unless the bytes are well-formed UTF-8. -/
def decode (bytes : List UInt8) : Option (List Char) := decodeScalars bytes.length bytes

theorem decodeScalars_encode {fuel : Nat} {chars : List Char} (h : chars.length ≤ fuel) :
    decodeScalars fuel (chars.flatMap String.utf8EncodeChar) = some chars := by
  induction chars generalizing fuel with
  | nil =>
    unfold decodeScalars
    rfl
  | cons c chars ih =>
    obtain ⟨fuel, rfl⟩ : ∃ k, fuel = k + 1 := ⟨fuel - 1, by simp at h; omega⟩
    have hsize : (String.utf8EncodeChar c).length = c.utf8Size := String.length_utf8EncodeChar c
    have hfirst : ((c :: chars).flatMap String.utf8EncodeChar).toByteArray.utf8DecodeChar? 0 =
        some c := by
      rw [List.flatMap_cons, List.toByteArray_append]
      exact ByteArray.utf8DecodeChar?_utf8EncodeChar_append
    have hrest : ((c :: chars).flatMap String.utf8EncodeChar).drop c.utf8Size =
        chars.flatMap String.utf8EncodeChar := by
      rw [List.flatMap_cons, ← hsize, List.drop_left]
    have hne : (c :: chars).flatMap String.utf8EncodeChar ≠ [] := by
      intro hnil
      have hlen := congrArg List.length hnil
      rw [List.flatMap_cons, List.length_append, hsize] at hlen
      have hpos := c.utf8Size_pos
      simp at hlen
      omega
    obtain ⟨b, bytes, hbytes⟩ := List.exists_cons_of_ne_nil hne
    rw [hbytes] at hfirst hrest ⊢
    unfold decodeScalars
    rw [hfirst]
    dsimp only
    rw [hrest, ih (by simpa using h)]
    rfl

theorem decode_encode (chars : List Char) :
    decode (chars.flatMap String.utf8EncodeChar) = some chars := by
  apply decodeScalars_encode
  induction chars with
  | nil => exact Nat.le_refl 0
  | cons c chars ih =>
    have hpos := c.utf8Size_pos
    rw [List.flatMap_cons, List.length_append, String.length_utf8EncodeChar, List.length_cons]
    omega

/-- What is decoded is what was encoded. -/
theorem encode_of_decodeScalars {fuel : Nat} {bytes : List UInt8} {chars : List Char}
    (h : decodeScalars fuel bytes = some chars) : chars.flatMap String.utf8EncodeChar = bytes := by
  induction fuel generalizing bytes chars with
  | zero =>
    cases bytes with
    | nil =>
      cases h
      rfl
    | cons b bytes => cases h
  | succ fuel ih =>
    cases bytes with
    | nil =>
      cases h
      rfl
    | cons b bytes =>
      unfold decodeScalars at h
      cases hfirst : (b :: bytes).toByteArray.utf8DecodeChar? 0 with
      | none =>
        rw [hfirst] at h
        cases h
      | some c =>
        rw [hfirst] at h
        obtain ⟨rest, hrest, rfl⟩ := Option.map_eq_some_iff.mp h
        obtain ⟨tail, htail⟩ := ByteArray.exists_of_utf8DecodeChar?_eq_some hfirst
        have hbytes : b :: bytes = String.utf8EncodeChar c ++ tail.data.toList := by
          have hlist := congrArg (fun a => a.data.toList) htail
          simpa using hlist
        rw [List.flatMap_cons, ih hrest, hbytes, ← String.length_utf8EncodeChar c, List.drop_left]

theorem encode_of_decode {bytes : List UInt8} {chars : List Char} (h : decode bytes = some chars) :
    chars.flatMap String.utf8EncodeChar = bytes := encode_of_decodeScalars h

theorem utf8EncodeChar_digit {c : Char} (h : c.isDigit = true) :
    String.utf8EncodeChar c = [DigitAlphabet.ofChar c] := by
  simp only [Char.isDigit, Bool.and_eq_true, decide_eq_true_eq] at h
  have h9 : c.toNat ≤ 57 := by simpa using UInt32.le_iff_toNat_le.mp h.2
  have hsize : c.utf8Size = 1 := by
    rw [Char.utf8Size, if_pos]
    rw [UInt32.le_iff_toNat_le]
    simp
    omega
  rw [String.utf8EncodeChar_eq_singleton hsize]
  rfl

/-- Printing a number gives its numeral. -/
@[simp] theorem utf8_toString (n : Nat) : utf8 (toString n) = numeral n := by
  have hlist : (toString n).toList = Nat.toDigits 10 n := by
    simp [Nat.repr]
  rw [utf8, hlist, numeral]
  have hd : ∀ c ∈ Nat.toDigits 10 n, c.isDigit = true := fun c hc =>
    Nat.isDigit_of_mem_toDigits (by decide : 0 < 10) (by decide) hc
  generalize Nat.toDigits 10 n = digits at hd
  induction digits with
  | nil => rfl
  | cons c cs ih =>
    have hc := utf8EncodeChar_digit (hd c List.mem_cons_self)
    have hcs := ih (fun d hd' => hd d (List.mem_cons_of_mem c hd'))
    simp only [List.flatMap_cons, List.map_cons, hc, hcs]
    rfl

/-! ## Where a character starts and ends -/

theorem encode_ne_nil (c : Char) : String.utf8EncodeChar c ≠ [] := by
  intro hnil
  have hlen := String.length_utf8EncodeChar c
  rw [hnil] at hlen
  exact absurd hlen.symm (Nat.pos_iff_ne_zero.mp c.utf8Size_pos)

/-- The first character of a text can be read off its bytes. -/
theorem encode_start_iff (c : Char) (chars : List Char) :
    String.utf8EncodeChar c <+: chars.flatMap String.utf8EncodeChar ↔ chars.head? = some c := by
  cases chars with
  | nil => simp
  | cons d chars =>
    rw [List.head?_cons, Option.some.injEq]
    constructor
    · rintro ⟨rest, hrest⟩
      have hc : (String.utf8EncodeChar c ++ rest).toByteArray.utf8DecodeChar? 0 = some c := by
        rw [List.toByteArray_append]
        exact ByteArray.utf8DecodeChar?_utf8EncodeChar_append
      rw [hrest, List.flatMap_cons, List.toByteArray_append,
        ByteArray.utf8DecodeChar?_utf8EncodeChar_append, Option.some.injEq] at hc
      exact hc
    · rintro rfl
      exact ⟨_, rfl⟩

/-- No character's bytes end in another's: only the first byte of each starts a character. -/
theorem eq_of_encode_suffix {c d : Char}
    (h : String.utf8EncodeChar c <:+ String.utf8EncodeChar d) : c = d := by
  obtain ⟨before, hbefore⟩ := h
  have hpos : 0 < (String.utf8EncodeChar c).length := List.length_pos_iff.mpr (encode_ne_nil c)
  have hlt : before.length < (String.utf8EncodeChar d).length := by
    rw [← hbefore, List.length_append]
    omega
  have hsame : (String.utf8EncodeChar d)[before.length] = (String.utf8EncodeChar c)[0] := by
    simp [← hbefore]
  have hfirst : ((String.utf8EncodeChar d)[before.length]).IsUTF8FirstByte := by
    rw [hsame]
    exact UInt8.isUTF8FirstByte_getElem_zero_utf8EncodeChar
  have hnone := UInt8.isUTF8FirstByte_getElem_utf8EncodeChar.mp hfirst
  rw [List.length_eq_zero_iff.mp hnone, List.nil_append] at hbefore
  have hstart : String.utf8EncodeChar c <+: [d].flatMap String.utf8EncodeChar :=
    ⟨[], by rw [List.append_nil, List.flatMap_singleton, hbefore]⟩
  have hhead := (encode_start_iff c [d]).mp hstart
  rw [List.head?_cons, Option.some.injEq] at hhead
  exact hhead.symm

theorem encode_suffix_iff (c : Char) (chars : List Char) :
    String.utf8EncodeChar c <:+ chars.flatMap String.utf8EncodeChar ↔ chars.getLast? = some c := by
  rcases List.eq_nil_or_concat chars with rfl | ⟨front, d, rfl⟩
  · simp
  · rw [List.concat_eq_append, List.flatMap_append, List.flatMap_singleton, List.getLast?_concat, Option.some.injEq]
    constructor
    · intro h
      have hd := List.suffix_append (front.flatMap String.utf8EncodeChar) (String.utf8EncodeChar d)
      rcases List.suffix_or_suffix_of_suffix h hd with hcd | hdc
      · exact (eq_of_encode_suffix hcd).symm
      · exact eq_of_encode_suffix hdc
    · rintro rfl
      exact List.suffix_append _ _

theorem encode_ascii {c : Char} (h : c.toNat < 128) :
    String.utf8EncodeChar c = [UInt8.ofNat c.toNat] := by
  have hsize : c.utf8Size = 1 := by
    rw [Char.utf8Size, if_pos]
    rw [UInt32.le_iff_toNat_le]
    change c.toNat ≤ 127
    omega
  rw [String.utf8EncodeChar_eq_singleton hsize]
  rfl

/-- A byte of the ASCII range stands for itself only. -/
theorem mem_encode_iff {byte : UInt8} (h : byte.toNat < 128) (c : Char) :
    byte ∈ String.utf8EncodeChar c ↔ c.toNat = byte.toNat := by
  constructor
  · intro hmem
    obtain ⟨i, hi, hbyte⟩ := List.mem_iff_getElem.mp hmem
    have hfirst : byte.IsUTF8FirstByte := by
      left
      rw [← UInt8.toNat_inj, UInt8.toNat_and]
      change byte.toNat &&& 2 ^ 7 = 0
      rw [Nat.and_two_pow, Nat.testBit_lt_two_pow h]
      rfl
    rw [← hbyte, UInt8.isUTF8FirstByte_getElem_utf8EncodeChar] at hfirst
    subst hfirst
    have htoNat : (Char.ofNat byte.toNat).toNat = byte.toNat := by
      rw [Char.ofNat, dif_pos (Or.inl (by omega))]
      rfl
    have hsingle := encode_ascii (show (Char.ofNat byte.toNat).toNat < 128 by omega)
    rw [htoNat, UInt8.ofNat_toNat] at hsingle
    have hstart : String.utf8EncodeChar (Char.ofNat byte.toNat) <+:
        [c].flatMap String.utf8EncodeChar := by
      rw [hsingle, List.flatMap_singleton, ← hbyte]
      exact ⟨_, List.singleton_append.trans (List.drop_eq_getElem_cons hi).symm⟩
    have hhead := (encode_start_iff _ [c]).mp hstart
    rw [List.head?_cons, Option.some.injEq] at hhead
    rw [hhead, htoNat]
  · intro hc
    rw [encode_ascii (by omega), hc]
    simp

end Shared.Utf8
