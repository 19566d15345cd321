import OresLocks.JsValue
import OresLocks.Shared.Utf8

/-!
# Owner texts

An owner is a JavaScript string that is written to its marker as UTF-8 and read back
with a decoder that refuses malformed bytes and drops a leading U+FEFF.
-/

namespace OresLocks.LocalFile

set_option autoImplicit false

open JsString

def maxLocalFileLockOwnerCodepoints : Nat := 512

def maxLocalFileLockOwnerUtf8Bytes : Nat := maxLocalFileLockOwnerCodepoints * 4

def hasLoneSurrogate : JsString → Bool
  | [] => false
  | [u] => isHighSurrogate u || isLowSurrogate u
  | u :: v :: rest =>
    if isHighSurrogate u then
      if isLowSurrogate v then hasLoneSurrogate rest else true
    else if isLowSurrogate u then true
    else hasLoneSurrogate (v :: rest)

/-- `Array.from(value).length`. -/
def codePoints : JsString → Nat
  | [] => 0
  | [_] => 1
  | u :: v :: rest =>
    if isHighSurrogate u && isLowSurrogate v then 1 + codePoints rest
    else 1 + codePoints (v :: rest)

/-- The UTF-16 code units of one scalar value. -/
def utf16 (c : Char) : JsString :=
  if c.toNat < 0x10000 then [UInt16.ofNat c.toNat]
  else [UInt16.ofNat (0xd800 + (c.toNat - 0x10000) / 0x400),
    UInt16.ofNat (0xdc00 + (c.toNat - 0x10000) % 0x400)]

def byteOrderMark : Char := '\uFEFF'

def stripByteOrderMark : List Char → List Char
  | [] => []
  | c :: rest => if c = byteOrderMark then rest else c :: rest

/-- `new TextDecoder("utf-8", { fatal: true }).decode`. -/
def decodeOwner (bytes : Bytes) : Option JsString :=
  (Shared.Utf8.decode bytes).map fun chars => (stripByteOrderMark chars).flatMap utf16

/-- The scalar values of a string without lone surrogates. -/
def scalarValues : JsString → List Char
  | [] => []
  | [u] => [Char.ofNat u.toNat]
  | u :: v :: rest =>
    if isHighSurrogate u && isLowSurrogate v then
      Char.ofNat (0x10000 + (u.toNat - 0xd800) * 0x400 + (v.toNat - 0xdc00)) :: scalarValues rest
    else Char.ofNat u.toNat :: scalarValues (v :: rest)

theorem utf16_unit {u : UInt16} (hh : isHighSurrogate u = false) (hl : isLowSurrogate u = false) :
    utf16 (Char.ofNat u.toNat) = [u] := by
  have hlt : u.toNat < 0x10000 := u.toNat_lt
  have hhigh : ¬ (0xd800 ≤ u.toNat ∧ u.toNat ≤ 0xdbff) := by
    rw [← high_iff, hh]
    exact Bool.false_ne_true
  have hlow : ¬ (0xdc00 ≤ u.toNat ∧ u.toNat ≤ 0xdfff) := by
    rw [← low_iff, hl]
    exact Bool.false_ne_true
  have hvalid : u.toNat.isValidChar := by
    unfold Nat.isValidChar
    omega
  unfold utf16
  rw [toNat_ofNat hvalid, if_pos hlt]
  simp

theorem utf16_pair {u v : UInt16} (hh : isHighSurrogate u = true) (hl : isLowSurrogate v = true) :
    utf16 (Char.ofNat (0x10000 + (u.toNat - 0xd800) * 0x400 + (v.toNat - 0xdc00))) = [u, v] := by
  obtain ⟨hu, hu'⟩ := (high_iff u).mp hh
  obtain ⟨hv, hv'⟩ := (low_iff v).mp hl
  have hvalid : (0x10000 + (u.toNat - 0xd800) * 0x400 + (v.toNat - 0xdc00)).isValidChar := by
    unfold Nat.isValidChar
    omega
  unfold utf16
  rw [toNat_ofNat hvalid, if_neg (by omega)]
  have hhi : 0xd800 + (0x10000 + (u.toNat - 0xd800) * 0x400 + (v.toNat - 0xdc00) - 0x10000) / 0x400 =
      u.toNat := by omega
  have hlo : 0xdc00 + (0x10000 + (u.toNat - 0xd800) * 0x400 + (v.toNat - 0xdc00) - 0x10000) % 0x400 =
      v.toNat := by omega
  rw [hhi, hlo]
  simp

theorem flatMap_utf16_scalarValues {s : JsString} (h : hasLoneSurrogate s = false) :
    (scalarValues s).flatMap utf16 = s := by
  fun_induction scalarValues s with
  | case1 => rfl
  | case2 u =>
    unfold hasLoneSurrogate at h
    obtain ⟨hh, hl⟩ := Bool.or_eq_false_iff.mp h
    simp [utf16_unit hh hl]
  | case3 u v rest hpair ih =>
    obtain ⟨hh, hl⟩ := Bool.and_eq_true_iff.mp hpair
    unfold hasLoneSurrogate at h
    rw [if_pos hh, if_pos hl] at h
    rw [List.flatMap_cons, utf16_pair hh hl, ih h]
    rfl
  | case4 u v rest hpair ih =>
    unfold hasLoneSurrogate at h
    split at h
    · rename_i hh
      split at h
      · rename_i hl
        rw [hh, hl] at hpair
        exact absurd rfl hpair
      · cases h
    · rename_i hh
      split at h
      · cases h
      · rename_i hl
        rw [List.flatMap_cons, utf16_unit (by simpa using hh) (by simpa using hl), ih h]
        rfl

theorem encode_eq_scalarValues {s : JsString} (h : hasLoneSurrogate s = false) :
    encode s = (scalarValues s).flatMap String.utf8EncodeChar := by
  have hunit : ∀ u : UInt16, isHighSurrogate u = false → isLowSurrogate u = false →
      encodeUnit u = String.utf8EncodeChar (Char.ofNat u.toNat) := by
    intro u hh hl
    unfold encodeUnit
    rw [hh, hl]
    rfl
  fun_induction scalarValues s with
  | case1 => rfl
  | case2 u =>
    unfold hasLoneSurrogate at h
    obtain ⟨hh, hl⟩ := Bool.or_eq_false_iff.mp h
    simp [encode, hunit u hh hl]
  | case3 u v rest hpair ih =>
    obtain ⟨hh, hl⟩ := Bool.and_eq_true_iff.mp hpair
    unfold hasLoneSurrogate at h
    rw [if_pos hh, if_pos hl] at h
    unfold encode
    rw [if_pos hpair, ih h]
    rfl
  | case4 u v rest hpair ih =>
    unfold hasLoneSurrogate at h
    split at h
    · rename_i hh
      split at h
      · rename_i hl
        rw [hh, hl] at hpair
        exact absurd rfl hpair
      · cases h
    · rename_i hh
      split at h
      · cases h
      · rename_i hl
        unfold encode
        rw [if_neg hpair, ih h, hunit u (by simpa using hh) (by simpa using hl)]
        rfl

/-- What is read back is the owner, or the owner without its leading U+FEFF. -/
theorem decodeOwner_encode {owner text : JsString} (h : hasLoneSurrogate owner = false)
    (hdecode : decodeOwner (encode owner) = some text) :
    owner = text ∨ owner = 0xfeff :: text := by
  unfold decodeOwner at hdecode
  rw [encode_eq_scalarValues h, Shared.Utf8.decode_encode, Option.map_some, Option.some_inj]
    at hdecode
  have howner := flatMap_utf16_scalarValues h
  cases hchars : scalarValues owner with
  | nil =>
    rw [hchars] at hdecode howner
    exact Or.inl (howner.symm.trans hdecode)
  | cons c rest =>
    rw [hchars] at hdecode howner
    change (if c = byteOrderMark then rest else c :: rest).flatMap utf16 = text at hdecode
    split at hdecode
    · rename_i hbom
      subst hbom
      right
      rw [← hdecode, ← howner]
      rfl
    · left
      exact howner.symm.trans hdecode

/-- Without a leading U+FEFF the owner itself is read back. -/
theorem decodeOwner_encode_unmarked {owner : JsString} (h : hasLoneSurrogate owner = false)
    (hunmarked : owner.head? ≠ some 0xfeff) : decodeOwner (encode owner) = some owner := by
  have hsome : ∃ text, decodeOwner (encode owner) = some text := by
    unfold decodeOwner
    rw [encode_eq_scalarValues h, Shared.Utf8.decode_encode]
    exact ⟨_, rfl⟩
  obtain ⟨text, htext⟩ := hsome
  rcases decodeOwner_encode h htext with heq | heq
  · rw [htext, ← heq]
  · rw [heq] at hunmarked
    exact absurd rfl hunmarked

theorem length_scalarValues (s : JsString) : (scalarValues s).length = codePoints s := by
  fun_induction scalarValues s with
  | case1 => rfl
  | case2 u => rfl
  | case3 u v rest hpair ih =>
    unfold codePoints
    rw [if_pos hpair, List.length_cons, ih, Nat.add_comm]
  | case4 u v rest hpair ih =>
    unfold codePoints
    rw [if_neg hpair, List.length_cons, ih, Nat.add_comm]

theorem length_encode_le {s : JsString} (h : hasLoneSurrogate s = false) :
    (encode s).length ≤ 4 * codePoints s := by
  rw [encode_eq_scalarValues h, ← length_scalarValues]
  generalize scalarValues s = chars
  induction chars with
  | nil => exact Nat.le_refl _
  | cons c rest ih =>
    have hsize := c.utf8Size_le_four
    rw [List.flatMap_cons, List.length_append, String.length_utf8EncodeChar, List.length_cons]
    omega

theorem encode_ne_nil {owner : JsString} (h : hasLoneSurrogate owner = false) (hne : owner ≠ []) :
    encode owner ≠ [] := by
  rw [encode_eq_scalarValues h]
  intro hnil
  have howner := flatMap_utf16_scalarValues h
  cases hchars : scalarValues owner with
  | nil =>
    rw [hchars] at howner
    exact hne howner.symm
  | cons c rest =>
    rw [hchars, List.flatMap_cons, List.append_eq_nil_iff] at hnil
    have hlen := congrArg List.length hnil.1
    rw [String.length_utf8EncodeChar] at hlen
    have hpos := c.utf8Size_pos
    simp at hlen
    omega

end OresLocks.LocalFile
