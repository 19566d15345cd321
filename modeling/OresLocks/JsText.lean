import OresLocks.JsErrors

/-!
# ASCII units in UTF-16 texts

What stands for an ASCII character in a sequence of code units stands for it alone, in the
sequence and in its UTF-8 encoding. A Unicode text cut at an ASCII unit is two Unicode texts.
-/

namespace OresLocks.JsString

set_option autoImplicit false

open Shared.Numeral Shared.Utf8

/-! ## The bytes of code units -/

/-- A character outside ASCII has no ASCII bytes. -/
theorem exists_large_byte {c : Char} (h : 128 ≤ c.toNat) :
    ∃ byte ∈ String.utf8EncodeChar c, 128 ≤ byte.toNat := by
  obtain ⟨byte, bytes, hbytes⟩ := List.exists_cons_of_ne_nil (encode_ne_nil c)
  have hmem : byte ∈ String.utf8EncodeChar c := hbytes ▸ List.mem_cons_self
  refine ⟨byte, hmem, ?_⟩
  by_contra hsmall
  have hc := (mem_encode_iff (not_le.mp hsmall) c).mp hmem
  omega

theorem encodeUnit_large {u : UInt16} (h : 128 ≤ u.toNat) :
    ∃ byte ∈ encodeUnit u, 128 ≤ byte.toNat := by
  unfold encodeUnit
  split
  · exact exists_large_byte (by decide)
  · rename_i hunpaired
    rw [Bool.not_eq_true, Bool.or_eq_false_iff] at hunpaired
    have hhigh := mt (high_iff u).mpr (by simp [hunpaired.1])
    have hlow := mt (low_iff u).mpr (by simp [hunpaired.2])
    have hlt := u.toNat_lt
    have hvalid : u.toNat.isValidChar := by
      unfold Nat.isValidChar
      omega
    apply exists_large_byte
    rw [toNat_ofNat hvalid]
    exact h

theorem encodePair_large {hi lo : UInt16} (hhigh : isHighSurrogate hi = true)
    (hlow : isLowSurrogate lo = true) : ∃ byte ∈ encodePair hi lo, 128 ≤ byte.toNat := by
  have h := (high_iff hi).mp hhigh
  have h' := (low_iff lo).mp hlow
  have hvalid : (0x10000 + (hi.toNat - 0xd800) * 0x400 + (lo.toNat - 0xdc00)).isValidChar := by
    unfold Nat.isValidChar
    omega
  apply exists_large_byte
  rw [toNat_ofNat hvalid]
  omega

/-- Only ASCII units are encoded in ASCII bytes. -/
theorem ascii_of_encode {s : JsString} (h : ∀ byte ∈ encode s, byte.toNat < 128) :
    ∀ u ∈ s, u.toNat < 128 := by
  have hunit : ∀ u : UInt16, (∀ byte ∈ encodeUnit u, byte.toNat < 128) → u.toNat < 128 := by
    intro u hu
    by_contra hlarge
    obtain ⟨byte, hmem, hbyte⟩ := encodeUnit_large (not_lt.mp hlarge)
    have hsmall := hu byte hmem
    omega
  induction s using encode.induct with
  | case1 => simp
  | case2 u =>
    intro v hv
    obtain rfl := List.mem_singleton.mp hv
    exact hunit v h
  | case3 hi lo rest hpair ih =>
    rw [encode, if_pos hpair] at h
    rw [Bool.and_eq_true] at hpair
    obtain ⟨byte, hmem, hbyte⟩ := encodePair_large hpair.1 hpair.2
    have hsmall := h byte (List.mem_append_left _ hmem)
    omega
  | case4 hi lo rest hpair ih =>
    rw [encode, if_neg hpair] at h
    intro v hv
    rcases List.mem_cons.mp hv with rfl | hv
    · exact hunit v fun byte hmem => h byte (List.mem_append_left _ hmem)
    · exact ih (fun byte hmem => h byte (List.mem_append_right _ hmem)) v hv

/-- An ASCII text is told by its bytes, among all sequences of units. -/
theorem eq_of_encode_eq {s t : JsString} (ht : ∀ u ∈ t, u.toNat < 128) (h : encode s = encode t) :
    s = t := by
  have hbyte : ∀ u : UInt16, u.toNat < 128 → (UInt8.ofNat u.toNat).toNat = u.toNat :=
    fun u hu => UInt8.toNat_ofNat_of_lt' (by simp [UInt8.size]; omega)
  have hs : ∀ u ∈ s, u.toNat < 128 := by
    apply ascii_of_encode
    intro byte hmem
    rw [h, encode_ascii ht] at hmem
    obtain ⟨u, hu, rfl⟩ := List.mem_map.mp hmem
    rw [hbyte u (ht u hu)]
    exact ht u hu
  have hback : ∀ {r : JsString}, (∀ u ∈ r, u.toNat < 128) →
      (encode r).map (fun byte => UInt16.ofNat byte.toNat) = r := by
    intro r hr
    rw [encode_ascii hr, List.map_map]
    have hsame : ∀ u ∈ r, UInt16.ofNat (UInt8.ofNat u.toNat).toNat = u := by
      intro u hu
      rw [hbyte u (hr u hu), UInt16.ofNat_toNat]
    exact (List.map_congr_left hsame).trans (List.map_id r)
  rw [← hback hs, h, hback ht]

theorem encode_eq_nil_iff (s : JsString) : encode s = [] ↔ s = [] := by
  constructor
  · intro h
    exact eq_of_encode_eq (t := []) (by simp) h
  · rintro rfl
    rfl

theorem numeral_ascii (n : Nat) : ∀ u ∈ (numeral n : JsString), u.toNat < 128 := by
  have hdigits := isDigits_numeral (α := UInt16) n
  rw [isDigits_eq_all, List.all_eq_true] at hdigits
  intro u hu
  have hrange := hdigits u hu
  simp only [Bool.and_eq_true, decide_eq_true_eq, UInt16.le_iff_toNat_le, UInt16.reduceToNat] at hrange
  omega

theorem encode_eq_numeral (s : JsString) (n : Nat) : encode s = numeral n ↔ s = numeral n := by
  constructor
  · intro h
    exact eq_of_encode_eq (numeral_ascii n) (h.trans (encode_numeral n).symm)
  · rintro rfl
    exact encode_numeral n

/-! ## Encoding in parts -/

/-- Two texts are encoded one after the other where the second begins with no low surrogate. -/
theorem encode_append {s : JsString} {u : UInt16} (h : isLowSurrogate u = false) (rest : JsString) :
    encode (s ++ u :: rest) = encode s ++ encode (u :: rest) := by
  induction s using encode.induct with
  | case1 => rfl
  | case2 v =>
    simp [encode, h]
  | case3 hi lo left hpair ih =>
    rw [List.cons_append, List.cons_append, encode, if_pos hpair, ih, encode, if_pos hpair,
      List.append_assoc]
  | case4 hi lo left hpair ih =>
    rw [List.cons_append, List.cons_append, encode, if_neg hpair, ← List.cons_append, ih, encode,
      if_neg hpair, List.append_assoc]

end OresLocks.JsString

namespace OresLocks.Ts

set_option autoImplicit false

open Shared.Utf8

/-- A sequence of code units that is a Unicode text. -/
def Unicode (text : JsString) : Prop := ∃ s : String, text = js s

/-- The code units of one character. -/
def units (c : Char) : JsString :=
  if c.toNat < 0x10000 then [UInt16.ofNat c.toNat]
  else [UInt16.ofNat (0xd800 + (c.toNat - 0x10000) / 0x400),
    UInt16.ofNat (0xdc00 + (c.toNat - 0x10000) % 0x400)]

theorem js_eq (s : String) : js s = s.toList.flatMap units := rfl

theorem unicode_flatMap (chars : List Char) : Unicode (chars.flatMap units) :=
  ⟨String.ofList chars, by rw [js_eq, String.toList_ofList]⟩

theorem unicode_units (c : Char) : Unicode (units c) := by
  simpa using unicode_flatMap [c]

theorem Unicode.append {s t : JsString} (hs : Unicode s) (ht : Unicode t) : Unicode (s ++ t) := by
  obtain ⟨a, rfl⟩ := hs
  obtain ⟨b, rfl⟩ := ht
  exact ⟨a ++ b, by simp only [js_eq, String.toList_append, List.flatMap_append]⟩

theorem toWellFormed_units (c : Char) (rest : JsString) :
    JsString.toWellFormed (units c ++ rest) = units c ++ JsString.toWellFormed rest := by
  have hvalid : c.toNat < 0xd800 ∨ 0xdfff < c.toNat ∧ c.toNat < 0x110000 := c.valid
  have hunit : ∀ n, n < 0x10000 → (UInt16.ofNat n).toNat = n :=
    fun n hn => UInt16.toNat_ofNat_of_lt' hn
  unfold units
  split
  · rename_i hsmall
    apply JsString.toWellFormed_cons
    rw [Bool.or_eq_false_iff, Bool.eq_false_iff, Bool.eq_false_iff, Ne, Ne, JsString.high_iff,
      JsString.low_iff, hunit _ hsmall]
    omega
  · have hhigh : JsString.isHighSurrogate (UInt16.ofNat (0xd800 + (c.toNat - 0x10000) / 0x400)) =
        true := by
      rw [JsString.high_iff, hunit _ (by omega)]
      omega
    have hlow : JsString.isLowSurrogate (UInt16.ofNat (0xdc00 + (c.toNat - 0x10000) % 0x400)) =
        true := by
      rw [JsString.low_iff, hunit _ (by omega)]
      omega
    rw [List.cons_append, List.cons_append, List.nil_append, JsString.toWellFormed, hhigh, hlow]
    rfl

/-- A Unicode text has no unpaired surrogate. -/
@[simp] theorem toWellFormed_js (s : String) : JsString.toWellFormed (js s) = js s := by
  rw [js_eq]
  induction s.toList with
  | nil => rfl
  | cons c chars ih => rw [List.flatMap_cons, toWellFormed_units, ih]

/-- Where the units of a character hold an ASCII one, they hold nothing else. -/
theorem units_ascii {c : Char} {s t : JsString} {u : UInt16} (hu : u.toNat < 128)
    (h : units c = s ++ u :: t) : s = [] ∧ t = [] := by
  have hvalid : c.toNat < 0xd800 ∨ 0xdfff < c.toNat ∧ c.toNat < 0x110000 := c.valid
  have hunit : ∀ n, n < 0x10000 → (UInt16.ofNat n).toNat = n :=
    fun n hn => UInt16.toNat_ofNat_of_lt' hn
  unfold units at h
  split at h
  · have hlen := congrArg List.length h
    simp only [List.length_cons, List.length_nil, List.length_append] at hlen
    exact ⟨List.length_eq_zero_iff.mp (by omega), List.length_eq_zero_iff.mp (by omega)⟩
  · have hmem : u ∈ s ++ u :: t := by simp
    rw [← h] at hmem
    rcases List.mem_cons.mp hmem with rfl | hmem
    · rw [hunit _ (by omega)] at hu
      omega
    · rw [List.mem_singleton.mp hmem, hunit _ (by omega)] at hu
      omega

/-- An ASCII unit is a character of its own, so the parts around it are Unicode. -/
theorem Unicode.split {s t : JsString} {u : UInt16} (hu : u.toNat < 128)
    (h : Unicode (s ++ u :: t)) : Unicode s ∧ Unicode t := by
  obtain ⟨source, hsource⟩ := h
  rw [js_eq] at hsource
  generalize source.toList = chars at hsource
  induction chars generalizing s with
  | nil => simp at hsource
  | cons c chars ih =>
    rw [List.flatMap_cons, List.append_eq_append_iff] at hsource
    rcases hsource with ⟨inner, hinner, hrest⟩ | ⟨inner, rfl, hrest⟩
    · cases inner with
      | nil =>
        have hsource : s = units c := by simpa using hinner.symm
        obtain ⟨_, ht⟩ := @ih [] hrest
        exact ⟨hsource ▸ unicode_units c, ht⟩
      | cons v inner =>
        obtain ⟨rfl, htail⟩ := List.cons_eq_cons.mp hrest
        obtain ⟨rfl, rfl⟩ := units_ascii hu hinner
        exact ⟨unicode_flatMap [], htail ▸ unicode_flatMap chars⟩
    · obtain ⟨hinner, ht⟩ := ih hrest.symm
      exact ⟨(unicode_units c).append hinner, ht⟩

end OresLocks.Ts
