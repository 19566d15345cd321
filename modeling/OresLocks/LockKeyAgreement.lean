import OresLocks.Fencing.Dart
import OresLocks.Fencing.Gleam
import OresLocks.Fencing.Go
import OresLocks.JsText
import OresLocks.LockKey

/-!
# Which texts are lock keys in which runtime

Rust and Go refuse surrounding white space and control bytes; Dart also refuses U+FEFF at
either end; Gleam checks the length only. All four measure the same bytes.
-/

namespace OresLocks.LockKeyAgreement

set_option autoImplicit false

open Fencing Shared.Utf8
open OresLocks.Ts (js encode_js units js_eq)

/-- Neither the first nor the last letter of a text satisfies `p`. -/
def Bare {α : Type} (p : α → Bool) (text : List α) : Prop :=
  (∀ a, text.head? = some a → p a = false) ∧ ∀ a, text.getLast? = some a → p a = false

/-- Trimming leaves a text alone exactly when nothing at its ends is trimmed. -/
theorem trim_eq_self_iff {α : Type} (p : α → Bool) (text : List α) :
    ((text.dropWhile p).reverse.dropWhile p).reverse = text ↔ Bare p text := by
  have hself : ∀ l : List α, l.dropWhile p = l ↔ ∀ a, l.head? = some a → p a = false := by
    intro l
    cases l with
    | nil => simp
    | cons a l =>
      rw [List.head?_cons]
      constructor
      · intro h b hb
        obtain rfl := Option.some.inj hb
        by_contra hp
        have hdrop := List.dropWhile_suffix p (l := l)
        rw [List.dropWhile_cons_of_pos (by simpa using hp)] at h
        rw [h] at hdrop
        have hlen := hdrop.length_le
        simp at hlen
      · intro h
        rw [List.dropWhile_cons_of_neg (by simp [h a rfl])]
  constructor
  · intro h
    have hleft : text.dropWhile p = text := by
      have hlen := congrArg List.length h
      have hfirst := (List.dropWhile_suffix p (l := text)).length_le
      have hsecond := (List.dropWhile_suffix p (l := (text.dropWhile p).reverse)).length_le
      rw [List.length_reverse] at hlen hsecond
      exact (List.dropWhile_suffix p).eq_of_length (by omega)
    rw [hleft] at h
    refine ⟨(hself text).mp hleft, ?_⟩
    have hright := congrArg List.reverse h
    rw [List.reverse_reverse, hself, List.head?_reverse] at hright
    exact hright
  · rintro ⟨hhead, hlast⟩
    have hleft := (hself text).mpr hhead
    have hright : text.reverse.dropWhile p = text.reverse := by
      rw [hself, List.head?_reverse]
      exact hlast
    rw [hleft, hright, List.reverse_reverse]

/-! ## Go -/

section Go

theorem mem_spaces_iff (space : Bytes) :
    space ∈ Go.spaces ↔ ∃ c, isWhitespace c = true ∧ space = String.utf8EncodeChar c := by
  constructor
  · intro hmem
    obtain ⟨n, hn, rfl⟩ := List.mem_map.mp hmem
    exact ⟨Char.ofNat n, (by decide : ∀ n ∈ _, isWhitespace (Char.ofNat n) = true) n hn, rfl⟩
  · rintro ⟨c, hc, rfl⟩
    refine List.mem_map.mpr ⟨c.toNat, ?_, by rw [Char.ofNat_toNat]⟩
    simp only [isWhitespace, Bool.or_eq_true, Bool.and_eq_true, decide_eq_true_eq, beq_iff_eq] at hc
    simp only [List.mem_cons, List.not_mem_nil, or_false]
    omega

/-- Go trims a text exactly where Rust does. -/
theorem trimSpace_utf8 (key : String) :
    Go.trimSpace (utf8 key) = utf8 key ↔ Bare isWhitespace key.toList := by
  have hstart : ∀ c, String.utf8EncodeChar c <+: utf8 key ↔ key.toList.head? = some c :=
    fun c => encode_start_iff c key.toList
  have hsuffix : ∀ c, String.utf8EncodeChar c <:+ utf8 key ↔ key.toList.getLast? = some c :=
    fun c => encode_suffix_iff c key.toList
  rw [Go.trimSpace_eq_self_iff]
  simp only [mem_spaces_iff, forall_exists_index, and_imp]
  constructor
  · rintro ⟨hfirst, hlast⟩
    constructor
    · intro c hc
      by_contra hspace
      exact hfirst _ c (by simpa using hspace) rfl ((hstart c).mpr hc)
    · intro c hc
      by_contra hspace
      exact hlast _ c (by simpa using hspace) rfl ((hsuffix c).mpr hc)
  · rintro ⟨hfirst, hlast⟩
    constructor
    · rintro _ c hspace rfl hc
      rw [hfirst c ((hstart c).mp hc)] at hspace
      cases hspace
    · rintro _ c hspace rfl hc
      rw [hlast c ((hsuffix c).mp hc)] at hspace
      cases hspace

end Go

/-! ## Dart -/

section Dart

/-- What `String.trim` strips in Dart. -/
def isTrimmedByDart (c : Char) : Bool := isWhitespace c || c.toNat == 0xfeff

/-- The ends of a text of blocks are told by the ends of its first and its last block. -/
theorem bare_flatMap {α β : Type} {f : α → List β} {p : α → Bool} {q : β → Bool}
    (hfirst : ∀ a, ∃ b rest, f a = b :: rest ∧ q b = p a)
    (hlast : ∀ a, ∃ front b, f a = front ++ [b] ∧ q b = p a) (text : List α) :
    Bare q (text.flatMap f) ↔ Bare p text := by
  refine and_congr ?_ ?_
  · cases text with
    | nil => simp
    | cons a text =>
      obtain ⟨b, rest, hb, hq⟩ := hfirst a
      rw [List.flatMap_cons, hb, List.cons_append, List.head?_cons, List.head?_cons]
      simp [hq]
  · rcases List.eq_nil_or_concat text with rfl | ⟨front, a, rfl⟩
    · simp
    · obtain ⟨rest, b, hb, hq⟩ := hlast a
      rw [List.concat_eq_append, List.flatMap_append, List.flatMap_singleton, hb,
        ← List.append_assoc, List.getLast?_concat, List.getLast?_concat]
      simp [hq]

theorem isTrimmed_unit {c : Char} (h : c.toNat < 0x10000) :
    Dart.isTrimmed (UInt16.ofNat c.toNat) = isTrimmedByDart c := by
  have hu : (UInt16.ofNat c.toNat).toNat = c.toNat := UInt16.toNat_ofNat_of_lt' h
  rw [Bool.eq_iff_iff]
  simp only [Dart.isTrimmed, JsString.isTrimmed, isTrimmedByDart, isWhitespace, Bool.or_eq_true,
    Bool.and_eq_true, decide_eq_true_eq, beq_iff_eq, UInt16.le_iff_toNat_le, ← UInt16.toNat_inj, hu,
    UInt16.reduceToNat]
  omega

theorem isTrimmed_surrogate {n : Nat} (hlow : 0xd800 ≤ n) (hhigh : n ≤ 0xdfff) :
    Dart.isTrimmed (UInt16.ofNat n) = false := by
  have hu : (UInt16.ofNat n).toNat = n := UInt16.toNat_ofNat_of_lt' (by simp [UInt16.size]; omega)
  rw [Bool.eq_false_iff]
  simp only [ne_eq, Dart.isTrimmed, JsString.isTrimmed, Bool.or_eq_true, Bool.and_eq_true,
    decide_eq_true_eq, beq_iff_eq, UInt16.le_iff_toNat_le, ← UInt16.toNat_inj, hu,
    UInt16.reduceToNat]
  omega

theorem isTrimmedByDart_large {c : Char} (h : ¬ c.toNat < 0x10000) : isTrimmedByDart c = false := by
  rw [Bool.eq_false_iff]
  simp only [ne_eq, isTrimmedByDart, isWhitespace, Bool.or_eq_true, Bool.and_eq_true,
    decide_eq_true_eq, beq_iff_eq]
  omega

theorem units_first (c : Char) :
    ∃ u rest, units c = u :: rest ∧ Dart.isTrimmed u = isTrimmedByDart c := by
  have hvalid : c.toNat < 0xd800 ∨ 0xdfff < c.toNat ∧ c.toNat < 0x110000 := c.valid
  unfold units
  split
  · rename_i hsmall
    exact ⟨_, _, rfl, isTrimmed_unit hsmall⟩
  · rename_i hlarge
    exact ⟨_, _, rfl, by rw [isTrimmed_surrogate (by omega) (by omega), isTrimmedByDart_large hlarge]⟩

theorem units_last (c : Char) :
    ∃ front u, units c = front ++ [u] ∧ Dart.isTrimmed u = isTrimmedByDart c := by
  have hvalid : c.toNat < 0xd800 ∨ 0xdfff < c.toNat ∧ c.toNat < 0x110000 := c.valid
  unfold units
  split
  · rename_i hsmall
    exact ⟨[], _, rfl, isTrimmed_unit hsmall⟩
  · rename_i hlarge
    refine ⟨[_], _, rfl, ?_⟩
    rw [isTrimmed_surrogate (by omega) (by omega), isTrimmedByDart_large hlarge]

theorem trim_js (key : String) :
    Dart.trim (js key) = js key ↔ Bare isTrimmedByDart key.toList := by
  unfold Dart.trim
  rw [trim_eq_self_iff, js_eq]
  exact bare_flatMap units_first units_last key.toList

end Dart

/-! ## Control characters -/

section Controls

def isControl (c : Char) : Bool := c.toNat ≤ 0x1f || c.toNat == 0x7f

theorem encode_control (c : Char) :
    (String.utf8EncodeChar c).any isAsciiControl = isControl c := by
  rw [Bool.eq_iff_iff, List.any_eq_true]
  simp only [isAsciiControl, isControl, Bool.or_eq_true, decide_eq_true_eq, beq_iff_eq,
    UInt8.le_iff_toNat_le, ← UInt8.toNat_inj, UInt8.reduceToNat]
  constructor
  · rintro ⟨byte, hmem, hbyte⟩
    rw [(mem_encode_iff (by omega) c).mp hmem]
    exact hbyte
  · intro hc
    have hu : (UInt8.ofNat c.toNat).toNat = c.toNat :=
      UInt8.toNat_ofNat_of_lt' (by simp [UInt8.size]; omega)
    refine ⟨UInt8.ofNat c.toNat, (mem_encode_iff (by omega) c).mpr hu.symm, ?_⟩
    rw [hu]
    exact hc

theorem utf8_control (key : String) :
    (utf8 key).any isAsciiControl = key.toList.any isControl := by
  simp only [utf8, List.any_flatMap, encode_control]

theorem units_control (c : Char) :
    ((units c).any fun unit => unit ≤ 0x1f || unit == 0x7f) = isControl c := by
  have hvalid : c.toNat < 0xd800 ∨ 0xdfff < c.toNat ∧ c.toNat < 0x110000 := c.valid
  have hunit : ∀ n, n < 0x10000 → (UInt16.ofNat n).toNat = n :=
    fun n hn => UInt16.toNat_ofNat_of_lt' hn
  unfold units
  split
  · rename_i hsmall
    rw [Bool.eq_iff_iff]
    simp [isControl, UInt16.le_iff_toNat_le, ← UInt16.toNat_inj, hunit _ hsmall]
  · rename_i hlarge
    rw [Bool.eq_iff_iff]
    simp only [List.any_cons, List.any_nil, Bool.or_false, isControl, Bool.or_eq_true,
      decide_eq_true_eq, beq_iff_eq, UInt16.le_iff_toNat_le, ← UInt16.toNat_inj, UInt16.reduceToNat]
    rw [hunit _ (by omega), hunit _ (by omega)]
    omega

theorem js_control (key : String) :
    ((js key).any fun unit => unit ≤ 0x1f || unit == 0x7f) = key.toList.any isControl := by
  simp only [js_eq, List.any_flatMap, units_control]

end Controls

/-! ## Admission -/

section Admission

/-- A text within the bounds of a lock key, without control characters and with no letter
at its ends that `p` strips. -/
structure Admissible (p : Char → Bool) (key : String) : Prop where
  nonempty : utf8 key ≠ []
  bare : Bare p key.toList
  printable : key.toList.any isControl = false
  short : (utf8 key).length ≤ 512

theorem rust_new_iff (key : String) :
    (∃ admitted, LockKey.new key = .ok admitted) ↔ LockKey.check key = .ok () := by
  constructor
  · rintro ⟨admitted, h⟩
    have hcheck := admitted.admitted
    rw [LockKey.text_of_new h] at hcheck
    exact hcheck
  · intro h
    unfold LockKey.new
    split
    · exact ⟨_, rfl⟩
    · rename_i invalid herror
      rw [h] at herror
      cases herror

theorem rust_admits_iff (key : String) :
    (∃ admitted, LockKey.new key = .ok admitted) ↔ Admissible isWhitespace key := by
  have htrim : trim key = key.toList ↔ Bare isWhitespace key.toList :=
    trim_eq_self_iff isWhitespace key.toList
  rw [rust_new_iff]
  unfold LockKey.check
  constructor
  · intro h
    repeat' split at h
    all_goals cases h
    rename_i hnonempty hbare hcontrol hlong
    rw [utf8_control] at hcontrol
    exact ⟨by simpa using hnonempty, htrim.mp (not_not.mp hbare), by simpa using hcontrol,
      not_lt.mp hlong⟩
  · intro h
    rw [if_neg (by simpa using h.nonempty), if_neg (not_not.mpr (htrim.mpr h.bare)), utf8_control,
      if_neg (by simp [h.printable]), if_neg (show ¬ maxLockKeyBytes < _ from not_lt.mpr h.short)]

theorem go_admits_iff (key : String) :
    (∃ admitted, Go.newLockKey (utf8 key) = .ok admitted) ↔ Admissible isWhitespace key := by
  have hcontrol : ((utf8 key).any fun b => b ≤ 0x1f || b == 0x7f) = key.toList.any isControl :=
    utf8_control key
  unfold Go.newLockKey
  rw [hcontrol]
  constructor
  · rintro ⟨admitted, h⟩
    repeat' split at h
    all_goals cases h
    rename_i hnonempty hbare hprintable hlong
    exact ⟨hnonempty, (trimSpace_utf8 key).mp (not_not.mp hbare), by simpa using hprintable,
      not_lt.mp hlong⟩
  · intro h
    rw [if_neg h.nonempty, if_neg (not_not.mpr ((trimSpace_utf8 key).mpr h.bare)),
      if_neg (by simp [h.printable]), if_neg (show ¬ Go.maxLockKeyBytes < _ from not_lt.mpr h.short)]
    exact ⟨_, rfl⟩

theorem dart_new_iff (key : JsString) :
    (∃ admitted, Dart.LockKey.new key = .ok admitted) ↔ Dart.LockKey.check key = .ok () := by
  constructor
  · rintro ⟨admitted, h⟩
    have hcheck := admitted.admitted
    rw [Dart.LockKey.value_of_new h] at hcheck
    exact hcheck
  · intro h
    unfold Dart.LockKey.new
    split
    · exact ⟨_, rfl⟩
    · rename_i invalid herror
      rw [h] at herror
      cases herror

theorem js_eq_nil_iff (key : String) : js key = [] ↔ utf8 key = [] := by
  constructor
  · intro h
    rw [← encode_js, h]
    rfl
  · intro h
    have hempty : key = "" := by
      rw [← utf8_inj, h]
      rfl
    rw [hempty]
    rfl

theorem dart_admits_iff (key : String) :
    (∃ admitted, Dart.LockKey.new (js key) = .ok admitted) ↔ Admissible isTrimmedByDart key := by
  rw [dart_new_iff]
  unfold Dart.LockKey.check
  rw [js_control, encode_js]
  constructor
  · intro h
    repeat' split at h
    all_goals cases h
    rename_i hnonempty hbare hprintable hlong
    exact ⟨mt (js_eq_nil_iff key).mpr hnonempty, (trim_js key).mp (not_not.mp hbare),
      by simpa using hprintable, not_lt.mp hlong⟩
  · intro h
    rw [if_neg (mt (js_eq_nil_iff key).mp h.nonempty), if_neg (not_not.mpr ((trim_js key).mpr h.bare)),
      if_neg (by simp [h.printable]),
      if_neg (show ¬ Dart.maxLockKeyBytes < _ from not_lt.mpr h.short)]

theorem gleam_new_iff (key : String) :
    (∃ admitted, Gleam.lockKey key = .ok admitted) ↔ Gleam.LockKey.check key = .ok () := by
  constructor
  · rintro ⟨admitted, h⟩
    have hcheck := admitted.admitted
    rw [Gleam.text_of_lockKey h] at hcheck
    exact hcheck
  · intro h
    unfold Gleam.lockKey
    split
    · exact ⟨_, rfl⟩
    · rename_i invalid herror
      rw [h] at herror
      cases herror

theorem gleam_admits_iff (key : String) :
    (∃ admitted, Gleam.lockKey key = .ok admitted) ↔ utf8 key ≠ [] ∧ (utf8 key).length ≤ 512 := by
  rw [gleam_new_iff]
  unfold Gleam.LockKey.check
  constructor
  · intro h
    repeat' split at h
    all_goals cases h
    rename_i hnonempty hlong
    exact ⟨fun hnil => hnonempty (by rw [hnil]; rfl), not_lt.mp hlong⟩
  · rintro ⟨hnonempty, hshort⟩
    rw [if_neg (by simpa using hnonempty),
      if_neg (show ¬ Gleam.maxLockKeyBytes < _ from not_lt.mpr hshort)]

theorem Admissible.of_dart {key : String} (h : Admissible isTrimmedByDart key) :
    Admissible isWhitespace key := by
  have hweaker : ∀ c, isTrimmedByDart c = false → isWhitespace c = false := by
    intro c hc
    simp only [isTrimmedByDart, Bool.or_eq_false_iff] at hc
    exact hc.1
  exact ⟨h.nonempty, ⟨fun c hc => hweaker c (h.bare.1 c hc), fun c hc => hweaker c (h.bare.2 c hc)⟩,
    h.printable, h.short⟩

/-- The four constructors accept the text, or all of them reject it. -/
def Agree (key : String) : Prop :=
  ((∃ admitted, LockKey.new key = .ok admitted) ∧
    (∃ admitted, Go.newLockKey (utf8 key) = .ok admitted) ∧
    (∃ admitted, Dart.LockKey.new (js key) = .ok admitted) ∧
    ∃ admitted, Gleam.lockKey key = .ok admitted) ∨
  ((¬ ∃ admitted, LockKey.new key = .ok admitted) ∧
    (¬ ∃ admitted, Go.newLockKey (utf8 key) = .ok admitted) ∧
    (¬ ∃ admitted, Dart.LockKey.new (js key) = .ok admitted) ∧
    ¬ ∃ admitted, Gleam.lockKey key = .ok admitted)

/-- The runtimes agree exactly on the texts whose length every one of them refuses, and on
those with no control character and with neither white space nor U+FEFF at an end. -/
theorem lockKeys_agree_iff (key : String) :
    Agree key ↔ key = "" ∨ 512 < (utf8 key).length ∨
      (∀ c ∈ key.toList, isControl c = false) ∧ Bare isTrimmedByDart key.toList := by
  have hempty : utf8 key = [] ↔ key = "" := by
    rw [← utf8_inj]
    exact Iff.rfl
  unfold Agree
  simp only [rust_admits_iff, go_admits_iff, dart_admits_iff, gleam_admits_iff]
  constructor
  · rintro (⟨_, _, hdart, _⟩ | ⟨_, _, _, hgleam⟩)
    · exact Or.inr (Or.inr ⟨by simpa using hdart.printable, hdart.bare⟩)
    · by_cases hnil : utf8 key = []
      · exact Or.inl (hempty.mp hnil)
      · refine Or.inr (Or.inl ?_)
        by_contra hshort
        exact hgleam ⟨hnil, not_lt.mp hshort⟩
  · intro h
    by_cases hbounds : utf8 key ≠ [] ∧ (utf8 key).length ≤ 512
    · rcases h with hnil | hlong | ⟨hprintable, hbare⟩
      · exact absurd (hempty.mpr hnil) hbounds.1
      · exact absurd hbounds.2 (not_le.mpr hlong)
      · have hdart : Admissible isTrimmedByDart key :=
          ⟨hbounds.1, hbare, by simpa using hprintable, hbounds.2⟩
        exact Or.inl ⟨hdart.of_dart, hdart.of_dart, hdart, hbounds⟩
    · have hnone : ∀ p, ¬ Admissible p key := fun p hp => hbounds ⟨hp.nonempty, hp.short⟩
      exact Or.inr ⟨hnone _, hnone _, hnone _, hbounds⟩

end Admission

/-- Gleam accepts a text with a space before it. -/
theorem leading_space_splits : ¬ Agree " key" := by
  have hgleam : ∃ admitted, Gleam.lockKey " key" = .ok admitted :=
    (gleam_new_iff " key").mpr (by decide)
  have hrust : ¬ ∃ admitted, LockKey.new " key" = .ok admitted := by
    rw [rust_new_iff]
    decide
  rintro (⟨haccepts, _⟩ | ⟨_, _, _, hrejects⟩)
  · exact hrust haccepts
  · exact hrejects hgleam

end OresLocks.LockKeyAgreement
