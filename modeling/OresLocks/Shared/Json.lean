import Mathlib.Tactic.Common

/-!
# JSON texts

A text is a list of UTF-16 code units. The grammar is the one of RFC 8259, with the
value each string literal denotes.
-/

namespace Shared.Json

set_option autoImplicit false

abbrev Text := List UInt16

def isBlank (u : UInt16) : Bool := u == 0x20 || u == 0x09 || u == 0x0a || u == 0x0d

def Blank (text : Text) : Prop := ∀ u ∈ text, isBlank u = true

/-! ## Strings -/

def isDigit (u : UInt16) : Bool := 0x30 ≤ u && u ≤ 0x39

def hexValue? (u : UInt16) : Option UInt16 :=
  if isDigit u then some (u - 0x30)
  else if 0x61 ≤ u && u ≤ 0x66 then some (u - 0x57)
  else if 0x41 ≤ u && u ≤ 0x46 then some (u - 0x37)
  else none

/-- The unit a two-unit escape stands for. -/
def escape? (u : UInt16) : Option UInt16 :=
  if u = 0x22 ∨ u = 0x5c ∨ u = 0x2f then some u
  else if u = 0x62 then some 0x08
  else if u = 0x66 then some 0x0c
  else if u = 0x6e then some 0x0a
  else if u = 0x72 then some 0x0d
  else if u = 0x74 then some 0x09
  else none

def isUnescaped (u : UInt16) : Bool := 0x20 ≤ u && u != 0x22 && u != 0x5c

/-- `\u` and four hexadecimal digits. -/
def fourDigits? (a b c d : UInt16) : Option UInt16 := do
  let a ← hexValue? a
  let b ← hexValue? b
  let c ← hexValue? c
  let d ← hexValue? d
  return ((a * 16 + b) * 16 + c) * 16 + d

/-- What may stand between quotation marks, and the units it denotes. -/
inductive Content : Text → Text → Prop where
  | nil : Content [] []
  | unit {u : UInt16} {text value : Text} (hu : isUnescaped u = true) (h : Content text value) :
      Content (u :: text) (u :: value)
  | escape {e v : UInt16} {text value : Text} (he : escape? e = some v) (h : Content text value) :
      Content (0x5c :: e :: text) (v :: value)
  | unicode {a b c d v : UInt16} {text value : Text} (hv : fourDigits? a b c d = some v)
      (h : Content text value) : Content (0x5c :: 0x75 :: a :: b :: c :: d :: text) (v :: value)

def Literal (text value : Text) : Prop :=
  ∃ content, Content content value ∧ text = 0x22 :: (content ++ [0x22])

def decodeContent : Text → Option Text
  | [] => some []
  | u :: rest =>
    if u = 0x5c then
      match rest with
      | [] => none
      | e :: rest =>
        if e = 0x75 then
          match rest with
          | a :: b :: c :: d :: rest => do
            let v ← fourDigits? a b c d
            let value ← decodeContent rest
            return v :: value
          | _ => none
        else do
          let v ← escape? e
          let value ← decodeContent rest
          return v :: value
    else if isUnescaped u then do
      let value ← decodeContent rest
      return u :: value
    else none

/-- The value of a text that is one string literal. -/
def decodeLiteral : Text → Option Text
  | [] => none
  | u :: rest =>
    if u = 0x22 ∧ rest.getLast? = some 0x22 then decodeContent rest.dropLast else none

theorem ne_of_isUnescaped {u : UInt16} (h : isUnescaped u = true) : u ≠ 0x22 ∧ u ≠ 0x5c := by
  simp only [isUnescaped, Bool.and_eq_true, bne_iff_ne] at h
  exact ⟨h.1.2, h.2⟩

theorem ne_of_escape? {e v : UInt16} (h : escape? e = some v) : e ≠ 0x75 := by
  rintro rfl
  cases h

theorem decodeContent_of_content {text value : Text} (h : Content text value) :
    decodeContent text = some value := by
  induction h with
  | nil => rfl
  | unit hu _ ih =>
    unfold decodeContent
    simp only [if_neg (ne_of_isUnescaped hu).2, if_pos hu, ih]
    rfl
  | escape he _ ih =>
    unfold decodeContent
    simp only [if_true, if_neg (ne_of_escape? he), he, ih]
    rfl
  | unicode hv _ ih =>
    unfold decodeContent
    simp only [if_true, hv, ih]
    rfl

theorem decodeLiteral_of_literal {text value : Text} (h : Literal text value) :
    decodeLiteral text = some value := by
  obtain ⟨content, hcontent, rfl⟩ := h
  have hlast : (content ++ [(0x22 : UInt16)]).getLast? = some 0x22 := List.getLast?_concat
  rw [decodeLiteral, if_pos ⟨rfl, hlast⟩, List.dropLast_concat]
  exact decodeContent_of_content hcontent

/-! ## Numbers -/

def Digits (text : Text) : Prop := text ≠ [] ∧ ∀ u ∈ text, isDigit u = true

def Whole (text : Text) : Prop :=
  text = [0x30] ∨ ∃ u rest, text = u :: rest ∧ isDigit u = true ∧ u ≠ 0x30 ∧
    ∀ v ∈ rest, isDigit v = true

def Fraction (text : Text) : Prop := text = [] ∨ ∃ digits, Digits digits ∧ text = 0x2e :: digits

def Exponent (text : Text) : Prop :=
  text = [] ∨ ∃ mark sign digits, (mark = 0x65 ∨ mark = 0x45) ∧
    (sign = [] ∨ sign = [0x2b] ∨ sign = [0x2d]) ∧ Digits digits ∧ text = mark :: (sign ++ digits)

def Number (text : Text) : Prop :=
  ∃ sign whole fraction exponent, (sign = [] ∨ sign = [0x2d]) ∧ Whole whole ∧ Fraction fraction ∧
    Exponent exponent ∧ text = sign ++ whole ++ fraction ++ exponent

/-! ## Values -/

/-- An element of an array or the value of a member, with the white space around it. -/
structure Item where
  before : Text
  value : Text
  after : Text

def Item.text (item : Item) : Text := item.before ++ item.value ++ item.after

def Item.Spaced (item : Item) : Prop := Blank item.before ∧ Blank item.after

structure Member where
  before : Text
  literal : Text
  gap : Text
  item : Item
  name : Text

def Member.text (member : Member) : Text :=
  member.before ++ member.literal ++ member.gap ++ 0x3a :: member.item.text

def Member.Named (member : Member) : Prop :=
  Blank member.before ∧ Literal member.literal member.name ∧ Blank member.gap ∧
    member.item.Spaced

/-- The texts with a comma between each two. -/
def separated : List Text → Text
  | [] => []
  | [text] => text
  | text :: next :: rest => text ++ 0x2c :: separated (next :: rest)

inductive Value : Text → Prop where
  | nullWord : Value [0x6e, 0x75, 0x6c, 0x6c]
  | trueWord : Value [0x74, 0x72, 0x75, 0x65]
  | falseWord : Value [0x66, 0x61, 0x6c, 0x73, 0x65]
  | number {text : Text} (h : Number text) : Value text
  | string {text value : Text} (h : Literal text value) : Value text
  | emptyArray {gap : Text} (h : Blank gap) : Value (0x5b :: (gap ++ [0x5d]))
  | array (items : List Item) (hne : items ≠ []) (hspaced : ∀ item ∈ items, item.Spaced)
      (hvalues : ∀ item ∈ items, Value item.value) :
      Value (0x5b :: (separated (items.map Item.text) ++ [0x5d]))
  | emptyObject {gap : Text} (h : Blank gap) : Value (0x7b :: (gap ++ [0x7d]))
  | object (members : List Member) (hne : members ≠ [])
      (hnamed : ∀ member ∈ members, member.Named)
      (hvalues : ∀ member ∈ members, Value member.item.value) :
      Value (0x7b :: (separated (members.map Member.text) ++ [0x7d]))

/-- The body of an object, and the names of its members in order. -/
def ObjectBody (body : Text) (names : List Text) : Prop :=
  (Blank body ∧ names = []) ∨
  ∃ members : List Member, members ≠ [] ∧ (∀ member ∈ members, member.Named) ∧
    (∀ member ∈ members, Value member.item.value) ∧
    body = separated (members.map Member.text) ∧ names = members.map Member.name

/-- A JSON text whose value is an object. -/
def ObjectText (text : Text) (names : List Text) : Prop :=
  ∃ before body after, Blank before ∧ ObjectBody body names ∧ Blank after ∧
    text = before ++ 0x7b :: (body ++ 0x7d :: after)

/-- The text of an object with the parts it is made of; `gap` stands between the braces of
an object without members. -/
structure Object where
  before : Text
  members : List Member
  gap : Text
  after : Text
  beforeBlank : Blank before
  gapBlank : Blank gap
  afterBlank : Blank after
  named : ∀ member ∈ members, member.Named
  valued : ∀ member ∈ members, Value member.item.value

namespace Object

def body (object : Object) : Text :=
  if object.members = [] then object.gap else separated (object.members.map Member.text)

def text (object : Object) : Text := object.before ++ 0x7b :: (object.body ++ 0x7d :: object.after)

theorem objectBody (object : Object) :
    ObjectBody object.body (object.members.map Member.name) := by
  unfold body
  by_cases hnone : object.members = []
  · rw [if_pos hnone, hnone]
    exact Or.inl ⟨object.gapBlank, rfl⟩
  · rw [if_neg hnone]
    exact Or.inr ⟨object.members, hnone, object.named, object.valued, rfl, rfl⟩

theorem objectText (object : Object) :
    ObjectText object.text (object.members.map Member.name) :=
  ⟨object.before, object.body, object.after, object.beforeBlank, object.objectBody,
    object.afterBlank, rfl⟩

end Object

/-- Every text of an object has its parts. -/
theorem exists_object {text : Text} {names : List Text} (h : ObjectText text names) :
    ∃ object : Object, object.text = text ∧ object.members.map Member.name = names := by
  have hblank : Blank [] := by simp [Blank]
  obtain ⟨before, body, after, hbefore, hbody, hafter, rfl⟩ := h
  rcases hbody with ⟨hgap, rfl⟩ | ⟨members, hne, hnamed, hvalues, rfl, rfl⟩
  · exact ⟨⟨before, [], body, after, hbefore, hgap, hafter, by simp, by simp⟩,
      by simp [Object.text, Object.body], rfl⟩
  · exact ⟨⟨before, members, [], after, hbefore, hblank, hafter, hnamed, hvalues⟩,
      by simp [Object.text, Object.body, hne], rfl⟩

/-! ## Units that end nothing -/

/-- The quotation mark, the brackets, the braces and the comma. -/
def isMark (u : UInt16) : Bool :=
  u == 0x22 || u == 0x7b || u == 0x7d || u == 0x5b || u == 0x5d || u == 0x2c

/-- Neither a mark nor white space. -/
def isPlain (u : UInt16) : Bool := !isMark u && !isBlank u

theorem isMark_of_isBlank {u : UInt16} (h : isBlank u = true) : isMark u = false := by
  simp only [isBlank, Bool.or_eq_true, beq_iff_eq] at h
  rcases h with ((rfl | rfl) | rfl) | rfl <;> rfl

theorem isPlain_of_isDigit {u : UInt16} (h : isDigit u = true) : isPlain u = true := by
  simp only [isDigit, Bool.and_eq_true, decide_eq_true_eq, UInt16.le_iff_toNat_le] at h
  simp only [isPlain, isMark, isBlank, Bool.and_eq_true, Bool.not_eq_true', Bool.or_eq_false_iff,
    beq_eq_false_iff_ne, ne_eq, ← UInt16.toNat_inj]
  simp only [UInt16.reduceToNat] at h ⊢
  omega

theorem plain_of_digits {text : Text} (h : Digits text) : ∀ u ∈ text, isPlain u = true := by
  intro u hu
  exact isPlain_of_isDigit (h.2 u hu)

theorem plain_of_whole {text : Text} (h : Whole text) : ∀ u ∈ text, isPlain u = true := by
  rcases h with rfl | ⟨u, rest, rfl, hu, _, hrest⟩
  · simp [isPlain, isMark, isBlank]
  · intro v hv
    rcases List.mem_cons.mp hv with rfl | hv
    · exact isPlain_of_isDigit hu
    · exact isPlain_of_isDigit (hrest v hv)

theorem plain_of_fraction {text : Text} (h : Fraction text) : ∀ u ∈ text, isPlain u = true := by
  rcases h with rfl | ⟨digits, hdigits, rfl⟩
  · simp
  · intro u hu
    rcases List.mem_cons.mp hu with rfl | hu
    · rfl
    · exact plain_of_digits hdigits u hu

theorem plain_of_exponent {text : Text} (h : Exponent text) : ∀ u ∈ text, isPlain u = true := by
  rcases h with rfl | ⟨mark, sign, digits, hmark, hsign, hdigits, rfl⟩
  · simp
  · intro u hu
    rcases List.mem_cons.mp hu with rfl | hu
    · rcases hmark with rfl | rfl <;> rfl
    · rcases List.mem_append.mp hu with hu | hu
      · rcases hsign with rfl | rfl | rfl
        · cases hu
        · rcases List.mem_singleton.mp hu with rfl
          rfl
        · rcases List.mem_singleton.mp hu with rfl
          rfl
      · exact plain_of_digits hdigits u hu

theorem plain_of_number {text : Text} (h : Number text) : ∀ u ∈ text, isPlain u = true := by
  obtain ⟨sign, whole, fraction, exponent, hsign, hwhole, hfraction, hexponent, rfl⟩ := h
  intro u hu
  simp only [List.mem_append, or_assoc] at hu
  rcases hu with hu | hu | hu | hu
  · rcases hsign with rfl | rfl
    · cases hu
    · rcases List.mem_singleton.mp hu with rfl
      rfl
  · exact plain_of_whole hwhole u hu
  · exact plain_of_fraction hfraction u hu
  · exact plain_of_exponent hexponent u hu

/-- A text without quotation marks, backslashes and controls denotes itself. -/
theorem content_self {text : Text} (h : ∀ u ∈ text, isUnescaped u = true) : Content text text := by
  induction text with
  | nil => exact .nil
  | cons u text ih =>
    exact .unit (h u List.mem_cons_self) (ih fun v hv => h v (List.mem_cons_of_mem u hv))

/-- A digit, a hyphen, a bracket, a quotation mark or a letter: neither white space nor
outside ASCII. -/
def isGraphic (u : UInt16) : Bool := 0x20 < u && u < 0x7f

theorem isGraphic_of_isDigit {u : UInt16} (h : isDigit u = true) : isGraphic u = true := by
  simp only [isDigit, Bool.and_eq_true, decide_eq_true_eq, UInt16.le_iff_toNat_le] at h
  simp only [isGraphic, Bool.and_eq_true, decide_eq_true_eq, UInt16.lt_iff_toNat_lt]
  simp only [UInt16.reduceToNat] at h ⊢
  omega

theorem head_of_number {text : Text} (h : Number text) :
    ∃ u rest, text = u :: rest ∧ isGraphic u = true ∧ u ≠ 0x22 := by
  have hdigit : ∀ u, isDigit u = true → u ≠ 0x22 := by
    rintro u hu rfl
    exact absurd hu (by decide)
  obtain ⟨sign, whole, fraction, exponent, hsign, hwhole, _, _, rfl⟩ := h
  rcases hsign with rfl | rfl
  · rcases hwhole with rfl | ⟨u, rest, rfl, hu, _, _⟩
    · exact ⟨0x30, _, rfl, rfl, by decide⟩
    · exact ⟨u, _, rfl, isGraphic_of_isDigit hu, hdigit u hu⟩
  · exact ⟨0x2d, _, rfl, rfl, by decide⟩

/-- A value is a string literal, or its first unit is graphic and no quotation mark. -/
theorem Value.literal_or_head {text : Text} (h : Value text) :
    (∃ value, Literal text value) ∨
      ∃ u rest, text = u :: rest ∧ isGraphic u = true ∧ u ≠ 0x22 := by
  cases h with
  | nullWord => exact Or.inr ⟨_, _, rfl, rfl, by decide⟩
  | trueWord => exact Or.inr ⟨_, _, rfl, rfl, by decide⟩
  | falseWord => exact Or.inr ⟨_, _, rfl, rfl, by decide⟩
  | number h => exact Or.inr (head_of_number h)
  | string h => exact Or.inl ⟨_, h⟩
  | emptyArray _ => exact Or.inr ⟨_, _, rfl, rfl, by decide⟩
  | array items _ _ _ => exact Or.inr ⟨_, _, rfl, rfl, by decide⟩
  | emptyObject _ => exact Or.inr ⟨_, _, rfl, rfl, by decide⟩
  | object members _ _ _ => exact Or.inr ⟨_, _, rfl, rfl, by decide⟩

theorem decodeLiteral_of_head {u : UInt16} (h : u ≠ 0x22) (rest : Text) :
    decodeLiteral (u :: rest) = none := by
  rw [decodeLiteral, if_neg]
  rintro ⟨hquote, _⟩
  exact h hquote

theorem isBlank_of_isGraphic {u : UInt16} (h : isGraphic u = true) : isBlank u = false := by
  simp only [isGraphic, Bool.and_eq_true, decide_eq_true_eq, UInt16.lt_iff_toNat_lt] at h
  simp only [isBlank, Bool.or_eq_false_iff, beq_eq_false_iff_ne, ne_eq, ← UInt16.toNat_inj]
  simp only [UInt16.reduceToNat] at h ⊢
  omega

/-- A value starts with a unit that is not white space. -/
theorem Value.head {text : Text} (h : Value text) :
    ∃ u rest, text = u :: rest ∧ isBlank u = false := by
  rcases h.literal_or_head with ⟨_, content, _, rfl⟩ | ⟨u, rest, rfl, hu, _⟩
  · exact ⟨_, _, rfl, rfl⟩
  · exact ⟨u, rest, rfl, isBlank_of_isGraphic hu⟩

/-! ## Writing strings -/

def isHigh (u : UInt16) : Bool := 0xd800 ≤ u && u ≤ 0xdbff

def isLow (u : UInt16) : Bool := 0xdc00 ≤ u && u ≤ 0xdfff

def hexDigit (u : UInt16) : UInt16 := if u < 10 then 0x30 + u else 0x57 + u

def writeUnicode (u : UInt16) : Text :=
  [0x5c, 0x75, hexDigit (u / 4096), hexDigit (u / 256 % 16), hexDigit (u / 16 % 16),
    hexDigit (u % 16)]

/-- The second unit of the two-unit escape of `u`. -/
def shortEscape? (u : UInt16) : Option UInt16 :=
  if u = 0x22 ∨ u = 0x5c then some u
  else if u = 0x08 then some 0x62
  else if u = 0x0c then some 0x66
  else if u = 0x0a then some 0x6e
  else if u = 0x0d then some 0x72
  else if u = 0x09 then some 0x74
  else none

/-- One code unit outside a surrogate pair, as `JSON.stringify` writes it. -/
def writeUnit (u : UInt16) : Text :=
  match shortEscape? u with
  | some e => [0x5c, e]
  | none => if u < 0x20 || isHigh u || isLow u then writeUnicode u else [u]

def writeContent : Text → Text
  | [] => []
  | [u] => writeUnit u
  | u :: v :: rest =>
    if isHigh u && isLow v then u :: v :: writeContent rest
    else writeUnit u ++ writeContent (v :: rest)

def write (value : Text) : Text := 0x22 :: (writeContent value ++ [0x22])

/-- An array of strings. -/
def writeArray (values : List Text) : Text := 0x5b :: (separated (values.map write) ++ [0x5d])

theorem hexValue_hexDigit {u : UInt16} (h : u.toNat < 16) : hexValue? (hexDigit u) = some u := by
  have hall : ∀ n < 16, hexValue? (hexDigit (UInt16.ofNat n)) = some (UInt16.ofNat n) := by decide
  simpa using hall u.toNat h

theorem fourDigits_writeUnicode (u : UInt16) :
    fourDigits? (hexDigit (u / 4096)) (hexDigit (u / 256 % 16)) (hexDigit (u / 16 % 16))
      (hexDigit (u % 16)) = some u := by
  have hlt := u.toNat_lt
  have ha : (u / 4096).toNat < 16 := by
    rw [UInt16.toNat_div]
    simp only [UInt16.reduceToNat]
    omega
  have hb (v : UInt16) : (v % 16).toNat < 16 := by
    rw [UInt16.toNat_mod]
    simp only [UInt16.reduceToNat]
    omega
  have hsum : ((u / 4096 * 16 + u / 256 % 16) * 16 + u / 16 % 16) * 16 + u % 16 = u := by
    rw [← UInt16.toNat_inj]
    simp only [UInt16.toNat_add, UInt16.toNat_mul, UInt16.toNat_mod, UInt16.toNat_div,
      UInt16.reduceToNat]
    omega
  simp only [fourDigits?, hexValue_hexDigit ha, hexValue_hexDigit (hb _), Option.pure_def,
    Option.bind_eq_bind, Option.bind_some, hsum]

theorem isUnescaped_of_surrogate {u : UInt16} (h : 0xd800 ≤ u) : isUnescaped u = true := by
  simp only [UInt16.le_iff_toNat_le, UInt16.reduceToNat] at h
  simp only [isUnescaped, Bool.and_eq_true, decide_eq_true_eq, bne_iff_ne, ne_eq,
    UInt16.le_iff_toNat_le, ← UInt16.toNat_inj, UInt16.reduceToNat]
  omega

theorem escape_of_shortEscape {u e : UInt16} (h : shortEscape? u = some e) :
    escape? e = some u := by
  unfold shortEscape? at h
  split_ifs at h with hself hb hf hn hr ht
  · cases h
    rcases hself with rfl | rfl <;> rfl
  all_goals
    subst u
    cases h
    rfl

theorem content_writeUnit (u : UInt16) {text value : Text} (h : Content text value) :
    Content (writeUnit u ++ text) (u :: value) := by
  unfold writeUnit
  split
  · rename_i he
    exact .escape (escape_of_shortEscape he) h
  · rename_i hnone
    split
    · exact .unicode (fourDigits_writeUnicode u) h
    · rename_i hplain
      have hself : ¬ (u = 0x22 ∨ u = 0x5c) := by
        intro hself
        simp [shortEscape?, hself] at hnone
      simp only [Bool.or_eq_true, not_or, decide_eq_true_eq, UInt16.not_lt] at hself hplain
      apply Content.unit _ h
      simp only [isUnescaped, Bool.and_eq_true, decide_eq_true_eq, bne_iff_ne, ne_eq]
      exact ⟨⟨hplain.1.1, hself.1⟩, hself.2⟩

theorem content_writeContent (value : Text) : Content (writeContent value) value := by
  induction value using writeContent.induct with
  | case1 => exact .nil
  | case2 u => simpa [writeContent] using content_writeUnit u .nil
  | case3 u v rest hpair ih =>
    rw [writeContent, if_pos hpair]
    simp only [isHigh, isLow, Bool.and_eq_true, decide_eq_true_eq] at hpair
    have hv : 0xd800 ≤ v := UInt16.le_trans (by decide) hpair.2.1
    exact .unit (isUnescaped_of_surrogate hpair.1.1) (.unit (isUnescaped_of_surrogate hv) ih)
  | case4 u v rest hpair ih =>
    rw [writeContent, if_neg hpair]
    exact content_writeUnit u ih

/-- A literal ends at its first quotation mark that is not escaped. -/
theorem Content.append_inj {a b va vb ra rb : Text} (ha : Content a va) (hb : Content b vb)
    (h : a ++ 0x22 :: ra = b ++ 0x22 :: rb) : va = vb ∧ ra = rb := by
  induction ha generalizing b vb with
  | nil =>
    cases hb with
    | nil => exact ⟨rfl, (List.cons.inj h).2⟩
    | unit hu _ => exact absurd (List.cons.inj h).1.symm (ne_of_isUnescaped hu).1
    | escape | unicode => simp at h
  | unit hu _ ih =>
    cases hb with
    | nil => exact absurd (List.cons.inj h).1 (ne_of_isUnescaped hu).1
    | unit _ hrest =>
      obtain ⟨rfl, htail⟩ := List.cons.inj h
      obtain ⟨rfl, hr⟩ := ih hrest htail
      exact ⟨rfl, hr⟩
    | escape | unicode => exact absurd (List.cons.inj h).1 (ne_of_isUnescaped hu).2
  | escape he _ ih =>
    cases hb with
    | nil => simp at h
    | unit hu _ => exact absurd (List.cons.inj h).1.symm (ne_of_isUnescaped hu).2
    | escape he' hrest =>
      obtain ⟨rfl, htail⟩ := List.cons.inj (List.cons.inj h).2
      cases he.symm.trans he'
      obtain ⟨rfl, hr⟩ := ih hrest htail
      exact ⟨rfl, hr⟩
    | unicode => exact absurd (List.cons.inj (List.cons.inj h).2).1 (ne_of_escape? he)
  | unicode hv _ ih =>
    cases hb with
    | nil => simp at h
    | unit hu _ => exact absurd (List.cons.inj h).1.symm (ne_of_isUnescaped hu).2
    | escape he _ => exact absurd (List.cons.inj (List.cons.inj h).2).1.symm (ne_of_escape? he)
    | unicode hv' hrest =>
      simp only [List.cons_append, List.cons.injEq, true_and] at h
      obtain ⟨rfl, rfl, rfl, rfl, h⟩ := h
      cases hv.symm.trans hv'
      obtain ⟨rfl, hr⟩ := ih hrest h
      exact ⟨rfl, hr⟩

theorem write_append_inj {a b ra rb : Text} (h : write a ++ ra = write b ++ rb) :
    a = b ∧ ra = rb := by
  apply (content_writeContent a).append_inj (content_writeContent b)
  simpa [write] using h

theorem separated_write_inj {values others : List Text}
    (h : separated (values.map write) ++ [0x5d] = separated (others.map write) ++ [0x5d]) :
    values = others := by
  induction values generalizing others with
  | nil =>
    rcases others with _ | ⟨other, _ | ⟨next, others⟩⟩
    · rfl
    · simp [separated, write] at h
    · simp [separated, write] at h
  | cons value values ih =>
    rcases others with _ | ⟨other, others⟩
    · cases values <;> simp [separated, write] at h
    rcases values with _ | ⟨next, values⟩ <;> rcases others with _ | ⟨next', others⟩
    · simp only [List.map_cons, List.map_nil, separated] at h
      rw [(write_append_inj h).1]
    · simp only [List.map_cons, List.map_nil, separated, List.append_assoc] at h
      have hrest := (write_append_inj h).2
      simp at hrest
    · simp only [List.map_cons, List.map_nil, separated, List.append_assoc] at h
      have hrest := (write_append_inj h).2
      simp at hrest
    · simp only [List.map_cons, separated, List.append_assoc] at h
      obtain ⟨rfl, hrest⟩ := write_append_inj h
      have htail : separated ((next :: values).map write) ++ [0x5d] =
          separated ((next' :: others).map write) ++ [0x5d] := (List.cons.inj hrest).2
      rw [ih htail]

theorem writeArray_injective : Function.Injective writeArray :=
  fun _ _ h => separated_write_inj (List.cons.inj h).2

end Shared.Json
