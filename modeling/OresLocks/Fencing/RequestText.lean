import OresLocks.Fencing.Decision
import OresLocks.JsText
import OresLocks.Shared.Json
import Mathlib.Data.List.Nodup

/-!
# JSON texts of fenced write requests

A request on the wire is the text of an object. A decoder reads it through the list of its
members; what it may find wrong with it is an unexpected member or a fault of one field.
-/

namespace OresLocks.Fencing

set_option autoImplicit false

open Fence Shared.Json Shared.Numeral
open OresLocks.Ts (js js_injective Unicode)

inductive WireField where
  | tenantScope
  | resourceKey
  | fencingToken
  | operationId
  | payloadSha256
  | holder
  | leaseId
  deriving DecidableEq, Repr

namespace WireField

def name : WireField → String
  | .tenantScope => "tenantScope"
  | .resourceKey => "resourceKey"
  | .fencingToken => "fencingToken"
  | .operationId => "operationId"
  | .payloadSha256 => "payloadSha256"
  | .holder => "holder"
  | .leaseId => "leaseId"

def all : List WireField :=
  [.tenantScope, .resourceKey, .fencingToken, .operationId, .payloadSha256, .holder, .leaseId]

theorem mem_all (f : WireField) : f ∈ all := by
  cases f <;> decide

def isOptional : WireField → Bool
  | .holder => true
  | .leaseId => true
  | _ => false

theorem name_ascii (f : WireField) : ∀ u ∈ js f.name, u.toNat < 128 := by
  have hall : (js f.name).all (fun u => decide (u.toNat < 128)) = true := by
    cases f <;> rfl
  simpa using hall

end WireField

/-- The text of an object, in Unicode. -/
structure RequestText where
  object : Shared.Json.Object
  unicode : Unicode object.text

/-- Every text of an object in Unicode is one. -/
theorem exists_requestText {text : JsString} {names : List JsString} (h : ObjectText text names)
    (hunicode : Unicode text) : ∃ request : RequestText, request.object.text = text := by
  obtain ⟨object, rfl, _⟩ := exists_object h
  exact ⟨⟨object, hunicode⟩, rfl⟩

/-- The text is past the size limit of the decoders, which they check before anything else. -/
def RequestText.TooLarge (request : RequestText) : Prop :=
  4096 < (JsString.encode request.object.text).length

/-! ## Values in Unicode -/

section Parts

theorem ascii_of_isBlank {u : UInt16} (h : isBlank u = true) : u.toNat < 128 := by
  simp only [isBlank, Bool.or_eq_true, beq_iff_eq] at h
  rcases h with ((rfl | rfl) | rfl) | rfl <;> decide

theorem unicode_of_blank_append {blank text : JsString} (hblank : Blank blank)
    (h : Unicode (blank ++ text)) : Unicode text := by
  induction blank with
  | nil => exact h
  | cons u blank ih =>
    have hu := ascii_of_isBlank (hblank u List.mem_cons_self)
    exact ih (fun v hv => hblank v (List.mem_cons_of_mem u hv)) (Unicode.split (s := []) hu h).2

theorem unicode_of_append_blank {blank text : JsString} (hblank : Blank blank)
    (h : Unicode (text ++ blank)) : Unicode text := by
  cases blank with
  | nil => simpa using h
  | cons u blank => exact (Unicode.split (ascii_of_isBlank (hblank u List.mem_cons_self)) h).1

theorem unicode_of_separated {texts : List JsString} (h : Unicode (separated texts)) :
    ∀ text ∈ texts, Unicode text := by
  induction texts with
  | nil => simp
  | cons first texts ih =>
    cases texts with
    | nil =>
      intro text htext
      rw [List.mem_singleton.mp htext]
      exact h
    | cons next texts =>
      obtain ⟨hfirst, hrest⟩ := Unicode.split (by decide) h
      intro text htext
      rcases List.mem_cons.mp htext with rfl | htext
      · exact hfirst
      · exact ih hrest text htext

theorem RequestText.value_unicode (request : RequestText) {member : Member}
    (hmem : member ∈ request.object.members) : Unicode member.item.value := by
  have hbody : Unicode request.object.body := by
    have hopened := (Unicode.split (by decide) request.unicode).2
    exact (Unicode.split (by decide) hopened).1
  rw [Object.body, if_neg (List.ne_nil_of_mem hmem)] at hbody
  have hmember := unicode_of_separated hbody _ (List.mem_map_of_mem hmem)
  obtain ⟨_, _, _, hbefore, hafter⟩ := request.object.named member hmem
  have hitem : Unicode member.item.text := (Unicode.split (by decide) hmember).2
  unfold Item.text at hitem
  exact unicode_of_blank_append hbefore
    (unicode_of_append_blank hafter hitem)

end Parts

/-! ## What a decoder may find wrong -/

def Known (name : JsString) : Prop := ∃ f : WireField, name = js f.name

/-- The name of a member that is unknown or has come before. -/
def Unexpected (names : List JsString) (name : JsString) : Prop :=
  ∃ before after, names = before ++ name :: after ∧ (¬ Known name ∨ name ∈ before)

/-- The value of a field: absent, no string, or a string. -/
abbrev FieldValue := Option (Option JsString)

def valueOf (members : List Member) (f : WireField) : FieldValue :=
  (members.find? fun member => member.name == js f.name).map fun member =>
    decodeLiteral member.item.value

inductive Fault where
  | missing
  | notString
  | empty
  | tooLong
  | malformed
  | refused
  deriving DecidableEq, Repr

def isTokenText (text : JsString) : Bool := isNumeral text && decide (natOf text < 2 ^ 64)

theorem isTokenText_iff (text : JsString) :
    isTokenText text = true ↔ ∃ n, n < 2 ^ 64 ∧ text = numeral n := by
  rw [isTokenText, Bool.and_eq_true, decide_eq_true_eq]
  constructor
  · rintro ⟨hnumeral, hlt⟩
    exact ⟨natOf text, hlt, (numeral_natOf hnumeral).symm⟩
  · rintro ⟨n, hlt, rfl⟩
    exact ⟨isNumeral_numeral n, by rw [natOf_numeral]; exact hlt⟩

/-- The name of a field in the errors of the constructors. -/
def fieldName : Field → String
  | .tenantScope => "tenantScope"
  | .resourceKey => "resourceKey"
  | .operationId => "operationId"
  | .holder => "holder"
  | .leaseId => "leaseId"

def boundFault (max : Nat) (text : JsString) : Option Fault :=
  if text = [] then some .empty
  else if max < (JsString.encode text).length then some .tooLong
  else none

/-- The fault of a string in a field; `refuses` is what a lock key may not be. -/
def textFault (refuses : JsString → Bool) (f : WireField) (text : JsString) : Option Fault :=
  match f with
  | .tenantScope => boundFault maxTenantScopeBytes text
  | .resourceKey => (boundFault 512 text).or (if refuses text then some .refused else none)
  | .fencingToken => if isTokenText text then none else some .malformed
  | .operationId => boundFault maxOperationIdBytes text
  | .payloadSha256 => if JsString.matchesLowerSha256 text then none else some .malformed
  | .holder => boundFault maxFenceMetadataBytes text
  | .leaseId => boundFault maxFenceMetadataBytes text

section Bounds

variable {refuses : JsString → Bool} {max : Nat} {text : JsString}

theorem boundFault_empty (h : text = []) : boundFault max text = some .empty := if_pos h

theorem boundFault_tooLong (h : text ≠ []) (hlong : max < (JsString.encode text).length) :
    boundFault max text = some .tooLong := by
  rw [boundFault, if_neg h, if_pos hlong]

theorem boundFault_eq_none_iff :
    boundFault max text = none ↔ text ≠ [] ∧ ¬ max < (JsString.encode text).length := by
  unfold boundFault
  by_cases hempty : text = []
  · simp [hempty]
  · simp [hempty]

theorem keyFault_of_bound {fault : Fault} (h : boundFault 512 text = some fault) :
    textFault refuses .resourceKey text = some fault := by
  rw [textFault, h, Option.some_or]

/-- Within its bounds a key has no fault but that it is refused. -/
theorem keyFault_within (h : boundFault 512 text = none) :
    textFault refuses .resourceKey text = if refuses text then some .refused else none := by
  rw [textFault, h, Option.none_or]

theorem keyFault_bound (h : textFault refuses .resourceKey text = none) :
    boundFault 512 text = none := by
  rw [textFault, Option.or_eq_none_iff] at h
  exact h.1

end Bounds

def faultOf (refuses : JsString → Bool) (f : WireField) : FieldValue → Option Fault
  | none => if f.isOptional then none else some .missing
  | some none => some .notString
  | some (some text) => textFault refuses f text

/-- The texts of a request, as the units of its strings. -/
abbrev Texts := Write JsString JsString JsString (Option JsString)

/-- The values of the fields are these texts. -/
structure Complete (values : WireField → FieldValue) (texts : Texts) : Prop where
  tenantScope : values .tenantScope = some (some texts.tenantScope)
  resourceKey : values .resourceKey = some (some texts.resourceKey)
  fencingToken : values .fencingToken = some (some texts.fencingToken)
  operationId : values .operationId = some (some texts.operationId)
  payloadSha256 : values .payloadSha256 = some (some texts.payloadSha256)
  holder : values .holder = texts.holder.map some
  leaseId : values .leaseId = texts.leaseId.map some

theorem Complete.unique {values : WireField → FieldValue} {texts texts' : Texts}
    (h : Complete values texts) (h' : Complete values texts') : texts = texts' := by
  have hoption : ∀ {a b : Option JsString}, a.map some = b.map some → a = b := by
    intro a b hab
    exact Option.map_injective (Option.some_injective _) hab
  have htenant := h.tenantScope.symm.trans h'.tenantScope
  have hkey := h.resourceKey.symm.trans h'.resourceKey
  have htoken := h.fencingToken.symm.trans h'.fencingToken
  have hoperation := h.operationId.symm.trans h'.operationId
  have hsha := h.payloadSha256.symm.trans h'.payloadSha256
  have hholder := hoption (h.holder.symm.trans h'.holder)
  have hlease := hoption (h.leaseId.symm.trans h'.leaseId)
  cases texts
  cases texts'
  simp_all

/-- No text of the request has a fault. -/
structure Faultless (refuses : JsString → Bool) (texts : Texts) : Prop where
  tenantScope : textFault refuses .tenantScope texts.tenantScope = none
  resourceKey : textFault refuses .resourceKey texts.resourceKey = none
  fencingToken : textFault refuses .fencingToken texts.fencingToken = none
  operationId : textFault refuses .operationId texts.operationId = none
  payloadSha256 : textFault refuses .payloadSha256 texts.payloadSha256 = none
  holder : ∀ text, texts.holder = some text → textFault refuses .holder text = none
  leaseId : ∀ text, texts.leaseId = some text → textFault refuses .leaseId text = none

theorem Complete.no_fault {refuses : JsString → Bool} {values : WireField → FieldValue}
    {texts : Texts} (h : Complete values texts) (hfaultless : Faultless refuses texts)
    (g : WireField) : faultOf refuses g (values g) = none := by
  have hoptional : ∀ {g : WireField} {text : Option JsString}, g.isOptional = true →
      (∀ t, text = some t → textFault refuses g t = none) →
      faultOf refuses g (text.map some) = none := by
    intro g text hg htext
    cases text with
    | none => simp [faultOf, hg]
    | some t => exact htext t rfl
  cases g with
  | tenantScope => rw [h.tenantScope]; exact hfaultless.tenantScope
  | resourceKey => rw [h.resourceKey]; exact hfaultless.resourceKey
  | fencingToken => rw [h.fencingToken]; exact hfaultless.fencingToken
  | operationId => rw [h.operationId]; exact hfaultless.operationId
  | payloadSha256 => rw [h.payloadSha256]; exact hfaultless.payloadSha256
  | holder => rw [h.holder]; exact hoptional rfl hfaultless.holder
  | leaseId => rw [h.leaseId]; exact hoptional rfl hfaultless.leaseId

section Members

variable {members : List Member} {names : List JsString} {name : JsString}

theorem Unexpected.concat (h : Unexpected names name) (last : JsString) :
    Unexpected (names ++ [last]) name := by
  obtain ⟨before, after, rfl, hbad⟩ := h
  exact ⟨before, after ++ [last], by simp, hbad⟩

theorem unexpected_concat_iff {last : JsString} :
    Unexpected (names ++ [last]) name ↔
      Unexpected names name ∨ name = last ∧ (¬ Known last ∨ last ∈ names) := by
  constructor
  · rintro ⟨before, after, hsplit, hbad⟩
    rcases List.eq_nil_or_concat after with rfl | ⟨front, final, rfl⟩
    · obtain ⟨rfl, hlast⟩ := List.append_inj' hsplit rfl
      obtain rfl := (List.cons.inj hlast).1
      exact Or.inr ⟨rfl, hbad⟩
    · rw [List.concat_eq_append, ← List.cons_append, ← List.append_assoc] at hsplit
      obtain ⟨rfl, _⟩ := List.append_inj' hsplit rfl
      exact Or.inl ⟨before, front, rfl, hbad⟩
  · rintro (h | ⟨rfl, hbad⟩)
    · exact h.concat last
    · exact ⟨names, [], rfl, hbad⟩

theorem nodup_of_not_unexpected (h : ∀ name, ¬ Unexpected names name) : names.Nodup := by
  induction names using List.reverseRecOn with
  | nil => exact List.nodup_nil
  | append_singleton names last ih =>
    have hnodup := ih fun name hname => h name (hname.concat last)
    rw [← List.concat_eq_append, List.nodup_concat]
    refine ⟨?_, hnodup⟩
    intro hmem
    exact h last ⟨names, [], rfl, Or.inr hmem⟩

/-- Without an unexpected name, all names are known and differ. -/
theorem not_unexpected_iff :
    (∀ name, ¬ Unexpected names name) ↔ (∀ name ∈ names, Known name) ∧ names.Nodup := by
  constructor
  · intro h
    refine ⟨?_, nodup_of_not_unexpected h⟩
    intro name hmem
    obtain ⟨before, after, rfl⟩ := List.append_of_mem hmem
    by_contra hunknown
    exact h name ⟨before, after, rfl, Or.inl hunknown⟩
  · rintro ⟨hknown, hnodup⟩ name ⟨before, after, rfl, hunknown | hbefore⟩
    · exact hunknown (hknown name (by simp))
    · rw [List.nodup_append] at hnodup
      exact hnodup.2.2 name hbefore name List.mem_cons_self rfl

end Members

/-! ## Requests without escapes -/

section Plain

/-- A string that stands for itself between quotation marks. -/
def Plain (text : String) : Prop := ∀ u ∈ js text, isUnescaped u = true

instance (text : String) : Decidable (Plain text) := List.decidableBAll _ _

def quoted (text : String) : JsString := 0x22 :: (js text ++ [0x22])

def plainMember (entry : String × String) : Member :=
  ⟨[], quoted entry.1, [], ⟨[], quoted entry.2, []⟩, js entry.1⟩

theorem literal_quoted {text : String} (h : Plain text) : Literal (quoted text) (js text) :=
  ⟨js text, content_self h, rfl⟩

theorem unicode_js (text : String) : Unicode (js text) := ⟨text, rfl⟩

theorem unicode_quoted (text : String) : Unicode (quoted text) :=
  (unicode_js "\"").append ((unicode_js text).append (unicode_js "\""))

theorem unicode_separated {texts : List JsString} (h : ∀ text ∈ texts, Unicode text) :
    Unicode (separated texts) := by
  induction texts with
  | nil => exact unicode_js ""
  | cons first texts ih =>
    have hfirst := h first List.mem_cons_self
    cases texts with
    | nil => exact hfirst
    | cons next texts =>
      have hrest := ih fun text htext => h text (List.mem_cons_of_mem first htext)
      exact hfirst.append ((unicode_js ",").append hrest)

theorem unicode_plainMember (entry : String × String) : Unicode (plainMember entry).text := by
  have hvalue : Unicode (0x3a :: quoted entry.2) := (unicode_js ":").append (unicode_quoted entry.2)
  simpa [Member.text, plainMember, Item.text] using (unicode_quoted entry.1).append hvalue

/-- The request with these names and values, without white space. -/
def plainRequest (fields : List (String × String))
    (hplain : ∀ entry ∈ fields, Plain entry.1 ∧ Plain entry.2) : RequestText where
  object := {
    before := []
    members := fields.map plainMember
    gap := []
    after := []
    beforeBlank := List.forall_mem_nil _
    gapBlank := List.forall_mem_nil _
    afterBlank := List.forall_mem_nil _
    named := by
      rw [List.forall_mem_map]
      intro entry hmem
      exact ⟨List.forall_mem_nil _, literal_quoted (hplain entry hmem).1, List.forall_mem_nil _,
        List.forall_mem_nil _, List.forall_mem_nil _⟩
    valued := by
      rw [List.forall_mem_map]
      intro entry hmem
      exact .string (literal_quoted (hplain entry hmem).2) }
  unicode := by
    have hbody : Unicode (separated ((fields.map plainMember).map Member.text)) := by
      apply unicode_separated
      rw [List.map_map, List.forall_mem_map]
      intro entry _
      exact unicode_plainMember entry
    have htext := (unicode_js "\x7b").append (hbody.append (unicode_js "\x7d"))
    unfold Object.text Object.body
    cases fields with
    | nil => exact (unicode_js "\x7b").append (unicode_js "\x7d")
    | cons entry fields => exact htext

/-- The value of a field in such a request. -/
theorem valueOf_plain {fields : List (String × String)}
    (hplain : ∀ entry ∈ fields, Plain entry.1 ∧ Plain entry.2) (f : WireField) :
    valueOf (plainRequest fields hplain).object.members f =
      (fields.find? fun entry => entry.1 == f.name).map fun entry => some (js entry.2) := by
  change Option.map _ ((fields.map plainMember).find? _) = _
  have hsame : (fun entry => (plainMember entry).name == js f.name) =
      fun entry : String × String => entry.1 == f.name := by
    funext entry
    rw [Bool.eq_iff_iff, beq_iff_eq, beq_iff_eq]
    exact js_injective.eq_iff
  rw [List.find?_map, Option.map_map]
  change Option.map _ (fields.find? fun entry => (plainMember entry).name == js f.name) = _
  rw [hsame]
  cases hfind : fields.find? fun entry => entry.1 == f.name with
  | none => rfl
  | some entry =>
    have hvalue := (hplain entry (List.mem_of_find?_eq_some hfind)).2
    exact congrArg some (decodeLiteral_of_literal (literal_quoted hvalue))

end Plain

end OresLocks.Fencing
