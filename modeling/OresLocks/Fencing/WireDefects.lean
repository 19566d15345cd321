import OresLocks.Fencing.DartRequestReports
import OresLocks.Fencing.GoWireReports

/-!
# One defect on the wire

An object that is a valid request but for one defect, and how Go and Dart report it. A lock
key is valid when both runtimes admit it.
-/

namespace OresLocks.Fencing

set_option autoImplicit false

open Fence Shared.Json Shared.Utf8
open OresLocks.Ts (js encode_js Unicode)

def refusesEither (text : JsString) : Bool := Go.refuses text || Dart.refuses text

/-- An unexpected member, or one fault of one field. -/
inductive Defect where
  | extra (name : JsString)
  | field (f : WireField) (fault : Fault)
  deriving DecidableEq

/-- The members of a valid request. -/
structure ValidMembers (members : List Member) : Prop where
  clean : ∀ name, ¬ Unexpected (members.map Member.name) name
  good : ∀ f, faultOf refusesEither f (valueOf members f) = none

/-- The members would be those of a valid request without the one defect. -/
inductive Defective : List Member → Defect → Prop where
  | extra (before after : List Member) (member : Member) (hvalid : ValidMembers (before ++ after))
      (hextra : ¬ Known member.name ∨ member.name ∈ (before ++ after).map Member.name) :
      Defective (before ++ member :: after) (.extra member.name)
  | field (members : List Member) (f : WireField) (fault : Fault)
      (hclean : ∀ name, ¬ Unexpected (members.map Member.name) name)
      (hfault : faultOf refusesEither f (valueOf members f) = some fault)
      (hothers : ∀ g, g ≠ f → faultOf refusesEither g (valueOf members g) = none) :
      Defective members (.field f fault)

/-- A Go string and a Dart one are the same text. Without an unpaired surrogate a Dart
string is the text of one Go string; with one it is that of none. -/
def SameText (bytes : Bytes) (units : JsString) : Prop :=
  ∃ text : String, bytes = utf8 text ∧ units = js text

/-- Both decoders fail with a validation error of one code and one field. -/
def SameReport (request : RequestText) : Prop :=
  ∃ error exception field, Go.decodeRequest request = .error error ∧
    Dart.decodeRequest request = .error (.fence exception) ∧ error.code = exception.code ∧
    exception.field = some field ∧ SameText error.field field

section Extra

variable {before after : List Member} {member : Member}

/-- The extra member is the only unexpected one. -/
theorem eq_extra {name : JsString} (hvalid : ValidMembers (before ++ after))
    (h : Unexpected ((before ++ member :: after).map Member.name) name) : name = member.name := by
  obtain ⟨hknown, hnodup⟩ := not_unexpected_iff.mp hvalid.clean
  by_contra hne
  obtain ⟨front, back, hnames, hbad⟩ := h
  have hcount : ((before ++ member :: after).map Member.name).count name =
      ((before ++ after).map Member.name).count name := by
    simp [List.count_append, Ne.symm hne]
  have hone := List.nodup_iff_count_le_one.mp hnodup name
  rw [← hcount, hnames] at hone
  rcases hbad with hunknown | hmem
  · have hpos : 0 < ((before ++ after).map Member.name).count name := by
      rw [← hcount, hnames, List.count_pos_iff]
      simp
    exact hunknown (hknown name (List.count_pos_iff.mp hpos))
  · have hpos := List.count_pos_iff.mpr hmem
    rw [List.count_append, List.count_cons_self] at hone
    omega

theorem exists_extra
    (hextra : ¬ Known member.name ∨ member.name ∈ (before ++ after).map Member.name) :
    ¬ ∀ name, ¬ Unexpected ((before ++ member :: after).map Member.name) name := by
  intro hnone
  obtain ⟨hknown, hnodup⟩ := not_unexpected_iff.mp hnone
  rcases hextra with hunknown | hmem
  · exact hunknown (hknown member.name (by simp))
  · rw [List.map_append, List.map_cons, List.nodup_middle, List.nodup_cons] at hnodup
    rw [List.map_append] at hmem
    exact hnodup.1 hmem

end Extra

section Reports

variable {request : RequestText}

theorem sameReport_large (h : request.TooLarge) : SameReport request := by
  obtain ⟨message, hdart⟩ := Dart.decodeRequest_large h
  exact ⟨_, _, js "request", Go.decodeRequest_large h, hdart, rfl, rfl, "request", rfl, rfl⟩

/-- One unexpected name is what both decoders report, each in its own strings. -/
theorem sameReport_extra_iff {extra : JsString} (hlarge : ¬ request.TooLarge)
    (honly : ∀ name, Unexpected (request.object.members.map Member.name) name → name = extra)
    (hsome : ¬ ∀ name, ¬ Unexpected (request.object.members.map Member.name) name) :
    SameReport request ↔ Unicode extra := by
  have hgo := Go.decodeRequest_answers hlarge
  have hdart := Dart.decodeRequest_answers hlarge
  unfold SameReport
  generalize Go.decodeRequest request = goResult at hgo ⊢
  generalize Dart.decodeRequest request = dartResult at hdart ⊢
  rcases hgo with ⟨name, message, hname⟩ | ⟨_, hnone, _⟩ | ⟨_, _, hnone, _, _, _⟩
  · rcases hdart with ⟨name', exception, hname', hcode, hfield⟩ | ⟨_, hnone, _⟩ |
        ⟨_, _, hnone, _, _, _⟩
    · rw [honly name' hname'] at hfield
      rw [honly name hname]
      constructor
      · intro hsame
        obtain ⟨_, exception', field, _, hthrown, _, hfield', text, _, htext⟩ := hsame
        cases hthrown
        rw [hfield, Option.some.injEq] at hfield'
        exact ⟨text, hfield'.trans htext⟩
      · intro hunicode
        obtain ⟨text, htext⟩ := hunicode
        refine ⟨_, exception, extra, rfl, rfl, hcode.symm, hfield, text, ?_, htext⟩
        rw [htext]
        exact encode_js text
    · exact absurd hnone hsome
    · exact absurd hnone hsome
  · exact absurd hnone hsome
  · exact absurd hnone hsome

theorem keyFault_cases (refuses : JsString → Bool) (text : JsString) (fault : Fault) :
    textFault refuses .resourceKey text = some fault ↔
      boundFault 512 text = some fault ∨
        boundFault 512 text = none ∧ refuses text = true ∧ fault = .refused := by
  rw [textFault, Option.or_eq_some_iff]
  cases refuses text with
  | false => simp
  | true => simp [eq_comm]

/-- A fault stays one when more keys are refused. -/
theorem faultOf_mono {refuses refuses' : JsString → Bool}
    (hmore : ∀ text, refuses text = true → refuses' text = true) {f : WireField}
    {value : FieldValue} {fault : Fault} (h : faultOf refuses f value = some fault) :
    faultOf refuses' f value = some fault := by
  cases value with
  | none => exact h
  | some value =>
    cases value with
    | none => exact h
    | some text =>
      cases f with
      | resourceKey =>
        refine (keyFault_cases refuses' text fault).mpr ?_
        rcases (keyFault_cases refuses text fault).mp h with hbound | ⟨hbound, hrefuses, hfault⟩
        · exact Or.inl hbound
        · exact Or.inr ⟨hbound, hmore text hrefuses, hfault⟩
      | _ => exact h

/-- Fewer refused keys take away no other fault than a refusal. -/
theorem eq_refused {refuses refuses' : JsString → Bool} {f : WireField} {value : FieldValue}
    {fault : Fault} (hnone : faultOf refuses f value = none)
    (h : faultOf refuses' f value = some fault) : fault = .refused := by
  by_contra hother
  have hsame : faultOf refuses f value = some fault := by
    cases value with
    | none => exact h
    | some value =>
      cases value with
      | none => exact h
      | some text =>
        cases f with
        | resourceKey =>
          rcases (keyFault_cases refuses' text fault).mp h with hbound | ⟨_, _, hfault⟩
          · exact (keyFault_cases refuses text fault).mpr (Or.inl hbound)
          · exact absurd hfault hother
        | _ => exact h
  rw [hnone] at hsame
  cases hsame

theorem refusesEither_of_go (text : JsString) (h : Go.refuses text = true) :
    refusesEither text = true := by
  rw [refusesEither, h, Bool.true_or]

theorem refusesEither_of_dart (text : JsString) (h : Dart.refuses text = true) :
    refusesEither text = true := by
  rw [refusesEither, h, Bool.or_true]

section OneFault

variable {f : WireField} {fault : Fault}

/-- A fault that either decoder finds is the one fault of the request. -/
theorem eq_fault {refuses : JsString → Bool} {members : List Member} {g : WireField} {found : Fault}
    (hmore : ∀ text, refuses text = true → refusesEither text = true)
    (hfault : faultOf refusesEither f (valueOf members f) = some fault)
    (hothers : ∀ g, g ≠ f → faultOf refusesEither g (valueOf members g) = none)
    (hfound : faultOf refuses g (valueOf members g) = some found) : g = f ∧ found = fault := by
  have hmono := faultOf_mono hmore hfound
  have hsame : g = f := by
    by_contra hne
    rw [hothers g hne] at hmono
    cases hmono
  subst hsame
  exact ⟨rfl, Option.some.inj (hmono.symm.trans hfault)⟩

variable (hlarge : ¬ request.TooLarge)
  (hclean : ∀ name, ¬ Unexpected (request.object.members.map Member.name) name)
  (hfault : faultOf refusesEither f (valueOf request.object.members f) = some fault)
  (hothers : ∀ g, g ≠ f → faultOf refusesEither g (valueOf request.object.members g) = none)

include hlarge hclean hfault hothers

theorem go_reports (hother : fault ≠ .refused) :
    ∃ error, Go.decodeRequest request = .error error ∧ error.code = Go.codeOf f fault ∧
      error.field = utf8 f.name := by
  have hgo := Go.decodeRequest_answers hlarge
  generalize Go.decodeRequest request = goResult at hgo ⊢
  rcases hgo with ⟨name, _, hname⟩ | ⟨error, _, g, found, hfound, hcode, hfield⟩ |
      ⟨texts, _, _, hread, hfaultless, _⟩
  · exact absurd hname (hclean name)
  · obtain ⟨rfl, rfl⟩ := eq_fault refusesEither_of_go hfault hothers hfound
    exact ⟨error, rfl, hcode, hfield⟩
  · exact absurd (eq_refused (hread.complete.no_fault hfaultless f) hfault) hother

theorem dart_reports (hother : fault ≠ .refused) :
    ∃ thrown, Dart.decodeRequest request = .error thrown ∧ Dart.Reports f fault thrown := by
  have hdart := Dart.decodeRequest_answers hlarge
  generalize Dart.decodeRequest request = dartResult at hdart ⊢
  rcases hdart with ⟨name, _, hname, _, _⟩ | ⟨thrown, _, g, found, hfound, hreports⟩ |
      ⟨texts, _, _, hcomplete, hfaultless, _⟩
  · exact absurd hname (hclean name)
  · obtain ⟨rfl, rfl⟩ := eq_fault refusesEither_of_dart hfault hothers hfound
    exact ⟨thrown, rfl, hreports⟩
  · exact absurd (eq_refused (hcomplete.no_fault hfaultless f) hfault) hother

/-- Dart has no validation exception for a key that it refuses. -/
theorem dart_refused (hrefused : fault = .refused) (exception : DartWire.FenceValidationException) :
    Dart.decodeRequest request ≠ .error (.fence exception) := by
  intro herror
  have hdart := Dart.decodeRequest_answers hlarge
  rw [herror] at hdart
  rcases hdart with ⟨name, _, hname, _, _⟩ | ⟨_, _, g, found, hfound, hreports⟩ | _
  · exact hclean name hname
  · obtain ⟨rfl, rfl⟩ := eq_fault refusesEither_of_dart hfault hothers hfound
    subst hrefused
    cases hreports.1

end OneFault

/-- The defects that Go and Dart report alike. -/
def Defect.ReportedAlike : Defect → Prop
  | .extra name => Unicode name
  | .field f fault => fault ≠ .refused ∧
      ¬ (fault = .missing ∧ (f = .fencingToken ∨ f = .payloadSha256))

theorem codes_agree_iff (f : WireField) {fault : Fault} (hother : fault ≠ .refused) :
    Dart.codeOf f fault = some (Go.codeOf f fault) ↔ (Defect.field f fault).ReportedAlike := by
  have halike : (Defect.field f fault).ReportedAlike ↔
      ¬ (fault = .missing ∧ (f = .fencingToken ∨ f = .payloadSha256)) := and_iff_right hother
  rw [halike]
  cases fault with
  | refused => exact absurd rfl hother
  | _ => cases f <;> decide

theorem sameReport_field_iff {f : WireField} {fault : Fault} (hlarge : ¬ request.TooLarge)
    (hclean : ∀ name, ¬ Unexpected (request.object.members.map Member.name) name)
    (hfault : faultOf refusesEither f (valueOf request.object.members f) = some fault)
    (hothers : ∀ g, g ≠ f → faultOf refusesEither g (valueOf request.object.members g) = none) :
    SameReport request ↔ (Defect.field f fault).ReportedAlike := by
  by_cases hrefused : fault = .refused
  · refine iff_of_false ?_ (fun halike => halike.1 hrefused)
    rintro ⟨_, exception, _, _, hdart, _⟩
    exact dart_refused hlarge hclean hfault hothers hrefused exception hdart
  obtain ⟨error, hgo, hcode, hfield⟩ := go_reports hlarge hclean hfault hothers hrefused
  obtain ⟨thrown, hdart, hreports⟩ := dart_reports hlarge hclean hfault hothers hrefused
  rw [← codes_agree_iff f hrefused]
  constructor
  · rintro ⟨error', exception, field, hgo', hdart', hsame, _, _⟩
    rw [hgo] at hgo'
    rw [hdart] at hdart'
    cases hgo'
    cases hdart'
    rw [hreports.1, ← hcode, hsame]
  · intro hsame
    cases thrown with
    | fence exception =>
      refine ⟨error, exception, js f.name, hgo, hdart, ?_, hreports.2, f.name, hfield, rfl⟩
      rw [hcode]
      exact Option.some.inj (hsame.symm.trans hreports.1)
    | argumentError invalid =>
      rw [show Dart.codeOf f fault = none from hreports] at hsame
      cases hsame
    | scanner stop => exact hreports.elim

end Reports

/-- Go and Dart report one defect alike exactly when the text is past the size limit or the
defect is neither a refused key, nor a missing token or digest, nor an unexpected member
whose name has an unpaired surrogate. -/
theorem defects_alike_iff (request : RequestText) (defect : Defect)
    (h : Defective request.object.members defect) :
    SameReport request ↔ request.TooLarge ∨ defect.ReportedAlike := by
  by_cases hlarge : request.TooLarge
  · exact iff_of_true (sameReport_large hlarge) (Or.inl hlarge)
  rw [or_iff_right hlarge]
  generalize hmembers : request.object.members = members at h
  cases h with
  | extra before after member hvalid hextra =>
    apply sameReport_extra_iff hlarge (fun name hname => eq_extra hvalid (hmembers ▸ hname))
    rw [hmembers]
    exact exists_extra hextra
  | field _ f fault hclean hfault hothers =>
    subst hmembers
    exact sameReport_field_iff hlarge hclean hfault hothers

/-- A valid request but for its missing token. -/
def tokenless : List (String × String) :=
  [("tenantScope", "tenant"), ("resourceKey", "jobs/rebuild"), ("operationId", "operation"),
    ("payloadSha256", "00112233445566778899aabbccddeeff00112233445566778899aabbccddeeff")]

theorem tokenless_plain : ∀ entry ∈ tokenless, Plain entry.1 ∧ Plain entry.2 := by decide +kernel

theorem tokenless_names : (tokenless.map fun entry => js entry.1) =
    [.tenantScope, .resourceKey, .operationId, .payloadSha256].map fun f : WireField => js f.name :=
  rfl

theorem tokenless_clean (name : JsString) : ¬ Unexpected
    ((plainRequest tokenless tokenless_plain).object.members.map Member.name) name := by
  have hnames : (plainRequest tokenless tokenless_plain).object.members.map Member.name =
      tokenless.map fun entry => js entry.1 := rfl
  revert name
  rw [hnames, not_unexpected_iff, tokenless_names]
  refine ⟨?_, by decide +kernel⟩
  intro name hmem
  obtain ⟨f, _, rfl⟩ := List.mem_map.mp hmem
  exact ⟨f, rfl⟩

theorem tokenless_fault : faultOf refusesEither .fencingToken
    (valueOf (plainRequest tokenless tokenless_plain).object.members .fencingToken) =
      some .missing := by
  rw [valueOf_plain]
  rfl

theorem tokenless_others (g : WireField) (hne : g ≠ .fencingToken) : faultOf refusesEither g
    (valueOf (plainRequest tokenless tokenless_plain).object.members g) = none := by
  rw [valueOf_plain]
  cases g with
  | fencingToken => exact absurd rfl hne
  | _ => decide +kernel

theorem tokenless_defective :
    Defective (plainRequest tokenless tokenless_plain).object.members (.field .fencingToken .missing) :=
  .field _ _ _ tokenless_clean tokenless_fault tokenless_others

theorem tokenless_small : ¬ (plainRequest tokenless tokenless_plain).TooLarge := by
  unfold RequestText.TooLarge
  decide +kernel

theorem tokenless_reported :
    ¬ SameReport (plainRequest tokenless tokenless_plain) := by
  intro hsame
  rcases (defects_alike_iff _ _ tokenless_defective).mp hsame with hlarge | halike
  · exact tokenless_small hlarge
  · exact halike.2 ⟨rfl, Or.inl rfl⟩

/-- Go calls a missing token a wrong type, Dart an invalid token. -/
theorem missing_token_splits : ¬ ∀ (request : RequestText) (defect : Defect),
    Defective request.object.members defect → SameReport request := by
  intro hclaim
  obtain ⟨error, exception, _, hgo, hdart, hcode, _, _⟩ := hclaim _ _ tokenless_defective
  obtain ⟨_, hgo', hgoCode, _⟩ :=
    go_reports tokenless_small tokenless_clean tokenless_fault tokenless_others (by decide)
  obtain ⟨_, hdart', hreports⟩ :=
    dart_reports tokenless_small tokenless_clean tokenless_fault tokenless_others (by decide)
  rw [hgo] at hgo'
  rw [hdart] at hdart'
  cases hgo'
  cases hdart'
  have hdartCode := hreports.1
  rw [← hcode, hgoCode] at hdartCode
  exact absurd hdartCode (by decide)

end OresLocks.Fencing
