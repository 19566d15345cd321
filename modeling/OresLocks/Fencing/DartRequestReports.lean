import OresLocks.Fencing.DartRequestWire

/-!
# What the Dart decoder reports

As for Go, apart from a refused lock key, which is no validation exception, and the codes of
members that are missing.
-/

namespace OresLocks.Fencing.Dart

set_option autoImplicit false

open Fence Shared.Json Shared.Loops Shared.Numeral DartWire
open OresLocks.Ts (js)

/-! ## Names -/

section Names

variable {members : List Member}

/-- The scanner ends at a name that has come before. -/
theorem scanNames_cases (keys names : List JsString) :
    (∃ before name after, names = before ++ name :: after ∧ (name ∈ keys ∨ name ∈ before) ∧
      scanNames keys names = .error (.thrown (duplicateField name))) ∨
    scanNames keys names = .ok () := by
  induction names generalizing keys with
  | nil => exact Or.inr rfl
  | cons name names ih =>
    unfold scanNames
    by_cases hmet : keys.contains name = true
    · rw [if_pos hmet]
      exact Or.inl ⟨[], name, names, rfl, Or.inl (by simpa using hmet), rfl⟩
    · rw [if_neg hmet]
      rcases ih (name :: keys) with ⟨before, other, after, rfl, hother, herror⟩ | hok
      · refine Or.inl ⟨name :: before, other, after, rfl, ?_, herror⟩
        rcases hother with hother | hother
        · rcases List.mem_cons.mp hother with rfl | hother
          · exact Or.inr List.mem_cons_self
          · exact Or.inl hother
        · exact Or.inr (List.mem_cons_of_mem name hother)
      · exact Or.inr hok

theorem nodup_of_scanned {names : List JsString} (h : scanNames [] names = .ok ()) :
    names.Nodup := by
  rcases scanNames_decides [] names with ⟨hfresh, _⟩ | ⟨_, exception, hthrown⟩
  · exact hfresh.1
  · rw [h] at hthrown
    cases hthrown

/-- A member in the map that `jsonDecode` makes. -/
def mapEntry (member : Member) : Option JsString × Option JsString :=
  (some member.name, decodeLiteral member.item.value)

def field (member : Member) : JsString × Option JsString :=
  (member.name, decodeLiteral member.item.value)

/-- Members of different names are inserted one after the other. -/
theorem foldl_insert (before after : List Member)
    (hnodup : ((before ++ after).map Member.name).Nodup) :
    after.foldl (fun entries member =>
      insert entries member.name (decodeLiteral member.item.value)) (before.map mapEntry) =
      (before ++ after).map mapEntry := by
  induction after generalizing before with
  | nil => simp
  | cons member after ih =>
    have hnew : member.name ∉ before.map Member.name := by
      rw [List.map_append, List.nodup_append] at hnodup
      intro hmem
      exact hnodup.2.2 _ hmem member.name List.mem_cons_self rfl
    have hfresh : ((before.map mapEntry).any fun entry => entry.1 == some member.name) = false := by
      rw [List.any_eq_false]
      intro entry hentry
      obtain ⟨other, hother, rfl⟩ := List.mem_map.mp hentry
      rw [Bool.not_eq_true, beq_eq_false_iff_ne]
      intro hsame
      exact hnew (List.mem_map.mpr ⟨other, hother, Option.some.inj hsame⟩)
    rw [List.foldl_cons, insert, hfresh, if_neg (by decide)]
    have hrest := ih (before ++ [member]) (by simpa using hnodup)
    simpa only [List.map_append, List.map_singleton, List.append_assoc, List.singleton_append,
      mapEntry] using hrest

theorem stringKeys_entries (members : List Member) :
    stringKeys (members.map mapEntry) = .ok (members.map field) := by
  induction members with
  | nil => rfl
  | cons member members ih =>
    rw [List.map_cons, mapEntry, stringKeys, ih]
    rfl

theorem isFencedWriteField_iff (name : JsString) : isFencedWriteField name = true ↔ Known name := by
  simp only [isFencedWriteField, List.any_eq_true, beq_iff_eq]
  constructor
  · rintro ⟨f, _, hf⟩
    exact ⟨f, hf⟩
  · rintro ⟨f, hf⟩
    exact ⟨f, f.mem_all, hf⟩

theorem rejectUnknownFields_cases (members : List Member) :
    (∃ before name after, members.map Member.name = before ++ name :: after ∧ ¬ Known name ∧
      rejectUnknownFields (members.map field) = .error (.fence (unknownField name))) ∨
    ((∀ name ∈ members.map Member.name, Known name) ∧
      rejectUnknownFields (members.map field) = .ok ()) := by
  induction members with
  | nil => exact Or.inr ⟨by simp, rfl⟩
  | cons member members ih =>
    rw [List.map_cons, List.map_cons, field, rejectUnknownFields]
    by_cases hknown : Known member.name
    · rw [(isFencedWriteField_iff _).mpr hknown, if_neg (by decide)]
      rcases ih with ⟨before, name, after, hnames, hunknown, herror⟩ | ⟨hall, hok⟩
      · exact Or.inl ⟨member.name :: before, name, after, by rw [hnames]; rfl, hunknown, herror⟩
      · exact Or.inr ⟨List.forall_mem_cons.mpr ⟨hknown, hall⟩, hok⟩
    · rw [Bool.eq_false_iff.mpr (mt (isFencedWriteField_iff _).mp hknown), if_pos (by decide)]
      exact Or.inl ⟨[], member.name, members.map Member.name, rfl, hknown, rfl⟩

theorem get_fields (members : List Member) (f : WireField) :
    StringFields.get (members.map field) (js f.name) = valueOf members f := by
  unfold StringFields.get valueOf
  rw [List.find?_map, Option.map_map]
  rfl

end Names

/-! ## Reports -/

/-- What the `LockKey` factory refuses. -/
def refuses (text : JsString) : Bool := !(LockKey.new text).isOk

/-- The code of a value that is no string. -/
def typeCode : WireField → String
  | .fencingToken => "invalid_fencing_token"
  | .payloadSha256 => "invalid_payload_sha256"
  | _ => "invalid_type"

/-- The code reported for a fault of a field; none for a refused key. -/
def codeOf (f : WireField) : Fault → Option String
  | .missing => some (typeCode f)
  | .notString => some (typeCode f)
  | .empty => some "empty_field"
  | .tooLong => some "too_long"
  | .malformed => some (typeCode f)
  | .refused => none

/-- A validation exception carries the code and the field; a refused key is an argument error. -/
def Reports (f : WireField) (fault : Fault) : Thrown → Prop
  | .fence exception => codeOf f fault = some exception.code ∧ exception.field = some (js f.name)
  | .argumentError _ => codeOf f fault = none
  | .scanner _ => False

def Blames (members : List Member) (thrown : Thrown) : Prop :=
  ∃ f fault, faultOf refuses f (valueOf members f) = some fault ∧ Reports f fault thrown

/-- The request has the texts, with the key and the token made of them. -/
structure Carried (texts : Texts) (r : Fields) : Prop where
  tenantScope : r.tenantScope = texts.tenantScope
  resourceKey : LockKey.new texts.resourceKey = .ok r.resourceKey
  fencingToken : FencingTokenText.parse texts.fencingToken = .ok r.fencingToken
  operationId : r.operationId = texts.operationId
  payloadSha256 : r.payloadSha256 = texts.payloadSha256
  holder : r.holder = texts.holder
  leaseId : r.leaseId = texts.leaseId

section Reading

variable (members : List Member)

theorem required_meets {f : WireField} {wrongTypeCode : String} (hoptional : f.isOptional = false)
    (hcode : typeCode f = wrongTypeCode) :
    Meets (fun text => valueOf members f = some (some text)) (Blames members)
      (requiredString (members.map field) f wrongTypeCode) := by
  unfold requiredString
  rw [get_fields]
  cases hvalue : valueOf members f with
  | none => exact ⟨f, .missing, by rw [hvalue, faultOf, hoptional]; rfl, congrArg some hcode, rfl⟩
  | some value =>
    cases value with
    | none => exact ⟨f, .notString, by rw [hvalue]; rfl, congrArg some hcode, rfl⟩
    | some text => exact rfl

theorem optional_meets {f : WireField} (hcode : typeCode f = "invalid_type") :
    Meets (fun text => valueOf members f = text.map some) (Blames members)
      (optionalString (members.map field) f) := by
  unfold optionalString
  rw [get_fields]
  cases hvalue : valueOf members f with
  | none => exact rfl
  | some value =>
    cases value with
    | none => exact ⟨f, .notString, by rw [hvalue]; rfl, congrArg some hcode, rfl⟩
    | some text => exact rfl

theorem requestTexts_meets :
    Meets (Complete (valueOf members)) (Blames members) (requestTexts (members.map field)) := by
  unfold requestTexts
  refine (required_meets members rfl rfl).bind ?_
  intro tenantScope htenant
  refine (required_meets members rfl rfl).bind ?_
  intro resourceKey hkey
  refine (required_meets members rfl rfl).bind ?_
  intro fencingToken htoken
  refine (required_meets members rfl rfl).bind ?_
  intro operationId hoperation
  refine (required_meets members rfl rfl).bind ?_
  intro payloadSha256 hsha
  refine (optional_meets members rfl).bind ?_
  intro holder hholder
  refine (optional_meets members rfl).bind ?_
  intro leaseId hlease
  exact ⟨htenant, hkey, htoken, hoperation, hsha, hholder, hlease⟩

end Reading

section Making

variable {members : List Member} {texts : Texts}

/-- An exception of the constructors on the text of a field. -/
theorem blames_text {f : WireField} {text : JsString} {fault : Fault}
    {exception : FenceValidationException} (hvalue : valueOf members f = some (some text))
    (hfault : textFault refuses f text = some fault)
    (hcode : codeOf f fault = some (ofCore exception).code)
    (hfield : (ofCore exception).field = some (js f.name)) :
    Blames members (.fence (ofCore exception)) :=
  ⟨f, fault, by rw [hvalue]; exact hfault, hcode, hfield⟩

theorem validateField_meets {field : Field} {f : WireField} {text : JsString} {max : Nat}
    (hname : fieldName field = f.name) (hvalue : valueOf members f = some (some text))
    (hbound : textFault refuses f text = boundFault max text) :
    Meets (fun _ => textFault refuses f text = none)
      (fun e => Blames members (.fence (ofCore e))) (validateField field text max) := by
  unfold validateField
  have hfield : some (js (fieldName field)) = some (js f.name) := by rw [hname]
  by_cases hempty : text = []
  · rw [if_pos hempty]
    exact blames_text hvalue (hbound.trans (boundFault_empty hempty)) rfl hfield
  · rw [if_neg hempty]
    by_cases hlong : max < (JsString.encode text).length
    · rw [if_pos hlong]
      exact blames_text hvalue (hbound.trans (boundFault_tooLong hempty hlong)) rfl hfield
    · rw [if_neg hlong]
      exact hbound.trans (boundFault_eq_none_iff.mpr ⟨hempty, hlong⟩)

theorem validateOptionalField_meets {field : Field} {f : WireField} {text : Option JsString}
    (hname : fieldName field = f.name) (hvalue : valueOf members f = text.map some)
    (hbound : ∀ t, textFault refuses f t = boundFault maxFenceMetadataBytes t) :
    Meets (fun _ => ∀ t, text = some t → textFault refuses f t = none)
      (fun e => Blames members (.fence (ofCore e)))
      (validateOptionalField field text maxFenceMetadataBytes) := by
  unfold validateOptionalField
  cases text with
  | none =>
    intro t ht
    cases ht
  | some text =>
    refine (validateField_meets hname hvalue (hbound text)).mono ?_ fun _ h => h
    intro _ hgood t ht
    rw [← Option.some.inj ht]
    exact hgood

theorem parse_isToken (text : JsString) :
    (∃ token, FencingTokenText.parse text = .ok token) ↔ isTokenText text = true := by
  rw [parse_iff, isTokenText_iff]

theorem parse_error {text : JsString} {exception : FenceValidationException}
    (h : FencingTokenText.parse text = .error exception) :
    (ofCore exception).code = "invalid_fencing_token" ∧
      (ofCore exception).field = some (js "fencingToken") := by
  unfold FencingTokenText.parse at h
  split at h
  · cases h
    exact ⟨rfl, rfl⟩
  dsimp only at h
  split at h
  · cases h
    exact ⟨rfl, rfl⟩
  · cases h

theorem parse_meets {text : JsString} (hvalue : valueOf members .fencingToken = some (some text)) :
    Meets (fun token => textFault refuses .fencingToken text = none ∧
        FencingTokenText.parse text = .ok token)
      (fun e => Blames members (.fence (ofCore e))) (FencingTokenText.parse text) := by
  cases hparse : FencingTokenText.parse text with
  | error exception =>
    have hnone : ¬ isTokenText text = true := by
      rw [← parse_isToken, hparse]
      rintro ⟨_, hok⟩
      cases hok
    obtain ⟨hcode, hfield⟩ := parse_error hparse
    exact blames_text hvalue (by rw [textFault, if_neg hnone]) (by rw [hcode]; rfl) hfield
  | ok token =>
    have hsome := (parse_isToken text).mp ⟨token, hparse⟩
    exact ⟨by rw [textFault, if_pos hsome], rfl⟩

theorem lockKey_meets (hcomplete : Complete (valueOf members) texts)
    (hbound : boundFault 512 texts.resourceKey = none) :
    Meets (fun key => textFault refuses .resourceKey texts.resourceKey = none ∧
        LockKey.new texts.resourceKey = .ok key)
      (fun invalid => Blames members (.argumentError invalid)) (LockKey.new texts.resourceKey) := by
  have hkey : textFault refuses .resourceKey texts.resourceKey =
      if refuses texts.resourceKey then some .refused else none := keyFault_within hbound
  cases hnew : LockKey.new texts.resourceKey with
  | error invalid =>
    have hrefuses : refuses texts.resourceKey = true := by
      rw [refuses, hnew]
      rfl
    exact ⟨.resourceKey, .refused,
      by rw [hcomplete.resourceKey, faultOf, hkey, if_pos hrefuses], rfl⟩
  | ok key =>
    have hadmits : refuses texts.resourceKey = false := by
      rw [refuses, hnew]
      rfl
    exact ⟨by rw [hkey, hadmits, if_neg (by decide)], rfl⟩

theorem check_meets {r : Fields} (hcomplete : Complete (valueOf members) texts)
    (hcarried : Carried texts r) (hkey : textFault refuses .resourceKey texts.resourceKey = none)
    (htoken : textFault refuses .fencingToken texts.fencingToken = none) :
    Meets (fun _ => Faultless refuses texts) (fun e => Blames members (.fence (ofCore e)))
      (FencedWriteRequest.check r) := by
  obtain ⟨hnonempty, hshort⟩ := boundFault_eq_none_iff.mp (keyFault_bound hkey)
  have hkeyMeets : Meets (fun _ => True) (fun e => Blames members (.fence (ofCore e)))
      (validateField .resourceKey r.resourceKey.value maxLockKeyBytes) := by
    rw [LockKey.value_of_new hcarried.resourceKey, validateField, if_neg hnonempty,
      if_neg (show ¬ maxLockKeyBytes < _ from hshort)]
    exact trivial
  unfold FencedWriteRequest.check
  rw [hcarried.tenantScope]
  refine (validateField_meets rfl hcomplete.tenantScope rfl).bind ?_
  intro _ htenant
  refine hkeyMeets.bind ?_
  intro _ _
  rw [hcarried.operationId]
  refine (validateField_meets rfl hcomplete.operationId rfl).bind ?_
  intro _ hoperation
  rw [hcarried.holder]
  refine (validateOptionalField_meets rfl hcomplete.holder fun _ => rfl).bind ?_
  intro _ hholder
  rw [hcarried.leaseId]
  refine (validateOptionalField_meets rfl hcomplete.leaseId fun _ => rfl).bind ?_
  intro _ hlease
  rw [hcarried.payloadSha256]
  by_cases hhex : JsString.matchesLowerSha256 texts.payloadSha256 = true
  · rw [hhex, if_neg (by decide)]
    exact ⟨htenant, hkey, htoken, hoperation, by rw [textFault, if_pos hhex], hholder, hlease⟩
  · rw [Bool.not_eq_true] at hhex
    rw [hhex, if_pos (by decide)]
    exact blames_text hcomplete.payloadSha256 (by rw [textFault, hhex, if_neg (by decide)]) rfl rfl

theorem newRequest_meets {r : Fields} (hcomplete : Complete (valueOf members) texts)
    (hcarried : Carried texts r) (hkey : textFault refuses .resourceKey texts.resourceKey = none)
    (htoken : textFault refuses .fencingToken texts.fencingToken = none) :
    Meets (fun made => Faultless refuses texts ∧ Carried texts made.fields)
      (fun e => Blames members (.fence (ofCore e))) (FencedWriteRequest.new r) := by
  have hcheck := check_meets hcomplete hcarried hkey htoken
  unfold FencedWriteRequest.new
  split
  · rename_i hok
    exact ⟨hcheck.of_ok hok, hcarried⟩
  · rename_i exception herror
    rw [herror] at hcheck
    exact hcheck

theorem requestOfTexts_meets (hcomplete : Complete (valueOf members) texts) :
    Meets (fun r => Faultless refuses texts ∧ Carried texts r.fields) (Blames members)
      (requestOfTexts texts) := by
  have hvalue := hcomplete.resourceKey
  unfold requestOfTexts
  by_cases hempty : texts.resourceKey = []
  · rw [if_pos hempty]
    exact blames_text hvalue (keyFault_of_bound (boundFault_empty hempty)) rfl rfl
  rw [if_neg hempty]
  dsimp only
  by_cases hlong : maxLockKeyBytes < (JsString.encode texts.resourceKey).length
  · rw [if_pos hlong]
    exact blames_text hvalue (keyFault_of_bound (boundFault_tooLong hempty hlong)) rfl rfl
  rw [if_neg hlong]
  have hbound : boundFault 512 texts.resourceKey = none :=
    boundFault_eq_none_iff.mpr ⟨hempty, hlong⟩
  refine (lockKey_meets hcomplete hbound).mapError.bind ?_
  rintro key ⟨hkey, hnew⟩
  refine (Meets.mapError (parse_meets hcomplete.fencingToken)).bind ?_
  rintro token ⟨htoken, hparse⟩
  exact (newRequest_meets hcomplete ⟨rfl, hnew, hparse, rfl, rfl, rfl, rfl⟩ hkey htoken).mapError

end Making

/-! ## The whole decoder -/

/-- What the decoder may answer for a request within the size limit. -/
inductive Answers (request : RequestText) : Except Thrown FencedWriteRequest → Prop where
  | unexpected (name : JsString) (exception : DartWire.FenceValidationException)
      (h : Unexpected (request.object.members.map Member.name) name)
      (hcode : exception.code = "unexpected_field") (hfield : exception.field = some name) :
      Answers request (.error (.fence exception))
  | blames (thrown : Thrown)
      (hnone : ∀ name, ¬ Unexpected (request.object.members.map Member.name) name)
      (h : Blames request.object.members thrown) : Answers request (.error thrown)
  | made (texts : Texts) (r : FencedWriteRequest)
      (hnone : ∀ name, ¬ Unexpected (request.object.members.map Member.name) name)
      (hcomplete : Complete (valueOf request.object.members) texts)
      (hfaultless : Faultless refuses texts) (hcarried : Carried texts r.fields) :
      Answers request (.ok r)

theorem decodeRequest_large {request : RequestText} (h : request.TooLarge) :
    ∃ message, decodeRequest request = .error (.fence ⟨"invalid_type", message, some (js "request")⟩) := by
  unfold decodeRequest decodeFencedWriteRequestJson
  exact ⟨_, if_pos (Or.inr h)⟩

theorem decodeRequest_answers {request : RequestText} (h : ¬ request.TooLarge) :
    Answers request (decodeRequest request) := by
  have hsize : ¬ ((JsString.encode request.object.text).length = 0 ∨
      maxFencedWriteJsonBytes < (JsString.encode request.object.text).length) := by
    rintro (hempty | hlarge)
    · rw [List.length_eq_zero_iff, JsString.encode_eq_nil_iff] at hempty
      exact absurd hempty (by simp [Object.text])
    · exact h hlarge
  unfold decodeRequest decodeFencedWriteRequestJson
  dsimp only
  rw [if_neg hsize, rejectDuplicateTopLevelKeys_eq (Nat.lt_succ_self _) request.object.objectText]
  rcases scanNames_cases [] (request.object.members.map Member.name) with
    ⟨before, name, after, hnames, hmet | hmet, herror⟩ | hok
  · cases hmet
  · rw [herror]
    exact .unexpected name (duplicateField name) ⟨before, after, hnames, Or.inr hmet⟩ rfl rfl
  have hnodup := nodup_of_scanned hok
  have hdecoded : jsonDecode request.object = some (.map (request.object.members.map mapEntry)) :=
    congrArg (fun entries => some (Decoded.map entries)) (foldl_insert [] _ hnodup)
  rw [hok, hdecoded]
  change Answers request (fencedWriteRequestFromJsonValue (.map _))
  unfold fencedWriteRequestFromJsonValue
  dsimp only
  rw [stringKeys_entries]
  rcases rejectUnknownFields_cases request.object.members with
    ⟨before, name, after, hnames, hunknown, herror⟩ | ⟨hknown, hpassed⟩
  · change Answers request (rejectUnknownFields _ >>= fun _ => _)
    rw [herror]
    exact .unexpected name (unknownField name) ⟨before, after, hnames, Or.inl hunknown⟩ rfl rfl
  have hnone := not_unexpected_iff.mpr ⟨hknown, hnodup⟩
  have hmeets : Meets (fun r => ∃ texts, Complete (valueOf request.object.members) texts ∧
      Faultless refuses texts ∧ Carried texts r.fields) (Blames request.object.members)
      (requestTexts (request.object.members.map field) >>= requestOfTexts) := by
    refine (requestTexts_meets request.object.members).bind ?_
    intro texts hcomplete
    exact (requestOfTexts_meets hcomplete).mono (fun r hr => ⟨texts, hcomplete, hr.1, hr.2⟩)
      fun _ hblames => hblames
  change Answers request (rejectUnknownFields _ >>= fun _ => _)
  rw [hpassed]
  change Answers request (requestTexts (request.object.members.map field) >>= requestOfTexts)
  cases hresult : requestTexts (request.object.members.map field) >>= requestOfTexts with
  | error thrown =>
    rw [hresult] at hmeets
    exact .blames thrown hnone hmeets
  | ok r =>
    rw [hresult] at hmeets
    obtain ⟨texts, hcomplete, hfaultless, hcarried⟩ := hmeets
    exact .made texts r hnone hcomplete hfaultless hcarried

end OresLocks.Fencing.Dart
