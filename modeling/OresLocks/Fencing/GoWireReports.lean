import OresLocks.Fencing.GoWire
import OresLocks.Shared.Loops

/-!
# What the Go decoder reports

An error names an unexpected member, or a field with the code of its fault; a request that
is returned carries the texts of a faultless object.
-/

namespace OresLocks.Fencing.Go

set_option autoImplicit false

open Fence Shared.Json Shared.Loops Shared.Numeral Shared.Utf8
open OresLocks.Ts (js encode_js encode_unit_cons Unicode)

/-! ## Names -/

section Names

variable {members : List Member} {f : WireField}

theorem encode_eq_name (name : JsString) (f : WireField) :
    JsString.encode name = utf8 f.name ↔ name = js f.name := by
  rw [← encode_js]
  constructor
  · exact JsString.eq_of_encode_eq f.name_ascii
  · rintro rfl
    rfl

theorem isFencedWriteField_iff (name : JsString) :
    isFencedWriteField (JsString.encode name) = true ↔ Known name := by
  simp only [isFencedWriteField, List.any_eq_true, beq_iff_eq, encode_eq_name]
  constructor
  · rintro ⟨f, _, hf⟩
    exact ⟨f, hf⟩
  · rintro ⟨f, hf⟩
    exact ⟨f, f.mem_all, hf⟩

/-- A member in the map of raw values. -/
def entry (member : Member) : Bytes × Bytes :=
  (JsString.encode member.name, JsString.encode member.item.value)

theorem get_entries (members : List Member) (f : WireField) :
    RawFields.get (members.map entry) (utf8 f.name) =
      (members.find? fun member => member.name == js f.name).map fun member =>
        JsString.encode member.item.value := by
  have hsame : (fun member : Member => (entry member).1 == utf8 f.name) =
      fun member => member.name == js f.name := by
    funext member
    rw [Bool.eq_iff_iff, beq_iff_eq, beq_iff_eq]
    exact encode_eq_name member.name f
  unfold RawFields.get
  rw [List.find?_map, Option.map_map]
  change Option.map _ (members.find? fun member => (entry member).1 == utf8 f.name) = _
  rw [hsame]
  rfl

theorem get_isSome_iff {name : JsString} (hknown : Known name) :
    (RawFields.get (members.map entry) (JsString.encode name)).isSome = true ↔
      name ∈ members.map Member.name := by
  obtain ⟨f, rfl⟩ := hknown
  rw [encode_js, get_entries, Option.isSome_map, List.find?_isSome]
  simp only [beq_iff_eq, List.mem_map]

/-- The member loop reports an unexpected member, or ends with every member. -/
theorem decodeMembers_cases (before after : List Member)
    (hclean : ∀ name, ¬ Unexpected (before.map Member.name) name) :
    (∃ name message, Unexpected ((before ++ after).map Member.name) name ∧
      decodeMembers (before.map entry) (after.map readMember) =
        .error ⟨validationUnexpectedField, JsString.encode name, message⟩) ∨
    ((∀ name, ¬ Unexpected ((before ++ after).map Member.name) name) ∧
      decodeMembers (before.map entry) (after.map readMember) =
        .ok ((before ++ after).map entry)) := by
  induction after generalizing before with
  | nil => exact Or.inr ⟨by simpa using hclean, by simp [decodeMembers]⟩
  | cons member after ih =>
    have hplace : (before ++ member :: after).map Member.name =
        before.map Member.name ++ member.name :: after.map Member.name := by simp
    rw [List.map_cons]
    unfold decodeMembers
    simp only [readMember]
    by_cases hknown : Known member.name
    · rw [(isFencedWriteField_iff _).mpr hknown, if_neg (by decide)]
      by_cases hmet : member.name ∈ before.map Member.name
      · rw [if_pos ((get_isSome_iff hknown).mpr hmet)]
        exact Or.inl ⟨member.name, _, ⟨_, _, hplace, Or.inr hmet⟩, rfl⟩
      · rw [if_neg (mt (get_isSome_iff hknown).mp hmet)]
        have hnext : ∀ name, ¬ Unexpected ((before ++ [member]).map Member.name) name := by
          intro name hname
          rw [List.map_append, List.map_singleton, unexpected_concat_iff] at hname
          rcases hname with hname | ⟨_, hunknown | hmem⟩
          · exact hclean name hname
          · exact hunknown hknown
          · exact hmet hmem
        have hrest := ih (before ++ [member]) hnext
        simpa only [List.map_append, List.map_singleton, List.append_assoc, List.singleton_append,
          entry] using hrest
    · have hfield : isFencedWriteField (JsString.encode member.name) = false :=
        Bool.eq_false_iff.mpr (mt (isFencedWriteField_iff _).mp hknown)
      rw [hfield, if_pos (by decide)]
      exact Or.inl ⟨member.name, _, ⟨_, _, hplace, Or.inl hknown⟩, rfl⟩

end Names

/-! ## Values -/

section Values

theorem encode_ascii_cons {u : UInt16} (h : u.toNat < 128) (rest : JsString) :
    JsString.encode (u :: rest) = UInt8.ofNat u.toNat :: JsString.encode rest := by
  have hhigh : JsString.isHighSurrogate u = false := by
    rw [Bool.eq_false_iff]
    intro hu
    have hrange := (JsString.high_iff u).mp hu
    omega
  rw [encode_unit_cons hhigh, JsString.encodeUnit_ascii h, List.singleton_append]

theorem encode_quoted (content : JsString) :
    JsString.encode (0x22 :: (content ++ [0x22])) =
      0x22 :: (JsString.encode content ++ [0x22]) := by
  rw [encode_ascii_cons (by decide), JsString.encode_append (by decide)]
  rfl

theorem unmarshalString_encode {text : JsString} (h : Unicode text) :
    unmarshalString (JsString.encode text) = (decodeLiteral text).map JsString.encode := by
  obtain ⟨s, rfl⟩ := h
  unfold unmarshalString
  rw [encode_js, utf8, decode_encode]
  change (decodeLiteral (js (String.ofList s.toList))).bind _ = _
  rw [String.ofList_toList]
  cases decodeLiteral (js s) with
  | none => rfl
  | some value => rfl

/-- How `requiredJSONString` reads the value of a field. -/
def readRequired (f : WireField) (wrongTypeCode : String) : FieldValue → Except WireFenceError Bytes
  | none => .error ⟨validationInvalidType, utf8 f.name, .notOwnString f⟩
  | some none => .error ⟨wrongTypeCode, utf8 f.name, .notString f⟩
  | some (some text) => .ok (JsString.encode text)

variable (request : RequestText)

theorem requiredJsonString_eq (f : WireField) (wrongTypeCode : String) :
    requiredJsonString (request.object.members.map entry) f wrongTypeCode =
      readRequired f wrongTypeCode (valueOf request.object.members f) := by
  unfold requiredJsonString valueOf
  rw [get_entries]
  cases hfind : request.object.members.find? fun member => member.name == js f.name with
  | none => rfl
  | some member =>
    have hmem := List.mem_of_find?_eq_some hfind
    have hunicode := request.value_unicode hmem
    rw [Option.map_some, Option.map_some]
    dsimp only
    rcases (request.object.valued member hmem).literal_or_head with
      ⟨text, hliteral⟩ | ⟨u, rest, hvalue, hgraphic, hquote⟩
    · have hdecode := decodeLiteral_of_literal hliteral
      have hunmarshal := unmarshalString_encode hunicode
      obtain ⟨content, _, hquoted⟩ := hliteral
      rw [hdecode] at hunmarshal ⊢
      rw [hquoted, encode_quoted] at hunmarshal ⊢
      rw [trimSpace_quoted, if_neg (by simp), hunmarshal]
      rfl
    · simp only [isGraphic, Bool.and_eq_true, decide_eq_true_eq, UInt16.lt_iff_toNat_lt,
        UInt16.reduceToNat] at hgraphic
      have hbyte : (UInt8.ofNat u.toNat).toNat = u.toNat :=
        UInt8.toNat_ofNat_of_lt' (by simp [UInt8.size]; omega)
      rw [hvalue, decodeLiteral_of_head hquote, encode_ascii_cons (by omega), if_pos]
      · rfl
      · intro hhead
        have hsame := trimSpace_head (by rw [UInt8.lt_iff_toNat_lt, hbyte]; exact hgraphic.1)
          (by rw [UInt8.lt_iff_toNat_lt, hbyte]; exact hgraphic.2) _ _ hhead
        apply hquote
        rw [← UInt16.toNat_inj, ← hbyte, ← hsame]
        rfl

end Values

/-! ## Reports -/

/-- What `NewLockKey` refuses. -/
def refuses (text : JsString) : Bool := !(newLockKey (JsString.encode text)).isOk

/-- The code of a value that is no string. -/
def typeCode : WireField → String
  | .fencingToken => validationInvalidFencingToken
  | .payloadSha256 => validationInvalidPayloadSha256
  | _ => validationInvalidType

/-- The code reported for a fault of a field. -/
def codeOf (f : WireField) : Fault → String
  | .missing => validationInvalidType
  | .notString => typeCode f
  | .empty => validationEmptyField
  | .tooLong => validationTooLong
  | .malformed => typeCode f
  | .refused => validationInvalidType

/-- The error names a field with a fault, and has the code of the fault. -/
def Blames (members : List Member) (error : WireFenceError) : Prop :=
  ∃ f fault, faultOf refuses f (valueOf members f) = some fault ∧ error.code = codeOf f fault ∧
    error.field = utf8 f.name

/-- The texts as Go strings; an absent optional field is the empty one. -/
def bytesOf (texts : Texts) : Write Bytes Bytes Bytes Bytes :=
  ⟨JsString.encode texts.tenantScope, JsString.encode texts.resourceKey,
    JsString.encode texts.fencingToken, JsString.encode texts.operationId,
    JsString.encode texts.payloadSha256, (texts.holder.map JsString.encode).getD [],
    (texts.leaseId.map JsString.encode).getD []⟩

/-- The texts were read from the values of the fields, the optional ones not empty. -/
structure ReadFrom (members : List Member) (texts : Texts) : Prop where
  complete : Complete (valueOf members) texts
  holder : texts.holder ≠ some []
  leaseId : texts.leaseId ≠ some []

/-- The request has the texts and the token that was parsed. -/
structure Carried (texts : Texts) (r : FencedWriteRequest) : Prop where
  tenantScope : r.tenantScope = JsString.encode texts.tenantScope
  resourceKey : r.resourceKey = JsString.encode texts.resourceKey
  fencingToken : parseFencingTokenText (JsString.encode texts.fencingToken) = .ok r.fencingToken
  operationId : r.operationId = JsString.encode texts.operationId
  payloadSha256 : r.payloadSha256 = JsString.encode texts.payloadSha256
  holder : r.holder = (texts.holder.map JsString.encode).getD []
  leaseId : r.leaseId = (texts.leaseId.map JsString.encode).getD []

section Reading

variable (request : RequestText)

theorem required_meets {f : WireField} {wrongTypeCode : String} (hoptional : f.isOptional = false)
    (hcode : codeOf f .notString = wrongTypeCode) :
    Meets (fun value => ∃ text, valueOf request.object.members f = some (some text) ∧
        value = JsString.encode text) (Blames request.object.members)
      (requiredJsonString (request.object.members.map entry) f wrongTypeCode) := by
  rw [requiredJsonString_eq]
  cases hvalue : valueOf request.object.members f with
  | none => exact ⟨f, .missing, by rw [hvalue, faultOf, hoptional]; rfl, rfl, rfl⟩
  | some value =>
    cases value with
    | none => exact ⟨f, .notString, by rw [hvalue]; rfl, hcode.symm, rfl⟩
    | some text => exact ⟨text, rfl, rfl⟩

theorem optional_meets {f : WireField} (hcode : codeOf f .notString = validationInvalidType)
    (hbound : ∀ text, textFault refuses f text = boundFault maxFenceMetadataBytes text) :
    Meets (fun value => ∃ text : Option JsString,
        valueOf request.object.members f = text.map some ∧ text ≠ some [] ∧
          value = (text.map JsString.encode).getD []) (Blames request.object.members)
      (optionalJsonString (request.object.members.map entry) f) := by
  unfold optionalJsonString
  rw [requiredJsonString_eq, get_entries]
  cases hfind : request.object.members.find? fun member => member.name == js f.name with
  | none => exact ⟨none, by rw [valueOf, hfind]; rfl, by simp, rfl⟩
  | some member =>
    have hvalue : valueOf request.object.members f = some (decodeLiteral member.item.value) := by
      rw [valueOf, hfind]
      rfl
    rw [Option.map_some, hvalue]
    dsimp only
    cases hdecode : decodeLiteral member.item.value with
    | none => exact ⟨f, .notString, by rw [hvalue, hdecode]; rfl, hcode.symm, rfl⟩
    | some text =>
      change Meets _ _ (if JsString.encode text = [] then _ else _)
      by_cases hempty : text = []
      · rw [if_pos ((JsString.encode_eq_nil_iff text).mpr hempty)]
        refine ⟨f, .empty, ?_, rfl, rfl⟩
        rw [hvalue, hdecode, faultOf, hbound, boundFault_empty hempty]
      · rw [if_neg (mt (JsString.encode_eq_nil_iff text).mp hempty)]
        exact ⟨some text, rfl, by simpa using hempty, rfl⟩

theorem requestTexts_meets :
    Meets (fun bytes => ∃ texts, ReadFrom request.object.members texts ∧ bytes = bytesOf texts)
      (Blames request.object.members) (requestTexts (request.object.members.map entry)) := by
  unfold requestTexts
  refine (required_meets request rfl rfl).bind ?_
  rintro _ ⟨tenantScope, htenant, rfl⟩
  refine (required_meets request rfl rfl).bind ?_
  rintro _ ⟨resourceKey, hkey, rfl⟩
  refine (required_meets request rfl rfl).bind ?_
  rintro _ ⟨fencingToken, htoken, rfl⟩
  refine (required_meets request rfl rfl).bind ?_
  rintro _ ⟨operationId, hoperation, rfl⟩
  refine (required_meets request rfl rfl).bind ?_
  rintro _ ⟨payloadSha256, hsha, rfl⟩
  refine (optional_meets request rfl fun _ => rfl).bind ?_
  rintro _ ⟨holder, hholder, hholderText, rfl⟩
  refine (optional_meets request rfl fun _ => rfl).bind ?_
  rintro _ ⟨leaseId, hlease, hleaseText, rfl⟩
  exact ⟨⟨tenantScope, resourceKey, fencingToken, operationId, payloadSha256, holder, leaseId⟩,
    ⟨⟨htenant, hkey, htoken, hoperation, hsha, hholder, hlease⟩, hholderText, hleaseText⟩, rfl⟩

end Reading

section Making

variable {members : List Member} {texts : Texts}

/-- An error of the constructors on the text of a field. -/
theorem blames_text {f : WireField} {text : JsString} {fault : Fault} {error : FenceValidationError}
    (hvalue : valueOf members f = some (some text)) (hfault : textFault refuses f text = some fault)
    (hcode : (ofCore error).code = codeOf f fault) (hfield : (ofCore error).field = utf8 f.name) :
    Blames members (ofCore error) :=
  ⟨f, fault, by rw [hvalue]; exact hfault, hcode, hfield⟩

theorem validateFenceField_meets {field : Field} {f : WireField} {text : JsString} {max : Nat}
    {optional : Bool} (hname : fieldName field = f.name)
    (hvalue : valueOf members f = some (some text))
    (hbound : textFault refuses f text = boundFault max text)
    (hoptional : optional = true → text ≠ []) :
    Meets (fun _ => textFault refuses f text = none) (fun e => Blames members (ofCore e))
      (validateFenceField field (JsString.encode text) max optional) := by
  unfold validateFenceField
  by_cases hempty : text = []
  · have hrequired : optional = false := by
      rw [Bool.eq_false_iff]
      exact fun h => hoptional h hempty
    rw [if_pos ((JsString.encode_eq_nil_iff text).mpr hempty), hrequired, if_neg (by decide)]
    exact blames_text hvalue (hbound.trans (boundFault_empty hempty)) rfl (congrArg utf8 hname)
  · rw [if_neg (mt (JsString.encode_eq_nil_iff text).mp hempty)]
    by_cases hlong : max < (JsString.encode text).length
    · rw [if_pos hlong]
      exact blames_text hvalue (hbound.trans (boundFault_tooLong hempty hlong)) rfl
        (congrArg utf8 hname)
    · rw [if_neg hlong]
      exact hbound.trans (boundFault_eq_none_iff.mpr ⟨hempty, hlong⟩)

/-- The bounds of an optional text, in Go an empty one when it is absent. -/
theorem validateOptional_meets {field : Field} {f : WireField} {text : Option JsString}
    (hname : fieldName field = f.name) (hvalue : valueOf members f = text.map some)
    (hbound : ∀ t, textFault refuses f t = boundFault maxFenceMetadataBytes t)
    (hne : text ≠ some []) :
    Meets (fun _ => ∀ t, text = some t → textFault refuses f t = none)
      (fun e => Blames members (ofCore e))
      (validateFenceField field ((text.map JsString.encode).getD []) maxFenceMetadataBytes true) := by
  cases text with
  | none =>
    intro t ht
    cases ht
  | some text =>
    have hnonempty : text ≠ [] := fun hnil => hne (by rw [hnil])
    refine (validateFenceField_meets hname hvalue (hbound text) fun _ => hnonempty).mono ?_
      fun _ h => h
    intro _ hgood t ht
    rw [← Option.some.inj ht]
    exact hgood

theorem parse_isToken (text : JsString) :
    (∃ token, parseFencingTokenText (JsString.encode text) = .ok token) ↔ isTokenText text = true := by
  rw [parse_iff, isTokenText_iff]
  simp only [JsString.encode_eq_numeral]

theorem isLowerHex_unit {u : UInt16} (h : u.toNat < 128) :
    isLowerHex (UInt8.ofNat u.toNat) =
      ((0x30 ≤ u && u ≤ 0x39) || (0x61 ≤ u && u ≤ 0x66)) := by
  have hbyte : (UInt8.ofNat u.toNat).toNat = u.toNat :=
    UInt8.toNat_ofNat_of_lt' (by simp [UInt8.size]; omega)
  simp only [isLowerHex, UInt8.le_iff_toNat_le, UInt16.le_iff_toNat_le, hbyte, UInt8.reduceToNat,
    UInt16.reduceToNat]

theorem isLowerSha256_encode (text : JsString) :
    isLowerSha256 (JsString.encode text) = JsString.matchesLowerSha256 text := by
  by_cases hascii : ∀ u ∈ text, u.toNat < 128
  · rw [JsString.encode_ascii hascii, isLowerSha256, JsString.matchesLowerSha256, List.length_map,
      List.all_map]
    congr 1
    rw [Bool.eq_iff_iff, List.all_eq_true, List.all_eq_true]
    refine forall₂_congr fun u hu => ?_
    rw [Function.comp_apply, isLowerHex_unit (hascii u hu)]
  · have hbytes : isLowerSha256 (JsString.encode text) = false := by
      rw [Bool.eq_false_iff]
      intro h
      apply hascii
      apply JsString.ascii_of_encode
      rw [isLowerSha256, Bool.and_eq_true, List.all_eq_true] at h
      intro byte hbyte
      have hhex := h.2 byte hbyte
      simp only [isLowerHex, Bool.or_eq_true, Bool.and_eq_true, decide_eq_true_eq,
        UInt8.le_iff_toNat_le, UInt8.reduceToNat] at hhex
      omega
    have hunits : JsString.matchesLowerSha256 text = false := by
      rw [Bool.eq_false_iff]
      intro h
      apply hascii
      rw [JsString.matchesLowerSha256, Bool.and_eq_true, List.all_eq_true] at h
      intro u hu
      have hhex := h.2 u hu
      simp only [Bool.or_eq_true, Bool.and_eq_true, decide_eq_true_eq, UInt16.le_iff_toNat_le,
        UInt16.reduceToNat] at hhex
      omega
    rw [hbytes, hunits]

theorem parse_error {value : Bytes} {error : FenceValidationError}
    (h : parseFencingTokenText value = .error error) : error = .invalidFencingToken value := by
  unfold parseFencingTokenText at h
  split at h
  · cases h
    rfl
  split at h
  · cases h
  · cases h
    rfl

theorem parse_meets {text : JsString} (hvalue : valueOf members .fencingToken = some (some text)) :
    Meets (fun token => textFault refuses .fencingToken text = none ∧
        parseFencingTokenText (JsString.encode text) = .ok token)
      (fun e => Blames members (ofCore e)) (parseFencingTokenText (JsString.encode text)) := by
  cases hparse : parseFencingTokenText (JsString.encode text) with
  | error error =>
    have hnone : ¬ isTokenText text = true := by
      rw [← parse_isToken, hparse]
      rintro ⟨_, hok⟩
      cases hok
    obtain rfl := parse_error hparse
    exact blames_text hvalue (by rw [textFault, if_neg hnone]) rfl rfl
  | ok token =>
    have hsome := (parse_isToken text).mp ⟨token, hparse⟩
    exact ⟨by rw [textFault, if_pos hsome], rfl⟩

/-- The factory's own check of the key cannot fail on a key that is there. -/
theorem validate_meets {r : FencedWriteRequest} (hread : ReadFrom members texts)
    (hcarried : Carried texts r) (hkey : textFault refuses .resourceKey texts.resourceKey = none) :
    Meets (fun _ => Faultless refuses texts) (fun e => Blames members (ofCore e)) (validate r) := by
  have hcomplete := hread.complete
  obtain ⟨hnonempty, hshort⟩ := boundFault_eq_none_iff.mp (keyFault_bound hkey)
  have hkeyMeets : Meets (fun _ => True) (fun e => Blames members (ofCore e))
      (validateFenceField .resourceKey r.resourceKey maxLockKeyBytes false) := by
    rw [hcarried.resourceKey, validateFenceField,
      if_neg (mt (JsString.encode_eq_nil_iff _).mp hnonempty),
      if_neg (show ¬ maxLockKeyBytes < _ from hshort)]
    exact trivial
  unfold validate
  rw [hcarried.tenantScope]
  refine (validateFenceField_meets rfl hcomplete.tenantScope rfl (by simp)).bind ?_
  intro _ htenant
  refine hkeyMeets.bind ?_
  intro _ _
  rw [(of_parse hcarried.fencingToken).1]
  refine (parse_meets hcomplete.fencingToken).bind ?_
  rintro _ ⟨htoken, _⟩
  rw [hcarried.operationId]
  refine (validateFenceField_meets rfl hcomplete.operationId rfl (by simp)).bind ?_
  intro _ hoperation
  rw [hcarried.payloadSha256, isLowerSha256_encode]
  dsimp only
  by_cases hhex : JsString.matchesLowerSha256 texts.payloadSha256 = true
  · rw [hhex, if_neg (by decide), hcarried.holder, hcarried.leaseId]
    refine (validateOptional_meets rfl hcomplete.holder (fun _ => rfl) hread.holder).bind ?_
    intro _ hholder
    refine (validateOptional_meets rfl hcomplete.leaseId (fun _ => rfl) hread.leaseId).mono ?_
      fun _ h => h
    intro _ hlease
    exact ⟨htenant, hkey, htoken, hoperation, by rw [textFault, if_pos hhex], hholder, hlease⟩
  · rw [Bool.not_eq_true] at hhex
    rw [hhex, if_pos (by decide)]
    exact blames_text hcomplete.payloadSha256 (by rw [textFault, hhex, if_neg (by decide)]) rfl rfl

theorem newRequest_meets {r : FencedWriteRequest} (hread : ReadFrom members texts)
    (hcarried : Carried texts r) (hkey : textFault refuses .resourceKey texts.resourceKey = none) :
    Meets (fun made => Faultless refuses texts ∧ Carried texts made)
      (fun e => Blames members (ofCore e)) (newFencedWriteRequest r) := by
  unfold newFencedWriteRequest
  refine (validate_meets hread hcarried hkey).bind ?_
  intro _ hfaultless
  exact ⟨hfaultless, hcarried⟩

theorem wireLockKey_meets (hread : ReadFrom members texts)
    (hbound : boundFault 512 texts.resourceKey = none) :
    Meets (fun key => textFault refuses .resourceKey texts.resourceKey = none ∧
        key = JsString.encode texts.resourceKey) (Blames members)
      (wireLockKey (JsString.encode texts.resourceKey)) := by
  unfold wireLockKey
  cases hnew : newLockKey (JsString.encode texts.resourceKey) with
  | error invalid =>
    have hrefuses : refuses texts.resourceKey = true := by
      rw [refuses, hnew]
      rfl
    exact ⟨.resourceKey, .refused, by rw [hread.complete.resourceKey, faultOf, keyFault_within hbound,
      if_pos hrefuses], rfl, rfl⟩
  | ok key =>
    have hadmits : refuses texts.resourceKey = false := by
      rw [refuses, hnew]
      rfl
    exact ⟨by rw [keyFault_within hbound, hadmits, if_neg (by decide)], newLockKey_eq hnew⟩

theorem requestOfTexts_meets (hread : ReadFrom members texts) :
    Meets (fun r => Faultless refuses texts ∧ Carried texts r) (Blames members)
      (requestOfTexts (bytesOf texts)) := by
  have hvalue := hread.complete.resourceKey
  unfold requestOfTexts
  by_cases hempty : texts.resourceKey = []
  · rw [if_pos (show (bytesOf texts).resourceKey = [] from
      (JsString.encode_eq_nil_iff _).mpr hempty)]
    exact blames_text hvalue (keyFault_of_bound (boundFault_empty hempty)) rfl rfl
  rw [if_neg (show ¬ (bytesOf texts).resourceKey = [] from
    mt (JsString.encode_eq_nil_iff _).mp hempty)]
  by_cases hlong : 512 < (JsString.encode texts.resourceKey).length
  · rw [if_pos (show maxLockKeyBytes < (bytesOf texts).resourceKey.length from hlong)]
    exact blames_text hvalue (keyFault_of_bound (boundFault_tooLong hempty hlong)) rfl rfl
  rw [if_neg (show ¬ maxLockKeyBytes < (bytesOf texts).resourceKey.length from hlong)]
  have hbound : boundFault 512 texts.resourceKey = none :=
    boundFault_eq_none_iff.mpr ⟨hempty, hlong⟩
  refine (wireLockKey_meets hread hbound).bind ?_
  rintro _ ⟨hkey, rfl⟩
  refine (parse_meets hread.complete.fencingToken).mapError.bind ?_
  rintro token ⟨_, htoken⟩
  exact (newRequest_meets hread ⟨rfl, rfl, htoken, rfl, rfl, rfl, rfl⟩ hkey).mapError

end Making

/-! ## The whole decoder -/

/-- What the decoder may answer for a request within the size limit. -/
inductive Answers (request : RequestText) : Except WireFenceError FencedWriteRequest → Prop where
  | unexpected (name : JsString) (message : Message)
      (h : Unexpected (request.object.members.map Member.name) name) :
      Answers request (.error ⟨validationUnexpectedField, JsString.encode name, message⟩)
  | blames (error : WireFenceError)
      (hnone : ∀ name, ¬ Unexpected (request.object.members.map Member.name) name)
      (h : Blames request.object.members error) : Answers request (.error error)
  | made (texts : Texts) (r : FencedWriteRequest)
      (hnone : ∀ name, ¬ Unexpected (request.object.members.map Member.name) name)
      (hread : ReadFrom request.object.members texts) (hfaultless : Faultless refuses texts)
      (hcarried : Carried texts r) : Answers request (.ok r)

theorem decodeRequest_large {request : RequestText} (h : request.TooLarge) :
    decodeRequest request =
      .error ⟨validationInvalidType, utf8 "request", .outsideSizeLimit⟩ := by
  unfold decodeRequest decodeFencedWriteRequestJson
  exact if_pos (Or.inr (Or.inl h))

theorem decodeRequest_answers {request : RequestText} (h : ¬ request.TooLarge) :
    Answers request (decodeRequest request) := by
  have hsize : ¬ (JsString.encode request.object.text = [] ∨
      maxFencedWriteJsonBytes < (JsString.encode request.object.text).length ∨
      (decode (JsString.encode request.object.text)).isNone = true) := by
    rintro (hempty | hlarge | hinvalid)
    · rw [JsString.encode_eq_nil_iff] at hempty
      exact absurd hempty (by simp [Object.text])
    · exact h hlarge
    · obtain ⟨s, hs⟩ := request.unicode
      rw [hs, encode_js, utf8, decode_encode] at hinvalid
      cases hinvalid
  unfold decodeRequest decodeFencedWriteRequestJson
  rw [if_neg hsize]
  dsimp only [newDecoder]
  rcases decodeMembers_cases [] request.object.members
    (by rintro name ⟨before, after, hnil, _⟩; simp at hnil) with
    ⟨name, message, hname, herror⟩ | ⟨hnone, hok⟩
  · rw [List.map_nil] at herror
    rw [herror]
    exact .unexpected name message hname
  · rw [List.map_nil] at hok
    rw [hok]
    have hmeets : Meets (fun r => ∃ texts, ReadFrom request.object.members texts ∧
        Faultless refuses texts ∧ Carried texts r) (Blames request.object.members)
        (requestTexts (request.object.members.map entry) >>= requestOfTexts) := by
      refine (requestTexts_meets request).bind ?_
      rintro _ ⟨texts, hread, rfl⟩
      exact (requestOfTexts_meets hread).mono (fun r hr => ⟨texts, hread, hr.1, hr.2⟩)
        fun _ hblames => hblames
    change Answers request (requestTexts (request.object.members.map entry) >>= requestOfTexts)
    cases hresult : requestTexts (request.object.members.map entry) >>= requestOfTexts with
    | error error =>
      rw [hresult] at hmeets
      exact .blames error hnone hmeets
    | ok r =>
      rw [hresult] at hmeets
      obtain ⟨texts, hread, hfaultless, hcarried⟩ := hmeets
      exact .made texts r hnone hread hfaultless hcarried

end OresLocks.Fencing.Go
