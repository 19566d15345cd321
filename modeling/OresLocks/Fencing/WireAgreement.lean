import OresLocks.Fencing.Agreement
import OresLocks.Fencing.DartRequestReports
import OresLocks.Fencing.GoWireReports

/-!
# The requests that Go and Dart admit from the wire

Both decoders admit the objects without an unexpected member or a faulty field. They may
differ in what a lock key is; where they do not, they return the same seven fields.
-/

namespace OresLocks.Fencing

set_option autoImplicit false

open Fence Shared.Json Shared.Utf8
open OresLocks.Ts (js encode_js Unicode)

/-- Both requests hold the texts of `f`; an absent optional field is empty in Go, and no
field of `f` is present and empty. -/
structure SameFields (f : Fields) (r : Go.FencedWriteRequest) (q : Dart.Fields) : Prop where
  goTexts : go.Carries f r
  dartTexts : dart.Carries f q
  goHolder : r.holder = (f.holder.map utf8).getD []
  dartHolder : q.holder = f.holder.map js
  holder : f.holder ≠ some ""
  goLeaseId : r.leaseId = (f.leaseId.map utf8).getD []
  dartLeaseId : q.leaseId = f.leaseId.map js
  leaseId : f.leaseId ≠ some ""

section Texts

variable {texts : Texts}

/-- Texts in Unicode are the texts of strings. -/
structure Spelled (texts : Texts) (f : Fields) : Prop where
  tenantScope : texts.tenantScope = js f.tenantScope
  resourceKey : texts.resourceKey = js f.resourceKey
  fencingToken : texts.fencingToken = js f.fencingToken
  operationId : texts.operationId = js f.operationId
  payloadSha256 : texts.payloadSha256 = js f.payloadSha256
  holder : texts.holder = f.holder.map js
  leaseId : texts.leaseId = f.leaseId.map js

theorem exists_spelled {values : WireField → FieldValue} (hcomplete : Complete values texts)
    (hunicode : ∀ f text, values f = some (some text) → Unicode text) :
    ∃ f, Spelled texts f := by
  have hoptional : ∀ (g : WireField) (text : Option JsString), values g = text.map some →
      ∃ s : Option String, text = s.map js := by
    intro g text hvalue
    cases text with
    | none => exact ⟨none, rfl⟩
    | some text =>
      obtain ⟨s, rfl⟩ := hunicode g text hvalue
      exact ⟨some s, rfl⟩
  obtain ⟨tenantScope, htenant⟩ := hunicode _ _ hcomplete.tenantScope
  obtain ⟨resourceKey, hkey⟩ := hunicode _ _ hcomplete.resourceKey
  obtain ⟨fencingToken, htoken⟩ := hunicode _ _ hcomplete.fencingToken
  obtain ⟨operationId, hoperation⟩ := hunicode _ _ hcomplete.operationId
  obtain ⟨payloadSha256, hsha⟩ := hunicode _ _ hcomplete.payloadSha256
  obtain ⟨holder, hholder⟩ := hoptional _ _ hcomplete.holder
  obtain ⟨leaseId, hlease⟩ := hoptional _ _ hcomplete.leaseId
  exact ⟨⟨tenantScope, resourceKey, fencingToken, operationId, payloadSha256, holder, leaseId⟩,
    htenant, hkey, htoken, hoperation, hsha, hholder, hlease⟩

theorem sameFields {f : Fields} {r : Go.FencedWriteRequest} {q : Dart.Fields}
    (hspelled : Spelled texts f) (hholder : texts.holder ≠ some []) (hlease : texts.leaseId ≠ some [])
    (hgo : Go.Carried texts r) (hdart : Dart.Carried texts q) : SameFields f r q := by
  have hmap : ∀ s : Option String, (s.map js).map JsString.encode = s.map utf8 := by
    intro s
    rw [Option.map_map]
    congr 1
    funext t
    exact encode_js t
  have hempty : ∀ {s : Option String}, s.map js ≠ some [] → s ≠ some "" := by
    rintro s hs rfl
    exact hs rfl
  refine ⟨⟨?_, ?_, ?_, ?_, ?_⟩, ⟨?_, ?_, ?_, ?_, ?_⟩, ?_, ?_, ?_, ?_, ?_, ?_⟩
  · rw [hgo.tenantScope, hspelled.tenantScope, encode_js]
    rfl
  · change r.resourceKey = utf8 f.resourceKey
    rw [hgo.resourceKey, hspelled.resourceKey, encode_js]
  · have hparse := hgo.fencingToken
    rw [hspelled.fencingToken, encode_js] at hparse
    exact go_reads hparse
  · rw [hgo.operationId, hspelled.operationId, encode_js]
    rfl
  · rw [hgo.payloadSha256, hspelled.payloadSha256, encode_js]
    rfl
  · exact hdart.tenantScope.trans hspelled.tenantScope
  · exact (Dart.LockKey.value_of_new hdart.resourceKey).trans hspelled.resourceKey
  · have hparse := hdart.fencingToken
    rw [hspelled.fencingToken] at hparse
    exact dart_reads hparse
  · exact hdart.operationId.trans hspelled.operationId
  · exact hdart.payloadSha256.trans hspelled.payloadSha256
  · rw [hgo.holder, hspelled.holder, hmap]
  · exact hdart.holder.trans hspelled.holder
  · exact hempty (hspelled.holder ▸ hholder)
  · rw [hgo.leaseId, hspelled.leaseId, hmap]
  · exact hdart.leaseId.trans hspelled.leaseId
  · exact hempty (hspelled.leaseId ▸ hlease)

end Texts

/-- The two decoders refuse the request, or both admit it with the same fields. -/
def AgreeOn (request : RequestText) : Prop :=
  ((∃ error, Go.decodeRequest request = .error error) ∧
    ∃ thrown, Dart.decodeRequest request = .error thrown) ∨
  ∃ f r q, Go.decodeRequest request = .ok r ∧ Dart.decodeRequest request = .ok q ∧
    SameFields f r q.fields

section Requests

variable {request : RequestText}

theorem exists_of_valueOf {members : List Member} {f : WireField} {text : JsString}
    (h : valueOf members f = some (some text)) :
    ∃ member ∈ members, decodeLiteral member.item.value = some text := by
  obtain ⟨member, hfind, hvalue⟩ := Option.map_eq_some_iff.mp h
  exact ⟨member, List.mem_of_find?_eq_some hfind, hvalue⟩

/-- Where the lock keys agree, so do the faults. -/
theorem faultOf_agree {values : WireField → FieldValue}
    (hkeys : ∀ text, values .resourceKey = some (some text) → Go.refuses text = Dart.refuses text)
    (f : WireField) : faultOf Go.refuses f (values f) = faultOf Dart.refuses f (values f) := by
  cases f with
  | resourceKey =>
    cases hvalue : values .resourceKey with
    | none => rfl
    | some value =>
      cases value with
      | none => rfl
      | some text => simp only [faultOf, textFault, hkeys text hvalue]
  | _ => rfl

theorem isOk_iff {ε α : Type} {x : Except ε α} : x.isOk = true ↔ ∃ a, x = .ok a := by
  cases x with
  | error error =>
    constructor
    · intro h
      cases h
    · rintro ⟨_, h⟩
      cases h
  | ok a => exact ⟨fun _ => ⟨a, rfl⟩, fun _ => rfl⟩

end Requests

/-- Where no string of the request holds an unpaired surrogate and the two runtimes agree
on its lock key, they admit the same requests with the same fields. -/
theorem decoders_agree (request : RequestText)
    (hstrings : ∀ member ∈ request.object.members, ∀ text,
      decodeLiteral member.item.value = some text → Unicode text)
    (hkeys : ∀ text, valueOf request.object.members .resourceKey = some (some text) →
      ((∃ key, Go.newLockKey (JsString.encode text) = .ok key) ↔
        ∃ key, Dart.LockKey.new text = .ok key)) :
    AgreeOn request := by
  have hrefuse : ∀ text, valueOf request.object.members .resourceKey = some (some text) →
      Go.refuses text = Dart.refuses text := by
    intro text hvalue
    rw [Go.refuses, Dart.refuses, Bool.not_inj_iff, Bool.eq_iff_iff, isOk_iff, isOk_iff]
    exact hkeys text hvalue
  have hfaults := faultOf_agree hrefuse
  by_cases hlarge : request.TooLarge
  · obtain ⟨message, hdart⟩ := Dart.decodeRequest_large hlarge
    exact Or.inl ⟨⟨_, Go.decodeRequest_large hlarge⟩, _, hdart⟩
  have hgo := Go.decodeRequest_answers hlarge
  have hdart := Dart.decodeRequest_answers hlarge
  unfold AgreeOn
  generalize Go.decodeRequest request = goResult at hgo ⊢
  generalize Dart.decodeRequest request = dartResult at hdart ⊢
  rcases hgo with ⟨name, message, hname⟩ | ⟨error, hnone, hblames⟩ |
      ⟨texts, r, hnone, hread, hfaultless, hcarried⟩
  · refine Or.inl ⟨⟨_, rfl⟩, ?_⟩
    rcases hdart with _ | _ | ⟨_, _, hclean, _, _, _⟩
    · exact ⟨_, rfl⟩
    · exact ⟨_, rfl⟩
    · exact absurd hname (hclean name)
  · refine Or.inl ⟨⟨_, rfl⟩, ?_⟩
    rcases hdart with _ | _ | ⟨texts, q, _, hcomplete, hfaultless, _⟩
    · exact ⟨_, rfl⟩
    · exact ⟨_, rfl⟩
    · obtain ⟨f, fault, hfault, _⟩ := hblames
      rw [hfaults f, hcomplete.no_fault hfaultless f] at hfault
      cases hfault
  · refine Or.inr ?_
    rcases hdart with ⟨name, _, hname, _, _⟩ | ⟨thrown, _, hblames⟩ |
        ⟨texts', q, _, hcomplete, _, hcarried'⟩
    · exact absurd hname (hnone name)
    · obtain ⟨f, fault, hfault, _⟩ := hblames
      rw [← hfaults f, hread.complete.no_fault hfaultless f] at hfault
      cases hfault
    · obtain rfl := hread.complete.unique hcomplete
      obtain ⟨f, hspelled⟩ := exists_spelled hread.complete (by
        intro g text hvalue
        obtain ⟨member, hmem, hdecode⟩ := exists_of_valueOf hvalue
        exact hstrings member hmem text hdecode)
      exact ⟨f, r, q, rfl, rfl,
        sameFields hspelled hread.holder hread.leaseId hcarried hcarried'⟩

/-- A request with a holder and without a lease id. -/
def sampleFields : List (String × String) :=
  [("holder", "worker"), ("tenantScope", "tenant"), ("resourceKey", "jobs/rebuild"),
    ("fencingToken", "18446744073709551615"), ("operationId", "operation"),
    ("payloadSha256", "00112233445566778899aabbccddeeff00112233445566778899aabbccddeeff")]

theorem sample_plain : ∀ entry ∈ sampleFields, Plain entry.1 ∧ Plain entry.2 := by decide +kernel

theorem sample_agrees : AgreeOn (plainRequest sampleFields sample_plain) := by
  refine decoders_agree (plainRequest sampleFields sample_plain) ?_ ?_
  · intro member hmem text hdecode
    obtain ⟨entry, hentry, rfl⟩ := List.mem_map.mp hmem
    rw [show decodeLiteral (plainMember entry).item.value = some (js entry.2) from
      decodeLiteral_of_literal (literal_quoted (sample_plain entry hentry).2)] at hdecode
    exact ⟨entry.2, (Option.some.inj hdecode).symm⟩
  · intro text hvalue
    rw [valueOf_plain] at hvalue
    obtain rfl : js "jobs/rebuild" = text := Option.some.inj (Option.some.inj hvalue)
    exact iff_of_true (isOk_iff.mp (by decide +kernel)) (isOk_iff.mp (by decide +kernel))

end OresLocks.Fencing
