import OresLocks.Fencing.Go
import OresLocks.Fencing.Ts
import OresLocks.Fencing.Dart
import OresLocks.Fencing.Gleam
import OresLocks.FencedWriteTokens

/-!
# One fencing decision in every runtime

The token texts all parsers accept are the shortest decimal numerals of the unsigned
64-bit numbers. Writes that every runtime admits get one outcome, the one their texts and
the numbers of their tokens determine.
-/

namespace OresLocks.Fencing

set_option autoImplicit false

open Fence Shared.Numeral Shared.Utf8
open OresLocks.Ts (js js_injective)

/-- The shortest decimal numeral of an unsigned 64-bit number. -/
def IsToken (s : String) : Prop := ∃ n, n < 2 ^ 64 ∧ IsShortest n (utf8 s)

theorem isToken_iff (s : String) : IsToken s ↔ ∃ n, n < 2 ^ 64 ∧ s = toString n := by
  have heq : ∀ n, IsShortest n (utf8 s) ↔ s = toString n := by
    intro n
    rw [isShortest_iff, ← utf8_toString, utf8_inj]
  simp only [IsToken, heq]

@[simp] theorem js_toString (n : Nat) : js (toString n) = numeral n := by
  have hlist : (toString n).toList = Nat.toDigits 10 n := by
    simp [Nat.repr]
  have hd : ∀ c ∈ Nat.toDigits 10 n, c.isDigit = true := fun c hc =>
    Nat.isDigit_of_mem_toDigits (by decide : 0 < 10) (by decide) hc
  rw [js, hlist, numeral]
  generalize Nat.toDigits 10 n = digits at hd
  induction digits with
  | nil => rfl
  | cons c cs ih =>
    obtain ⟨d, hd10, hc⟩ := Gleam.eq_digitChar (hd c List.mem_cons_self)
    have hlt : c.toNat < 0x10000 := by
      rw [hc, Nat.toNat_digitChar_of_lt_ten hd10]
      omega
    rw [List.flatMap_cons, List.map_cons, if_pos hlt,
      ih (fun d hd' => hd d (List.mem_cons_of_mem c hd'))]
    rfl

theorem utf8_eq_numeral (s : String) (n : Nat) : utf8 s = numeral n ↔ s = toString n := by
  rw [← utf8_toString, utf8_inj]

theorem js_eq_numeral (s : String) (n : Nat) : js s = numeral n ↔ s = toString n := by
  rw [← js_toString, js_injective.eq_iff]

/-- How one runtime holds texts, lock keys and tokens. -/
structure Runtime (text key token : Type) where
  encode : String → text
  encode_injective : Function.Injective encode
  keyText : key → text
  keyText_injective : Function.Injective keyText
  print : token → text
  number : token → Nat

def rust : Runtime String LockKey Fence.FencingTokenText :=
  ⟨id, Function.injective_id, (·.text), fun _ _ h => LockKey.text_inj.mp h, (·.text), (·.value)⟩

def go : Runtime Bytes Bytes Go.FencingTokenText :=
  ⟨utf8, utf8_injective, id, Function.injective_id, (·.text), (·.value)⟩

def ts : Runtime JsString JsString JsString :=
  ⟨js, js_injective, id, Function.injective_id, id, natOf⟩

def dart : Runtime JsString Dart.LockKey Dart.FencingTokenText :=
  ⟨js, js_injective, (·.value), fun _ _ h => Dart.LockKey.value_inj.mp h, (·.value), (·.numeric)⟩

def gleam : Runtime String Gleam.LockKey Gleam.FencingTokenText :=
  ⟨id, Function.injective_id, (·.text), fun _ _ h => Gleam.LockKey.text_inj.mp h, (·.text),
    (·.value)⟩

section Tokens

variable {G : Gleam.Graphemes} {s s' : String}

/-- A token prints as the text and has the number of the text. -/
structure Runtime.Reads {text key token : Type} (R : Runtime text key token) (s : String)
    (t : token) : Prop where
  print : R.print t = R.encode s
  number : R.number t = natOf (utf8 s)

theorem Runtime.Reads.compare {text key token : Type} {R : Runtime text key token} {t t' : token}
    (h : R.Reads s t) (h' : R.Reads s' t') (hs : IsToken s) (hs' : IsToken s') :
    Ord.compare (R.number t) (R.number t') = FencedWrite.compareDecimal (utf8 s) (utf8 s') := by
  obtain ⟨m, _, rfl⟩ := (isToken_iff s).mp hs
  obtain ⟨n, _, rfl⟩ := (isToken_iff s').mp hs'
  rw [h.number, h'.number, utf8_toString, utf8_toString, natOf_numeral, natOf_numeral,
    FencedWrite.compareDecimal_numeral]

theorem rust_reads {t : Fence.FencingTokenText} (h : Fence.FencingTokenText.parse s = .ok t) :
    rust.Reads s t := by
  have htext := Fence.FencingTokenText.text_of_parse h
  refine ⟨htext, ?_⟩
  rw [← htext, t.canonical, utf8_toString, natOf_numeral]
  rfl

theorem go_reads {t : Go.FencingTokenText} (h : Go.parseFencingTokenText (utf8 s) = .ok t) :
    go.Reads s t := by
  obtain ⟨htext, _, hvalue⟩ := Go.of_parse h
  refine ⟨htext, ?_⟩
  rw [hvalue, natOf_numeral]
  rfl

theorem ts_reads {t : JsString} (h : Ts.fencingTokenText (.string (js s)) = .ok t) :
    ts.Reads s t := by
  obtain ⟨rfl, _, hvalue⟩ := Ts.of_parse h
  have hbytes := (utf8_eq_numeral s _).mpr ((js_eq_numeral s _).mp hvalue)
  refine ⟨rfl, ?_⟩
  rw [hbytes, natOf_numeral]
  rfl

theorem dart_reads {t : Dart.FencingTokenText} (h : Dart.FencingTokenText.parse (js s) = .ok t) :
    dart.Reads s t := by
  have hvalue := Dart.value_of_parse h
  refine ⟨hvalue, ?_⟩
  rw [t.canonical] at hvalue
  rw [(js_eq_numeral s _).mp hvalue.symm, utf8_toString, natOf_numeral]
  rfl

theorem gleam_reads {t : Gleam.FencingTokenText} (h : Gleam.fencingTokenText G s = .ok t) :
    gleam.Reads s t := by
  have htext := Gleam.text_of_parse h
  refine ⟨htext, ?_⟩
  rw [← htext, t.printed, utf8_toString, natOf_numeral]
  rfl

/-- The tokens that the parsers of all runtimes make of one text. -/
structure Tokens (G : Gleam.Graphemes) (s : String) where
  rust : Fence.FencingTokenText
  rust_parsed : Fence.FencingTokenText.parse s = .ok rust
  go : Go.FencingTokenText
  go_parsed : Go.parseFencingTokenText (utf8 s) = .ok go
  ts : JsString
  ts_parsed : Ts.fencingTokenText (.string (js s)) = .ok ts
  dart : Dart.FencingTokenText
  dart_parsed : Dart.FencingTokenText.parse (js s) = .ok dart
  gleam : Gleam.FencingTokenText
  gleam_parsed : Gleam.fencingTokenText G s = .ok gleam

theorem Tokens.isToken (t : Tokens G s) : IsToken s :=
  (isToken_iff s).mpr ((Fence.FencingTokenText.parse_iff s).mp ⟨t.rust, t.rust_parsed⟩)

end Tokens

section Outcomes

/-- The texts of one write, before any runtime has seen them. -/
abbrev Fields := Write String String String (Option String)

/-- What the texts of two writes determine. -/
def outcome (current : Option Fields) (incoming : Fields) : Outcome String :=
  match current with
  | none => .decided (.first incoming.fencingToken)
  | some current =>
    if current.tenantScope = incoming.tenantScope ∧ current.resourceKey = incoming.resourceKey then
      .decided (.against
        (compare (natOf (utf8 incoming.fencingToken)) (natOf (utf8 current.fencingToken)))
        (current.operationId = incoming.operationId ∧
          current.payloadSha256 = incoming.payloadSha256)
        incoming.fencingToken current.fencingToken)
    else .identityMismatch

variable {text key token optional : Type}

/-- A runtime's write carries the texts of `f`. -/
structure Runtime.Carries (R : Runtime text key token) (f : Fields)
    (w : Write text key token optional) : Prop where
  tenantScope : w.tenantScope = R.encode f.tenantScope
  resourceKey : R.keyText w.resourceKey = R.encode f.resourceKey
  fencingToken : R.Reads f.fencingToken w.fencingToken
  operationId : w.operationId = R.encode f.operationId
  payloadSha256 : w.payloadSha256 = R.encode f.payloadSha256

variable {R : Runtime text key token} {f g : Fields} {w r : Write text key token optional}

theorem Runtime.Carries.identity_iff (hw : R.Carries f w) (hr : R.Carries g r) :
    (w.tenantScope = r.tenantScope ∧ w.resourceKey = r.resourceKey) ↔
      f.tenantScope = g.tenantScope ∧ f.resourceKey = g.resourceKey := by
  rw [hw.tenantScope, hr.tenantScope, R.encode_injective.eq_iff, ← R.keyText_injective.eq_iff,
    hw.resourceKey, hr.resourceKey, R.encode_injective.eq_iff]

theorem Runtime.Carries.operation_iff (hw : R.Carries f w) (hr : R.Carries g r) :
    (w.operationId = r.operationId ∧ w.payloadSha256 = r.payloadSha256) ↔
      f.operationId = g.operationId ∧ f.payloadSha256 = g.payloadSha256 := by
  rw [hw.operationId, hr.operationId, hw.payloadSha256, hr.payloadSha256,
    R.encode_injective.eq_iff, R.encode_injective.eq_iff]

/-- A runtime that decides by identity, order and operation reports the outcome of the
texts its two writes carry. -/
theorem report_found {ε : Type} [DecidableEq ε] [DecidableEq text] {mismatch : ε}
    (hw : R.Carries f w) (hr : R.Carries g r) {answer : Except ε (Decision token)}
    (hmismatch : ¬ (w.tenantScope = r.tenantScope ∧ w.resourceKey = r.resourceKey) →
      answer = .error mismatch)
    (hfound : w.tenantScope = r.tenantScope → w.resourceKey = r.resourceKey →
      answer = .ok (.against (compare (R.number r.fencingToken) (R.number w.fencingToken))
        (w.operationId = r.operationId ∧ w.payloadSha256 = r.payloadSha256)
        r.fencingToken w.fencingToken)) :
    report mismatch R.print answer = some ((outcome (some f) g).map R.encode) := by
  by_cases hid : w.tenantScope = r.tenantScope ∧ w.resourceKey = r.resourceKey
  · have hfields := (hw.identity_iff hr).mp hid
    rw [hfound hid.1 hid.2, outcome, if_pos hfields]
    simp only [report, Outcome.map, Decision.map_against, hw.fencingToken.print,
      hr.fencingToken.print]
    rw [Decision.against_congr (by rw [hw.fencingToken.number, hr.fencingToken.number])
      (hw.operation_iff hr)]
  · have hfields := mt (hw.identity_iff hr).mpr hid
    rw [hmismatch hid, outcome, if_neg hfields]
    simp [report, Outcome.map]

theorem report_first {ε : Type} [DecidableEq ε] {mismatch : ε} (hr : R.Carries g r)
    {answer : Except ε (Decision token)} (hfirst : answer = .ok (.first r.fencingToken)) :
    report mismatch R.print answer = some ((outcome none g).map R.encode) := by
  rw [hfirst]
  simp only [report, outcome, Outcome.map, Decision.map_first, hr.fencingToken.print]

end Outcomes

section Requests

/-- The texts of a write under an encoding. -/
def encoded {text : Type} (encode : String → text) (f : Fields) :
    Write text text text (Option text) :=
  ⟨encode f.tenantScope, encode f.resourceKey, encode f.fencingToken, encode f.operationId,
    encode f.payloadSha256, f.holder.map encode, f.leaseId.map encode⟩

def rustRequest (f : Fields) : Option Fence.FencedWriteRequest := do
  let key ← (LockKey.new f.resourceKey).toOption
  let token ← (Fence.FencingTokenText.parse f.fencingToken).toOption
  (Fence.FencedWriteRequest.new ⟨f.tenantScope, key, token, f.operationId, f.payloadSha256,
    f.holder, f.leaseId⟩).toOption

/-- An absent optional field is the empty text in Go. -/
def goRequest (f : Fields) : Option Go.FencedWriteRequest := do
  let f := encoded utf8 f
  let key ← (Go.newLockKey f.resourceKey).toOption
  let token ← (Go.parseFencingTokenText f.fencingToken).toOption
  (Go.newFencedWriteRequest ⟨f.tenantScope, key, token, f.operationId, f.payloadSha256,
    f.holder.getD [], f.leaseId.getD []⟩).toOption

def tsRequest (f : Fields) : Option Ts.FencedWriteRequest :=
  (Ts.fencedWriteRequest (Ts.toObject (encoded js f))).toOption

def dartRequest (f : Fields) : Option Dart.FencedWriteRequest := do
  let f := encoded js f
  let key ← (Dart.LockKey.new f.resourceKey).toOption
  let token ← (Dart.FencingTokenText.parse f.fencingToken).toOption
  (Dart.FencedWriteRequest.new ⟨f.tenantScope, key, token, f.operationId, f.payloadSha256,
    f.holder, f.leaseId⟩).toOption

def gleamRequest (G : Gleam.Graphemes) (f : Fields) : Option Gleam.FencedWriteRequest := do
  let key ← (Gleam.lockKey f.resourceKey).toOption
  let token ← (Gleam.fencingTokenText G f.fencingToken).toOption
  (Gleam.newFencedWriteRequest G ⟨f.tenantScope, key, token, f.operationId, f.payloadSha256,
    f.holder, f.leaseId⟩).toOption

/-- A write that the constructors of every runtime have admitted. -/
structure Admitted (G : Gleam.Graphemes) where
  fields : Fields
  rust : Fence.FencedWriteRequest
  rust_made : rustRequest fields = some rust
  go : Go.FencedWriteRequest
  go_made : goRequest fields = some go
  ts : Ts.FencedWriteRequest
  ts_made : tsRequest fields = some ts
  dart : Dart.FencedWriteRequest
  dart_made : dartRequest fields = some dart
  gleam : Gleam.FencedWriteRequest
  gleam_made : gleamRequest G fields = some gleam

def ofRust (r : Fence.FencedWriteRequest) : Write String LockKey Fence.FencingTokenText
    (Option String) :=
  ⟨r.tenantScope, r.resourceKey, r.fencingToken, r.operationId, r.payloadSha256, r.holder,
    r.leaseId⟩

theorem toOption_eq_some {ε α : Type} {x : Except ε α} {a : α} (h : x.toOption = some a) :
    x = .ok a := by
  cases x with
  | error e => cases h
  | ok b =>
    cases h
    rfl

variable {G : Gleam.Graphemes} {f : Fields}

theorem rust_carries {r : Fence.FencedWriteRequest} (h : rustRequest f = some r) :
    rust.Carries f (ofRust r) ∧ r.validate = .ok () := by
  simp only [rustRequest, Option.bind_eq_bind, Option.bind_eq_some_iff] at h
  obtain ⟨key, hkey, token, htoken, hr⟩ := h
  obtain ⟨rfl, hvalid⟩ := Fence.valid_of_new (toOption_eq_some hr)
  exact ⟨⟨rfl, LockKey.text_of_new (toOption_eq_some hkey), rust_reads (toOption_eq_some htoken),
    rfl, rfl⟩, hvalid⟩

theorem go_carries {r : Go.FencedWriteRequest} (h : goRequest f = some r) :
    go.Carries f r ∧ Go.validate r = .ok () := by
  simp only [goRequest, Option.bind_eq_bind, Option.bind_eq_some_iff] at h
  obtain ⟨key, hkey, token, htoken, hr⟩ := h
  obtain ⟨rfl, hvalid⟩ := Go.valid_of_new (toOption_eq_some hr)
  exact ⟨⟨rfl, Go.newLockKey_eq (toOption_eq_some hkey), go_reads (toOption_eq_some htoken),
    rfl, rfl⟩, hvalid⟩

theorem dart_carries {r : Dart.FencedWriteRequest} (h : dartRequest f = some r) :
    dart.Carries f r.fields := by
  simp only [dartRequest, Option.bind_eq_bind, Option.bind_eq_some_iff] at h
  obtain ⟨key, hkey, token, htoken, hr⟩ := h
  rw [Dart.FencedWriteRequest.fields_of_new (toOption_eq_some hr)]
  exact ⟨rfl, Dart.LockKey.value_of_new (toOption_eq_some hkey),
    dart_reads (toOption_eq_some htoken), rfl, rfl⟩

theorem gleam_carries {r : Gleam.FencedWriteRequest} (h : gleamRequest G f = some r) :
    gleam.Carries f r := by
  simp only [gleamRequest, Option.bind_eq_bind, Option.bind_eq_some_iff] at h
  obtain ⟨key, hkey, token, htoken, hr⟩ := h
  rw [Gleam.eq_of_new (toOption_eq_some hr)]
  exact ⟨rfl, Gleam.text_of_lockKey (toOption_eq_some hkey),
    gleam_reads (toOption_eq_some htoken), rfl, rfl⟩

theorem ts_carries {r : Ts.FencedWriteRequest} (h : tsRequest f = some r) :
    ts.Carries f r ∧ Ts.Valid r := by
  have hvalid := Ts.valid_of_fencedWriteRequest (toOption_eq_some h)
  obtain rfl := Ts.eq_of_fencedWriteRequest (toOption_eq_some h)
  exact ⟨⟨rfl, rfl, ts_reads hvalid.fencingToken, rfl, rfl⟩, hvalid⟩

end Requests

section Reports

def ofRustDecision (d : Fence.FenceDecision) : Decision Fence.FencingTokenText :=
  ⟨d.kind, d.shouldApply, d.incomingToken, d.currentToken, d.previousToken⟩

variable {G : Gleam.Graphemes}

/-- What the crate reports of an optional watermark and a request. -/
def rustReport (current : Option (Admitted G)) (incoming : Admitted G) : Option (Outcome String) :=
  report .identityMismatch (·.text) ((Fence.evaluateFence
    (current.map fun w => .fromRequest w.rust) incoming.rust).map ofRustDecision)

def goReport (current : Option (Admitted G)) (incoming : Admitted G) : Option (Outcome Bytes) :=
  report .identityMismatch (·.text) (Go.evaluateFence
    (current.map fun w => Go.watermarkFromRequest w.go) incoming.go)

def tsReport (current : Option (Admitted G)) (incoming : Admitted G) :
    Option (Outcome JsString) :=
  report .identityMismatch id (Ts.evaluateFence
    (current.map fun w => Ts.toObject w.ts) (Ts.toObject incoming.ts))

def dartReport (current : Option (Admitted G)) (incoming : Admitted G) :
    Option (Outcome JsString) :=
  report .identityMismatch (·.value) (Dart.evaluateFence
    (current.map fun w => .fromRequest w.dart) incoming.dart)

def gleamReport (current : Option (Admitted G)) (incoming : Admitted G) :
    Option (Outcome String) :=
  report .identityMismatch Gleam.fencingTokenToString (Gleam.evaluateFence
    (current.map fun w => Gleam.watermarkFromRequest w.gleam) incoming.gleam)

section Rust

variable {w r : Fence.FencedWriteRequest}

theorem rust_evaluateFence_mismatch (hr : r.validate = .ok ()) (hw : w.validate = .ok ())
    (hid : ¬ (w.tenantScope = r.tenantScope ∧ w.resourceKey = r.resourceKey)) :
    (Fence.evaluateFence (some (.fromRequest w)) r).map ofRustDecision =
      .error .identityMismatch := by
  have hne : w.tenantScope ≠ r.tenantScope ∨ w.resourceKey ≠ r.resourceKey := by tauto
  have hw' : (Fence.FenceWatermark.fromRequest w).validate = .ok () := hw
  have heq : Fence.evaluateFence (some (.fromRequest w)) r = .error .identityMismatch := by
    simp only [Fence.evaluateFence, hr, hw', bind, Except.bind]
    exact if_pos hne
  rw [heq]
  rfl

theorem rust_evaluateFence_found (hr : r.validate = .ok ()) (hw : w.validate = .ok ())
    (htenant : w.tenantScope = r.tenantScope) (hresource : w.resourceKey = r.resourceKey) :
    (Fence.evaluateFence (some (.fromRequest w)) r).map ofRustDecision = .ok (.against
      (compare r.fencingToken.value w.fencingToken.value)
      (w.operationId = r.operationId ∧ w.payloadSha256 = r.payloadSha256)
      r.fencingToken w.fencingToken) := by
  have heq := Fence.evaluateFence_found (w := .fromRequest w) hr hw htenant hresource
  rw [heq]
  simp only [Fence.FenceWatermark.fromRequest, Except.map, Except.ok.injEq]
  cases compare r.fencingToken.value w.fencingToken.value with
  | lt => rfl
  | gt => rfl
  | eq =>
    by_cases hsame : w.operationId = r.operationId ∧ w.payloadSha256 = r.payloadSha256 <;>
      simp [Decision.against, ofRustDecision, hsame]

end Rust

theorem rustReport_eq (current : Option (Admitted G)) (incoming : Admitted G) :
    rustReport current incoming = some (outcome (current.map (·.fields)) incoming.fields) := by
  obtain ⟨hr, hvalid⟩ := rust_carries incoming.rust_made
  have hmap : ∀ o : Outcome String, o.map rust.encode = o := by
    rintro (_ | ⟨_, _, _, _, _ | _⟩) <;> rfl
  rw [← hmap (outcome _ _)]
  cases current with
  | none =>
    refine report_first hr ?_
    rw [Option.map_none, Fence.evaluateFence_first hvalid]
    rfl
  | some current =>
    obtain ⟨hw, hwvalid⟩ := rust_carries current.rust_made
    have hmismatch := rust_evaluateFence_mismatch hvalid hwvalid
    have hfound := rust_evaluateFence_found hvalid hwvalid
    exact report_found hw hr hmismatch hfound

theorem goReport_eq (current : Option (Admitted G)) (incoming : Admitted G) :
    goReport current incoming =
      some ((outcome (current.map (·.fields)) incoming.fields).map utf8) := by
  obtain ⟨hr, hvalid⟩ := go_carries incoming.go_made
  cases current with
  | none => exact report_first hr (Go.evaluateFence_first hvalid)
  | some current =>
    obtain ⟨hw, hwvalid⟩ := go_carries current.go_made
    exact report_found hw hr (Go.evaluateFence_mismatch hvalid hwvalid)
      (Go.evaluateFence_found hvalid hwvalid)

theorem tsReport_eq (current : Option (Admitted G)) (incoming : Admitted G) :
    tsReport current incoming =
      some ((outcome (current.map (·.fields)) incoming.fields).map js) := by
  obtain ⟨hr, hvalid⟩ := ts_carries incoming.ts_made
  cases current with
  | none => exact report_first hr (Ts.evaluateFence_first hvalid)
  | some current =>
    obtain ⟨hw, hwvalid⟩ := ts_carries current.ts_made
    exact report_found hw hr (Ts.evaluateFence_mismatch hvalid hwvalid)
      (Ts.evaluateFence_found hvalid hwvalid)

theorem dartReport_eq (current : Option (Admitted G)) (incoming : Admitted G) :
    dartReport current incoming =
      some ((outcome (current.map (·.fields)) incoming.fields).map js) := by
  have hr := dart_carries incoming.dart_made
  cases current with
  | none => exact report_first hr rfl
  | some current =>
    have hw := dart_carries current.dart_made
    have hmismatch := Dart.evaluateFence_mismatch (w := .fromRequest current.dart)
      (r := incoming.dart)
    have hfound := Dart.evaluateFence_found (w := .fromRequest current.dart) (r := incoming.dart)
    exact report_found hw hr hmismatch hfound

theorem gleamReport_eq (current : Option (Admitted G)) (incoming : Admitted G) :
    gleamReport current incoming = some (outcome (current.map (·.fields)) incoming.fields) := by
  have hr := gleam_carries incoming.gleam_made
  have hmap : ∀ o : Outcome String, o.map gleam.encode = o := by
    rintro (_ | ⟨_, _, _, _, _ | _⟩) <;> rfl
  rw [← hmap (outcome _ _)]
  cases current with
  | none => exact report_first hr rfl
  | some current =>
    have hw := gleam_carries current.gleam_made
    exact report_found hw hr Gleam.evaluateFence_mismatch Gleam.evaluateFence_found

end Reports

/-- The parsers of all runtimes and the script accept the same texts as tokens, print them
back and order them alike; and the five decisions on admitted writes are one. -/
theorem runtimes_agree (G : Gleam.Graphemes) :
    (∀ s : String,
      ((∃ t, Fence.FencingTokenText.parse s = .ok t) ↔ IsToken s) ∧
      ((∃ t, Go.parseFencingTokenText (utf8 s) = .ok t) ↔ IsToken s) ∧
      ((∃ t, Ts.fencingTokenText (.string (js s)) = .ok t) ↔ IsToken s) ∧
      ((∃ t, Dart.FencingTokenText.parse (js s) = .ok t) ↔ IsToken s) ∧
      ((∃ t, Gleam.fencingTokenText G s = .ok t) ↔ IsToken s) ∧
      (FencedWrite.canonicalToken (utf8 s) = true ↔ IsToken s)) ∧
    (∀ (s : String) (t : Tokens G s),
      t.rust.text = s ∧ t.go.text = utf8 s ∧ t.ts = js s ∧ t.dart.value = js s ∧
      Gleam.fencingTokenToString t.gleam = s) ∧
    (∀ (s s' : String) (t : Tokens G s) (t' : Tokens G s'),
      t.rust.cmp t'.rust = FencedWrite.compareDecimal (utf8 s) (utf8 s') ∧
      compare t.go.value t'.go.value = FencedWrite.compareDecimal (utf8 s) (utf8 s') ∧
      (∃ m n, Ts.fencingTokenValue t.ts = .ok m ∧ Ts.fencingTokenValue t'.ts = .ok n ∧
        compare m n = FencedWrite.compareDecimal (utf8 s) (utf8 s')) ∧
      t.dart.compareTo t'.dart = FencedWrite.compareDecimal (utf8 s) (utf8 s') ∧
      compare (Gleam.fencingTokenValue t.gleam) (Gleam.fencingTokenValue t'.gleam) =
        FencedWrite.compareDecimal (utf8 s) (utf8 s')) ∧
    ∀ (current : Option (Admitted G)) (incoming : Admitted G),
      let decided := outcome (current.map (·.fields)) incoming.fields
      rustReport current incoming = some decided ∧
      goReport current incoming = some (decided.map utf8) ∧
      tsReport current incoming = some (decided.map js) ∧
      dartReport current incoming = some (decided.map js) ∧
      gleamReport current incoming = some decided := by
  refine ⟨?_, ?_, ?_, ?_⟩
  · intro s
    simp only [Fence.FencingTokenText.parse_iff, Go.parse_iff, Ts.parse_iff, Dart.parse_iff,
      Gleam.parse_iff, FencedWrite.canonicalToken_iff, utf8_eq_numeral, js_eq_numeral, isToken_iff,
      and_self]
  · intro s t
    exact ⟨(rust_reads t.rust_parsed).print, (go_reads t.go_parsed).print,
      (ts_reads t.ts_parsed).print, (dart_reads t.dart_parsed).print,
      (gleam_reads t.gleam_parsed).print⟩
  · intro s s' t t'
    have hs := t.isToken
    have hs' := t'.isToken
    refine ⟨(rust_reads t.rust_parsed).compare (rust_reads t'.rust_parsed) hs hs',
      (go_reads t.go_parsed).compare (go_reads t'.go_parsed) hs hs', ?_,
      (dart_reads t.dart_parsed).compare (dart_reads t'.dart_parsed) hs hs',
      (gleam_reads t.gleam_parsed).compare (gleam_reads t'.gleam_parsed) hs hs'⟩
    have hvalue := Ts.fencingTokenValue_of_parse (Ts.fencingTokenText_again t.ts_parsed)
    have hvalue' := Ts.fencingTokenValue_of_parse (Ts.fencingTokenText_again t'.ts_parsed)
    exact ⟨_, _, hvalue, hvalue', (ts_reads t.ts_parsed).compare (ts_reads t'.ts_parsed) hs hs'⟩
  · intro current incoming
    exact ⟨rustReport_eq current incoming, goReport_eq current incoming,
      tsReport_eq current incoming, dartReport_eq current incoming,
      gleamReport_eq current incoming⟩

/-- The segmentation with one cluster for each scalar value, right for ASCII texts. -/
def scalarClusters : Gleam.Graphemes where
  clusters text := text.toList.map String.singleton
  flatten text := by
    induction text.toList with
    | nil => rfl
    | cons c cs ih => rw [List.map_cons, List.flatMap_cons, ih, String.toList_singleton]; rfl
  separate _ _ := rfl

def Admitted.ofFields (G : Gleam.Graphemes) (f : Fields)
    (h : ((rustRequest f).isSome = true ∧ (goRequest f).isSome = true ∧
      (tsRequest f).isSome = true) ∧ (dartRequest f).isSome = true ∧
      (gleamRequest G f).isSome = true) : Admitted G where
  fields := f
  rust := (rustRequest f).get h.1.1
  rust_made := (Option.some_get _).symm
  go := (goRequest f).get h.1.2.1
  go_made := (Option.some_get _).symm
  ts := (tsRequest f).get h.1.2.2
  ts_made := (Option.some_get _).symm
  dart := (dartRequest f).get h.2.1
  dart_made := (Option.some_get _).symm
  gleam := (gleamRequest G f).get h.2.2
  gleam_made := (Option.some_get _).symm

def trialFields (token : String) : Fields :=
  ⟨"tenant", "key", token, "op", "0123456789abcdef0123456789abcdef0123456789abcdef0123456789abcdef",
    some "holder", none⟩

def trialCurrent : Admitted scalarClusters :=
  .ofFields scalarClusters (trialFields "99") (by decide +kernel)

def trialIncoming : Admitted scalarClusters :=
  .ofFields scalarClusters (trialFields "100") (by decide +kernel)

theorem longer_token_advances_everywhere :
    rustReport (some trialCurrent) trialIncoming =
      some (.decided ⟨.advanced, true, "100", "100", some "99"⟩) ∧
    gleamReport (some trialCurrent) trialIncoming =
      some (.decided ⟨.advanced, true, "100", "100", some "99"⟩) := by
  obtain ⟨hrust, _, _, _, hgleam⟩ :=
    (runtimes_agree scalarClusters).2.2.2 (some trialCurrent) trialIncoming
  have hdecided : outcome (some trialCurrent.fields) trialIncoming.fields =
      .decided ⟨.advanced, true, "100", "100", some "99"⟩ := by decide +kernel
  exact ⟨hrust.trans (congrArg some hdecided), hgleam.trans (congrArg some hdecided)⟩

end OresLocks.Fencing
