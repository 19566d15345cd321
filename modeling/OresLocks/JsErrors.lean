import OresLocks.JsValue
import OresLocks.Lease

/-!
# Thrown values and lock errors of the TypeScript package

Any JavaScript value can be thrown. What the package reads of a thrown value is
whether it is `undefined`, a `LockError` or another `Error`, and its texts. The
`cause` property of an error is never read back and is left out.
-/

namespace OresLocks.Ts

set_option autoImplicit false

/-- UTF-16 code units of a literal. -/
def js (s : String) : JsString :=
  s.toList.flatMap fun c =>
    if c.toNat < 0x10000 then [UInt16.ofNat c.toNat]
    else [UInt16.ofNat (0xd800 + (c.toNat - 0x10000) / 0x400),
      UInt16.ofNat (0xdc00 + (c.toNat - 0x10000) % 0x400)]

theorem encode_unit_cons {u : UInt16} (h : JsString.isHighSurrogate u = false) (rest : JsString) :
    JsString.encode (u :: rest) = JsString.encodeUnit u ++ JsString.encode rest := by
  cases rest with
  | nil => simp [JsString.encode]
  | cons v rest => simp [JsString.encode, h]

/-- The code units of one character are encoded as its bytes. -/
theorem encode_char (c : Char) (rest : JsString) :
    JsString.encode ((if c.toNat < 0x10000 then [UInt16.ofNat c.toNat]
      else [UInt16.ofNat (0xd800 + (c.toNat - 0x10000) / 0x400),
        UInt16.ofNat (0xdc00 + (c.toNat - 0x10000) % 0x400)]) ++ rest) =
      String.utf8EncodeChar c ++ JsString.encode rest := by
  have hvalid : c.toNat < 0xd800 ∨ 0xdfff < c.toNat ∧ c.toNat < 0x110000 := c.valid
  have hc : Char.ofNat c.toNat = c := Char.ofNat_toNat c
  split
  · rename_i hlt
    have hu : (UInt16.ofNat c.toNat).toNat = c.toNat := UInt16.toNat_ofNat_of_lt' hlt
    have hhigh : JsString.isHighSurrogate (UInt16.ofNat c.toNat) = false := by
      rw [← Bool.not_eq_true, JsString.high_iff, hu]
      omega
    have hlow : JsString.isLowSurrogate (UInt16.ofNat c.toNat) = false := by
      rw [← Bool.not_eq_true, JsString.low_iff, hu]
      omega
    rw [List.singleton_append, encode_unit_cons hhigh, JsString.encodeUnit, hhigh, hlow, hu, hc]
    rfl
  · rename_i hge
    have hhi : (UInt16.ofNat (0xd800 + (c.toNat - 0x10000) / 0x400)).toNat =
        0xd800 + (c.toNat - 0x10000) / 0x400 :=
      UInt16.toNat_ofNat_of_lt' (by simp [UInt16.size]; omega)
    have hlo : (UInt16.ofNat (0xdc00 + (c.toNat - 0x10000) % 0x400)).toNat =
        0xdc00 + (c.toNat - 0x10000) % 0x400 :=
      UInt16.toNat_ofNat_of_lt' (by simp [UInt16.size]; omega)
    have hhigh : JsString.isHighSurrogate
        (UInt16.ofNat (0xd800 + (c.toNat - 0x10000) / 0x400)) = true := by
      rw [JsString.high_iff, hhi]
      omega
    have hlow : JsString.isLowSurrogate
        (UInt16.ofNat (0xdc00 + (c.toNat - 0x10000) % 0x400)) = true := by
      rw [JsString.low_iff, hlo]
      omega
    have hsum : 0x10000 + (0xd800 + (c.toNat - 0x10000) / 0x400 - 0xd800) * 0x400 +
        (0xdc00 + (c.toNat - 0x10000) % 0x400 - 0xdc00) = c.toNat := by omega
    rw [List.cons_append, List.singleton_append, JsString.encode, hhigh, hlow,
      Bool.and_self, if_pos rfl,
      JsString.encodePair, hhi, hlo, hsum, hc]

/-- A text has the same bytes in UTF-16 and then UTF-8 as in UTF-8. -/
theorem encode_js (s : String) : JsString.encode (js s) = Shared.Utf8.utf8 s := by
  unfold js Shared.Utf8.utf8
  induction s.toList with
  | nil => rfl
  | cons c cs ih => rw [List.flatMap_cons, List.flatMap_cons, encode_char, ih]

theorem js_injective : Function.Injective js := by
  intro s t h
  apply Shared.Utf8.utf8_injective
  rw [← encode_js, ← encode_js, h]

structure LockError where
  kind : LockErrorKind
  key : JsString
  step : Option LockStep
  message : JsString
  deriving DecidableEq

/-- A thrown value. An `Error` has its `message` as a text and the text of its `toString`,
any other value the text of `String(value)`. There is none where reading or converting it
throws: a symbol as message, a getter that throws, an object without a primitive value. -/
inductive Thrown where
  | undefined
  | lockError (error : LockError)
  | error (message text : Option JsString)
  | value (text : Option JsString)
  deriving DecidableEq

namespace LockError

def toString (error : LockError) : JsString :=
  match error.step with
  | some step => js error.kind.asStr ++ js " at " ++ js step.asStr ++ js " for `" ++ error.key ++
      js "`: " ++ error.message
  | none => js error.kind.asStr ++ js " for `" ++ error.key ++ js "`: " ++ error.message

end LockError

/-- A new error of the class with this name, as the class makes its text. -/
def Thrown.named (name : String) (message : JsString) : Thrown :=
  .error (some message) (some (js name ++ js ": " ++ message))

/-- What a conversion throws that has no text to give. -/
def Thrown.unprintable : Thrown :=
  .named "TypeError" (js "Cannot convert object to primitive value")

/-- `cause instanceof Error ? cause.message : String(cause)`, as the text `super` makes
of it. -/
def Thrown.message : Thrown → Except Thrown JsString
  | .lockError lock => .ok lock.message
  | .error (some message) _ => .ok message
  | .error none _ => .error .unprintable
  | .undefined => .ok (js "undefined")
  | .value (some text) => .ok text
  | .value none => .error .unprintable

/-- `inner instanceof Error ? inner.toString() : String(inner)`. -/
def Thrown.text : Thrown → Except Thrown JsString
  | .lockError lock => .ok lock.toString
  | .error _ (some text) => .ok text
  | .error _ none => .error .unprintable
  | .undefined => .ok (js "undefined")
  | .value (some text) => .ok text
  | .value none => .error .unprintable

def Thrown.isError : Thrown → Bool
  | .lockError _ => true
  | .error _ _ => true
  | _ => false

namespace LockError

def contention (key : JsString) (step : LockStep) : LockError :=
  ⟨.contention, key, some step, js "`" ++ key ++ js "` is held by another holder"⟩

def timeout (key : JsString) (step : LockStep) (waitedMs : Nat) : LockError :=
  ⟨.timeout, key, some step, js "gave up waiting for `" ++ key ++ js "` after " ++
    Shared.Numeral.numeral waitedMs ++ js " ms"⟩

/-- The constructors that read a cause throw when its text cannot be made. -/
def fromCause (kind : LockErrorKind) (key : JsString) (step : Option LockStep) (cause : Thrown) :
    Except Thrown LockError :=
  match cause.message with
  | .ok message => .ok ⟨kind, key, step, message⟩
  | .error thrown => .error thrown

def work (key : JsString) (cause : Thrown) : Except Thrown LockError :=
  fromCause .work key (some .work) cause

def database (key : JsString) (step : LockStep) (cause : Thrown) : Except Thrown LockError :=
  fromCause .database key (some step) cause

def transport (key : JsString) (cause : Thrown) : Except Thrown LockError :=
  fromCause .transport key none cause

end LockError

def tagLockError (error : LockError) (step : LockStep) : LockError :=
  if error.step.isNone then { error with step := some step } else error

def tagStep (thrown : Thrown) (step : LockStep) : Thrown :=
  match thrown with
  | .lockError error => .lockError (tagLockError error step)
  | other => other

/-- A cleanup failure first, with the guarded operation's failure in its message. -/
def cleanupFailure (cleanup : LockError) (inner : Thrown) : Except Thrown LockError :=
  match inner.text with
  | .ok text => .ok { cleanup with
      message := cleanup.message ++ js "; guarded operation also failed: " ++ text }
  | .error thrown => .error thrown

/-- What a `throw` of a freshly built error throws. -/
def Thrown.ofBuilt : Except Thrown LockError → Thrown
  | .ok lock => .lockError lock
  | .error thrown => thrown

section Texts

variable {cause thrown : Thrown} {kind : LockErrorKind} {key : JsString} {step : Option LockStep}

theorem message_error (h : cause.message = .error thrown) : thrown = .unprintable := by
  cases cause with
  | value text =>
    cases text with
    | none =>
      cases h
      rfl
    | some _ => cases h
  | error message text =>
    cases message with
    | none =>
      cases h
      rfl
    | some _ => cases h
  | _ => cases h

theorem fromCause_error (h : LockError.fromCause kind key step cause = .error thrown) :
    thrown = .unprintable := by
  unfold LockError.fromCause at h
  split at h
  · cases h
  · rename_i hm
    cases h
    exact message_error hm

/-- What is thrown for a cause, a lock error or the failed conversion, is an `Error` with a
message. -/
theorem ofBuilt_cases (kind : LockErrorKind) (key : JsString) (step : Option LockStep)
    (cause : Thrown) :
    (∃ error, Thrown.ofBuilt (LockError.fromCause kind key step cause) = .lockError error) ∨
      Thrown.ofBuilt (LockError.fromCause kind key step cause) = .unprintable := by
  cases hbuilt : LockError.fromCause kind key step cause with
  | ok error => exact Or.inl ⟨error, rfl⟩
  | error thrown => exact Or.inr (fromCause_error hbuilt)

end Texts

end OresLocks.Ts
