import OresLocks.Fencing.Gleam
import OresLocks.Lease

/-!
# Lock errors of the Gleam package and their transport

A transaction callback of `pog` fails with a string. Both database modules pack a lock
error into it, in three parts with a separator between them, and unpack it outside. The
separator is a control character, so a string is split at each of its occurrences.
-/

namespace OresLocks.Gleam

set_option autoImplicit false

abbrev LockKey := Fencing.Gleam.LockKey

structure LockError where
  kind : LockErrorKind
  key : LockKey
  step : Option LockStep
  message : String
  deriving DecidableEq

def retryable (error : LockError) : Bool :=
  match error.kind with
  | .contention => true
  | .timeout => true
  | _ => false

def contention (key : LockKey) (step : LockStep) : LockError :=
  ⟨.contention, key, some step, "`" ++ key.text ++ "` is held by another holder"⟩

def timeout (key : LockKey) (step : LockStep) (waitedMs : Int) : LockError :=
  ⟨.timeout, key, some step,
    "gave up waiting for `" ++ key.text ++ "` after " ++ toString waitedMs ++ " ms"⟩

def workError (key : LockKey) (cause : String) : LockError := ⟨.work, key, some .work, cause⟩

def invalidPlan (key : LockKey) (message : String) : LockError := ⟨.invalidPlan, key, none, message⟩

def databaseError (key : LockKey) (step : LockStep) (message : String) : LockError :=
  ⟨.database, key, some step, message⟩

def allSteps : List LockStep :=
  [.fiduciaAcquire, .fiduciaTryAcquire, .fiduciaRenew, .fiduciaRelease, .pgBegin,
    .pgAdvisoryXactLock, .pgTryAdvisoryXactLock, .pgCommit, .pgRollback, .pgAdvisoryLock,
    .pgTryAdvisoryLock, .pgAdvisoryUnlock, .work]

def stepFromString (value : String) : Option LockStep :=
  allSteps.find? fun step => step.asStr == value

/-- The parts of an error, joined by a separator. -/
def encode (separator : Char) (error : LockError) : String :=
  let step := match error.step with
    | some step => step.asStr
    | none => ""
  error.kind.asStr ++ separator.toString ++ step ++ separator.toString ++ error.message

def kindFromString (kind : String) : LockErrorKind :=
  match kind with
  | "contention" => .contention
  | "timeout" => .timeout
  | "lost_lease" => .lostLease
  | "transport" => .transport
  | "database" => .database
  | "work" => .work
  | _ => .invalidPlan

/-- `string.split` with a separator that is one control character. -/
def split (text : String) (separator : Char) : List String :=
  (text.toList.splitOn separator).map String.ofList

def decode (separator : Char) (key : LockKey) (encoded : String) : LockError :=
  match split encoded separator with
  | [kind, step, message] => ⟨kindFromString kind, key, stepFromString step, message⟩
  | _ => databaseError key .pgRollback encoded

namespace Pg

def errorSeparator : Char := '\u001F'

def encodeError (error : LockError) : String := encode errorSeparator error

def decodeError (key : LockKey) (encoded : String) : LockError := decode errorSeparator key encoded

end Pg

namespace Maintained

def errorSeparator : Char := '\u001F'

def encodeError (error : LockError) : String := encode errorSeparator error

def decodeError (key : LockKey) (encoded : String) : LockError := decode errorSeparator key encoded

end Maintained

section RoundTrip

variable {separator : Char}

theorem stepFromString_asStr (step : LockStep) : stepFromString step.asStr = some step := by
  cases step <;> decide

theorem kindFromString_asStr (kind : LockErrorKind) : kindFromString kind.asStr = kind := by
  cases kind <;> rfl

/-- The text of the step field. -/
def stepText (error : LockError) : String :=
  match error.step with
  | some step => step.asStr
  | none => ""

theorem stepFromString_stepText (error : LockError) :
    stepFromString (stepText error) = error.step := by
  unfold stepText
  cases error.step with
  | none => decide
  | some step => exact stepFromString_asStr step

/-- The separator is in no name of a kind or a step. -/
structure Separates (separator : Char) : Prop where
  kinds : ∀ kind : LockErrorKind, separator ∉ kind.asStr.toList
  steps : ∀ step : LockStep, separator ∉ step.asStr.toList

theorem Separates.stepText (h : Separates separator) (error : LockError) :
    separator ∉ (stepText error).toList := by
  unfold Gleam.stepText
  cases error.step with
  | none => simp
  | some step => exact h.steps step

theorem toList_encode (separator : Char) (error : LockError) : (encode separator error).toList =
    error.kind.asStr.toList ++ separator ::
      ((stepText error).toList ++ separator :: error.message.toList) := by
  have hencode : encode separator error = error.kind.asStr ++ separator.toString ++
      stepText error ++ separator.toString ++ error.message := rfl
  rw [hencode]
  simp [String.toList_append, Char.toString]

/-- The first two separators of an encoded error are the ones put there. -/
theorem split_encode (h : Separates separator) (error : LockError) :
    split (encode separator error) separator =
      error.kind.asStr :: stepText error :: split error.message separator := by
  unfold split
  rw [toList_encode, List.splitOn_append_cons_self_of_not_mem (h.kinds _),
    List.splitOn_append_cons_self_of_not_mem (h.stepText error)]
  simp

theorem split_of_not_mem {text : String} (h : separator ∉ text.toList) :
    split text separator = [text] := by
  unfold split
  rw [List.splitOn_eq_singleton h]
  simp

/-- A separator in the text makes at least two parts. -/
theorem split_of_mem {text : String} (h : separator ∈ text.toList) :
    ∃ first second rest, split text separator = first :: second :: rest := by
  obtain ⟨before, after, htext, hbefore⟩ := List.eq_append_cons_of_mem h
  unfold split
  rw [htext, List.splitOn_append_cons_self_of_not_mem hbefore]
  cases hafter : after.splitOn separator with
  | nil => exact absurd hafter (List.splitOn_ne_nil separator after)
  | cons second rest => exact ⟨_, _, _, rfl⟩

theorem encode_ne_message (separator : Char) (error : LockError) :
    encode separator error ≠ error.message := by
  intro h
  have hlength := congrArg (fun text : String => text.toList.length) h
  simp only [toList_encode, List.length_append, List.length_cons] at hlength
  omega

theorem decode_encode_iff (h : Separates separator) (error : LockError) :
    decode separator error.key (encode separator error) = error ↔
      separator ∉ error.message.toList := by
  unfold decode
  rw [split_encode h]
  constructor
  · intro hdecoded hmem
    obtain ⟨first, second, rest, hsplit⟩ := split_of_mem hmem
    rw [hsplit] at hdecoded
    exact encode_ne_message separator error (congrArg LockError.message hdecoded)
  · intro hfree
    rw [split_of_not_mem hfree]
    simp only
    rw [kindFromString_asStr, stepFromString_stepText]

theorem separates_unit : Separates '\u001F' where
  kinds kind := by cases kind <;> decide
  steps step := by cases step <;> decide

end RoundTrip

/-- In both modules an error survives its transport exactly when its message is free of
the separator. -/
theorem error_transport_iff (key : LockKey) (error : LockError) (hkey : error.key = key) :
    (Pg.decodeError key (Pg.encodeError error) = error ↔
      '\u001F' ∉ error.message.toList) ∧
    (Maintained.decodeError key (Maintained.encodeError error) = error ↔
      '\u001F' ∉ error.message.toList) := by
  subst hkey
  exact ⟨decode_encode_iff separates_unit error, decode_encode_iff separates_unit error⟩

def plainKey : LockKey := ⟨"tenant/acme/jobs/rebuild", by decide⟩

/-- An admitted key with the separator in it. -/
def unitKey : LockKey := ⟨"tenant\u001Facme", by decide⟩

theorem work_failure_survives :
    Pg.decodeError plainKey (Pg.encodeError (workError plainKey "disk full")) =
        workError plainKey "disk full" ∧
      Maintained.decodeError plainKey (Maintained.encodeError (workError plainKey "disk full")) =
        workError plainKey "disk full" := by
  have h := error_transport_iff plainKey (workError plainKey "disk full") rfl
  exact ⟨h.1.mpr (by decide), h.2.mpr (by decide)⟩

/-- A work failure and a contention become database errors, and the second is no longer
retryable. -/
theorem separator_changes_kind :
    (Pg.decodeError plainKey (Pg.encodeError (workError plainKey "row\u001Fgone"))).kind =
        .database ∧
      retryable (contention unitKey .pgTryAdvisoryXactLock) = true ∧
      retryable (Pg.decodeError unitKey
        (Pg.encodeError (contention unitKey .pgTryAdvisoryXactLock))) = false ∧
      retryable (Maintained.decodeError unitKey
        (Maintained.encodeError (contention unitKey .pgTryAdvisoryXactLock))) = false := by
  decide

end OresLocks.Gleam
