import OresLocks.Lease
import OresLocks.RenewalGo

/-!
# Errors of the Go package

A nil `error` is `none`. `lock` is an `*Error`; the other constructors are the errors of
the standard library that the package makes or asks for. `wrapped` is an error of
`fmt.Errorf` with one `%w`, and `foreign` any other one.
-/

namespace OresLocks.Go

set_option autoImplicit false

inductive GoError where
  | lock (kind : LockErrorKind) (key : String) (step : Option LockStep) (message : String)
      (cause : Option GoError)
  | joined (first : Option GoError) (second : GoError)
  | wrapped (text : String) (cause : GoError)
  | txDone
  | canceled
  | deadlineExceeded
  | foreign (text : String)

/-- What a call returns that has no other result. -/
abbrev Answer := Except GoError Unit

namespace GoError

/-- `Error()`. -/
def text : GoError → String
  | .lock kind key (some step) message _ =>
    kind.asStr ++ " at " ++ step.asStr ++ " for `" ++ key ++ "`: " ++ message
  | .lock kind key none message _ => kind.asStr ++ " for `" ++ key ++ "`: " ++ message
  | .joined none second => second.text
  | .joined (some first) second => first.text ++ "\n" ++ second.text
  | .wrapped text _ => text
  | .txDone => "sql: transaction has already been committed or rolled back"
  | .canceled => "context canceled"
  | .deadlineExceeded => "context deadline exceeded"
  | .foreign text => text

/-- `errors.Is(err, sql.ErrTxDone)`. -/
def isTxDone : GoError → Bool
  | .txDone => true
  | .lock _ _ _ _ (some cause) => cause.isTxDone
  | .joined none second => second.isTxDone
  | .joined (some first) second => first.isTxDone || second.isTxDone
  | .wrapped _ cause => cause.isTxDone
  | _ => false

/-- `errors.As(err, &lockErr)`. -/
def asLock : GoError → Option GoError
  | .lock kind key step message cause => some (.lock kind key step message cause)
  | .joined none second => second.asLock
  | .joined (some first) second => first.asLock.or second.asLock
  | .wrapped _ cause => cause.asLock
  | _ => none

/-- `err` is in the unwrap chain of the second error. -/
inductive Within (err : GoError) : GoError → Prop where
  | self : Within err err
  | cause {kind : LockErrorKind} {key : String} {step : Option LockStep} {message : String}
      {cause : GoError} (h : Within err cause) : Within err (.lock kind key step message (some cause))
  | first {first second : GoError} (h : Within err first) : Within err (.joined (some first) second)
  | second {first : Option GoError} {second : GoError} (h : Within err second) :
      Within err (.joined first second)
  | wrapped {text : String} {cause : GoError} (h : Within err cause) : Within err (.wrapped text cause)

end GoError

def contention (key : String) (step : LockStep) : GoError :=
  .lock .contention key (some step) ("`" ++ key ++ "` is held by another holder") none

def timeout (key : String) (step : LockStep) (waitedMs : Int) : GoError :=
  .lock .timeout key (some step)
    ("gave up waiting for `" ++ key ++ "` after " ++ toString waitedMs ++ " ms") none

def workErr (key : String) (cause : GoError) : GoError :=
  .lock .work key (some .work) cause.text (some cause)

def invalidPlan (key : String) (message : String) : GoError :=
  .lock .invalidPlan key none message none

def dbErr (key : String) (step : LockStep) (cause : GoError) : GoError :=
  .lock .database key (some step) cause.text (some cause)

/-- The cleanup failure goes first. -/
def cleanupFailure (cleanup : GoError) (inner : Option GoError) : GoError :=
  match inner with
  | none => cleanup
  | some inner =>
    match cleanup with
    | .lock kind key step message cause =>
      .lock kind key step (message ++ "; guarded operation also failed: " ++ inner.text)
        (some (.joined cause inner))
    | cleanup =>
      .wrapped ("cleanup failed after guarded operation also failed (" ++ inner.text ++ "): " ++
        cleanup.text) cleanup

/-- The step of an `*Error` that has none. -/
def tagStep (err : GoError) (step : LockStep) : GoError :=
  match err with
  | .lock kind key none message cause => .lock kind key (some step) message cause
  | err => err

end OresLocks.Go
