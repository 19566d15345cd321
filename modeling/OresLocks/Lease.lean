import OresLocks.LockKey

/-!
# Errors, grants and durations of the Rust crate

Unsigned 64-bit numbers are natural numbers; where the crate adds them it checks
for overflow, and so does `checkedAdd`.
-/

namespace OresLocks

set_option autoImplicit false

inductive LockErrorKind where
  | contention
  | timeout
  | lostLease
  | transport
  | database
  | work
  | invalidPlan
  deriving DecidableEq, Repr

def LockErrorKind.asStr : LockErrorKind → String
  | .contention => "contention"
  | .timeout => "timeout"
  | .lostLease => "lost_lease"
  | .transport => "transport"
  | .database => "database"
  | .work => "work"
  | .invalidPlan => "invalid_plan"

inductive LockStep where
  | fiduciaAcquire
  | fiduciaTryAcquire
  | fiduciaRenew
  | fiduciaRelease
  | pgBegin
  | pgAdvisoryXactLock
  | pgTryAdvisoryXactLock
  | pgCommit
  | pgRollback
  | pgAdvisoryLock
  | pgTryAdvisoryLock
  | pgAdvisoryUnlock
  | work
  deriving DecidableEq, Repr

def LockStep.asStr : LockStep → String
  | .fiduciaAcquire => "fiducia.acquire"
  | .fiduciaTryAcquire => "fiducia.try_acquire"
  | .fiduciaRenew => "fiducia.renew"
  | .fiduciaRelease => "fiducia.release"
  | .pgBegin => "pg.begin"
  | .pgAdvisoryXactLock => "pg.advisory_xact_lock"
  | .pgTryAdvisoryXactLock => "pg.try_advisory_xact_lock"
  | .pgCommit => "pg.commit"
  | .pgRollback => "pg.rollback"
  | .pgAdvisoryLock => "pg.advisory_lock"
  | .pgTryAdvisoryLock => "pg.try_advisory_lock"
  | .pgAdvisoryUnlock => "pg.advisory_unlock"
  | .work => "work"

structure LockError where
  kind : LockErrorKind
  key : LockKey
  step : Option LockStep
  message : String
  deriving DecidableEq

namespace LockError

def new (kind : LockErrorKind) (key : LockKey) (message : String) : LockError :=
  ⟨kind, key, none, message⟩

def «at» (error : LockError) (step : LockStep) : LockError := { error with step := some step }

def contention (key : LockKey) (step : LockStep) : LockError :=
  (new .contention key ("`" ++ key.text ++ "` is held by another holder")).at step

def timeout (key : LockKey) (step : LockStep) (waitedMs : Nat) : LockError :=
  (new .timeout key
    ("gave up waiting for `" ++ key.text ++ "` after " ++ toString waitedMs ++ " ms")).at step

def work (key : LockKey) (cause : String) : LockError := (new .work key cause).at .work

def invalidPlan (key : LockKey) (message : String) : LockError := new .invalidPlan key message

/-- The text of `Display`. -/
def display (error : LockError) : String :=
  match error.step with
  | some step => error.kind.asStr ++ " at " ++ step.asStr ++ " for `" ++ error.key.text ++ "`: " ++
      error.message
  | none => error.kind.asStr ++ " for `" ++ error.key.text ++ "`: " ++ error.message

/-- A cleanup failure that keeps the failure it follows in its message. -/
def afterInnerFailure (error inner : LockError) : LockError :=
  { error with message := error.message ++ "; guarded operation also failed: " ++ inner.display }

end LockError

/-- Nanoseconds, as `std::time::Duration` counts them. -/
abbrev Duration := Nat

def u64Max : Nat := 2 ^ 64 - 1

def durationMs (duration : Duration) : Nat := min (duration / 1000000) u64Max

def checkedAdd (a b : Nat) : Option Nat := if a + b ≤ u64Max then some (a + b) else none

structure LeaseGrant where
  key : LockKey
  holder : String
  fencingToken : Nat
  leaseExpiresMs : Option Nat
  ttlMs : Nat
  deriving DecidableEq

end OresLocks
