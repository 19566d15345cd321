import OresLocks.MaintainedRust

/-!
# The composed routines of the Rust crate

A routine is a function of a script, the answers of everything it calls. It returns
the calls it made, with their answers, and its result.
-/

namespace OresLocks.Coordinated

set_option autoImplicit false

universe u

open Maintained (tagStep acquisitionStep releaseFailure)

/-- The layers that are enabled, and what was supplied for them. -/
structure LockLayers where
  fiducia : Bool
  pgAdvisory : Bool
  lease : Bool
  connection : Bool

/-- What a query for one boolean comes to. -/
inductive Fetched where
  | failed (cause : String)
  | noRow
  | undecodable (cause : String)
  | answered (value : Bool)
  deriving DecidableEq

structure Script (α : Type u) where
  acquire : Except LockError LeaseGrant
  begin : Except String Unit
  postgres : Bool
  lock : Except String Unit
  tryLock : Fetched
  work : Except String α
  commit : Except String Unit
  rollback : Except String Unit
  unlock : Fetched
  close : Except String Unit
  release : Except LockError Bool

/-- A call with its answer. `lock` is the query that waits, `tryLock` the one that does
not. -/
inductive Event (α : Type u) where
  | acquire (answer : Except LockError LeaseGrant)
  | begin (answer : Except String Unit)
  | backend (postgres : Bool)
  | lock (answer : Except String Unit)
  | tryLock (answer : Fetched)
  | work (answer : Except String α)
  | commit (answer : Except String Unit)
  | rollback (answer : Except String Unit)
  | unlock (answer : Fetched)
  | close (answer : Except String Unit)
  | release (grant : LeaseGrant) (answer : Except LockError Bool)

abbrev Run (α β : Type u) := List (Event α) × Except LockError β

/-- The calls that take a lock. -/
abbrev Attempt (α : Type u) := List (Event α) × Except LockError Unit

def dbError (key : LockKey) (step : LockStep) (cause : String) : LockError :=
  (LockError.new .database key cause).at step

def acquireBool (key : LockKey) (sql : String) (step : LockStep) : Fetched → Except LockError Bool
  | .failed cause => .error (dbError key step cause)
  | .noRow => .error (dbError key step ("`" ++ sql ++ "` returned no row"))
  | .undecodable cause => .error (dbError key step cause)
  | .answered value => .ok value

def notPostgres (key : LockKey) : LockError :=
  .invalidPlan key "advisory locks need a Postgres connection; this backend is not Postgres"

/-- `require_postgres`, then a query that waits for the lock. -/
def lockCalls {α : Type u} (key : LockKey) (step : LockStep) (s : Script α) : Attempt α :=
  if s.postgres then ([.backend true, .lock s.lock], s.lock.mapError (dbError key step))
  else ([.backend false], .error (notPostgres key))

/-- `require_postgres`, then a query that finds the lock held or takes it. -/
def tryLockCalls {α : Type u} (key : LockKey) (sql : String) (step : LockStep) (s : Script α) :
    Attempt α :=
  if s.postgres then
    ([.backend true, .tryLock s.tryLock],
      match acquireBool key sql step s.tryLock with
      | .error error => .error error
      | .ok true => .ok ()
      | .ok false => .error (.contention key step))
  else ([.backend false], .error (notPostgres key))

section Routines

variable {α : Type u} (key : LockKey) (wait : Bool) (s : Script α)

def xactLock : Attempt α := lockCalls key .pgAdvisoryXactLock s

def tryXactLock : Attempt α :=
  tryLockCalls key "SELECT pg_try_advisory_xact_lock($1)" .pgTryAdvisoryXactLock s

def sessionLock : Attempt α := lockCalls key .pgAdvisoryLock s

def trySessionLock : Attempt α :=
  tryLockCalls key "SELECT pg_try_advisory_lock($1)" .pgTryAdvisoryLock s

def sessionUnlock : Except LockError Bool :=
  acquireBool key "SELECT pg_advisory_unlock($1)" .pgAdvisoryUnlock s.unlock

def work : Except LockError α := s.work.mapError (LockError.work key)

/-- A cleanup failure goes first and keeps the inner one. -/
def settled {β : Type u} (inner : Except LockError β) (cleanup : Option LockError) :
    Except LockError β :=
  match inner, cleanup with
  | .error inner, some cleanup => .error (cleanup.afterInnerFailure inner)
  | .error inner, none => .error inner
  | .ok _, some cleanup => .error cleanup
  | .ok value, none => .ok value

/-- The transaction around the work. The outcome of a rollback is not read. -/
def inTransaction : Run α α :=
  match s.begin with
  | .error cause => ([.begin s.begin], .error (dbError key .pgBegin cause))
  | .ok () =>
    match if wait then xactLock key s else tryXactLock key s with
    | (calls, .error error) => (.begin s.begin :: calls ++ [.rollback s.rollback], .error error)
    | (calls, .ok ()) =>
      match work key s with
      | .error error =>
        (.begin s.begin :: calls ++ [.work s.work, .rollback s.rollback], .error error)
      | .ok value =>
        (.begin s.begin :: calls ++ [.work s.work, .commit s.commit],
          match s.commit with
          | .ok () => .ok value
          | .error cause => .error (dbError key .pgCommit cause))

def mismatched : LockError :=
  dbError key .pgAdvisoryUnlock "pg_advisory_unlock reported the session did not hold the lock"

/-- The failure of the unlock, if it did not remove the lock. -/
def unlockFailure : Option LockError :=
  match sessionUnlock key s with
  | .error error => some error
  | .ok false => some (mismatched key)
  | .ok true => none

/-- The failure of the close that follows a failed unlock. -/
def closeFailure (cause : String) : LockError :=
  dbError key .pgAdvisoryUnlock ("failed to close the uncertain dedicated session: " ++ cause)

/-- From the unlock on. -/
def unlockCalls (inner : Except LockError α) : Run α α :=
  match unlockFailure key s with
  | none => ([.unlock s.unlock], settled inner none)
  | some failure =>
    ([.unlock s.unlock, .close s.close],
      settled inner (some
        (match s.close with
        | .ok () => failure
        | .error cause => (closeFailure key cause).afterInnerFailure failure)))

/-- The session lock around the work. -/
def inSession : Run α α :=
  match if wait then sessionLock key s else trySessionLock key s with
  | (calls, .error error) => (calls, .error error)
  | (calls, .ok ()) =>
    let (cleanup, result) := unlockCalls key s (work key s)
    (calls ++ .work s.work :: cleanup, result)

/-- What the two routines share. -/
def underLease (layers : LockLayers) (noConnection : String) (inside : Run α α) : Run α α :=
  if layers.fiducia && !layers.lease then
    ([], .error (.invalidPlan key
      "layers.fiducia is enabled but no lease authority was supplied"))
  else if layers.pgAdvisory && !layers.connection then ([], .error (.invalidPlan key noConnection))
  else
    let inner := if layers.pgAdvisory then inside else ([.work s.work], work key s)
    if layers.fiducia then
      match s.acquire with
      | .error error =>
        ([.acquire s.acquire], .error (tagStep error (acquisitionStep wait)))
      | .ok grant =>
        (.acquire s.acquire :: inner.1 ++ [.release grant s.release],
          settled inner.2 (releaseFailure key grant s.release))
    else inner

def withXactLock (layers : LockLayers) : Run α α :=
  underLease key wait s layers
    "layers.pg_advisory is enabled but no database connection was supplied"
    (inTransaction key wait s)

def withSessionLock (layers : LockLayers) : Run α α :=
  underLease key wait s layers
    ("layers.pg_advisory is enabled with session scope but no dedicated connection was " ++
      "supplied")
    (inSession key wait s)

end Routines

end OresLocks.Coordinated
