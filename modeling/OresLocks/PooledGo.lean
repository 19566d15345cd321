import OresLocks.MaintainedGo
import OresLocks.Shared.Programs

/-!
# The transaction and session routines of the Go package

Both routines are programs that call a lease and `database/sql`. The unlock of a session
and the release of the lease ignore the cancellation of the context; every other call
takes it.
-/

namespace OresLocks.Go.Pool

set_option autoImplicit false

open Shared.Programs

inductive Query where
  | advisoryXactLock
  | tryAdvisoryXactLock
  | advisoryLock
  | tryAdvisoryLock
  | advisoryUnlock
  deriving DecidableEq

/-- What a routine calls. `queryRow` scans one boolean; `discard` is the `conn.Raw` whose
function returns `driver.ErrBadConn`. -/
inductive Op where
  | acquire
  | beginTx
  | exec (sql : Query)
  | queryRow (sql : Query)
  | work
  | commit
  | rollback
  | conn
  | discard
  | close
  | release (grant : LeaseGrant)

abbrev Reply : Op → Type
  | .acquire => Except GoError LeaseGrant
  | .queryRow _ => Except GoError Bool
  | .release _ => Except GoError Bool
  | _ => Answer

abbrev Calls (β : Type) := Prog Op Reply β

/-- The error of a routine is the one it returns. -/
abbrev Routine (β : Type) := ExceptT GoError (Calls) β

def beginTx (key : String) : Routine Unit :=
  ExceptT.mk (.call .beginTx fun answer => .done (answer.mapError (dbErr key .pgBegin)))

def exec (key : String) (sql : Query) (step : LockStep) : Routine Unit :=
  ExceptT.mk (.call (.exec sql) fun answer => .done (answer.mapError (dbErr key step)))

def tryLock (key : String) (sql : Query) (step : LockStep) : Routine Unit :=
  ExceptT.mk (.call (.queryRow sql) fun answer => .done
    (match answer with
    | .error err => .error (dbErr key step err)
    | .ok true => .ok ()
    | .ok false => .error (contention key step)))

def runWork (key : String) : Routine Unit :=
  ExceptT.mk (.call .work fun answer => .done (answer.mapError (workErr key)))

def commit (key : String) : Routine Unit :=
  ExceptT.mk (.call .commit fun answer => .done (answer.mapError (dbErr key .pgCommit)))

/-- A call whose error is dropped. -/
def ignoring (op : Op) : Routine Unit := ExceptT.mk (.call op fun _ => .done (.ok ()))

def xactLock (inputs : Inputs) : Routine Unit :=
  if inputs.wait then exec inputs.key .advisoryXactLock .pgAdvisoryXactLock
  else tryLock inputs.key .tryAdvisoryXactLock .pgTryAdvisoryXactLock

def runXact (inputs : Inputs) : Routine Unit := do
  beginTx inputs.key
  match ← attempt (xactLock inputs) with
  | .error err =>
    ignoring .rollback
    throw err
  | .ok () =>
    match ← attempt (runWork inputs.key) with
    | .error err =>
      ignoring .rollback
      throw err
    | .ok () => commit inputs.key

def sessionLock (inputs : Inputs) : Routine Unit :=
  if inputs.wait then exec inputs.key .advisoryLock .pgAdvisoryLock
  else tryLock inputs.key .tryAdvisoryLock .pgTryAdvisoryLock

def notHeld (key : String) : GoError :=
  .lock .database key (some .pgAdvisoryUnlock)
    ("pg_advisory_unlock reported the session did not hold `" ++ key ++ "`") none

def unlockFailure (key : String) : Except GoError Bool → Option GoError
  | .error err => some (dbErr key .pgAdvisoryUnlock err)
  | .ok false => some (notHeld key)
  | .ok true => none

def errorOf : Answer → Option GoError
  | .ok () => none
  | .error err => some err

/-- From the unlock on. -/
def unlock (inputs : Inputs) (inner : Answer) : Routine Unit := do
  match unlockFailure inputs.key (← ExceptT.lift (.call (.queryRow .advisoryUnlock) .done)) with
  | some cleanup =>
    ignoring .discard
    throw (cleanupFailure cleanup (errorOf inner))
  | none => ExceptT.mk (pure inner)

def onSession (inputs : Inputs) : Routine Unit := do
  sessionLock inputs
  let inner ← attempt (runWork inputs.key)
  unlock inputs inner

/-- `conn.Close` is deferred, and its error dropped. -/
def runSession (inputs : Inputs) : Routine Unit := do
  ExceptT.mk (.call .conn fun answer => .done (answer.mapError (dbErr inputs.key .pgAdvisoryLock)))
  finallyDo (onSession inputs) (ignoring .close)

/-- The layers that are enabled, and what was supplied for them. -/
structure Layers where
  fiducia : Bool
  pgAdvisory : Bool
  lease : Bool
  db : Bool

def acquireLease (inputs : Inputs) : Routine LeaseGrant :=
  ExceptT.mk (.call .acquire fun answer => .done
    (answer.mapError fun err => tagStep err (maintainedAcquireStep inputs.wait)))

def settleLease (inputs : Inputs) (grant : LeaseGrant) (inner : Answer) : Routine Unit :=
  ExceptT.mk (.call (.release grant) fun answer => .done
    (match settle inputs grant (errorOf inner) answer with
    | none => .ok ()
    | some err => .error err))

/-- What the two routines share. -/
def underLease (inputs : Inputs) (layers : Layers) (noDatabase : String) (run : Routine Unit) :
    Routine Unit :=
  if layers.fiducia && !layers.lease then
    throw (invalidPlan inputs.key "layers.fiducia is enabled but no lease authority was supplied")
  else if layers.pgAdvisory && !layers.db then throw (invalidPlan inputs.key noDatabase)
  else do
    let inside := if layers.pgAdvisory then run else runWork inputs.key
    if layers.fiducia then
      let grant ← acquireLease inputs
      let inner ← attempt inside
      settleLease inputs grant inner
    else inside

def withXactLock (inputs : Inputs) (layers : Layers) : Routine Unit :=
  underLease inputs layers "layers.pg_advisory is enabled but no database was supplied"
    (runXact inputs)

def withSessionLock (inputs : Inputs) (layers : Layers) : Routine Unit :=
  underLease inputs layers
    "layers.pg_advisory is enabled with session scope but no database was supplied"
    (runSession inputs)

def withLease (inputs : Inputs) (engage lease : Bool) : Routine Unit :=
  if !engage then runWork inputs.key
  else if !lease then
    throw (invalidPlan inputs.key "layers.fiducia is enabled but no lease authority was supplied")
  else do
    let grant ← acquireLease inputs
    let inner ← attempt (runWork inputs.key)
    settleLease inputs grant inner

end OresLocks.Go.Pool
