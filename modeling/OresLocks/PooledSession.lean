import OresLocks.MaintainedTsMachine
import OresLocks.Shared.Programs

/-!
# The transaction and session routines of the TypeScript package

Both routines are programs that call a lease, a pool and the Postgres session behind
the client they check out. `World` is that session with the record of what happened.
A query that rejects may have been executed, and its session may be gone.
-/

namespace OresLocks.Ts.Pool

set_option autoImplicit false

open Shared.Programs

inductive Statement where
  | begin
  | advisoryXactLock
  | tryAdvisoryXactLock
  | commit
  | rollback
  | advisoryLock
  | tryAdvisoryLock
  | advisoryUnlock
  deriving DecidableEq

/-- What a pool depends on of a session: the open transaction, which may hold the
advisory lock of the routine, and the session lock of the routine. -/
structure ServerSession where
  transaction : Option Bool
  locked : Bool
  deriving DecidableEq

namespace ServerSession

def fresh : ServerSession := ⟨none, false⟩

/-- Nothing of the routine is left in the session. -/
def Clean (s : ServerSession) : Prop := s.transaction = none ∧ s.locked = false

/-- The effect of a statement that is executed and replies with these rows. -/
def execute (s : ServerSession) (sql : Statement) (rows : Rows) : ServerSession :=
  match sql with
  | .begin => { s with transaction := some (s.transaction.getD false) }
  | .advisoryXactLock => { s with transaction := s.transaction.map fun _ => true }
  | .tryAdvisoryXactLock =>
    { s with transaction := s.transaction.map fun held => held || firstBool rows }
  | .commit => { s with transaction := none }
  | .rollback => { s with transaction := none }
  | .advisoryLock => { s with locked := true }
  | .tryAdvisoryLock => { s with locked := s.locked || firstBool rows }
  | .advisoryUnlock => { s with locked := s.locked && !firstBool rows }

/-- The sessions that a rejected statement can leave: it was not executed, it was and
its reply was lost, or the session has ended. -/
def AfterRejection (s : ServerSession) (sql : Statement) (after : ServerSession) : Prop :=
  after = s ∨ (∃ rows, after = s.execute sql rows) ∨ after = fresh

/-- Work can end and open transactions and give up the locks of the routine; it does
not take them. Without a client it does not reach the session. -/
def AfterWork (s : ServerSession) (client : Bool) (after : ServerSession) : Prop :=
  if client then
    (after.locked = true → s.locked = true) ∧
      (after.transaction = some true → s.transaction = some true)
  else after = s

end ServerSession

/-- What a routine calls. `handBack` is the `release` of the client. -/
inductive Op where
  | acquire
  | connect
  | query (sql : Statement)
  | work (client : Bool)
  | handBack (poison : Bool)
  | release (grant : LeaseGrant)

abbrev Answer (α : Type) : Op → Type
  | .acquire => Except Thrown LeaseGrant
  | .connect => Except Thrown Unit
  | .query _ => Except Thrown Rows
  | .work _ => Except Thrown α
  | .handBack _ => Except Thrown Unit
  | .release _ => Except Thrown Bool

/-- A call with its answer. A call that reaches the session records what it left. -/
inductive Event (α : Type) where
  | acquired (answer : Except Thrown LeaseGrant)
  | connected (answer : Except Thrown Unit)
  | queried (sql : Statement) (after : ServerSession) (answer : Except Thrown Rows)
  | worked (after : ServerSession) (answer : Except Thrown α)
  | handedBack (poison : Bool) (session : ServerSession) (answer : Except Thrown Unit)
  | released (grant : LeaseGrant) (answer : Except Thrown Bool)

structure World (α : Type) where
  session : ServerSession
  log : List (Event α)

section Worlds

variable {α : Type}

def World.start : World α := ⟨.fresh, []⟩

def World.record (w : World α) (e : Event α) : World α := { w with log := w.log ++ [e] }

/-- The session becomes `after`. -/
def World.become (w : World α) (after : ServerSession) (e : Event α) : World α :=
  ⟨after, w.log ++ [e]⟩

/-- The calls that can be answered so, and the world after. The pool connects a client
that has nothing open. -/
inductive Moves (w : World α) : (op : Op) → Answer α op → World α → Prop where
  | acquired (answer : Except Thrown LeaseGrant) :
      Moves w .acquire answer (w.record (.acquired answer))
  | connected (answer : Except Thrown Unit) :
      Moves w .connect answer (w.become .fresh (.connected answer))
  | resolved (sql : Statement) (rows : Rows) :
      Moves w (.query sql) (.ok rows)
        (w.become (w.session.execute sql rows) (.queried sql (w.session.execute sql rows) (.ok rows)))
  | rejected {sql : Statement} {after : ServerSession} (cause : Thrown) :
      w.session.AfterRejection sql after →
      Moves w (.query sql) (.error cause) (w.become after (.queried sql after (.error cause)))
  | worked {client : Bool} {after : ServerSession} (answer : Except Thrown α) :
      w.session.AfterWork client after →
      Moves w (.work client) answer (w.become after (.worked after answer))
  | handedBack (poison : Bool) (answer : Except Thrown Unit) :
      Moves w (.handBack poison) answer (w.record (.handedBack poison w.session answer))
  | released (grant : LeaseGrant) (answer : Except Thrown Bool) :
      Moves w (.release grant) answer (w.record (.released grant answer))

/-- A call can be made in every world. -/
def surroundings : Protocol Op (Answer α) (World α) where
  allows _ _ := True
  moves := Moves

end Worlds

abbrev Calls (α β : Type) := Prog Op (Answer α) β

abbrev Routine (α β : Type) := ExceptT Thrown (Calls α) β

section Routines

variable {α : Type}

def query (sql : Statement) : Routine α Rows := ExceptT.mk (.call (.query sql) .done)

def exec (key : JsString) (sql : Statement) (step : LockStep) : Routine α Unit :=
  tryCatch (do let _ ← query sql) fun cause =>
    throw (.ofBuilt (LockError.database key step cause))

def tryLock (key : JsString) (sql : Statement) (step : LockStep) : Routine α Unit := do
  let rows ← tryCatch (query sql) fun cause =>
    throw (.ofBuilt (LockError.database key step cause))
  if !firstBool rows then throw (.lockError (.contention key step))

def runWork (key : JsString) (client : Bool) : Routine α α :=
  tryCatch (ExceptT.mk (.call (.work client) .done)) fun cause =>
    throw (.ofBuilt (LockError.work key cause))

def connect (key : JsString) (step : LockStep) : Routine α Unit :=
  tryCatch (ExceptT.mk (.call .connect .done)) fun cause =>
    throw (.ofBuilt (LockError.database key step cause))

/-- A `try` block with the flag its `finally` hands the client back with. A
`client.release` that throws replaces the outcome. -/
def handingBack (block : Calls α (Bool × Except Thrown α)) : Routine α α := do
  let (poison, outcome) ← ExceptT.lift block
  ExceptT.mk (.call (.handBack poison) .done)
  ExceptT.mk (pure outcome)

def takeXactLock (inputs : Inputs) : Routine α Unit :=
  if inputs.wait then exec inputs.key .advisoryXactLock .pgAdvisoryXactLock
  else tryLock inputs.key .tryAdvisoryXactLock .pgTryAdvisoryXactLock

/-- The inner `try` block of `runXact`. -/
def underXactLock (inputs : Inputs) : Routine α α := do
  takeXactLock inputs
  let value ← runWork inputs.key true
  exec inputs.key .commit .pgCommit
  pure value

/-- `failed` is set when something fails after `BEGIN` resolved. -/
def xactBlock (inputs : Inputs) : Calls α (Bool × Except Thrown α) := do
  match ← (exec inputs.key .begin .pgBegin).run with
  | .error thrown => pure (false, .error thrown)
  | .ok () =>
    match ← (underXactLock inputs).run with
    | .ok value => pure (false, .ok value)
    | .error thrown =>
      let _ ← (query .rollback).run
      pure (true, .error thrown)

def runXact (inputs : Inputs) : Routine α α := do
  connect inputs.key .pgBegin
  handingBack (xactBlock inputs)

def takeSessionLock (inputs : Inputs) : Routine α Unit :=
  if inputs.wait then exec inputs.key .advisoryLock .pgAdvisoryLock
  else tryLock inputs.key .tryAdvisoryLock .pgTryAdvisoryLock

/-- A cleanup failure goes first and keeps the failure of the work. -/
def overInner (inner : Except Thrown α) (cleanup : LockError) : Except Thrown α :=
  match inner with
  | .ok _ => .error (.lockError cleanup)
  | .error thrown => .error (.ofBuilt (cleanupFailure cleanup thrown))

def notHeld (key : JsString) : LockError :=
  ⟨.database, key, some .pgAdvisoryUnlock,
    js "pg_advisory_unlock reported the session did not hold `" ++ key ++ js "`"⟩

/-- `runSession` from the unlock on. -/
def unlock (inputs : Inputs) (inner : Except Thrown α) : Calls α (Bool × Except Thrown α) := do
  match ← (query .advisoryUnlock).run with
  | .error cause =>
    match LockError.database inputs.key .pgAdvisoryUnlock cause with
    | .error thrown => pure (true, .error thrown)
    | .ok cleanup => pure (true, overInner inner cleanup)
  | .ok rows =>
    if !firstBool rows then pure (true, overInner inner (notHeld inputs.key))
    else pure (false, inner)

def sessionBlock (inputs : Inputs) : Calls α (Bool × Except Thrown α) := do
  match ← (takeSessionLock inputs).run with
  | .error thrown => pure (false, .error thrown)
  | .ok () =>
    let inner ← (runWork inputs.key true).run
    unlock inputs inner

def runSession (inputs : Inputs) : Routine α α := do
  connect inputs.key .pgAdvisoryLock
  handingBack (do
    let (poisoned, outcome) ← sessionBlock inputs
    pure (poisoned, outcome.mapError fun thrown => tagStep thrown .pgAdvisoryLock))

/-- The layers that are enabled, and what was supplied for them. -/
structure Layers where
  fiducia : Bool
  pgAdvisory : Bool
  lease : Bool
  pool : Bool

def invalidPlan (key : JsString) (message : String) : LockError :=
  ⟨.invalidPlan, key, none, js message⟩

def acquireLease (inputs : Inputs) : Routine α LeaseGrant :=
  tryCatch (ExceptT.mk (.call .acquire .done)) fun thrown =>
    throw (tagStep thrown (acquireStep inputs))

def settle (inputs : Inputs) (grant : LeaseGrant) (inner : Except Thrown α) : Routine α α := do
  let answer ← ExceptT.lift (.call (.release grant) .done)
  match State.releaseFailure inputs grant answer with
  | none => ExceptT.mk (pure inner)
  | some (.error thrown) => throw thrown
  | some (.ok cleanup) => ExceptT.mk (pure (overInner inner cleanup))

def checkPlan (key : JsString) (layers : Layers) (noPool : String) : Routine α Unit :=
  if layers.fiducia && !layers.lease then
    throw (.lockError (invalidPlan key
      "layers.fiducia is enabled but no lease authority was supplied"))
  else if layers.pgAdvisory && !layers.pool then throw (.lockError (invalidPlan key noPool))
  else pure ()

/-- The outcome of the Postgres layer, or of the work alone. -/
def innerOutcome (inputs : Inputs) (layers : Layers) (run : Routine α α) :
    Routine α (Except Thrown α) :=
  attempt (if layers.pgAdvisory && layers.pool then run else runWork inputs.key false)

/-- What the two routines share. -/
def underLease (inputs : Inputs) (layers : Layers) (noPool : String) (run : Routine α α) :
    Routine α α := do
  checkPlan inputs.key layers noPool
  if layers.fiducia then
    let grant ← acquireLease inputs
    let inner ← innerOutcome inputs layers run
    settle inputs grant inner
  else
    let inner ← innerOutcome inputs layers run
    ExceptT.mk (pure inner)

def withXactLock (inputs : Inputs) (layers : Layers) : Routine α α :=
  underLease inputs layers "layers.pgAdvisory is enabled but no pool was supplied" (runXact inputs)

def withSessionLock (inputs : Inputs) (layers : Layers) : Routine α α :=
  underLease inputs layers
    "layers.pgAdvisory is enabled with session scope but no pool was supplied" (runSession inputs)

end Routines

end OresLocks.Ts.Pool
