import OresLocks.Plan
import OresLocks.PooledGo
import OresLocks.Shared.Traces

/-!
# The routines of the Go package carry out the plan

Checking a connection out of the pool and giving it back are steps of no plan. A session
whose unlock did not succeed is destroyed before its connection is closed.
-/

namespace OresLocks.Go.Pool

set_option autoImplicit false

open Shared.Programs Shared.Brackets
open Config (PgScope)
open Plan (plan plan_leased makePlan makePlan_eq discipline KeepsPlan keepsPlan_of_executes)

section Observed

def Query.step : Query → LockStep
  | .advisoryXactLock => .pgAdvisoryXactLock
  | .tryAdvisoryXactLock => .pgTryAdvisoryXactLock
  | .advisoryLock => .pgAdvisoryLock
  | .tryAdvisoryLock => .pgTryAdvisoryLock
  | .advisoryUnlock => .pgAdvisoryUnlock

/-- A boolean was scanned, and it is `true`. -/
def isTrue (answer : Except GoError Bool) : Bool :=
  match answer with
  | .ok value => value
  | .error _ => false

/-- The attempt that a call is. -/
def attempt? (wait : Bool) : Answered Op Reply → Option (Attempt LockStep)
  | ⟨.acquire, answer⟩ => some (maintainedAcquireStep wait, answer.isOk)
  | ⟨.beginTx, answer⟩ => some (.pgBegin, answer.isOk)
  | ⟨.exec sql, answer⟩ => some (sql.step, answer.isOk)
  | ⟨.queryRow sql, answer⟩ => some (sql.step, isTrue answer)
  | ⟨.work, answer⟩ => some (.work, answer.isOk)
  | ⟨.commit, answer⟩ => some (.pgCommit, answer.isOk)
  | ⟨.rollback, answer⟩ => some (.pgRollback, answer.isOk)
  | ⟨.release _, answer⟩ => some (.fiduciaRelease, isTrue answer)
  | ⟨.conn, _⟩ | ⟨.discard, _⟩ | ⟨.close, _⟩ => none

def attempts (wait : Bool) (calls : List (Answered Op Reply)) : List (Attempt LockStep) :=
  calls.filterMap (attempt? wait)

def checksOut : Answered Op Reply → Bool
  | ⟨.conn, .ok ()⟩ => true
  | _ => false

def closes : Answered Op Reply → Bool
  | ⟨.close, _⟩ => true
  | _ => false

def discards : Answered Op Reply → Bool
  | ⟨.discard, _⟩ => true
  | _ => false

/-- An unlock that did not report the lock removed. -/
def leavesLocked : Answered Op Reply → Bool
  | ⟨.queryRow .advisoryUnlock, answer⟩ => !isTrue answer
  | _ => false

/-- Every connection that was checked out has been closed, and as many sessions were
destroyed as were left in doubt. -/
structure Tidy (calls : List (Answered Op Reply)) : Prop where
  closed : calls.countP closes = calls.countP checksOut
  discarded : calls.countP discards = calls.countP leavesLocked

/-- `db.Conn` has no step of its own. -/
def needsConn : LockStep → Bool
  | .pgAdvisoryLock | .pgTryAdvisoryLock => true
  | _ => false

def hadNone : Answered Op Reply → Bool
  | ⟨.conn, .error _⟩ => true
  | _ => false

/-- No connection could be checked out. -/
def refused (calls : List (Answered Op Reply)) : Bool := calls.any hadNone

/-- Tidy calls that were not refused a connection. -/
structure Smooth (calls : List (Answered Op Reply)) : Prop extends Tidy calls where
  connected : refused calls = false

/-- A `Tx` that fails to commit has ended. -/
def database (refused : Bool) : Discipline LockStep := discipline false needsConn refused

variable (wait : Bool) {inputs : Inputs} {calls calls' : List (Answered Op Reply)}

@[simp] theorem attempts_append {wait : Bool} :
    attempts wait (calls ++ calls') = attempts wait calls ++ attempts wait calls' :=
  List.filterMap_append

theorem Tidy.append (h : Tidy calls) (h' : Tidy calls') : Tidy (calls ++ calls') where
  closed := by rw [List.countP_append, List.countP_append, h.closed, h'.closed]
  discarded := by rw [List.countP_append, List.countP_append, h.discarded, h'.discarded]

@[simp] theorem refused_append :
    refused (calls ++ calls') = (refused calls || refused calls') := List.any_append

theorem Smooth.append (h : Smooth calls) (h' : Smooth calls') : Smooth (calls ++ calls') where
  toTidy := h.toTidy.append h'.toTidy
  connected := by rw [refused_append, h.connected, h'.connected, Bool.or_self]

/-- The other steps need no connection. -/
theorem database_there {refused : Bool} {step : LockStep} (h : needsConn step = false) :
    (database refused).missing step = false := by
  change (refused && needsConn step) = false
  rw [h, Bool.and_false]

/-- The routine makes one attempt, and returns nil when it succeeds. -/
def Makes {β : Type} (wait : Bool) (x : Routine β) (step : LockStep) : Prop :=
  Shows x.run fun calls result => attempts wait calls = [(step, result.isOk)] ∧ Smooth calls

/-- The routine carries out these steps, and returns nil when all of them succeed. -/
def CarriesOut (wait : Bool) (x : Routine Unit) (steps : List LockStep) : Prop :=
  Shows x.run fun calls result =>
    Executes (database (refused calls)) steps [] (attempts wait calls) result.isOk ∧ Tidy calls

/-- The routine carries them out on a connection that it has. -/
def Performs (wait : Bool) (x : Routine Unit) (steps : List LockStep) : Prop :=
  Shows x.run fun calls result =>
    Executes (database false) steps [] (attempts wait calls) result.isOk ∧ Smooth calls

theorem Performs.carriesOut {wait : Bool} {x : Routine Unit} {steps : List LockStep}
    (h : Performs wait x steps) : CarriesOut wait x steps := by
  apply Shows.mono h
  intro calls result hresult
  rw [hresult.2.connected]
  exact ⟨hresult.1, hresult.2.toTidy⟩

/-- A call that is no unlock and has to do with no connection. -/
theorem makes_call {β : Type} {wait : Bool} (op : Op) (step : LockStep)
    (f : Reply op → Except GoError β)
    (hattempt : ∀ answer, attempt? wait ⟨op, answer⟩ = some (step, (f answer).isOk))
    (htidy : ∀ answer, Smooth [⟨op, answer⟩]) :
    Makes wait (ExceptT.mk (.call op fun answer => .done (f answer))) step := by
  apply Shows.call
  intro answer
  apply Shows.done
  refine ⟨?_, htidy answer⟩
  unfold attempts
  rw [List.filterMap_cons_some (hattempt answer), List.filterMap_nil]

theorem isOk_mapError {ε ε' β : Type} (f : ε → ε') (answer : Except ε β) :
    (answer.mapError f).isOk = answer.isOk := by
  cases answer with
  | ok value => rfl
  | error err => rfl

theorem beginTx_makes (key : String) : Makes wait (beginTx key) .pgBegin := by
  apply makes_call .beginTx
  · intro answer
    rw [isOk_mapError]
    rfl
  · intro answer
    exact ⟨⟨rfl, rfl⟩, rfl⟩

theorem runWork_makes (key : String) : Makes wait (runWork key) .work := by
  apply makes_call .work
  · intro answer
    rw [isOk_mapError]
    rfl
  · intro answer
    exact ⟨⟨rfl, rfl⟩, rfl⟩

theorem commit_makes (key : String) : Makes wait (commit key) .pgCommit := by
  apply makes_call .commit
  · intro answer
    rw [isOk_mapError]
    rfl
  · intro answer
    exact ⟨⟨rfl, rfl⟩, rfl⟩

theorem exec_makes (key : String) (sql : Query) (step : LockStep) :
    Makes wait (exec key sql step) sql.step := by
  apply makes_call (.exec sql)
  · intro answer
    rw [isOk_mapError]
    rfl
  · intro answer
    exact ⟨⟨rfl, rfl⟩, rfl⟩

theorem tryLock_makes (key : String) (sql : Query) (step : LockStep) (h : sql ≠ .advisoryUnlock) :
    Makes wait (tryLock key sql step) sql.step := by
  apply makes_call (.queryRow sql)
  · intro answer
    cases answer with
    | error err => rfl
    | ok value =>
      cases value with
      | true => rfl
      | false => rfl
  · intro answer
    refine ⟨⟨rfl, ?_⟩, rfl⟩
    cases sql with
    | advisoryUnlock => exact absurd rfl h
    | _ => rfl

theorem acquireLease_makes : Makes inputs.wait (acquireLease inputs)
    (if inputs.wait then .fiduciaAcquire else .fiduciaTryAcquire) := by
  apply makes_call .acquire
  · intro answer
    rw [isOk_mapError]
    rfl
  · intro answer
    exact ⟨⟨rfl, rfl⟩, rfl⟩

theorem xactLock_makes : Makes inputs.wait (xactLock inputs)
    (if inputs.wait then .pgAdvisoryXactLock else .pgTryAdvisoryXactLock) := by
  unfold xactLock
  split
  · exact exec_makes inputs.wait inputs.key .advisoryXactLock .pgAdvisoryXactLock
  · apply tryLock_makes inputs.wait inputs.key .tryAdvisoryXactLock .pgTryAdvisoryXactLock
    exact fun h => (nomatch h)

theorem sessionLock_makes : Makes inputs.wait (sessionLock inputs)
    (if inputs.wait then .pgAdvisoryLock else .pgTryAdvisoryLock) := by
  unfold sessionLock
  split
  · exact exec_makes inputs.wait inputs.key .advisoryLock .pgAdvisoryLock
  · exact tryLock_makes inputs.wait inputs.key .tryAdvisoryLock .pgTryAdvisoryLock (by decide)

/-- A failure rolls the transaction back. -/
theorem rolledBack_shows (err : GoError) :
    Shows (do ignoring .rollback; throw err : Routine Unit).run fun calls result =>
      (∃ b, attempts wait calls = [(.pgRollback, b)]) ∧ result.isOk = false ∧ Smooth calls := by
  apply Shows.call
  intro answer
  exact Shows.done ⟨⟨answer.isOk, rfl⟩, rfl, ⟨rfl, rfl⟩, rfl⟩

theorem runXact_performs : Performs inputs.wait (runXact inputs)
    (plan ⟨false, true⟩ .transaction inputs.wait).steps := by
  have hplain : (database false).role
      (if inputs.wait then .pgAdvisoryXactLock else .pgTryAdvisoryXactLock) = .plain := by
    cases inputs.wait with
    | true => rfl
    | false => rfl
  apply Shows.bindExcept _ (beginTx_makes inputs.wait inputs.key)
  · intro calls _ hbegan
    obtain ⟨hbegan, htidy⟩ := hbegan
    apply Shows.bindAttempt _ xactLock_makes
    intro calls' locked hlocked
    obtain ⟨hlocked, htidy'⟩ := hlocked
    cases locked with
    | error err =>
      apply Shows.mono (rolledBack_shows inputs.wait err)
      intro calls'' result hresult
      obtain ⟨⟨b, hrolled⟩, hfailed, htidy''⟩ := hresult
      simp only [attempts_append, hbegan, hlocked, hrolled, hfailed]
      exact ⟨.opened rfl rfl (.failed (.inl hplain) rfl rfl), htidy.append (htidy'.append htidy'')⟩
    | ok u =>
      apply Shows.bindAttempt _ (runWork_makes inputs.wait inputs.key)
      intro calls'' worked hworked
      obtain ⟨hworked, htidy''⟩ := hworked
      cases worked with
      | error err =>
        apply Shows.mono (rolledBack_shows inputs.wait err)
        intro calls3 result hresult
        obtain ⟨⟨b, hrolled⟩, hfailed, htidy3⟩ := hresult
        simp only [attempts_append, hbegan, hlocked, hworked, hrolled, hfailed]
        exact ⟨.opened rfl rfl (.passed hplain rfl (.failed (.inl rfl) rfl rfl)),
          htidy.append (htidy'.append (htidy''.append htidy3))⟩
      | ok u =>
        apply Shows.mono (commit_makes inputs.wait inputs.key)
        intro calls3 result hresult
        obtain ⟨hcommitted, htidy3⟩ := hresult
        simp only [attempts_append, hbegan, hlocked, hworked, hcommitted]
        refine ⟨?_, htidy.append (htidy'.append (htidy''.append htidy3))⟩
        cases result with
        | ok u => exact .opened rfl rfl (.passed hplain rfl (.passed rfl rfl (.closed rfl .done)))
        | error err =>
          exact .opened rfl rfl (.passed hplain rfl (.passed rfl rfl (.unclosed rfl rfl)))
  · intro calls err hbegan
    obtain ⟨hbegan, htidy⟩ := hbegan
    rw [hbegan]
    exact ⟨.failed (.inr ⟨_, rfl⟩) rfl rfl, htidy⟩

/-- The session is destroyed when its unlock did not succeed. -/
theorem unlock_shows (inner : Answer) :
    Shows (unlock inputs inner).run fun calls result => Smooth calls ∧
      ∃ unlocked, attempts inputs.wait calls = [(.pgAdvisoryUnlock, unlocked)] ∧
        result.isOk = (inner.isOk && unlocked) := by
  have hdiscarded : ∀ (answer : Except GoError Bool) cleanup, isTrue answer = false →
      Shows (do ignoring .discard; throw (cleanupFailure cleanup (errorOf inner)) :
          Routine Unit).run fun calls result =>
        Smooth (⟨.queryRow .advisoryUnlock, answer⟩ :: calls) ∧
          ∃ unlocked, attempts inputs.wait (⟨.queryRow .advisoryUnlock, answer⟩ :: calls) =
            [(.pgAdvisoryUnlock, unlocked)] ∧ result.isOk = (inner.isOk && unlocked) := by
    intro answer cleanup hfalse
    apply Shows.call
    intro dropped
    apply Shows.done
    refine ⟨⟨⟨rfl, ?_⟩, rfl⟩, isTrue answer, rfl, ?_⟩
    · have hleaves : leavesLocked ⟨.queryRow .advisoryUnlock, answer⟩ = true := by
        change (!isTrue answer) = true
        rw [hfalse]
        rfl
      rw [List.countP_cons_of_pos hleaves]
      rfl
    · rw [hfalse, Bool.and_false]
      rfl
  apply Shows.call
  intro answer
  cases answer with
  | error err => exact hdiscarded (.error err) _ rfl
  | ok value =>
    cases value with
    | false => exact hdiscarded (.ok false) _ rfl
    | true =>
      apply Shows.done
      exact ⟨⟨⟨rfl, rfl⟩, rfl⟩, true, rfl, (Bool.and_true _).symm⟩

/-- The lock and its unlock are a bracket around the work. -/
theorem onSession_performs : Performs inputs.wait (onSession inputs)
    (plan ⟨false, true⟩ .session inputs.wait).steps := by
  have hopens : (database false).role (if inputs.wait then .pgAdvisoryLock else .pgTryAdvisoryLock) =
      .opens .pgAdvisoryUnlock := by
    cases inputs.wait with
    | true => rfl
    | false => rfl
  apply Shows.bindExcept _ sessionLock_makes
  · intro calls _ hlocked
    obtain ⟨hlocked, htidy⟩ := hlocked
    apply Shows.bindAttempt _ (runWork_makes inputs.wait inputs.key)
    intro calls' worked hworked
    obtain ⟨hworked, htidy'⟩ := hworked
    apply Shows.mono (unlock_shows worked)
    intro calls'' result hresult
    obtain ⟨htidy'', unlocked, hunlocked, hisOk⟩ := hresult
    simp only [attempts_append, hlocked, hworked, hunlocked, hisOk]
    have hwork : Executes (database false) [.work] [] [(.work, worked.isOk)] worked.isOk := by
      cases worked with
      | ok value => exact .passed rfl rfl .done
      | error err => exact .failed (.inl rfl) rfl rfl
    exact ⟨.opened hopens rfl (hwork.within rfl rfl unlocked), htidy.append (htidy'.append htidy'')⟩
  · intro calls err hlocked
    obtain ⟨hlocked, htidy⟩ := hlocked
    rw [hlocked]
    exact ⟨.failed (.inr ⟨_, hopens⟩) rfl rfl, htidy⟩

/-- The connection is closed, whatever became of it. -/
theorem runSession_carriesOut : CarriesOut inputs.wait (runSession inputs)
    (plan ⟨false, true⟩ .session inputs.wait).steps := by
  have hneeds : needsConn (if inputs.wait then .pgAdvisoryLock else .pgTryAdvisoryLock) =
      true := by
    cases inputs.wait with
    | true => rfl
    | false => rfl
  apply Shows.bindExcept fun calls result => attempts inputs.wait calls = [] ∧
    calls.countP closes = 0 ∧ calls.countP discards = 0 ∧ calls.countP leavesLocked = 0 ∧
    (calls.countP checksOut = if result.isOk then 1 else 0) ∧ refused calls = !result.isOk
  · apply Shows.call
    intro answer
    apply Shows.done
    refine ⟨rfl, rfl, rfl, rfl, ?_⟩
    rw [isOk_mapError]
    cases answer with
    | ok u => exact ⟨rfl, rfl⟩
    | error err => exact ⟨rfl, rfl⟩
  · intro calls _ hconn
    obtain ⟨hnone, hcloses, hdiscards, hleaves, hout, hconnected⟩ := hconn
    unfold finallyDo
    apply Shows.bindAttempt _ onSession_performs
    intro calls' outcome houtcome
    obtain ⟨hexecutes, htidy⟩ := houtcome
    apply Shows.call
    intro closed
    apply Shows.done
    refine ⟨?_, ?_, ?_⟩
    · rw [attempts_append, attempts_append, refused_append, refused_append, hnone, hconnected,
        htidy.connected]
      change Executes (database false) _ [] ([] ++ (attempts inputs.wait calls' ++ [])) _
      rw [List.nil_append, List.append_nil]
      exact hexecutes
    · rw [List.countP_append, List.countP_append, List.countP_append, List.countP_append, hcloses,
        hout, htidy.closed]
      simp [closes, checksOut, Except.isOk, Except.toBool]
      omega
    · rw [List.countP_append, List.countP_append, List.countP_append, List.countP_append, hdiscards,
        hleaves, htidy.discarded]
      rfl
  · intro calls err hconn
    obtain ⟨hnone, hcloses, hdiscards, hleaves, hout, hrefused⟩ := hconn
    rw [hnone, hrefused]
    refine ⟨.givenUp hneeds rfl, ?_, ?_⟩
    · rw [hcloses, hout]
      rfl
    · rw [hdiscards, hleaves]

/-- What the plan needs is there. -/
def Layers.Supplied (layers : Layers) : Prop :=
  (layers.fiducia = true → layers.lease = true) ∧ (layers.pgAdvisory = true → layers.db = true)

theorem settleLease_shows (grant : LeaseGrant) (inner : Answer) :
    Shows (settleLease inputs grant inner).run fun calls result => Smooth calls ∧
      ∃ released, attempts inputs.wait calls = [(.fiduciaRelease, released)] ∧
        result.isOk = (inner.isOk && released) := by
  apply Shows.call
  intro answer
  apply Shows.done
  refine ⟨⟨⟨rfl, rfl⟩, rfl⟩, isTrue answer, rfl, ?_⟩
  cases answer with
  | error err => exact (Bool.and_false _).symm
  | ok matched =>
    cases matched with
    | false => exact (Bool.and_false _).symm
    | true =>
      cases inner with
      | ok u => rfl
      | error err => rfl

/-- The lease is a bracket around the rest. -/
theorem underLease_carriesOut {run : Routine Unit} {layers : Layers} {scope : PgScope}
    (noDatabase : String) (hsupplied : layers.Supplied)
    (hrun : CarriesOut inputs.wait run (plan ⟨false, true⟩ scope inputs.wait).steps) :
    CarriesOut inputs.wait (underLease inputs layers noDatabase run)
      (plan ⟨layers.fiducia, layers.pgAdvisory⟩ scope inputs.wait).steps := by
  have hopens : ∀ none, (database none).role
      (if inputs.wait then .fiduciaAcquire else .fiduciaTryAcquire) = .opens .fiduciaRelease := by
    intro none
    cases inputs.wait with
    | true => rfl
    | false => rfl
  have hthere : ∀ none, (database none).missing
      (if inputs.wait then .fiduciaAcquire else .fiduciaTryAcquire) = false := by
    intro none
    cases inputs.wait with
    | true => exact database_there rfl
    | false => exact database_there rfl
  have hinside : CarriesOut inputs.wait
      (if layers.pgAdvisory then run else runWork inputs.key)
      (plan ⟨false, layers.pgAdvisory⟩ scope inputs.wait).steps := by
    cases layers.pgAdvisory with
    | true => exact hrun
    | false =>
      apply Performs.carriesOut
      apply Shows.mono (runWork_makes inputs.wait inputs.key)
      intro calls result hresult
      rw [hresult.1]
      refine ⟨?_, hresult.2⟩
      cases result with
      | ok u => exact .passed rfl rfl .done
      | error err => exact .failed (.inl rfl) rfl rfl
  have hlease : ¬ (layers.fiducia && !layers.lease) = true := by
    intro h
    rw [Bool.and_eq_true, Bool.not_eq_true'] at h
    exact Bool.false_ne_true (h.2.symm.trans (hsupplied.1 h.1))
  have hdb : ¬ (layers.pgAdvisory && !layers.db) = true := by
    intro h
    rw [Bool.and_eq_true, Bool.not_eq_true'] at h
    exact Bool.false_ne_true (h.2.symm.trans (hsupplied.2 h.1))
  unfold underLease
  rw [if_neg hlease, if_neg hdb]
  dsimp only
  generalize (if layers.pgAdvisory then run else runWork inputs.key) = inside at hinside ⊢
  cases layers.fiducia with
  | false => exact hinside
  | true =>
    rw [if_pos rfl, plan_leased]
    apply Shows.bindExcept _ acquireLease_makes
    · intro calls grant hgrant
      apply Shows.bindAttempt _ hinside
      intro calls' inner hinner
      apply Shows.mono (settleLease_shows grant inner)
      intro calls'' result hresult
      obtain ⟨hsettled, released, hreleased, hisOk⟩ := hresult
      refine ⟨?_, hgrant.2.toTidy.append (hinner.2.append hsettled.toTidy)⟩
      rw [attempts_append, attempts_append, refused_append, refused_append, hgrant.1, hreleased,
        hisOk, hgrant.2.connected, hsettled.connected, Bool.false_or, Bool.or_false]
      exact .opened (hopens _) (hthere _) (hinner.1.within rfl rfl released)
    · intro calls err hrefused
      rw [hrefused.1]
      exact ⟨.failed (.inr ⟨_, hopens _⟩) (hthere _) rfl, hrefused.2.toTidy⟩

/-- The two routines by the scope of their lock. -/
def withLock (scope : PgScope) (inputs : Inputs) (layers : Layers) : Routine Unit :=
  match scope with
  | .transaction => withXactLock inputs layers
  | .session => withSessionLock inputs layers

theorem withLock_carriesOut {layers : Layers} (scope : PgScope) (hsupplied : layers.Supplied) :
    CarriesOut inputs.wait (withLock scope inputs layers)
      (plan ⟨layers.fiducia, layers.pgAdvisory⟩ scope inputs.wait).steps := by
  cases scope with
  | transaction => exact underLease_carriesOut _ hsupplied runXact_performs.carriesOut
  | session => exact underLease_carriesOut _ hsupplied runSession_carriesOut

theorem withLease_carriesOut {engage lease : Bool} (hsupplied : engage = true → lease = true) :
    CarriesOut inputs.wait (withLease inputs engage lease)
      (plan ⟨engage, false⟩ .transaction inputs.wait).steps := by
  have hunder : CarriesOut inputs.wait
      (underLease inputs ⟨engage, false, lease, false⟩ "" (runXact inputs))
      (plan ⟨engage, false⟩ .transaction inputs.wait).steps :=
    underLease_carriesOut "" ⟨hsupplied, fun h => (nomatch h)⟩ runXact_performs.carriesOut
  cases engage with
  | false => exact hunder
  | true =>
    rw [hsupplied rfl] at hunder ⊢
    exact hunder

/-- Without what the plan needs nothing is called. -/
theorem withLock_unsupplied {layers : Layers} (scope : PgScope) (h : ¬ layers.Supplied) :
    ∃ message, withLock scope inputs layers = throw (invalidPlan inputs.key message) := by
  have hunder : ∀ noDatabase (run : Routine Unit), ∃ message,
      underLease inputs layers noDatabase run = throw (invalidPlan inputs.key message) := by
    intro noDatabase run
    unfold underLease
    by_cases hlease : (layers.fiducia && !layers.lease) = true
    · exact ⟨_, if_pos hlease⟩
    · rw [if_neg hlease]
      by_cases hdb : (layers.pgAdvisory && !layers.db) = true
      · exact ⟨_, if_pos hdb⟩
      · rw [Bool.and_eq_true, Bool.not_eq_true', not_and, Bool.not_eq_false] at hlease hdb
        exact absurd ⟨hlease, hdb⟩ h
  cases scope with
  | transaction => exact hunder _ _
  | session => exact hunder _ _

end Observed

/-- `ScopeTransaction` and `ScopeSession`. -/
def scopeText : PgScope → String
  | .transaction => "transaction"
  | .session => "session"

/-- Whatever its calls answer, a routine carries out the steps of its plan in their order,
and undoes what it has opened when one of them fails or is given up because `db.Conn`
failed; it returns nil exactly when all of them succeeded. Every connection is closed, and
a session is destroyed exactly when its unlock did not succeed. Without what the plan needs
nothing is called. -/
theorem go_routines_carry_out_plan (inputs : Inputs) (layers : Layers) (scope : PgScope)
    (calls : List (Answered Op Reply)) (result : Answer)
    (hran : Ran tracing [] (withLock scope inputs layers).run calls result) :
    (layers.Supplied →
      KeepsPlan (database (refused calls))
        (makePlan ⟨layers.fiducia, layers.pgAdvisory⟩ (scopeText scope) inputs.wait)
        (attempts inputs.wait calls) result.isOk ∧ Tidy calls) ∧
    (¬ layers.Supplied → calls = [] ∧
      ∃ message, result = .error (invalidPlan inputs.key message)) := by
  constructor
  · intro hsupplied
    obtain ⟨hexecutes, htidy⟩ := (withLock_carriesOut scope hsupplied).ran hran
    have hplan : makePlan ⟨layers.fiducia, layers.pgAdvisory⟩ (scopeText scope) inputs.wait =
        (plan ⟨layers.fiducia, layers.pgAdvisory⟩ scope inputs.wait).steps := by
      rw [makePlan_eq]
      cases scope with
      | transaction => rfl
      | session => rfl
    rw [hplan]
    exact ⟨keepsPlan_of_executes hexecutes, htidy⟩
  · intro hsupplied
    have hthrows : ∃ message, withLock scope inputs layers =
        throw (invalidPlan inputs.key message) := withLock_unsupplied scope hsupplied
    obtain ⟨message, hmessage⟩ := hthrows
    rw [hmessage] at hran
    cases hran
    exact ⟨rfl, message, rfl⟩

section Samples

def rebuild : Inputs :=
  ⟨"tenant/acme/jobs/rebuild", true, ⟨60000000000, 30000000000, 250000000, ""⟩, 0⟩

def everyLayer : Layers := ⟨true, true, true, true⟩

def rebuildGrant : LeaseGrant := ⟨rebuild.key, "worker-1", 7, 0, 60000⟩

/-- The unlock reports that the session did not hold the lock. -/
def unheldCalls : List (Answered Op Reply) :=
  [⟨.acquire, .ok rebuildGrant⟩, ⟨.conn, .ok ()⟩, ⟨.exec .advisoryLock, .ok ()⟩, ⟨.work, .ok ()⟩,
    ⟨.queryRow .advisoryUnlock, .ok false⟩, ⟨.discard, .ok ()⟩, ⟨.close, .ok ()⟩,
    ⟨.release rebuildGrant, .ok true⟩]

theorem unheld_ran : Ran tracing [] (withLock .session rebuild everyLayer).run unheldCalls
    (.error (notHeld rebuild.key)) := by
  refine .answered (.ok rebuildGrant) (.answered (.ok ()) (.answered (.ok ()) ?_))
  refine .answered (.ok ()) (.answered (.ok false) (.answered (.ok ()) ?_))
  exact .answered (.ok ()) (.answered (.ok true) (.done _ _))

theorem unheld_carries_out_plan :
    KeepsPlan (database (refused unheldCalls)) (makePlan ⟨true, true⟩ "session" true)
      (attempts true unheldCalls) false ∧ Tidy unheldCalls :=
  (go_routines_carry_out_plan rebuild everyLayer .session unheldCalls _ unheld_ran).1
    ⟨fun _ => rfl, fun _ => rfl⟩

end Samples

end OresLocks.Go.Pool
