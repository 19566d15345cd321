import OresLocks.CoordinatedRetries
import OresLocks.CoordinatedSession
import OresLocks.Plan

/-!
# The routines of the Rust crate carry out the plan

The check of the backend and the close of an uncertain session are steps of no plan. On
another backend the lock is given up before it is attempted.
-/

namespace OresLocks.Coordinated

set_option autoImplicit false

universe u

open Shared.Brackets
open Config (PgScope)
open Plan (plan plan_leased discipline KeepsPlan keepsPlan_of_executes)
open Maintained (acquisitionStep releaseFailure)

section Observed

variable {α : Type u}

/-- The lock of a scope. -/
def lockStep (scope : PgScope) (wait : Bool) : LockStep :=
  match scope with
  | .transaction => if wait then .pgAdvisoryXactLock else .pgTryAdvisoryXactLock
  | .session => if wait then .pgAdvisoryLock else .pgTryAdvisoryLock

def Fetched.isTrue : Fetched → Bool
  | .answered value => value
  | _ => false

/-- The attempt that a call is. -/
def Event.attempt? (scope : PgScope) (wait : Bool) :
    Event α → Option (Shared.Brackets.Attempt LockStep)
  | .acquire answer => some (acquisitionStep wait, answer.isOk)
  | .begin answer => some (.pgBegin, answer.isOk)
  | .lock answer => some (lockStep scope wait, answer.isOk)
  | .tryLock answer => some (lockStep scope wait, answer.isTrue)
  | .work answer => some (.work, answer.isOk)
  | .commit answer => some (.pgCommit, answer.isOk)
  | .rollback answer => some (.pgRollback, answer.isOk)
  | .unlock answer => some (.pgAdvisoryUnlock, answer.isTrue)
  | .release _ (.ok matched) => some (.fiduciaRelease, matched)
  | .release _ (.error _) => some (.fiduciaRelease, false)
  | .backend _ | .close _ => none

def attempts (scope : PgScope) (wait : Bool) (calls : List (Event α)) :
    List (Shared.Brackets.Attempt LockStep) :=
  calls.filterMap (Event.attempt? scope wait)

/-- The locks need a Postgres backend. -/
def needsPostgres : LockStep → Bool
  | .pgAdvisoryXactLock | .pgTryAdvisoryXactLock | .pgAdvisoryLock | .pgTryAdvisoryLock => true
  | _ => false

def foundOther : Event α → Bool
  | .backend postgres => !postgres
  | _ => false

/-- The backend was found not to be Postgres. -/
def refused (calls : List (Event α)) : Bool := calls.any foundOther

/-- A transaction that fails to commit has ended. -/
def crate (refused : Bool) : Discipline LockStep := discipline false needsPostgres refused

variable {scope : PgScope} {key : LockKey} {wait : Bool} {s : Script α}

@[simp] theorem attempts_append (calls calls' : List (Event α)) :
    attempts scope wait (calls ++ calls') =
      attempts scope wait calls ++ attempts scope wait calls' := List.filterMap_append

@[simp] theorem refused_append (calls calls' : List (Event α)) :
    refused (calls ++ calls') = (refused calls || refused calls') := List.any_append

/-- The run carries out these steps, and returns when all of them succeed. -/
def CarriesOut (scope : PgScope) (wait : Bool) (run : Run α α) (steps : List LockStep) : Prop :=
  Executes (crate (refused run.1)) steps [] (attempts scope wait run.1) run.2.isOk

/-- The calls that take the lock attempt it on Postgres, and fail on another backend. -/
def Locks (scope : PgScope) (wait : Bool) (locking : Attempt α) : Prop :=
  refused locking.1 = false ∧
      attempts scope wait locking.1 = [(lockStep scope wait, locking.2.isOk)] ∨
    refused locking.1 = true ∧ attempts scope wait locking.1 = [] ∧ locking.2.isOk = false

theorem lockCalls_locks (step : LockStep) : Locks scope wait (lockCalls key step s) := by
  unfold lockCalls
  split
  · left
    cases hlock : s.lock with
    | ok u => exact ⟨rfl, rfl⟩
    | error cause => exact ⟨rfl, rfl⟩
  · exact .inr ⟨rfl, rfl, rfl⟩

theorem tryLockCalls_locks (sql : String) (step : LockStep) :
    Locks scope wait (tryLockCalls key sql step s) := by
  unfold tryLockCalls
  split
  · left
    cases htry : s.tryLock with
    | answered value =>
      cases value with
      | true => exact ⟨rfl, rfl⟩
      | false => exact ⟨rfl, rfl⟩
    | _ => exact ⟨rfl, rfl⟩
  · exact .inr ⟨rfl, rfl, rfl⟩

theorem xactLocking_locks :
    Locks .transaction wait (if wait then xactLock key s else tryXactLock key s) := by
  cases wait with
  | true => exact lockCalls_locks .pgAdvisoryXactLock
  | false => exact tryLockCalls_locks "SELECT pg_try_advisory_xact_lock($1)" .pgTryAdvisoryXactLock

theorem sessionLocking_locks :
    Locks .session wait (if wait then sessionLock key s else trySessionLock key s) := by
  cases wait with
  | true => exact lockCalls_locks .pgAdvisoryLock
  | false => exact tryLockCalls_locks "SELECT pg_try_advisory_lock($1)" .pgTryAdvisoryLock

/-- The attempts of a transaction whose `BEGIN` succeeded. -/
theorem attempts_begun (u : Unit) (calls calls' : List (Event α)) :
    attempts scope wait (.begin (.ok u) :: calls ++ calls') =
      (.pgBegin, true) :: (attempts scope wait calls ++ attempts scope wait calls') := by
  rw [attempts_append]
  rfl

theorem lockStep_needs (scope : PgScope) (refused : Bool) :
    (crate refused).missing (lockStep scope wait) = refused := by
  cases scope with
  | transaction =>
    cases wait with
    | true => exact Bool.and_true _
    | false => exact Bool.and_true _
  | session =>
    cases wait with
    | true => exact Bool.and_true _
    | false => exact Bool.and_true _

/-- The other steps need no backend. -/
theorem crate_there {refused : Bool} {step : LockStep} (h : needsPostgres step = false) :
    (crate refused).missing step = false := by
  change (refused && needsPostgres step) = false
  rw [h, Bool.and_false]

theorem inTransaction_carriesOut : CarriesOut .transaction wait (inTransaction key wait s)
    (plan ⟨false, true⟩ .transaction wait).steps := by
  have hplain : ∀ other, (crate other).role (lockStep .transaction wait) = .plain := by
    intro other
    cases wait with
    | true => rfl
    | false => rfl
  have hlocks : Locks .transaction wait (if wait then xactLock key s else tryXactLock key s) :=
    xactLocking_locks
  change Executes (crate _) [.pgBegin, lockStep .transaction wait, .work, .pgCommit] [] _ _
  unfold inTransaction
  cases hbegin : s.begin with
  | error cause => exact .failed (.inr ⟨_, rfl⟩) rfl rfl
  | ok u =>
    generalize (if wait then xactLock key s else tryXactLock key s) = locking at hlocks ⊢
    obtain ⟨calls, locked⟩ := locking
    have hrefused : ∀ calls' : List (Event α), refused calls' = false →
        refused (.begin (.ok u) :: calls ++ calls') = refused calls := by
      intro calls' hcalls'
      rw [refused_append, hcalls', Bool.or_false]
      rfl
    cases locked with
    | error error =>
      dsimp only
      rw [attempts_begun, hrefused _ rfl]
      apply Executes.opened rfl (crate_there rfl)
      rcases hlocks with ⟨hpostgres, hlock⟩ | ⟨hother, hnone, _⟩
      · rw [hlock, hpostgres]
        exact .failed (.inl (hplain false)) (lockStep_needs .transaction false) rfl
      · rw [hnone, hother]
        exact .givenUp (lockStep_needs .transaction true) rfl
    | ok locked =>
      have hlock : refused calls = false ∧
          attempts .transaction wait calls = [(lockStep .transaction wait, true)] := by
        rcases hlocks with hlock | ⟨_, _, hfailed⟩
        · exact hlock
        · cases hfailed
      have hthere : (crate false).missing (lockStep .transaction wait) = false :=
        lockStep_needs .transaction false
      unfold work
      cases hwork : s.work with
      | error cause =>
        dsimp only [Except.mapError]
        rw [attempts_begun, hrefused _ rfl, hlock.1, hlock.2]
        exact .opened rfl rfl (.passed (hplain false) hthere (.failed (.inl rfl) rfl rfl))
      | ok value =>
        cases hcommit : s.commit with
        | ok committed =>
          dsimp only [Except.mapError]
          rw [attempts_begun, hrefused _ rfl, hlock.1, hlock.2]
          exact .opened rfl rfl (.passed (hplain false) hthere
            (.passed rfl rfl (.closed rfl .done)))
        | error cause =>
          dsimp only [Except.mapError]
          rw [attempts_begun, hrefused _ rfl, hlock.1, hlock.2]
          exact .opened rfl rfl (.passed (hplain false) hthere
            (.passed rfl rfl (.unclosed rfl rfl)))

/-- What the unlock and a close make of the result of the work. -/
theorem unlockCalls_attempts (inner : Except LockError α) :
    refused (unlockCalls key s inner).1 = false ∧
      attempts .session wait (unlockCalls key s inner).1 = [(.pgAdvisoryUnlock, s.unlock.isTrue)] ∧
      (unlockCalls key s inner).2.isOk = (inner.isOk && s.unlock.isTrue) := by
  have hsettled : ∀ cleanup : LockError, (settled inner (some cleanup)).isOk = false := by
    intro cleanup
    cases inner with
    | ok value => rfl
    | error error => rfl
  unfold unlockCalls
  cases hfailure : unlockFailure key s with
  | none =>
    have htrue : s.unlock.isTrue = true := by
      rw [unlockFailure_none_iff.mp hfailure]
      rfl
    refine ⟨rfl, rfl, ?_⟩
    rw [htrue, Bool.and_true]
    cases inner with
    | ok value => rfl
    | error error => rfl
  | some failure =>
    have hfalse : s.unlock.isTrue = false := by
      cases hunlock : s.unlock with
      | answered value =>
        cases value with
        | true =>
          rw [unlockFailure_none_iff.mpr hunlock] at hfailure
          cases hfailure
        | false => rfl
      | _ => rfl
    refine ⟨rfl, rfl, ?_⟩
    rw [hfalse, Bool.and_false]
    exact hsettled _

theorem inSession_carriesOut : CarriesOut .session wait (inSession key wait s)
    (plan ⟨false, true⟩ .session wait).steps := by
  have hopens : ∀ other, (crate other).role (lockStep .session wait) = .opens .pgAdvisoryUnlock := by
    intro other
    cases wait with
    | true => rfl
    | false => rfl
  have hlocks : Locks .session wait (if wait then sessionLock key s else trySessionLock key s) :=
    sessionLocking_locks
  change Executes (crate _) [lockStep .session wait, .work, .pgAdvisoryUnlock] [] _ _
  unfold inSession
  generalize (if wait then sessionLock key s else trySessionLock key s) = locking at hlocks ⊢
  obtain ⟨calls, locked⟩ := locking
  cases locked with
  | error error =>
    dsimp only at hlocks ⊢
    rcases hlocks with ⟨hpostgres, hlock⟩ | ⟨hother, hnone, _⟩
    · rw [hlock, hpostgres]
      exact .failed (.inr ⟨_, hopens false⟩) (lockStep_needs .session false) rfl
    · rw [hnone, hother]
      exact .givenUp (lockStep_needs .session true) rfl
  | ok locked =>
    have hlock : refused calls = false ∧
        attempts .session wait calls = [(lockStep .session wait, true)] := by
      rcases hlocks with hlock | ⟨_, _, hfailed⟩
      · exact hlock
      · cases hfailed
    have hcleanup : refused (unlockCalls key s (work key s)).1 = false ∧
        attempts .session wait (unlockCalls key s (work key s)).1 =
          [(.pgAdvisoryUnlock, s.unlock.isTrue)] ∧
        (unlockCalls key s (work key s)).2.isOk = ((work key s).isOk && s.unlock.isTrue) :=
      unlockCalls_attempts (work key s)
    have hwork : Executes (crate false) [.work] [] [(.work, s.work.isOk)] s.work.isOk := by
      cases s.work with
      | ok value => exact .passed rfl rfl .done
      | error cause => exact .failed (.inl rfl) rfl rfl
    have hinner : (work key s).isOk = s.work.isOk := by
      unfold work
      cases s.work with
      | ok value => rfl
      | error cause => rfl
    have hattempts : attempts .session wait
          (calls ++ .work s.work :: (unlockCalls key s (work key s)).1) =
        (lockStep .session wait, true) :: ([(.work, s.work.isOk)] ++
          [(.pgAdvisoryUnlock, s.unlock.isTrue)]) := by
      rw [attempts_append, hlock.2, ← hcleanup.2.1]
      rfl
    have hpostgres : refused (calls ++ .work s.work :: (unlockCalls key s (work key s)).1) =
        false := by
      rw [refused_append, hlock.1]
      exact hcleanup.1
    change Executes (crate (refused (calls ++ .work s.work :: (unlockCalls key s (work key s)).1)))
      (lockStep .session wait :: ([.work] ++ [.pgAdvisoryUnlock])) []
      (attempts .session wait (calls ++ .work s.work :: (unlockCalls key s (work key s)).1))
      (unlockCalls key s (work key s)).2.isOk
    rw [hpostgres, hattempts, hcleanup.2.2, hinner]
    exact .opened (hopens false) (lockStep_needs .session false)
      (hwork.within rfl rfl s.unlock.isTrue)

/-- What the release makes of the result. -/
theorem release_settles (grant : LeaseGrant) (answer : Except LockError Bool)
    (inner : Except LockError α) :
    ∃ released,
      attempts (α := α) scope wait [.release grant answer] = [(.fiduciaRelease, released)] ∧
        (settled inner (releaseFailure key grant answer)).isOk = (inner.isOk && released) := by
  have hsettled : ∀ cleanup : LockError, (settled inner (some cleanup)).isOk = false := by
    intro cleanup
    cases inner with
    | ok value => rfl
    | error error => rfl
  cases answer with
  | error error =>
    refine ⟨false, rfl, ?_⟩
    rw [Bool.and_false]
    exact hsettled _
  | ok matched =>
    refine ⟨matched, rfl, ?_⟩
    cases matched with
    | true =>
      rw [Bool.and_true]
      cases inner with
      | ok value => rfl
      | error error => rfl
    | false =>
      rw [Bool.and_false]
      exact hsettled _

/-- The two routines by the scope of their lock. -/
def withLock (scope : PgScope) (key : LockKey) (wait : Bool) (s : Script α) (layers : LockLayers) :
    Run α α :=
  match scope with
  | .transaction => withXactLock key wait s layers
  | .session => withSessionLock key wait s layers

/-- The lease is a bracket around the rest. -/
theorem underLease_carriesOut {layers : LockLayers} {inside : Run α α} (noConnection : String)
    (hsupplied : layers.Supplied)
    (hinside : CarriesOut scope wait inside (plan ⟨false, true⟩ scope wait).steps) :
    CarriesOut scope wait (underLease key wait s layers noConnection inside)
      (plan ⟨layers.fiducia, layers.pgAdvisory⟩ scope wait).steps := by
  have hopens : ∀ other, (crate other).role (if wait then .fiduciaAcquire else .fiduciaTryAcquire) =
      .opens .fiduciaRelease := by
    intro other
    cases wait with
    | true => rfl
    | false => rfl
  have hthere : ∀ other,
      (crate other).missing (if wait then .fiduciaAcquire else .fiduciaTryAcquire) = false := by
    intro other
    cases wait with
    | true => exact crate_there rfl
    | false => exact crate_there rfl
  have hinner : CarriesOut scope wait
      (if layers.pgAdvisory then inside else ([.work s.work], work key s))
      (plan ⟨false, layers.pgAdvisory⟩ scope wait).steps := by
    cases layers.pgAdvisory with
    | true => exact hinside
    | false =>
      change Executes (crate false) [.work] [] [(.work, s.work.isOk)] (work key s).isOk
      unfold work
      cases s.work with
      | ok value => exact .passed rfl rfl .done
      | error cause => exact .failed (.inl rfl) rfl rfl
  have hlease : ¬ (layers.fiducia && !layers.lease) = true := by
    intro h
    rw [Bool.and_eq_true, Bool.not_eq_true'] at h
    exact Bool.false_ne_true (h.2.symm.trans (hsupplied.1 h.1))
  have hconnection : ¬ (layers.pgAdvisory && !layers.connection) = true := by
    intro h
    rw [Bool.and_eq_true, Bool.not_eq_true'] at h
    exact Bool.false_ne_true (h.2.symm.trans (hsupplied.2 h.1))
  unfold underLease
  rw [if_neg hlease, if_neg hconnection]
  generalize (if layers.pgAdvisory then inside else ([.work s.work], work key s)) = inner
    at hinner ⊢
  cases layers.fiducia with
  | false => exact hinner
  | true =>
    rw [plan_leased]
    cases hacquire : s.acquire with
    | error error => exact .failed (.inr ⟨_, hopens _⟩) (hthere _) rfl
    | ok grant =>
      have hrelease : ∃ released,
          attempts (α := α) scope wait [.release grant s.release] = [(.fiduciaRelease, released)] ∧
            (settled inner.2 (releaseFailure key grant s.release)).isOk =
              (inner.2.isOk && released) := release_settles grant s.release inner.2
      obtain ⟨released, hattempts, hisOk⟩ := hrelease
      change Executes (crate (refused (inner.1 ++ [.release grant s.release]))) _ []
        ((acquisitionStep wait, true) ::
          attempts scope wait (inner.1 ++ [.release grant s.release]))
        (settled inner.2 (releaseFailure key grant s.release)).isOk
      have hrefused : refused (inner.1 ++ [.release grant s.release]) = refused inner.1 := by
        rw [refused_append]
        exact Bool.or_false _
      rw [attempts_append, hattempts, hisOk, hrefused]
      exact .opened (hopens _) (hthere _) (hinner.within rfl rfl released)

theorem withLock_carriesOut {layers : LockLayers} (hsupplied : layers.Supplied) :
    CarriesOut scope wait (withLock scope key wait s layers)
      (plan ⟨layers.fiducia, layers.pgAdvisory⟩ scope wait).steps := by
  cases scope with
  | transaction => exact underLease_carriesOut _ hsupplied inTransaction_carriesOut
  | session => exact underLease_carriesOut _ hsupplied inSession_carriesOut

/-- Without what the plan needs nothing is called. -/
theorem withLock_unsupplied {layers : LockLayers} (h : ¬ layers.Supplied) :
    ∃ message, withLock scope key wait s layers = ([], .error (.invalidPlan key message)) := by
  have hunder : ∀ noConnection (inside : Run α α), ∃ message,
      underLease key wait s layers noConnection inside =
        ([], .error (.invalidPlan key message)) := by
    intro noConnection inside
    unfold underLease
    by_cases hlease : (layers.fiducia && !layers.lease) = true
    · exact ⟨_, if_pos hlease⟩
    · rw [if_neg hlease]
      by_cases hconnection : (layers.pgAdvisory && !layers.connection) = true
      · exact ⟨_, if_pos hconnection⟩
      · rw [Bool.and_eq_true, Bool.not_eq_true', not_and, Bool.not_eq_false] at hlease hconnection
        exact absurd ⟨hlease, hconnection⟩ h
  cases scope with
  | transaction => exact hunder _ _
  | session => exact hunder _ _

end Observed

section Samples

def everyLayer : LockLayers := ⟨true, true, true, true⟩

end Samples

end OresLocks.Coordinated
