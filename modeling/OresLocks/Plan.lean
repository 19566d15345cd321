import OresLocks.Config
import OresLocks.Shared.Brackets

/-!
# The lock plan

No routine reads the plan. It is the order that they are documented to keep: the lease
outermost, the advisory lock inside it, the work innermost. The maintained routines renew
in between and have no plan.
-/

namespace OresLocks.Plan

set_option autoImplicit false

open Shared.Brackets
open Config (LockLayers PgScope)

structure LockPlan where
  layers : LockLayers
  pgScope : PgScope
  wait : Bool
  steps : List LockStep
  deriving DecidableEq

/-- `plan` of the Rust crate; the TypeScript, Dart and Gleam packages have the same one. -/
def plan (layers : LockLayers) (pgScope : PgScope) (wait : Bool) : LockPlan :=
  let pick (blocking nonBlocking : LockStep) := if wait then blocking else nonBlocking
  let outerOpen := if layers.fiducia then [pick .fiduciaAcquire .fiduciaTryAcquire] else []
  let inner : List LockStep :=
    match layers.pgAdvisory, pgScope with
    | false, _ => [.work]
    | true, .transaction =>
      [.pgBegin, pick .pgAdvisoryXactLock .pgTryAdvisoryXactLock, .work, .pgCommit]
    | true, .session => [pick .pgAdvisoryLock .pgTryAdvisoryLock, .work, .pgAdvisoryUnlock]
  let outerClose := if layers.fiducia then [.fiduciaRelease] else []
  ⟨layers, pgScope, wait, outerOpen ++ inner ++ outerClose⟩

/-- The steps of `MakePlan`. A `PgScope` of the Go package is a string. -/
def makePlan (layers : LockLayers) (scope : String) (wait : Bool) : List LockStep :=
  let pick (blocking nonBlocking : LockStep) := if wait then blocking else nonBlocking
  let steps := if layers.fiducia then [pick .fiduciaAcquire .fiduciaTryAcquire] else []
  let steps :=
    if !layers.pgAdvisory then steps ++ [.work]
    else if scope = "session" then
      steps ++ [pick .pgAdvisoryLock .pgTryAdvisoryLock, .work, .pgAdvisoryUnlock]
    else
      steps ++ [.pgBegin, pick .pgAdvisoryXactLock .pgTryAdvisoryXactLock, .work, .pgCommit]
  if layers.fiducia then steps ++ [.fiduciaRelease] else steps

/-- A scope that is not one of the two plans a transaction. -/
theorem makePlan_eq (layers : LockLayers) (scope : String) (wait : Bool) :
    makePlan layers scope wait =
      (plan layers (if scope = "session" then .session else .transaction) wait).steps := by
  obtain ⟨fiducia, pgAdvisory⟩ := layers
  by_cases hscope : scope = "session"
  · cases fiducia with
    | true => cases pgAdvisory with
      | true => simp [makePlan, plan, hscope]
      | false => simp [makePlan, plan]
    | false => cases pgAdvisory with
      | true => simp [makePlan, plan, hscope]
      | false => simp [makePlan, plan]
  · cases fiducia with
    | true => cases pgAdvisory with
      | true => simp [makePlan, plan, hscope]
      | false => simp [makePlan, plan]
    | false => cases pgAdvisory with
      | true => simp [makePlan, plan, hscope]
      | false => simp [makePlan, plan]

/-- A transaction ends with its commit or its rollback; the other locks end one way. -/
def role : LockStep → Role LockStep
  | .fiduciaAcquire => .opens .fiduciaRelease
  | .fiduciaTryAcquire => .opens .fiduciaRelease
  | .fiduciaRelease => .closes .fiduciaRelease
  | .pgBegin => .opens .pgRollback
  | .pgCommit => .closes .pgRollback
  | .pgRollback => .undoes
  | .pgAdvisoryLock => .opens .pgAdvisoryUnlock
  | .pgTryAdvisoryLock => .opens .pgAdvisoryUnlock
  | .pgAdvisoryUnlock => .closes .pgAdvisoryUnlock
  | .fiduciaRenew => .plain
  | .pgAdvisoryXactLock => .plain
  | .pgTryAdvisoryXactLock => .plain
  | .work => .plain

/-- The runtimes differ in whether a failed commit is rolled back. A run of one in which
nothing to lock with was found (`refused`) gives up the steps that need it. -/
def discipline (rollsBack : Bool) (needs : LockStep → Bool) (refused : Bool) :
    Discipline LockStep where
  role := role
  kept s := rollsBack && decide (s = .pgCommit)
  missing s := refused && needs s

theorem discipline_sound (rollsBack : Bool) (needs : LockStep → Bool) (refused : Bool) :
    (discipline rollsBack needs refused).Sound := by
  have hclosed : ∀ u : LockStep, role u = .closes u → u ≠ .pgCommit →
      (discipline rollsBack needs refused).role u = .undoes ∨
        (discipline rollsBack needs refused).role u = .closes u ∧
          (discipline rollsBack needs refused).kept u = false := by
    intro u hrole hcommit
    refine .inr ⟨hrole, ?_⟩
    change (rollsBack && decide (u = .pgCommit)) = false
    rw [decide_eq_false hcommit, Bool.and_false]
  intro s u h
  cases s with
  | fiduciaAcquire | fiduciaTryAcquire | fiduciaRelease | pgAdvisoryLock | pgTryAdvisoryLock
  | pgAdvisoryUnlock =>
    rcases h with h | h
    · cases h <;> exact hclosed _ rfl (by decide)
    · cases h <;> exact hclosed _ rfl (by decide)
  | pgBegin | pgCommit =>
    rcases h with h | h
    · cases h <;> exact .inl rfl
    · cases h <;> exact .inl rfl
  | _ =>
    rcases h with h | h
    · cases h
    · cases h

/-- The lease goes around the plan without it. -/
theorem plan_leased (pgAdvisory : Bool) (pgScope : PgScope) (wait : Bool) :
    (plan ⟨true, pgAdvisory⟩ pgScope wait).steps =
      (if wait then .fiduciaAcquire else .fiduciaTryAcquire) ::
        ((plan ⟨false, pgAdvisory⟩ pgScope wait).steps ++ [.fiduciaRelease]) := by
  cases pgAdvisory with
  | false => rfl
  | true => cases pgScope with
    | transaction => rfl
    | session => rfl

/-- What a call owes to its plan. -/
structure KeepsPlan (d : Discipline LockStep) (steps : List LockStep)
    (attempts : List (Attempt LockStep)) (ok : Bool) : Prop where
  executes : Executes d steps [] attempts ok
  complete : ok = true → attempts = steps.map fun s => (s, true)
  stopped : ok = false → Stopped d steps attempts
  balanced : ∀ u, attempts.countP (d.ends u) = attempts.countP (d.opensOn u)

theorem keepsPlan_of_executes {rollsBack refused : Bool} {needs : LockStep → Bool}
    {steps : List LockStep} {attempts : List (Attempt LockStep)} {ok : Bool}
    (h : Executes (discipline rollsBack needs refused) steps [] attempts ok) :
    KeepsPlan (discipline rollsBack needs refused) steps attempts ok where
  executes := h
  complete := h.complete
  stopped := h.stopped
  balanced u := h.balanced (discipline_sound rollsBack needs refused) (fun _ hv => nomatch hv) u

end OresLocks.Plan
