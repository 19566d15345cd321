import OresLocks.RenewalWindow

/-!
# Following the checks of a runtime

A call on a live window makes its checks, and either records the reason of the first
one that fails or moves to `Window.next`. The checks of a schedule are common to the
four runtimes and end in one of four ways.
-/

namespace OresLocks.RenewalWindow

set_option autoImplicit false

open Renewal (RenewalLossReason maxRenewalClockMs maxRenewalTtlMs)
open Shared.Checks

universe u

/-- One call of a runtime, from a live window: its first failing check is the reason it
answers and records, and without one it holds the next window. -/
def Follows {σ : Type u} (checks : Checks) (next : Answer × Window) (supervisor : Window → σ)
    (loss : σ → Option RenewalLossReason) (result : Answer × σ) : Prop :=
  match firstFailure checks with
  | some reason => result.1 = .lost reason ∧ loss result.2 = some reason
  | none => result = (next.1, supervisor next.2)

section Checking

variable {σ : Type u} {checks rest : Checks} {next : Answer × Window} {supervisor : Window → σ}
  {loss : σ → Option RenewalLossReason} {result : Answer × σ} {reason : RenewalLossReason}

theorem Follows.failed (h : firstFailure checks = some reason) (hanswer : result.1 = .lost reason)
    (hloss : loss result.2 = some reason) :
    Follows (checks ++ rest) next supervisor loss result := by
  unfold Follows
  rw [firstFailure_append, h]
  exact ⟨hanswer, hloss⟩

theorem Follows.passed (h : firstFailure checks = none)
    (hrest : Follows rest next supervisor loss result) :
    Follows (checks ++ rest) next supervisor loss result := by
  unfold Follows
  rw [firstFailure_append, h]
  exact hrest

theorem Follows.check {failed : Prop} [Decidable failed]
    (hfailed : failed → result.1 = .lost reason ∧ loss result.2 = some reason)
    (hpassed : ¬ failed → Follows rest next supervisor loss result) :
    Follows ((decide failed, reason) :: rest) next supervisor loss result := by
  by_cases h : failed
  · rw [decide_eq_true h]
    exact hfailed h
  · rw [decide_eq_false h]
    exact hpassed h

end Checking

theorem clock_of_passed {nowMs : Nat} {reason : RenewalLossReason}
    (h : firstFailure [(clockFault nowMs, reason)] = none) : nowMs ≤ maxRenewalClockMs := by
  simpa [firstFailure_cons, clockFault] using h

/-- The positive TTL and policy a schedule is made from. -/
structure Fits (ttlMs : Nat) (p : Policy) : Prop where
  positive : 1 ≤ ttlMs
  bounded : ttlMs ≤ maxRenewalTtlMs
  interval : 1 ≤ p.renewEveryMs ∧ p.renewEveryMs < ttlMs
  margin : 1 ≤ p.safetyMarginMs ∧ p.safetyMarginMs < ttlMs

/-- The four ways the checks of a schedule end. -/
inductive ScheduleCase (nowMs ttlMs : Nat) (p : Policy) : Option RenewalLossReason → Prop where
  | ttl : ttlMs = 0 ∨ maxRenewalTtlMs < ttlMs → ScheduleCase nowMs ttlMs p (some .invalidTtl)
  | policy : 1 ≤ ttlMs → ttlMs ≤ maxRenewalTtlMs →
      p.renewEveryMs = 0 ∨ p.safetyMarginMs = 0 ∨ ttlMs ≤ p.renewEveryMs ∨
        ttlMs ≤ p.safetyMarginMs → ScheduleCase nowMs ttlMs p (some .invalidPolicy)
  | late : Fits ttlMs p → maxRenewalClockMs < nowMs + ttlMs →
      ScheduleCase nowMs ttlMs p (some .deadlineOverflow)
  | passed : Fits ttlMs p → nowMs + ttlMs ≤ maxRenewalClockMs → ScheduleCase nowMs ttlMs p none

theorem scheduleCase (nowMs ttlMs : Nat) (p : Policy) :
    ScheduleCase nowMs ttlMs p (firstFailure (scheduleChecks nowMs ttlMs p)) := by
  unfold scheduleChecks
  rw [firstFailure_cons]
  split
  · rename_i httl
    exact .ttl (by simpa [ttlFault] using httl)
  rename_i httl
  have hrange : 1 ≤ ttlMs ∧ ttlMs ≤ maxRenewalTtlMs := by
    simp only [ttlFault, decide_eq_true_eq] at httl
    omega
  rw [firstFailure_cons]
  split
  · rename_i hpolicy
    refine .policy hrange.1 hrange.2 ?_
    simp only [zeroPolicy, longPolicy, Bool.or_eq_true, decide_eq_true_eq] at hpolicy
    omega
  rename_i hpolicy
  have hfits : Fits ttlMs p := by
    simp only [zeroPolicy, longPolicy, Bool.or_eq_true, decide_eq_true_eq] at hpolicy
    exact ⟨hrange.1, hrange.2, by omega, by omega⟩
  rw [firstFailure_cons]
  split
  · rename_i hlate
    exact .late hfits (by simpa [lateDeadline] using hlate)
  · rename_i hlate
    exact .passed hfits (by simpa [lateDeadline] using hlate)

theorem scheduledRenewal_gt {nowMs ttlMs : Nat} {p : Policy}
    (h : firstFailure (scheduleChecks nowMs ttlMs p) = none) :
    nowMs < scheduledRenewal nowMs ttlMs p := by
  have hcase := scheduleCase nowMs ttlMs p
  rw [h] at hcase
  cases hcase with
  | passed hfits _ =>
    obtain ⟨hpositive, hbounded, hinterval, hsafety⟩ := hfits
    unfold scheduledRenewal
    omega

theorem Window.next_ne_lost (w : Window) (c : Call) (reason : RenewalLossReason) :
    (w.next c).1 ≠ .lost reason := by
  cases c with
  | decision nowMs =>
    unfold Window.next
    dsimp only
    split
    · exact Answer.noConfusion
    · exact Answer.noConfusion
  | acceptRenewal completedMs renewed => exact Answer.noConfusion

/-- A call of one runtime receives a token of 64 bits. -/
def Call.Bounded : Call → Prop
  | .decision _ => True
  | .acceptRenewal _ renewed => renewed.fencingToken ≤ 18446744073709551615

/-- A runtime: its supervisors, the calls on them, and that calls on a live window follow
the checks of the runtime. A lost supervisor stays as it is. -/
structure Runtime where
  State : Type
  supervisor : Window → State
  loss : State → Option RenewalLossReason
  call : State → Call → Answer × State
  checks : Window → Call → Checks
  follows : ∀ w c, c.Bounded →
    Follows (checks w c) (w.next c) supervisor loss (call (supervisor w) c)
  sticky : ∀ s reason c, loss s = some reason → call s c = (.lost reason, s)

namespace Runtime

variable {R : Runtime}

theorem call_passed {w : Window} {c : Call} (hc : c.Bounded)
    (h : firstFailure (R.checks w c) = none) :
    R.call (R.supervisor w) c = ((w.next c).1, R.supervisor (w.next c).2) := by
  have hfollows := R.follows w c hc
  unfold Follows at hfollows
  rw [h] at hfollows
  exact hfollows

theorem call_failed {w : Window} {c : Call} {reason : RenewalLossReason} (hc : c.Bounded)
    (h : firstFailure (R.checks w c) = some reason) :
    (R.call (R.supervisor w) c).1 = .lost reason ∧
      R.loss (R.call (R.supervisor w) c).2 = some reason := by
  have hfollows := R.follows w c hc
  unfold Follows at hfollows
  rw [h] at hfollows
  exact hfollows

theorem lost_iff {w : Window} {c : Call} (hc : c.Bounded) (reason : RenewalLossReason) :
    (R.call (R.supervisor w) c).1 = .lost reason ↔ firstFailure (R.checks w c) = some reason := by
  cases h : firstFailure (R.checks w c) with
  | none =>
    rw [call_passed hc h]
    simp [w.next_ne_lost c reason]
  | some first =>
    rw [(call_failed hc h).1]
    simp

theorem passed_of_live {w : Window} {c : Call} (hc : c.Bounded)
    (h : R.loss (R.call (R.supervisor w) c).2 = none) : firstFailure (R.checks w c) = none := by
  cases hfirst : firstFailure (R.checks w c) with
  | none => rfl
  | some reason =>
    rw [(call_failed hc hfirst).2] at h
    cases h

theorem live_of_call {s : R.State} {c : Call} (h : R.loss (R.call s c).2 = none) :
    R.loss s = none := by
  cases hloss : R.loss s with
  | none => rfl
  | some reason =>
    rw [R.sticky s reason c hloss] at h
    exact absurd (hloss.symm.trans h) (Option.some_ne_none reason)

end Runtime

end OresLocks.RenewalWindow
