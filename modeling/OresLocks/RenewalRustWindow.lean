import OresLocks.RenewalRuntime

/-!
# The Rust supervisor as a renewal window

Its sums are checked additions of unsigned 64-bit numbers, and the two clock checks
keep them far from overflow.
-/

namespace OresLocks.RenewalWindow

set_option autoImplicit false

open Renewal (RenewalLossReason maxRenewalClockMs maxRenewalTtlMs)
open Shared.Checks

namespace Rust

theorem durationMs_policy {ms : Nat} (h : ms ≤ maxRenewalTtlMs) :
    durationMs (ms * 1000000) = ms := by
  have hmax : ms ≤ u64Max := by
    unfold u64Max
    unfold maxRenewalTtlMs at h
    omega
  unfold durationMs
  rw [Nat.mul_div_cancel _ (by decide), Nat.min_eq_left hmax]

theorem checkedAdd_of_clock {nowMs ms : Nat} (hclock : nowMs ≤ maxRenewalClockMs)
    (hms : ms ≤ maxRenewalTtlMs) : checkedAdd nowMs ms = some (nowMs + ms) := by
  unfold checkedAdd
  rw [if_pos]
  unfold u64Max
  unfold maxRenewalClockMs at hclock
  unfold maxRenewalTtlMs at hms
  omega

theorem schedule_spec (nowMs ttlMs : Nat) (p : Policy) (hclock : nowMs ≤ maxRenewalClockMs) :
    (Renewal.schedule nowMs ttlMs (policy p)).mapError (·.reason) =
      outcome (scheduleChecks nowMs ttlMs p)
        (scheduledDeadline nowMs ttlMs, scheduledRenewal nowMs ttlMs p) := by
  have hevery := durationMs_policy p.renewEvery_le
  have hmargin := durationMs_policy p.safetyMargin_le
  have hcase := scheduleCase nowMs ttlMs p
  unfold Renewal.schedule outcome
  simp only [policy, hevery, hmargin]
  generalize firstFailure (scheduleChecks nowMs ttlMs p) = first at hcase
  cases hcase with
  | ttl h =>
    rw [if_pos h]
    rfl
  | policy hpositive hbounded h =>
    rw [if_neg (by omega), if_pos h]
    rfl
  | late hfits h =>
    obtain ⟨hpositive, hbounded, hinterval, hsafety⟩ := hfits
    have hfilter : (some (nowMs + ttlMs)).filter (· ≤ maxRenewalClockMs) = none := by
      simp [Option.filter, h]
    rw [if_neg (by omega), if_neg (by omega), checkedAdd_of_clock hclock hbounded, hfilter]
    rfl
  | passed hfits h =>
    obtain ⟨hpositive, hbounded, hinterval, hsafety⟩ := hfits
    have hfilter : (some (nowMs + ttlMs)).filter (· ≤ maxRenewalClockMs) =
        some (nowMs + ttlMs) := by
      simp [Option.filter, h]
    rw [if_neg (by omega), if_neg (by omega), checkedAdd_of_clock hclock hbounded, hfilter,
      checkedAdd_of_clock hclock p.renewEvery_le]
    dsimp only
    rw [if_neg (by omega)]
    rfl

theorem validateClock_spec (nowMs : Nat) :
    (Renewal.validateClock nowMs).mapError (·.reason) =
      outcome [(clockFault nowMs, .deadlineOverflow)] () := by
  unfold Renewal.validateClock outcome clockFault
  by_cases h : nowMs ≤ maxRenewalClockMs
  · rw [if_pos h, decide_eq_false (by omega)]
    rfl
  · rw [if_neg h, decide_eq_true (by omega)]
    rfl

theorem validateAuthorityDeadline_spec (deadline : Option Nat) :
    (Renewal.validateAuthorityDeadline deadline).mapError (·.reason) =
      outcome [(zeroDeadline deadline, .deadlineInvalid), (farDeadline deadline, .deadlineOverflow)]
        () := by
  unfold Renewal.validateAuthorityDeadline outcome
  split
  · rfl
  · rename_i value hvalue
    have hzero : zeroDeadline (some value) = false := decide_eq_false (by simpa using hvalue)
    rw [hzero, firstFailure_passed]
    by_cases h : maxRenewalClockMs < value
    · have hfar : farDeadline (some value) = true := decide_eq_true h
      rw [if_pos h, hfar]
      rfl
    · have hfar : farDeadline (some value) = false := decide_eq_false h
      rw [if_neg h, hfar]
      rfl
  · rfl

theorem new_spec (grant : LeaseGrant) (p : Policy) (nowMs : Nat) :
    (new grant p nowMs).mapError (·.reason) =
      outcome (newChecks grant p nowMs) (supervisor (.start grant p nowMs)) := by
  unfold new Renewal.RenewalSupervisor.new
  change _ = outcome ([(clockFault nowMs, _)] ++ ([_, _] ++ scheduleChecks nowMs grant.ttlMs p)) _
  rcases cases_of_outcome (validateClock_spec nowMs) with ⟨error, herror, hfirst⟩ | ⟨hok, hfirst⟩
  · rw [herror, outcome_failed hfirst]
    rfl
  rw [hok, outcome_passed hfirst]
  rcases cases_of_outcome (validateAuthorityDeadline_spec grant.leaseExpiresMs) with
    ⟨error, herror, hfirst'⟩ | ⟨hok', hfirst'⟩
  · rw [herror, outcome_failed hfirst']
    rfl
  rw [hok', outcome_passed hfirst']
  have hclock := clock_of_passed hfirst
  rcases cases_of_outcome (schedule_spec nowMs grant.ttlMs p hclock) with
    ⟨error, herror, hfirst''⟩ | ⟨hok'', hfirst''⟩
  · rw [herror]
    unfold outcome
    rw [hfirst'']
    rfl
  · rw [hok'']
    unfold outcome
    rw [hfirst'']
    rfl

theorem decision_spec (w : Window) (nowMs : Nat) :
    Follows (decisionChecks w nowMs) (w.next (.decision nowMs)) supervisor loss
      (call (supervisor w) (.decision nowMs)) := by
  change Follows ([(clockFault nowMs, _)] ++ [_, _]) _ _ _ _
  rcases cases_of_outcome (validateClock_spec nowMs) with ⟨error, herror, hfirst⟩ | ⟨hok, hfirst⟩
  · simp only [call, Renewal.RenewalSupervisor.decision, supervisor, herror]
    exact .failed hfirst rfl rfl
  refine .passed hfirst (.check ?_ ?_)
  · intro hregressed
    simp only [call, Renewal.RenewalSupervisor.decision, supervisor, hok, hregressed, if_true]
    exact ⟨rfl, rfl⟩
  intro hregressed
  refine .check ?_ ?_
  · intro hexpired
    simp only [call, Renewal.RenewalSupervisor.decision, supervisor, hok, hregressed, if_false,
      hexpired, if_true]
    exact ⟨rfl, rfl⟩
  intro hexpired
  simp only [call, Renewal.RenewalSupervisor.decision, supervisor, hok, hregressed, if_false,
    hexpired, Follows, firstFailure_nil, Window.next]
  by_cases hdue : w.nextRenewalMs ≤ nowMs
  · simp only [hdue, if_true]
  · have hcheckIn : ((w.nextRenewalMs - nowMs : Nat) : Int) = (w.nextRenewalMs : Int) - nowMs := by
      omega
    simp only [hdue, if_false, hcheckIn]

theorem validateDeadlineProgress_spec (previous renewed : Option Nat) :
    (Renewal.validateDeadlineProgress previous renewed).mapError (·.reason) =
      outcome ([(zeroDeadline renewed, .deadlineInvalid), (farDeadline renewed, .deadlineOverflow)] ++
        progressChecks previous renewed) () := by
  unfold Renewal.validateDeadlineProgress
  rcases cases_of_outcome (validateAuthorityDeadline_spec renewed) with
    ⟨error, herror, hfirst⟩ | ⟨hok, hfirst⟩
  · rw [herror, outcome_failed hfirst]
    rfl
  rw [hok, outcome_passed hfirst]
  unfold progressChecks outcome
  cases previous with
  | none => rfl
  | some previous =>
    cases renewed with
    | none => rfl
    | some next =>
      by_cases h : next ≤ previous
      · have hregressed : regressedDeadline (some previous) (some next) = true := decide_eq_true h
        simp only [h, if_true, hregressed]
        rfl
      · have hregressed : regressedDeadline (some previous) (some next) = false :=
          decide_eq_false h
        simp only [h, if_false, hregressed]
        rfl

theorem acceptRenewal_spec (w : Window) (completedMs : Nat) (renewed : LeaseGrant) :
    Follows (checks w (.acceptRenewal completedMs renewed))
      (w.next (.acceptRenewal completedMs renewed)) supervisor loss
      (call (supervisor w) (.acceptRenewal completedMs renewed)) := by
  change Follows ([(clockFault completedMs, _)] ++ _ :: _ :: _ :: _ ::
    (([_, _] ++ progressChecks w.grant.leaseExpiresMs renewed.leaseExpiresMs) ++
      scheduleChecks completedMs renewed.ttlMs w.policy)) _ _ _ _
  rcases cases_of_outcome (validateClock_spec completedMs) with
    ⟨error, herror, hfirst⟩ | ⟨hok, hfirst⟩
  · simp only [call, Renewal.RenewalSupervisor.acceptRenewal, supervisor, herror]
    exact .failed hfirst rfl rfl
  have hclock := clock_of_passed hfirst
  refine .passed hfirst (.check ?_ fun hregressed => .check ?_ fun hcompleted => .check ?_
    fun hidentity => .check ?_ fun htoken => ?_)
  · intro hregressed
    simp only [call, Renewal.RenewalSupervisor.acceptRenewal, supervisor, hok, hregressed, if_true]
    exact ⟨rfl, rfl⟩
  · intro hcompleted
    simp only [call, Renewal.RenewalSupervisor.acceptRenewal, supervisor, hok, hregressed, if_false,
      hcompleted, if_true]
    exact ⟨rfl, rfl⟩
  · intro hidentity
    simp only [call, Renewal.RenewalSupervisor.acceptRenewal, supervisor, hok, hregressed, if_false,
      hcompleted, hidentity, if_true]
    exact ⟨rfl, rfl⟩
  · intro htoken
    simp only [call, Renewal.RenewalSupervisor.acceptRenewal, supervisor, hok, hregressed, if_false,
      hcompleted, hidentity, ne_eq, htoken, not_false_eq_true, if_true]
    exact ⟨rfl, rfl⟩
  simp only [call, Renewal.RenewalSupervisor.acceptRenewal, supervisor, hok, hregressed, if_false,
    hcompleted, hidentity, htoken]
  rcases cases_of_outcome (validateDeadlineProgress_spec w.grant.leaseExpiresMs
    renewed.leaseExpiresMs) with ⟨error, herror, hfirst'⟩ | ⟨hok', hfirst'⟩
  · rw [herror]
    exact .failed hfirst' rfl rfl
  rw [hok']
  apply Follows.passed hfirst'
  rcases cases_of_outcome (schedule_spec completedMs renewed.ttlMs w.policy hclock) with
    ⟨error, herror, hfirst''⟩ | ⟨hok'', hfirst''⟩
  · rw [herror]
    unfold Follows
    rw [hfirst'']
    exact ⟨rfl, rfl⟩
  · rw [hok'']
    have hlive := scheduledRenewal_gt hfirst''
    have hcheckIn : ((scheduledRenewal completedMs renewed.ttlMs w.policy - completedMs : Nat) : Int) =
        (scheduledRenewal completedMs renewed.ttlMs w.policy : Int) - completedMs := by omega
    unfold Follows
    rw [hfirst'']
    simp only [Window.next, Window.start, hcheckIn]
    rfl

theorem call_lost {s : Renewal.RenewalSupervisor} {reason : RenewalLossReason}
    (h : loss s = some reason) (c : Call) : call s c = (.lost reason, s) := by
  obtain ⟨error, herror, rfl⟩ := Option.map_eq_some_iff.mp h
  cases c with
  | decision nowMs => simp only [call, Renewal.RenewalSupervisor.decision, herror]
  | acceptRenewal completedMs renewed =>
    simp only [call, Renewal.RenewalSupervisor.acceptRenewal, herror]

def runtime : Runtime where
  State := Renewal.RenewalSupervisor
  supervisor := supervisor
  loss := loss
  call := call
  checks := checks
  follows := by
    intro w c _
    cases c with
    | decision nowMs => exact decision_spec w nowMs
    | acceptRenewal completedMs renewed => exact acceptRenewal_spec w completedMs renewed
  sticky := fun _ _ c h => call_lost h c

end Rust

end OresLocks.RenewalWindow
