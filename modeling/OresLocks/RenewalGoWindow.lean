import OresLocks.RenewalRuntime

/-!
# The Go supervisor as a renewal window

A zero deadline is an absent one, so that the checks of a deadline compare what
`present` leaves.
-/

namespace OresLocks.RenewalWindow

set_option autoImplicit false

open Renewal (RenewalLossReason maxRenewalClockMs maxRenewalTtlMs)
open Shared.Checks

namespace Go

theorem milliseconds_policy (ms : Nat) : RenewalGo.milliseconds (ms * 1000000) = ms := by
  unfold RenewalGo.milliseconds
  rw [Int.mul_tdiv_cancel _ (by decide)]

theorem schedule_spec (nowMs ttlMs : Nat) (p : Policy) (hclock : nowMs ≤ maxRenewalClockMs) :
    (RenewalGo.renewalSchedule nowMs ttlMs (policy p)).mapError (·.reason) =
      outcome (scheduleChecks nowMs ttlMs p)
        ((scheduledDeadline nowMs ttlMs : Int), (scheduledRenewal nowMs ttlMs p : Int)) := by
  have hevery := milliseconds_policy p.renewEveryMs
  have hmargin := milliseconds_policy p.safetyMarginMs
  have hcase := scheduleCase nowMs ttlMs p
  unfold RenewalGo.renewalSchedule outcome
  simp only [policy, hevery, hmargin]
  generalize firstFailure (scheduleChecks nowMs ttlMs p) = first at hcase
  unfold maxRenewalClockMs at *
  have hmaxTtl : RenewalGo.maxRenewalTtlMs = (maxRenewalTtlMs : Nat) := rfl
  have hmaxClock : RenewalGo.maxRenewalClockMs = 9007199254740991 := rfl
  cases hcase with
  | ttl h =>
    rw [if_pos (by omega)]
    rfl
  | policy hpositive hbounded h =>
    rw [if_neg (by omega), if_pos (by omega)]
    rfl
  | late hfits h =>
    obtain ⟨hpositive, hbounded, hinterval, hsafety⟩ := hfits
    unfold maxRenewalClockMs at h
    rw [if_neg (by omega), if_neg (by omega), if_pos (by omega)]
    rfl
  | passed hfits h =>
    obtain ⟨hpositive, hbounded, hinterval, hsafety⟩ := hfits
    unfold maxRenewalClockMs at h
    have hnext : (if (nowMs : Int) + ttlMs - p.safetyMarginMs < nowMs + p.renewEveryMs then
        (nowMs : Int) + ttlMs - p.safetyMarginMs else nowMs + p.renewEveryMs) =
          (scheduledRenewal nowMs ttlMs p : Int) := by
      unfold scheduledRenewal
      split
      · omega
      · omega
    have hlive : ¬ (scheduledRenewal nowMs ttlMs p : Int) ≤ nowMs := by
      unfold scheduledRenewal
      omega
    rw [if_neg (by omega), if_neg (by omega), if_neg (by omega), hnext, if_neg hlive]
    rfl

theorem validateRenewalClock_spec (nowMs : Nat) :
    (RenewalGo.validateRenewalClock nowMs).mapError (·.reason) =
      outcome [(clockFault nowMs, .deadlineOverflow)] () := by
  have hmax : RenewalGo.maxRenewalClockMs = (maxRenewalClockMs : Nat) := rfl
  unfold RenewalGo.validateRenewalClock outcome clockFault
  by_cases h : maxRenewalClockMs < nowMs
  · rw [if_pos (by omega), decide_eq_true h]
    rfl
  · rw [if_neg (by omega), decide_eq_false h]
    rfl

theorem validateAuthorityDeadline_spec (deadline : Option Nat) :
    (RenewalGo.validateAuthorityDeadline (deadline.getD 0 : Nat)).mapError (·.reason) =
      outcome [(farDeadline deadline, .deadlineInvalid)] () := by
  have hmax : RenewalGo.maxRenewalClockMs = (maxRenewalClockMs : Nat) := rfl
  have hfar : farDeadline deadline = decide (maxRenewalClockMs < deadline.getD 0) := by
    cases deadline with
    | none => rfl
    | some value => rfl
  unfold RenewalGo.validateAuthorityDeadline outcome
  rw [hfar]
  by_cases h : maxRenewalClockMs < deadline.getD 0
  · rw [if_pos (by omega), decide_eq_true h]
    rfl
  · rw [if_neg (by omega), decide_eq_false h]
    rfl

theorem new_spec (g : LeaseGrant) (p : Policy) (nowMs : Nat) :
    (new g p nowMs).mapError (·.reason) =
      outcome (newChecks g p nowMs) (supervisor (.start g p nowMs)) := by
  unfold new RenewalGo.RenewalSupervisor.new
  change _ = outcome ([(clockFault nowMs, _)] ++ ([_] ++ scheduleChecks nowMs g.ttlMs p)) _
  rcases cases_of_outcome (validateRenewalClock_spec nowMs) with
    ⟨error, herror, hfirst⟩ | ⟨hok, hfirst⟩
  · rw [herror, outcome_failed hfirst]
    rfl
  rw [hok, outcome_passed hfirst]
  simp only [grant]
  rcases cases_of_outcome (validateAuthorityDeadline_spec g.leaseExpiresMs) with
    ⟨error, herror, hfirst'⟩ | ⟨hok', hfirst'⟩
  · rw [herror, outcome_failed hfirst']
    rfl
  rw [hok', outcome_passed hfirst']
  have hclock := clock_of_passed hfirst
  rcases cases_of_outcome (schedule_spec nowMs g.ttlMs p hclock) with
    ⟨error, herror, hfirst''⟩ | ⟨hok'', hfirst''⟩
  · rw [herror]
    unfold outcome
    rw [hfirst'']
    rfl
  · rw [hok'']
    unfold outcome
    rw [hfirst'']
    rfl

theorem decision_spec (w : Window) (nowMs : Nat) :
    Follows (decisionChecks w nowMs) (w.next (.decision nowMs)) supervisor loss
      (call (supervisor w) (.decision nowMs)) := by
  change Follows ([(clockFault nowMs, _)] ++ [_, _]) _ _ _ _
  rcases cases_of_outcome (validateRenewalClock_spec nowMs) with
    ⟨error, herror, hfirst⟩ | ⟨hok, hfirst⟩
  · simp only [call, RenewalGo.RenewalSupervisor.decision, supervisor, herror]
    exact .failed hfirst rfl rfl
  refine .passed hfirst (.check ?_ fun hregressed => .check ?_ fun hexpired => ?_)
  · intro hregressed
    simp only [call, RenewalGo.RenewalSupervisor.decision, supervisor, hok, Nat.cast_lt, hregressed,
      if_true]
    exact ⟨rfl, rfl⟩
  · intro hexpired
    simp only [call, RenewalGo.RenewalSupervisor.decision, supervisor, hok, Nat.cast_lt, hregressed,
      if_false, Nat.cast_le, hexpired, if_true]
    exact ⟨rfl, rfl⟩
  simp only [call, RenewalGo.RenewalSupervisor.decision, supervisor, hok, Nat.cast_lt, hregressed,
    if_false, Nat.cast_le, hexpired, Follows, firstFailure_nil, Window.next]
  by_cases hdue : w.nextRenewalMs ≤ nowMs
  · simp only [hdue, if_true]
  · simp only [hdue, if_false]

theorem identity_iff (g g' : LeaseGrant) :
    ((grant g).key ≠ (grant g').key ∨ (grant g).holder ≠ (grant g').holder) ↔
      (g.key ≠ g'.key ∨ g.holder ≠ g'.holder) := by
  simp only [grant, ne_eq, LockKey.text_inj]

theorem present_eq (deadline : Option Nat) :
    present deadline = if deadline.getD 0 = 0 then none else some (deadline.getD 0) := by
  cases deadline with
  | none => rfl
  | some value =>
    cases value with
    | zero => rfl
    | succ value => rfl

theorem validateDeadlineProgress_spec (previous renewed : Option Nat) :
    (RenewalGo.validateDeadlineProgress (previous.getD 0 : Nat) (renewed.getD 0 : Nat)).mapError
        (·.reason) =
      outcome ([(farDeadline renewed, .deadlineInvalid)] ++
        progressChecks (present previous) (present renewed)) () := by
  unfold RenewalGo.validateDeadlineProgress
  rcases cases_of_outcome (validateAuthorityDeadline_spec renewed) with
    ⟨error, herror, hfirst⟩ | ⟨hok, hfirst⟩
  · rw [herror, outcome_failed hfirst]
    rfl
  rw [hok, outcome_passed hfirst, present_eq, present_eq]
  generalize previous.getD 0 = old
  generalize renewed.getD 0 = next
  unfold progressChecks outcome
  dsimp only
  by_cases hold : old = 0
  · rw [if_neg (by omega), if_neg (by omega), if_pos hold]
    rfl
  by_cases hnext : next = 0
  · rw [if_pos (by omega), if_neg hold, if_pos hnext]
    rfl
  rw [if_neg (by omega), if_neg hold, if_neg hnext]
  by_cases h : next ≤ old
  · have hregressed : regressedDeadline (some old) (some next) = true := decide_eq_true h
    rw [if_pos (by omega), hregressed]
    rfl
  · have hregressed : regressedDeadline (some old) (some next) = false := decide_eq_false h
    rw [if_neg (by omega), hregressed]
    rfl

theorem acceptRenewal_spec (w : Window) (completedMs : Nat) (renewed : LeaseGrant) :
    Follows (checks w (.acceptRenewal completedMs renewed))
      (w.next (.acceptRenewal completedMs renewed)) supervisor loss
      (call (supervisor w) (.acceptRenewal completedMs renewed)) := by
  change Follows ([(clockFault completedMs, _)] ++ _ :: _ :: _ :: _ ::
    (([_] ++ progressChecks (present w.grant.leaseExpiresMs) (present renewed.leaseExpiresMs)) ++
      scheduleChecks completedMs renewed.ttlMs w.policy)) _ _ _ _
  rcases cases_of_outcome (validateRenewalClock_spec completedMs) with
    ⟨error, herror, hfirst⟩ | ⟨hok, hfirst⟩
  · simp only [call, RenewalGo.RenewalSupervisor.acceptRenewal, supervisor, herror]
    exact .failed hfirst rfl rfl
  have hclock := clock_of_passed hfirst
  refine .passed hfirst (.check ?_ fun hregressed => .check ?_ fun hcompleted => .check ?_
    fun hidentity => .check ?_ fun htoken => ?_)
  · intro hregressed
    simp only [call, RenewalGo.RenewalSupervisor.acceptRenewal, supervisor, hok, Nat.cast_lt,
      hregressed, if_true]
    exact ⟨rfl, rfl⟩
  · intro hcompleted
    simp only [call, RenewalGo.RenewalSupervisor.acceptRenewal, supervisor, hok, Nat.cast_lt,
      hregressed, if_false, Nat.cast_le, hcompleted, if_true]
    exact ⟨rfl, rfl⟩
  · intro hidentity
    simp only [call, RenewalGo.RenewalSupervisor.acceptRenewal, supervisor, hok, Nat.cast_lt,
      hregressed, if_false, Nat.cast_le, hcompleted, identity_iff, hidentity, if_true]
    exact ⟨rfl, rfl⟩
  · intro htoken
    have htoken' : ((grant renewed).fencingToken ≠ (grant w.grant).fencingToken) = True :=
      eq_true htoken
    simp only [call, RenewalGo.RenewalSupervisor.acceptRenewal, supervisor, hok, Nat.cast_lt,
      hregressed, if_false, Nat.cast_le, hcompleted, identity_iff, hidentity, htoken', if_true]
    exact ⟨rfl, rfl⟩
  have htoken' : ((grant renewed).fencingToken ≠ (grant w.grant).fencingToken) = False :=
    eq_false htoken
  simp only [call, RenewalGo.RenewalSupervisor.acceptRenewal, supervisor, hok, Nat.cast_lt,
    hregressed, if_false, Nat.cast_le, hcompleted, identity_iff, hidentity, htoken']
  rcases cases_of_outcome (validateDeadlineProgress_spec w.grant.leaseExpiresMs
    renewed.leaseExpiresMs) with ⟨error, herror, hfirst'⟩ | ⟨hok', hfirst'⟩
  · simp only [grant, herror]
    exact .failed hfirst' rfl rfl
  simp only [grant, hok']
  apply Follows.passed hfirst'
  rcases cases_of_outcome (schedule_spec completedMs renewed.ttlMs w.policy hclock) with
    ⟨error, herror, hfirst''⟩ | ⟨hok'', hfirst''⟩
  · rw [herror]
    unfold Follows
    rw [hfirst'']
    exact ⟨rfl, rfl⟩
  · rw [hok'']
    unfold Follows
    rw [hfirst'']
    rfl

theorem call_lost {s : RenewalGo.RenewalSupervisor} {reason : RenewalLossReason}
    (h : loss s = some reason) (c : Call) : call s c = (.lost reason, s) := by
  obtain ⟨error, herror, rfl⟩ := Option.map_eq_some_iff.mp h
  cases c with
  | decision nowMs => simp only [call, RenewalGo.RenewalSupervisor.decision, herror]
  | acceptRenewal completedMs renewed =>
    simp only [call, RenewalGo.RenewalSupervisor.acceptRenewal, herror]

def runtime : Runtime where
  State := RenewalGo.RenewalSupervisor
  supervisor := supervisor
  loss := loss
  call := call
  checks := checks
  follows := by
    intro w c _
    cases c with
    | decision nowMs => exact decision_spec w nowMs
    | acceptRenewal completedMs renewed => exact acceptRenewal_spec w completedMs renewed
  sticky := fun _ _ c h => call_lost h c

end Go

end OresLocks.RenewalWindow
