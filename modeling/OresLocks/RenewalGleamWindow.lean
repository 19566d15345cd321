import OresLocks.RenewalRuntime

/-!
# The Gleam supervisor as a renewal window

A deadline outside the clock domain has one reason, whether it is zero or too far.
-/

namespace OresLocks.RenewalWindow

set_option autoImplicit false

open Renewal (RenewalLossReason maxRenewalClockMs maxRenewalTtlMs)
open Shared.Checks

namespace Gleam

theorem validClock_eq (nowMs : Nat) : RenewalGleam.validClock nowMs = !clockFault nowMs := by
  unfold RenewalGleam.validClock clockFault RenewalGleam.maxRenewalClockMs maxRenewalClockMs
  rw [Bool.eq_iff_iff]
  simp

theorem schedule_spec (nowMs ttlMs : Nat) (p : Policy) (hclock : nowMs ≤ maxRenewalClockMs) :
    (RenewalGleam.schedule nowMs ttlMs (policy p)) =
      outcome (scheduleChecks nowMs ttlMs p)
        ((scheduledDeadline nowMs ttlMs : Int), (scheduledRenewal nowMs ttlMs p : Int)) := by
  have hvalid : (!RenewalGleam.validClock nowMs) = false := by
    rw [validClock_eq, Bool.not_not]
    exact decide_eq_false (by omega)
  have hcase := scheduleCase nowMs ttlMs p
  obtain ⟨made, hmade⟩ : ∃ made, policy p = made := ⟨_, rfl⟩
  have hevery : made.renewEveryMs = p.renewEveryMs := by
    rw [← hmade]
    rfl
  have hmargin : made.safetyMarginMs = p.safetyMarginMs := by
    rw [← hmade]
    rfl
  unfold RenewalGleam.schedule outcome
  rw [hmade, hvalid]
  simp only [Bool.false_eq_true, if_false]
  generalize firstFailure (scheduleChecks nowMs ttlMs p) = first at hcase
  have hmaxTtl : RenewalGleam.maxRenewalTtlMs = (maxRenewalTtlMs : Nat) := rfl
  have hmaxClock : RenewalGleam.maxRenewalClockMs = (maxRenewalClockMs : Nat) := rfl
  cases hcase with
  | ttl h =>
    rw [if_pos (by omega)]
  | policy hpositive hbounded h =>
    rw [if_neg (by omega)]
    by_cases hinterval : 0 < made.renewEveryMs ∧ made.renewEveryMs < ttlMs
    · rw [if_neg (not_not.mpr hinterval), if_pos (by omega)]
    · rw [if_pos hinterval]
  | late hfits h =>
    obtain ⟨hpositive, hbounded, hinterval, hsafety⟩ := hfits
    rw [if_neg (by omega), if_neg (by omega), if_neg (by omega), if_pos (by omega)]
  | passed hfits h =>
    obtain ⟨hpositive, hbounded, hinterval, hsafety⟩ := hfits
    have hnext : (if (nowMs : Int) + made.renewEveryMs < nowMs + ttlMs - made.safetyMarginMs then
        (nowMs : Int) + made.renewEveryMs else nowMs + ttlMs - made.safetyMarginMs) =
          (scheduledRenewal nowMs ttlMs p : Int) := by
      unfold scheduledRenewal
      split
      · omega
      · omega
    have hlive : (nowMs : Int) < (scheduledRenewal nowMs ttlMs p : Int) := by
      unfold scheduledRenewal
      omega
    rw [if_neg (by omega), if_neg (by omega), if_neg (by omega), if_neg (by omega),
      if_neg (by omega), hnext, if_pos hlive]
    rfl

theorem validAuthorityDeadline_eq (deadline : Option Nat) :
    RenewalGleam.validAuthorityDeadline (deadline.map (↑)) =
      !(zeroDeadline deadline || farDeadline deadline) := by
  have hmax : RenewalGleam.maxRenewalClockMs = (maxRenewalClockMs : Nat) := rfl
  cases deadline with
  | none => rfl
  | some value =>
    simp only [Option.map_some, RenewalGleam.validAuthorityDeadline, zeroDeadline, farDeadline,
      Option.any_some]
    rw [Bool.eq_iff_iff]
    simp only [Bool.and_eq_true, Bool.not_eq_true', Bool.or_eq_false_iff, decide_eq_true_eq,
      decide_eq_false_iff_not, Option.some_inj]
    omega

theorem new_spec (g : LeaseGrant) (p : Policy) (nowMs : Nat) :
    new g p nowMs = outcome (newChecks g p nowMs) (supervisor (.start g p nowMs)) := by
  unfold new RenewalGleam.new
  rw [validClock_eq, Bool.not_not]
  change _ = outcome ([(clockFault nowMs, _)] ++ ([_] ++ scheduleChecks nowMs g.ttlMs p)) _
  cases hfault : clockFault nowMs with
  | true => rfl
  | false =>
    have hclock : nowMs ≤ maxRenewalClockMs := by
      simpa [clockFault] using hfault
    rw [outcome_passed (firstFailure_passed _ _)]
    simp only [Bool.false_eq_true, if_false, grant, validAuthorityDeadline_eq, Bool.not_not]
    cases hdeadline : zeroDeadline g.leaseExpiresMs || farDeadline g.leaseExpiresMs with
    | true => rfl
    | false =>
      rw [outcome_passed (firstFailure_passed _ _)]
      simp only [Bool.false_eq_true, if_false, schedule_spec nowMs g.ttlMs p hclock]
      unfold outcome
      cases firstFailure (scheduleChecks nowMs g.ttlMs p) with
      | some reason => rfl
      | none => rfl

theorem decision_spec (w : Window) (nowMs : Nat) :
    Follows (decisionChecks w nowMs) (w.next (.decision nowMs)) supervisor (·.loss)
      (call (supervisor w) (.decision nowMs)) := by
  refine .check ?_ fun hclock => .check ?_ fun hregressed => .check ?_ fun hexpired => ?_
  · intro hclock
    have hfault : clockFault nowMs = true := decide_eq_true hclock
    simp only [call, RenewalGleam.decision, supervisor, validClock_eq, hfault, Bool.not_true,
      Bool.not_false, if_true]
    exact ⟨rfl, rfl⟩
  · intro hregressed
    have hfault : clockFault nowMs = false := decide_eq_false hclock
    simp only [call, RenewalGleam.decision, supervisor, validClock_eq, hfault, Bool.not_false,
      Bool.not_true, Bool.false_eq_true, if_false, Nat.cast_lt, hregressed, if_true]
    exact ⟨rfl, rfl⟩
  · intro hexpired
    have hfault : clockFault nowMs = false := decide_eq_false hclock
    simp only [call, RenewalGleam.decision, supervisor, validClock_eq, hfault, Bool.not_false,
      Bool.not_true, Bool.false_eq_true, if_false, Nat.cast_lt, hregressed, Nat.cast_le, hexpired,
      if_true]
    exact ⟨rfl, rfl⟩
  have hfault : clockFault nowMs = false := decide_eq_false hclock
  simp only [call, RenewalGleam.decision, supervisor, validClock_eq, hfault, Bool.not_false,
    Bool.not_true, Bool.false_eq_true, if_false, Nat.cast_lt, hregressed, Nat.cast_le, hexpired,
    Follows, firstFailure_nil, Window.next]
  by_cases hdue : w.nextRenewalMs ≤ nowMs
  · simp only [hdue, if_true]
  · simp only [hdue, if_false]

theorem deadlineProgress_spec (previous renewed : Option Nat) :
    RenewalGleam.deadlineProgress (previous.map (↑)) (renewed.map (↑)) =
      outcome ([(zeroDeadline renewed || farDeadline renewed, .deadlineInvalid)] ++
        progressChecks previous renewed) () := by
  have hmax : RenewalGleam.maxRenewalClockMs = (maxRenewalClockMs : Nat) := rfl
  have hinvalid : ((renewed.map ((↑) : Nat → Int)).any fun value =>
      decide (value ≤ 0) || decide (RenewalGleam.maxRenewalClockMs < value)) =
        (zeroDeadline renewed || farDeadline renewed) := by
    cases renewed with
    | none => rfl
    | some value =>
      simp only [Option.map_some, Option.any_some, zeroDeadline, farDeadline]
      rw [Bool.eq_iff_iff]
      simp only [Bool.or_eq_true, decide_eq_true_eq, Option.some_inj]
      omega
  unfold RenewalGleam.deadlineProgress
  rw [hinvalid]
  cases hdeadline : zeroDeadline renewed || farDeadline renewed with
  | true => rfl
  | false =>
    rw [outcome_passed (firstFailure_passed _ _)]
    unfold progressChecks outcome
    cases previous with
    | none => rfl
    | some previous =>
      cases renewed with
      | none => rfl
      | some next =>
        simp only [Option.map_some, Bool.false_eq_true, if_false, Nat.cast_le]
        by_cases h : next ≤ previous
        · have hregressed : regressedDeadline (some previous) (some next) = true :=
            decide_eq_true h
          simp only [h, if_true, hregressed]
          rfl
        · have hregressed : regressedDeadline (some previous) (some next) = false :=
            decide_eq_false h
          simp only [h, if_false, hregressed]
          rfl

theorem identity_iff (g g' : LeaseGrant) :
    ¬ ((grant g).key = (grant g').key ∧ (grant g).holder = (grant g').holder) ↔
      (g.key ≠ g'.key ∨ g.holder ≠ g'.holder) := by
  simp only [grant, ne_eq, LockKey.text_inj]
  tauto

theorem token_iff (g g' : LeaseGrant) :
    (grant g).fencingToken ≠ (grant g').fencingToken ↔ g.fencingToken ≠ g'.fencingToken := by
  simp only [grant, ne_eq, Nat.cast_inj]

theorem acceptRenewal_spec (w : Window) (completedMs : Nat) (renewed : LeaseGrant) :
    Follows (checks w (.acceptRenewal completedMs renewed))
      (w.next (.acceptRenewal completedMs renewed)) supervisor (·.loss)
      (call (supervisor w) (.acceptRenewal completedMs renewed)) := by
  change Follows ((clockFault completedMs, _) :: _ :: _ :: _ :: _ ::
    (([_] ++ progressChecks w.grant.leaseExpiresMs renewed.leaseExpiresMs) ++
      scheduleChecks completedMs renewed.ttlMs w.policy)) _ _ _ _
  refine .check ?_ fun hclock => .check ?_ fun hregressed => .check ?_ fun hcompleted =>
    .check ?_ fun hidentity => .check ?_ fun htoken => ?_
  · intro hclock
    have hfault : clockFault completedMs = true := decide_eq_true hclock
    simp only [call, RenewalGleam.acceptRenewal, supervisor, validClock_eq, hfault, Bool.not_true,
      Bool.not_false, if_true]
    exact ⟨rfl, rfl⟩
  · intro hregressed
    have hfault : clockFault completedMs = false := decide_eq_false hclock
    simp only [call, RenewalGleam.acceptRenewal, supervisor, validClock_eq, hfault, Bool.not_false,
      Bool.not_true, Bool.false_eq_true, if_false, Nat.cast_lt, hregressed, if_true]
    exact ⟨rfl, rfl⟩
  · intro hcompleted
    have hfault : clockFault completedMs = false := decide_eq_false hclock
    simp only [call, RenewalGleam.acceptRenewal, supervisor, validClock_eq, hfault, Bool.not_false,
      Bool.not_true, Bool.false_eq_true, if_false, Nat.cast_lt, hregressed, Nat.cast_le, hcompleted,
      if_true]
    exact ⟨rfl, rfl⟩
  · intro hidentity
    have hfault : clockFault completedMs = false := decide_eq_false hclock
    simp only [call, RenewalGleam.acceptRenewal, supervisor, validClock_eq, hfault, Bool.not_false,
      Bool.not_true, Bool.false_eq_true, if_false, Nat.cast_lt, hregressed, Nat.cast_le, hcompleted,
      identity_iff, hidentity, if_true]
    exact ⟨rfl, rfl⟩
  · intro htoken
    have hfault : clockFault completedMs = false := decide_eq_false hclock
    have htoken' := eq_true ((token_iff renewed w.grant).mpr htoken)
    simp only [call, RenewalGleam.acceptRenewal, supervisor, validClock_eq, hfault, Bool.not_false,
      Bool.not_true, Bool.false_eq_true, if_false, Nat.cast_lt, hregressed, Nat.cast_le, hcompleted,
      identity_iff, hidentity, htoken', if_true]
    exact ⟨rfl, rfl⟩
  have hfault : clockFault completedMs = false := decide_eq_false hclock
  have htoken' := eq_false fun h => htoken ((token_iff renewed w.grant).mp h)
  simp only [call, RenewalGleam.acceptRenewal, supervisor, validClock_eq, hfault, Bool.not_false,
    Bool.not_true, Bool.false_eq_true, if_false, Nat.cast_lt, hregressed, Nat.cast_le, hcompleted,
    identity_iff, hidentity, htoken']
  simp only [grant, deadlineProgress_spec]
  cases hfirst : firstFailure
      ([(zeroDeadline renewed.leaseExpiresMs || farDeadline renewed.leaseExpiresMs,
        .deadlineInvalid)] ++ progressChecks w.grant.leaseExpiresMs renewed.leaseExpiresMs) with
  | some reason =>
    simp only [outcome, hfirst]
    exact .failed hfirst rfl rfl
  | none =>
    simp only [outcome, hfirst]
    apply Follows.passed hfirst
    simp only [schedule_spec completedMs renewed.ttlMs w.policy (Nat.le_of_not_lt hclock), outcome]
    unfold Follows
    cases firstFailure (scheduleChecks completedMs renewed.ttlMs w.policy) with
    | some reason => exact ⟨rfl, rfl⟩
    | none => rfl

theorem call_lost {s : RenewalGleam.Supervisor} {reason : RenewalLossReason}
    (h : s.loss = some reason) (c : Call) : call s c = (.lost reason, s) := by
  cases c with
  | decision nowMs => simp only [call, RenewalGleam.decision, h]
  | acceptRenewal completedMs renewed => simp only [call, RenewalGleam.acceptRenewal, h]

def runtime : Runtime where
  State := RenewalGleam.Supervisor
  supervisor := supervisor
  loss := RenewalGleam.Supervisor.loss
  call := call
  checks := checks
  follows := by
    intro w c _
    cases c with
    | decision nowMs => exact decision_spec w nowMs
    | acceptRenewal completedMs renewed => exact acceptRenewal_spec w completedMs renewed
  sticky := fun _ _ c h => call_lost h c

end Gleam

end OresLocks.RenewalWindow
