import OresLocks.RenewalRuntime

/-!
# The TypeScript supervisor as a renewal window

The grant and the policy are read back from own data properties, and the response is
checked for its shape before it is compared with the window.
-/

namespace OresLocks.RenewalWindow

set_option autoImplicit false

open Renewal (RenewalLossReason maxRenewalClockMs maxRenewalTtlMs)
open Ts (js RawGrant)
open Shared.Checks

namespace TypeScript

theorem addDouble_le {a b : Nat} (h : a + b ≤ maxRenewalClockMs) :
    RenewalTs.addDouble a b = a + b := by
  unfold RenewalTs.addDouble
  unfold maxRenewalClockMs at h
  rw [if_pos (by omega)]

theorem addDouble_gt {a b : Nat} (h : maxRenewalClockMs < a + b) :
    maxRenewalClockMs < RenewalTs.addDouble a b := by
  unfold RenewalTs.addDouble
  unfold maxRenewalClockMs at *
  split
  · omega
  split
  · omega
  split
  · omega
  · omega

theorem schedule_spec (nowMs ttlMs : Nat) (p : Policy) (hclock : nowMs ≤ maxRenewalClockMs) :
    (RenewalTs.makeSchedule nowMs ttlMs ⟨p.renewEveryMs, p.safetyMarginMs⟩).mapError (·.reason) =
      outcome (scheduleChecks nowMs ttlMs p)
        (scheduledDeadline nowMs ttlMs, scheduledRenewal nowMs ttlMs p) := by
  have hcase := scheduleCase nowMs ttlMs p
  unfold RenewalTs.makeSchedule outcome
  rw [if_neg (by omega)]
  generalize firstFailure (scheduleChecks nowMs ttlMs p) = first at hcase
  cases hcase with
  | ttl h =>
    rw [if_pos h]
    rfl
  | policy hpositive hbounded h =>
    rw [if_neg (by omega), if_pos h]
    rfl
  | late hfits h =>
    obtain ⟨hpositive, hbounded, hinterval, hsafety⟩ := hfits
    have hpolicy : ¬ (p.renewEveryMs = 0 ∨ p.safetyMarginMs = 0 ∨ ttlMs ≤ p.renewEveryMs ∨
        ttlMs ≤ p.safetyMarginMs) := by omega
    rw [if_neg (by omega), if_neg hpolicy]
    dsimp only
    rw [if_pos (Or.inl (addDouble_gt h))]
    rfl
  | passed hfits h =>
    obtain ⟨hpositive, hbounded, hinterval, hsafety⟩ := hfits
    have hpolicy : ¬ (p.renewEveryMs = 0 ∨ p.safetyMarginMs = 0 ∨ ttlMs ≤ p.renewEveryMs ∨
        ttlMs ≤ p.safetyMarginMs) := by omega
    rw [if_neg (by omega), if_neg hpolicy]
    dsimp only
    rw [addDouble_le h, addDouble_le (by omega), if_neg (by omega), if_neg (by omega)]
    rfl

theorem boundedInteger_ofInt {low high : Nat} (n : Nat) (hhigh : high ≤ JsNumber.maxSafeInteger) :
    Ts.boundedInteger (.number (.ofInt n)) low high = if low ≤ n ∧ n ≤ high then some n else none := by
  have hsafe : (JsNumber.ofInt n).isSafeInteger = decide (n ≤ JsNumber.maxSafeInteger) := by
    unfold JsNumber.ofInt JsNumber.isSafeInteger
    rfl
  unfold Ts.boundedInteger
  dsimp only
  rw [hsafe, JsNumber.toInt_ofInt]
  by_cases h : low ≤ n ∧ n ≤ high
  · rw [if_pos h, if_pos]
    · rfl
    · simp only [Bool.and_eq_true, decide_eq_true_eq, Nat.cast_le]
      omega
  · rw [if_neg h, if_neg]
    simp only [Bool.and_eq_true, decide_eq_true_eq, Nat.cast_le]
    omega

theorem validateClock_spec (nowMs : Nat) :
    (RenewalTs.validateClock (.ofInt nowMs)).mapError (·.reason) =
      outcome [(clockFault nowMs, .deadlineOverflow)] nowMs := by
  unfold RenewalTs.validateClock RenewalTs.isSafeMillisecond outcome clockFault
  rw [boundedInteger_ofInt nowMs (by decide)]
  by_cases h : maxRenewalClockMs < nowMs
  · rw [if_neg (by omega), decide_eq_true h]
    rfl
  · rw [if_pos (by omega), decide_eq_false h]
    rfl

theorem validateAuthorityDeadline_spec (deadline : Nat) :
    (RenewalTs.validateAuthorityDeadline (.number (.ofInt deadline))).mapError (·.reason) =
      outcome [(zeroDeadline (some deadline) || farDeadline (some deadline), .deadlineInvalid)]
        (some deadline) := by
  unfold RenewalTs.validateAuthorityDeadline RenewalTs.isPositiveSafeInteger
    RenewalTs.isSafeMillisecond outcome
  rw [boundedInteger_ofInt deadline (by decide), if_neg JsValue.noConfusion]
  by_cases hfar : maxRenewalClockMs < deadline
  · have hfault : farDeadline (some deadline) = true := decide_eq_true hfar
    rw [if_neg (by omega), hfault, Bool.or_true]
    rfl
  have hnear : farDeadline (some deadline) = false := decide_eq_false hfar
  rw [if_pos (by omega), hnear, Bool.or_false]
  cases deadline with
  | zero => rfl
  | succ deadline => rfl

/-- The own data properties of a grant, read back. -/
def fields (g : LeaseGrant) : List (JsString × JsValue) :=
  [(js "key", .string (js g.key.text)), (js "holder", .string (js g.holder)),
    (js "fencingToken", .bigint g.fencingToken), (js "ttlMs", .number (.ofInt g.ttlMs))] ++
    g.leaseExpiresMs.toList.map fun deadline => (js "leaseExpiresMs", .number (.ofInt deadline))

theorem snapshotGrant_eq (g : LeaseGrant) :
    RenewalTs.snapshotGrant (grant g) = RenewalTs.snapshotFields (fields g) := by
  unfold grant fields
  cases g.leaseExpiresMs with
  | none => rfl
  | some deadline => rfl

theorem lookup_leaseExpiresMs (g : LeaseGrant) :
    RenewalTs.lookup (fields g) "leaseExpiresMs" =
      g.leaseExpiresMs.map fun deadline => .number (.ofInt deadline) := by
  unfold fields
  cases g.leaseExpiresMs with
  | none => rfl
  | some deadline => rfl

theorem lockKey_string (key : JsString) :
    Ts.lockKey (.string key) = none ∨ Ts.lockKey (.string key) = some key := by
  unfold Ts.lockKey
  dsimp only
  split
  · exact Or.inl rfl
  · exact Or.inr rfl

theorem js_isEmpty (s : String) : (js s).isEmpty = decide (s = "") := by
  rw [Bool.eq_iff_iff, List.isEmpty_iff, decide_eq_true_eq, ← Ts.js_injective.eq_iff]
  rfl

/-- The checks of the deadline of a snapshot. -/
theorem deadline_spec (g : LeaseGrant) :
    RenewalTs.lookup (fields g) "leaseExpiresMs" ≠ some .undefined ∧
    (RenewalTs.validateAuthorityDeadline
        ((RenewalTs.lookup (fields g) "leaseExpiresMs").getD .undefined)).mapError (·.reason) =
      outcome [(zeroDeadline g.leaseExpiresMs || farDeadline g.leaseExpiresMs, .deadlineInvalid)]
        g.leaseExpiresMs := by
  rw [lookup_leaseExpiresMs]
  cases g.leaseExpiresMs with
  | none => exact ⟨by simp, rfl⟩
  | some deadline =>
    refine ⟨?_, validateAuthorityDeadline_spec deadline⟩
    rw [Option.map_some, Ne, Option.some_inj]
    exact JsValue.noConfusion

theorem snapshot_spec (g : LeaseGrant) (htoken : g.fencingToken ≤ Ts.maxFencingToken) :
    (RenewalTs.snapshotGrant (grant g)).mapError (·.reason) =
      outcome (snapshotChecks g) (snapshot g) := by
  rw [snapshotGrant_eq]
  unfold RenewalTs.snapshotFields
  have hkey : RenewalTs.lookup (fields g) "key" = some (.string (js g.key.text)) := rfl
  have hholder : RenewalTs.lookup (fields g) "holder" = some (.string (js g.holder)) := rfl
  have hbigint : RenewalTs.lookup (fields g) "fencingToken" = some (.bigint g.fencingToken) := rfl
  have httl : RenewalTs.lookup (fields g) "ttlMs" = some (.number (.ofInt g.ttlMs)) := rfl
  obtain ⟨hset, hdeadline⟩ := deadline_spec g
  change _ = outcome ([(unadmitted g, _)] ++ ([(ttlFault g.ttlMs, _)] ++ [_])) _
  simp only [hkey, hholder, hbigint, httl, Option.getD_some]
  rcases lockKey_string (js g.key.text) with hlock | hlock
  · have hfault : unadmitted g = true := decide_eq_true (Or.inl hlock)
    simp only [hlock, hfault]
    rfl
  by_cases hempty : g.holder = ""
  · have hfault : unadmitted g = true := decide_eq_true (Or.inr hempty)
    simp only [hlock, js_isEmpty, decide_eq_true hempty, if_true, hfault]
    rfl
  have hadmitted : unadmitted g = false := by
    apply decide_eq_false
    rw [hlock]
    simp [hempty]
  have hrange : ¬ ((g.fencingToken : Int) < 0 ∨
      (Ts.maxFencingToken : Int) < (g.fencingToken : Int)) := by omega
  rw [hadmitted, outcome_passed (firstFailure_passed _ _)]
  simp only [hlock, js_isEmpty, decide_eq_false hempty, Bool.false_eq_true, if_false, hrange,
    boundedInteger_ofInt g.ttlMs (by decide : maxRenewalTtlMs ≤ JsNumber.maxSafeInteger)]
  by_cases hbad : g.ttlMs = 0 ∨ maxRenewalTtlMs < g.ttlMs
  · have hfault : ttlFault g.ttlMs = true := decide_eq_true hbad
    rw [hfault, if_neg (by omega)]
    rfl
  have hgood : ttlFault g.ttlMs = false := decide_eq_false hbad
  rw [hgood, outcome_passed (firstFailure_passed _ _), if_pos (by omega)]
  simp only [hset, if_false]
  rcases cases_of_outcome hdeadline with ⟨error, herror, hfirst⟩ | ⟨hok, hfirst⟩
  · rw [herror]
    unfold outcome
    rw [hfirst]
    rfl
  · rw [hok]
    unfold outcome
    rw [hfirst]
    rfl

theorem isPositiveSafeInteger_ofInt {ms : Nat} (h : ms ≤ maxRenewalTtlMs) :
    RenewalTs.isPositiveSafeInteger (.number (.ofInt ms)) = if ms = 0 then none else some ms := by
  unfold RenewalTs.isPositiveSafeInteger RenewalTs.isSafeMillisecond
  have hmax : ms ≤ maxRenewalClockMs := by
    unfold maxRenewalTtlMs at h
    unfold maxRenewalClockMs
    omega
  rw [boundedInteger_ofInt ms (by decide), if_pos (by omega)]
  cases ms with
  | zero => rfl
  | succ ms => rfl

theorem policy_spec (p : Policy) :
    (RenewalTs.snapshotPolicy (policy p)).mapError (·.reason) =
      outcome [(zeroPolicy p, .invalidPolicy)] ⟨p.renewEveryMs, p.safetyMarginMs⟩ := by
  have hread : RenewalTs.closedOwnDataProperties (policy p) RenewalTs.policyFields
      ["renewEveryMs", "safetyMarginMs"] .invalidPolicy "renewal policy" =
        .ok [(js "renewEveryMs", .number (.ofInt p.renewEveryMs)),
          (js "safetyMarginMs", .number (.ofInt p.safetyMarginMs))] := rfl
  have hevery : RenewalTs.lookup [(js "renewEveryMs", .number (.ofInt p.renewEveryMs)),
      (js "safetyMarginMs", .number (.ofInt p.safetyMarginMs))] "renewEveryMs" =
        some (.number (.ofInt p.renewEveryMs)) := rfl
  have hmargin : RenewalTs.lookup [(js "renewEveryMs", .number (.ofInt p.renewEveryMs)),
      (js "safetyMarginMs", .number (.ofInt p.safetyMarginMs))] "safetyMarginMs" =
        some (.number (.ofInt p.safetyMarginMs)) := rfl
  unfold RenewalTs.snapshotPolicy
  simp only [hread, hevery, hmargin, Option.getD_some, isPositiveSafeInteger_ofInt p.renewEvery_le,
    isPositiveSafeInteger_ofInt p.safetyMargin_le]
  unfold outcome zeroPolicy
  by_cases h₁ : p.renewEveryMs = 0
  · rw [if_pos h₁, decide_eq_true (Or.inl h₁)]
    rfl
  by_cases h₂ : p.safetyMarginMs = 0
  · rw [if_neg h₁, if_pos h₂, decide_eq_true (Or.inr h₂)]
    rfl
  rw [if_neg h₁, if_neg h₂, decide_eq_false (by omega)]
  rfl

theorem new_spec (g : LeaseGrant) (p : Policy) (nowMs : Nat)
    (htoken : g.fencingToken ≤ Ts.maxFencingToken) :
    (new g p nowMs).mapError (·.reason) =
      outcome (newChecks g p nowMs) (supervisor (.start g p nowMs)) := by
  unfold new RenewalTs.LeaseRenewalSupervisor.new
  change _ = outcome (snapshotChecks g ++ ([(zeroPolicy p, _)] ++ ([(clockFault nowMs, _)] ++
    scheduleChecks nowMs g.ttlMs p))) _
  rcases cases_of_outcome (snapshot_spec g htoken) with ⟨error, herror, hfirst⟩ | ⟨hok, hfirst⟩
  · rw [herror, outcome_failed hfirst]
    rfl
  rw [hok, outcome_passed hfirst]
  rcases cases_of_outcome (policy_spec p) with ⟨error, herror, hfirst⟩ | ⟨hok, hfirst⟩
  · rw [herror, outcome_failed hfirst]
    rfl
  rw [hok, outcome_passed hfirst]
  rcases cases_of_outcome (validateClock_spec nowMs) with ⟨error, herror, hfirst⟩ | ⟨hok, hfirst⟩
  · rw [herror, outcome_failed hfirst]
    rfl
  rw [hok, outcome_passed hfirst]
  have hclock := clock_of_passed hfirst
  rcases cases_of_outcome (schedule_spec nowMs g.ttlMs p hclock) with
    ⟨error, herror, hfirst⟩ | ⟨hok, hfirst⟩
  · simp only [snapshot, herror]
    unfold outcome
    rw [hfirst]
    rfl
  · simp only [snapshot, hok]
    unfold outcome
    rw [hfirst]
    rfl

theorem decision_spec (w : Window) (nowMs : Nat) :
    Follows (decisionChecks w nowMs) (w.next (.decision nowMs)) supervisor loss
      (call (supervisor w) (.decision nowMs)) := by
  change Follows ([(clockFault nowMs, _)] ++ [_, _]) _ _ _ _
  rcases cases_of_outcome (validateClock_spec nowMs) with ⟨error, herror, hfirst⟩ | ⟨hok, hfirst⟩
  · simp only [call, RenewalTs.LeaseRenewalSupervisor.decide, supervisor, herror]
    exact .failed hfirst rfl rfl
  refine .passed hfirst (.check ?_ fun hregressed => .check ?_ fun hexpired => ?_)
  · intro hregressed
    simp only [call, RenewalTs.LeaseRenewalSupervisor.decide, supervisor, hok, hregressed, if_true]
    exact ⟨rfl, rfl⟩
  · intro hexpired
    simp only [call, RenewalTs.LeaseRenewalSupervisor.decide, supervisor, hok, hregressed, if_false,
      hexpired, if_true]
    exact ⟨rfl, rfl⟩
  simp only [call, RenewalTs.LeaseRenewalSupervisor.decide, supervisor, hok, hregressed, if_false,
    hexpired, Follows, firstFailure_nil, Window.next]
  by_cases hdue : w.nextRenewalMs ≤ nowMs
  · simp only [hdue, if_true]
  · have hcheckIn : ((w.nextRenewalMs - nowMs : Nat) : Int) = (w.nextRenewalMs : Int) - nowMs := by
      omega
    simp only [hdue, if_false, hcheckIn]

theorem identity_iff (g g' : LeaseGrant) :
    ((snapshot g).key ≠ (snapshot g').key ∨ (snapshot g).holder ≠ (snapshot g').holder) ↔
      (g.key ≠ g'.key ∨ g.holder ≠ g'.holder) := by
  simp only [snapshot, ne_eq, Ts.js_injective.eq_iff, LockKey.text_inj]

theorem validateDeadlineProgress_spec (previous : Option Nat) {renewed : Option Nat}
    (hvalid : (zeroDeadline renewed || farDeadline renewed) = false) :
    (RenewalTs.validateDeadlineProgress previous renewed).mapError (·.reason) =
      outcome (progressChecks previous renewed) () := by
  have hagain : (renewed.any fun deadline =>
      decide (deadline = 0) || decide (maxRenewalClockMs < deadline)) = false := by
    cases renewed with
    | none => rfl
    | some value =>
      rw [← hvalid, zeroDeadline, farDeadline, Option.any_some, Option.any_some]
      simp
  unfold RenewalTs.validateDeadlineProgress progressChecks outcome
  rw [hagain]
  cases previous with
  | none => rfl
  | some previous =>
    cases renewed with
    | none => rfl
    | some next =>
      simp only [Bool.false_eq_true, if_false]
      by_cases h : next ≤ previous
      · have hregressed : regressedDeadline (some previous) (some next) = true := decide_eq_true h
        simp only [h, if_true, hregressed]
        rfl
      · have hregressed : regressedDeadline (some previous) (some next) = false :=
          decide_eq_false h
        simp only [h, if_false, hregressed]
        rfl

theorem acceptRenewal_spec (w : Window) (completedMs : Nat) (renewed : LeaseGrant)
    (hbound : renewed.fencingToken ≤ Ts.maxFencingToken) :
    Follows (checks w (.acceptRenewal completedMs renewed))
      (w.next (.acceptRenewal completedMs renewed)) supervisor loss
      (call (supervisor w) (.acceptRenewal completedMs renewed)) := by
  change Follows ([(clockFault completedMs, _)] ++ (snapshotChecks renewed ++ _ :: _ :: _ :: _ ::
    (progressChecks w.grant.leaseExpiresMs renewed.leaseExpiresMs ++
      scheduleChecks completedMs renewed.ttlMs w.policy))) _ _ _ _
  rcases cases_of_outcome (validateClock_spec completedMs) with
    ⟨error, herror, hfirst⟩ | ⟨hok, hfirst⟩
  · simp only [call, RenewalTs.LeaseRenewalSupervisor.acceptRenewal, supervisor, herror]
    exact .failed hfirst rfl rfl
  have hclock := clock_of_passed hfirst
  apply Follows.passed hfirst
  rcases cases_of_outcome (snapshot_spec renewed hbound) with
    ⟨error, herror, hsnapshot⟩ | ⟨hread, hsnapshot⟩
  · simp only [call, RenewalTs.LeaseRenewalSupervisor.acceptRenewal, supervisor, hok, herror]
    exact .failed hsnapshot rfl rfl
  have hdeadline : (zeroDeadline renewed.leaseExpiresMs || farDeadline renewed.leaseExpiresMs) =
      false := by
    have hmem : (zeroDeadline renewed.leaseExpiresMs || farDeadline renewed.leaseExpiresMs,
        RenewalLossReason.deadlineInvalid) ∈ snapshotChecks renewed := by simp [snapshotChecks]
    exact (firstFailure_eq_none_iff _).mp hsnapshot _ hmem
  refine .passed hsnapshot (.check ?_ fun hregressed => .check ?_ fun hcompleted => .check ?_
    fun hidentity => .check ?_ fun htoken => ?_)
  · intro hregressed
    simp only [call, RenewalTs.LeaseRenewalSupervisor.acceptRenewal, supervisor, hok, hread,
      hregressed, if_true]
    exact ⟨rfl, rfl⟩
  · intro hcompleted
    simp only [call, RenewalTs.LeaseRenewalSupervisor.acceptRenewal, supervisor, hok, hread,
      hregressed, if_false, hcompleted, if_true]
    exact ⟨rfl, rfl⟩
  · intro hidentity
    simp only [call, RenewalTs.LeaseRenewalSupervisor.acceptRenewal, supervisor, hok, hread,
      hregressed, if_false, hcompleted, identity_iff, hidentity, if_true]
    exact ⟨rfl, rfl⟩
  · intro htoken
    have htoken' : ((snapshot renewed).fencingToken ≠ (snapshot w.grant).fencingToken) = True :=
      eq_true htoken
    simp only [call, RenewalTs.LeaseRenewalSupervisor.acceptRenewal, supervisor, hok, hread,
      hregressed, if_false, hcompleted, identity_iff, hidentity, htoken', if_true]
    exact ⟨rfl, rfl⟩
  have htoken' : ((snapshot renewed).fencingToken ≠ (snapshot w.grant).fencingToken) = False :=
    eq_false htoken
  simp only [call, RenewalTs.LeaseRenewalSupervisor.acceptRenewal, supervisor, hok, hread,
    hregressed, if_false, hcompleted, identity_iff, hidentity, htoken']
  rcases cases_of_outcome (validateDeadlineProgress_spec w.grant.leaseExpiresMs hdeadline) with
    ⟨error, herror, hprogress⟩ | ⟨hok', hprogress⟩
  · simp only [snapshot, herror]
    exact .failed hprogress rfl rfl
  simp only [snapshot, hok']
  apply Follows.passed hprogress
  rcases cases_of_outcome (schedule_spec completedMs renewed.ttlMs w.policy hclock) with
    ⟨error, herror, hschedule⟩ | ⟨hok'', hschedule⟩
  · rw [herror]
    unfold Follows
    rw [hschedule]
    exact ⟨rfl, rfl⟩
  · rw [hok'']
    have hlive := scheduledRenewal_gt hschedule
    have hcheckIn : ((scheduledRenewal completedMs renewed.ttlMs w.policy - completedMs : Nat) : Int) =
        (scheduledRenewal completedMs renewed.ttlMs w.policy : Int) - completedMs := by omega
    unfold Follows
    rw [hschedule]
    simp only [Window.next, Window.start, hcheckIn]
    rfl

theorem call_lost {s : RenewalTs.LeaseRenewalSupervisor} {reason : RenewalLossReason}
    (h : loss s = some reason) (c : Call) : call s c = (.lost reason, s) := by
  obtain ⟨error, herror, rfl⟩ := Option.map_eq_some_iff.mp h
  cases c with
  | decision nowMs => simp only [call, RenewalTs.LeaseRenewalSupervisor.decide, herror]
  | acceptRenewal completedMs renewed =>
    simp only [call, RenewalTs.LeaseRenewalSupervisor.acceptRenewal, herror]

def runtime : Runtime where
  State := RenewalTs.LeaseRenewalSupervisor
  supervisor := supervisor
  loss := loss
  call := call
  checks := checks
  follows := by
    intro w c hc
    cases c with
    | decision nowMs => exact decision_spec w nowMs
    | acceptRenewal completedMs renewed => exact acceptRenewal_spec w completedMs renewed hc
  sticky := fun _ _ c h => call_lost h c

end TypeScript

end OresLocks.RenewalWindow
