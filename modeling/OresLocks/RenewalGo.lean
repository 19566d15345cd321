import OresLocks.Renewal

/-!
# The renewal supervisor of the Go package

Signed 64-bit numbers are integers: every sum is taken after the checks that keep it
far below the limit. A deadline of zero is an absent one. A `time.Duration` counts
nanoseconds and `Milliseconds` truncates toward zero.
-/

namespace OresLocks.RenewalGo

set_option autoImplicit false

open Renewal (RenewalLossReason)

def maxRenewalClockMs : Int := 9007199254740991

def maxRenewalTtlMs : Int := 9223372036854

structure LeaseGrant where
  key : String
  holder : String
  fencingToken : Nat
  leaseExpiresMs : Int
  ttlMs : Int
  deriving DecidableEq

structure RenewalPolicy where
  renewEvery : Int
  safetyMargin : Int
  deriving DecidableEq

structure RenewalError where
  reason : RenewalLossReason
  message : String
  deriving DecidableEq

inductive RenewalDecision where
  | wait (checkInMs : Int)
  | renewNow
  | lost (reason : RenewalLossReason)
  deriving DecidableEq

inductive RenewalCheckpoint where
  | wait (checkInMs : Int)
  | renewed (checkInMs : Int)
  deriving DecidableEq

def milliseconds (duration : Int) : Int := duration.tdiv 1000000

def validateRenewalClock (value : Int) : Except RenewalError Unit :=
  if value < 0 ∨ maxRenewalClockMs < value then
    .error ⟨.deadlineOverflow, "logical clock must be within 0..=" ++ toString maxRenewalClockMs⟩
  else .ok ()

def validateAuthorityDeadline (value : Int) : Except RenewalError Unit :=
  if value < 0 ∨ maxRenewalClockMs < value then
    .error ⟨.deadlineInvalid, "authority deadline is outside the shared millisecond domain"⟩
  else .ok ()

def validateDeadlineProgress (previous renewed : Int) : Except RenewalError Unit :=
  match validateAuthorityDeadline renewed with
  | .error error => .error error
  | .ok () =>
    if 0 < previous ∧ renewed = 0 then
      .error ⟨.deadlineMissing,
        "renewal omitted a deadline that the authority previously reported"⟩
    else if 0 < previous ∧ renewed ≤ previous then
      .error ⟨.deadlineRegressed, "authority deadline did not advance: " ++ toString previous ++
        " -> " ++ toString renewed⟩
    else .ok ()

/-- The local deadline and the next renewal time. -/
def renewalSchedule (nowMs ttlMs : Int) (policy : RenewalPolicy) :
    Except RenewalError (Int × Int) :=
  if ttlMs ≤ 0 ∨ maxRenewalTtlMs < ttlMs then
    .error ⟨.invalidTtl, "lease TTL must be within 1..=" ++ toString maxRenewalTtlMs ++ " ms"⟩
  else
    let renewEveryMs := milliseconds policy.renewEvery
    let safetyMarginMs := milliseconds policy.safetyMargin
    if renewEveryMs ≤ 0 ∨ safetyMarginMs ≤ 0 ∨ ttlMs ≤ renewEveryMs ∨ ttlMs ≤ safetyMarginMs then
      .error ⟨.invalidPolicy,
        "renewal interval and safety margin must both be positive and less than the lease TTL"⟩
    else if maxRenewalClockMs - ttlMs < nowMs ∨ maxRenewalClockMs - renewEveryMs < nowMs then
      .error ⟨.deadlineOverflow, "renewal schedule exceeds the shared logical-clock domain"⟩
    else
      let deadline := nowMs + ttlMs
      let intervalDue := nowMs + renewEveryMs
      let marginDue := deadline - safetyMarginMs
      let next := if marginDue < intervalDue then marginDue else intervalDue
      if next ≤ nowMs then
        .error ⟨.invalidPolicy, "renewal policy leaves no positive live interval"⟩
      else .ok (deadline, next)

structure RenewalSupervisor where
  grant : LeaseGrant
  policy : RenewalPolicy
  localDeadlineMs : Int
  nextRenewalMs : Int
  lastObservedMs : Int
  loss : Option RenewalError
  deriving DecidableEq

namespace RenewalSupervisor

def new (grant : LeaseGrant) (policy : RenewalPolicy) (nowMs : Int) :
    Except RenewalError RenewalSupervisor :=
  match validateRenewalClock nowMs with
  | .error error => .error error
  | .ok () =>
    match validateAuthorityDeadline grant.leaseExpiresMs with
    | .error error => .error error
    | .ok () =>
      match renewalSchedule nowMs grant.ttlMs policy with
      | .error error => .error error
      | .ok (deadline, next) => .ok ⟨grant, policy, deadline, next, nowMs, none⟩

/-- The first loss stays. -/
def record (s : RenewalSupervisor) (error : RenewalError) : RenewalError × RenewalSupervisor :=
  match s.loss with
  | some loss => (loss, s)
  | none => (error, { s with loss := some error })

def lose (s : RenewalSupervisor) (error : RenewalError) : RenewalDecision × RenewalSupervisor :=
  let (loss, s) := s.record error
  (.lost loss.reason, s)

def fail (s : RenewalSupervisor) (error : RenewalError) :
    Except RenewalError RenewalCheckpoint × RenewalSupervisor :=
  let (loss, s) := s.record error
  (.error loss, s)

def decision (s : RenewalSupervisor) (nowMs : Int) : RenewalDecision × RenewalSupervisor :=
  match s.loss with
  | some loss => (.lost loss.reason, s)
  | none =>
    match validateRenewalClock nowMs with
    | .error error => s.lose error
    | .ok () =>
      if nowMs < s.lastObservedMs then
        s.lose ⟨.clockRegression, "monotonic clock regressed from " ++ toString s.lastObservedMs ++
          " to " ++ toString nowMs⟩
      else
        let s := { s with lastObservedMs := nowMs }
        if s.localDeadlineMs ≤ nowMs then
          s.lose ⟨.expired, "local lease deadline " ++ toString s.localDeadlineMs ++
            " was reached at " ++ toString nowMs⟩
        else if s.nextRenewalMs ≤ nowMs then (.renewNow, s)
        else (.wait (s.nextRenewalMs - nowMs), s)

def acceptRenewal (s : RenewalSupervisor) (completedMs : Int) (renewed : LeaseGrant) :
    Except RenewalError RenewalCheckpoint × RenewalSupervisor :=
  match s.loss with
  | some loss => (.error loss, s)
  | none =>
    match validateRenewalClock completedMs with
    | .error error => s.fail error
    | .ok () =>
      if completedMs < s.lastObservedMs then
        s.fail ⟨.clockRegression, "monotonic clock regressed from " ++ toString s.lastObservedMs ++
          " to " ++ toString completedMs ++ " during renewal"⟩
      else
        let s := { s with lastObservedMs := completedMs }
        if s.localDeadlineMs ≤ completedMs then
          s.fail ⟨.completionAfterDeadline, "renewal completed at " ++ toString completedMs ++
            ", not before local deadline " ++ toString s.localDeadlineMs⟩
        else if renewed.key ≠ s.grant.key ∨ renewed.holder ≠ s.grant.holder then
          s.fail ⟨.identityChanged, "renewal changed the lock key or holder identity"⟩
        else if renewed.fencingToken ≠ s.grant.fencingToken then
          s.fail ⟨.tokenChanged, "renewal changed fencing token " ++
            toString s.grant.fencingToken ++ " to " ++ toString renewed.fencingToken⟩
        else
          match validateDeadlineProgress s.grant.leaseExpiresMs renewed.leaseExpiresMs with
          | .error error => s.fail error
          | .ok () =>
            match renewalSchedule completedMs renewed.ttlMs s.policy with
            | .error error => s.fail error
            | .ok (deadline, next) =>
              (.ok (.renewed (next - completedMs)),
                { s with grant := renewed, localDeadlineMs := deadline, nextRenewalMs := next })

end RenewalSupervisor

end OresLocks.RenewalGo
