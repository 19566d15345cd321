import OresLocks.Renewal

/-!
# The renewal supervisor of the Gleam package

Integers are unbounded on the Erlang target. A supervisor keeps the reason of its loss
only, and each call returns the next supervisor.
-/

namespace OresLocks.RenewalGleam

set_option autoImplicit false

open Renewal (RenewalLossReason)

def maxRenewalClockMs : Int := 9007199254740991

def maxRenewalTtlMs : Int := 9223372036854

structure LeaseGrant where
  key : String
  holder : String
  fencingToken : Int
  leaseExpiresMs : Option Int
  ttlMs : Int
  deriving DecidableEq

structure RenewalPolicy where
  renewEveryMs : Int
  safetyMarginMs : Int
  deriving DecidableEq

inductive Decision where
  | wait (checkInMs : Int)
  | renewNow
  | lost (reason : RenewalLossReason)
  deriving DecidableEq

inductive Checkpoint where
  | checkpointWait (checkInMs : Int)
  | renewed (checkInMs : Int)
  deriving DecidableEq

structure Supervisor where
  grant : LeaseGrant
  policy : RenewalPolicy
  localDeadlineMs : Int
  nextRenewalMs : Int
  lastObservedMs : Int
  loss : Option RenewalLossReason
  deriving DecidableEq

def validClock (value : Int) : Bool := decide (0 ≤ value) && decide (value ≤ maxRenewalClockMs)

def validAuthorityDeadline : Option Int → Bool
  | none => true
  | some value => decide (0 < value) && decide (value ≤ maxRenewalClockMs)

def deadlineProgress (previous renewed : Option Int) : Except RenewalLossReason Unit :=
  if renewed.any fun value => decide (value ≤ 0) || decide (maxRenewalClockMs < value) then
    .error .deadlineInvalid
  else
    match previous, renewed with
    | some _, none => .error .deadlineMissing
    | some old, some next => if next ≤ old then .error .deadlineRegressed else .ok ()
    | none, _ => .ok ()

/-- The local deadline and the next renewal time. -/
def schedule (nowMs ttlMs : Int) (policy : RenewalPolicy) : Except RenewalLossReason (Int × Int) :=
  if !validClock nowMs then .error .deadlineOverflow
  else if ¬ (0 < ttlMs ∧ ttlMs ≤ maxRenewalTtlMs) then .error .invalidTtl
  else if ¬ (0 < policy.renewEveryMs ∧ policy.renewEveryMs < ttlMs) then .error .invalidPolicy
  else if ¬ (0 < policy.safetyMarginMs ∧ policy.safetyMarginMs < ttlMs) then .error .invalidPolicy
  else if ¬ nowMs ≤ maxRenewalClockMs - ttlMs then .error .deadlineOverflow
  else if ¬ nowMs ≤ maxRenewalClockMs - policy.renewEveryMs then .error .deadlineOverflow
  else
    let deadlineMs := nowMs + ttlMs
    let intervalDue := nowMs + policy.renewEveryMs
    let marginDue := deadlineMs - policy.safetyMarginMs
    let nextRenewalMs := if intervalDue < marginDue then intervalDue else marginDue
    if nowMs < nextRenewalMs then .ok (deadlineMs, nextRenewalMs) else .error .invalidPolicy

def new (grant : LeaseGrant) (policy : RenewalPolicy) (nowMs : Int) :
    Except RenewalLossReason Supervisor :=
  if !validClock nowMs then .error .deadlineOverflow
  else if !validAuthorityDeadline grant.leaseExpiresMs then .error .deadlineInvalid
  else
    match schedule nowMs grant.ttlMs policy with
    | .error reason => .error reason
    | .ok (deadlineMs, nextRenewalMs) =>
      .ok ⟨grant, policy, deadlineMs, nextRenewalMs, nowMs, none⟩

/-- The first loss stays. -/
def lose (s : Supervisor) (reason : RenewalLossReason) : Supervisor × Decision :=
  let recorded := s.loss.getD reason
  ({ s with loss := some recorded }, .lost recorded)

def fail (s : Supervisor) (reason : RenewalLossReason) :
    Supervisor × Except RenewalLossReason Checkpoint :=
  ((lose s reason).1, .error reason)

def decision (s : Supervisor) (nowMs : Int) : Supervisor × Decision :=
  match s.loss with
  | some reason => (s, .lost reason)
  | none =>
    if !validClock nowMs then lose s .deadlineOverflow
    else if nowMs < s.lastObservedMs then lose s .clockRegression
    else if s.localDeadlineMs ≤ nowMs then lose { s with lastObservedMs := nowMs } .expired
    else if s.nextRenewalMs ≤ nowMs then ({ s with lastObservedMs := nowMs }, .renewNow)
    else ({ s with lastObservedMs := nowMs }, .wait (s.nextRenewalMs - nowMs))

/-- The subjects of the `case` are evaluated before any clause is tried; none of them has
an effect. -/
def acceptRenewal (s : Supervisor) (completedMs : Int) (renewed : LeaseGrant) :
    Supervisor × Except RenewalLossReason Checkpoint :=
  match s.loss with
  | some reason => (s, .error reason)
  | none =>
    if !validClock completedMs then fail s .deadlineOverflow
    else if completedMs < s.lastObservedMs then fail s .clockRegression
    else if s.localDeadlineMs ≤ completedMs then fail s .completionAfterDeadline
    else if ¬ (renewed.key = s.grant.key ∧ renewed.holder = s.grant.holder) then
      fail s .identityChanged
    else if renewed.fencingToken ≠ s.grant.fencingToken then fail s .tokenChanged
    else
      match deadlineProgress s.grant.leaseExpiresMs renewed.leaseExpiresMs with
      | .error reason => fail s reason
      | .ok () =>
        match schedule completedMs renewed.ttlMs s.policy with
        | .error reason => fail s reason
        | .ok (deadlineMs, nextRenewalMs) =>
          ({ s with
              grant := renewed, localDeadlineMs := deadlineMs, nextRenewalMs,
              lastObservedMs := completedMs },
            .ok (.renewed (nextRenewalMs - completedMs)))

end OresLocks.RenewalGleam
