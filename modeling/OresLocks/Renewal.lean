import OresLocks.Lease
import OresLocks.Shared.Runs

/-!
# The renewal supervisor of the Rust crate

The supervisor is explicit state; each entry point returns its answer and the next
state. `checkpoint` also says which renewal it sent, if any: the clock is read once
before that and once after the answer.
-/

namespace OresLocks.Renewal

set_option autoImplicit false

def maxRenewalClockMs : Nat := 9007199254740991

def maxRenewalTtlMs : Nat := 9223372036854

structure RenewalPolicy where
  renewEvery : Duration
  safetyMargin : Duration
  deriving DecidableEq

inductive RenewalLossReason where
  | invalidPolicy
  | clockRegression
  | expired
  | renewalFailed
  | identityChanged
  | tokenChanged
  | deadlineMissing
  | deadlineInvalid
  | deadlineRegressed
  | completionAfterDeadline
  | deadlineOverflow
  | invalidTtl
  deriving DecidableEq, Repr

structure RenewalError where
  reason : RenewalLossReason
  message : String
  cause : Option LockError
  deriving DecidableEq

def RenewalError.new (reason : RenewalLossReason) (message : String) : RenewalError :=
  ⟨reason, message, none⟩

def RenewalError.causedBy (reason : RenewalLossReason) (message : String) (cause : LockError) :
    RenewalError :=
  ⟨reason, message, some cause⟩

inductive RenewalDecision where
  | wait (checkInMs : Nat)
  | renewNow
  | lost (reason : RenewalLossReason)
  deriving DecidableEq

inductive RenewalCheckpoint where
  | wait (checkInMs : Nat)
  | renewed (checkInMs : Nat)
  deriving DecidableEq

def validateClock (nowMs : Nat) : Except RenewalError Unit :=
  if nowMs ≤ maxRenewalClockMs then .ok ()
  else .error (.new .deadlineOverflow
    ("logical clock " ++ toString nowMs ++ " exceeds " ++ toString maxRenewalClockMs))

def validateAuthorityDeadline (deadline : Option Nat) : Except RenewalError Unit :=
  match deadline with
  | some 0 => .error (.new .deadlineInvalid "authority deadline must be positive when present")
  | some value =>
    if maxRenewalClockMs < value then
      .error (.new .deadlineOverflow
        ("authority deadline " ++ toString value ++ " exceeds " ++ toString maxRenewalClockMs))
    else .ok ()
  | none => .ok ()

def validateDeadlineProgress (previous renewed : Option Nat) : Except RenewalError Unit :=
  match validateAuthorityDeadline renewed with
  | .error error => .error error
  | .ok () =>
    match previous, renewed with
    | some _, none => .error (.new .deadlineMissing
        "renewal omitted a deadline that the authority previously reported")
    | some previous, some next =>
      if next ≤ previous then .error (.new .deadlineRegressed
        ("authority deadline did not advance: " ++ toString previous ++ " -> " ++ toString next))
      else .ok ()
    | none, _ => .ok ()

/-- The local deadline and the next renewal time. -/
def schedule (nowMs ttlMs : Nat) (policy : RenewalPolicy) : Except RenewalError (Nat × Nat) :=
  if ttlMs = 0 ∨ maxRenewalTtlMs < ttlMs then
    .error (.new .invalidTtl
      ("lease TTL must be within 1..=" ++ toString maxRenewalTtlMs ++ " ms"))
  else
    let renewEveryMs := durationMs policy.renewEvery
    let safetyMarginMs := durationMs policy.safetyMargin
    if renewEveryMs = 0 ∨ safetyMarginMs = 0 ∨ ttlMs ≤ renewEveryMs ∨ ttlMs ≤ safetyMarginMs then
      .error (.new .invalidPolicy
        "renewal interval and safety margin must both be positive and less than the lease TTL")
    else
      match (checkedAdd nowMs ttlMs).filter (· ≤ maxRenewalClockMs) with
      | none => .error (.new .deadlineOverflow
          "local lease deadline exceeds the shared logical-clock domain")
      | some deadlineMs =>
        match checkedAdd nowMs renewEveryMs with
        | none => .error (.new .deadlineOverflow "renewal interval overflowed the logical clock")
        | some intervalDue =>
          let nextRenewalMs := min intervalDue (deadlineMs - safetyMarginMs)
          if nextRenewalMs ≤ nowMs then
            .error (.new .invalidPolicy "renewal policy leaves no positive live interval")
          else .ok (deadlineMs, nextRenewalMs)

structure RenewalSupervisor where
  grant : LeaseGrant
  policy : RenewalPolicy
  localDeadlineMs : Nat
  nextRenewalMs : Nat
  lastObservedMs : Nat
  loss : Option RenewalError
  deriving DecidableEq

namespace RenewalSupervisor

def new (grant : LeaseGrant) (policy : RenewalPolicy) (nowMs : Nat) :
    Except RenewalError RenewalSupervisor :=
  match validateClock nowMs with
  | .error error => .error error
  | .ok () =>
    match validateAuthorityDeadline grant.leaseExpiresMs with
    | .error error => .error error
    | .ok () =>
      match schedule nowMs grant.ttlMs policy with
      | .error error => .error error
      | .ok (localDeadlineMs, nextRenewalMs) =>
        .ok ⟨grant, policy, localDeadlineMs, nextRenewalMs, nowMs, none⟩

/-- The first loss stays. -/
def record (s : RenewalSupervisor) (error : RenewalError) : RenewalError × RenewalSupervisor :=
  match s.loss with
  | some loss => (loss, s)
  | none => (error, { s with loss := some error })

def lose (s : RenewalSupervisor) (error : RenewalError) : RenewalDecision × RenewalSupervisor :=
  let (loss, s) := s.record error
  (.lost loss.reason, s)

def decision (s : RenewalSupervisor) (nowMs : Nat) : RenewalDecision × RenewalSupervisor :=
  match s.loss with
  | some loss => (.lost loss.reason, s)
  | none =>
    match validateClock nowMs with
    | .error error => s.lose error
    | .ok () =>
      if nowMs < s.lastObservedMs then
        s.lose (.new .clockRegression ("monotonic clock regressed from " ++
          toString s.lastObservedMs ++ " to " ++ toString nowMs))
      else
        let s := { s with lastObservedMs := nowMs }
        if s.localDeadlineMs ≤ nowMs then
          s.lose (.new .expired ("local lease deadline " ++ toString s.localDeadlineMs ++
            " was reached at " ++ toString nowMs))
        else if s.nextRenewalMs ≤ nowMs then (.renewNow, s)
        else (.wait (s.nextRenewalMs - nowMs), s)

/-- A lost decision without a recorded loss would be a panic of the crate. -/
def assertLive (s : RenewalSupervisor) (nowMs : Nat) :
    Option (Except RenewalError Unit) × RenewalSupervisor :=
  match s.decision nowMs with
  | (.lost _, s) => (s.loss.map .error, s)
  | (_, s) => (some (.ok ()), s)

def fail (s : RenewalSupervisor) (error : RenewalError) :
    Except RenewalError RenewalCheckpoint × RenewalSupervisor :=
  let (loss, s) := s.record error
  (.error loss, s)

def acceptRenewal (s : RenewalSupervisor) (completedMs : Nat) (renewed : LeaseGrant) :
    Except RenewalError RenewalCheckpoint × RenewalSupervisor :=
  match s.loss with
  | some loss => (.error loss, s)
  | none =>
    match validateClock completedMs with
    | .error error => s.fail error
    | .ok () =>
      if completedMs < s.lastObservedMs then
        s.fail (.new .clockRegression ("monotonic clock regressed from " ++
          toString s.lastObservedMs ++ " to " ++ toString completedMs ++ " during renewal"))
      else
        let s := { s with lastObservedMs := completedMs }
        if s.localDeadlineMs ≤ completedMs then
          s.fail (.new .completionAfterDeadline ("renewal completed at " ++ toString completedMs ++
            ", not before local deadline " ++ toString s.localDeadlineMs))
        else if renewed.key ≠ s.grant.key ∨ renewed.holder ≠ s.grant.holder then
          s.fail (.new .identityChanged "renewal changed the lock key or holder identity")
        else if renewed.fencingToken ≠ s.grant.fencingToken then
          s.fail (.new .tokenChanged ("renewal changed fencing token " ++
            toString s.grant.fencingToken ++ " to " ++ toString renewed.fencingToken))
        else
          match validateDeadlineProgress s.grant.leaseExpiresMs renewed.leaseExpiresMs with
          | .error error => s.fail error
          | .ok () =>
            match schedule completedMs renewed.ttlMs s.policy with
            | .error error => s.fail error
            | .ok (localDeadlineMs, nextRenewalMs) =>
              (.ok (.renewed (nextRenewalMs - completedMs)),
                { s with grant := renewed, localDeadlineMs, nextRenewalMs })

/-- The renewal sent to the adapter: the grant and the requested duration. -/
abbrev Sent := LeaseGrant × Duration

def checkpoint (s : RenewalSupervisor) (nowMs : Nat) (response : Except LockError LeaseGrant)
    (completedMs : Nat) :
    Option (Except RenewalError RenewalCheckpoint) × Option Sent × RenewalSupervisor :=
  match s.decision nowMs with
  | (.wait checkInMs, s) => (some (.ok (.wait checkInMs)), none, s)
  | (.lost _, s) => (s.loss.map .error, none, s)
  | (.renewNow, s) =>
    let sent := (s.grant, s.grant.ttlMs * 1000000)
    match response with
    | .error cause =>
      let (_, s) := s.lose (.causedBy .renewalFailed
        "lease authority did not prove continued ownership" cause)
      (s.loss.map .error, some sent, s)
    | .ok renewed =>
      let (answer, s) := s.acceptRenewal completedMs renewed
      (some answer, some sent, s)

end RenewalSupervisor

/-- One finished call with its clock readings and its answer. -/
inductive Call where
  | decision (nowMs : Nat) (answer : RenewalDecision)
  | assertLive (nowMs : Nat) (answer : Option (Except RenewalError Unit))
  | acceptRenewal (completedMs : Nat) (renewed : LeaseGrant)
      (answer : Except RenewalError RenewalCheckpoint)
  | checkpoint (nowMs : Nat) (response : Except LockError LeaseGrant) (completedMs : Nat)
      (sent : Option RenewalSupervisor.Sent)
      (answer : Option (Except RenewalError RenewalCheckpoint))

inductive Step (s : RenewalSupervisor) : Call → RenewalSupervisor → Prop where
  | decision (nowMs : Nat) :
      Step s (.decision nowMs (s.decision nowMs).1) (s.decision nowMs).2
  | assertLive (nowMs : Nat) :
      Step s (.assertLive nowMs (s.assertLive nowMs).1) (s.assertLive nowMs).2
  | acceptRenewal (completedMs : Nat) (renewed : LeaseGrant) :
      Step s (.acceptRenewal completedMs renewed (s.acceptRenewal completedMs renewed).1)
        (s.acceptRenewal completedMs renewed).2
  | checkpoint (nowMs : Nat) (response : Except LockError LeaseGrant) (completedMs : Nat) :
      Step s (.checkpoint nowMs response completedMs (s.checkpoint nowMs response completedMs).2.1
        (s.checkpoint nowMs response completedMs).1) (s.checkpoint nowMs response completedMs).2.2

end OresLocks.Renewal
