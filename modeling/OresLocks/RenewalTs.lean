import OresLocks.MaintainedTs

/-!
# The renewal supervisor of the TypeScript package

The grant and the policy arrive as arbitrary values and are snapshotted. A clock
reading is any number; one that passes `isSafeMillisecond` is a natural number. A sum
of two safe integers is rounded to a double when it exceeds the exact range.
-/

namespace OresLocks.RenewalTs

set_option autoImplicit false

open Renewal (RenewalLossReason maxRenewalClockMs maxRenewalTtlMs)
open Ts (js RawGrant Property lockKey boundedInteger maxFencingToken)

structure RenewalPolicy where
  renewEveryMs : Nat
  safetyMarginMs : Nat
  deriving DecidableEq

inductive RenewalDecision where
  | wait (checkInMs : Nat)
  | renewNow
  | lost (reason : RenewalLossReason)
  deriving DecidableEq

inductive RenewalCheckpoint where
  | wait (checkInMs : Nat)
  | renewed (checkInMs : Nat)
  deriving DecidableEq

/-- The message is the argument of the constructor, without the reason before it. -/
structure RenewalError where
  reason : RenewalLossReason
  message : String
  deriving DecidableEq

def grantFields : List JsString :=
  [js "key", js "holder", js "fencingToken", js "ttlMs", js "leaseExpiresMs"]

def policyFields : List JsString := [js "renewEveryMs", js "safetyMarginMs"]

/-- The loop over the own properties. -/
def dataProperties (allowed : List JsString) (reason : RenewalLossReason) (label : String) :
    List Property → Except RenewalError (List (JsString × JsValue))
  | [] => .ok []
  | property :: rest =>
    match property.name.filter allowed.contains with
    | none => .error ⟨reason, label ++ " contains an unknown own property"⟩
    | some name =>
      match property.value with
      | none => .error ⟨reason, label ++ " properties must be own data properties"⟩
      | some value =>
        match dataProperties allowed reason label rest with
        | .error error => .error error
        | .ok fields => .ok ((name, value) :: fields)

def lookup (fields : List (JsString × JsValue)) (name : String) : Option JsValue :=
  (fields.find? fun field => field.1 == js name).map Prod.snd

def closedOwnDataProperties (value : RawGrant) (allowed : List JsString) (required : List String)
    (reason : RenewalLossReason) (label : String) :
    Except RenewalError (List (JsString × JsValue)) :=
  match value with
  | .notObject => .error ⟨reason, label ++ " must be a non-array object"⟩
  | .uninspectable => .error ⟨reason, label ++ " properties could not be inspected"⟩
  | .object properties =>
    match dataProperties allowed reason label properties with
    | .error error => .error error
    | .ok fields =>
      match required.find? fun name => (lookup fields name).isNone with
      | some missing =>
        .error ⟨reason, label ++ " is missing required own property " ++ missing⟩
      | none => .ok fields

/-- The natural number of a value that passes `isSafeMillisecond`. -/
def isSafeMillisecond (value : JsValue) : Option Nat := boundedInteger value 0 maxRenewalClockMs

def isPositiveSafeInteger (value : JsValue) : Option Nat :=
  (isSafeMillisecond value).filter (0 < ·)

def validateClock (value : JsNumber) : Except RenewalError Nat :=
  match isSafeMillisecond (.number value) with
  | some nowMs => .ok nowMs
  | none => .error ⟨.deadlineOverflow,
      "logical clock must be an integer within 0..=" ++ toString maxRenewalClockMs⟩

/-- `undefined` is an absent deadline. -/
def validateAuthorityDeadline (value : JsValue) : Except RenewalError (Option Nat) :=
  if value = .undefined then .ok none
  else
    match isPositiveSafeInteger value with
    | some deadline => .ok (some deadline)
    | none => .error ⟨.deadlineInvalid,
        "authority deadline must be a positive safe integer when present"⟩

/-- The checks of the fields of a grant, in their order. -/
def snapshotFields (fields : List (JsString × JsValue)) : Except RenewalError Ts.LeaseGrant :=
  match lockKey ((lookup fields "key").getD .undefined) with
  | none => .error ⟨.identityChanged, "grant key must satisfy the lock-key contract"⟩
  | some key =>
    match (lookup fields "holder").getD .undefined with
    | .string holder =>
      if holder.isEmpty then
        .error ⟨.identityChanged, "grant holder must be a non-empty string"⟩
      else
        match (lookup fields "fencingToken").getD .undefined with
        | .bigint token =>
          if token < 0 ∨ (maxFencingToken : Int) < token then
            .error ⟨.tokenChanged, "fencing token must be an unsigned 64-bit bigint"⟩
          else
            match boundedInteger ((lookup fields "ttlMs").getD .undefined) 1 maxRenewalTtlMs with
            | none => .error ⟨.invalidTtl,
                "lease TTL must be within 1..=" ++ toString maxRenewalTtlMs ++ " ms"⟩
            | some ttlMs =>
              if lookup fields "leaseExpiresMs" = some .undefined then
                .error ⟨.deadlineInvalid,
                  "authority deadline must be omitted rather than explicitly undefined"⟩
              else
                match validateAuthorityDeadline
                    ((lookup fields "leaseExpiresMs").getD .undefined) with
                | .error error => .error error
                | .ok leaseExpiresMs => .ok ⟨key, holder, token.toNat, leaseExpiresMs, ttlMs⟩
        | _ => .error ⟨.tokenChanged, "fencing token must be an unsigned 64-bit bigint"⟩
    | _ => .error ⟨.identityChanged, "grant holder must be a non-empty string"⟩

def snapshotGrant (value : RawGrant) : Except RenewalError Ts.LeaseGrant :=
  match closedOwnDataProperties value grantFields ["key", "holder", "fencingToken", "ttlMs"]
      .identityChanged "lease grant" with
  | .error error => .error error
  | .ok fields => snapshotFields fields

def snapshotPolicy (value : RawGrant) : Except RenewalError RenewalPolicy :=
  match closedOwnDataProperties value policyFields ["renewEveryMs", "safetyMarginMs"]
      .invalidPolicy "renewal policy" with
  | .error error => .error error
  | .ok fields =>
    match isPositiveSafeInteger ((lookup fields "renewEveryMs").getD .undefined),
        isPositiveSafeInteger ((lookup fields "safetyMarginMs").getD .undefined) with
    | some renewEveryMs, some safetyMarginMs => .ok ⟨renewEveryMs, safetyMarginMs⟩
    | _, _ => .error ⟨.invalidPolicy,
        "renewal interval and safety margin must both be positive safe integers"⟩

/-- The deadline of a snapshot is checked once more. -/
def validateDeadlineProgress (previous renewed : Option Nat) : Except RenewalError Unit :=
  if renewed.any fun deadline => deadline = 0 || maxRenewalClockMs < deadline then
    .error ⟨.deadlineInvalid, "authority deadline must be a positive safe integer when present"⟩
  else
    match previous, renewed with
    | some _, none => .error ⟨.deadlineMissing,
        "renewal omitted a deadline that the authority previously reported"⟩
    | some previous, some next =>
      if next ≤ previous then .error ⟨.deadlineRegressed,
        "authority deadline did not advance: " ++ toString previous ++ " -> " ++ toString next⟩
      else .ok ()
    | none, _ => .ok ()

/-- The double sum of two safe integers: below 2^54 the doubles beyond 2^53 are the even
numbers, and a tie goes to the multiple of four. -/
def addDouble (a b : Nat) : Nat :=
  if a + b ≤ 2 ^ 53 then a + b
  else if (a + b) % 2 = 0 then a + b
  else if (a + b) % 4 = 1 then a + b - 1
  else a + b + 1

/-- The local deadline and the next renewal time, from values that are safe integers. -/
def makeSchedule (nowMs ttlMs : Nat) (policy : RenewalPolicy) : Except RenewalError (Nat × Nat) :=
  if maxRenewalClockMs < nowMs then
    .error ⟨.deadlineOverflow,
      "logical clock must be an integer within 0..=" ++ toString maxRenewalClockMs⟩
  else if ttlMs = 0 ∨ maxRenewalTtlMs < ttlMs then
    .error ⟨.invalidTtl, "lease TTL must be within 1..=" ++ toString maxRenewalTtlMs ++ " ms"⟩
  else if policy.renewEveryMs = 0 ∨ policy.safetyMarginMs = 0 ∨ ttlMs ≤ policy.renewEveryMs ∨
      ttlMs ≤ policy.safetyMarginMs then
    .error ⟨.invalidPolicy,
      "renewal interval and safety margin must both be positive and less than the lease TTL"⟩
  else
    let deadlineMs := addDouble nowMs ttlMs
    let intervalDue := addDouble nowMs policy.renewEveryMs
    if maxRenewalClockMs < deadlineMs ∨ maxRenewalClockMs < intervalDue then
      .error ⟨.deadlineOverflow, "renewal schedule exceeds the shared logical-clock domain"⟩
    else
      let nextRenewalMs := min intervalDue (deadlineMs - policy.safetyMarginMs)
      if nextRenewalMs ≤ nowMs then
        .error ⟨.invalidPolicy, "renewal policy leaves no positive live interval"⟩
      else .ok (deadlineMs, nextRenewalMs)

structure LeaseRenewalSupervisor where
  grant : Ts.LeaseGrant
  policy : RenewalPolicy
  localDeadlineMs : Nat
  nextRenewalMs : Nat
  lastObservedMs : Nat
  loss : Option RenewalError
  deriving DecidableEq

namespace LeaseRenewalSupervisor

def new (grant policy : RawGrant) (nowMs : JsNumber) :
    Except RenewalError LeaseRenewalSupervisor :=
  match snapshotGrant grant with
  | .error error => .error error
  | .ok grant =>
    match snapshotPolicy policy with
    | .error error => .error error
    | .ok policy =>
      match validateClock nowMs with
      | .error error => .error error
      | .ok nowMs =>
        match makeSchedule nowMs grant.ttlMs policy with
        | .error error => .error error
        | .ok (deadlineMs, nextRenewalMs) =>
          .ok ⟨grant, policy, deadlineMs, nextRenewalMs, nowMs, none⟩

/-- The first loss stays. -/
def record (s : LeaseRenewalSupervisor) (error : RenewalError) :
    RenewalError × LeaseRenewalSupervisor :=
  match s.loss with
  | some loss => (loss, s)
  | none => (error, { s with loss := some error })

def lose (s : LeaseRenewalSupervisor) (error : RenewalError) :
    RenewalDecision × LeaseRenewalSupervisor :=
  let (loss, s) := s.record error
  (.lost loss.reason, s)

def fail (s : LeaseRenewalSupervisor) (error : RenewalError) :
    Except RenewalError RenewalCheckpoint × LeaseRenewalSupervisor :=
  let (loss, s) := s.record error
  (.error loss, s)

def decide (s : LeaseRenewalSupervisor) (nowMs : JsNumber) :
    RenewalDecision × LeaseRenewalSupervisor :=
  match s.loss with
  | some loss => (.lost loss.reason, s)
  | none =>
    match validateClock nowMs with
    | .error error => s.lose error
    | .ok nowMs =>
      if nowMs < s.lastObservedMs then
        s.lose ⟨.clockRegression, "monotonic clock regressed from " ++ toString s.lastObservedMs ++
          " to " ++ toString nowMs⟩
      else
        let s := { s with lastObservedMs := nowMs }
        if s.localDeadlineMs ≤ nowMs then
          s.lose ⟨.expired, "local lease deadline " ++ toString s.localDeadlineMs ++
            " was reached at " ++ toString nowMs⟩
        else if s.nextRenewalMs ≤ nowMs then (.renewNow, s)
        else (.wait (s.nextRenewalMs - nowMs), s)

/-- The response is snapshotted before it is compared with the retained grant. -/
def acceptRenewal (s : LeaseRenewalSupervisor) (completedMs : JsNumber) (renewed : RawGrant) :
    Except RenewalError RenewalCheckpoint × LeaseRenewalSupervisor :=
  match s.loss with
  | some loss => (.error loss, s)
  | none =>
    match validateClock completedMs with
    | .error error => s.fail error
    | .ok completedMs =>
      match snapshotGrant renewed with
      | .error error => s.fail error
      | .ok candidate =>
        if completedMs < s.lastObservedMs then
          s.fail ⟨.clockRegression, "monotonic clock regressed from " ++
            toString s.lastObservedMs ++ " to " ++ toString completedMs ++ " during renewal"⟩
        else
          let s := { s with lastObservedMs := completedMs }
          if s.localDeadlineMs ≤ completedMs then
            s.fail ⟨.completionAfterDeadline, "renewal completed at " ++ toString completedMs ++
              ", not before local deadline " ++ toString s.localDeadlineMs⟩
          else if candidate.key ≠ s.grant.key ∨ candidate.holder ≠ s.grant.holder then
            s.fail ⟨.identityChanged, "renewal changed the lock key or holder identity"⟩
          else if candidate.fencingToken ≠ s.grant.fencingToken then
            s.fail ⟨.tokenChanged, "renewal changed fencing token " ++
              toString s.grant.fencingToken ++ " to " ++ toString candidate.fencingToken⟩
          else
            match validateDeadlineProgress s.grant.leaseExpiresMs candidate.leaseExpiresMs with
            | .error error => s.fail error
            | .ok () =>
              match makeSchedule completedMs candidate.ttlMs s.policy with
              | .error error => s.fail error
              | .ok (deadlineMs, nextRenewalMs) =>
                (.ok (.renewed (nextRenewalMs - completedMs)),
                  { s with grant := candidate, localDeadlineMs := deadlineMs, nextRenewalMs })

end LeaseRenewalSupervisor

end OresLocks.RenewalTs
