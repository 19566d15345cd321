import OresLocks.RenewalGleam
import OresLocks.RenewalGo
import OresLocks.RenewalTs
import OresLocks.Shared.Checks

/-!
# One renewal window for four runtimes

A live supervisor of any runtime is a `Window`. What a call does to a live window when
no check fails is the same everywhere; the runtimes differ in which checks they make
and in which order. A grant is the one of the Rust crate, and each runtime receives it
in its own shape.
-/

namespace OresLocks.RenewalWindow

set_option autoImplicit false

open Renewal (RenewalLossReason maxRenewalClockMs maxRenewalTtlMs)
open Ts (js RawGrant)
open Shared.Checks

/-- Whole milliseconds that every duration type represents. -/
structure Policy where
  renewEveryMs : Nat
  safetyMarginMs : Nat
  renewEvery_le : renewEveryMs ≤ maxRenewalTtlMs
  safetyMargin_le : safetyMarginMs ≤ maxRenewalTtlMs
  deriving DecidableEq

structure Window where
  grant : LeaseGrant
  policy : Policy
  localDeadlineMs : Nat
  nextRenewalMs : Nat
  lastObservedMs : Nat
  deriving DecidableEq

inductive Call where
  | decision (nowMs : Nat)
  | acceptRenewal (completedMs : Nat) (renewed : LeaseGrant)
  deriving DecidableEq

inductive Answer where
  | wait (checkInMs : Int)
  | renewNow
  | renewed (checkInMs : Int)
  | lost (reason : RenewalLossReason)
  deriving DecidableEq

def scheduledDeadline (nowMs ttlMs : Nat) : Nat := nowMs + ttlMs

def scheduledRenewal (nowMs ttlMs : Nat) (policy : Policy) : Nat :=
  min (nowMs + policy.renewEveryMs) (nowMs + ttlMs - policy.safetyMarginMs)

def Window.start (grant : LeaseGrant) (policy : Policy) (nowMs : Nat) : Window :=
  ⟨grant, policy, scheduledDeadline nowMs grant.ttlMs, scheduledRenewal nowMs grant.ttlMs policy,
    nowMs⟩

/-- The answer and the next window when no check fails. -/
def Window.next (w : Window) : Call → Answer × Window
  | .decision nowMs =>
    (if w.nextRenewalMs ≤ nowMs then .renewNow else .wait ((w.nextRenewalMs : Int) - nowMs),
      { w with lastObservedMs := nowMs })
  | .acceptRenewal completedMs renewed =>
    (.renewed ((scheduledRenewal completedMs renewed.ttlMs w.policy : Int) - completedMs),
      .start renewed w.policy completedMs)

abbrev Checks := List (Bool × RenewalLossReason)

def clockFault (nowMs : Nat) : Bool := decide (maxRenewalClockMs < nowMs)

def ttlFault (ttlMs : Nat) : Bool := decide (ttlMs = 0 ∨ maxRenewalTtlMs < ttlMs)

def zeroPolicy (policy : Policy) : Bool :=
  decide (policy.renewEveryMs = 0 ∨ policy.safetyMarginMs = 0)

def longPolicy (policy : Policy) (ttlMs : Nat) : Bool :=
  decide (ttlMs ≤ policy.renewEveryMs ∨ ttlMs ≤ policy.safetyMarginMs)

def lateDeadline (nowMs ttlMs : Nat) : Bool := decide (maxRenewalClockMs < nowMs + ttlMs)

def zeroDeadline (deadline : Option Nat) : Bool := decide (deadline = some 0)

def farDeadline (deadline : Option Nat) : Bool := deadline.any (maxRenewalClockMs < ·)

/-- TypeScript does not admit the key or the holder. -/
def unadmitted (grant : LeaseGrant) : Bool :=
  decide (Ts.lockKey (.string (js grant.key.text)) = none ∨ grant.holder = "")

def missingDeadline (previous renewed : Option Nat) : Bool :=
  decide (previous ≠ none ∧ renewed = none)

def regressedDeadline (previous renewed : Option Nat) : Bool :=
  previous.any fun previous => renewed.any (· ≤ previous)

def scheduleChecks (nowMs ttlMs : Nat) (policy : Policy) : Checks :=
  [(ttlFault ttlMs, .invalidTtl), (zeroPolicy policy || longPolicy policy ttlMs, .invalidPolicy),
    (lateDeadline nowMs ttlMs, .deadlineOverflow)]

/-- All four runtimes make these checks of a decision. -/
def decisionChecks (w : Window) (nowMs : Nat) : Checks :=
  [(clockFault nowMs, .deadlineOverflow), (decide (nowMs < w.lastObservedMs), .clockRegression),
    (decide (w.localDeadlineMs ≤ nowMs), .expired)]

/-- The checks that compare a response with the window it renews. -/
def continuityChecks (w : Window) (completedMs : Nat) (renewed : LeaseGrant) : Checks :=
  [(decide (completedMs < w.lastObservedMs), .clockRegression),
    (decide (w.localDeadlineMs ≤ completedMs), .completionAfterDeadline),
    (decide (renewed.key ≠ w.grant.key ∨ renewed.holder ≠ w.grant.holder), .identityChanged),
    (decide (renewed.fencingToken ≠ w.grant.fencingToken), .tokenChanged)]

def progressChecks (previous renewed : Option Nat) : Checks :=
  [(missingDeadline previous renewed, .deadlineMissing),
    (regressedDeadline previous renewed, .deadlineRegressed)]

namespace Rust

def policy (p : Policy) : Renewal.RenewalPolicy :=
  ⟨p.renewEveryMs * 1000000, p.safetyMarginMs * 1000000⟩

/-- The supervisor of a live window. -/
def supervisor (w : Window) : Renewal.RenewalSupervisor :=
  ⟨w.grant, policy w.policy, w.localDeadlineMs, w.nextRenewalMs, w.lastObservedMs, none⟩

def new (grant : LeaseGrant) (p : Policy) (nowMs : Nat) :
    Except Renewal.RenewalError Renewal.RenewalSupervisor :=
  Renewal.RenewalSupervisor.new grant (policy p) nowMs

def call (s : Renewal.RenewalSupervisor) : Call → Answer × Renewal.RenewalSupervisor
  | .decision nowMs =>
    match s.decision nowMs with
    | (.wait checkInMs, s) => (.wait checkInMs, s)
    | (.renewNow, s) => (.renewNow, s)
    | (.lost reason, s) => (.lost reason, s)
  | .acceptRenewal completedMs renewed =>
    match s.acceptRenewal completedMs renewed with
    | (.ok (.wait checkInMs), s) => (.wait checkInMs, s)
    | (.ok (.renewed checkInMs), s) => (.renewed checkInMs, s)
    | (.error error, s) => (.lost error.reason, s)

def loss (s : Renewal.RenewalSupervisor) : Option RenewalLossReason := s.loss.map (·.reason)

def newChecks (grant : LeaseGrant) (p : Policy) (nowMs : Nat) : Checks :=
  [(clockFault nowMs, .deadlineOverflow), (zeroDeadline grant.leaseExpiresMs, .deadlineInvalid),
    (farDeadline grant.leaseExpiresMs, .deadlineOverflow)] ++ scheduleChecks nowMs grant.ttlMs p

def checks (w : Window) : Call → Checks
  | .decision nowMs => decisionChecks w nowMs
  | .acceptRenewal completedMs renewed =>
    (clockFault completedMs, .deadlineOverflow) :: continuityChecks w completedMs renewed ++
      [(zeroDeadline renewed.leaseExpiresMs, .deadlineInvalid),
        (farDeadline renewed.leaseExpiresMs, .deadlineOverflow)] ++
      progressChecks w.grant.leaseExpiresMs renewed.leaseExpiresMs ++
      scheduleChecks completedMs renewed.ttlMs w.policy

end Rust

namespace Go

def grant (g : LeaseGrant) : RenewalGo.LeaseGrant :=
  ⟨g.key.text, g.holder, g.fencingToken, (g.leaseExpiresMs.getD 0 : Nat), g.ttlMs⟩

def policy (p : Policy) : RenewalGo.RenewalPolicy :=
  ⟨p.renewEveryMs * 1000000, p.safetyMarginMs * 1000000⟩

def supervisor (w : Window) : RenewalGo.RenewalSupervisor :=
  ⟨grant w.grant, policy w.policy, w.localDeadlineMs, w.nextRenewalMs, w.lastObservedMs, none⟩

def new (g : LeaseGrant) (p : Policy) (nowMs : Nat) :
    Except RenewalGo.RenewalError RenewalGo.RenewalSupervisor :=
  RenewalGo.RenewalSupervisor.new (grant g) (policy p) nowMs

def call (s : RenewalGo.RenewalSupervisor) : Call → Answer × RenewalGo.RenewalSupervisor
  | .decision nowMs =>
    match s.decision nowMs with
    | (.wait checkInMs, s) => (.wait checkInMs, s)
    | (.renewNow, s) => (.renewNow, s)
    | (.lost reason, s) => (.lost reason, s)
  | .acceptRenewal completedMs renewed =>
    match s.acceptRenewal completedMs (grant renewed) with
    | (.ok (.wait checkInMs), s) => (.wait checkInMs, s)
    | (.ok (.renewed checkInMs), s) => (.renewed checkInMs, s)
    | (.error error, s) => (.lost error.reason, s)

def loss (s : RenewalGo.RenewalSupervisor) : Option RenewalLossReason := s.loss.map (·.reason)

def newChecks (g : LeaseGrant) (p : Policy) (nowMs : Nat) : Checks :=
  [(clockFault nowMs, .deadlineOverflow), (farDeadline g.leaseExpiresMs, .deadlineInvalid)] ++
    scheduleChecks nowMs g.ttlMs p

/-- A zero deadline counts as an absent one. -/
def present (deadline : Option Nat) : Option Nat := deadline.filter (0 < ·)

def checks (w : Window) : Call → Checks
  | .decision nowMs => decisionChecks w nowMs
  | .acceptRenewal completedMs renewed =>
    (clockFault completedMs, .deadlineOverflow) :: continuityChecks w completedMs renewed ++
      [(farDeadline renewed.leaseExpiresMs, .deadlineInvalid)] ++
      progressChecks (present w.grant.leaseExpiresMs) (present renewed.leaseExpiresMs) ++
      scheduleChecks completedMs renewed.ttlMs w.policy

end Go

namespace Gleam

def grant (g : LeaseGrant) : RenewalGleam.LeaseGrant :=
  ⟨g.key.text, g.holder, g.fencingToken, g.leaseExpiresMs.map (↑), g.ttlMs⟩

def policy (p : Policy) : RenewalGleam.RenewalPolicy := ⟨p.renewEveryMs, p.safetyMarginMs⟩

def supervisor (w : Window) : RenewalGleam.Supervisor :=
  ⟨grant w.grant, policy w.policy, w.localDeadlineMs, w.nextRenewalMs, w.lastObservedMs, none⟩

def new (g : LeaseGrant) (p : Policy) (nowMs : Nat) :
    Except RenewalLossReason RenewalGleam.Supervisor :=
  RenewalGleam.new (grant g) (policy p) nowMs

def call (s : RenewalGleam.Supervisor) : Call → Answer × RenewalGleam.Supervisor
  | .decision nowMs =>
    match RenewalGleam.decision s nowMs with
    | (s, .wait checkInMs) => (.wait checkInMs, s)
    | (s, .renewNow) => (.renewNow, s)
    | (s, .lost reason) => (.lost reason, s)
  | .acceptRenewal completedMs renewed =>
    match RenewalGleam.acceptRenewal s completedMs (grant renewed) with
    | (s, .ok (.checkpointWait checkInMs)) => (.wait checkInMs, s)
    | (s, .ok (.renewed checkInMs)) => (.renewed checkInMs, s)
    | (s, .error reason) => (.lost reason, s)

def newChecks (g : LeaseGrant) (p : Policy) (nowMs : Nat) : Checks :=
  [(clockFault nowMs, .deadlineOverflow),
    (zeroDeadline g.leaseExpiresMs || farDeadline g.leaseExpiresMs, .deadlineInvalid)] ++
    scheduleChecks nowMs g.ttlMs p

def checks (w : Window) : Call → Checks
  | .decision nowMs => decisionChecks w nowMs
  | .acceptRenewal completedMs renewed =>
    (clockFault completedMs, .deadlineOverflow) :: continuityChecks w completedMs renewed ++
      [(zeroDeadline renewed.leaseExpiresMs || farDeadline renewed.leaseExpiresMs,
        .deadlineInvalid)] ++
      progressChecks w.grant.leaseExpiresMs renewed.leaseExpiresMs ++
      scheduleChecks completedMs renewed.ttlMs w.policy

end Gleam

namespace TypeScript

def grant (g : LeaseGrant) : RawGrant :=
  .object ([⟨some (js "key"), some (.string (js g.key.text))⟩,
    ⟨some (js "holder"), some (.string (js g.holder))⟩,
    ⟨some (js "fencingToken"), some (.bigint g.fencingToken)⟩,
    ⟨some (js "ttlMs"), some (.number (.ofInt g.ttlMs))⟩] ++
    g.leaseExpiresMs.toList.map fun deadline =>
      ⟨some (js "leaseExpiresMs"), some (.number (.ofInt deadline))⟩)

def policy (p : Policy) : RawGrant :=
  .object [⟨some (js "renewEveryMs"), some (.number (.ofInt p.renewEveryMs))⟩,
    ⟨some (js "safetyMarginMs"), some (.number (.ofInt p.safetyMarginMs))⟩]

def snapshot (g : LeaseGrant) : Ts.LeaseGrant :=
  ⟨js g.key.text, js g.holder, g.fencingToken, g.leaseExpiresMs, g.ttlMs⟩

def supervisor (w : Window) : RenewalTs.LeaseRenewalSupervisor :=
  ⟨snapshot w.grant, ⟨w.policy.renewEveryMs, w.policy.safetyMarginMs⟩, w.localDeadlineMs,
    w.nextRenewalMs, w.lastObservedMs, none⟩

def new (g : LeaseGrant) (p : Policy) (nowMs : Nat) :
    Except RenewalTs.RenewalError RenewalTs.LeaseRenewalSupervisor :=
  RenewalTs.LeaseRenewalSupervisor.new (grant g) (policy p) (.ofInt nowMs)

def call (s : RenewalTs.LeaseRenewalSupervisor) : Call → Answer × RenewalTs.LeaseRenewalSupervisor
  | .decision nowMs =>
    match s.decide (.ofInt nowMs) with
    | (.wait checkInMs, s) => (.wait checkInMs, s)
    | (.renewNow, s) => (.renewNow, s)
    | (.lost reason, s) => (.lost reason, s)
  | .acceptRenewal completedMs renewed =>
    match s.acceptRenewal (.ofInt completedMs) (grant renewed) with
    | (.ok (.wait checkInMs), s) => (.wait checkInMs, s)
    | (.ok (.renewed checkInMs), s) => (.renewed checkInMs, s)
    | (.error error, s) => (.lost error.reason, s)

def loss (s : RenewalTs.LeaseRenewalSupervisor) : Option RenewalLossReason :=
  s.loss.map (·.reason)

/-- The checks of the shape of a grant. -/
def snapshotChecks (g : LeaseGrant) : Checks :=
  [(unadmitted g, .identityChanged), (ttlFault g.ttlMs, .invalidTtl),
    (zeroDeadline g.leaseExpiresMs || farDeadline g.leaseExpiresMs, .deadlineInvalid)]

def newChecks (g : LeaseGrant) (p : Policy) (nowMs : Nat) : Checks :=
  snapshotChecks g ++
    [(zeroPolicy p, .invalidPolicy), (clockFault nowMs, .deadlineOverflow)] ++
    scheduleChecks nowMs g.ttlMs p

def checks (w : Window) : Call → Checks
  | .decision nowMs => decisionChecks w nowMs
  | .acceptRenewal completedMs renewed =>
    (clockFault completedMs, .deadlineOverflow) :: snapshotChecks renewed ++
      continuityChecks w completedMs renewed ++
      progressChecks w.grant.leaseExpiresMs renewed.leaseExpiresMs ++
      scheduleChecks completedMs renewed.ttlMs w.policy

end TypeScript

end OresLocks.RenewalWindow
