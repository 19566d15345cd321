import OresLocks.Shared.Runs

/-!
# The repository's model of a maintained transaction

`formal/maintained-model.mjs` explores this state machine for two periodic renewals and
two contention retries. Here both bounds are parameters. An `Edge` is the name of a
transition.
-/

namespace OresLocks.Formal.Maintained

set_option autoImplicit false

open Shared.Runs

inductive Phase where
  | acquire
  | begin
  | lock
  | work
  | finalRenew
  | commit
  | rollback
  | release
  | done
  deriving DecidableEq

/-- The failure codes. -/
inductive Failure where
  | acquireFailed
  | beginFailed
  | periodicRenewFailed
  | periodicTokenChanged
  | lockFailed
  | lockTimeout
  | workFailed
  | finalRenewFailed
  | finalTokenChanged
  | commitFailed
  | rollbackFailed
  | releaseMismatch
  | releaseFailed
  deriving DecidableEq

/-- The members of `CLEANUP_FAILURES`. -/
def Failure.isCleanup : Failure → Bool
  | .rollbackFailed => true
  | .releaseFailed => true
  | .releaseMismatch => true
  | _ => false

inductive Result where
  | success
  | error
  deriving DecidableEq

structure State where
  phase : Phase
  acquired : Bool
  begun : Bool
  locked : Bool
  workCompleted : Bool
  finalRenewAttempted : Bool
  finalRenewed : Bool
  commitAttempted : Bool
  committed : Bool
  rollbackAttempted : Bool
  rolledBack : Bool
  releaseAttempts : Nat
  released : Bool
  authorityLive : Bool
  authorityLost : Bool
  authorityLostBeforeCommit : Bool
  periodicRenewals : Nat
  contentionRetries : Nat
  primaryFailure : Option Failure
  failures : List Failure
  result : Option Result
  deriving DecidableEq

/-- `requireFinalRenewal` is off in the negative control only. -/
structure Options where
  requireFinalRenewal : Bool
  maxPeriodicRenewals : Nat
  maxContentionRetries : Nat

def initialState : State where
  phase := .acquire
  acquired := false
  begun := false
  locked := false
  workCompleted := false
  finalRenewAttempted := false
  finalRenewed := false
  commitAttempted := false
  committed := false
  rollbackAttempted := false
  rolledBack := false
  releaseAttempts := 0
  released := false
  authorityLive := false
  authorityLost := false
  authorityLostBeforeCommit := false
  periodicRenewals := 0
  contentionRetries := 0
  primaryFailure := none
  failures := []
  result := none

def recordFailure (s : State) (code : Failure) (cleanup : Bool) : State :=
  { s with
    failures := s.failures ++ [code]
    primaryFailure := if cleanup || s.primaryFailure.isNone then some code else s.primaryFailure }

def loseAuthority (s : State) (code : Failure) : State :=
  recordFailure
    { s with
      authorityLive := false
      authorityLost := true
      authorityLostBeforeCommit := !s.commitAttempted && !s.committed }
    code false

inductive Edge where
  | acquireSuccess
  | acquireFailure
  | beginSuccess
  | beginFailure
  | periodicRenewSuccess
  | periodicRenewFailure
  | periodicTokenDrift
  | lockSuccess
  | lockDatabaseFailure
  | lockTimeout
  | lockContentionRetry
  | workSuccess
  | workFailure
  | finalRenewSuccess
  | finalRenewFailure
  | finalTokenDrift
  | commitSuccess
  | commitFailure
  | rollbackSuccess
  | rollbackFailure
  | releaseSuccess
  | releaseMismatch
  | releaseFailure
  deriving DecidableEq

/-- The transitions of the maintainer while `phase` lasts; a failure goes on to `next`. -/
def periodic (o : Options) (s : State) (next : Phase) : List (Edge × State) :=
  [(.periodicRenewFailure, { loseAuthority s .periodicRenewFailed with phase := next }),
    (.periodicTokenDrift, { loseAuthority s .periodicTokenChanged with phase := next })] ++
  if s.periodicRenewals < o.maxPeriodicRenewals then
    [(.periodicRenewSuccess, { s with periodicRenewals := s.periodicRenewals + 1 })]
  else []

def successors (o : Options) (s : State) : List (Edge × State) :=
  match s.phase with
  | .acquire =>
    [(.acquireSuccess, { s with phase := .begin, acquired := true, authorityLive := true }),
      (.acquireFailure,
        recordFailure { s with phase := .done, result := some .error } .acquireFailed false)]
  | .begin =>
    [(.beginSuccess, { s with phase := .lock, begun := true }),
      (.beginFailure, recordFailure { s with phase := .release } .beginFailed false)] ++
    periodic o s .release
  | .lock =>
    [(.lockSuccess, { s with phase := .work, locked := true }),
      (.lockDatabaseFailure, recordFailure { s with phase := .rollback } .lockFailed false),
      (.lockTimeout, recordFailure { s with phase := .rollback } .lockTimeout false)] ++
    (if s.contentionRetries < o.maxContentionRetries then
      [(.lockContentionRetry, { s with contentionRetries := s.contentionRetries + 1 })]
    else []) ++
    periodic o s .rollback
  | .work =>
    [(.workSuccess, { s with
        phase := if o.requireFinalRenewal then .finalRenew else .commit
        workCompleted := true }),
      (.workFailure, recordFailure { s with phase := .rollback } .workFailed false)] ++
    periodic o s .rollback
  | .finalRenew =>
    [(.finalRenewSuccess,
        { s with phase := .commit, finalRenewAttempted := true, finalRenewed := true }),
      (.finalRenewFailure,
        { loseAuthority { s with finalRenewAttempted := true } .finalRenewFailed with
          phase := .rollback }),
      (.finalTokenDrift,
        { loseAuthority { s with finalRenewAttempted := true } .finalTokenChanged with
          phase := .rollback })]
  | .commit =>
    [(.commitSuccess, { s with phase := .release, commitAttempted := true, committed := true }),
      (.commitFailure,
        recordFailure { s with phase := .release, commitAttempted := true } .commitFailed false)]
  | .rollback =>
    [(.rollbackSuccess, { s with phase := .release, rollbackAttempted := true, rolledBack := true }),
      (.rollbackFailure,
        recordFailure { s with phase := .release, rollbackAttempted := true } .rollbackFailed true)]
  | .release =>
    [(.releaseSuccess, { s with
        phase := .done
        releaseAttempts := s.releaseAttempts + 1
        released := true
        authorityLive := false
        result := if s.primaryFailure.isNone && s.committed then some .success else some .error }),
      (.releaseMismatch, recordFailure { s with
        phase := .done
        releaseAttempts := s.releaseAttempts + 1
        authorityLive := false
        authorityLost := true
        result := some .error } .releaseMismatch true),
      (.releaseFailure, recordFailure { s with
        phase := .done
        releaseAttempts := s.releaseAttempts + 1
        authorityLive := false
        result := some .error } .releaseFailed true)]
  | .done => []

def Step (o : Options) (s : State) (e : Edge) (t : State) : Prop := (e, t) ∈ successors o s

/-- What `assertState` checks. -/
structure Asserts (o : Options) (s : State) : Prop where
  commit : s.committed = true →
    s.acquired = true ∧ s.begun = true ∧ s.locked = true ∧ s.workCompleted = true ∧
      (o.requireFinalRenewal = true → s.finalRenewAttempted = true ∧ s.finalRenewed = true) ∧
      s.authorityLostBeforeCommit = false
  exclusive : ¬ (s.commitAttempted = true ∧ s.rollbackAttempted = true)
  rollback : s.rolledBack = true → s.rollbackAttempted = true
  releases : s.releaseAttempts ≤ 1
  unacquired : s.acquired = false → s.releaseAttempts = 0
  terminal : s.phase = .done → s.acquired = true → s.releaseAttempts = 1
  success : s.result = some .success →
    s.committed = true ∧ s.released = true ∧ s.primaryFailure = none
  authority : ¬ (s.authorityLost = true ∧ s.authorityLive = true)
  retained : ∀ code, s.primaryFailure = some code → code ∈ s.failures
  cleanup : ∀ code, (s.failures.filter Failure.isCleanup).getLast? = some code →
    s.primaryFailure = some code

end OresLocks.Formal.Maintained
