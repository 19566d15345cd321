import OresLocks.Lease
import OresLocks.Renewal

/-!
# The maintained transaction routine of the Rust crate

`with_maintained_xact_lock` is a function of a script: the answers its adapters,
its clock and its work closure give, in the order it asks for them. It returns the
external calls it made, with their answers, and its result; there is no result when
the script ends while the advisory lock is still contended. A select over a pending
future and the renewal interval is the list of renewals answered before the future
is ready.
-/

namespace OresLocks.Maintained

set_option autoImplicit false

universe u

structure AcquireOptions where
  ttl : Duration
  waitTimeout : Duration
  retryInterval : Duration
  holder : Option String

structure LeaseMaintenanceOptions where
  renewInterval : Duration

def LeaseMaintenanceOptions.validate (m : LeaseMaintenanceOptions) (key : LockKey)
    (acquire : AcquireOptions) (wait : Bool) : Except LockError Unit :=
  if acquire.ttl = 0 then
    .error (.invalidPlan key "fiducia lease TTL must be greater than zero")
  else if Renewal.maxRenewalTtlMs < durationMs acquire.ttl then
    .error (.invalidPlan key ("fiducia lease TTL must be no greater than " ++
      toString Renewal.maxRenewalTtlMs ++ " ms"))
  else if m.renewInterval = 0 then
    .error (.invalidPlan key "fiducia renewal interval must be greater than zero")
  else if acquire.ttl / 2 < m.renewInterval then
    .error (.invalidPlan key ("fiducia renewal interval " ++ toString (durationMs m.renewInterval) ++
      " ms is unsafe for TTL " ++ toString (durationMs acquire.ttl) ++
      " ms; it must be no greater than half the TTL"))
  else if wait ∧ acquire.retryInterval = 0 then
    .error (.invalidPlan key ("PostgreSQL advisory-lock retry interval must be greater than zero " ++
      "when wait is enabled"))
  else .ok ()

/-- What one `SELECT pg_try_advisory_xact_lock($1)` comes to. -/
inductive LockPoll where
  | notPostgres
  | failed (cause : String)
  | noRow
  | undecodable (cause : String)
  | answered (acquired : Bool)
  deriving DecidableEq

def tryXactLock (key : LockKey) (poll : LockPoll) : Except LockError Unit :=
  match poll with
  | .notPostgres => .error (.invalidPlan key
      "advisory locks need a Postgres connection; this backend is not Postgres")
  | .failed cause => .error ((LockError.new .database key cause).at .pgTryAdvisoryXactLock)
  | .noRow => .error ((LockError.new .database key
      "`SELECT pg_try_advisory_xact_lock($1)` returned no row").at .pgTryAdvisoryXactLock)
  | .undecodable cause => .error ((LockError.new .database key cause).at .pgTryAdvisoryXactLock)
  | .answered true => .ok ()
  | .answered false => .error (.contention key .pgTryAdvisoryXactLock)

/-- One external call with its answer. `begin` and the work closure are started
before they are answered, and renewals may come in between. -/
inductive Event (α : Type u) where
  | acquire (answer : Except LockError LeaseGrant)
  | renew (answer : Except LockError LeaseGrant)
  | beginStarted
  | begin (answer : Except String Unit)
  | tryXactLock (answer : LockPoll)
  | workStarted
  | work (answer : Except String α)
  | commit (answer : Except String Unit)
  | rollback (answer : Except String Unit)
  | release (grant : LeaseGrant) (answer : Except LockError Bool)

/-- One round of the lock wait: the poll, the time elapsed since the wait began, and
the renewals answered during the sleep before the next poll. -/
structure Round where
  poll : LockPoll
  elapsed : Duration
  renewals : List (Except LockError LeaseGrant)

structure Script (α : Type u) where
  acquire : Except LockError LeaseGrant
  beginRenewals : List (Except LockError LeaseGrant)
  begin : Except String Unit
  rounds : List Round
  workRenewals : List (Except LockError LeaseGrant)
  work : Except String α
  finalRenewal : Except LockError LeaseGrant
  commit : Except String Unit
  rollback : Except String Unit
  release : Except LockError Bool

/-- The calls made and the result. -/
abbrev Run (α : Type u) := List (Event α) × Option (Except LockError α)

def tagStep (error : LockError) (step : LockStep) : LockError :=
  if error.step.isSome then error else error.at step

def acquisitionStep (wait : Bool) : LockStep :=
  if wait then .fiduciaAcquire else .fiduciaTryAcquire

def releaseLost (key : LockKey) (grant : LeaseGrant) : LockError :=
  (LockError.new .lostLease key ("release of `" ++ key.text ++ "` (holder " ++ grant.holder ++
    ", fencing token " ++ toString grant.fencingToken ++
    ") matched no grant: the lease lapsed while the work ran")).at .fiduciaRelease

def validateAcquiredGrant (key : LockKey) (wait : Bool) (acquire : AcquireOptions)
    (grant : LeaseGrant) : Except LockError Unit :=
  let holderMismatch := grant.holder.isEmpty || acquire.holder.any (· != grant.holder)
  let mismatch :=
    if grant.key ≠ key then some "key"
    else if holderMismatch then some "holder"
    else if grant.ttlMs ≠ durationMs acquire.ttl then some "TTL"
    else if grant.leaseExpiresMs = some 0 then some "expiry"
    else none
  match mismatch with
  | some field => .error ((LockError.new .lostLease key ("fiducia acquisition returned an invalid grant " ++
      field ++ "; maintained authority cannot be proven")).at (acquisitionStep wait))
  | none => .ok ()

def validateRenewedGrant (original renewed : LeaseGrant) : Except LockError Unit :=
  let mismatch :=
    if renewed.key ≠ original.key then some "key"
    else if renewed.holder ≠ original.holder then some "holder"
    else if renewed.fencingToken ≠ original.fencingToken then some "fencing token"
    else if renewed.ttlMs ≠ original.ttlMs then some "TTL"
    else if renewed.leaseExpiresMs = some 0 then some "expiry"
    else none
  match mismatch with
  | some field => .error ((LockError.new .lostLease original.key ("fiducia renewal changed the grant " ++
      field ++ "; fenced authority cannot be proven")).at .fiduciaRenew)
  | none => .ok ()

def renewChecked (original : LeaseGrant) (answer : Except LockError LeaseGrant) :
    Except LockError LeaseGrant :=
  match answer with
  | .error error => .error (tagStep error .fiduciaRenew)
  | .ok renewed =>
    match validateRenewedGrant original renewed with
    | .error error => .error error
    | .ok () => .ok renewed

section Routine

variable {α : Type u}

/-- The renewals of one select loop, up to the first that fails. -/
def renewWhile (grant : LeaseGrant) :
    List (Except LockError LeaseGrant) → List (Event α) × Except LockError Unit
  | [] => ([], .ok ())
  | answer :: rest =>
    match renewChecked grant answer with
    | .error error => ([.renew answer], .error error)
    | .ok _ => (.renew answer :: (renewWhile grant rest).1, (renewWhile grant rest).2)

/-- The cleanup error of a release, if it did not match the grant. -/
def releaseFailure (key : LockKey) (grant : LeaseGrant) :
    Except LockError Bool → Option LockError
  | .ok true => none
  | .ok false => some (releaseLost key grant)
  | .error error => some (tagStep error .fiduciaRelease)

def settleLease (key : LockKey) (grant : LeaseGrant) (release : Except LockError Bool)
    (inner : Except LockError α) : Run α :=
  let result :=
    match inner, releaseFailure key grant release with
    | .ok value, none => .ok value
    | .error error, none => .error error
    | .ok _, some cleanup => .error cleanup
    | .error inner, some cleanup => .error (cleanup.afterInnerFailure inner)
  ([.release grant release], some result)

/-- The failure after the rollback: a failed rollback goes first and keeps the inner one. -/
def rollbackFailure (key : LockKey) (inner : LockError) : Except String Unit → LockError
  | .ok () => inner
  | .error cause => ((LockError.new .database key cause).at .pgRollback).afterInnerFailure inner

def rollbackThenSettle (key : LockKey) (grant : LeaseGrant) (s : Script α) (inner : LockError) :
    Run α :=
  let (calls, result) :=
    settleLease key grant s.release (.error (rollbackFailure key inner s.rollback))
  (.rollback s.rollback :: calls, result)

def acquireTransactionLock (key : LockKey) (wait : Bool) (acquire : AcquireOptions)
    (grant : LeaseGrant) : List Round → List (Event α) × Option (Except LockError Unit)
  | [] => ([], none)
  | round :: rest =>
    match tryXactLock key round.poll with
    | .ok () => ([.tryXactLock round.poll], some (.ok ()))
    | .error error =>
      if wait ∧ error.kind = .contention then
        if acquire.waitTimeout ≤ round.elapsed then
          ([.tryXactLock round.poll],
            some (.error (.timeout key .pgAdvisoryXactLock (durationMs acquire.waitTimeout))))
        else
          match renewWhile grant round.renewals with
          | (renewals, .error error) => (.tryXactLock round.poll :: renewals, some (.error error))
          | (renewals, .ok ()) =>
            let (calls, result) := acquireTransactionLock key wait acquire grant rest
            (.tryXactLock round.poll :: renewals ++ calls, result)
      else ([.tryXactLock round.poll], some (.error error))

def commitResult (key : LockKey) (value : α) : Except String Unit → Except LockError α
  | .ok () => .ok value
  | .error cause => .error ((LockError.new .database key cause).at .pgCommit)

/-- The final renewal, the commit and the release. -/
def admitCommit (key : LockKey) (grant : LeaseGrant) (s : Script α) (value : α) : Run α :=
  match renewChecked grant s.finalRenewal with
  | .error error =>
    let (calls, result) := rollbackThenSettle key grant s error
    (.renew s.finalRenewal :: calls, result)
  | .ok _ =>
    let (calls, result) := settleLease key grant s.release (commitResult key value s.commit)
    (.renew s.finalRenewal :: .commit s.commit :: calls, result)

/-- The work closure under periodic renewal. -/
def runWork (key : LockKey) (grant : LeaseGrant) (s : Script α) : Run α :=
  match renewWhile grant s.workRenewals with
  | (renewals, .error error) =>
    let (calls, result) := rollbackThenSettle key grant s error
    (.workStarted :: renewals ++ calls, result)
  | (renewals, .ok ()) =>
    let (calls, result) :=
      match s.work with
      | .error cause => rollbackThenSettle key grant s (.work key cause)
      | .ok value => admitCommit key grant s value
    (.workStarted :: renewals ++ .work s.work :: calls, result)

/-- Everything after `begin` returned a transaction. -/
def inTransaction (key : LockKey) (wait : Bool) (acquire : AcquireOptions) (grant : LeaseGrant)
    (s : Script α) : Run α :=
  match acquireTransactionLock key wait acquire grant s.rounds with
  | (polls, none) => (polls, none)
  | (polls, some (.error error)) =>
    let (calls, result) := rollbackThenSettle key grant s error
    (polls ++ calls, result)
  | (polls, some (.ok ())) =>
    let (calls, result) := runWork key grant s
    (polls ++ calls, result)

/-- Everything after `acquire` returned a grant. -/
def underGrant (key : LockKey) (wait : Bool) (acquire : AcquireOptions) (grant : LeaseGrant)
    (s : Script α) : Run α :=
  match validateAcquiredGrant key wait acquire grant with
  | .error error => settleLease key grant s.release (.error error)
  | .ok () =>
    match renewWhile grant s.beginRenewals with
    | (renewals, .error error) =>
      let (calls, result) := settleLease key grant s.release (.error error)
      (.beginStarted :: renewals ++ calls, result)
    | (renewals, .ok ()) =>
      let (calls, result) :=
        match s.begin with
        | .error cause => settleLease key grant s.release
            (.error ((LockError.new .database key cause).at .pgBegin))
        | .ok () => inTransaction key wait acquire grant s
      (.beginStarted :: renewals ++ .begin s.begin :: calls, result)

def withMaintainedXactLock (key : LockKey) (wait : Bool) (acquire : AcquireOptions)
    (maintenance : LeaseMaintenanceOptions) (s : Script α) : Run α :=
  match maintenance.validate key acquire wait with
  | .error error => ([], some (.error error))
  | .ok () =>
    match s.acquire with
    | .error error => ([.acquire s.acquire], some (.error (tagStep error (acquisitionStep wait))))
    | .ok grant =>
      let (calls, result) := underGrant key wait acquire grant s
      (.acquire s.acquire :: calls, result)

end Routine

end OresLocks.Maintained
