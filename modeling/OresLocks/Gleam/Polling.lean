import OresLocks.Gleam.Errors
import OresLocks.RenewalGleam
import Mathlib.Tactic.Linarith

/-!
# Renewal while the maintained routine of the Gleam package polls

`acquireLock` is a function of a script, the answers of the rounds it goes through, and
of the clock. The clock moves only when the routine sleeps, by the time it sleeps.
-/

namespace OresLocks.Gleam

set_option autoImplicit false

structure AcquireOptions where
  ttlMs : Int
  waitTimeoutMs : Int
  retryIntervalMs : Int

structure LeaseMaintenanceOptions where
  renewIntervalMs : Int

structure LeaseGrant where
  key : LockKey
  holder : String
  fencingToken : Int
  leaseExpiresMs : Option Int
  ttlMs : Int
  deriving DecidableEq

def validateLeaseMaintenanceOptions (key : LockKey) (opts : AcquireOptions)
    (maintenance : LeaseMaintenanceOptions) (wait : Bool) : Except LockError Unit :=
  if opts.ttlMs ≤ 0 then .error (invalidPlan key "fiducia lease TTL must be greater than zero")
  else if maintenance.renewIntervalMs ≤ 0 then
    .error (invalidPlan key "fiducia renewal interval must be greater than zero")
  else if opts.ttlMs < maintenance.renewIntervalMs * 2 then
    .error (invalidPlan key "fiducia renewal interval must be no greater than half the TTL")
  else if wait ∧ opts.retryIntervalMs ≤ 0 then
    .error (invalidPlan key ("PostgreSQL advisory-lock retry interval must be greater than zero " ++
      "when wait is enabled"))
  else if opts.waitTimeoutMs < 0 then
    .error (invalidPlan key "PostgreSQL advisory-lock wait timeout must not be negative")
  else .ok ()

def validateOptions (key : LockKey) (opts : AcquireOptions) (maintenance : LeaseMaintenanceOptions)
    (wait : Bool) : Except LockError Unit :=
  match validateLeaseMaintenanceOptions key opts maintenance wait with
  | .error error => .error error
  | .ok () =>
    if RenewalGleam.maxRenewalTtlMs < opts.ttlMs then
      .error (invalidPlan key ("fiducia lease TTL must be no greater than " ++
        toString RenewalGleam.maxRenewalTtlMs ++ " ms"))
    else .ok ()

def tagStep (error : LockError) (step : LockStep) : LockError :=
  match error.step with
  | some _ => error
  | none => { error with step := some step }

def lostAuthority (key : LockKey) (step : LockStep) (field phase : String) : LockError :=
  ⟨.lostLease, key, some step, "fiducia " ++ phase ++ " returned an invalid grant " ++ field ++
    "; maintained authority cannot be proven"⟩

def validExpiry (grant : LeaseGrant) : Bool :=
  match grant.leaseExpiresMs with
  | none => true
  | some value => decide (0 < value)

/-- `renew_checked` of the core module. -/
def renewSameGrant (grant : LeaseGrant) (answer : Except LockError LeaseGrant) :
    Except LockError LeaseGrant :=
  match answer with
  | .error error => .error (tagStep error .fiduciaRenew)
  | .ok renewed =>
    let changed :=
      if renewed.key.text ≠ grant.key.text then some "key"
      else if renewed.holder ≠ grant.holder then some "holder"
      else if renewed.fencingToken ≠ grant.fencingToken then some "fencing token"
      else none
    match changed with
    | none => .ok renewed
    | some field => .error ⟨.lostLease, grant.key, some .fiduciaRenew,
        "fiducia renewal changed the grant " ++ field ++ "; fenced authority cannot be proven"⟩

def renewChecked (grant : LeaseGrant) (ttlMs : Int) (answer : Except LockError LeaseGrant) :
    Except LockError LeaseGrant :=
  match renewSameGrant grant answer with
  | .error error => .error error
  | .ok renewed =>
    if renewed.ttlMs ≠ ttlMs then .error (lostAuthority grant.key .fiduciaRenew "TTL" "renewal")
    else if !validExpiry renewed then
      .error (lostAuthority grant.key .fiduciaRenew "expiry" "renewal")
    else .ok renewed

/-- The answers of one round: the poll, the renewal if there is one, and the sleep. -/
structure Round where
  poll : Except LockError Unit
  renewal : Except LockError LeaseGrant
  sleep : Except LockError Unit

/-- A call with the time it is issued at. -/
inductive Event where
  | polled (now : Int)
  | renewed (now : Int)
  deriving DecidableEq

/-- The arguments that stay the same in the whole recursion. -/
structure Waiting where
  key : LockKey
  wait : Bool
  opts : AcquireOptions
  maintenance : LeaseMaintenanceOptions
  grant : LeaseGrant
  startedMs : Int

namespace Waiting

variable (w : Waiting)

/-- The time for the next renewal, after a renewal if that is due. -/
def renewIfDue (now nextRenewalMs : Int) (answer : Except LockError LeaseGrant) :
    List Event × Except LockError Int :=
  if now < nextRenewalMs then ([], .ok nextRenewalMs)
  else
    ([.renewed now],
      match renewChecked w.grant w.opts.ttlMs answer with
      | .error error => .error error
      | .ok _ => .ok (now + w.maintenance.renewIntervalMs))

def sleepFor (now : Int) : Int :=
  let remainingMs := w.opts.waitTimeoutMs - (now - w.startedMs)
  if w.opts.retryIntervalMs < remainingMs then w.opts.retryIntervalMs else remainingMs

/-- The calls of `acquire_lock` and its result; there is none when the script ends. -/
def acquireLock : List Round → Int → Int → List Event × Option (Except LockError Int)
  | [], _, _ => ([], none)
  | round :: rest, now, nextRenewalMs =>
    match round.poll with
    | .ok () => ([.polled now], some (.ok nextRenewalMs))
    | .error error =>
      if !w.wait then ([.polled now], some (.error error))
      else if error.kind ≠ .contention then ([.polled now], some (.error error))
      else if w.opts.waitTimeoutMs ≤ now - w.startedMs then
        ([.polled now],
          some (.error (timeout w.key .pgAdvisoryXactLock w.opts.waitTimeoutMs)))
      else
        match w.renewIfDue now nextRenewalMs round.renewal with
        | (renewals, .error error) => (.polled now :: renewals, some (.error error))
        | (renewals, .ok nextRenewalMs) =>
          match round.sleep with
          | .error error => (.polled now :: renewals, some (.error error))
          | .ok () =>
            let (calls, result) := acquireLock rest (now + w.sleepFor now) nextRenewalMs
            (.polled now :: renewals ++ calls, result)

/-- The recursion as `run_transaction` starts it, right after the acquisition. -/
def run (script : List Round) : List Event × Option (Except LockError Int) :=
  w.acquireLock script w.startedMs (w.startedMs + w.maintenance.renewIntervalMs)

end Waiting

/-- Every call is issued less than `ttlMs` after the last renewal before it; `last` is the
time of the acquisition or renewal before the first. -/
def InTime (ttlMs : Int) : Int → List Event → Prop
  | _, [] => True
  | last, .polled now :: rest => now - last < ttlMs ∧ InTime ttlMs last rest
  | last, .renewed now :: rest => now - last < ttlMs ∧ InTime ttlMs now rest

/-- The lease never lapses while the routine polls. -/
def Waiting.NeverLapses (w : Waiting) : Prop :=
  ∀ script, InTime w.opts.ttlMs w.startedMs (w.run script).1

/-- The time from one renewal to the next: the first poll that finds it due. -/
def Waiting.renewalGap (w : Waiting) : Int :=
  (w.maintenance.renewIntervalMs + w.opts.retryIntervalMs - 1) / w.opts.retryIntervalMs *
    w.opts.retryIntervalMs

section Timing

variable {w : Waiting}

/-- The options that `validate_options` accepts. -/
structure ValidTiming (w : Waiting) : Prop where
  ttl : 0 < w.opts.ttlMs
  renewInterval : 0 < w.maintenance.renewIntervalMs
  retryInterval : w.wait = true → 0 < w.opts.retryIntervalMs
  waitTimeout : 0 ≤ w.opts.waitTimeoutMs

theorem validTiming_of_validate
    (h : validateOptions w.key w.opts w.maintenance w.wait = .ok ()) : ValidTiming w := by
  unfold validateOptions validateLeaseMaintenanceOptions at h
  split at h
  · cases h
  rename_i hvalid
  split at hvalid
  · cases hvalid
  split at hvalid
  · cases hvalid
  split at hvalid
  · cases hvalid
  split at hvalid
  · cases hvalid
  rename_i hretry
  split at hvalid
  · cases hvalid
  constructor
  · omega
  · omega
  · intro hwait
    by_contra hle
    exact hretry ⟨hwait, by omega⟩
  · omega

/-- A poll before the renewal is due is not the last one before the gap ends. -/
theorem mul_lt_iff (hr : 0 < w.opts.retryIntervalMs) (j : Int) :
    j * w.opts.retryIntervalMs < w.maintenance.renewIntervalMs ↔
      (j + 1) * w.opts.retryIntervalMs ≤ w.renewalGap := by
  unfold Waiting.renewalGap
  rw [Int.mul_le_mul_iff_of_pos_right hr, Int.le_ediv_iff_mul_le hr, Int.add_mul, Int.one_mul]
  omega

theorem retryInterval_le_gap (h : ValidTiming w) (hr : 0 < w.opts.retryIntervalMs) :
    w.opts.retryIntervalMs ≤ w.renewalGap := by
  have hzero := (mul_lt_iff hr 0).mp (by rw [Int.zero_mul]; exact h.renewInterval)
  omega

/-- The clock after a sleep, when the poll at `now` was not the last. -/
theorem now_add_sleepFor (now : Int) : now + w.sleepFor now =
    min (now + w.opts.retryIntervalMs) (w.startedMs + w.opts.waitTimeoutMs) := by
  unfold Waiting.sleepFor
  simp only
  split
  · omega
  · omega

/-- Where a recursion stands: `j` sleeps after the last renewal, or at the end of the
wait. -/
structure OnSchedule (w : Waiting) (last now nextRenewalMs j : Int) : Prop where
  started : w.startedMs ≤ last
  next : nextRenewalMs = last + w.maintenance.renewIntervalMs
  early : j * w.opts.retryIntervalMs ≤ w.renewalGap
  now : now = min (last + j * w.opts.retryIntervalMs) (w.startedMs + w.opts.waitTimeoutMs)

section Step

variable {last now nextRenewalMs j : Int}

theorem OnSchedule.gap_lt (h : OnSchedule w last now nextRenewalMs j)
    (hgap : min w.renewalGap w.opts.waitTimeoutMs < w.opts.ttlMs) : now - last < w.opts.ttlMs := by
  obtain ⟨hstarted, _, hearly, hnow⟩ := h
  omega

/-- A round that does not renew. -/
theorem OnSchedule.sleep (h : OnSchedule w last now nextRenewalMs j)
    (hr : 0 < w.opts.retryIntervalMs) (hwaits : now - w.startedMs < w.opts.waitTimeoutMs)
    (hdue : now < nextRenewalMs) :
    OnSchedule w last (now + w.sleepFor now) nextRenewalMs (j + 1) := by
  obtain ⟨hstarted, hnext, hearly, hnow⟩ := h
  have hexact : now = last + j * w.opts.retryIntervalMs := by omega
  refine ⟨hstarted, hnext, (mul_lt_iff hr j).mp (by omega), ?_⟩
  rw [now_add_sleepFor, Int.add_mul, Int.one_mul]
  omega

/-- A round that renews. -/
theorem OnSchedule.renew (h : OnSchedule w last now nextRenewalMs j) (hvalid : ValidTiming w)
    (hr : 0 < w.opts.retryIntervalMs) (hdue : ¬ now < nextRenewalMs) :
    OnSchedule w now (now + w.sleepFor now) (now + w.maintenance.renewIntervalMs) 1 := by
  obtain ⟨hstarted, hnext, hearly, hnow⟩ := h
  have hinterval := hvalid.renewInterval
  refine ⟨by omega, rfl, ?_, ?_⟩
  · rw [Int.one_mul]
    exact retryInterval_le_gap hvalid hr
  · rw [now_add_sleepFor, Int.one_mul]

end Step

theorem inTime_acquireLock (hvalid : ValidTiming w) (hr : 0 < w.opts.retryIntervalMs)
    (hgap : min w.renewalGap w.opts.waitTimeoutMs < w.opts.ttlMs) (script : List Round) :
    ∀ {last now nextRenewalMs j : Int}, OnSchedule w last now nextRenewalMs j →
      InTime w.opts.ttlMs last (w.acquireLock script now nextRenewalMs).1 := by
  induction script with
  | nil => exact fun _ => trivial
  | cons round rest ih =>
    intro last now nextRenewalMs j h
    have hpolled : InTime w.opts.ttlMs last [.polled now] := ⟨h.gap_lt hgap, trivial⟩
    unfold Waiting.acquireLock
    cases round.poll with
    | ok u => exact hpolled
    | error error =>
      simp only
      split
      · exact hpolled
      split
      · exact hpolled
      split
      · exact hpolled
      rename_i hwaits
      by_cases hdue : now < nextRenewalMs
      · rw [Waiting.renewIfDue, if_pos hdue]
        cases round.sleep with
        | error error => exact hpolled
        | ok u => exact ⟨h.gap_lt hgap, ih (h.sleep hr (by omega) hdue)⟩
      · rw [Waiting.renewIfDue, if_neg hdue]
        cases renewChecked w.grant w.opts.ttlMs round.renewal with
        | error error => exact ⟨h.gap_lt hgap, h.gap_lt hgap, trivial⟩
        | ok renewed =>
          cases round.sleep with
          | error error => exact ⟨h.gap_lt hgap, h.gap_lt hgap, trivial⟩
          | ok u => exact ⟨h.gap_lt hgap, h.gap_lt hgap, ih (h.renew hvalid hr hdue)⟩

/-- A call that does not wait polls once. -/
theorem neverLapses_of_not_waiting (hvalid : ValidTiming w) (hwait : w.wait = false) :
    w.NeverLapses := by
  intro script
  have hpolled : InTime w.opts.ttlMs w.startedMs [.polled w.startedMs] := by
    refine ⟨?_, trivial⟩
    have httl := hvalid.ttl
    omega
  unfold Waiting.run
  cases script with
  | nil => trivial
  | cons round rest =>
    unfold Waiting.acquireLock
    rw [hwait]
    cases round.poll with
    | ok u => exact hpolled
    | error error => exact hpolled

/-- Another session has the lock, and the sleep is not interrupted. -/
def contendedRound (w : Waiting) : Round :=
  ⟨.error (contention w.key .pgTryAdvisoryXactLock), .ok w.grant, .ok ()⟩

theorem polled_first (round : Round) (rest : List Round) (now nextRenewalMs : Int) :
    ∃ calls, (w.acquireLock (round :: rest) now nextRenewalMs).1 = .polled now :: calls := by
  unfold Waiting.acquireLock
  cases round.poll with
  | ok u => exact ⟨_, rfl⟩
  | error error =>
    simp only
    split
    · exact ⟨_, rfl⟩
    split
    · exact ⟨_, rfl⟩
    split
    · exact ⟨_, rfl⟩
    cases w.renewIfDue now nextRenewalMs round.renewal with
    | mk renewals outcome =>
      cases outcome with
      | error error => exact ⟨_, rfl⟩
      | ok next =>
        cases round.sleep with
        | error error => exact ⟨_, rfl⟩
        | ok u => exact ⟨_, rfl⟩

theorem InTime.first {ttlMs last now : Int} {round : Round} {rest : List Round}
    {nextRenewalMs : Int}
    (h : InTime ttlMs last (w.acquireLock (round :: rest) now nextRenewalMs).1) :
    now - last < ttlMs := by
  obtain ⟨calls, hcalls⟩ := polled_first (w := w) round rest now nextRenewalMs
  rw [hcalls] at h
  exact h.1

/-- A contended round that neither renews nor gives up. -/
theorem acquireLock_contended (hwait : w.wait = true) {now nextRenewalMs : Int}
    (hwaits : now - w.startedMs < w.opts.waitTimeoutMs) (hdue : now < nextRenewalMs)
    (rest : List Round) :
    (w.acquireLock (contendedRound w :: rest) now nextRenewalMs).1 =
      .polled now :: (w.acquireLock rest (now + w.sleepFor now) nextRenewalMs).1 := by
  have hpoll : (contendedRound w).poll = .error (contention w.key .pgTryAdvisoryXactLock) := rfl
  have hsleep : (contendedRound w).sleep = .ok () := rfl
  have hkind : (contention w.key .pgTryAdvisoryXactLock).kind = .contention := rfl
  rw [Waiting.acquireLock, hpoll, hwait]
  simp only [Bool.not_true, Bool.false_eq_true, if_false]
  rw [if_neg (not_not.mpr hkind), if_neg (by omega), Waiting.renewIfDue, if_pos hdue, hsleep]
  rfl

/-- Under contention no renewal comes before the whole gap has passed. -/
theorem gap_lt_of_inTime (hwait : w.wait = true) (hr : 0 < w.opts.retryIntervalMs) (m : Nat) :
    ∀ {j : Int}, 0 ≤ j → (j + m) * w.opts.retryIntervalMs = w.renewalGap →
      InTime w.opts.ttlMs w.startedMs
        (w.acquireLock (List.replicate (m + 1) (contendedRound w))
          (min (w.startedMs + j * w.opts.retryIntervalMs) (w.startedMs + w.opts.waitTimeoutMs))
          (w.startedMs + w.maintenance.renewIntervalMs)).1 →
      min w.renewalGap w.opts.waitTimeoutMs < w.opts.ttlMs := by
  induction m with
  | zero =>
    intro j _ hgap h
    have hfirst := h.first
    rw [Nat.cast_zero, Int.add_zero] at hgap
    omega
  | succ m ih =>
    intro j hj hgap h
    rw [List.replicate_succ] at h
    have hfirst := h.first
    by_cases hover : w.opts.waitTimeoutMs ≤ j * w.opts.retryIntervalMs
    · omega
    have hnext : (j + 1) * w.opts.retryIntervalMs ≤ w.renewalGap := by
      rw [← hgap]
      apply Int.mul_le_mul_of_nonneg_right _ hr.le
      push_cast
      omega
    have hdue := (mul_lt_iff hr j).mpr hnext
    rw [acquireLock_contended hwait (by omega) (by omega)] at h
    refine ih (j := j + 1) (by omega) ?_ ?_
    · rw [← hgap]
      push_cast
      congr 1
      omega
    · have hrest := h.2
      rw [now_add_sleepFor] at hrest
      have hclock : min (min (w.startedMs + j * w.opts.retryIntervalMs)
            (w.startedMs + w.opts.waitTimeoutMs) + w.opts.retryIntervalMs)
          (w.startedMs + w.opts.waitTimeoutMs) =
          min (w.startedMs + (j + 1) * w.opts.retryIntervalMs)
            (w.startedMs + w.opts.waitTimeoutMs) := by
        rw [Int.add_mul, Int.one_mul]
        omega
      rwa [hclock] at hrest

end Timing

/-- With accepted options the lease lasts through every pattern of contention exactly when
the call does not wait, or the first poll that finds the renewal due, or the end of the
wait, comes before the TTL has passed. -/
theorem neverLapses_iff (w : Waiting)
    (h : validateOptions w.key w.opts w.maintenance w.wait = .ok ()) :
    w.NeverLapses ↔
      w.wait = false ∨ min w.renewalGap w.opts.waitTimeoutMs < w.opts.ttlMs := by
  have hvalid := validTiming_of_validate h
  constructor
  · intro hnever
    cases hwait : w.wait with
    | false => exact Or.inl rfl
    | true =>
      right
      have hr := hvalid.retryInterval hwait
      have htimeout := hvalid.waitTimeout
      have hpos : 0 ≤ (w.maintenance.renewIntervalMs + w.opts.retryIntervalMs - 1) /
          w.opts.retryIntervalMs := by
        apply Int.ediv_nonneg _ hr.le
        have hinterval := hvalid.renewInterval
        omega
      obtain ⟨m, hm⟩ := Int.eq_ofNat_of_zero_le hpos
      refine gap_lt_of_inTime hwait hr m (j := 0) le_rfl ?_ ?_
      · rw [Int.zero_add, ← hm]
        rfl
      · have hstart : min (w.startedMs + 0 * w.opts.retryIntervalMs)
            (w.startedMs + w.opts.waitTimeoutMs) = w.startedMs := by omega
        rw [hstart]
        exact hnever _
  · rintro (hwait | hgap)
    · exact neverLapses_of_not_waiting hvalid hwait
    · cases hwait : w.wait with
      | false => exact neverLapses_of_not_waiting hvalid hwait
      | true =>
        intro script
        have hr := hvalid.retryInterval hwait
        have htimeout := hvalid.waitTimeout
        have hle := retryInterval_le_gap hvalid hr
        refine inTime_acquireLock hvalid hr hgap script (j := 0) ⟨le_rfl, rfl, ?_, ?_⟩
        · omega
        · omega

def defaults : Waiting :=
  ⟨plainKey, true, ⟨60000, 30000, 250⟩, ⟨20000⟩, ⟨plainKey, "worker-a", 7, none, 60000⟩, 0⟩

theorem defaults_never_lapse : defaults.NeverLapses :=
  (neverLapses_iff defaults (by decide)).mpr (Or.inr (by decide))

/-- The retry interval is longer than the TTL. -/
def slow : Waiting :=
  ⟨plainKey, true, ⟨1000, 10000, 2000⟩, ⟨500⟩, ⟨plainKey, "worker-a", 7, none, 1000⟩, 0⟩

theorem slow_lapses : validateOptions slow.key slow.opts slow.maintenance slow.wait = .ok () ∧
    (slow.run [contendedRound slow, contendedRound slow]).1 =
      [.polled 0, .polled 2000, .renewed 2000] ∧ ¬ slow.NeverLapses := by
  have hcalls : (slow.run [contendedRound slow, contendedRound slow]).1 =
      [.polled 0, .polled 2000, .renewed 2000] := by decide
  refine ⟨by decide, hcalls, ?_⟩
  intro h
  have hintime := h [contendedRound slow, contendedRound slow]
  rw [hcalls] at hintime
  exact absurd hintime.2.1 (by decide)

end OresLocks.Gleam
