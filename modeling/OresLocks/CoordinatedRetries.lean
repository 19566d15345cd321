import OresLocks.Coordinated

/-!
# What a retryable error leaves behind

Only a contended `pg_try_advisory_xact_lock` makes the transaction fail with a
retryable error, and its rollback is not looked at.
-/

namespace OresLocks.Coordinated

set_option autoImplicit false

universe u

open Maintained (tagStep acquisitionStep releaseFailure releaseLost)

def isRetryable (error : LockError) : Bool :=
  error.kind == .contention || error.kind == .timeout

/-- No transaction is open and no lease is held. -/
def Unwound {α : Type u} (calls : List (Event α)) : Prop :=
  (.begin (.ok ()) ∈ calls → .commit (.ok ()) ∈ calls ∨ .rollback (.ok ()) ∈ calls) ∧
    ∀ grant, .acquire (.ok grant) ∈ calls → .release grant (.ok true) ∈ calls

def RetryableUnwound {α : Type u} (run : Run α α) : Prop :=
  ∀ error, run.2 = .error error → isRetryable error = true → Unwound run.1

/-- The lock was contended, its rollback failed, and nothing after it went wrong. -/
def ContendedOpen {α : Type u} (calls : List (Event α)) : Prop :=
  .tryLock (.answered false) ∈ calls ∧ (∃ cause, .rollback (.error cause) ∈ calls) ∧
    ∀ grant answer, .release grant answer ∈ calls → answer = .ok true

/-- The release failed with an error of a retryable kind. -/
def RetryableRelease {α : Type u} (calls : List (Event α)) : Prop :=
  ∃ grant error, .release grant (.error error) ∈ calls ∧ isRetryable error = true

section Runs

variable {α : Type u} {key : LockKey} {wait : Bool} {s : Script α} {error : LockError}

/-- The calls of a transaction whose lock is contended. -/
def contended (s : Script α) : List (Event α) :=
  [.begin (.ok ()), .backend true, .tryLock (.answered false), .rollback s.rollback]

/-- What the routine relies on of its inner part. -/
structure Inner (s : Script α) (inner : Run α α) : Prop where
  retryable : ∀ error, inner.2 = .error error → isRetryable error = true → inner.1 = contended s
  refused : .tryLock (.answered false) ∈ inner.1 →
    ∃ error, inner.2 = .error error ∧ isRetryable error = true
  no_acquire : ∀ answer, .acquire answer ∉ inner.1
  no_release : ∀ grant answer, .release grant answer ∉ inner.1

/-- A run without a refused query, whose errors are never retryable. -/
theorem inner_of_final {inner : Run α α}
    (hfinal : ∀ error, inner.2 = .error error → isRetryable error = false)
    (hfree : .tryLock (.answered false) ∉ inner.1) (hacquire : ∀ answer, .acquire answer ∉ inner.1)
    (hrelease : ∀ grant answer, .release grant answer ∉ inner.1) : Inner s inner where
  retryable error herror hretryable := by
    rw [hfinal error herror] at hretryable
    cases hretryable
  refused h := absurd h hfree
  no_acquire := hacquire
  no_release := hrelease

theorem work_not_retryable (h : work key s = .error error) : isRetryable error = false := by
  unfold work at h
  cases hwork : s.work with
  | ok value =>
    rw [hwork] at h
    cases h
  | error cause =>
    rw [hwork] at h
    cases h
    rfl

theorem inner_work : Inner s ([.work s.work], work key s) := by
  apply inner_of_final
  · intro error herror
    exact work_not_retryable herror
  · simp
  · simp
  · simp

/-- What the transaction relies on of its lock. -/
structure Locking (locking : Attempt α) : Prop where
  retryable : ∀ error, locking.2 = .error error → isRetryable error = true →
    locking.1 = [.backend true, .tryLock (.answered false)]
  refused : .tryLock (.answered false) ∈ locking.1 →
    ∃ error, locking.2 = .error error ∧ isRetryable error = true
  queries : ∀ e ∈ locking.1, (∃ postgres, e = .backend postgres) ∨ (∃ answer, e = .lock answer) ∨
    ∃ answer, e = .tryLock answer

theorem locking_notPostgres :
    Locking (([.backend false], .error (notPostgres key)) : Attempt α) := by
  constructor
  · intro error herror hretryable
    cases herror
    cases hretryable
  · intro h
    cases List.mem_singleton.mp h
  · intro e he
    exact Or.inl ⟨false, List.mem_singleton.mp he⟩

theorem locking_lockCalls (step : LockStep) : Locking (lockCalls key step s) := by
  unfold lockCalls
  split
  · constructor
    · intro error herror hretryable
      simp only at herror
      cases hlock : s.lock with
      | ok u =>
        rw [hlock] at herror
        cases herror
      | error cause =>
        rw [hlock] at herror
        cases herror
        cases hretryable
    · intro h
      simp at h
    · intro e he
      simp only [List.mem_cons, List.not_mem_nil, or_false] at he
      rcases he with rfl | rfl
      · exact Or.inl ⟨true, rfl⟩
      · exact Or.inr (Or.inl ⟨_, rfl⟩)
  · exact locking_notPostgres

theorem locking_tryLockCalls (sql : String) (step : LockStep) :
    Locking (tryLockCalls key sql step s) := by
  unfold tryLockCalls
  split
  · constructor
    · intro error herror hretryable
      simp only at herror
      cases htry : s.tryLock with
      | answered value =>
        rw [htry] at herror
        cases value with
        | true => cases herror
        | false => rfl
      | failed cause =>
        rw [htry] at herror
        cases herror
        cases hretryable
      | noRow =>
        rw [htry] at herror
        cases herror
        cases hretryable
      | undecodable cause =>
        rw [htry] at herror
        cases herror
        cases hretryable
    · intro h
      have htry : s.tryLock = .answered false := by simpa [eq_comm] using h
      simp only [htry]
      exact ⟨_, rfl, rfl⟩
    · intro e he
      simp only [List.mem_cons, List.not_mem_nil, or_false] at he
      rcases he with rfl | rfl
      · exact Or.inl ⟨true, rfl⟩
      · exact Or.inr (Or.inr ⟨_, rfl⟩)
  · exact locking_notPostgres

section Locked

variable {queries : List (Event α)} {outcome : Except LockError Unit}
  (h : Locking (queries, outcome))

include h

theorem Locking.not_acquire (answer : Except LockError LeaseGrant) :
    .acquire answer ∉ queries := by
  intro hmem
  rcases h.queries _ hmem with ⟨_, he⟩ | ⟨_, he⟩ | ⟨_, he⟩
  · cases he
  · cases he
  · cases he

theorem Locking.not_release (grant : LeaseGrant) (answer : Except LockError Bool) :
    .release grant answer ∉ queries := by
  intro hmem
  rcases h.queries _ hmem with ⟨_, he⟩ | ⟨_, he⟩ | ⟨_, he⟩
  · cases he
  · cases he
  · cases he

end Locked

theorem Locking.free {queries : List (Event α)} (h : Locking (queries, .ok ())) :
    .tryLock (.answered false) ∉ queries := by
  intro hmem
  obtain ⟨error, herror, _⟩ := h.refused hmem
  cases herror

/-- The transaction whose lock was not taken. -/
theorem Locking.inner_of_refused {queries : List (Event α)} {error : LockError}
    (hbegin : s.begin = .ok ()) (h : Locking (queries, .error error)) :
    Inner s ((.begin s.begin :: queries ++ [.rollback s.rollback], .error error) : Run α α) := by
  constructor
  · intro error' herror hretryable
    cases herror
    have hcontended : queries = [.backend true, .tryLock (.answered false)] :=
      h.retryable error rfl hretryable
    rw [hcontended, hbegin]
    rfl
  · intro hmem
    obtain ⟨error', herror, hretryable⟩ := h.refused (by simpa using hmem)
    cases herror
    exact ⟨error, rfl, hretryable⟩
  · intro answer
    simp [h.not_acquire]
  · intro grant answer
    simp [h.not_release]

/-- The transaction whose lock was taken. -/
theorem Locking.inner_of_taken (key : LockKey) {queries : List (Event α)}
    (h : Locking (queries, .ok ())) :
    Inner s (match work key s with
      | .error error =>
        (.begin s.begin :: queries ++ [.work s.work, .rollback s.rollback], .error error)
      | .ok value =>
        (.begin s.begin :: queries ++ [.work s.work, .commit s.commit],
          match s.commit with
          | .ok () => .ok value
          | .error cause => .error (dbError key .pgCommit cause))) := by
  cases hwork : work key s with
  | error error =>
    apply inner_of_final
    · intro error' herror
      cases herror
      exact work_not_retryable hwork
    · simp [h.free]
    · simp [h.not_acquire]
    · simp [h.not_release]
  | ok value =>
    apply inner_of_final
    · intro error herror
      cases hcommit : s.commit with
      | ok u =>
        rw [hcommit] at herror
        cases herror
      | error cause =>
        rw [hcommit] at herror
        cases herror
        rfl
    · simp [h.free]
    · simp [h.not_acquire]
    · simp [h.not_release]

theorem inner_transaction : Inner s (inTransaction key wait s) := by
  have hlocking : Locking (if wait then xactLock key s else tryXactLock key s) := by
    split
    · exact locking_lockCalls _
    · exact locking_tryLockCalls _ _
  unfold inTransaction
  cases hbegin : s.begin with
  | error cause =>
    apply inner_of_final
    · intro error herror
      cases herror
      rfl
    · simp
    · simp
    · simp
  | ok u =>
    generalize (if wait then xactLock key s else tryXactLock key s) = locking at hlocking
    obtain ⟨queries, outcome⟩ := locking
    cases outcome with
    | error error =>
      have hrefused := hlocking.inner_of_refused hbegin
      rw [hbegin] at hrefused
      exact hrefused
    | ok u =>
      have htaken := hlocking.inner_of_taken (s := s) key
      rw [hbegin] at htaken
      exact htaken

theorem contended_unwound_iff :
    Unwound (contended s) ↔ s.rollback = .ok () := by
  unfold Unwound contended
  simp [eq_comm]

theorem tagStep_retryable (error : LockError) (step : LockStep) :
    isRetryable (tagStep error step) = isRetryable error := by
  unfold tagStep
  split
  · rfl
  · rfl

theorem Inner.not_retryableRelease {inner : Run α α} (h : Inner s inner) :
    ¬ RetryableRelease inner.1 := by
  rintro ⟨grant, error, hmem, _⟩
  exact h.no_release _ _ hmem

/-- The inner part, when no lease is released after it. -/
theorem Inner.unwound_iff {inner : Run α α} (h : Inner s inner) :
    RetryableUnwound inner ↔ ¬ RetryableRelease inner.1 ∧ ¬ ContendedOpen inner.1 := by
  constructor
  · intro hunwound
    refine ⟨h.not_retryableRelease, ?_⟩
    rintro ⟨htry, ⟨cause, hrollback⟩, _⟩
    obtain ⟨error, herror, hretryable⟩ := h.refused htry
    have hcontended := h.retryable error herror hretryable
    have hok := hunwound error herror hretryable
    rw [hcontended, contended_unwound_iff] at hok
    rw [hcontended] at hrollback
    simp [contended, hok] at hrollback
  · rintro ⟨_, hopen⟩ error herror hretryable
    have hcontended := h.retryable error herror hretryable
    rw [hcontended, contended_unwound_iff]
    cases hrollback : s.rollback with
    | ok u => rfl
    | error cause =>
      refine absurd ⟨?_, ⟨cause, ?_⟩, ?_⟩ hopen
      · simp [hcontended, contended]
      · simp [hcontended, contended, hrollback]
      · intro grant answer hmem
        exact absurd hmem (h.no_release _ _)

/-- The calls around an inner part under a lease. -/
def leased (s : Script α) (grant : LeaseGrant) (calls : List (Event α)) : List (Event α) :=
  .acquire (.ok grant) :: calls ++ [.release grant s.release]

theorem Inner.release_mem_iff {inner : Run α α} (h : Inner s inner) {grant grant' : LeaseGrant}
    {answer : Except LockError Bool} : .release grant' answer ∈ leased s grant inner.1 ↔
      grant' = grant ∧ answer = s.release := by
  unfold leased
  simp [h.no_release]

theorem Inner.retryableRelease_iff {inner : Run α α} (h : Inner s inner) (grant : LeaseGrant) :
    RetryableRelease (leased s grant inner.1) ↔
      ∃ error, s.release = .error error ∧ isRetryable error = true := by
  unfold RetryableRelease
  simp only [h.release_mem_iff]
  constructor
  · rintro ⟨_, error, ⟨_, hrelease⟩, hretryable⟩
    exact ⟨error, hrelease.symm, hretryable⟩
  · rintro ⟨error, hrelease, hretryable⟩
    exact ⟨grant, error, ⟨rfl, hrelease.symm⟩, hretryable⟩

theorem Inner.contendedOpen_iff {inner : Run α α} (h : Inner s inner) (grant : LeaseGrant) :
    ContendedOpen (leased s grant inner.1) ↔ ContendedOpen inner.1 ∧ s.release = .ok true := by
  have hrolledBack : (∃ cause, .rollback (.error cause) ∈ leased s grant inner.1) ↔
      ∃ cause, .rollback (.error cause) ∈ inner.1 := by
    unfold leased
    simp
  have htried : .tryLock (.answered false) ∈ leased s grant inner.1 ↔
      .tryLock (.answered false) ∈ inner.1 := by
    unfold leased
    simp
  unfold ContendedOpen
  simp only [h.release_mem_iff]
  rw [htried, hrolledBack]
  constructor
  · rintro ⟨hrefused, hrollback, hreleased⟩
    exact ⟨⟨hrefused, hrollback, fun g answer hmem => absurd hmem (h.no_release g answer)⟩,
      hreleased grant s.release ⟨rfl, rfl⟩⟩
  · rintro ⟨⟨hrefused, hrollback, _⟩, hreleased⟩
    refine ⟨hrefused, hrollback, ?_⟩
    rintro _ _ ⟨_, rfl⟩
    exact hreleased

theorem Inner.unwound_leased {inner : Run α α} (h : Inner s inner) (grant : LeaseGrant) :
    Unwound (leased s grant inner.1) ↔ Unwound inner.1 ∧ s.release = .ok true := by
  unfold Unwound
  simp only [h.release_mem_iff]
  simp only [leased, List.mem_append, List.mem_cons, List.not_mem_nil, or_false, reduceCtorEq,
    false_or, Event.acquire.injEq, Except.ok.injEq, h.no_acquire, false_implies, implies_true,
    and_true, forall_eq, true_and]
  exact and_congr_right fun _ => eq_comm

/-- A failed release decides the kind of the error. -/
theorem settled_cleanup {inner : Except LockError α} {cleanup error : LockError}
    (h : settled inner (some cleanup) = .error error) : isRetryable error = isRetryable cleanup := by
  cases inner with
  | ok value =>
    cases h
    rfl
  | error failure =>
    cases h
    rfl

theorem settled_some (inner : Except LockError α) (cleanup : LockError) :
    ∃ error, settled inner (some cleanup) = .error error := by
  cases inner with
  | ok value => exact ⟨_, rfl⟩
  | error failure => exact ⟨_, rfl⟩

theorem settled_none (inner : Except LockError α) : settled inner none = inner := by
  cases inner with
  | ok value => rfl
  | error failure => rfl

/-- The inner part between an acquisition and its release. -/
theorem Inner.leased_iff {inner : Run α α} (h : Inner s inner) (grant : LeaseGrant) :
    RetryableUnwound ((leased s grant inner.1,
        settled inner.2 (releaseFailure key grant s.release)) : Run α α) ↔
      ¬ RetryableRelease (leased s grant inner.1) ∧ ¬ ContendedOpen (leased s grant inner.1) := by
  rw [h.retryableRelease_iff, h.contendedOpen_iff]
  unfold RetryableUnwound
  simp only [h.unwound_leased]
  cases hrelease : s.release with
  | error cause =>
    have hfailure : releaseFailure key grant (.error cause) = some (tagStep cause .fiduciaRelease) :=
      rfl
    rw [hfailure]
    constructor
    · intro hunwound
      refine ⟨?_, fun hopen => nomatch hopen.2⟩
      rintro ⟨_, heq, hretryable⟩
      cases heq
      obtain ⟨error, herror⟩ := settled_some inner.2 (tagStep cause .fiduciaRelease)
      have hsame := (settled_cleanup herror).trans (tagStep_retryable cause .fiduciaRelease)
      cases (hunwound error herror (hsame.trans hretryable)).2
    · rintro ⟨hfine, _⟩ error herror hretryable
      rw [settled_cleanup herror, tagStep_retryable] at hretryable
      exact absurd ⟨cause, rfl, hretryable⟩ hfine
  | ok matched =>
    cases matched with
    | true =>
      have hfailure : releaseFailure key grant (.ok true) = none := rfl
      rw [hfailure, settled_none]
      have hinner := h.unwound_iff
      unfold RetryableUnwound at hinner
      simp only [and_true]
      rw [hinner]
      refine and_congr_left fun _ => ⟨fun _ => ?_, fun _ => h.not_retryableRelease⟩
      rintro ⟨_, heq, _⟩
      cases heq
    | false =>
      have hfailure : releaseFailure key grant (.ok false) = some (releaseLost key grant) := rfl
      rw [hfailure]
      refine ⟨fun _ => ⟨?_, ?_⟩, ?_⟩
      · rintro ⟨_, heq, _⟩
        cases heq
      · rintro ⟨_, heq⟩
        cases heq
      · intro _ error herror hretryable
        rw [settled_cleanup herror] at hretryable
        cases hretryable

/-- What the lease layer encloses. -/
theorem inner_layers (key : LockKey) (wait : Bool) (layers : LockLayers) :
    Inner s (if layers.pgAdvisory then inTransaction key wait s
      else ([.work s.work], work key s)) := by
  split
  · exact inner_transaction
  · exact inner_work

/-- The calls that leave something behind are the ones of these two kinds. -/
theorem unwound_iff_calls (key : LockKey) (layers : LockLayers) (wait : Bool) (s : Script α) :
    RetryableUnwound (withXactLock key wait s layers) ↔
      ¬ RetryableRelease (withXactLock key wait s layers).1 ∧
        ¬ ContendedOpen (withXactLock key wait s layers).1 := by
  have hplain : ∀ calls error, calls = [] ∨ (∃ answer, calls = [.acquire (.error answer)]) →
      (RetryableUnwound ((calls, .error error) : Run α α) ↔
        ¬ RetryableRelease calls ∧ ¬ ContendedOpen calls) := by
    rintro calls error (rfl | ⟨answer, rfl⟩)
    · simp [RetryableUnwound, Unwound, RetryableRelease, ContendedOpen]
    · simp [RetryableUnwound, Unwound, RetryableRelease, ContendedOpen]
  have hinner : Inner s (if layers.pgAdvisory then inTransaction key wait s
      else ([.work s.work], work key s)) := inner_layers key wait layers
  unfold withXactLock underLease
  split
  · exact hplain _ _ (Or.inl rfl)
  split
  · exact hplain _ _ (Or.inl rfl)
  dsimp only
  split
  · cases hacquire : s.acquire with
    | error answer => exact hplain _ _ (Or.inr ⟨answer, rfl⟩)
    | ok grant => exact hinner.leased_iff grant
  · exact hinner.unwound_iff

/-! ## The answers that leave something behind -/

/-- Whatever the enabled layers need was supplied. -/
def Supplied (layers : LockLayers) : Prop :=
  (layers.fiducia = true → layers.lease = true) ∧
    (layers.pgAdvisory = true → layers.connection = true)

def Leases (layers : LockLayers) (s : Script α) : Prop :=
  layers.fiducia = true ∧ ∃ grant, s.acquire = .ok grant

/-- The lease was acquired, and its release fails with an error of a retryable kind. -/
def ReleasesRetryably (layers : LockLayers) (s : Script α) : Prop :=
  Supplied layers ∧ Leases layers s ∧ ∃ error, s.release = .error error ∧ isRetryable error = true

/-- The lock is found held, and the rollback fails. -/
def Busy (wait : Bool) (s : Script α) : Prop :=
  wait = false ∧ s.begin = .ok () ∧ s.postgres = true ∧ s.tryLock = .answered false ∧
    ∃ cause, s.rollback = .error cause

/-- The transaction stays open after a contended lock, and nothing after it goes wrong. -/
def StaysOpen (layers : LockLayers) (wait : Bool) (s : Script α) : Prop :=
  Supplied layers ∧ (layers.fiducia = true → Leases layers s ∧ s.release = .ok true) ∧
    layers.pgAdvisory = true ∧ Busy wait s

theorem refused_locking_iff :
    .tryLock (.answered false) ∈ (if wait then xactLock key s else tryXactLock key s).1 ↔
      wait = false ∧ s.postgres = true ∧ s.tryLock = .answered false := by
  cases wait with
  | true =>
    unfold xactLock lockCalls
    cases s.postgres with
    | true => simp
    | false => simp
  | false =>
    unfold tryXactLock tryLockCalls
    cases s.postgres with
    | true => simp [eq_comm]
    | false => simp

theorem refused_transaction_iff : .tryLock (.answered false) ∈ (inTransaction key wait s).1 ↔
    s.begin = .ok () ∧ wait = false ∧ s.postgres = true ∧ s.tryLock = .answered false := by
  have hlocking : .tryLock (.answered false) ∈
      (if wait then xactLock key s else tryXactLock key s).1 ↔
        wait = false ∧ s.postgres = true ∧ s.tryLock = .answered false := refused_locking_iff
  unfold inTransaction
  cases hbegin : s.begin with
  | error cause => simp
  | ok u =>
    rw [← hlocking]
    generalize (if wait then xactLock key s else tryXactLock key s) = locking
    obtain ⟨queries, outcome⟩ := locking
    cases outcome with
    | error error => simp
    | ok u =>
      cases work key s with
      | error error => simp
      | ok value => simp

theorem contendedOpen_transaction_iff :
    ContendedOpen (inTransaction key wait s).1 ↔ Busy wait s := by
  constructor
  · rintro ⟨htry, ⟨cause, hrollback⟩, _⟩
    obtain ⟨error, herror, hretryable⟩ := inner_transaction.refused htry
    rw [inner_transaction.retryable error herror hretryable] at hrollback
    obtain ⟨hbegin, hwait, hpostgres, hrefused⟩ := refused_transaction_iff.mp htry
    have hfailed : s.rollback = .error cause := by simpa [contended, eq_comm] using hrollback
    exact ⟨hwait, hbegin, hpostgres, hrefused, cause, hfailed⟩
  · rintro ⟨hwait, hbegin, hpostgres, hrefused, cause, hfailed⟩
    have htry : .tryLock (.answered false) ∈ (inTransaction key wait s).1 :=
      refused_transaction_iff.mpr ⟨hbegin, hwait, hpostgres, hrefused⟩
    obtain ⟨error, herror, hretryable⟩ := inner_transaction.refused htry
    refine ⟨htry, ⟨cause, ?_⟩, ?_⟩
    · rw [inner_transaction.retryable error herror hretryable]
      simp [contended, hfailed]
    · intro grant answer hrelease
      exact absurd hrelease (inner_transaction.no_release grant answer)

/-- What the layers that are enabled put around the work. -/
theorem contendedOpen_inner_iff (layers : LockLayers) :
    ContendedOpen (if layers.pgAdvisory then inTransaction key wait s
      else ([.work s.work], work key s)).1 ↔ layers.pgAdvisory = true ∧ Busy wait s := by
  cases layers.pgAdvisory with
  | true => simpa using contendedOpen_transaction_iff
  | false =>
    refine iff_of_false ?_ (fun h => nomatch h.1)
    rintro ⟨htry, _⟩
    cases List.mem_singleton.mp htry

/-- A run that ends before the guarded operation leaves nothing behind. -/
theorem nothing_left {calls : List (Event α)}
    (h : calls = [] ∨ ∃ answer, calls = [.acquire (.error answer)]) :
    ¬ RetryableRelease calls ∧ ¬ ContendedOpen calls := by
  rcases h with rfl | ⟨answer, rfl⟩
  · simp [RetryableRelease, ContendedOpen]
  · simp [RetryableRelease, ContendedOpen]

theorem supplied_iff (layers : LockLayers) : Supplied layers ↔
    (layers.fiducia && !layers.lease) = false ∧ (layers.pgAdvisory && !layers.connection) = false := by
  unfold Supplied
  simp only [Bool.and_eq_false_imp, Bool.not_eq_false']

/-- The calls of the routine, by what was supplied and whether a lease was acquired. -/
theorem withXactLock_calls (key : LockKey) (layers : LockLayers) (wait : Bool) (s : Script α) :
    ∃ inner : Run α α, Inner s inner ∧
      (ContendedOpen inner.1 ↔ layers.pgAdvisory = true ∧ Busy wait s) ∧
      ((¬ Supplied layers ∧ (withXactLock key wait s layers).1 = []) ∨
      (Supplied layers ∧ layers.fiducia = true ∧ ∃ error, s.acquire = .error error ∧
        (withXactLock key wait s layers).1 = [.acquire (.error error)]) ∨
      (Supplied layers ∧ layers.fiducia = true ∧ ∃ grant, s.acquire = .ok grant ∧
        (withXactLock key wait s layers).1 = leased s grant inner.1) ∨
      (Supplied layers ∧ layers.fiducia = false ∧
        (withXactLock key wait s layers).1 = inner.1)) := by
  refine ⟨_, inner_layers key wait layers, contendedOpen_inner_iff layers, ?_⟩
  have hsupplied := supplied_iff layers
  unfold withXactLock underLease
  split
  case isTrue hlease =>
    refine Or.inl ⟨?_, rfl⟩
    rw [hsupplied, hlease]
    exact fun h => nomatch h.1
  split
  case isTrue hconnection =>
    refine Or.inl ⟨?_, rfl⟩
    rw [hsupplied, hconnection]
    exact fun h => nomatch h.2
  case isFalse hlease hconnection =>
    have hyes : Supplied layers :=
      hsupplied.mpr ⟨Bool.eq_false_iff.mpr hlease, Bool.eq_false_iff.mpr hconnection⟩
    cases hfiducia : layers.fiducia with
    | false => exact Or.inr (Or.inr (Or.inr ⟨hyes, rfl, rfl⟩))
    | true =>
      cases hacquire : s.acquire with
      | error error => exact Or.inr (Or.inl ⟨hyes, rfl, error, rfl, rfl⟩)
      | ok grant => exact Or.inr (Or.inr (Or.inl ⟨hyes, rfl, grant, rfl, rfl⟩))

theorem retryableRelease_withXactLock_iff (key : LockKey) (layers : LockLayers) (wait : Bool)
    (s : Script α) :
    RetryableRelease (withXactLock key wait s layers).1 ↔ ReleasesRetryably layers s := by
  obtain ⟨inner, hinner, _, hcalls⟩ := withXactLock_calls key layers wait s
  rcases hcalls with ⟨hnot, hcalls⟩ | ⟨_, _, error, hrefused, hcalls⟩ |
    ⟨hyes, hon, grant, hgranted, hcalls⟩ | ⟨_, hoff, hcalls⟩
  · rw [hcalls]
    exact iff_of_false (nothing_left (Or.inl rfl)).1 fun h => hnot h.1
  · rw [hcalls]
    refine iff_of_false (nothing_left (Or.inr ⟨error, rfl⟩)).1 ?_
    rintro ⟨_, ⟨_, grant, hgranted⟩, _⟩
    rw [hrefused] at hgranted
    cases hgranted
  · rw [hcalls, hinner.retryableRelease_iff]
    exact ⟨fun h => ⟨hyes, ⟨hon, grant, hgranted⟩, h⟩, fun h => h.2.2⟩
  · rw [hcalls]
    refine iff_of_false hinner.not_retryableRelease ?_
    rintro ⟨_, ⟨hon, _⟩, _⟩
    rw [hoff] at hon
    cases hon

theorem contendedOpen_withXactLock_iff (key : LockKey) (layers : LockLayers) (wait : Bool)
    (s : Script α) :
    ContendedOpen (withXactLock key wait s layers).1 ↔ StaysOpen layers wait s := by
  obtain ⟨inner, hinner, hbusy, hcalls⟩ := withXactLock_calls key layers wait s
  rcases hcalls with ⟨hnot, hcalls⟩ | ⟨_, hon, error, hrefused, hcalls⟩ |
    ⟨hyes, hon, grant, hgranted, hcalls⟩ | ⟨hyes, hoff, hcalls⟩
  · rw [hcalls]
    exact iff_of_false (nothing_left (Or.inl rfl)).2 fun h => hnot h.1
  · rw [hcalls]
    refine iff_of_false (nothing_left (Or.inr ⟨error, rfl⟩)).2 ?_
    rintro ⟨_, hleased, _⟩
    obtain ⟨⟨_, grant, hgranted⟩, _⟩ := hleased hon
    rw [hrefused] at hgranted
    cases hgranted
  · rw [hcalls, hinner.contendedOpen_iff, hbusy]
    constructor
    · rintro ⟨⟨hadvisory, hopen⟩, hreleased⟩
      exact ⟨hyes, fun _ => ⟨⟨hon, grant, hgranted⟩, hreleased⟩, hadvisory, hopen⟩
    · rintro ⟨_, hleased, hadvisory, hopen⟩
      exact ⟨⟨hadvisory, hopen⟩, (hleased hon).2⟩
  · rw [hcalls, hbusy]
    constructor
    · rintro ⟨hadvisory, hopen⟩
      refine ⟨hyes, fun hon => ?_, hadvisory, hopen⟩
      rw [hoff] at hon
      cases hon
    · rintro ⟨_, _, hadvisory, hopen⟩
      exact ⟨hadvisory, hopen⟩

/-- A retryable error means that everything is unwound, unless the release itself fails
so or a contended lock is not rolled back. -/
theorem retryable_unwound_iff (key : LockKey) (layers : LockLayers) (wait : Bool) (s : Script α) :
    RetryableUnwound (withXactLock key wait s layers) ↔
      ¬ ReleasesRetryably layers s ∧ ¬ StaysOpen layers wait s := by
  rw [unwound_iff_calls, retryableRelease_withXactLock_iff, contendedOpen_withXactLock_iff]

end Runs

section Contention

def busyKey : LockKey := ⟨"tenant/acme/jobs/rebuild", by decide⟩

def transactionOnly : LockLayers := ⟨false, true, false, true⟩

/-- Another session has the lock, and the connection breaks before the rollback. -/
def busy : Script Unit where
  acquire := .error (.contention busyKey .fiduciaTryAcquire)
  begin := .ok ()
  postgres := true
  lock := .ok ()
  tryLock := .answered false
  work := .ok ()
  commit := .ok ()
  rollback := .error "connection reset"
  unlock := .answered true
  close := .ok ()
  release := .ok true

theorem busy_left_open : ¬ RetryableUnwound (withXactLock busyKey false busy transactionOnly) := by
  intro h
  have hunwound := h (.contention busyKey .pgTryAdvisoryXactLock) rfl rfl
  rcases hunwound.1 (List.mem_cons_self ..) with hcommit | hrollback
  · simp [withXactLock, underLease, inTransaction, busy, transactionOnly, tryXactLock, tryLockCalls,
      acquireBool] at hcommit
  · simp [withXactLock, underLease, inTransaction, busy, transactionOnly, tryXactLock, tryLockCalls,
      acquireBool] at hrollback

end Contention

end OresLocks.Coordinated
