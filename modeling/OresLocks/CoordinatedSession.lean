import OresLocks.Coordinated

/-!
# The calls and the error of the session routine

The failures of a run, in the order of its calls, make up its error: each goes before
the ones that came earlier.
-/

namespace OresLocks.Coordinated

set_option autoImplicit false

universe u

open Maintained (tagStep acquisitionStep releaseFailure)

section Failures

/-- The last failure, with the earlier ones in its message. -/
def wrapAll (failures : List LockError) : Option LockError :=
  failures.foldl (fun inner failure => match inner with
    | none => some failure
    | some inner => some (failure.afterInnerFailure inner)) none

/-- A result is the error that its failures make up. -/
def Wraps {α : Type u} (failures : List LockError) (result : Except LockError α) : Prop :=
  match result with
  | .ok _ => failures = []
  | .error error => wrapAll failures = some error

/-- The error has the kind and the step of one failure and starts with its text. -/
structure LedBy (error failure : LockError) : Prop where
  kind : error.kind = failure.kind
  key : error.key = failure.key
  step : error.step = failure.step
  message : ∃ rest, error.message = failure.message ++ rest

def Contains (text part : String) : Prop := ∃ before after, text = before ++ part ++ after

theorem Contains.append {text part : String} (h : Contains text part) (before after : String) :
    Contains (before ++ text ++ after) part := by
  obtain ⟨b, a, rfl⟩ := h
  exact ⟨before ++ b, a ++ after, by simp only [String.append_assoc]⟩

theorem wrapAll_concat (failures : List LockError) (failure : LockError) :
    wrapAll (failures ++ [failure]) = match wrapAll failures with
      | none => some failure
      | some inner => some (failure.afterInnerFailure inner) := by
  unfold wrapAll
  rw [List.foldl_append]
  rfl

theorem wrapAll_eq_none {failures : List LockError} (h : wrapAll failures = none) :
    failures = [] := by
  rcases List.eq_nil_or_concat failures with rfl | ⟨init, last, rfl⟩
  · rfl
  · rw [List.concat_eq_append, wrapAll_concat] at h
    split at h
    · cases h
    · cases h

theorem LedBy.display {error failure : LockError} (h : LedBy error failure) :
    ∃ rest, error.display = failure.display ++ rest := by
  obtain ⟨rest, hrest⟩ := h.message
  refine ⟨rest, ?_⟩
  unfold LockError.display
  rw [h.step, h.kind, h.key, hrest]
  cases failure.step with
  | none => simp only [String.append_assoc]
  | some step => simp only [String.append_assoc]

theorem LedBy.refl (error : LockError) : LedBy error error :=
  ⟨rfl, rfl, rfl, "", String.append_empty.symm⟩

theorem ledBy_afterInnerFailure (failure inner : LockError) :
    LedBy (failure.afterInnerFailure inner) failure := by
  refine ⟨rfl, rfl, rfl, "; guarded operation also failed: " ++ inner.display, ?_⟩
  rw [← String.append_assoc]
  rfl

theorem contains_message_display (error : LockError) : Contains error.display error.message := by
  unfold LockError.display
  split
  · exact ⟨_, "", String.append_empty.symm⟩
  · exact ⟨_, "", String.append_empty.symm⟩

theorem Contains.trans {text part small : String} (h : Contains text part)
    (hsmall : Contains part small) : Contains text small := by
  obtain ⟨before, after, rfl⟩ := h
  exact hsmall.append before after

theorem contains_afterInnerFailure (failure inner : LockError) :
    Contains (failure.afterInnerFailure inner).message inner.display :=
  ⟨failure.message ++ "; guarded operation also failed: ", "", String.append_empty.symm⟩

/-- The error is led by the last failure and contains the texts of the others. -/
theorem wrapAll_spec {failures : List LockError} {last error : LockError}
    (h : wrapAll (failures ++ [last]) = some error) :
    LedBy error last ∧ ∀ failure ∈ failures, Contains error.message failure.display := by
  induction failures using List.reverseRecOn generalizing last error with
  | nil =>
    cases h
    exact ⟨LedBy.refl last, nofun⟩
  | append_singleton init inner ih =>
    rw [wrapAll_concat] at h
    cases hinner : wrapAll (init ++ [inner]) with
    | none =>
      have hnil := wrapAll_eq_none hinner
      simp at hnil
    | some error' =>
      rw [hinner] at h
      cases h
      obtain ⟨hled, hcontains⟩ := ih hinner
      refine ⟨ledBy_afterInnerFailure last error', ?_⟩
      intro failure hfailure
      apply (contains_afterInnerFailure last error').trans
      rcases List.mem_append.mp hfailure with hinit | hlast
      · exact (contains_message_display error').trans (hcontains failure hinit)
      · obtain rfl := List.mem_singleton.mp hlast
        obtain ⟨rest, hrest⟩ := hled.display
        exact ⟨"", rest, by rw [hrest, String.empty_append]⟩

/-- One more cleanup failure goes before those that the result has. -/
theorem Wraps.settled {α : Type u} {failures : List LockError} {result : Except LockError α}
    (h : Wraps failures result) (cleanup : Option LockError) :
    Wraps (failures ++ cleanup.toList) (settled result cleanup) := by
  cases cleanup with
  | none =>
    rw [Option.toList_none, List.append_nil]
    cases result with
    | ok value => exact h
    | error error => exact h
  | some cleanup =>
    rw [Option.toList_some]
    cases result with
    | ok value =>
      obtain rfl : failures = [] := h
      rfl
    | error error =>
      have herror : wrapAll failures = some error := h
      show wrapAll _ = _
      rw [wrapAll_concat, herror]

end Failures

section Calls

variable {α : Type u} {key : LockKey} {wait : Bool} {s : Script α}

/-- The failure that an answer stands for. -/
def Event.failure (key : LockKey) (wait : Bool) : Event α → Option LockError
  | .acquire (.error error) => some (tagStep error (acquisitionStep wait))
  | .backend false => some (notPostgres key)
  | .lock (.error cause) => some (dbError key .pgAdvisoryLock cause)
  | .tryLock fetched =>
    match acquireBool key "SELECT pg_try_advisory_lock($1)" .pgTryAdvisoryLock fetched with
    | .error error => some error
    | .ok true => none
    | .ok false => some (.contention key .pgTryAdvisoryLock)
  | .work (.error cause) => some (.work key cause)
  | .unlock fetched =>
    match acquireBool key "SELECT pg_advisory_unlock($1)" .pgAdvisoryUnlock fetched with
    | .error error => some error
    | .ok true => none
    | .ok false => some (mismatched key)
  | .close (.error cause) => some (closeFailure key cause)
  | .release grant answer => releaseFailure key grant answer
  | _ => none

/-- The failures of a run, the innermost first. -/
def failures (key : LockKey) (wait : Bool) (calls : List (Event α)) : List LockError :=
  calls.filterMap (Event.failure key wait)

def Event.isUnlock : Event α → Bool
  | .unlock _ => true
  | _ => false

def Event.isClose : Event α → Bool
  | .close _ => true
  | _ => false

def Event.isRelease : Event α → Bool
  | .release _ _ => true
  | _ => false

/-- The calls that take a lock. -/
def Event.isQuery : Event α → Bool
  | .backend _ => true
  | .lock _ => true
  | .tryLock _ => true
  | _ => false

/-- The call was answered as the script has it. -/
def Event.AnsweredBy (s : Script α) : Event α → Prop
  | .acquire answer => answer = s.acquire
  | .begin answer => answer = s.begin
  | .backend postgres => postgres = s.postgres
  | .lock answer => answer = s.lock
  | .tryLock answer => answer = s.tryLock
  | .work answer => answer = s.work
  | .commit answer => answer = s.commit
  | .rollback answer => answer = s.rollback
  | .unlock answer => answer = s.unlock
  | .close answer => answer = s.close
  | .release grant answer => s.acquire = .ok grant ∧ answer = s.release

/-- What the plan needs is there. -/
def LockLayers.Supplied (layers : LockLayers) : Prop :=
  (layers.fiducia = true → layers.lease = true) ∧
    (layers.pgAdvisory = true → layers.connection = true)

/-- The script gives the session lock to a routine that waits or does not. -/
def Script.Obtains (s : Script α) (wait : Bool) : Prop :=
  s.postgres = true ∧ if wait then s.lock = .ok () else s.tryLock = .answered true

/-- The query for the session lock got it. -/
def Obtained (calls : List (Event α)) : Prop :=
  .lock (.ok ()) ∈ calls ∨ .tryLock (.answered true) ∈ calls

/-- The unlock did not remove the lock. -/
def NotUnlocked (calls : List (Event α)) : Prop :=
  ∃ fetched, .unlock fetched ∈ calls ∧ fetched ≠ .answered true

/-- The session part of a run; `advisory` says whether it has the lock to take. -/
structure SessionPart (key : LockKey) (advisory wait : Bool) (s : Script α) (inner : Run α α) :
    Prop where
  answered : ∀ e ∈ inner.1, e.AnsweredBy s
  worked_iff : (∃ answer, .work answer ∈ inner.1) ↔ (advisory = true → s.Obtains wait)
  locked : advisory = true → (∃ answer, .work answer ∈ inner.1) → Obtained inner.1
  unlocks : inner.1.countP Event.isUnlock ≤ 1
  unlocked_iff : inner.1.countP Event.isUnlock = 1 ↔ Obtained inner.1
  closes : inner.1.countP Event.isClose ≤ 1
  closed_iff : inner.1.countP Event.isClose = 1 ↔ NotUnlocked inner.1
  no_acquire : ∀ answer, .acquire answer ∉ inner.1
  no_release : inner.1.countP Event.isRelease = 0
  returns : ∀ value, inner.2 = .ok value ↔ .work (.ok value) ∈ inner.1 ∧
    ∀ fetched, .unlock fetched ∈ inner.1 → fetched = .answered true
  wraps : Wraps (failures key wait inner.1) inner.2

/-- The query for the session lock. -/
structure SessionLocking (key : LockKey) (wait : Bool) (s : Script α) (locking : Attempt α) :
    Prop where
  answered : ∀ e ∈ locking.1, e.AnsweredBy s
  queries : ∀ e ∈ locking.1, e.isQuery = true
  obtained_iff : locking.2 = .ok () ↔ Obtained locking.1
  obtains_iff : locking.2 = .ok () ↔ s.Obtains wait
  wraps : Wraps (failures key wait locking.1) locking.2

/-- What the unlock answers, and what it fails with. -/
theorem unlockFailure_none_iff : unlockFailure key s = none ↔ s.unlock = .answered true := by
  unfold unlockFailure sessionUnlock
  cases s.unlock with
  | failed cause => simp [acquireBool]
  | noRow => simp [acquireBool]
  | undecodable cause => simp [acquireBool]
  | answered value =>
    cases value with
    | true => simp [acquireBool]
    | false => simp [acquireBool]

theorem settled_eq_ok {β : Type u} {inner : Except LockError β} {cleanup : Option LockError}
    {value : β} : settled inner cleanup = .ok value ↔ inner = .ok value ∧ cleanup = none := by
  cases inner with
  | ok result =>
    cases cleanup with
    | none => simp [settled]
    | some error => simp [settled]
  | error error =>
    cases cleanup with
    | none => simp [settled]
    | some error => simp [settled]

theorem SessionLocking.countP_eq_zero {queries : List (Event α)} {outcome : Except LockError Unit}
    (h : SessionLocking key wait s (queries, outcome)) {p : Event α → Bool}
    (hp : ∀ e : Event α, e.isQuery = true → p e = false) : queries.countP p = 0 := by
  rw [List.countP_eq_zero]
  intro e he
  simp [hp e (h.queries e he)]

theorem SessionLocking.not_mem {queries : List (Event α)} {outcome : Except LockError Unit}
    (h : SessionLocking key wait s (queries, outcome)) {e : Event α} (he : e.isQuery = false) :
    e ∉ queries := by
  intro hmem
  rw [h.queries e hmem] at he
  cases he

theorem isQuery_not_cleanup (e : Event α) (h : e.isQuery = true) :
    e.isUnlock = false ∧ e.isClose = false ∧ e.isRelease = false := by
  cases e with
  | backend _ => exact ⟨rfl, rfl, rfl⟩
  | lock _ => exact ⟨rfl, rfl, rfl⟩
  | tryLock _ => exact ⟨rfl, rfl, rfl⟩
  | _ => cases h

/-- Without the lock nothing follows its query. -/
theorem SessionLocking.refused {queries : List (Event α)} {error : LockError}
    (h : SessionLocking key wait s (queries, .error error)) :
    SessionPart key true wait s ((queries, .error error) : Run α α) := by
  have hunlocks : queries.countP Event.isUnlock = 0 :=
    h.countP_eq_zero fun e he => (isQuery_not_cleanup e he).1
  have hcloses : queries.countP Event.isClose = 0 :=
    h.countP_eq_zero fun e he => (isQuery_not_cleanup e he).2.1
  have hidle : ¬ ∃ answer, .work answer ∈ queries := by
    intro hwork
    obtain ⟨answer, hmem⟩ := hwork
    exact h.not_mem rfl hmem
  constructor
  · exact h.answered
  · refine iff_of_false hidle ?_
    intro hobtains
    have hok : (.error error : Except LockError Unit) = .ok () := h.obtains_iff.mpr (hobtains rfl)
    cases hok
  · intro _ hwork
    exact absurd hwork hidle
  · rw [hunlocks]
    exact Nat.zero_le 1
  · rw [hunlocks, ← h.obtained_iff]
    simp
  · rw [hcloses]
    exact Nat.zero_le 1
  · rw [hcloses]
    refine iff_of_false Nat.zero_ne_one ?_
    rintro ⟨fetched, hmem, _⟩
    exact h.not_mem rfl hmem
  · intro answer
    exact h.not_mem rfl
  · exact h.countP_eq_zero fun e he => (isQuery_not_cleanup e he).2.2
  · intro value
    refine iff_of_false nofun ?_
    rintro ⟨hmem, _⟩
    exact h.not_mem rfl hmem
  · exact h.wraps

/-- What the calls and the result of the routine promise. The work runs exactly under the
layers that are on; which answers let it is said of the script. -/
structure SessionContract (key : LockKey) (layers : LockLayers) (wait : Bool) (s : Script α)
    (run : Run α α) : Prop where
  answered : ∀ e ∈ run.1, e.AnsweredBy s
  worked_iff : (∃ answer, .work answer ∈ run.1) ↔ layers.Supplied ∧
    (layers.fiducia = true → ∃ grant, s.acquire = .ok grant) ∧
    (layers.pgAdvisory = true → s.Obtains wait)
  leased : layers.fiducia = true → (∃ answer, .work answer ∈ run.1) →
    ∃ grant, .acquire (.ok grant) ∈ run.1
  locked : layers.pgAdvisory = true → (∃ answer, .work answer ∈ run.1) → Obtained run.1
  unlocks : run.1.countP Event.isUnlock ≤ 1
  unlocked_iff : run.1.countP Event.isUnlock = 1 ↔ Obtained run.1
  closes : run.1.countP Event.isClose ≤ 1
  closed_iff : run.1.countP Event.isClose = 1 ↔ NotUnlocked run.1
  released_last : ∀ grant, .acquire (.ok grant) ∈ run.1 →
    ∃ before answer, run.1 = before ++ [.release grant answer] ∧
      before.countP Event.isRelease = 0
  unreleased : (∀ grant, .acquire (.ok grant) ∉ run.1) → run.1.countP Event.isRelease = 0
  returns : ∀ value, run.2 = .ok value ↔ .work (.ok value) ∈ run.1 ∧
    (∀ fetched, .unlock fetched ∈ run.1 → fetched = .answered true) ∧
    (layers.fiducia = true → ∃ grant, .release grant (.ok true) ∈ run.1)
  fails : ∀ earlier last, failures key wait run.1 = earlier ++ [last] →
    ∃ error, run.2 = .error error ∧ error.kind = last.kind ∧ error.step = last.step ∧
      ∀ failure ∈ earlier, Contains error.message failure.display

/-- The error that a run's failures make up has the outermost one in front. -/
theorem Wraps.fails {failures earlier : List LockError} {last : LockError}
    {result : Except LockError α} (h : Wraps failures result)
    (hfailures : failures = earlier ++ [last]) :
    ∃ error, result = .error error ∧ error.kind = last.kind ∧ error.step = last.step ∧
      ∀ failure ∈ earlier, Contains error.message failure.display := by
  cases result with
  | ok value =>
    have hnil : failures = [] := h
    rw [hfailures] at hnil
    simp at hnil
  | error error =>
    have herror : wrapAll failures = some error := h
    rw [hfailures] at herror
    obtain ⟨hled, hcontains⟩ := wrapAll_spec herror
    exact ⟨error, rfl, hled.kind, hled.step, hcontains⟩

variable {layers : LockLayers}

theorem SessionPart.not_release {advisory : Bool} {inner : Run α α}
    (h : SessionPart key advisory wait s inner) (grant : LeaseGrant)
    (answer : Except LockError Bool) : .release grant answer ∉ inner.1 := by
  intro hmem
  have hcount := h.no_release
  rw [List.countP_eq_zero] at hcount
  exact hcount _ hmem rfl

theorem releaseFailure_none_iff {grant : LeaseGrant} {answer : Except LockError Bool} :
    releaseFailure key grant answer = none ↔ answer = .ok true := by
  cases answer with
  | error error => simp [releaseFailure]
  | ok matched =>
    cases matched with
    | true => simp [releaseFailure]
    | false => simp [releaseFailure]

/-- Under a lease the inner part stands between the acquisition and the release. -/
theorem SessionPart.leased {inner : Run α α} (h : SessionPart key layers.pgAdvisory wait s inner)
    (hsupplied : layers.Supplied) (hfiducia : layers.fiducia = true) {grant : LeaseGrant}
    (hacquire : s.acquire = .ok grant) :
    SessionContract key layers wait s
      ((.acquire (.ok grant) :: inner.1 ++ [.release grant s.release],
        settled inner.2 (releaseFailure key grant s.release)) : Run α α) := by
  have hworks : (∃ answer, .work answer ∈ .acquire (.ok grant) :: inner.1 ++
      [.release grant s.release]) ↔ ∃ answer, .work answer ∈ inner.1 := by
    simp
  constructor
  · intro e he
    rcases List.mem_append.mp he with he | he
    · rcases List.mem_cons.mp he with rfl | he
      · exact hacquire.symm
      · exact h.answered e he
    · rw [List.mem_singleton.mp he]
      exact ⟨hacquire, rfl⟩
  · rw [hworks, h.worked_iff]
    simp [hsupplied, hacquire]
  · intro _ _
    exact ⟨grant, List.mem_cons_self ..⟩
  · intro hadvisory hwork
    have hobtained := h.locked hadvisory (hworks.mp hwork)
    simpa [Obtained] using hobtained
  · simpa [Event.isUnlock, List.countP_cons] using h.unlocks
  · simpa [Event.isUnlock, List.countP_cons, Obtained] using h.unlocked_iff
  · simpa [Event.isClose, List.countP_cons] using h.closes
  · simpa [Event.isClose, List.countP_cons, NotUnlocked] using h.closed_iff
  · intro grant' hmem
    simp only [List.cons_append, List.mem_cons, List.mem_append, Event.acquire.injEq,
      Except.ok.injEq, h.no_acquire, reduceCtorEq, List.not_mem_nil, or_false] at hmem
    subst hmem
    refine ⟨_, _, rfl, ?_⟩
    rw [List.countP_cons, h.no_release]
    rfl
  · intro hnone
    exact absurd (List.mem_cons_self ..) (hnone grant)
  · intro value
    rw [settled_eq_ok, releaseFailure_none_iff, h.returns]
    simp [h.not_release, and_assoc, hfiducia, eq_comm]
  · intro earlier last hfailures
    have hwraps := h.wraps.settled (releaseFailure key grant s.release)
    apply hwraps.fails
    rw [← hfailures]
    unfold failures
    simp only [List.cons_append, List.filterMap_cons, List.filterMap_append]
    cases hfailure : releaseFailure key grant s.release with
    | none => simp [Event.failure, hfailure]
    | some failure => simp [Event.failure, hfailure]

end Calls

end OresLocks.Coordinated
