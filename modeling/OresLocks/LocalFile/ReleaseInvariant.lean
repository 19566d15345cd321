import OresLocks.LocalFile.ReleaseCalls

/-!
# What overlapping releases keep

One `#release_once` removes the marker before the directory and stops at the first
failure. Of a handle at most one of them is under way, and the state and the log of the
handle say how far the removal has come.
-/

namespace OresLocks.LocalFile.Releasing

set_option autoImplicit false

open Shared.Programs Shared.Runs

/-- How far the removal of the lock directory has come. -/
inductive Stage where
  | whole
  | unmarked
  | removed
  | stuck (error : FsError)

def Stage.after : Stage → FsOp → Option FsError → Stage
  | .whole, .unlink .owner, none => .unmarked
  | .unmarked, .rmdir, none => .removed
  | .unmarked, .rmdir, some error => .stuck error
  | stage, _, _ => stage

/-- What one `#release_once` may do, given what is left of the directory. -/
def releasing : Protocol FsOp FsAnswer Stage where
  allows stage op :=
    match stage with
    | .whole => op.IsReading ∨ op = .unlink .owner
    | .unmarked => op = .rmdir
    | _ => False
  moves stage op answer stage' := stage' = stage.after op (failureOf answer)

/-- The error of a release that removed the owner marker and not the directory. -/
def leftover (error : FsError) : Failure :=
  removalFailure "remove local lock directory failed" (.io error)

/-- Where a `#release_once` can end. -/
def Fits : Stage → ReleaseState × Except Failure Unit → Prop
  | .whole, (.held, .error _) => True
  | .removed, (.released, .ok ()) => True
  | .stuck error, (.partially, .error failure) => failure = leftover error
  | _, _ => False

theorem releasing_reading (stage : Stage) (op : FsOp) (h : stage = .whole) (hop : op.IsReading) :
    releasing.allows stage op ∧ ∀ answer stage',
      releasing.moves stage op answer stage' → stage' = .whole := by
  subst h
  refine ⟨.inl hop, ?_⟩
  rintro answer stage' rfl
  cases op with
  | unlink name => simp [FsOp.IsReading, FsOp.IsLooking] at hop
  | _ => rfl

theorem releasing_removeOwned :
    Triple releasing .whole removeOwned (fun stage _ => stage = .removed)
      (fun stage failure => match failure with
        | (_, false) => stage = .whole
        | (.io error, true) => stage = .stuck error
        | (.lock _, true) => False) := by
  apply Triple.bind (fun stage _ => stage = .unmarked)
  · apply Triple.adapt
    apply triple_call (Or.inr rfl)
    · rintro _ stage' rfl
      rfl
    · rintro error stage' rfl
      rfl
  · rintro stage _ rfl
    apply Triple.adapt
    apply triple_call rfl
    · rintro _ stage' rfl
      rfl
    · rintro error stage' rfl
      rfl

theorem releasing_releaseOnce (win32 : Bool) (lock : LocalFileLock) :
    Follows releasing Fits .whole (releaseOnce win32 lock) := by
  apply Follows.bind
  have hcheck : Triple releasing .whole (checkRelease win32 lock) (fun stage _ => stage = .whole)
      (fun stage _ => stage = .whole) :=
    (uses_checkRelease win32 lock).triple releasing_reading rfl
  apply Follows.mono hcheck
  intro stage result hresult
  cases result with
  | error error =>
    change stage = .whole at hresult
    subst hresult
    trivial
  | ok value =>
    change stage = .whole at hresult
    subst hresult
    apply Follows.bind
    apply Follows.mono releasing_removeOwned
    intro stage removed hremoved
    cases removed with
    | ok value =>
      change stage = .removed at hremoved
      subst hremoved
      trivial
    | error failure =>
      obtain ⟨error, ownerRemoved⟩ := failure
      cases ownerRemoved with
      | false =>
        change stage = .whole at hremoved
        subst hremoved
        trivial
      | true =>
        cases error with
        | lock error => exact hremoved.elim
        | io error =>
          change stage = .stuck error at hremoved
          subst hremoved
          rfl

section Log

def stageOf (log : List Attempt) : Stage :=
  log.foldl (fun stage attempt => stage.after attempt.op attempt.failure) .whole

def Attempt.unlinksOwner (attempt : Attempt) : Bool :=
  attempt.op = .unlink .owner ∧ attempt.failure = none

def Attempt.removesDirectory (attempt : Attempt) : Bool :=
  attempt.op = .rmdir ∧ attempt.failure = none

variable {log : List Attempt} {promise : Nat} {op : FsOp} {failure : Option FsError}

@[simp] theorem stageOf_concat : stageOf (log ++ [⟨promise, op, failure⟩]) =
    (stageOf log).after op failure := by
  simp [stageOf]

/-- What the stage says of the operations so far. -/
structure Orderly (log : List Attempt) : Prop where
  unlinks : log.countP (·.unlinksOwner) = match stageOf log with
    | .whole => 0
    | _ => 1
  removals : log.countP (·.removesDirectory) = match stageOf log with
    | .removed => 1
    | _ => 0
  failed : ∀ promise error, ⟨promise, .rmdir, some error⟩ ∈ log → stageOf log = .stuck error

theorem orderly_nil : Orderly [] := by
  refine ⟨rfl, rfl, ?_⟩
  intro promise error hmem
  cases hmem

theorem not_removing_of_reading (h : op.IsReading) : op ≠ .unlink .owner ∧ op ≠ .rmdir := by
  constructor <;> rintro rfl <;> simp [FsOp.IsReading, FsOp.IsLooking] at h

theorem after_reading (h : op.IsReading) : Stage.whole.after op failure = .whole := by
  cases op with
  | unlink name => simp [FsOp.IsReading, FsOp.IsLooking] at h
  | _ => rfl

theorem Orderly.concat (h : Orderly log) (hallows : releasing.allows (stageOf log) op) :
    Orderly (log ++ [⟨promise, op, failure⟩]) := by
  have hunlinks := h.unlinks
  have hremovals := h.removals
  have hfailed := h.failed
  cases hstage : stageOf log with
  | whole =>
    simp only [hstage] at hallows hunlinks hremovals hfailed
    obtain hreads | rfl := hallows
    · obtain ⟨hunlink, hrmdir⟩ := not_removing_of_reading hreads
      refine ⟨?_, ?_, ?_⟩
      · rw [List.countP_append, hunlinks]
        simp [hstage, after_reading hreads, Attempt.unlinksOwner, hunlink]
      · rw [List.countP_append, hremovals]
        simp [hstage, after_reading hreads, Attempt.removesDirectory, hrmdir]
      · intro q error hmem
        obtain hold | hnew := List.mem_append.mp hmem
        · cases hfailed q error hold
        · cases List.mem_singleton.mp hnew
          exact absurd rfl hrmdir
    · refine ⟨?_, ?_, ?_⟩
      · rw [List.countP_append, hunlinks]
        cases failure <;> simp [hstage, Stage.after, Attempt.unlinksOwner]
      · rw [List.countP_append, hremovals]
        cases failure <;> simp [hstage, Stage.after, Attempt.removesDirectory]
      · intro q error hmem
        obtain hold | hnew := List.mem_append.mp hmem
        · cases hfailed q error hold
        · cases List.mem_singleton.mp hnew
  | unmarked =>
    simp only [hstage] at hallows hunlinks hremovals hfailed
    cases hallows
    refine ⟨?_, ?_, ?_⟩
    · rw [List.countP_append, hunlinks]
      cases failure <;> simp [hstage, Stage.after, Attempt.unlinksOwner]
    · rw [List.countP_append, hremovals]
      cases failure <;> simp [hstage, Stage.after, Attempt.removesDirectory]
    · intro q error hmem
      obtain hold | hnew := List.mem_append.mp hmem
      · cases hfailed q error hold
      · cases List.mem_singleton.mp hnew
        simp [hstage, Stage.after]
  | removed =>
    rw [hstage] at hallows
    exact hallows.elim
  | stuck error =>
    rw [hstage] at hallows
    exact hallows.elim

end Log

/-- What a handle knows when no release is under way. -/
def Rested (s : State) : Prop :=
  match s.releaseState with
  | .held => stageOf s.log = .whole
  | .released => stageOf s.log = .removed
  | .partially => ∃ error, stageOf s.log = .stuck error ∧
      s.partialReleaseError = some (leftover error)

/-- The invariant: a release under way is the one in the slot, and what is recorded of
it is what its program still has to do. -/
structure Sound (s : State) : Prop where
  orderly : Orderly s.log
  running : ∀ promise rest, s.promises promise = some (.running rest) →
    s.releasePromise = some promise ∧ s.releaseState = .held ∧
      Follows releasing Fits (stageOf s.log) rest
  waits : ∀ promise rest, s.promises promise = some (.running rest) →
    ∃ op next, rest = .call op next
  rested : s.Idle → Rested s
  slot : ∀ promise, s.releasePromise = some promise → s.releaseState = .held →
    s.calls promise = some .initiated ∧ s.promises promise ≠ none
  initiated : ∀ call, s.calls call = some .initiated → s.releaseState = .held →
    s.releasePromise = some call
  fresh : ∀ call, s.calls call = none → s.promises call = none
  failed : ∀ promise error, ⟨promise, .rmdir, some error⟩ ∈ s.log →
    s.promises promise = some (.settled (.error (leftover error)))
  unlinked : ∀ promise rest, s.promises promise = some (.running rest) →
    stageOf s.log = .unmarked → ∃ attempt ∈ s.log, attempt.promise = promise ∧ attempt.unlinksOwner

section Steps

variable {win32 : Bool} {s t : State} {call promise : Nat} {op : FsOp}

theorem sound_opened (owner : JsString) (ownerIdentity : Identity) :
    Sound (opened owner ownerIdentity) where
  orderly := orderly_nil
  running := by
    intro promise rest h
    cases h
  waits := by
    intro promise rest h
    cases h
  rested := fun _ => rfl
  slot := by
    intro promise h
    cases h
  initiated := by
    intro call h
    cases h
  fresh := fun _ _ => rfl
  failed := by
    intro promise error h
    cases h
  unlinked := by
    intro promise rest h
    cases h

/-- A call that is not waiting for its own promise changes only itself. -/
theorem Sound.setCall {state : CallState} (h : Sound s) (hinitiated : state ≠ .initiated)
    (hslot : s.releaseState = .held → s.releasePromise ≠ some call) :
    Sound (s.setCall call state) where
  orderly := h.orderly
  running := h.running
  waits := h.waits
  rested := h.rested
  slot := by
    intro promise hpromise hheld
    have hne : promise ≠ call := by
      rintro rfl
      exact hslot hheld hpromise
    rw [State.setCall_of_ne hne]
    exact h.slot promise hpromise hheld
  initiated := by
    intro other hother hheld
    by_cases hne : other = call
    · rw [hne, State.setCall_self] at hother
      cases hother
      exact absurd rfl hinitiated
    · rw [State.setCall_of_ne hne] at hother
      exact h.initiated other hother hheld
  fresh := by
    intro other hother
    by_cases hne : other = call
    · rw [hne, State.setCall_self] at hother
      cases hother
    · rw [State.setCall_of_ne hne] at hother
      exact h.fresh other hother
  failed := h.failed
  unlinked := h.unlinked

/-- After a failed `rmdir` the handle is partly released, with that error. -/
theorem Sound.stuck (h : Sound s) {error : FsError} (hmem : ⟨promise, .rmdir, some error⟩ ∈ s.log) :
    s.releaseState = .partially ∧ s.partialReleaseError = some (leftover error) := by
  have hstage := h.orderly.failed promise error hmem
  have hidle : s.Idle := by
    intro other rest hrunning
    obtain ⟨op, next, rfl⟩ := h.waits other rest hrunning
    have hallows := (h.running other _ hrunning).2.2.1
    rw [hstage] at hallows
    exact hallows
  have hrested := h.rested hidle
  unfold Rested at hrested
  split at hrested
  · cases hstage.symm.trans hrested
  · cases hstage.symm.trans hrested
  · rename_i hstate
    obtain ⟨error', hstage', herror⟩ := hrested
    cases hstage.symm.trans hstage'
    exact ⟨hstate, herror⟩

theorem Sound.idle_of_empty (h : Sound s) (hempty : s.releasePromise = none) : s.Idle := by
  intro promise rest hrunning
  rw [(h.running promise rest hrunning).1] at hempty
  cases hempty

theorem Sound.idle_of_closed (h : Sound s) (hclosed : s.releaseState ≠ .held) : s.Idle :=
  fun promise rest hrunning => hclosed (h.running promise rest hrunning).2.1

/-- Of a handle that is held and at rest nothing is removed. -/
theorem Sound.whole (h : Sound s) (hidle : s.Idle) (hheld : s.releaseState = .held) :
    stageOf s.log = .whole := by
  have hrested := h.rested hidle
  rwa [Rested, hheld] at hrested

/-- A release begins with a call to the filesystem. -/
theorem advance_releaseOnce (win32 : Bool) (lock : LocalFileLock) :
    s.advance call (releaseOnce win32 lock) =
      s.setPromise call (.running (releaseOnce win32 lock)) := rfl

theorem Sound.initiate (h : Sound s) (hfresh : s.calls call = none) (hheld : s.releaseState = .held)
    (hempty : s.releasePromise = none) (lock : LocalFileLock) :
    Sound ({ s.setPromise call (.running (releaseOnce win32 lock)) with
      releasePromise := some call }.setCall call .initiated) where
  orderly := h.orderly
  running := by
    intro promise rest hrunning
    by_cases hne : promise = call
    · rw [hne] at hrunning ⊢
      obtain rfl : releaseOnce win32 lock = rest := by simpa using hrunning
      have hwhole : stageOf s.log = .whole := h.whole (h.idle_of_empty hempty) hheld
      exact ⟨rfl, hheld, by simpa [hwhole] using releasing_releaseOnce win32 lock⟩
    · rw [State.setCall_promises] at hrunning
      exact absurd ((State.setPromise_of_ne hne).symm.trans hrunning)
        (h.idle_of_empty hempty promise rest)
  waits := by
    intro promise rest hrunning
    by_cases hne : promise = call
    · rw [hne] at hrunning
      obtain rfl : releaseOnce win32 lock = rest := by simpa using hrunning
      exact ⟨_, _, rfl⟩
    · exact h.waits promise rest ((State.setPromise_of_ne hne).symm.trans hrunning)
  rested := fun hidle => absurd State.setPromise_self (hidle call _)
  slot := by
    intro promise hpromise _
    cases hpromise
    exact ⟨State.setCall_self, by simp⟩
  initiated := by
    intro other hother _
    by_cases hne : other = call
    · rw [hne]
      rfl
    · rw [State.setCall_of_ne hne] at hother
      rw [h.initiated other hother hheld] at hempty
      cases hempty
  fresh := by
    intro other hother
    by_cases hne : other = call
    · rw [hne, State.setCall_self] at hother
      cases hother
    · rw [State.setCall_of_ne hne] at hother
      exact (State.setPromise_of_ne hne).trans (h.fresh other hother)
  failed := by
    intro promise error hmem
    have hpromise := h.failed promise error hmem
    have hne : promise ≠ call := by
      rintro rfl
      rw [h.fresh promise hfresh] at hpromise
      cases hpromise
    exact (State.setPromise_of_ne hne).trans hpromise
  unlinked := by
    intro promise rest _ hunmarked
    cases (h.whole (h.idle_of_empty hempty) hheld).symm.trans hunmarked

theorem Sound.release (h : Sound s) (hfresh : s.calls call = none) :
    Sound (s.release win32 call) := by
  have hslot : s.releaseState = .held → s.releasePromise ≠ some call := by
    intro hheld hcall
    rw [(h.slot call hcall hheld).1] at hfresh
    cases hfresh
  unfold State.release
  split
  · exact h.setCall (by simp) hslot
  · exact h.setCall (by simp) hslot
  rename_i hheld
  split
  · exact h.setCall (by simp) hslot
  rename_i hempty
  rw [advance_releaseOnce]
  exact h.initiate hfresh hheld hempty s.lock

/-- The `finally` clears the slot of a call that left the handle held. -/
theorem Sound.finish {outcome : Except Failure Unit} (h : Sound s)
    (hpromise : s.promises call = some (.settled outcome)) :
    Sound (s.finish call outcome) := by
  unfold State.finish
  split
  · rename_i hclear
    obtain ⟨hslot, hheld⟩ := hclear
    have hidle : s.Idle := by
      intro promise rest hrunning
      have hsame := (h.running promise rest hrunning).1
      rw [hslot] at hsame
      cases hsame
      rw [hpromise] at hrunning
      cases hrunning
    refine ⟨h.orderly, ?_, h.waits, h.rested, ?_, ?_, ?_, h.failed, h.unlinked⟩
    · intro promise rest hrunning
      exact absurd hrunning (hidle promise rest)
    · intro promise hpromise
      cases hpromise
    · intro other hother _
      by_cases hne : other = call
      · rw [hne] at hother
        cases State.setCall_self.symm.trans hother
      · have hsame := h.initiated other ((State.setCall_of_ne hne).symm.trans hother) hheld
        rw [hslot] at hsame
        cases hsame
        exact absurd rfl hne
    · intro other hother
      by_cases hne : other = call
      · rw [hne] at hother
        cases State.setCall_self.symm.trans hother
      · exact h.fresh other ((State.setCall_of_ne hne).symm.trans hother)
  · rename_i hkeep
    exact h.setCall (by simp) fun hheld hslot => hkeep ⟨hslot, hheld⟩

end Steps

section Answers

variable {s : State} {promise : Nat} {op : FsOp}
  {next : FsAnswer op → FsProg (ReleaseState × Except Failure Unit)} {answer : FsAnswer op}

/-- While a release is under way nothing has gone wrong with the directory yet. -/
theorem Sound.unfailed (h : Sound s) (hrunning : s.promises promise = some (.running (.call op next)))
    {other : Nat} {error : FsError} : ⟨other, .rmdir, some error⟩ ∉ s.log := by
  intro hmem
  have hallows := (h.running promise _ hrunning).2.2.1
  rw [h.orderly.failed other error hmem] at hallows
  exact hallows

/-- Any other promise than the one under way has settled. -/
theorem Sound.only (h : Sound s) (hrunning : s.promises promise = some (.running (.call op next)))
    {other : Nat} {rest : FsProg (ReleaseState × Except Failure Unit)}
    (hother : s.promises other = some (.running rest)) : other = promise := by
  have hslot := (h.running promise _ hrunning).1
  rw [(h.running other rest hother).1] at hslot
  exact Option.some.inj hslot

/-- What an answered operation leaves to do. -/
theorem Sound.rest (h : Sound s) (hrunning : s.promises promise = some (.running (.call op next)))
    (answer : FsAnswer op) : Orderly (s.record promise op answer).log ∧
    Follows releasing Fits (stageOf (s.record promise op answer).log) (next answer) := by
  obtain ⟨hallows, hmoves⟩ := (h.running promise _ hrunning).2.2
  refine ⟨h.orderly.concat hallows, hmoves answer _ ?_⟩
  exact stageOf_concat

/-- The promise under way is the one that unlinked the marker. -/
theorem Sound.unlinked_by (h : Sound s)
    (hrunning : s.promises promise = some (.running (.call op next)))
    (hunmarked : stageOf (s.record promise op answer).log = .unmarked) :
    ∃ attempt ∈ (s.record promise op answer).log,
      attempt.promise = promise ∧ attempt.unlinksOwner := by
  have hallows := (h.running promise _ hrunning).2.2.1
  change stageOf (s.log ++ [_]) = .unmarked at hunmarked
  rw [stageOf_concat] at hunmarked
  cases hstage : stageOf s.log with
  | whole =>
    rw [hstage] at hallows hunmarked
    obtain hreads | rfl := hallows
    · rw [after_reading hreads] at hunmarked
      cases hunmarked
    · refine ⟨_, List.mem_append_right _ (List.mem_singleton.mpr rfl), rfl, ?_⟩
      cases hanswer : failureOf answer with
      | none => rfl
      | some error =>
        rw [hanswer] at hunmarked
        cases hunmarked
  | unmarked =>
    obtain ⟨attempt, hmem, hby⟩ := h.unlinked promise _ hrunning hstage
    exact ⟨attempt, List.mem_append_left _ hmem, hby⟩
  | removed =>
    rw [hstage] at hallows
    exact hallows.elim
  | stuck error =>
    rw [hstage] at hallows
    exact hallows.elim

theorem rested_of_fits {releaseState : ReleaseState} {outcome : Except Failure Unit}
    (hheld : s.releaseState = .held) (h : Fits (stageOf s.log) (releaseState, outcome)) :
    Rested ((s.enter releaseState outcome).setPromise promise (.settled outcome)) := by
  cases hstage : stageOf s.log with
  | whole =>
    rw [hstage] at h
    cases releaseState with
    | held => simpa [Rested, State.enter, hheld] using hstage
    | released => exact h.elim
    | partially => exact h.elim
  | unmarked =>
    rw [hstage] at h
    exact h.elim
  | removed =>
    rw [hstage] at h
    cases releaseState with
    | held => exact h.elim
    | released => exact hstage
    | partially => exact h.elim
  | stuck error =>
    rw [hstage] at h
    cases releaseState with
    | held => exact h.elim
    | released => exact h.elim
    | partially =>
      cases outcome with
      | ok value => exact h.elim
      | error failure =>
        cases h
        exact ⟨error, hstage, rfl⟩

theorem outcome_of_stuck {log : List Attempt} {error : FsError} {releaseState : ReleaseState}
    {outcome : Except Failure Unit} (hstuck : stageOf log = .stuck error)
    (h : Fits (stageOf log) (releaseState, outcome)) : outcome = .error (leftover error) := by
  rw [hstuck] at h
  cases releaseState with
  | held => exact h.elim
  | released => exact h.elim
  | partially =>
    cases outcome with
    | ok value => exact h.elim
    | error failure => exact congrArg Except.error h

theorem Sound.goOn (h : Sound s) (hrunning : s.promises promise = some (.running (.call op next)))
    {op' : FsOp} {next' : FsAnswer op' → FsProg (ReleaseState × Except Failure Unit)}
    (hnext : next answer = .call op' next') :
    Sound ((s.record promise op answer).setPromise promise (.running (.call op' next'))) := by
  obtain ⟨horderly, hfollows⟩ := h.rest hrunning answer
  rw [hnext] at hfollows
  obtain ⟨hslot, hheld, _⟩ := h.running promise _ hrunning
  refine ⟨horderly, ?_, ?_, ?_, ?_, h.initiated, ?_, ?_, ?_⟩
  · intro other rest hother
    by_cases hne : other = promise
    · rw [hne, State.setPromise_self] at hother
      cases hother
      rw [hne]
      exact ⟨hslot, hheld, hfollows⟩
    · rw [State.setPromise_of_ne hne] at hother
      exact absurd (h.only hrunning hother) hne
  · intro other rest hother
    by_cases hne : other = promise
    · rw [hne, State.setPromise_self] at hother
      cases hother
      exact ⟨op', next', rfl⟩
    · rw [State.setPromise_of_ne hne] at hother
      exact h.waits other rest hother
  · exact fun hidle => absurd State.setPromise_self (hidle promise _)
  · intro other hother hheld'
    obtain ⟨hcall, _⟩ := h.slot other hother hheld'
    obtain rfl : promise = other := Option.some.inj (hslot.symm.trans hother)
    exact ⟨hcall, by simp⟩
  · intro call hcall
    have hnone := h.fresh call hcall
    have hne : call ≠ promise := by
      rintro rfl
      rw [hrunning] at hnone
      cases hnone
    rw [State.setPromise_of_ne hne]
    exact hnone
  · intro other error hmem
    obtain hold | hnew := List.mem_append.mp hmem
    · exact absurd hold (h.unfailed hrunning)
    · rw [horderly.failed other error hmem] at hfollows
      exact hfollows.1.elim
  · intro other rest hother hunmarked
    by_cases hne : other = promise
    · rw [hne]
      exact h.unlinked_by hrunning hunmarked
    · rw [State.setPromise_of_ne hne] at hother
      exact absurd (h.only hrunning hother) hne

theorem Sound.stop_idle (h : Sound s)
    (hrunning : s.promises promise = some (.running (.call op next)))
    {releaseState : ReleaseState} {outcome : Except Failure Unit} :
    (((s.record promise op answer).enter releaseState outcome).setPromise promise
      (.settled outcome)).Idle := by
  intro other rest hother
  by_cases hne : other = promise
  · rw [hne, State.setPromise_self] at hother
    cases hother
  · rw [State.setPromise_of_ne hne, State.enter_promises] at hother
    exact hne (h.only hrunning hother)

/-- A release that fails without an unlink of its own leaves the handle held. -/
theorem Sound.stop_held (h : Sound s)
    (hrunning : s.promises promise = some (.running (.call op next)))
    {releaseState : ReleaseState} {failure : Failure}
    (hfits : Fits (stageOf (s.record promise op answer).log) (releaseState, .error failure))
    (hmarked : ∀ attempt ∈ (s.record promise op answer).log, attempt.promise = promise →
      attempt.unlinksOwner = false) :
    ((s.record promise op answer).enter releaseState (.error failure)).releaseState = .held := by
  have hafter : stageOf (s.record promise op answer).log =
      (stageOf s.log).after op (failureOf answer) := stageOf_concat
  obtain ⟨_, hheld, hallows, _⟩ := h.running promise _ hrunning
  cases releaseState with
  | held => exact hheld
  | released =>
    cases hstage : stageOf (s.record promise op answer).log <;> simp [hstage, Fits] at hfits
  | partially =>
    cases hstage : stageOf s.log with
    | whole =>
      rw [hstage] at hafter hallows
      rw [hafter] at hfits
      obtain hreads | rfl := hallows
      · rw [after_reading hreads] at hfits
        exact hfits.elim
      · cases hanswer : failureOf answer <;> simp [hanswer, Stage.after, Fits] at hfits
    | unmarked =>
      obtain ⟨attempt, hmem, hby, hunlinks⟩ := h.unlinked promise _ hrunning hstage
      rw [hmarked attempt (List.mem_append_left _ hmem) hby] at hunlinks
      cases hunlinks
    | removed =>
      rw [hstage] at hallows
      exact hallows.elim
    | stuck error =>
      rw [hstage] at hallows
      exact hallows.elim

theorem Sound.stop (h : Sound s) (hrunning : s.promises promise = some (.running (.call op next)))
    {releaseState : ReleaseState} {outcome : Except Failure Unit}
    (hnext : next answer = .done (releaseState, outcome)) :
    Sound (((s.record promise op answer).enter releaseState outcome).setPromise promise
      (.settled outcome)) := by
  obtain ⟨horderly, hfits⟩ := h.rest hrunning answer
  rw [hnext] at hfits
  obtain ⟨hslot, hheld, _⟩ := h.running promise _ hrunning
  refine ⟨by simpa using horderly, ?_, ?_, ?_, ?_, ?_, ?_, ?_, ?_⟩
  · intro other rest hother
    exact absurd hother (h.stop_idle hrunning other rest)
  · intro other rest hother
    exact absurd hother (h.stop_idle hrunning other rest)
  · intro _
    exact rested_of_fits hheld hfits
  · intro other hother _
    rw [State.setPromise_releasePromise, State.enter_releasePromise] at hother
    obtain rfl : promise = other := Option.some.inj (hslot.symm.trans hother)
    rw [State.setPromise_calls, State.enter_calls, State.setPromise_self]
    exact ⟨(h.slot promise hslot hheld).1, by simp⟩
  · intro call hcall _
    rw [State.setPromise_calls, State.enter_calls] at hcall
    rw [State.setPromise_releasePromise, State.enter_releasePromise]
    exact h.initiated call hcall hheld
  · intro call hcall
    rw [State.setPromise_calls, State.enter_calls] at hcall
    have hnone := h.fresh call hcall
    have hne : call ≠ promise := by
      rintro rfl
      rw [hrunning] at hnone
      cases hnone
    rw [State.setPromise_of_ne hne, State.enter_promises]
    exact hnone
  · intro other error hmem
    rw [State.setPromise_log, State.enter_log] at hmem
    have hstuck := horderly.failed other error hmem
    obtain hold | hnew := List.mem_append.mp hmem
    · exact absurd hold (h.unfailed hrunning)
    · obtain rfl : other = promise := congrArg Attempt.promise (List.mem_singleton.mp hnew)
      rw [State.setPromise_self, outcome_of_stuck hstuck hfits]
  · intro other rest hother
    exact absurd hother (h.stop_idle hrunning other rest)

theorem Sound.answered (h : Sound s)
    (hrunning : s.promises promise = some (.running (.call op next))) :
    Sound ((s.record promise op answer).advance promise (next answer)) := by
  cases hnext : next answer with
  | call op' next' => exact h.goOn hrunning hnext
  | done value => exact h.stop hrunning hnext

end Answers

section Histories

variable {win32 : Bool} {owner : JsString} {ownerIdentity : Identity} {es : List Event}
  {s t : State}

/-- What a step does: a call starts, an operation is answered, or a call resumes with
what its own promise or the joined one settled with. -/
theorem step_cases {e : Event} (h : s.step win32 e = some t) :
    (∃ call, e = .called call ∧ s.calls call = none ∧ t = s.release win32 call) ∨
    (∃ promise answer op next, e = .answered promise answer ∧
      s.promises promise = some (.running (.call op next)) ∧
      t = (s.record promise op (answer op)).advance promise (next (answer op))) ∨
    (∃ call outcome, e = .resumed call ∧ s.calls call = some .initiated ∧
      s.promises call = some (.settled outcome) ∧ t = s.finish call outcome) ∨
    (∃ call promise outcome, e = .resumed call ∧ s.calls call = some (.joined promise) ∧
      s.promises promise = some (.settled outcome) ∧ t = s.settle call outcome) := by
  unfold State.step at h
  split at h
  · rename_i call
    split at h
    · cases h
      exact .inl ⟨call, rfl, ‹_›, rfl⟩
    · cases h
  · rename_i promise answer
    split at h
    · rename_i op next hrunning
      cases h
      exact .inr (.inl ⟨promise, answer, op, next, rfl, hrunning, rfl⟩)
    · cases h
  · rename_i call
    split at h
    · rename_i hcall
      split at h
      · rename_i outcome hsettled
        cases h
        exact .inr (.inr (.inl ⟨call, outcome, rfl, hcall, hsettled, rfl⟩))
      · cases h
    · rename_i promise hcall
      split at h
      · rename_i outcome hsettled
        cases h
        exact .inr (.inr (.inr ⟨call, promise, outcome, rfl, hcall, hsettled, rfl⟩))
      · cases h
    · cases h

theorem Sound.step {e : Event} (h : Sound s) (hstep : s.step win32 e = some t) : Sound t := by
  obtain ⟨call, _, hfresh, rfl⟩ | ⟨promise, answer, op, next, _, hrunning, rfl⟩ |
    ⟨call, outcome, _, _, hsettled, rfl⟩ | ⟨call, promise, outcome, _, hcall, _, rfl⟩ :=
    step_cases hstep
  · exact h.release hfresh
  · exact h.answered hrunning
  · exact h.finish hsettled
  · apply h.setCall (by simp)
    intro hheld hslot
    rw [(h.slot call hslot hheld).1] at hcall
    cases hcall

theorem sound_of_runs (h : Runs win32 (opened owner ownerIdentity) es s) : Sound s :=
  h.stateInvariant (sound_opened owner ownerIdentity) (fun hi hs => hi.step hs)

end Histories

end OresLocks.LocalFile.Releasing
