import OresLocks.LocalFile.ReleaseInvariant

/-!
# Overlapping releases of one handle remove it once

Once a handle is released or partly released every later call answers at once; a failure
before that leaves it held, and a later call can succeed.
-/

namespace OresLocks.LocalFile.Releasing

set_option autoImplicit false

open Shared.Programs Shared.Runs

/-- From `s` to `t` the handle stays as it is, no filesystem operation is made, and
every call that started on the way has settled. -/
structure Over (outcome : Except (Option Failure) Unit) (s t : State) : Prop where
  state : t.releaseState = s.releaseState
  error : t.partialReleaseError = s.partialReleaseError
  idle : t.Idle
  log : t.log = s.log
  later : ∀ call state, s.calls call = none → t.calls call = some state →
    state = .settled outcome

/-- What a handle that is no longer held answers. -/
inductive Answers (s : State) : Except (Option Failure) Unit → Prop where
  | released (h : s.releaseState = .released) : Answers s (.ok ())
  | partially (h : s.releaseState = .partially) : Answers s (.error s.partialReleaseError)

section Closed

variable {win32 : Bool} {es : List Event} {s t u : State}
  {outcome : Except (Option Failure) Unit} {call : Nat}

theorem Answers.closed (h : Answers s outcome) : s.releaseState ≠ .held := by
  cases h with
  | released hstate => simp [hstate]
  | partially hstate => simp [hstate]

theorem release_closed (h : Answers s outcome) :
    s.release win32 call = s.setCall call (.settled outcome) := by
  unfold State.release
  cases h with
  | released hstate => rw [hstate]
  | partially hstate => rw [hstate]

theorem finish_closed {result : Except Failure Unit} (h : s.releaseState ≠ .held) :
    s.finish call result = s.settle call result := by
  unfold State.finish
  rw [if_neg fun hclear => h hclear.2]

theorem Over.answers (h : Over outcome s t) (hanswers : Answers s outcome) : Answers t outcome := by
  cases hanswers with
  | released hstate => exact .released (h.state.trans hstate)
  | partially hstate =>
    rw [← h.error]
    exact .partially (h.state.trans hstate)

theorem Over.setCall {state : CallState} (h : Over outcome s t)
    (hstate : s.calls call = none → state = .settled outcome) :
    Over outcome s (t.setCall call state) where
  state := h.state
  error := h.error
  idle := h.idle
  log := h.log
  later := by
    intro other state' hnone hother
    by_cases hne : other = call
    · rw [hne, State.setCall_self] at hother
      cases hother
      exact hstate (hne ▸ hnone)
    · rw [State.setCall_of_ne hne] at hother
      exact h.later other state' hnone hother

theorem Over.step {e : Event} (hanswers : Answers s outcome) (h : Over outcome s t)
    (hstep : t.step win32 e = some u) : Over outcome s u := by
  have hclosed := (h.answers hanswers).closed
  obtain ⟨call, _, _, rfl⟩ | ⟨promise, _, op, next, _, hrunning, rfl⟩ |
    ⟨call, result, _, hcall, _, rfl⟩ | ⟨call, promise, result, _, hcall, _, rfl⟩ :=
    step_cases hstep
  · rw [release_closed (h.answers hanswers)]
    exact h.setCall fun _ => rfl
  · exact absurd hrunning (h.idle promise _)
  · rw [finish_closed hclosed]
    apply h.setCall
    intro hnone
    cases h.later call _ hnone hcall
  · apply h.setCall
    intro hnone
    cases h.later call _ hnone hcall

theorem over_of_runs (hsound : Sound s) (hanswers : Answers s outcome) (h : Runs win32 s es t) :
    Over outcome s t := by
  apply h.stateInvariant ?_ (fun hi hs => hi.step hanswers hs)
  refine ⟨rfl, rfl, hsound.idle_of_closed hanswers.closed, rfl, ?_⟩
  intro call state hnone hcall
  rw [hnone] at hcall
  cases hcall

end Closed

/-- What a program ends in when it gets these answers. -/
def replay {α : Type} : FsProg α → List Answering → Option α
  | .done value, [] => some value
  | .call op next, answer :: answers => replay (next (answer op)) answers
  | _, _ => none

/-- Whatever answers release the lock of a new handle release it in a later call of
this handle too. -/
def CanSucceed (win32 : Bool) (s : State) : Prop :=
  ∀ call answers, s.calls call = none →
    replay (releaseOnce win32 (opened s.owner s.ownerIdentity).lock) answers =
      some (.released, .ok ()) →
    ∃ es t, Runs win32 s es t ∧ t.calls call = some (.settled (.ok ())) ∧
      t.releaseState = .released

section Retries

variable {win32 : Bool} {s t : State} {call promise : Nat}

/-- A release whose answers lead to success settles its promise. -/
theorem runs_of_replay (win32 : Bool) (promise : Nat) {answers : List Answering}
    {rest : FsProg (ReleaseState × Except Failure Unit)}
    (h : replay rest answers = some (.released, .ok ())) (s : State) :
    ∃ t, Runs win32 (s.advance promise rest) (answers.map (.answered promise)) t ∧
      t.promises promise = some (.settled (.ok ())) ∧ t.calls = s.calls ∧
      t.releaseState = .released := by
  induction answers generalizing rest s with
  | nil =>
    cases rest with
    | done value =>
      cases h
      exact ⟨_, .nil, State.setPromise_self, rfl, rfl⟩
    | call op next => cases h
  | cons answer answers ih =>
    cases rest with
    | done value => cases h
    | call op next =>
      have hrunning : (s.advance promise (.call op next)).promises promise =
          some (.running (.call op next)) := State.setPromise_self
      have hrest : replay (next (answer op)) answers = some (.released, .ok ()) := h
      obtain ⟨t, hruns, hpromise, hcalls, hstate⟩ :=
        ih hrest ((s.advance promise (.call op next)).record promise op (answer op))
      refine ⟨t, ?_, hpromise, hcalls, hstate⟩
      have hstep : (s.advance promise (.call op next)).step win32 (.answered promise answer) =
          some (((s.advance promise (.call op next)).record promise op (answer op)).advance promise
            (next (answer op))) := by
        simp [State.step, hrunning]
      exact (Exec.single hstep).append hruns

theorem release_held (win32 : Bool) (call : Nat) (hheld : s.releaseState = .held)
    (hempty : s.releasePromise = none) :
    s.release win32 call = ({ s with releasePromise := some call }.setCall call .initiated).advance
      call (releaseOnce win32 (opened s.owner s.ownerIdentity).lock) := by
  unfold State.release
  split
  · simp_all
  · simp_all
  · rw [hempty]
    rfl

theorem finish_held {outcome : Except Failure Unit} (hheld : s.releaseState = .held)
    (hslot : s.releasePromise = some call) :
    s.finish call outcome = { s.settle call outcome with releasePromise := none } :=
  if_pos ⟨hslot, hheld⟩

/-- With an empty slot a call starts anew. -/
theorem retry_of_empty (win32 : Bool) (hheld : s.releaseState = .held)
    (hempty : s.releasePromise = none) : CanSucceed win32 s := by
  intro call answers hfresh hreplay
  have hstart : s.step win32 (.called call) = some (s.release win32 call) := by
    simp [State.step, hfresh]
  rw [release_held win32 call hheld hempty] at hstart
  obtain ⟨t, hruns, hpromise, hcalls, hstate⟩ := runs_of_replay win32 call hreplay
    ({ s with releasePromise := some call }.setCall call .initiated)
  have hcall : t.calls call = some .initiated := by
    rw [hcalls]
    exact State.setCall_self
  have hresume : t.step win32 (.resumed call) = some (t.settle call (.ok ())) := by
    simp only [State.step, hcall, hpromise]
    rw [finish_closed (by simp [hstate])]
  exact ⟨_, _, ((Exec.single hstart).append hruns).snoc hresume, State.setCall_self, hstate⟩

theorem Sound.canSucceed (h : Sound s) (hidle : s.Idle) (hheld : s.releaseState = .held) :
    CanSucceed win32 s := by
  cases hslot : s.releasePromise with
  | none => exact retry_of_empty win32 hheld hslot
  | some promise =>
    -- the call that made the promise still has to clear the slot
    obtain ⟨hcall, hsome⟩ := h.slot promise hslot hheld
    cases hpromise : s.promises promise with
    | none => exact absurd hpromise hsome
    | some state =>
      cases state with
      | running rest => exact absurd hpromise (hidle promise rest)
      | settled outcome =>
        intro call answers hfresh hreplay
        have hne : call ≠ promise := by
          rintro rfl
          rw [hcall] at hfresh
          cases hfresh
        have hresume : s.step win32 (.resumed promise) =
            some { s.settle promise outcome with releasePromise := none } := by
          simp [State.step, hcall, hpromise, finish_held hheld hslot]
        have hretry : CanSucceed win32 { s.settle promise outcome with releasePromise := none } :=
          retry_of_empty win32 hheld rfl
        obtain ⟨es, t, hruns, hdone⟩ :=
          hretry call answers ((State.setCall_of_ne hne).trans hfresh) hreplay
        exact ⟨_, t, (Exec.single hresume).append hruns, hdone⟩

end Retries

section Main

variable {win32 : Bool} {owner : JsString} {ownerIdentity : Identity} {es : List Event} {s : State}

/-- A failed promise that removed nothing leaves the handle held and at rest. -/
theorem held_of_failure (h : Sound s) {promise : Nat} {answer : Answering} {failure : Failure}
    {t : State} (hstep : s.step win32 (.answered promise answer) = some t)
    (hfailure : t.promises promise = some (.settled (.error failure)))
    (hmarked : ∀ attempt ∈ t.log, attempt.promise = promise → attempt.unlinksOwner = false) :
    t.releaseState = .held ∧ t.Idle := by
  obtain ⟨call, he, _⟩ | ⟨_, _, op, next, he, hrunning, rfl⟩ | ⟨_, _, he, _⟩ | ⟨_, _, _, he, _⟩ :=
    step_cases hstep
  · cases he
  · cases he
    obtain ⟨_, hfits⟩ := h.rest hrunning (answer op)
    cases hnext : next (answer op) with
    | call op' next' =>
      rw [hnext] at hfailure
      cases State.setPromise_self.symm.trans hfailure
    | done value =>
      obtain ⟨releaseState, outcome⟩ := value
      rw [hnext] at hfailure hmarked hfits
      cases State.setPromise_self.symm.trans hfailure
      have hheld := h.stop_held hrunning hfits (by simpa [State.advance] using hmarked)
      exact ⟨hheld, h.stop_idle hrunning⟩
  · cases he
  · cases he

/-- However the calls overlap and whatever the filesystem answers: the marker is unlinked
and the directory removed at most once; a released handle resolves every later call, and
one whose directory could not be removed rejects every later call with that error, both
without a filesystem operation; a release that failed before the unlink leaves the
handle held, and a later call can succeed. -/
theorem overlapping_releases_remove_once (h : Runs win32 (opened owner ownerIdentity) es s) :
    (s.log.countP (·.unlinksOwner) ≤ 1 ∧ s.log.countP (·.removesDirectory) ≤ 1) ∧
    (s.releaseState = .released → ∀ fs t, Runs win32 s fs t → Over (.ok ()) s t) ∧
    (∀ promise error, ⟨promise, .rmdir, some error⟩ ∈ s.log →
      s.releaseState = .partially ∧
      s.promises promise = some (.settled (.error (leftover error))) ∧
      ∀ fs t, Runs win32 s fs t → Over (.error (some (leftover error))) s t) ∧
    (∀ promise answer failure t, s.step win32 (.answered promise answer) = some t →
      t.promises promise = some (.settled (.error failure)) →
      (∀ attempt ∈ t.log, attempt.promise = promise → attempt.unlinksOwner = false) →
      t.releaseState = .held ∧ CanSucceed win32 t) := by
  have hsound := sound_of_runs h
  refine ⟨⟨?_, ?_⟩, ?_, ?_, ?_⟩
  · rw [hsound.orderly.unlinks]
    split <;> simp
  · rw [hsound.orderly.removals]
    split <;> simp
  · intro hreleased fs t hruns
    exact over_of_runs hsound (.released hreleased) hruns
  · intro promise error hmem
    obtain ⟨hstate, herror⟩ := hsound.stuck hmem
    refine ⟨hstate, hsound.failed promise error hmem, ?_⟩
    intro fs t hruns
    have hanswers : Answers s (.error s.partialReleaseError) := .partially hstate
    rw [herror] at hanswers
    exact over_of_runs hsound hanswers hruns
  · intro promise answer failure t hstep hfailure hmarked
    obtain ⟨hheld, hidle⟩ := held_of_failure hsound hstep hfailure hmarked
    exact ⟨hheld, (hsound.step hstep).canSucceed hidle hheld⟩

end Main

section Sample

def sampleIdentity : Identity := ⟨1, 2, 3⟩

/-- A directory with one private marker that holds an `x`. -/
def intact (entry : Option Name) (bytes : Bytes) : Answering
  | .lstat .lock => .ok ⟨.directory, 0o700, 2, 0, sampleIdentity⟩
  | .lstat _ => .ok ⟨.file, 0o600, 1, 1, sampleIdentity⟩
  | .fstat _ => .ok ⟨.file, 0o600, 1, 1, sampleIdentity⟩
  | .openExclusive _ => .ok 0
  | .openRead _ => .ok 0
  | .read _ _ _ => .ok bytes
  | .readDirectory => .ok entry
  | .mkdirParent => .ok ()
  | .mkdir => .ok ()
  | .rmdir => .ok ()
  | .write _ _ => .ok ()
  | .sync _ => .ok ()
  | .close _ => .ok ()
  | .rename _ _ => .ok ()
  | .unlink _ => .ok ()
  | .opendir => .ok ()
  | .closeDirectory => .ok ()
  | .sleep _ => .ok ()

/-- The answers up to the last one, which is for `rmdir`. -/
def checked : List Answering :=
  [intact none [], intact none [], intact none [], intact (some .owner) [], intact none [],
    intact none [], intact none [], intact none [], intact none [], intact none [],
    intact none [], intact none [0x78], intact none [], intact none [], intact none []]

example : replay (releaseOnce false (opened [0x78] sampleIdentity).lock)
    (checked ++ [intact none []]) = some (.released, .ok ()) := rfl

def deviceError : FsError := ⟨some "EIO", "i/o error"⟩

/-- Two overlapping calls; the marker goes and the directory stays. -/
def overlapped : List Event :=
  [.called 0, .called 1] ++ checked.map (.answered 0) ++
    [.answered 0 fun _ => .error deviceError, .resumed 1]

def overlappedEnd : State :=
  (overlapped.foldlM (fun (s : State) e => s.step false e) (opened [0x78] sampleIdentity)).getD
    (opened [0x78] sampleIdentity)

theorem overlapped_releases_stuck :
    overlappedEnd.releaseState = .partially ∧
    overlappedEnd.calls 1 = some (.settled (.error (some (leftover deviceError)))) ∧
    ∀ es t, Runs false overlappedEnd es t →
      Over (.error (some (leftover deviceError))) overlappedEnd t := by
  have hruns : Runs false (opened [0x78] sampleIdentity) overlapped overlappedEnd :=
    Exec.of_foldlM rfl
  have hmem : ⟨0, .rmdir, some deviceError⟩ ∈ overlappedEnd.log :=
    List.mem_of_getLast? rfl
  obtain ⟨_, _, hstuck, _⟩ := overlapping_releases_remove_once hruns
  obtain ⟨hstate, _, hover⟩ := hstuck 0 deviceError hmem
  exact ⟨hstate, rfl, hover⟩

end Sample

end OresLocks.LocalFile.Releasing
