import OresLocks.MaintainedGoRuns
import OresLocks.Shared.Simulation

/-!
# What the maintained routine of the Go package returns

The error returned is nil exactly when the commit was acknowledged and the release found
its grant. Otherwise the failures that occurred are all in its unwrap chain, with the
failure of the release first. Nothing of the call is left after the release, except that
`database/sql` may have yet to roll back a transaction whose commit it refused.
-/

namespace OresLocks.Go

set_option autoImplicit false

open Shared.Runs Shared.Logs State GoError

variable {inputs : Inputs} {grant : LeaseGrant} {s t : State} {input : Input} {is : List Input}

def Input.isReleased : Input → Bool
  | .released _ => true
  | _ => false

/-- The contexts go on after the call has returned. -/
def Input.isContext : Input → Bool
  | .parentCancelled _ => true
  | .parentPropagated => true
  | _ => false

/-- How often the lease has been released at a call. -/
def Pc.releases : Pc → Nat
  | .settled _ => 1
  | _ => 0

/-- What the answers in a history say at a call. -/
def Told (is : List Input) : Pc → Prop
  | .releasing none => .committed (.ok ()) ∈ is
  | .settled result =>
    result = none ↔ .committed (.ok ()) ∈ is ∧ .released (.ok true) ∈ is
  | _ => .committed (.ok ()) ∉ is

theorem settle_none {inner : Option GoError} {answer : Except GoError Bool} :
    settle inputs grant inner answer = none ↔ inner = none ∧ answer = .ok true := by
  unfold settle releaseFailure
  cases answer with
  | error err => simp
  | ok found =>
    cases found with
    | true => simp
    | false => simp

theorem released_count (is : List Input) (input : Input) :
    (is ++ [input]).countP Input.isReleased =
      is.countP Input.isReleased + if input.isReleased = true then 1 else 0 := by
  rw [List.countP_append, List.countP_singleton]

theorem Flow.releases {p q : Pc} (h : Flow inputs grant p input q) :
    q.releases = p.releases + if input.isReleased = true then 1 else 0 := by
  cases h with
  | _ => rfl

theorem Flow.told {p q : Pc} (h : Flow inputs grant p input q) (htold : Told is p)
    (hreleased : p.releases = 0 → ∀ answer, .released answer ∉ is) : Told (is ++ [input]) q := by
  have hkeep {e : Input} (he : e ∉ is) (hne : e ≠ input) : e ∉ is ++ [input] :=
    not_mem_concat he hne
  cases h with
  | committed => exact List.mem_append_right _ (List.mem_singleton_self _)
  | notCommitted err => exact hkeep htold (by intro h; cases h)
  | released answer inner =>
    change settle inputs grant inner answer = none ↔ _
    rw [settle_none]
    have hrelease : .released (.ok true) ∈ is ++ [.released answer] ↔ answer = .ok true := by
      constructor
      · intro hmem
        rcases List.mem_append.mp hmem with hmem | hmem
        · exact absurd hmem (hreleased rfl _)
        · cases List.mem_singleton.mp hmem
          rfl
      · rintro rfl
        exact List.mem_append_right _ (List.mem_singleton_self _)
    rw [hrelease]
    apply and_congr_left
    intro _
    cases inner with
    | none => exact ⟨fun _ => List.mem_append_left _ htold, fun _ => rfl⟩
    | some inner =>
      exact ⟨(by intro h; cases h), fun h => absurd h (hkeep htold (by intro h; cases h))⟩
  | _ => exact hkeep htold (by intro h; cases h)

/-- A background step says nothing about the result. -/
theorem Told.background {p : Pc} (h : Told is p) (hbackground : input.isBackground = true) :
    Told (is ++ [input]) p := by
  have hmem {e : Input} (he : e.isBackground = false) : e ∈ is ++ [input] ↔ e ∈ is := by
    constructor
    · intro hmem
      rcases List.mem_append.mp hmem with hmem | hmem
      · exact hmem
      · rw [List.mem_singleton.mp hmem, hbackground] at he
        cases he
    · exact List.mem_append_left _
  unfold Told at h ⊢
  split
  · exact (hmem rfl).mpr h
  · rw [hmem rfl, hmem rfl]
    exact h
  · rename_i hreleasing hsettled
    rw [hmem rfl]
    split at h
    · exact absurd rfl hreleasing
    · exact absurd rfl (hsettled _)
    · exact h

/-- The history of the release. -/
structure Ended (is : List Input) (s : State) : Prop where
  count : is.countP Input.isReleased = s.pc.releases
  told : Told is s.pc
  last : BeforeEach (fun e => e.isContext = false ∧ e ≠ .txWatched)
    (fun pre => ∀ answer, .released answer ∉ pre) is
  leftOpen : s.pc.closed = true → s.tx = .open → .commitRefused ∈ is
  watched : BeforeEach (· = .txWatched)
    (fun pre => (∃ answer, .released answer ∈ pre) → .commitRefused ∈ pre) is

theorem Ended.unreleased (h : Ended is s) (hpc : s.pc.releases = 0) (answer : Except GoError Bool) :
    .released answer ∉ is := by
  intro hmem
  have hcount := h.count
  rw [hpc, List.countP_eq_zero] at hcount
  exact hcount _ hmem rfl

theorem Flow.open {p q : Pc} (h : Flow inputs grant p input q) : p.releases = 0 := by
  cases h with
  | _ => rfl

theorem background_unreleased (hsteady : Steady s) (hmoves : Moves inputs grant s input t)
    (hbackground : input.isBackground = true) (hcontext : input.isContext = false)
    (hwatched : input ≠ .txWatched) : s.pc.releases = 0 := by
  have hrunning (hphase : s.maintainer.phase ≠ .finished) : s.pc.releases = 0 := by
    cases hpc : s.pc with
    | settled result => exact absurd (hsteady.stopped (by rw [hpc]; rfl)) hphase
    | _ => rfl
  cases hmoves with
  | ticked hphase => exact hrunning (by rw [hphase]; decide)
  | maintainerRenewed answer hphase => exact hrunning (by rw [hphase]; decide)
  | maintainerLeft hphase => exact hrunning (by rw [hphase]; decide)
  | workEndedTx hpc htx =>
    rw [hpc]
    rfl
  | parentCancelled => cases hcontext
  | parentPropagated => cases hcontext
  | txWatched => exact absurd rfl hwatched
  | _ => cases hbackground

theorem leftOpen_step (h : Ended is s) (hsteady : Steady s) (hmoves : Moves inputs grant s input t)
    (hclosed : t.pc.closed = true) (hopen : t.tx = .open) : .commitRefused ∈ is ++ [input] := by
  obtain ⟨hs, hcases⟩ := closed_cases hsteady hmoves hclosed hopen
  rcases hcases with hbefore | ⟨rfl, _⟩
  · exact List.mem_append_left _ (h.leftOpen hbefore hs)
  · exact List.mem_append_right _ (List.mem_singleton_self _)

/-- A transaction that `database/sql` rolls back after the release had its commit refused. -/
theorem watched_step (h : Ended is s) (hmoves : Moves inputs grant s input t)
    (hwatched : input = .txWatched) (hreleased : ∃ answer, .released answer ∈ is) :
    .commitRefused ∈ is := by
  obtain ⟨answer, hmem⟩ := hreleased
  subst hwatched
  cases hmoves with
  | txWatched htx hctx =>
    apply h.leftOpen ?_ htx
    cases hpc : s.pc with
    | settled result => rfl
    | _ => exact absurd hmem (h.unreleased (by rw [hpc]; rfl) answer)

theorem ended_step (h : Ended is s) (hsteady : Steady s) (hmoves : Moves inputs grant s input t) :
    Ended (is ++ [input]) t := by
  rcases hmoves.flow with hflow | ⟨hbackground, hpc⟩
  · refine ⟨?_, hflow.told h.told h.unreleased, h.last.concat fun _ => h.unreleased hflow.open,
      leftOpen_step h hsteady hmoves, h.watched.concat (watched_step h hmoves)⟩
    rw [released_count, hflow.releases, h.count]
  · have hnot : input.isReleased = false := by
      cases input with
      | released answer => cases hbackground
      | _ => rfl
    refine ⟨?_, ?_, h.last.concat fun hother => h.unreleased
      (background_unreleased hsteady hmoves hbackground hother.1 hother.2),
      leftOpen_step h hsteady hmoves, h.watched.concat (watched_step h hmoves)⟩
    · rw [released_count, hnot, hpc, h.count]
      rfl
    · rw [hpc]
      exact h.told.background hbackground

theorem ended_nil (h : s.pc.releases = 0) (htold : Told [] s.pc) (htx : s.tx = .none) :
    Ended [] s := by
  refine ⟨by rw [h]; rfl, htold, BeforeEach.of_forall_not (by simp), ?_,
    BeforeEach.of_forall_not (by simp)⟩
  intro _ hopen
  rw [htx] at hopen
  cases hopen

section Retention

/-- The second error is the first one, perhaps as the cleanup failure of a later error. -/
def SameFailure (err found : GoError) : Prop :=
  found = err ∨ ∃ inner, found = cleanupFailure err (some inner)

/-- The failure can be found in the unwrap chain. -/
def Retained (err result : GoError) : Prop := ∃ found, SameFailure err found ∧ Within found result

def GoError.isLock : GoError → Bool
  | .lock _ _ _ _ _ => true
  | _ => false

/-- The error of `renewChecked`. -/
def renewalFailure (inputs : Inputs) (grant : LeaseGrant) (answer : Except GoError LeaseGrant) :
    Option GoError :=
  match renewChecked grant inputs.acquire.ttl answer with
  | .ok _ => none
  | .error err => some err

/-- The failure an answer reports to the routine. An answer of `BeginTx` or of the lock
query gives way to the cause of the cancellation, and is none. -/
def Input.failure (inputs : Inputs) (grant : LeaseGrant) : Input → Option GoError
  | .worked (.error err) => some err
  | .renewed answer => renewalFailure inputs grant answer
  | .maintainerRenewed answer => renewalFailure inputs grant answer
  | .committed (.error err) => some err
  | .rolledBack (.error err) => if err.isTxDone then none else some err
  | .released answer => releaseFailure inputs grant answer
  | _ => none

/-- The lease reports lock errors. -/
def Input.LeaseErrors : Input → Prop
  | .renewed (.error err) => err.isLock = true
  | .maintainerRenewed (.error err) => err.isLock = true
  | .released (.error err) => err.isLock = true
  | _ => True

/-- The error that the call returns unless something more fails. -/
def Pc.pending : Pc → Option GoError
  | .stopping inner => inner
  | .aborting inner => some inner
  | .rollingBack inner => some inner
  | .releasing inner => inner
  | .settled result => result
  | _ => none

theorem GoError.Within.trans {a b c : GoError} (hab : Within a b) (hbc : Within b c) : Within a c := by
  induction hbc with
  | self => exact hab
  | cause _ ih => exact .cause ih
  | first _ ih => exact .first ih
  | second _ ih => exact .second ih
  | wrapped _ ih => exact .wrapped ih

theorem Retained.self (err : GoError) : Retained err err := ⟨err, Or.inl rfl, .self⟩

theorem Retained.within {err a b : GoError} (h : Retained err a) (hab : Within a b) :
    Retained err b := by
  obtain ⟨found, hsame, hfound⟩ := h
  exact ⟨found, hsame, hfound.trans hab⟩

/-- A lock error takes the earlier error into its chain. -/
theorem within_cleanupFailure {cleanup inner : GoError} (h : cleanup.isLock = true) :
    Within inner (cleanupFailure cleanup (some inner)) := by
  cases cleanup with
  | lock kind key step message cause => exact .cause (.second .self)
  | _ => cases h

theorem retained_cleanupFailure (cleanup : GoError) (inner : Option GoError) :
    Retained cleanup (cleanupFailure cleanup inner) := by
  cases inner with
  | none => exact .self cleanup
  | some inner => exact ⟨_, Or.inr ⟨inner, rfl⟩, .self⟩

theorem tagStep_isLock {err : GoError} (h : err.isLock = true) (step : LockStep) :
    (tagStep err step).isLock = true := by
  cases err with
  | lock kind key found message cause =>
    cases found with
    | none => rfl
    | some found => rfl
  | _ => cases h

theorem renewalFailure_isLock (answer : Except GoError LeaseGrant) {err : GoError}
    (hlease : ∀ err, answer = .error err → err.isLock = true)
    (h : renewalFailure inputs grant answer = some err) : err.isLock = true := by
  unfold renewalFailure renewChecked at h
  cases answer with
  | error cause =>
    cases h
    exact tagStep_isLock (hlease cause rfl) _
  | ok renewed =>
    dsimp only at h
    split at h
    · cases h
    · rename_i hchecked
      cases h
      split at hchecked
      · cases hchecked
        rfl
      · cases hchecked

theorem releaseFailure_isLock {answer : Except GoError Bool} {err : GoError}
    (hlease : ∀ err, answer = .error err → err.isLock = true)
    (h : releaseFailure inputs grant answer = some err) : err.isLock = true := by
  unfold releaseFailure at h
  split at h
  · cases h
  · cases h
    rfl
  · rename_i cause
    cases h
    exact tagStep_isLock (hlease cause rfl) _

/-- No error is lost between two calls. -/
def Passes (p q : Pc) : Prop :=
  ∀ err, p.pending = some err → ∃ next, q.pending = some next ∧ Within err next

theorem Passes.of_none {p q : Pc} (h : p.pending = none) : Passes p q := by
  intro err herr
  rw [h] at herr
  cases herr

theorem Passes.of_eq {p q : Pc} (h : q.pending = p.pending) : Passes p q := by
  intro err herr
  exact ⟨err, h.trans herr, .self⟩

theorem Flow.quiet {p q : Pc} (h : Flow inputs grant p input q) (hp : p.stopped = false)
    (hq : q.stopped = true) : input = .stopReturned := by
  rcases h.stopped hq with hstopped | hinput
  · rw [hp] at hstopped
    cases hstopped
  · exact hinput

theorem passes_stop (h : ∀ f, s.maintainer.failure = some f → f.isLock = true)
    (inner : Option GoError) : Passes (.stopping inner) (s.afterStop inputs inner).pc := by
  intro err herr
  cases inner with
  | none => cases herr
  | some inner =>
    cases herr
    unfold afterStop withFailure
    cases hfailure : s.maintainer.failure with
    | none => exact ⟨err, rfl, .self⟩
    | some failure => exact ⟨_, rfl, within_cleanupFailure (h failure hfailure)⟩

theorem within_rollbackMaintained (inner : GoError) (answer : Answer) :
    Within inner (rollbackMaintained inputs inner answer) := by
  unfold rollbackMaintained
  cases answer with
  | ok value => exact .self
  | error err =>
    dsimp only
    split
    · exact .self
    · exact within_cleanupFailure rfl

theorem Moves.passes (h : Moves inputs grant s input t)
    (hfailure : ∀ f, s.maintainer.failure = some f → f.isLock = true)
    (hlease : input.LeaseErrors) : Passes s.pc t.pc := by
  cases h with
  | stopped inner hpc hphase =>
    rw [hpc]
    exact passes_stop hfailure inner
  | rollbackStarted inner hpc htx =>
    rw [hpc]
    exact .of_eq rfl
  | rollbackVoid inner hpc htx =>
    rw [hpc]
    exact .of_eq rfl
  | rolledBack answer inner hpc =>
    rw [hpc]
    intro err herr
    cases herr
    exact ⟨_, rfl, within_rollbackMaintained inner answer⟩
  | released answer inner hpc =>
    rw [hpc]
    intro err herr
    cases inner with
    | none => cases herr
    | some inner =>
      cases herr
      change ∃ next, settle inputs grant (some err) answer = some next ∧ _
      unfold settle
      cases hrelease : releaseFailure inputs grant answer with
      | none => exact ⟨err, rfl, .self⟩
      | some cleanup =>
        have hlock : cleanup.isLock = true := by
          refine releaseFailure_isLock ?_ hrelease
          intro cause hcause
          rw [hcause] at hlease
          exact hlease
        exact ⟨_, rfl, within_cleanupFailure hlock⟩
  | maintainerRenewed answer hphase =>
    rcases maintainerRead_cases inputs grant s answer with
      ⟨renewed, _, _, h⟩ | ⟨err, h⟩
    · rw [h]
      exact .of_eq rfl
    · rw [h]
      exact .of_eq rfl
  | begun answer hpc => exact .of_none (by rw [hpc]; rfl)
  | stoppedBegin err hpc hphase => exact .of_none (by rw [hpc]; rfl)
  | polled answer elapsed hpc => exact .of_none (by rw [hpc]; rfl)
  | timerFired delay hpc => exact .of_none (by rw [hpc]; rfl)
  | waitCancelled delay done hpc hdone => exact .of_none (by rw [hpc]; rfl)
  | worked answer hpc => exact .of_none (by rw [hpc]; rfl)
  | renewed answer hpc => exact .of_none (by rw [hpc]; rfl)
  | commitStarted hpc hctx htx => exact .of_none (by rw [hpc]; rfl)
  | commitRefused err hpc herr => exact .of_none (by rw [hpc]; rfl)
  | committed answer hpc => exact .of_none (by rw [hpc]; rfl)
  | _ => exact .of_eq rfl

/-- A failure waits with the maintainer until `stop` returns, and then in the error. -/
def Held (s : State) (err : GoError) : Prop :=
  (s.maintainer.failure = some err ∧ s.pc.stopped = false) ∨
    ∃ result, s.pc.pending = some result ∧ Retained err result

/-- `stop` hands the failure of the maintainer over. -/
theorem held_stopReturned (hmoves : Moves inputs grant s .stopReturned t) {err : GoError}
    (hfailure : s.maintainer.failure = some err) : Held t err := by
  cases hmoves with
  | stoppedBegin begin hpc hphase =>
    unfold afterStopBegin
    rw [hfailure]
    exact Or.inr ⟨_, rfl, retained_cleanupFailure err _⟩
  | stopped inner hpc hphase =>
    unfold afterStop withFailure
    rw [hfailure]
    exact Or.inr ⟨_, rfl, retained_cleanupFailure err inner⟩

theorem held_maintainer (hsteady : Steady s) (hmoves : Moves inputs grant s input t) {err : GoError}
    (hfailure : s.maintainer.failure = some err) (hrunning : s.pc.stopped = false) : Held t err := by
  rcases hmoves.flow with hflow | ⟨hbackground, hpc⟩
  · cases hstopped : t.pc.stopped with
    | false =>
      refine Or.inl ⟨?_, hstopped⟩
      rw [(hmoves.callerFrame hflow.caller).failure]
      exact hfailure
    | true =>
      have hinput := hflow.quiet hrunning hstopped
      subst hinput
      exact held_stopReturned hmoves hfailure
  · have hne : s.maintainer.failure ≠ none := by
      rw [hfailure]
      exact Option.some_ne_none err
    refine Or.inl ⟨?_, ?_⟩
    · rw [(hmoves.backgroundFrame hbackground).finished (hsteady.failed hne).1]
      exact hfailure
    · rw [hpc]
      exact hrunning

/-- A failure that is reported is held. -/
theorem held_reported (hsteady : Steady s) (hmoves : Moves inputs grant s input t) {err : GoError}
    (hreports : input.failure inputs grant = some err) : Held t err := by
  cases hmoves with
  | worked answer hpc =>
    cases answer with
    | ok value => cases hreports
    | error cause =>
      cases hreports
      exact Or.inr ⟨_, rfl, (Retained.self err).within (.cause .self)⟩
  | renewed answer hpc =>
    have hreports' : renewalFailure inputs grant answer = some err := hreports
    unfold renewalFailure at hreports'
    split at hreports'
    · cases hreports'
    · rename_i hchecked
      cases hreports'
      unfold afterFinalRenewal
      rw [hchecked]
      exact Or.inr ⟨_, rfl, .self err⟩
  | committed answer hpc =>
    cases answer with
    | ok value => cases hreports
    | error cause =>
      cases hreports
      exact Or.inr ⟨_, rfl, (Retained.self err).within (.cause .self)⟩
  | rolledBack answer inner hpc =>
    cases answer with
    | ok value => cases hreports
    | error cause =>
      have hreports' : (if cause.isTxDone then none else some cause) = some err := hreports
      split at hreports'
      · cases hreports'
      · rename_i hdone
        cases hreports'
        refine Or.inr ⟨_, rfl, ?_⟩
        unfold rollbackMaintained
        dsimp only
        rw [if_neg hdone]
        exact (Retained.self err).within (.cause (.first .self))
  | released answer inner hpc =>
    have hreports' : releaseFailure inputs grant answer = some err := hreports
    refine Or.inr ⟨cleanupFailure err inner, ?_, retained_cleanupFailure err inner⟩
    change settle inputs grant inner answer = _
    unfold settle
    rw [hreports']
  | maintainerRenewed answer hphase =>
    have hreports' : renewalFailure inputs grant answer = some err := hreports
    have hrunning : s.pc.stopped = false := by
      cases hstopped : s.pc.stopped with
      | false => rfl
      | true =>
        rw [hsteady.stopped hstopped] at hphase
        cases hphase
    unfold renewalFailure at hreports'
    split at hreports'
    · cases hreports'
    · rename_i hchecked
      cases hreports'
      unfold maintainerRead
      rw [hchecked]
      exact Or.inl ⟨rfl, hrunning⟩
  | _ => cases hreports

theorem Held.step (hmoves : Moves inputs grant s input t) (hsteady : Steady s)
    (hlocks : ∀ f, s.maintainer.failure = some f → f.isLock = true) (hlease : input.LeaseErrors)
    {err : GoError} (h : Held s err) : Held t err := by
  rcases h with ⟨hfailure, hrunning⟩ | ⟨result, hpending, hretained⟩
  · exact held_maintainer hsteady hmoves hfailure hrunning
  · obtain ⟨next, hnext, hwithin⟩ := hmoves.passes hlocks hlease result hpending
    exact Or.inr ⟨next, hnext, hretained.within hwithin⟩

theorem locks_step (hmoves : Moves inputs grant s input t)
    (hlocks : ∀ f, s.maintainer.failure = some f → f.isLock = true) (hlease : input.LeaseErrors) :
    ∀ f, t.maintainer.failure = some f → f.isLock = true := by
  intro f hf
  cases hbackground : input.isBackground with
  | false =>
    rw [(hmoves.callerFrame hbackground).failure] at hf
    exact hlocks f hf
  | true =>
    cases hmoves with
    | maintainerRenewed answer hphase =>
      unfold maintainerRead at hf
      cases hchecked : renewChecked grant inputs.acquire.ttl answer with
      | ok renewed =>
        rw [hchecked] at hf
        exact hlocks f hf
      | error err =>
        rw [hchecked] at hf
        cases hf
        have hfails : renewalFailure inputs grant answer =
            some f := by
          unfold renewalFailure
          rw [hchecked]
        refine renewalFailure_isLock answer ?_ hfails
        intro cause hcause
        rw [hcause] at hlease
        exact hlease
    | ticked => exact hlocks f hf
    | maintainerLeft => exact hlocks f hf
    | parentCancelled => exact hlocks f hf
    | parentPropagated => exact hlocks f hf
    | txWatched => exact hlocks f hf
    | workEndedTx => exact hlocks f hf
    | _ => cases hbackground

/-- The failure of the release leads. -/
def Leads (inputs : Inputs) (grant : LeaseGrant) (is : List Input) (p : Pc) : Prop :=
  ∀ answer err, .released answer ∈ is → releaseFailure inputs grant answer = some err →
    ∃ result, p = .settled (some result) ∧ SameFailure err result

theorem leads_step (h : Leads inputs grant is s.pc) (hended : Ended is s)
    (hmoves : Moves inputs grant s input t) : Leads inputs grant (is ++ [input]) t.pc := by
  intro answer err hmem hfailure
  rcases List.mem_append.mp hmem with hmem | hmem
  · rcases hmoves.flow with hflow | ⟨_, hpc⟩
    · exact absurd hmem (hended.unreleased hflow.open answer)
    · rw [hpc]
      exact h answer err hmem hfailure
  · have hinput := List.mem_singleton.mp hmem
    subst hinput
    cases hmoves with
    | released _ inner hpc =>
      refine ⟨cleanupFailure err inner, ?_, ?_⟩
      · change Pc.settled (settle inputs grant inner answer) = _
        unfold settle
        rw [hfailure]
      · cases inner with
        | none => exact Or.inl rfl
        | some inner => exact Or.inr ⟨inner, rfl⟩

/-- When the lease reports lock errors, a call that ends returns an error in whose chain
every failure reported to it can be found; a failed release comes first. -/
theorem failures_stay_in_chain (inputs : Inputs) (present : Present)
    (answer : Except GoError LeaseGrant) :
    match withMaintainedXactLock inputs present answer with
    | .ended _ => True
    | .held grant start => ∀ is s result, Exec (Step inputs grant) start is s →
        (∀ e ∈ is, e.LeaseErrors) → s.pc = .settled result →
        (∀ err, start.pc.pending = some err → ∃ found, result = some found ∧ Retained err found) ∧
        (∀ e ∈ is, ∀ err, e.failure inputs grant = some err →
          ∃ found, result = some found ∧ Retained err found) ∧
        ∀ answer err, .released answer ∈ is → releaseFailure inputs grant answer = some err →
          ∃ found, result = some found ∧ SameFailure err found := by
  cases hsession : withMaintainedXactLock inputs present answer with
  | ended result => trivial
  | held grant start =>
    intro is s result hrun hlease hsettled
    have hstart : Steady start ∧ Ended [] start ∧ start.maintainer.failure = none := by
      rcases opened_of_valid hsession with ⟨rfl, _⟩ | ⟨err, rfl⟩
      · exact ⟨steady_opened, ended_nil rfl List.not_mem_nil rfl, rfl⟩
      · exact ⟨steady_refused err, ended_nil rfl List.not_mem_nil rfl, rfl⟩
    obtain ⟨hsteady, hended, hnone⟩ := hstart
    have hkept := (hrun.restrict hlease).invariant (I := fun is s =>
      (Steady s ∧ Ended is s ∧ ∀ f, s.maintainer.failure = some f → f.isLock = true) ∧
      (∀ err, start.pc.pending = some err → Held s err) ∧
      (∀ e ∈ is, ∀ err, e.failure inputs grant = some err → Held s err) ∧
      Leads inputs grant is s.pc)
      ⟨⟨hsteady, hended, by rw [hnone]; intro f hf; cases hf⟩,
        fun err herr => Or.inr ⟨err, herr, .self err⟩, by simp, by intro answer err hmem; simp at hmem⟩
      ?_
    · obtain ⟨_, hpending, hreported, hleads⟩ := hkept
      have hfound {err : GoError} (h : Held s err) :
          ∃ found, result = some found ∧ Retained err found := by
        rcases h with ⟨_, hrunning⟩ | ⟨found, hpending, hretained⟩
        · rw [hsettled] at hrunning
          cases hrunning
        · rw [hsettled] at hpending
          exact ⟨found, hpending, hretained⟩
      refine ⟨fun err herr => hfound (hpending err herr),
        fun e he err herr => hfound (hreported e he err herr), ?_⟩
      intro answer err hmem hfailure
      obtain ⟨found, hpc, hsame⟩ := hleads answer err hmem hfailure
      rw [hsettled] at hpc
      cases hpc
      exact ⟨found, rfl, hsame⟩
    · intro is s input t _ h hstep
      obtain ⟨⟨hsteady, hended, hlocks⟩, hpending, hreported, hleads⟩ := h
      obtain ⟨hstep, hlease⟩ := hstep
      have hmoves := step_moves hstep
      have hheld {err : GoError} (h : Held s err) : Held t err :=
        h.step hmoves hsteady hlocks hlease
      refine ⟨⟨steady_step hsteady hmoves, ended_step hended hsteady hmoves,
        locks_step hmoves hlocks hlease⟩, fun err herr => hheld (hpending err herr), ?_,
        leads_step hleads hended hmoves⟩
      apply forall_mem_concat
      · intro e he err herr
        exact hheld (hreported e he err herr)
      · intro err herr
        exact held_reported hsteady hmoves herr

/-- The work fails, and the release finds no grant. -/
def failingSchedule : List Input :=
  [.begun (.ok ()), .polled (.ok true) 0, .worked (.error (.foreign "boom")), .maintainerLeft,
    .stopReturned, .rollbackStarted, .rolledBack (.ok ()), .released (.ok false)]

def failingResult : GoError :=
  cleanupFailure (releaseLost sampleInputs sampleGrant) (some (workErr "k" (.foreign "boom")))

def failingEnd : State where
  pc := .settled (some failingResult)
  maintainer := ⟨.finished, true, none⟩
  parent := none
  workCtx := none
  tx := .done

theorem failing_exec : Exec (Step sampleInputs sampleGrant) opened failingSchedule failingEnd :=
  Exec.of_foldlM rfl

theorem sample_failures_stay_in_chain : Retained (.foreign "boom") failingResult ∧
    SameFailure (releaseLost sampleInputs sampleGrant) failingResult := by
  have h := failures_stay_in_chain sampleInputs samplePresent (.ok sampleGrant)
  rw [sample_held] at h
  have hlease : ∀ e ∈ failingSchedule, e.LeaseErrors := by
    intro e he
    simp only [failingSchedule, List.mem_cons, List.not_mem_nil, or_false] at he
    rcases he with rfl | rfl | rfl | rfl | rfl | rfl | rfl | rfl
    all_goals trivial
  obtain ⟨_, hreported, hleads⟩ := h failingSchedule failingEnd _ failing_exec hlease rfl
  obtain ⟨found, hfound, hretained⟩ :=
    hreported (.worked (.error (.foreign "boom"))) (by simp [failingSchedule]) _ rfl
  obtain ⟨first, hfirst, hsame⟩ := hleads (.ok false) _ (by simp [failingSchedule]) rfl
  cases hfound
  cases hfirst
  exact ⟨hretained, hsame⟩

end Retention

end OresLocks.Go
