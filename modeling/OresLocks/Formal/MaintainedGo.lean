import OresLocks.Formal.MaintainedEffects
import OresLocks.MaintainedGoRuns

/-!
# The Go routine is a refinement of the maintained model

Here too the routine looks at its maintainer only when the work has returned, and the model
owes a failed renewal until then. A grant that is refused counts as a failed begin. A
transaction that `database/sql` has rolled back counts as rolled back when the routine
asks for it, and a commit that it refuses as a failed one.
-/

namespace OresLocks.Go

set_option autoImplicit false

open Shared.Runs State
open OresLocks.Formal

variable {inputs : Inputs} {grant : LeaseGrant} {s t : State}

def releaseAnswer : Except GoError Bool → Maintained.ReleaseAnswer
  | .ok true => .released
  | .ok false => .mismatch
  | .error _ => .failed

/-- `Rollback` has failed. -/
def rollbackFails : Answer → Bool
  | .ok () => false
  | .error err => !err.isTxDone

/-- What an answer means to the database and the authority. -/
def Input.effects (inputs : Inputs) (grant : LeaseGrant) : Input → List Maintained.Effect
  | .begun (.ok ()) => [.began]
  | .polled (.ok true) _ => [.locked]
  | .renewed answer => [.renewed (renewChecked grant inputs.acquire.ttl answer).isOk]
  | .commitRefused => [.committed false]
  | .committed answer => [.committed answer.isOk]
  | .rollbackVoid => [.rolledBack true]
  | .rolledBack answer => [.rolledBack !rollbackFails answer]
  | .released answer => [.released (releaseAnswer answer)]
  | _ => []

/-- The answer to a renewal of the maintainer. -/
def Input.renewals (inputs : Inputs) (grant : LeaseGrant) : Input → List Bool
  | .maintainerRenewed answer => [(renewChecked grant inputs.acquire.ttl answer).isOk]
  | _ => []

/-- The phase of the model at each call of the routine. -/
def AtPhase (p : Pc) (m : Maintained.State) : Prop :=
  match p with
  | .beginning => m.phase = .begin
  | .stoppingBegin _ => m.phase = .begin
  | .polling => m.phase = .lock
  | .waiting _ => m.phase = .lock
  | .working => m.phase = .work
  | .stopping inner => m.phase = .lock ∧ inner ≠ none ∨ m.phase = .work
  | .renewing => m.phase = .finalRenew
  | .admitted => m.phase = .commit
  | .committing => m.phase = .commit
  | .aborting _ => m.phase = .rollback
  | .rollingBack _ => m.phase = .rollback
  | .releasing inner => m.phase = .release ∧ (m.primaryFailure = none ↔ inner = none)
  | .settled result => m.phase = .done ∧ (m.result = some .success ↔ result = none)

theorem atPhase_renews {p : Pc} {m : Maintained.State} (h : AtPhase p m) :
    m.phase.renews = !p.stopped := by
  cases p with
  | releasing inner =>
    rw [h.1]
    rfl
  | settled result =>
    rw [h.1]
    rfl
  | stopping inner =>
    rcases h with ⟨hphase, _⟩ | hphase
    · rw [hphase]
      rfl
    · rw [hphase]
      rfl
  | _ =>
    rw [show m.phase = _ from h]
    rfl

/-- While the model waits in its phase, it may count renewals. -/
theorem atPhase_renewed {p : Pc} {m m' : Maintained.State} (h : AtPhase p m)
    (hrenews : m.phase.renews = true) (hsame : m'.phase = m.phase) : AtPhase p m' := by
  have hover {phase : Maintained.Phase} (hm : m.phase = phase) (hlast : phase.renews = false) :
      False := by
    rw [hm, hlast] at hrenews
    cases hrenews
  unfold AtPhase at h ⊢
  rw [hsame]
  cases p with
  | releasing inner => exact (hover h.1 rfl).elim
  | settled result => exact (hover h.1 rfl).elim
  | _ => exact h

/-- A run of the routine with a state of the model that trails it. -/
structure Related (o : Maintained.Options) (inputs : Inputs) (grant : LeaseGrant) (is : List Input)
    (s : State) (m : Maintained.State) : Prop where
  trailing : Maintained.Trailing o (observed (Input.effects inputs grant) is)
    (observed (Input.renewals inputs grant) is) s.maintainer.failure.isSome m
  atPhase : AtPhase s.pc m
  steady : Steady s

/-- The model that trails the routine at the call `q`. -/
def Tracks (o : Maintained.Options) (effects : List Maintained.Effect) (renewals : List Bool)
    (lost : Bool) (q : Pc) : Prop :=
  ∃ m, Maintained.Trailing o effects renewals lost m ∧ AtPhase q m

section Steps

variable {o : Maintained.Options} {m m' : Maintained.State} {e : Maintained.Edge} {p q : Pc}
  {input : Input} {effects : List Maintained.Effect} {renewals : List Bool} {lost : Bool}

theorem tracks_stutter (h : Maintained.Trailing o effects renewals lost m) (hat : AtPhase q m) :
    Tracks o (effects ++ []) renewals lost q := by
  rw [List.append_nil]
  exact ⟨m, h, hat⟩

theorem tracks_step (h : Maintained.Trailing o effects renewals lost m)
    (hstep : Maintained.Step o m e m') (hquiet : e.renewals = [])
    (hphase : m'.phase.renews = m.phase.renews ∨ lost = false) (hat : AtPhase q m') :
    Tracks o (effects ++ e.effects) renewals lost q := by
  have howed : Maintained.owed m'.phase lost = Maintained.owed m.phase lost := by
    unfold Maintained.owed
    rcases hphase with hphase | hkept
    · rw [hphase]
    · rw [hkept, Bool.and_false, Bool.and_false]
  exact ⟨m', h.step hstep hquiet howed, hat⟩

theorem atPhase_failed {err : GoError} (hphase : m.phase = .release)
    (hprimary : m.primaryFailure ≠ none) : AtPhase (.releasing (some err)) m :=
  ⟨hphase, fun h => absurd h hprimary, fun h => absurd h (Option.some_ne_none err)⟩

/-- `stop` has returned an error: the model takes the transition of what failed. -/
theorem tracks_aborts (h : Maintained.Trailing o effects renewals lost m)
    {inner : Option GoError} {err : GoError} (hat : AtPhase (.stopping inner) m) :
    Tracks o (effects ++ []) renewals lost (.aborting err) := by
  have hphase : m.phase = .lock ∨ m.phase = .work := by
    rcases hat with ⟨hphase, _⟩ | hphase
    · exact Or.inl hphase
    · exact Or.inr hphase
  cases lost with
  | true =>
    obtain ⟨m', hstep, hphase'⟩ := Maintained.open_loses (o := o) hphase
    rw [List.append_nil]
    exact ⟨m', h.lose (Maintained.Phase.renews_iff.mpr (Or.inr hphase)) hstep
      (by rw [hphase']; rfl), hphase'⟩
  | false =>
    rcases hphase with hphase | hphase
    · obtain ⟨m', hstep, hphase'⟩ := Maintained.lock_fails (o := o) hphase
      exact tracks_step h hstep rfl (Or.inr rfl) hphase'
    · obtain ⟨m', hstep, hphase'⟩ := Maintained.work_fails (o := o) hphase
      exact tracks_step h hstep rfl (Or.inr rfl) hphase'

theorem tracks_unbegun (h : Maintained.Trailing o effects renewals lost m) (hphase : m.phase = .begin)
    (err : GoError) : Tracks o (effects ++ []) renewals lost (.releasing (some err)) := by
  cases lost with
  | true =>
    obtain ⟨m', hstep, hphase', hprimary⟩ := Maintained.begin_loses (o := o) hphase
    rw [List.append_nil]
    exact ⟨m', h.lose (by rw [hphase]; rfl) hstep (by rw [hphase']; rfl),
      atPhase_failed hphase' hprimary⟩
  | false =>
    obtain ⟨m', hstep, hphase', hprimary⟩ := Maintained.begin_fails (o := o) hphase
    exact tracks_step h hstep rfl (Or.inr rfl) (atPhase_failed hphase' hprimary)

theorem polled_effects {answer : Except GoError Bool} (elapsed : Int) (h : answer ≠ .ok true) :
    Input.effects inputs grant (.polled answer elapsed) = [] := by
  cases answer with
  | error err => rfl
  | ok acquired =>
    cases acquired with
    | true => exact absurd rfl h
    | false => rfl

theorem renewed_effects {answer : Except GoError LeaseGrant} (h : Refuses inputs grant answer) :
    Input.effects inputs grant (.renewed answer) = [.renewed false] := by
  unfold Input.effects
  dsimp only
  cases hrenewed : renewChecked grant inputs.acquire.ttl answer with
  | ok renewed => exact absurd hrenewed (h renewed)
  | error err => rfl

theorem tracks_rolledBack (h : Maintained.Trailing o effects renewals lost m)
    (hphase : m.phase = .rollback) {err : GoError} (ok : Bool) :
    Tracks o (effects ++ [.rolledBack ok]) renewals lost (.releasing (some err)) := by
  cases ok with
  | true =>
    obtain ⟨m', hstep, hphase', hprimary⟩ := Maintained.rollback_succeeds h.shape hphase
    exact tracks_step h hstep rfl (Or.inl (by rw [hphase, hphase']; rfl))
      (atPhase_failed hphase' hprimary)
  | false =>
    obtain ⟨m', hstep, hphase', hprimary⟩ := Maintained.rollback_fails (o := o) hphase
    exact tracks_step h hstep rfl (Or.inl (by rw [hphase, hphase']; rfl))
      (atPhase_failed hphase' hprimary)

theorem tracks_commitFailed (h : Maintained.Trailing o effects renewals lost m)
    (hphase : m.phase = .commit) {err : GoError} :
    Tracks o (effects ++ [.committed false]) renewals lost (.releasing (some err)) := by
  obtain ⟨m', hstep, hphase', hprimary⟩ := Maintained.commit_fails (o := o) hphase
  exact tracks_step h hstep rfl (Or.inl (by rw [hphase, hphase']; rfl))
    (atPhase_failed hphase' hprimary)

theorem tracks_released (h : Maintained.Trailing o effects renewals lost m)
    {inner : Option GoError} (hat : AtPhase (.releasing inner) m) (answer : Except GoError Bool) :
    Tracks o (effects ++ [.released (releaseAnswer answer)]) renewals lost
      (.settled (settle inputs grant inner answer)) := by
  obtain ⟨hphase, hprimary⟩ := hat
  obtain ⟨e, m', hstep, heffects, hquiet, hphase', hresult⟩ :=
    Maintained.release_ends h.shape hphase (releaseAnswer answer)
  rw [← heffects]
  refine tracks_step h hstep hquiet (Or.inl (by rw [hphase, hphase']; rfl)) ⟨hphase', ?_⟩
  rw [hresult, hprimary]
  unfold settle releaseFailure
  cases answer with
  | error err => simp [releaseAnswer]
  | ok found =>
    cases found with
    | true => simp [releaseAnswer]
    | false => simp [releaseAnswer]

/-- Every call of the routine follows the model. Work that has succeeded goes on to the
final renewal only with a maintainer that has not failed. -/
theorem tracks_flow (hrequired : o.requireFinalRenewal = true)
    (h : Maintained.Trailing o effects renewals lost m) (hat : AtPhase p m)
    (hflow : Flow inputs grant p input q) (hproceeds : q = .renewing → lost = false) :
    Tracks o (effects ++ input.effects inputs grant) renewals lost q := by
  cases hflow with
  | begun =>
    obtain ⟨m', hstep, hphase⟩ := Maintained.begin_succeeds (o := o) hat
    exact tracks_step h hstep rfl (Or.inl (by rw [hphase, show m.phase = _ from hat]; rfl)) hphase
  | notBegun err => exact tracks_stutter h hat
  | stoppedBegin err result => exact tracks_unbegun h hat result
  | locked elapsed =>
    obtain ⟨m', hstep, hphase⟩ := Maintained.lock_succeeds (o := o) hat
    exact tracks_step h hstep rfl (Or.inl (by rw [hphase, show m.phase = _ from hat]; rfl)) hphase
  | notLocked answer elapsed err hanswer =>
    rw [polled_effects elapsed hanswer]
    exact tracks_stutter h (Or.inl ⟨hat, Option.some_ne_none err⟩)
  | contended answer elapsed delay hanswer =>
    rw [polled_effects elapsed hanswer]
    exact tracks_stutter h hat
  | timerFired delay => exact tracks_stutter h hat
  | waitCancelled delay err => exact tracks_stutter h (Or.inl ⟨hat, Option.some_ne_none err⟩)
  | worked => exact tracks_stutter h (Or.inr hat)
  | workFailed err => exact tracks_stutter h (Or.inr hat)
  | proceeds =>
    rcases hat with ⟨_, hne⟩ | hphase
    · exact absurd rfl hne
    · obtain ⟨m', hstep, hphase'⟩ := Maintained.work_succeeds hrequired hphase
      exact tracks_step h hstep rfl (Or.inr (hproceeds rfl)) hphase'
  | aborts inner err => exact tracks_aborts h hat
  | renewed renewed hextends =>
    obtain ⟨m', hstep, hphase⟩ := Maintained.finalRenew_succeeds (o := o) hat
    have heffects : Input.effects inputs grant (.renewed (.ok renewed)) = [.renewed true] := by
      unfold Input.effects
      dsimp only
      rw [renewChecked_extends hextends]
      rfl
    rw [heffects]
    exact tracks_step h hstep rfl (Or.inl (by rw [hphase, show m.phase = _ from hat]; rfl)) hphase
  | notRenewed answer err hrefuses =>
    obtain ⟨m', hstep, hphase⟩ := Maintained.finalRenew_fails (o := o) hat
    rw [renewed_effects hrefuses]
    exact tracks_step h hstep rfl (Or.inl (by rw [hphase, show m.phase = _ from hat]; rfl)) hphase
  | commitStarted => exact tracks_stutter h hat
  | commitRefused err => exact tracks_commitFailed h hat
  | committed =>
    obtain ⟨m', hstep, hphase, hprimary⟩ := Maintained.commit_succeeds h.shape hat
    exact tracks_step h hstep rfl (Or.inl (by rw [hphase, show m.phase = _ from hat]; rfl))
      ⟨hphase, fun _ => rfl, fun _ => hprimary⟩
  | notCommitted err => exact tracks_commitFailed h hat
  | rollbackStarted inner => exact tracks_stutter h hat
  | rollbackVoid inner => exact tracks_rolledBack h hat true
  | rolledBack answer inner => exact tracks_rolledBack h hat _
  | released answer inner => exact tracks_released h hat answer

variable {is : List Input}

/-- The lease authority answers the maintainer: the model renews at once, or owes the
failure. -/
theorem related_renewed (h : Related o inputs grant is s m) (hmoves : Moves inputs grant s input t)
    {answer : Except GoError LeaseGrant} (hinput : input = .maintainerRenewed answer)
    (hbound : (observed (Input.renewals inputs grant) (is ++ [input])).count true ≤
      o.maxPeriodicRenewals) : ∃ m, Related o inputs grant (is ++ [input]) t m := by
  have hsteady := steady_step h.steady hmoves
  cases hmoves with
  | maintainerRenewed answer' hphase =>
    cases hinput
    have hactive : s.maintainer.phase ≠ .finished := by
      rw [hphase]
      decide
    have hnone : s.maintainer.failure = none := by
      by_contra hfailure
      exact hactive (h.steady.failed hfailure).1
    have hrenews : m.phase.renews = true := by
      rw [atPhase_renews h.atPhase]
      cases hstopped : s.pc.stopped with
      | true => exact absurd (h.steady.stopped hstopped) hactive
      | false => rfl
    have hpc : (s.maintainerRead inputs grant answer).pc = s.pc := by
      unfold maintainerRead
      split
      · rfl
      · rfl
    have htrailing := h.trailing
    rw [hnone, Option.isSome_none] at htrailing
    have heffects : observed (Input.effects inputs grant) (is ++ [Input.maintainerRenewed answer]) =
        observed (Input.effects inputs grant) is := by
      rw [observed_append, observed_singleton]
      exact List.append_nil _
    have hrenewals : observed (Input.renewals inputs grant) (is ++ [Input.maintainerRenewed answer]) =
        observed (Input.renewals inputs grant) is ++
          [(renewChecked grant inputs.acquire.ttl answer).isOk] := by
      rw [observed_append, observed_singleton]
      rfl
    rw [hrenewals] at hbound
    cases hrenewed : renewChecked grant inputs.acquire.ttl answer with
    | ok renewed =>
      rw [hrenewed] at hbound hrenewals
      obtain ⟨m', hsame, htrailing'⟩ := htrailing.renewed hrenews hbound
      have hkept : (s.maintainerRead inputs grant answer).maintainer.failure = none := by
        unfold maintainerRead
        rw [hrenewed]
        exact hnone
      refine ⟨m', ?_, ?_, hsteady⟩
      · rw [heffects, hrenewals, hkept]
        exact htrailing'
      · rw [hpc]
        exact atPhase_renewed h.atPhase hrenews hsame
    | error err =>
      rw [hrenewed] at hrenewals
      have hlost : (s.maintainerRead inputs grant answer).maintainer.failure = some err := by
        unfold maintainerRead
        rw [hrenewed]
      refine ⟨m, ?_, ?_, hsteady⟩
      · rw [heffects, hrenewals, hlost]
        exact htrailing.failed hrenews
      · rw [hpc]
        exact h.atPhase
  | _ => cases hinput

/-- A step besides the routine leaves the recorded failure alone, unless it is an answer to
a renewal. -/
theorem Moves.quiet_background (h : Moves inputs grant s input t)
    (hbackground : input.isBackground = true) :
    (∃ answer, input = .maintainerRenewed answer) ∨
      input.effects inputs grant = [] ∧ input.renewals inputs grant = [] ∧
        t.maintainer.failure = s.maintainer.failure := by
  cases h with
  | maintainerRenewed answer hphase => exact Or.inl ⟨answer, rfl⟩
  | ticked hphase => exact Or.inr ⟨rfl, rfl, rfl⟩
  | maintainerLeft hphase => exact Or.inr ⟨rfl, rfl, rfl⟩
  | parentCancelled done hparent => exact Or.inr ⟨rfl, rfl, rfl⟩
  | parentPropagated hctx hparent => exact Or.inr ⟨rfl, rfl, rfl⟩
  | txWatched htx hctx => exact Or.inr ⟨rfl, rfl, rfl⟩
  | workEndedTx hpc htx => exact Or.inr ⟨rfl, rfl, rfl⟩
  | _ => cases hbackground

theorem Flow.quiet_renewals (h : Flow inputs grant p input q) : input.renewals inputs grant = [] := by
  cases h with
  | _ => rfl

theorem related_step (hrequired : o.requireFinalRenewal = true)
    (h : Related o inputs grant is s m) (hmoves : Moves inputs grant s input t)
    (hbound : (observed (Input.renewals inputs grant) (is ++ [input])).count true ≤
      o.maxPeriodicRenewals) : ∃ m, Related o inputs grant (is ++ [input]) t m := by
  have hsteady := steady_step h.steady hmoves
  rcases hmoves.flow with hflow | ⟨hbackground, hpc⟩
  · have hfailure := (hmoves.callerFrame hflow.caller).failure
    have hproceeds : t.pc = .renewing → s.maintainer.failure.isSome = false := by
      intro hq
      have hclean := hsteady.clean (by rw [hq]; decide)
      rw [← hfailure, hclean]
      rfl
    obtain ⟨m', htrailing, hat⟩ := tracks_flow hrequired h.trailing h.atPhase hflow hproceeds
    refine ⟨m', ?_, hat, hsteady⟩
    rw [observed_append, observed_append, observed_singleton, observed_singleton,
      hflow.quiet_renewals, List.append_nil, hfailure]
    exact htrailing
  · rcases hmoves.quiet_background hbackground with ⟨answer, hinput⟩ | ⟨heffects, hrenewals, hfailure⟩
    · exact related_renewed h hmoves hinput hbound
    · refine ⟨m, ?_, ?_, hsteady⟩
      · rw [observed_append, observed_append, observed_singleton, observed_singleton, heffects,
          hrenewals, List.append_nil, List.append_nil, hfailure]
        exact h.trailing
      · rw [hpc]
        exact h.atPhase

end Steps

/-- The runs in which the work leaves the transaction to the routine. -/
def CooperativeStep (inputs : Inputs) (grant : LeaseGrant) (s : State) (input : Input) (t : State) :
    Prop :=
  Step inputs grant s input t ∧ input ≠ .workEndedTx

/-- Every run that renews no more often than the bound of the model is trailed by it. -/
theorem run_related {o : Maintained.Options} (hrequired : o.requireFinalRenewal = true)
    {start : State} {is : List Input} {m : Maintained.State}
    (hstart : Related o inputs grant [] start m)
    (hrun : Exec (CooperativeStep inputs grant) start is s) :
    (observed (Input.renewals inputs grant) is).count true ≤ o.maxPeriodicRenewals →
      ∃ m, Related o inputs grant is s m := by
  refine hrun.invariant (I := fun is s =>
    (observed (Input.renewals inputs grant) is).count true ≤ o.maxPeriodicRenewals →
      ∃ m, Related o inputs grant is s m) (fun _ => ⟨m, hstart⟩) ?_
  intro is s input t _ ih hstep hbound
  have hbefore : (observed (Input.renewals inputs grant) is).count true ≤
      o.maxPeriodicRenewals := by
    rw [observed_append, List.count_append] at hbound
    omega
  obtain ⟨m, hrel⟩ := ih hbefore
  exact related_step hrequired hrel (step_moves hstep.1) hbound

/-- A grant that is refused fails the begin of the model. -/
theorem related_start (o : Maintained.Options) {inputs : Inputs} {grant : LeaseGrant} {start : State}
    (h : start = opened ∨ ∃ err, start = refused err) : ∃ m, Related o inputs grant [] start m := by
  rcases h with rfl | ⟨err, rfl⟩
  · exact ⟨Maintained.granted, Maintained.Trailing.start o, rfl, steady_opened⟩
  · obtain ⟨m, htrailing, hat⟩ :=
      tracks_unbegun (Maintained.Trailing.start o) rfl err
    exact ⟨m, htrailing, hat, steady_refused err⟩

/-- Every interleaving of the two goroutines, the contexts and `database/sql` is a run of
the maintained model, once it allows that many renewals, with the same effects and the same
renewals. What the model asserts holds of it, and it succeeds exactly when the call returns
nil. -/
theorem go_refines_maintained_model (o : Maintained.Options)
    (hrequired : o.requireFinalRenewal = true) (inputs : Inputs) (present : Present)
    (answer : Except GoError LeaseGrant) :
    match withMaintainedXactLock inputs present answer with
    | .ended _ => preflight inputs present = none →
        ∃ m, Exec (Maintained.Step o) Maintained.initialState [.acquireFailure] m
    | .held grant start => ∀ is s, Exec (CooperativeStep inputs grant) start is s →
        (observed (Input.renewals inputs grant) is).count true ≤ o.maxPeriodicRenewals →
        ∃ es m, Exec (Maintained.Step o) Maintained.initialState (.acquireSuccess :: es) m ∧
          observed Maintained.Edge.effects es = observed (Input.effects inputs grant) is ∧
          observed Maintained.Edge.renewals es = observed (Input.renewals inputs grant) is ∧
          Maintained.Asserts o m ∧ ∀ result, s.pc = .settled result →
            m.phase = .done ∧ (m.result = some .success ↔ result = none) := by
  cases hsession : withMaintainedXactLock inputs present answer with
  | ended result => exact fun _ => ⟨_, .single (Maintained.acquire_fails o)⟩
  | held grant start =>
    intro is s hrun hbound
    have hopened : start = opened ∨ ∃ err, start = refused err := by
      rcases opened_of_valid hsession with ⟨hopened, _⟩ | hrefused
      · exact Or.inl hopened
      · exact Or.inr hrefused
    obtain ⟨m, hstart⟩ := related_start o hopened
    obtain ⟨last, hrel⟩ := run_related hrequired hstart hrun hbound
    obtain ⟨es, m', hmodel, heffects, hrenewals, hasserts, hsame⟩ := hrel.trailing.paid
    refine ⟨es, m', hmodel, heffects, hrenewals, hasserts, ?_⟩
    intro result hpc
    have hat := hrel.atPhase
    rw [hpc] at hat
    rw [hsame (by rw [hat.1]; rfl)]
    exact hat

theorem sample_refines_maintained_model :
    ∃ es m, Exec (Maintained.Step Maintained.production) Maintained.initialState
        (.acquireSuccess :: es) m ∧
      observed Maintained.Edge.effects es =
        [.began, .locked, .renewed true, .committed true, .released .released] ∧
      observed Maintained.Edge.renewals es = [true] ∧ m.result = some .success := by
  have h := go_refines_maintained_model Maintained.production rfl sampleInputs samplePresent
    (.ok sampleGrant)
  rw [sample_held] at h
  have hcooperative : ∀ input ∈ sampleSchedule, input ≠ .workEndedTx := by
    intro input hinput heq
    rw [heq] at hinput
    simp [sampleSchedule] at hinput
  obtain ⟨es, m, hmodel, heffects, hrenewals, _, hsettled⟩ :=
    h sampleSchedule sampleEnd (sample_exec.restrict hcooperative) (by decide)
  obtain ⟨_, hresult⟩ := hsettled none rfl
  exact ⟨es, m, hmodel, heffects.trans rfl, hrenewals.trans rfl, hresult.mpr rfl⟩

end OresLocks.Go
