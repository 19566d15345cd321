import OresLocks.Formal.MaintainedEffects
import OresLocks.MaintainedTsRuns

/-!
# The TypeScript routine is a refinement of the maintained model

The model is one coroutine: a renewal that fails ends its phase at once. In the package
the routine goes on and looks at the maintainer when the work has settled. So the model
waits in its phase until then, owing a failed renewal, and only there takes the transition
of what failed.
-/

namespace OresLocks.Ts

set_option autoImplicit false

universe u

open Shared.Runs State
open OresLocks.Formal

variable {α : Type u} {inputs : Inputs} {grant : LeaseGrant}

def releaseAnswer : Except Thrown Bool → Maintained.ReleaseAnswer
  | .ok true => .released
  | .ok false => .mismatch
  | .error _ => .failed

/-- What an answer means to the database and the authority. -/
def Input.effects (inputs : Inputs) (grant : LeaseGrant) : Input α → List Maintained.Effect
  | .begun (.ok _) => [.began]
  | .polled (.ok rows) _ => if firstBool rows then [.locked] else []
  | .renewed answer => [.renewed (renewChecked grant inputs.ttlMs answer).isOk]
  | .committed answer => [.committed answer.isOk]
  | .rolledBack answer => [.rolledBack answer.isOk]
  | .released answer => [.released (releaseAnswer answer)]
  | _ => []

/-- The answer to a renewal of the maintainer. -/
def Input.renewals (inputs : Inputs) (grant : LeaseGrant) : Input α → List Bool
  | .maintainerAnswered answer => [(renewChecked grant inputs.ttlMs answer).isOk]
  | _ => []

/-- An `Error` whose texts can be made. -/
def Thrown.isReadable : Thrown → Bool
  | .lockError _ => true
  | .error (some _) (some _) => true
  | _ => false

/-- A renewal of the maintainer has failed, whether it has been read or not. -/
def LeaseMaintainer.lost (inputs : Inputs) (grant : LeaseGrant) (k : LeaseMaintainer) : Bool :=
  match k.failure, k.phase with
  | some _, _ => true
  | none, .answered answer => !(renewChecked grant inputs.ttlMs answer).isOk
  | none, _ => false

/-- The maintainer after `stop()`, up to its `await`. -/
def LeaseMaintainer.stop (k : LeaseMaintainer) : LeaseMaintainer :=
  if k.stopped then k
  else { k with stopped := true, phase := match k.phase with
    | .sleeping => .woken
    | phase => phase }

/-- The transaction is open on its client. -/
def Open (s : State α) : Prop := s.client = true ∧ s.began = true

/-- The phase of the model at each await of the routine. -/
def AtPhase (s : State α) (m : Maintained.State) : Prop :=
  match s.pc with
  | .connecting => m.phase = .begin ∧ s.began = false
  | .beginning => m.phase = .begin ∧ s.client = true ∧ s.began = false
  | .polling => m.phase = .lock ∧ Open s
  | .sleeping => m.phase = .lock ∧ Open s
  | .working => m.phase = .work ∧ Open s
  | .stopping inner =>
    m.phase = .begin ∧ s.began = false ∧ inner.isReadable = true ∨
    m.phase = .lock ∧ Open s ∧ inner.isReadable = true ∨
    m.phase = .work ∧ Open s ∧ (inner = .undefined ∨ inner.isReadable = true)
  | .renewing => m.phase = .finalRenew ∧ Open s
  | .rollingBack inner => m.phase = .rollback ∧ inner.isReadable = true
  | .committing => m.phase = .commit
  | .closing outcome => m.phase = .release ∧ (m.primaryFailure = none ↔ outcome.isOk = true)
  | .releasing outcome => m.phase = .release ∧ (m.primaryFailure = none ↔ outcome.isOk = true)
  | .settled result => m.phase = .done ∧ (m.result = some .success ↔ result.isOk = true)

/-- A run of the routine with a state of the model that trails it. -/
structure Related (o : Maintained.Options) (inputs : Inputs) (grant : LeaseGrant)
    (is : List (Input α)) (s : State α) (m : Maintained.State) : Prop where
  trailing : Maintained.Trailing o (observed (Input.effects inputs grant) is)
    (observed (Input.renewals inputs grant) is) (s.maintainer.lost inputs grant) m
  atPhase : AtPhase s m
  failed : s.maintainer.failure ≠ none → s.maintainer.phase = .finished
  past : m.phase.renews = false → s.maintainer.phase = .finished

section Texts

variable {kind : LockErrorKind} {key : JsString} {step : Option LockStep} {cause : Thrown}

end Texts

section Maintainer

variable {k : LeaseMaintainer}

theorem stop_maintainer (s : State α) : s.stop.maintainer = s.maintainer.stop := by
  unfold State.stop LeaseMaintainer.stop
  split
  · rfl
  · rfl

theorem stop_lost (k : LeaseMaintainer) : k.stop.lost inputs grant = k.lost inputs grant := by
  unfold LeaseMaintainer.stop
  split
  · rfl
  · unfold LeaseMaintainer.lost
    cases hfailure : k.failure with
    | some failure => rfl
    | none =>
      cases hphase : k.phase with
      | answered answer => rfl
      | _ => rfl

theorem stop_failure (k : LeaseMaintainer) : k.stop.failure = k.failure := by
  unfold LeaseMaintainer.stop
  split
  · rfl
  · rfl

theorem stop_finished (h : k.phase = .finished) : k.stop.phase = .finished := by
  unfold LeaseMaintainer.stop
  split
  · exact h
  · dsimp only
    rw [h]

/-- A maintainer that has finished has lost its lease exactly when it recorded a failure. -/
theorem lost_of_finished (h : k.phase = .finished) :
    k.lost inputs grant = k.failure.isSome := by
  unfold LeaseMaintainer.lost
  rw [h]
  cases k.failure with
  | some failure => rfl
  | none => rfl

end Maintainer

/-- The routine goes on, and its maintainer is at most told to stop. -/
structure Reaches (s t : State α) (m : Maintained.State) : Prop where
  kept : t.maintainer = s.maintainer ∨ t.maintainer = s.maintainer.stop
  atPhase : AtPhase t m

/-- The runs of the model that trail a run of the routine. -/
def Tracks (o : Maintained.Options) (inputs : Inputs) (grant : LeaseGrant) (is : List (Input α))
    (t : State α) : Prop :=
  ∃ m, Related o inputs grant is t m

section Steps

variable {o : Maintained.Options} {s t : State α} {m m' : Maintained.State} {e : Maintained.Edge}
  {is : List (Input α)} {input : Input α}

theorem Reaches.lost (h : Reaches s t m) :
    t.maintainer.lost inputs grant = s.maintainer.lost inputs grant := by
  rcases h.kept with h | h
  · rw [h]
  · rw [h, stop_lost]

theorem Reaches.failure (h : Reaches s t m) : t.maintainer.failure = s.maintainer.failure := by
  rcases h.kept with h | h
  · rw [h]
  · rw [h, stop_failure]

theorem Reaches.finished (h : Reaches s t m) (hs : s.maintainer.phase = .finished) :
    t.maintainer.phase = .finished := by
  rcases h.kept with h | h
  · rw [h]
    exact hs
  · rw [h]
    exact stop_finished hs

theorem Reaches.failed (h : Reaches s t m')
    (hs : s.maintainer.failure ≠ none → s.maintainer.phase = .finished) :
    t.maintainer.failure ≠ none → t.maintainer.phase = .finished := by
  rw [h.failure]
  exact fun hfailure => h.finished (hs hfailure)

/-- The model waits for a step of the routine that has no effect. -/
theorem tracks_stutter (h : Related o inputs grant is s m)
    (heffects : input.effects inputs grant = []) (hrenewals : input.renewals inputs grant = [])
    (hreaches : Reaches s t m) : Tracks o inputs grant (is ++ [input]) t := by
  refine ⟨m, ?_, hreaches.atPhase, hreaches.failed h.failed,
    fun hover => hreaches.finished (h.past hover)⟩
  rw [observed_append, observed_append, observed_singleton, observed_singleton, heffects,
    hrenewals, List.append_nil, List.append_nil, hreaches.lost]
  exact h.trailing

/-- The model takes the transition of a step of the routine. -/
theorem tracks_step (h : Related o inputs grant is s m) (hstep : Maintained.Step o m e m')
    (heffects : input.effects inputs grant = e.effects)
    (hrenewals : input.renewals inputs grant = []) (hquiet : e.renewals = [])
    (hphase : m'.phase.renews = m.phase.renews ∨
      s.maintainer.phase = .finished ∧ s.maintainer.failure = none)
    (hreaches : Reaches s t m') : Tracks o inputs grant (is ++ [input]) t := by
  have howed : Maintained.owed m'.phase (s.maintainer.lost inputs grant) =
      Maintained.owed m.phase (s.maintainer.lost inputs grant) := by
    unfold Maintained.owed
    rcases hphase with hphase | ⟨hfinished, hnone⟩
    · rw [hphase]
    · rw [lost_of_finished hfinished, hnone, Option.isSome_none, Bool.and_false, Bool.and_false]
  have hover : m'.phase.renews = false → s.maintainer.phase = .finished := by
    intro hover
    rcases hphase with hphase | ⟨hfinished, _⟩
    · exact h.past (by rw [← hphase, hover])
    · exact hfinished
  refine ⟨m', ?_, hreaches.atPhase, hreaches.failed h.failed,
    fun hlast => hreaches.finished (hover hlast)⟩
  rw [observed_append, observed_append, observed_singleton, observed_singleton, heffects,
    hrenewals, List.append_nil, hreaches.lost]
  exact h.trailing.step hstep hquiet howed

/-- The routine looks at the lease that its maintainer has lost. -/
theorem tracks_lost (h : Related o inputs grant is s m) {failure : LockError}
    (hfinished : s.maintainer.phase = .finished) (hfailure : s.maintainer.failure = some failure)
    (hrenews : m.phase.renews = true) (hstep : Maintained.Step o m .periodicRenewFailure m')
    (hover : m'.phase.renews = false) (heffects : input.effects inputs grant = [])
    (hrenewals : input.renewals inputs grant = []) (hreaches : Reaches s t m') :
    Tracks o inputs grant (is ++ [input]) t := by
  have hlost : s.maintainer.lost inputs grant = true := by
    rw [lost_of_finished hfinished, hfailure, Option.isSome_some]
  refine ⟨m', ?_, hreaches.atPhase, hreaches.failed h.failed, fun _ => hreaches.finished hfinished⟩
  have htrailing := h.trailing
  rw [hlost] at htrailing
  rw [observed_append, observed_append, observed_singleton, observed_singleton, heffects,
    hrenewals, List.append_nil, List.append_nil, hreaches.lost, hlost]
  exact htrailing.lose hrenews hstep hover

@[simp] theorem stop_client (s : State α) : s.stop.client = s.client := by
  unfold State.stop
  split
  · rfl
  · rfl

@[simp] theorem stop_began (s : State α) : s.stop.began = s.began := by
  unfold State.stop
  split
  · rfl
  · rfl

theorem Open.stop (h : Open s) : Open s.stop :=
  ⟨(stop_client s).trans h.1, (stop_began s).trans h.2⟩

theorem reaches_closing {outcome : Except Thrown (Option α)} (hphase : m.phase = .release)
    (hprimary : m.primaryFailure = none ↔ outcome.isOk = true) :
    Reaches s (s.toClose outcome) m :=
  ⟨Or.inr (stop_maintainer s), hphase, hprimary⟩

theorem reaches_failed {thrown : Thrown} (hphase : m.phase = .release)
    (hprimary : m.primaryFailure ≠ none) : Reaches s (s.toClose (.error thrown)) m :=
  reaches_closing hphase (iff_of_false hprimary Bool.false_ne_true)

/-- What has been recorded does not matter to the maintainer. -/
theorem Reaches.of_maintainer {r : State α} (h : Reaches r t m) (hsame : r.maintainer = s.maintainer) :
    Reaches s t m := by
  refine ⟨?_, h.atPhase⟩
  rw [← hsame]
  exact h.kept

/-- The transaction fails before it has begun: the model takes the transition of what
failed. -/
theorem tracks_unbegun (h : Related o inputs grant is s m) (hfinished : s.maintainer.phase = .finished)
    (hphase : m.phase = .begin) (hbegan : s.began = false) (inner : Thrown) :
    Tracks o inputs grant (is ++ [.stopReturned]) (s.failTransaction inner) := by
  have hrenews : m.phase.renews = true := by
    rw [hphase]
    rfl
  unfold failTransaction
  rw [hbegan]
  cases hfailure : s.maintainer.failure with
  | none =>
    obtain ⟨m', hstep, hphase', hprimary⟩ := Maintained.begin_fails (o := o) hphase
    exact tracks_step h hstep rfl rfl rfl (Or.inr ⟨hfinished, hfailure⟩)
      (reaches_failed hphase' hprimary)
  | some failure =>
    obtain ⟨m', hstep, hphase', hprimary⟩ := Maintained.begin_loses (o := o) hphase
    exact tracks_lost h hfinished hfailure hrenews hstep (by rw [hphase']; rfl) rfl rfl
      (reaches_failed hphase' hprimary)

/-- While the model waits in its phase, it may count renewals. -/
theorem atPhase_renewed (h : AtPhase s m) (hrenews : m.phase.renews = true) (hpc : t.pc = s.pc)
    (hclient : t.client = s.client) (hbegan : t.began = s.began) (hphase : m'.phase = m.phase) :
    AtPhase t m' := by
  have hover {phase : Maintained.Phase} (hm : m.phase = phase) (hlast : phase.renews = false) :
      False := by
    rw [hm, hlast] at hrenews
    cases hrenews
  unfold AtPhase Open at h ⊢
  rw [hpc, hclient, hbegan, hphase]
  cases hs : s.pc with
  | closing outcome =>
    rw [hs] at h
    exact (hover h.1 rfl).elim
  | releasing outcome =>
    rw [hs] at h
    exact (hover h.1 rfl).elim
  | settled result =>
    rw [hs] at h
    exact (hover h.1 rfl).elim
  | _ =>
    rw [hs] at h
    exact h

end Steps

end OresLocks.Ts
