import OresLocks.Formal.MaintainedEffects
import OresLocks.MaintainedRustRuns
import OresLocks.Shared.Simulation

/-!
# The Rust routine is a refinement of the maintained model

The routine drops what it waits for as soon as a renewal fails, as the model does, so all
answers are compared in their order. A call log does not tell the final renewal from the
ones before it. Each part of the routine is followed from the phase it starts in; a script
that ends while the lock is contended leaves the model in its lock phase.
-/

namespace OresLocks.Maintained

set_option autoImplicit false

universe u

open Shared.Runs
open OresLocks.Formal.Maintained (Effect Edge Options ReleaseAnswer Shape initialState)

def releaseAnswer : Except LockError Bool → ReleaseAnswer
  | .ok true => .released
  | .ok false => .mismatch
  | .error _ => .failed

variable {α : Type u}

/-- What an answer means to the database and the authority that granted the lease. -/
def Event.effects (acquired : Except LockError LeaseGrant) : Event α → List Effect
  | .renew answer => [.renewed (acquired.bind fun grant => renewChecked grant answer).isOk]
  | .begin (.ok ()) => [.began]
  | .tryXactLock (.answered true) => [.locked]
  | .commit answer => [.committed answer.isOk]
  | .rollback answer => [.rolledBack answer.isOk]
  | .release _ answer => [.released (releaseAnswer answer)]
  | _ => []

/-- The effects of a transition, with the answer to a renewal of the maintainer. -/
def outcomes (e : Edge) : List Effect := e.renewals.map .renewed ++ e.effects

/-- The renewals that succeed among the effects. -/
def renewals (effects : List Effect) : Nat := effects.count (.renewed true)

/-- The model can follow a run of the routine to its end, if it allows that many renewals. -/
def Ends (o : Options) (grant : LeaseGrant) (m : Formal.Maintained.State) (run : Run α) : Prop :=
  m.periodicRenewals + renewals (observed (Event.effects (.ok grant)) run.1) ≤
    o.maxPeriodicRenewals →
  ∃ es m', Exec (Formal.Maintained.Step o) m es m' ∧
    observed outcomes es = observed (Event.effects (.ok grant)) run.1 ∧
    match run.2 with
    | none => m'.phase = .lock
    | some result => m'.phase = .done ∧ (m'.result = some .success ↔ result.isOk = true)

/-- The model can follow the first calls of a run to such a state. -/
def Leads (o : Options) (grant : LeaseGrant) (m : Formal.Maintained.State) (calls : List (Event α))
    (Target : Formal.Maintained.State → Prop) : Prop :=
  m.periodicRenewals + renewals (observed (Event.effects (.ok grant)) calls) ≤
    o.maxPeriodicRenewals →
  ∃ es m', Exec (Formal.Maintained.Step o) m es m' ∧
    observed outcomes es = observed (Event.effects (.ok grant)) calls ∧ Shape o m' ∧ Target m'

section Parts

variable {o : Options} {m m' : Formal.Maintained.State} {e : Edge}
  {key : LockKey} {grant : LeaseGrant} {s : Script α}

theorem renewals_append (xs ys : List Effect) : renewals (xs ++ ys) = renewals xs + renewals ys :=
  List.count_append

theorem renewals_outcomes (e : Edge) : e.renewals.count true ≤ renewals (outcomes e) := by
  cases e with
  | _ => decide

/-- The model counts no more renewals than the run shows. -/
theorem run_renewals {es : List Edge} (h : Exec (Formal.Maintained.Step o) m es m') :
    m'.periodicRenewals ≤ m.periodicRenewals + renewals (observed outcomes es) := by
  induction h with
  | nil => exact Nat.le_refl _
  | @snoc es t e u _ hstep ih =>
    have hcount := Formal.Maintained.step_count hstep
    have hone := renewals_outcomes e
    rw [observed_append, observed_singleton, renewals_append]
    omega

/-- The calls of a run, followed one part after the other. -/
theorem Ends.after {run : Run α} {calls : List (Event α)}
    {Target : Formal.Maintained.State → Prop} (hleads : Leads o grant m calls Target)
    (h : ∀ m', Shape o m' → Target m' → Ends o grant m' run) :
    Ends o grant m (calls ++ run.1, run.2) := by
  intro hbound
  dsimp only at hbound
  rw [observed_append, renewals_append] at hbound
  obtain ⟨es, m', hrun, hsame, hshape, htarget⟩ := hleads (by omega)
  have hcount := run_renewals hrun
  rw [hsame] at hcount
  obtain ⟨fs, last, hrest, hrest', hend⟩ := h m' hshape htarget (by omega)
  refine ⟨es ++ fs, last, hrun.append hrest, ?_, hend⟩
  rw [observed_append, observed_append, hsame, hrest']

/-- One transition of the model, and some calls with the same effects. -/
theorem leads_step {calls : List (Event α)} {Target : Formal.Maintained.State → Prop}
    (hshape : Shape o m) (hstep : Formal.Maintained.Step o m e m')
    (heffects : outcomes e = observed (Event.effects (.ok grant)) calls) (h : Target m') :
    Leads o grant m calls Target := by
  intro _
  refine ⟨[e], m', .single hstep, ?_, Formal.Maintained.shape_step hshape hstep, h⟩
  rw [observed_singleton, heffects]

/-- Calls without an effect. -/
theorem leads_idle {calls : List (Event α)} (hshape : Shape o m)
    (hidle : observed (Event.effects (.ok grant)) calls = []) :
    Leads o grant m calls (· = m) :=
  fun _ => ⟨[], m, .nil, hidle.symm, hshape, rfl⟩

theorem Leads.append {calls rest : List (Event α)} {Target Target' : Formal.Maintained.State → Prop}
    (hleads : Leads o grant m calls Target)
    (h : ∀ m', Shape o m' → Target m' → Leads o grant m' rest Target') :
    Leads o grant m (calls ++ rest) Target' := by
  intro hbound
  rw [observed_append, renewals_append] at hbound
  obtain ⟨es, m', hrun, hsame, hshape, htarget⟩ := hleads (by omega)
  have hcount := run_renewals hrun
  rw [hsame] at hcount
  obtain ⟨fs, last, hrest, hrest', hlast⟩ := h m' hshape htarget (by omega)
  refine ⟨es ++ fs, last, hrun.append hrest, ?_, hlast⟩
  rw [observed_append, observed_append, hsame, hrest']

/-- Where a failed renewal leads. -/
def Lost (m m' : Formal.Maintained.State) : Prop :=
  m.phase = .begin ∧ m'.phase = .release ∧ m'.primaryFailure ≠ none ∨
    m.phase ≠ .begin ∧ m'.phase = .rollback

theorem loses (hrenews : m.phase.renews = true) :
    ∃ t, Formal.Maintained.Step o m .periodicRenewFailure t ∧ Lost m t := by
  rcases Formal.Maintained.Phase.renews_iff.mp hrenews with hphase | hopen
  · obtain ⟨t, hstep, hrelease, hprimary⟩ := Formal.Maintained.begin_loses (o := o) hphase
    exact ⟨t, hstep, Or.inl ⟨hphase, hrelease, hprimary⟩⟩
  · obtain ⟨t, hstep, hrollback⟩ := Formal.Maintained.open_loses (o := o) hopen
    refine ⟨t, hstep, Or.inr ⟨?_, hrollback⟩⟩
    rcases hopen with hphase | hphase
    · rw [hphase]
      decide
    · rw [hphase]
      decide

/-- One renewal of the maintainer that keeps the lease. -/
theorem leads_renewed {answer : Except LockError LeaseGrant} {renewed : LeaseGrant}
    (hshape : Shape o m) (hrenews : m.phase.renews = true)
    (hok : renewChecked grant answer = .ok renewed) :
    Leads (α := α) o grant m [.renew answer] (fun m' => m'.phase = m.phase) := by
  intro hbound
  have heffects : observed (Event.effects (α := α) (.ok grant)) [.renew answer] =
      [.renewed true] := by
    rw [observed_singleton]
    show [Effect.renewed (renewChecked grant answer).isOk] = _
    rw [hok]
    rfl
  rw [heffects] at hbound
  have hroom : m.periodicRenewals < o.maxPeriodicRenewals := hbound
  have hstep := Formal.Maintained.renews_on hrenews hroom
  exact ⟨[.periodicRenewSuccess], _, .single hstep, by rw [heffects]; rfl,
    Formal.Maintained.shape_step hshape hstep, rfl⟩

theorem leads_lost {answer : Except LockError LeaseGrant} {error : LockError} (hshape : Shape o m)
    (hrenews : m.phase.renews = true) (herror : renewChecked grant answer = .error error) :
    Leads (α := α) o grant m [.renew answer] (Lost m) := by
  obtain ⟨t, hstep, hlost⟩ := loses (o := o) hrenews
  refine leads_step hshape hstep ?_ hlost
  rw [observed_singleton]
  show [Effect.renewed false] = [Effect.renewed (renewChecked grant answer).isOk]
  rw [herror]
  rfl

/-- The renewals of one select loop: the model counts each, and fails with the last. -/
theorem leads_renewals (answers : List (Except LockError LeaseGrant)) :
    ∀ m, Shape o m → m.phase.renews = true →
      Leads (α := α) o grant m (renewWhile grant answers).1 (fun m' =>
        match (renewWhile (α := α) grant answers).2 with
        | .ok () => m'.phase = m.phase
        | .error _ => Lost m m') := by
  induction answers with
  | nil =>
    intro m hshape _ _
    exact ⟨[], m, .nil, rfl, hshape, rfl⟩
  | cons answer rest ih =>
    intro m hshape hrenews
    unfold renewWhile
    cases hchecked : renewChecked grant answer with
    | error error => exact leads_lost hshape hrenews hchecked
    | ok renewed =>
      refine (leads_renewed hshape hrenews hchecked).append ?_
      intro m' hshape' hphase
      have hrest := ih m' hshape' (by rw [hphase, hrenews])
      unfold Lost at hrest ⊢
      rw [hphase] at hrest
      exact hrest

/-- The release ends the model as a success exactly when nothing has failed. -/
theorem ends_settleLease {release : Except LockError Bool} (hshape : Shape o m)
    (hphase : m.phase = .release) {inner : Except LockError α}
    (hprimary : m.primaryFailure = none ↔ inner.isOk = true) :
    Ends o grant m (settleLease key grant release inner) := by
  obtain ⟨e, m', hstep, heffects, hquiet, hdone, hresult⟩ :=
    Formal.Maintained.release_ends hshape hphase (releaseAnswer release)
  intro _
  refine ⟨[e], m', .single hstep, ?_, hdone, ?_⟩
  · rw [observed_singleton]
    unfold outcomes settleLease
    rw [heffects, hquiet]
    rfl
  · rw [hresult, hprimary]
    cases release with
    | error error =>
      cases inner with
      | ok value => simp [releaseAnswer, releaseFailure, Except.isOk, Except.toBool]
      | error inner => simp [releaseAnswer, releaseFailure, Except.isOk, Except.toBool]
    | ok found =>
      cases found with
      | true =>
        cases inner with
        | ok value => simp [releaseAnswer, releaseFailure, Except.isOk, Except.toBool]
        | error inner => simp [releaseAnswer, releaseFailure, Except.isOk, Except.toBool]
      | false =>
        cases inner with
        | ok value => simp [releaseAnswer, releaseFailure, Except.isOk, Except.toBool]
        | error inner => simp [releaseAnswer, releaseFailure, Except.isOk, Except.toBool]

/-- The release is due, and something has failed. -/
def Failing (m : Formal.Maintained.State) : Prop := m.phase = .release ∧ m.primaryFailure ≠ none

theorem ends_failed (key : LockKey) (hshape : Shape o m) (h : Failing m)
    (release : Except LockError Bool) (error : LockError) :
    Ends o grant m (settleLease key grant release (.error error : Except LockError α)) :=
  ends_settleLease hshape h.1 (iff_of_false h.2 Bool.false_ne_true)

theorem ends_rollbackThenSettle (key : LockKey) (s : Script α) (hshape : Shape o m)
    (hphase : m.phase = .rollback) (inner : LockError) : Ends o grant m (rollbackThenSettle key grant s inner) := by
  unfold rollbackThenSettle
  have hleads : Leads (α := α) o grant m [.rollback s.rollback] Failing := by
    cases hrollback : s.rollback with
    | ok value =>
      obtain ⟨m', hstep, hfailing⟩ := Formal.Maintained.rollback_succeeds hshape hphase
      exact leads_step hshape hstep rfl hfailing
    | error cause =>
      obtain ⟨m', hstep, hfailing⟩ := Formal.Maintained.rollback_fails (o := o) hphase
      exact leads_step hshape hstep rfl hfailing
  exact Ends.after hleads fun m' hshape' hfailing => ends_failed key hshape' hfailing s.release _

theorem ends_commit (hshape : Shape o m) (hphase : m.phase = .commit) (value : α) :
    Ends o grant m (.commit s.commit ::
        (settleLease key grant s.release (commitResult key value s.commit)).1,
      (settleLease key grant s.release (commitResult key value s.commit)).2) := by
  cases hcommit : s.commit with
  | ok done =>
    obtain ⟨m', hstep, hphase', hprimary⟩ := Formal.Maintained.commit_succeeds hshape hphase
    have hleads : Leads (α := α) o grant m [.commit (.ok done)]
        (fun m' => m'.phase = .release ∧ m'.primaryFailure = none) :=
      leads_step hshape hstep rfl ⟨hphase', hprimary⟩
    exact Ends.after hleads fun m' hshape' hclean =>
      ends_settleLease hshape' hclean.1 (iff_of_true hclean.2 rfl)
  | error cause =>
    obtain ⟨m', hstep, hfailing⟩ := Formal.Maintained.commit_fails (o := o) hphase
    have hleads : Leads (α := α) o grant m [.commit (.error cause)] Failing :=
      leads_step hshape hstep rfl hfailing
    exact Ends.after hleads fun m' hshape' hfailing' => ends_failed key hshape' hfailing' s.release _

theorem ends_admitCommit (key : LockKey) (s : Script α) (hshape : Shape o m) (hphase : m.phase = .finalRenew) (value : α) :
    Ends o grant m (admitCommit key grant s value) := by
  have heffects : observed (Event.effects (α := α) (.ok grant)) [.renew s.finalRenewal] =
      [.renewed (renewChecked grant s.finalRenewal).isOk] := rfl
  unfold admitCommit
  cases hchecked : renewChecked grant s.finalRenewal with
  | error error =>
    rw [hchecked] at heffects
    obtain ⟨m', hstep, hphase'⟩ := Formal.Maintained.finalRenew_fails (o := o) hphase
    have hleads : Leads (α := α) o grant m [.renew s.finalRenewal] (fun m' => m'.phase = .rollback) :=
      leads_step hshape hstep heffects.symm hphase'
    exact Ends.after hleads fun m' hshape' hrollback =>
      ends_rollbackThenSettle key s hshape' hrollback error
  | ok renewed =>
    rw [hchecked] at heffects
    obtain ⟨m', hstep, hphase'⟩ := Formal.Maintained.finalRenew_succeeds (o := o) hphase
    have hleads : Leads (α := α) o grant m [.renew s.finalRenewal] (fun m' => m'.phase = .commit) :=
      leads_step hshape hstep heffects.symm hphase'
    exact Ends.after hleads fun m' hshape' hcommit => ends_commit hshape' hcommit value

/-- The calls of a select loop in an open transaction. -/
theorem leads_waiting (answers : List (Except LockError LeaseGrant)) {first : Event α}
    (hfirst : Event.effects (.ok grant) first = []) (hshape : Shape o m)
    (hrenews : m.phase.renews = true) :
    Leads o grant m (first :: (renewWhile grant answers).1) (fun m' =>
      match (renewWhile (α := α) grant answers).2 with
      | .ok () => m'.phase = m.phase
      | .error _ => Lost m m') := by
  have hidle : observed (Event.effects (.ok grant)) [first] = [] := by
    rw [observed_singleton, hfirst]
  refine (leads_idle hshape hidle).append ?_
  intro m' hshape' hsame
  rw [hsame]
  exact leads_renewals answers m hshape hrenews

theorem Lost.rollback {m' : Formal.Maintained.State} (h : Lost m m') (hphase : m.phase ≠ .begin) :
    m'.phase = .rollback := by
  rcases h with ⟨hbegin, _⟩ | ⟨_, hrollback⟩
  · exact absurd hbegin hphase
  · exact hrollback

theorem ends_runWork (hrequired : o.requireFinalRenewal = true) (hshape : Shape o m)
    (hphase : m.phase = .work) : Ends o grant m (runWork key grant s) := by
  have hrenews : m.phase.renews = true := by
    rw [hphase]
    rfl
  have hstarted : Event.effects (.ok grant) (.workStarted : Event α) = [] := rfl
  have hwaiting := leads_waiting s.workRenewals hstarted hshape hrenews
  unfold runWork
  split
  · rename_i renewals error hrenewals
    rw [hrenewals] at hwaiting
    refine Ends.after hwaiting ?_
    intro m' hshape' hlost
    exact ends_rollbackThenSettle key s hshape' (hlost.rollback (by rw [hphase]; decide)) error
  · rename_i renewals hrenewals
    rw [hrenewals] at hwaiting
    cases hwork : s.work with
    | error cause =>
      have hleads : Leads o grant m (.workStarted :: renewals ++ [.work (.error cause)])
          (fun m' => m'.phase = .rollback) := by
        refine hwaiting.append ?_
        intro m' hshape' hsame
        obtain ⟨t, hstep, hrollback⟩ :=
          Formal.Maintained.work_fails (o := o) (m := m') (Eq.trans hsame hphase)
        exact leads_step hshape' hstep rfl hrollback
      have hends := Ends.after hleads fun m' hshape' hrollback =>
        ends_rollbackThenSettle key s hshape' hrollback (.work key cause)
      rw [List.append_assoc] at hends
      exact hends
    | ok value =>
      have hleads : Leads o grant m (.workStarted :: renewals ++ [.work (.ok value)])
          (fun m' => m'.phase = .finalRenew) := by
        refine hwaiting.append ?_
        intro m' hshape' hsame
        obtain ⟨t, hstep, hfinal⟩ :=
          Formal.Maintained.work_succeeds hrequired (m := m') (Eq.trans hsame hphase)
        exact leads_step hshape' hstep rfl hfinal
      have hends := Ends.after hleads fun m' hshape' hfinal =>
        ends_admitCommit key s hshape' hfinal value
      rw [List.append_assoc] at hends
      exact hends

theorem poll_effects {poll : LockPoll} {error : LockError} {g : LeaseGrant}
    (h : tryXactLock key poll = .error error) :
    Event.effects (.ok g) (.tryXactLock poll : Event α) = [] := by
  cases poll with
  | answered acquired =>
    cases acquired with
    | true => cases h
    | false => rfl
  | _ => rfl

/-- Where the wait for the lock leads. -/
def Awaited (result : Option (Except LockError Unit)) (m : Formal.Maintained.State) : Prop :=
  match result with
  | none => m.phase = .lock
  | some (.ok ()) => m.phase = .work
  | some (.error _) => m.phase = .rollback

/-- A wait that ends without the lock. -/
theorem leads_unlocked {poll : LockPoll} {error : LockError} (hshape : Shape o m)
    (hphase : m.phase = .lock) (hpoll : tryXactLock key poll = .error error) (failure : LockError) :
    Leads (α := α) o grant m [.tryXactLock poll] (Awaited (some (.error failure))) := by
  obtain ⟨t, hstep, hrollback⟩ := Formal.Maintained.lock_fails (o := o) hphase
  refine leads_step hshape hstep ?_ hrollback
  rw [observed_singleton, poll_effects hpoll]
  rfl

/-- Each round polls, and renews while it sleeps. -/
theorem leads_lock (key : LockKey) (grant : LeaseGrant) (wait : Bool) (acquire : AcquireOptions)
    (rounds : List Round) :
    ∀ m, Shape o m → m.phase = .lock →
      Leads o grant m (acquireTransactionLock (α := α) key wait acquire grant rounds).1
        (Awaited (acquireTransactionLock (α := α) key wait acquire grant rounds).2) := by
  induction rounds with
  | nil =>
    intro m hshape hphase _
    exact ⟨[], m, .nil, rfl, hshape, hphase⟩
  | cons round rest ih =>
    intro m hshape hphase
    unfold acquireTransactionLock
    cases hpoll : tryXactLock key round.poll with
    | ok value =>
      obtain ⟨t, hstep, hwork⟩ := Formal.Maintained.lock_succeeds (o := o) hphase
      refine leads_step hshape hstep ?_ hwork
      rw [tryXactLock_ok hpoll]
      rfl
    | error error =>
      dsimp only
      split
      · split
        · exact leads_unlocked hshape hphase hpoll _
        · have hrenews : m.phase.renews = true := by
            rw [hphase]
            rfl
          have hidle := poll_effects (α := α) (g := grant) hpoll
          have hwaiting := leads_waiting round.renewals hidle hshape hrenews
          split
          · rename_i renewals lost hrenewals
            rw [hrenewals] at hwaiting
            intro hbound
            obtain ⟨es, t, hrun, hsame, hshape', hlost⟩ := hwaiting hbound
            exact ⟨es, t, hrun, hsame, hshape', hlost.rollback (by rw [hphase]; decide)⟩
          · rename_i renewals hrenewals
            rw [hrenewals] at hwaiting
            exact hwaiting.append fun m' hshape' hsame => ih m' hshape' (Eq.trans hsame hphase)
      · exact leads_unlocked hshape hphase hpoll _

theorem ends_inTransaction (key : LockKey) (s : Script α)
    (hrequired : o.requireFinalRenewal = true) (hshape : Shape o m) (hphase : m.phase = .lock) (wait : Bool) (acquire : AcquireOptions) :
    Ends o grant m (inTransaction key wait acquire grant s) := by
  have hlock := leads_lock (α := α) key grant wait acquire s.rounds m hshape hphase
  unfold inTransaction
  split
  · rename_i polls hpolls
    rw [hpolls] at hlock
    intro hbound
    obtain ⟨es, t, hrun, hsame, _, hwaiting⟩ := hlock hbound
    exact ⟨es, t, hrun, hsame, hwaiting⟩
  · rename_i polls error hpolls
    rw [hpolls] at hlock
    exact Ends.after hlock fun m' hshape' hrollback =>
      ends_rollbackThenSettle key s hshape' hrollback error
  · rename_i polls hpolls
    rw [hpolls] at hlock
    exact Ends.after hlock fun m' hshape' hwork => ends_runWork hrequired hshape' hwork

/-- A grant that is refused fails the begin of the model. -/
theorem ends_underGrant (hrequired : o.requireFinalRenewal = true) (hshape : Shape o m)
    (hphase : m.phase = .begin) (wait : Bool) (acquire : AcquireOptions) :
    Ends o grant m (underGrant key wait acquire grant s) := by
  unfold underGrant
  cases validateAcquiredGrant key wait acquire grant with
  | error error =>
    obtain ⟨t, hstep, hfailing⟩ := Formal.Maintained.begin_fails (o := o) hphase
    have hleads : Leads (α := α) o grant m [] Failing := leads_step hshape hstep rfl hfailing
    exact Ends.after hleads fun m' hshape' hfailing' =>
      ends_failed key hshape' hfailing' s.release error
  | ok value =>
    have hrenews : m.phase.renews = true := by
      rw [hphase]
      rfl
    have hstarted : Event.effects (.ok grant) (.beginStarted : Event α) = [] := rfl
    have hwaiting := leads_waiting s.beginRenewals hstarted hshape hrenews
    dsimp only
    split
    · rename_i renewals error hrenewals
      rw [hrenewals] at hwaiting
      refine Ends.after hwaiting ?_
      intro m' hshape' hlost
      rcases hlost with ⟨_, hfailing⟩ | ⟨hbegun, _⟩
      · exact ends_failed key hshape' hfailing s.release error
      · exact absurd hphase hbegun
    · rename_i renewals hrenewals
      rw [hrenewals] at hwaiting
      cases hbegin : s.begin with
      | error cause =>
        have hleads : Leads o grant m (.beginStarted :: renewals ++ [.begin (.error cause)])
            Failing := by
          refine hwaiting.append ?_
          intro m' hshape' hsame
          obtain ⟨t, hstep, hfailing⟩ :=
            Formal.Maintained.begin_fails (o := o) (m := m') (Eq.trans hsame hphase)
          exact leads_step hshape' hstep rfl hfailing
        have hends := Ends.after hleads fun m' hshape' hfailing =>
          ends_failed (α := α) key hshape' hfailing s.release
            ((LockError.new .database key cause).at .pgBegin)
        rw [List.append_assoc] at hends
        exact hends
      | ok begun =>
        have hleads : Leads o grant m (.beginStarted :: renewals ++ [.begin (.ok begun)])
            (fun m' => m'.phase = .lock) := by
          refine hwaiting.append ?_
          intro m' hshape' hsame
          obtain ⟨t, hstep, hlock⟩ :=
            Formal.Maintained.begin_succeeds (o := o) (m := m') (Eq.trans hsame hphase)
          exact leads_step hshape' hstep rfl hlock
        have hends := Ends.after hleads fun m' hshape' hlock =>
          ends_inTransaction key s hrequired hshape' hlock wait acquire
        rw [List.append_assoc] at hends
        exact hends

end Parts

/-- Whatever the adapters answer, a call whose options are valid is a run of the
maintained model, once it allows that many renewals, with the same effects and renewals in
the same order. What the model asserts holds of it, and it succeeds exactly when the call
returns a value. -/
theorem rust_refines_maintained_model (o : Options) (hrequired : o.requireFinalRenewal = true)
    (key : LockKey) (wait : Bool) (acquire : AcquireOptions) (maintenance : LeaseMaintenanceOptions)
    (hvalid : maintenance.validate key acquire wait = .ok ()) (s : Script α)
    (hbound : renewals (observed (Event.effects s.acquire)
      (withMaintainedXactLock key wait acquire maintenance s).1) ≤ o.maxPeriodicRenewals) :
    ∃ es m, Exec (Formal.Maintained.Step o) initialState es m ∧ Formal.Maintained.Asserts o m ∧
      observed outcomes es = observed (Event.effects s.acquire)
        (withMaintainedXactLock key wait acquire maintenance s).1 ∧
      match (withMaintainedXactLock key wait acquire maintenance s).2 with
      | none => m.phase = .lock
      | some result => m.phase = .done ∧ (m.result = some .success ↔ result.isOk = true) := by
  unfold withMaintainedXactLock at hbound ⊢
  rw [hvalid] at hbound ⊢
  dsimp only at hbound ⊢
  cases hacquire : s.acquire with
  | error error =>
    have hmodel := Exec.single (Formal.Maintained.acquire_fails o)
    exact ⟨[.acquireFailure], _, hmodel, (Formal.Maintained.shape_run hmodel).asserts, rfl, rfl,
      iff_of_false (by decide) Bool.false_ne_true⟩
  | ok grant =>
    rw [hacquire] at hbound
    have hmodel := Exec.single (Formal.Maintained.acquires o)
    have hends : Ends o grant initialState
        (.acquire (.ok grant) :: (underGrant key wait acquire grant s).1,
          (underGrant key wait acquire grant s).2) := by
      have hleads : Leads (α := α) o grant initialState [.acquire (.ok grant)]
          (fun m' => m'.phase = .begin) :=
        leads_step rfl (Formal.Maintained.acquires o) rfl rfl
      exact Ends.after hleads fun m' hshape' hbegin =>
        ends_underGrant hrequired hshape' hbegin wait acquire
    obtain ⟨es, m, hrun, hsame, hend⟩ := hends (Nat.le_trans (Nat.le_of_eq (Nat.zero_add _)) hbound)
    exact ⟨es, m, hrun, (Formal.Maintained.shape_run hrun).asserts, hsame, hend⟩

theorem sample_rust_refines_model :
    ∃ es m, Exec (Formal.Maintained.Step Formal.Maintained.production) initialState es m ∧
      observed outcomes es = [.began, .renewed true, .locked, .renewed true, .committed true,
        .released .released] ∧
      m.result = some .success := by
  have h := rust_refines_maintained_model Formal.Maintained.production rfl sampleKey true
    sampleAcquire sampleMaintenance rfl sampleScript (by decide)
  obtain ⟨es, m, hrun, _, hsame, _, hresult⟩ := h
  exact ⟨es, m, hrun, hsame, hresult.mpr rfl⟩

end OresLocks.Maintained
