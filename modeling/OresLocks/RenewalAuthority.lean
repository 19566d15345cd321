import OresLocks.RenewalRuns

/-!
# The supervisor against the authority's own expiry

One clock is shared. A response is processed by the authority at one time and
observed by the supervised process at the same or a later time. The authority
counts the lifetime from the first, the supervisor from the second.
-/

namespace OresLocks.Renewal

set_option autoImplicit false

open Shared.Runs RenewalSupervisor

/-- The supervisor, the latest grant of the authority and the shared clock. -/
structure Supervised where
  supervisor : RenewalSupervisor
  processedMs : Nat
  observedMs : Nat
  ttlMs : Nat
  clockMs : Nat

namespace Supervised

/-- The authority's lease is live strictly before this time. -/
def expiresMs (s : Supervised) : Nat := s.processedMs + s.ttlMs

/-- The latest response was observed in the millisecond it was processed. -/
def Prompt (s : Supervised) : Prop := s.processedMs = s.observedMs

/-- The state after `RenewalSupervisor::new`. -/
def acquired (supervisor : RenewalSupervisor) (processedMs observedMs : Nat) : Supervised :=
  ⟨supervisor, processedMs, observedMs, supervisor.grant.ttlMs, observedMs⟩

end Supervised

open Supervised

/-- A renewal is sent, processed and observed in this order. A failed one may still
have been processed. -/
inductive SupervisedStep (s : Supervised) : Call → Supervised → Prop where
  | decision (nowMs : Nat) : s.clockMs ≤ nowMs →
      SupervisedStep s (.decision nowMs (s.supervisor.decision nowMs).1)
        { s with supervisor := (s.supervisor.decision nowMs).2, clockMs := nowMs }
  | assertLive (nowMs : Nat) : s.clockMs ≤ nowMs →
      SupervisedStep s (.assertLive nowMs (s.supervisor.assertLive nowMs).1)
        { s with supervisor := (s.supervisor.assertLive nowMs).2, clockMs := nowMs }
  | idle (nowMs : Nat) (response : Except LockError LeaseGrant) (completedMs : Nat) :
      s.clockMs ≤ nowMs → (s.supervisor.decision nowMs).1 ≠ .renewNow →
      SupervisedStep s
        (.checkpoint nowMs response completedMs
          (s.supervisor.checkpoint nowMs response completedMs).2.1
          (s.supervisor.checkpoint nowMs response completedMs).1)
        { s with
          supervisor := (s.supervisor.checkpoint nowMs response completedMs).2.2,
          clockMs := nowMs }
  | renewed (nowMs sentMs processedMs completedMs : Nat) (grant : LeaseGrant) :
      s.clockMs ≤ nowMs → (s.supervisor.decision nowMs).1 = .renewNow → nowMs ≤ sentMs →
      sentMs ≤ processedMs → processedMs ≤ completedMs →
      SupervisedStep s
        (.checkpoint nowMs (.ok grant) completedMs
          (s.supervisor.checkpoint nowMs (.ok grant) completedMs).2.1
          (s.supervisor.checkpoint nowMs (.ok grant) completedMs).1)
        ⟨(s.supervisor.checkpoint nowMs (.ok grant) completedMs).2.2, processedMs, completedMs,
          grant.ttlMs, completedMs⟩
  | failed (nowMs completedMs processedMs observedMs ttlMs : Nat) (cause : LockError) :
      s.clockMs ≤ nowMs → (s.supervisor.decision nowMs).1 = .renewNow → nowMs ≤ completedMs →
      processedMs ≤ observedMs →
      SupervisedStep s
        (.checkpoint nowMs (.error cause) completedMs
          (s.supervisor.checkpoint nowMs (.error cause) completedMs).2.1
          (s.supervisor.checkpoint nowMs (.error cause) completedMs).1)
        ⟨(s.supervisor.checkpoint nowMs (.error cause) completedMs).2.2, processedMs, observedMs,
          ttlMs, completedMs⟩

/-- A step whose response, if there is one, is observed at once. -/
def PromptStep (s : Supervised) (c : Call) (t : Supervised) : Prop :=
  SupervisedStep s c t ∧ t.Prompt

theorem SupervisedStep.step {s t : Supervised} {c : Call} (h : SupervisedStep s c t) :
    Step s.supervisor c t.supervisor := by
  cases h with
  | decision nowMs => exact .decision nowMs
  | assertLive nowMs => exact .assertLive nowMs
  | idle nowMs response completedMs => exact .checkpoint nowMs response completedMs
  | renewed nowMs _ _ completedMs grant => exact .checkpoint nowMs (.ok grant) completedMs
  | failed nowMs completedMs _ _ _ cause => exact .checkpoint nowMs (.error cause) completedMs

/-- While the supervisor is live its window starts at the observation. -/
structure Window (s : Supervised) : Prop where
  ordered : s.processedMs ≤ s.observedMs
  live : s.supervisor.loss = none → s.supervisor.Live
  observed : s.supervisor.loss = none → s.supervisor.lastObservedMs = s.clockMs
  deadline : s.supervisor.loss = none → s.supervisor.localDeadlineMs = s.observedMs + s.ttlMs

theorem RenewalSupervisor.DecisionSpec.kept {s t : RenewalSupervisor} {nowMs : Nat}
    {answer : RenewalDecision} (h : DecisionSpec s nowMs answer t) (hlive : t.loss = none) :
    s.loss = none ∧ t.lastObservedMs = nowMs ∧ t.localDeadlineMs = s.localDeadlineMs := by
  cases h with
  | sticky hloss =>
    rw [hloss] at hlive
    cases hlive
  | loses => cases hlive
  | renewNow hs | wait hs => exact ⟨hs, rfl, rfl⟩

theorem RenewalSupervisor.AcceptSpec.kept {s t : RenewalSupervisor} {completedMs : Nat}
    {renewed : LeaseGrant} {answer : Except RenewalError RenewalCheckpoint}
    (h : AcceptSpec s completedMs renewed answer t) (hlive : t.loss = none) :
    t.lastObservedMs = completedMs ∧ t.localDeadlineMs = completedMs + renewed.ttlMs := by
  cases h with
  | sticky hloss =>
    rw [hloss] at hlive
    cases hlive
  | loses => cases hlive
  | renewed _ _ _ _ _ _ _ hschedule => exact ⟨rfl, (schedule_ok hschedule).1⟩

section Checkpoint

variable {s : RenewalSupervisor} {nowMs completedMs : Nat}

theorem checkpoint_idle {response : Except LockError LeaseGrant}
    (h : (s.decision nowMs).1 ≠ .renewNow) :
    (s.checkpoint nowMs response completedMs).2.2 = (s.decision nowMs).2 := by
  unfold checkpoint
  cases hd : s.decision nowMs with
  | mk answer t =>
    cases answer with
    | wait | lost => rfl
    | renewNow =>
      rw [hd] at h
      exact absurd rfl h

theorem checkpoint_ok {grant : LeaseGrant} (h : (s.decision nowMs).1 = .renewNow) :
    (s.checkpoint nowMs (.ok grant) completedMs).2.2 =
      ((s.decision nowMs).2.acceptRenewal completedMs grant).2 := by
  unfold checkpoint
  cases hd : s.decision nowMs with
  | mk answer t =>
    rw [hd] at h
    cases h
    rfl

theorem checkpoint_error (cause : LockError) (completedMs : Nat)
    (h : (s.decision nowMs).1 = .renewNow) :
    (s.checkpoint nowMs (.error cause) completedMs).2.2.loss ≠ none := by
  have hspec := s.decision_spec nowMs
  unfold checkpoint
  cases hd : s.decision nowMs with
  | mk answer t =>
    rw [hd] at h hspec
    cases h
    have hlive : t.loss = none := by
      cases hspec with
      | renewNow hlive => exact hlive
    dsimp only
    rw [lose_eq hlive]
    simp

end Checkpoint

theorem window_acquired {grant : LeaseGrant} {policy : RenewalPolicy}
    {supervisor : RenewalSupervisor} {processedMs observedMs : Nat}
    (hnew : RenewalSupervisor.new grant policy observedMs = .ok supervisor)
    (hle : processedMs ≤ observedMs) : Window (acquired supervisor processedMs observedMs) := by
  obtain ⟨hgrant, _, hlast, hdeadline, hlive⟩ := new_live hnew
  refine ⟨hle, fun _ => hlive, fun _ => hlast, fun _ => ?_⟩
  unfold acquired
  rw [hgrant]
  exact hdeadline

/-- Advancing the clock without a renewal keeps the window. -/
theorem Window.observe {s : Supervised} (h : Window s) {t : RenewalSupervisor} {nowMs : Nat}
    {answer : RenewalDecision} (hd : DecisionSpec s.supervisor nowMs answer t) :
    Window { s with supervisor := t, clockMs := nowMs } where
  ordered := h.ordered
  live := hd.follows.live h.live
  observed := fun hlive => (hd.kept hlive).2.1
  deadline := fun hlive =>
    (hd.kept hlive).2.2.trans (h.deadline (hd.kept hlive).1)

theorem SupervisedStep.window {s t : Supervised} {c : Call} (hstep : SupervisedStep s c t)
    (h : Window s) : Window t := by
  cases hstep with
  | decision nowMs => exact h.observe (s.supervisor.decision_spec nowMs)
  | assertLive nowMs =>
    have hspec := s.supervisor.assertLive_spec nowMs
    generalize (s.supervisor.assertLive nowMs).1 = answer at hspec
    generalize (s.supervisor.assertLive nowMs).2 = t at hspec
    cases hspec with
    | lost hd => exact h.observe hd
    | live hd => exact h.observe hd
  | idle nowMs response completedMs _ hidle =>
    rw [checkpoint_idle hidle]
    exact h.observe (s.supervisor.decision_spec nowMs)
  | renewed nowMs sentMs processedMs completedMs grant _ hdue _ _ hcompleted =>
    rw [checkpoint_ok hdue]
    have hd := s.supervisor.decision_spec nowMs
    have ha := (s.supervisor.decision nowMs).2.acceptRenewal_spec completedMs grant
    exact ⟨hcompleted, (hd.follows.trans ha.follows).live h.live,
      fun hlive => (ha.kept hlive).1, fun hlive => (ha.kept hlive).2⟩
  | failed nowMs completedMs processedMs observedMs ttlMs cause _ hdue _ hle =>
    have hlost := checkpoint_error cause completedMs hdue
    exact ⟨hle, fun hlive => absurd hlive hlost, fun hlive => absurd hlive hlost,
      fun hlive => absurd hlive hlost⟩

theorem window_of_exec {s t : Supervised} {calls : List Call}
    (h : Exec SupervisedStep s calls t) (hs : Window s) : Window t :=
  h.stateInvariant hs (fun hi hstep => hstep.window hi)

theorem supervisedStep_of_prompt {s t : Supervised} {calls : List Call}
    (h : Exec PromptStep s calls t) (hs : s.Prompt) :
    Exec SupervisedStep s calls t ∧ t.Prompt := by
  refine h.invariant (I := fun calls t => Exec SupervisedStep s calls t ∧ t.Prompt)
    ⟨.nil, hs⟩ ?_
  intro calls t c u _ hi hstep
  exact ⟨hi.1.snoc hstep.1, hstep.2⟩

theorem decision_live {s : RenewalSupervisor} {nowMs : Nat} (hlive : s.loss = none)
    (hdomain : nowMs ≤ maxRenewalClockMs) (hlast : s.lastObservedMs ≤ nowMs)
    (hdeadline : nowMs < s.localDeadlineMs) :
    ∀ reason, (s.decision nowMs).1 ≠ .lost reason := by
  intro reason
  have hclock : validateClock nowMs = .ok () := by
    unfold validateClock
    rw [if_pos hdomain]
  unfold decision
  rw [hlive, hclock]
  dsimp only
  rw [if_neg (by omega), if_neg (by omega)]
  split
  · simp
  · simp

/-- The supervisor takes the lease for live at this time. -/
def Supervised.TakesForLive (s : Supervised) (nowMs : Nat) : Prop :=
  ∀ reason, (s.supervisor.decision nowMs).1 ≠ .lost reason

/-- At a live supervisor every later decision respects the authority's expiry exactly
when the latest response was observed at once. -/
theorem Window.safe_iff {s : Supervised} (h : Window s) (hlive : s.supervisor.loss = none) :
    (∀ nowMs, s.clockMs ≤ nowMs → s.TakesForLive nowMs → nowMs < s.expiresMs) ↔ s.Prompt := by
  have hdeadline := h.deadline hlive
  have hobserved := h.observed hlive
  have hwindow := h.live hlive
  have hordered := h.ordered
  constructor
  · intro hsafe
    by_contra hlate
    unfold Prompt at hlate
    have hin : max s.clockMs s.expiresMs < s.supervisor.localDeadlineMs := by
      have hlt := hwindow.observed
      unfold expiresMs
      omega
    have htakes : s.TakesForLive (max s.clockMs s.expiresMs) := by
      have hmax := hwindow.inDomain
      exact decision_live hlive (by omega) (by omega) hin
    have hexpired := hsafe _ (Nat.le_max_left _ _) htakes
    omega
  · intro hprompt nowMs _ htakes
    have hlt := ((s.supervisor.decision_spec nowMs).beforeDeadline htakes).1
    unfold Prompt at hprompt
    unfold expiresMs
    omega

theorem Call.Refused.liveReadings {c : Call} {loss : RenewalError} (h : c.Refused loss) :
    c.liveReadings = [] := by
  cases c with
  | decision nowMs answer =>
    cases h
    rfl
  | assertLive nowMs answer =>
    cases h
    rfl
  | acceptRenewal completedMs renewed answer =>
    cases h
    rfl
  | checkpoint nowMs response completedMs sent answer =>
    obtain ⟨rfl, rfl⟩ := h
    rfl

/-- When every response is observed in the millisecond it is processed, the lease is
never taken for live after the authority's expiry, in any run; and at every live
supervisor that can be reached this condition on the latest response is exact. -/
theorem live_within_authority_lease (grant : LeaseGrant) (policy : RenewalPolicy)
    (processedMs observedMs : Nat) (supervisor : RenewalSupervisor)
    (hnew : RenewalSupervisor.new grant policy observedMs = .ok supervisor)
    (hle : processedMs ≤ observedMs) :
    (processedMs = observedMs → ∀ calls s,
      Exec PromptStep (acquired supervisor processedMs observedMs) calls s →
        ∀ c t, SupervisedStep s c t → ∀ reading ∈ c.liveReadings, reading < s.expiresMs) ∧
    (∀ calls s, Exec SupervisedStep (acquired supervisor processedMs observedMs) calls s →
      s.supervisor.loss = none →
        ((∀ nowMs, s.clockMs ≤ nowMs → s.TakesForLive nowMs → nowMs < s.expiresMs) ↔
          s.Prompt)) := by
  have hstart := window_acquired hnew hle
  constructor
  · intro hprompt calls s hrun c t hstep reading hreading
    obtain ⟨hexec, hp⟩ := supervisedStep_of_prompt hrun hprompt
    have hwindow := window_of_exec hexec hstart
    have hlt := hstep.step.beforeDeadline reading hreading
    cases hloss : s.supervisor.loss with
    | some loss =>
      rw [(hstep.step.refused hloss).liveReadings] at hreading
      cases hreading
    | none =>
      have hdeadline := hwindow.deadline hloss
      unfold Prompt at hp
      unfold expiresMs
      omega
  · intro calls s hrun hlive
    exact (window_of_exec hrun hstart).safe_iff hlive

/-- An acquire processed at 0 with a TTL of ten milliseconds, observed at 5: at 12 the
supervisor still asserts a lease that expired at 10. -/
theorem live_after_authority_expiry :
    ∃ supervisor, RenewalSupervisor.new sampleGrant samplePolicy 5 = .ok supervisor ∧
      SupervisedStep (acquired supervisor 0 5) (.assertLive 12 (some (.ok ())))
        { acquired supervisor 0 5 with
          supervisor := (supervisor.assertLive 12).2, clockMs := 12 } ∧
      ¬ 12 < (acquired supervisor 0 5).expiresMs := by
  refine ⟨⟨sampleGrant, samplePolicy, 15, 10, 5, none⟩, by decide, ?_, by decide⟩
  exact SupervisedStep.assertLive 12 (by decide)

/-- The supervisor after a renewal that was processed and observed at 11. -/
def promptlyRenewed : Supervised :=
  ⟨⟨{ sampleGrant with leaseExpiresMs := some 21 }, samplePolicy, 21, 16, 11, none⟩, 11, 11, 10, 11⟩

/-- After a prompt acquire and a prompt renewal the lease is taken for live up to the new
expiry and no further. -/
theorem prompt_renewal_within_lease :
    ∃ supervisor calls, RenewalSupervisor.new sampleGrant samplePolicy 5 = .ok supervisor ∧
      Exec PromptStep (acquired supervisor 5 5) calls promptlyRenewed ∧ calls.length = 2 ∧
      (∀ c t, SupervisedStep promptlyRenewed c t → ∀ reading ∈ c.liveReadings, reading < 21) ∧
      (∀ nowMs, 11 ≤ nowMs → promptlyRenewed.TakesForLive nowMs → nowMs < 21) ∧
      (promptlyRenewed.supervisor.decision 21).1 = .lost .expired := by
  have hnew : RenewalSupervisor.new sampleGrant samplePolicy 5 =
      .ok ⟨sampleGrant, samplePolicy, 15, 10, 5, none⟩ := by decide
  have hwait : PromptStep (acquired ⟨sampleGrant, samplePolicy, 15, 10, 5, none⟩ 5 5) _
      ⟨⟨sampleGrant, samplePolicy, 15, 10, 6, none⟩, 5, 5, 10, 6⟩ :=
    ⟨.decision 6 (by decide), rfl⟩
  have hrenewal : PromptStep ⟨⟨sampleGrant, samplePolicy, 15, 10, 6, none⟩, 5, 5, 10, 6⟩ _
      promptlyRenewed :=
    ⟨.renewed 10 10 11 11 { sampleGrant with leaseExpiresMs := some 21 } (by decide) (by decide)
      (by decide) (by decide) (by decide), rfl⟩
  have hrun := Exec.append (.single hwait) (.single hrenewal)
  have hlease := live_within_authority_lease sampleGrant samplePolicy 5 5 _ hnew (Nat.le_refl 5)
  have hexec := (supervisedStep_of_prompt hrun rfl).1
  exact ⟨_, _, hnew, hrun, rfl, hlease.1 rfl _ _ hrun, (hlease.2 _ _ hexec rfl).mpr rfl, by decide⟩

end OresLocks.Renewal
