import OresLocks.Renewal

/-!
# Runs of the renewal supervisor

`DecisionSpec` and `AcceptSpec` list what the two primitive entry points can do.
`assert_live` and `checkpoint` are built from them, so a relation that both keep is
kept by every run.
-/

namespace OresLocks.Renewal

set_option autoImplicit false

open Shared.Runs

theorem schedule_ok {nowMs ttlMs deadlineMs nextMs : Nat} {policy : RenewalPolicy}
    (h : schedule nowMs ttlMs policy = .ok (deadlineMs, nextMs)) :
    deadlineMs = nowMs + ttlMs ∧ 0 < ttlMs ∧ deadlineMs ≤ maxRenewalClockMs ∧ nowMs < nextMs ∧
      nextMs < deadlineMs := by
  unfold schedule at h
  split at h
  · simp at h
  rename_i httl
  dsimp only at h
  split at h
  · simp at h
  rename_i hpolicy
  split at h
  · simp at h
  rename_i deadline hdeadline
  split at h
  · simp at h
  split at h
  · simp at h
  rename_i hnext
  simp only [Except.ok.injEq, Prod.mk.injEq] at h
  obtain ⟨rfl, rfl⟩ := h
  rw [Option.filter_eq_some_iff] at hdeadline
  obtain ⟨hadd, hmax⟩ := hdeadline
  unfold checkedAdd at hadd
  split at hadd
  · cases hadd
    simp only [decide_eq_true_eq] at hmax
    exact ⟨rfl, by omega, hmax, by omega, by omega⟩
  · cases hadd

theorem validateDeadlineProgress_ok {previous renewed : Option Nat}
    (h : validateDeadlineProgress previous renewed = .ok ()) :
    ∀ d, previous = some d → ∃ d', renewed = some d' ∧ d < d' := by
  intro d hd
  subst hd
  unfold validateDeadlineProgress at h
  split at h
  · cases h
  cases renewed with
  | none => simp at h
  | some next =>
    dsimp only at h
    split at h
    · cases h
    · exact ⟨next, rfl, by omega⟩

namespace RenewalSupervisor

inductive DecisionSpec (s : RenewalSupervisor) (nowMs : Nat) :
    RenewalDecision → RenewalSupervisor → Prop where
  | sticky {loss : RenewalError} : s.loss = some loss →
      DecisionSpec s nowMs (.lost loss.reason) s
  | loses {error : RenewalError} {lastObservedMs : Nat} : s.loss = none →
      s.lastObservedMs ≤ lastObservedMs →
      DecisionSpec s nowMs (.lost error.reason) { s with lastObservedMs, loss := some error }
  | renewNow : s.loss = none → s.lastObservedMs ≤ nowMs → nowMs < s.localDeadlineMs →
      s.nextRenewalMs ≤ nowMs →
      DecisionSpec s nowMs .renewNow { s with lastObservedMs := nowMs }
  | wait : s.loss = none → s.lastObservedMs ≤ nowMs → nowMs < s.localDeadlineMs →
      nowMs < s.nextRenewalMs →
      DecisionSpec s nowMs (.wait (s.nextRenewalMs - nowMs)) { s with lastObservedMs := nowMs }

theorem lose_eq {s : RenewalSupervisor} (h : s.loss = none) (error : RenewalError) :
    s.lose error = (.lost error.reason, { s with loss := some error }) := by
  simp [lose, record, h]

theorem fail_eq {s : RenewalSupervisor} (h : s.loss = none) (error : RenewalError) :
    s.fail error = (.error error, { s with loss := some error }) := by
  simp [fail, record, h]

theorem decision_spec (s : RenewalSupervisor) (nowMs : Nat) :
    DecisionSpec s nowMs (s.decision nowMs).1 (s.decision nowMs).2 := by
  unfold decision
  split
  · rename_i loss hloss
    exact .sticky hloss
  rename_i hlive
  have hlive' : ({ s with lastObservedMs := nowMs } : RenewalSupervisor).loss = none := hlive
  split
  · rw [lose_eq hlive]
    exact .loses hlive (Nat.le_refl _)
  split
  · rw [lose_eq hlive]
    exact .loses hlive (Nat.le_refl _)
  rename_i hclock
  have hle : s.lastObservedMs ≤ nowMs := by omega
  dsimp only
  split
  · rw [lose_eq hlive']
    exact .loses hlive hle
  rename_i hdeadline
  split
  · exact .renewNow hlive (by omega) (by omega) ‹_›
  · exact .wait hlive (by omega) (by omega) (by omega)

inductive AcceptSpec (s : RenewalSupervisor) (completedMs : Nat) (renewed : LeaseGrant) :
    Except RenewalError RenewalCheckpoint → RenewalSupervisor → Prop where
  | sticky {loss : RenewalError} : s.loss = some loss →
      AcceptSpec s completedMs renewed (.error loss) s
  | loses {error : RenewalError} {lastObservedMs : Nat} : s.loss = none →
      s.lastObservedMs ≤ lastObservedMs →
      AcceptSpec s completedMs renewed (.error error)
        { s with lastObservedMs, loss := some error }
  | renewed {localDeadlineMs nextRenewalMs : Nat} : s.loss = none →
      s.lastObservedMs ≤ completedMs → completedMs < s.localDeadlineMs →
      renewed.key = s.grant.key → renewed.holder = s.grant.holder →
      renewed.fencingToken = s.grant.fencingToken →
      validateDeadlineProgress s.grant.leaseExpiresMs renewed.leaseExpiresMs = .ok () →
      schedule completedMs renewed.ttlMs s.policy = .ok (localDeadlineMs, nextRenewalMs) →
      AcceptSpec s completedMs renewed (.ok (.renewed (nextRenewalMs - completedMs)))
        { s with
          grant := renewed, localDeadlineMs, nextRenewalMs, lastObservedMs := completedMs }

theorem acceptRenewal_spec (s : RenewalSupervisor) (completedMs : Nat) (renewed : LeaseGrant) :
    AcceptSpec s completedMs renewed (s.acceptRenewal completedMs renewed).1
      (s.acceptRenewal completedMs renewed).2 := by
  unfold acceptRenewal
  split
  · rename_i loss hloss
    exact .sticky hloss
  rename_i hlive
  have hlive' : ({ s with lastObservedMs := completedMs } : RenewalSupervisor).loss = none := hlive
  split
  · rw [fail_eq hlive]
    exact .loses hlive (Nat.le_refl _)
  split
  · rw [fail_eq hlive]
    exact .loses hlive (Nat.le_refl _)
  rename_i hclock
  have hle : s.lastObservedMs ≤ completedMs := by omega
  dsimp only
  split
  · rw [fail_eq hlive']
    exact .loses hlive hle
  rename_i hdeadline
  split
  · rw [fail_eq hlive']
    exact .loses hlive hle
  rename_i hidentity
  split
  · rw [fail_eq hlive']
    exact .loses hlive hle
  rename_i htoken
  split
  · rw [fail_eq hlive']
    exact .loses hlive hle
  rename_i hprogress
  split
  · rw [fail_eq hlive']
    exact .loses hlive hle
  rename_i hschedule
  push Not at hidentity
  exact .renewed hlive (by omega) (by omega) hidentity.1 hidentity.2 (by simpa using htoken)
    hprogress hschedule

/-- What holds of a supervisor that has not lost its lease. -/
structure Live (s : RenewalSupervisor) : Prop where
  observed : s.lastObservedMs < s.localDeadlineMs
  inDomain : s.localDeadlineMs ≤ maxRenewalClockMs
  nextRenewal : s.nextRenewalMs < s.localDeadlineMs

/-- What every call keeps of the state before it. -/
structure Follows (s t : RenewalSupervisor) : Prop where
  key : t.grant.key = s.grant.key
  holder : t.grant.holder = s.grant.holder
  fencingToken : t.grant.fencingToken = s.grant.fencingToken
  deadline : ∀ d, s.grant.leaseExpiresMs = some d → ∃ d', t.grant.leaseExpiresMs = some d' ∧ d ≤ d'
  observed : s.lastObservedMs ≤ t.lastObservedMs
  sticky : ∀ loss, s.loss = some loss → t = s
  live : (s.loss = none → s.Live) → t.loss = none → t.Live

theorem Follows.refl (s : RenewalSupervisor) : Follows s s :=
  ⟨rfl, rfl, rfl, fun d hd => ⟨d, hd, Nat.le_refl d⟩, Nat.le_refl _, fun _ _ => rfl, fun h => h⟩

theorem Follows.trans {s t u : RenewalSupervisor} (h : Follows s t) (h' : Follows t u) :
    Follows s u where
  key := h'.key.trans h.key
  holder := h'.holder.trans h.holder
  fencingToken := h'.fencingToken.trans h.fencingToken
  deadline := by
    intro d hd
    obtain ⟨d', hd', hle⟩ := h.deadline d hd
    obtain ⟨d'', hd'', hle'⟩ := h'.deadline d' hd'
    exact ⟨d'', hd'', Nat.le_trans hle hle'⟩
  observed := Nat.le_trans h.observed h'.observed
  sticky := by
    intro loss hloss
    have hts := h.sticky loss hloss
    subst hts
    exact h'.sticky loss hloss
  live := fun hs => h'.live (h.live hs)

/-- Losing the lease keeps the grant and the window. -/
theorem follows_lost {s : RenewalSupervisor} {error : RenewalError} {lastObservedMs : Nat}
    (hlive : s.loss = none) (hle : s.lastObservedMs ≤ lastObservedMs) :
    Follows s { s with lastObservedMs, loss := some error } := by
  refine ⟨rfl, rfl, rfl, fun d hd => ⟨d, hd, Nat.le_refl d⟩, hle, ?_, ?_⟩
  · intro loss hloss
    rw [hlive] at hloss
    cases hloss
  · intro _ hnone
    cases hnone

theorem follows_observed {s : RenewalSupervisor} {nowMs : Nat} (hlive : s.loss = none)
    (hle : s.lastObservedMs ≤ nowMs) (hlt : nowMs < s.localDeadlineMs) :
    Follows s { s with lastObservedMs := nowMs } := by
  refine ⟨rfl, rfl, rfl, fun d hd => ⟨d, hd, Nat.le_refl d⟩, hle, ?_, ?_⟩
  · intro loss hloss
    rw [hlive] at hloss
    cases hloss
  · intro hs _
    have h := hs hlive
    exact ⟨hlt, h.inDomain, h.nextRenewal⟩

theorem DecisionSpec.follows {s t : RenewalSupervisor} {nowMs : Nat} {answer : RenewalDecision}
    (h : DecisionSpec s nowMs answer t) : Follows s t := by
  cases h with
  | sticky => exact .refl s
  | loses hlive hle => exact follows_lost hlive hle
  | renewNow hlive hle hlt => exact follows_observed hlive hle hlt
  | wait hlive hle hlt => exact follows_observed hlive hle hlt

theorem AcceptSpec.follows {s t : RenewalSupervisor} {completedMs : Nat} {renewed : LeaseGrant}
    {answer : Except RenewalError RenewalCheckpoint}
    (h : AcceptSpec s completedMs renewed answer t) : Follows s t := by
  cases h with
  | sticky => exact .refl s
  | loses hlive hle => exact follows_lost hlive hle
  | renewed hlive hle _ hkey hholder htoken hprogress hschedule =>
    obtain ⟨hd, httl, hmax, _, hnext⟩ := schedule_ok hschedule
    refine ⟨hkey, hholder, htoken, ?_, hle, ?_, ?_⟩
    · intro d hd
      obtain ⟨d', hd', hlt⟩ := validateDeadlineProgress_ok hprogress d hd
      exact ⟨d', hd', Nat.le_of_lt hlt⟩
    · intro loss hloss
      rw [hlive] at hloss
      cases hloss
    · intro _ _
      exact ⟨by dsimp only; omega, hmax, hnext⟩

theorem DecisionSpec.of_lost {s t : RenewalSupervisor} {nowMs : Nat} {answer : RenewalDecision}
    {loss : RenewalError} (h : DecisionSpec s nowMs answer t) (hloss : s.loss = some loss) :
    answer = .lost loss.reason ∧ t = s := by
  cases h with
  | sticky hloss' =>
    rw [hloss] at hloss'
    cases hloss'
    exact ⟨rfl, rfl⟩
  | loses hlive | renewNow hlive | wait hlive =>
    rw [hloss] at hlive
    cases hlive

/-- A lost decision has recorded a loss with the reason it reports. -/
theorem DecisionSpec.recorded {s t : RenewalSupervisor} {nowMs : Nat} {reason : RenewalLossReason}
    (h : DecisionSpec s nowMs (.lost reason) t) : ∃ loss, t.loss = some loss ∧ loss.reason = reason := by
  cases h with
  | sticky hloss => exact ⟨_, hloss, rfl⟩
  | loses => exact ⟨_, rfl, rfl⟩

inductive AssertSpec (s : RenewalSupervisor) (nowMs : Nat) :
    Option (Except RenewalError Unit) → RenewalSupervisor → Prop where
  | lost {reason : RenewalLossReason} {t : RenewalSupervisor} {loss : RenewalError} :
      DecisionSpec s nowMs (.lost reason) t → t.loss = some loss →
      AssertSpec s nowMs (some (.error loss)) t
  | live {answer : RenewalDecision} {t : RenewalSupervisor} : DecisionSpec s nowMs answer t →
      (∀ reason, answer ≠ .lost reason) → AssertSpec s nowMs (some (.ok ())) t

theorem assertLive_spec (s : RenewalSupervisor) (nowMs : Nat) :
    AssertSpec s nowMs (s.assertLive nowMs).1 (s.assertLive nowMs).2 := by
  have hspec := s.decision_spec nowMs
  unfold assertLive
  cases hd : s.decision nowMs with
  | mk answer t =>
    rw [hd] at hspec
    cases answer with
    | lost reason =>
      obtain ⟨loss, hloss, _⟩ := hspec.recorded
      dsimp only
      rw [hloss]
      exact .lost hspec hloss
    | wait checkInMs => exact .live hspec (by simp)
    | renewNow => exact .live hspec (by simp)

inductive CheckpointSpec (s : RenewalSupervisor) (nowMs : Nat)
    (response : Except LockError LeaseGrant) (completedMs : Nat) :
    Option Sent → Option (Except RenewalError RenewalCheckpoint) → RenewalSupervisor → Prop where
  | wait {checkInMs : Nat} {t : RenewalSupervisor} : DecisionSpec s nowMs (.wait checkInMs) t →
      CheckpointSpec s nowMs response completedMs none (some (.ok (.wait checkInMs))) t
  | lost {reason : RenewalLossReason} {t : RenewalSupervisor} {loss : RenewalError} :
      DecisionSpec s nowMs (.lost reason) t → t.loss = some loss →
      CheckpointSpec s nowMs response completedMs none (some (.error loss)) t
  | failed {t : RenewalSupervisor} {sent : Sent} {loss : RenewalError} :
      DecisionSpec s nowMs .renewNow t →
      CheckpointSpec s nowMs response completedMs (some sent) (some (.error loss))
        { t with loss := some loss }
  | answered {t u : RenewalSupervisor} {sent : Sent} {renewed : LeaseGrant}
      {answer : Except RenewalError RenewalCheckpoint} :
      DecisionSpec s nowMs .renewNow t → response = .ok renewed →
      AcceptSpec t completedMs renewed answer u →
      CheckpointSpec s nowMs response completedMs (some sent) (some answer) u

theorem checkpoint_spec (s : RenewalSupervisor) (nowMs : Nat)
    (response : Except LockError LeaseGrant) (completedMs : Nat) :
    CheckpointSpec s nowMs response completedMs (s.checkpoint nowMs response completedMs).2.1
      (s.checkpoint nowMs response completedMs).1 (s.checkpoint nowMs response completedMs).2.2 := by
  have hspec := s.decision_spec nowMs
  unfold checkpoint
  cases hd : s.decision nowMs with
  | mk answer t =>
    rw [hd] at hspec
    cases answer with
    | wait checkInMs => exact .wait hspec
    | lost reason =>
      obtain ⟨loss, hloss, _⟩ := hspec.recorded
      dsimp only
      rw [hloss]
      exact .lost hspec hloss
    | renewNow =>
      have hlive : t.loss = none := by
        cases hspec with
        | renewNow hlive => exact hlive
      cases response with
      | error cause =>
        dsimp only
        rw [lose_eq hlive]
        exact .failed hspec
      | ok renewed => exact .answered hspec rfl (t.acceptRenewal_spec completedMs renewed)

theorem AssertSpec.follows {s t : RenewalSupervisor} {nowMs : Nat}
    {answer : Option (Except RenewalError Unit)} (h : AssertSpec s nowMs answer t) :
    Follows s t := by
  cases h with
  | lost hd => exact hd.follows
  | live hd => exact hd.follows

theorem CheckpointSpec.follows {s t : RenewalSupervisor} {nowMs completedMs : Nat}
    {response : Except LockError LeaseGrant} {sent : Option Sent}
    {answer : Option (Except RenewalError RenewalCheckpoint)}
    (h : CheckpointSpec s nowMs response completedMs sent answer t) : Follows s t := by
  cases h with
  | wait hd => exact hd.follows
  | lost hd => exact hd.follows
  | failed hd =>
    apply hd.follows.trans
    cases hd with
    | renewNow hlive => exact follows_lost hlive (Nat.le_refl _)
  | answered hd _ ha => exact hd.follows.trans ha.follows

end RenewalSupervisor

open RenewalSupervisor

/-- Everything the four entry points can do, by their specifications. -/
inductive Change (s : RenewalSupervisor) : Call → RenewalSupervisor → Prop where
  | decision {nowMs : Nat} {answer : RenewalDecision} {t : RenewalSupervisor} :
      DecisionSpec s nowMs answer t → Change s (.decision nowMs answer) t
  | assertLive {nowMs : Nat} {answer : Option (Except RenewalError Unit)}
      {t : RenewalSupervisor} :
      AssertSpec s nowMs answer t → Change s (.assertLive nowMs answer) t
  | acceptRenewal {completedMs : Nat} {renewed : LeaseGrant}
      {answer : Except RenewalError RenewalCheckpoint} {t : RenewalSupervisor} :
      AcceptSpec s completedMs renewed answer t →
      Change s (.acceptRenewal completedMs renewed answer) t
  | checkpoint {nowMs completedMs : Nat} {response : Except LockError LeaseGrant}
      {sent : Option Sent} {answer : Option (Except RenewalError RenewalCheckpoint)}
      {t : RenewalSupervisor} :
      CheckpointSpec s nowMs response completedMs sent answer t →
      Change s (.checkpoint nowMs response completedMs sent answer) t

theorem Step.change {s t : RenewalSupervisor} {c : Call} (h : Step s c t) : Change s c t := by
  cases h with
  | decision nowMs => exact .decision (s.decision_spec nowMs)
  | assertLive nowMs => exact .assertLive (s.assertLive_spec nowMs)
  | acceptRenewal completedMs renewed =>
    exact .acceptRenewal (s.acceptRenewal_spec completedMs renewed)
  | checkpoint nowMs response completedMs =>
    exact .checkpoint (s.checkpoint_spec nowMs response completedMs)

theorem Step.follows {s t : RenewalSupervisor} {c : Call} (h : Step s c t) : Follows s t := by
  cases h.change with
  | decision hd => exact hd.follows
  | assertLive hd => exact hd.follows
  | acceptRenewal hd => exact hd.follows
  | checkpoint hd => exact hd.follows

theorem follows_of_exec {s t : RenewalSupervisor} {calls : List Call} (h : Exec Step s calls t) :
    Follows s t :=
  h.related (R := Follows) .refl .trans Step.follows

/-- The call reports this loss and sends nothing. -/
def Call.Refused (loss : RenewalError) : Call → Prop
  | .decision _ answer => answer = .lost loss.reason
  | .assertLive _ answer => answer = some (.error loss)
  | .acceptRenewal _ _ answer => answer = .error loss
  | .checkpoint _ _ _ sent answer => sent = none ∧ answer = some (.error loss)

theorem Step.refused {s t : RenewalSupervisor} {c : Call} {loss : RenewalError}
    (h : Step s c t) (hloss : s.loss = some loss) : c.Refused loss := by
  cases h.change with
  | decision hd => exact (hd.of_lost hloss).1
  | assertLive hd =>
    cases hd with
    | lost hd hloss' =>
      obtain ⟨_, rfl⟩ := hd.of_lost hloss
      rw [hloss] at hloss'
      cases hloss'
      rfl
    | live hd hanswer => exact absurd (hd.of_lost hloss).1 (hanswer _)
  | acceptRenewal hd =>
    cases hd with
    | sticky hloss' =>
      rw [hloss] at hloss'
      cases hloss'
      rfl
    | loses hlive | renewed hlive =>
      rw [hloss] at hlive
      cases hlive
  | checkpoint hd =>
    cases hd with
    | lost hd hloss' =>
      obtain ⟨_, rfl⟩ := hd.of_lost hloss
      rw [hloss] at hloss'
      cases hloss'
      exact ⟨rfl, rfl⟩
    | wait hd | failed hd | answered hd =>
      have hanswer := (hd.of_lost hloss).1
      cases hanswer

/-- A lost supervisor never changes again and refuses every call. -/
theorem refused_of_exec {s t : RenewalSupervisor} {calls : List Call} {loss : RenewalError}
    (h : Exec Step s calls t) (hloss : s.loss = some loss) :
    t = s ∧ ∀ c ∈ calls, c.Refused loss := by
  refine h.invariant (I := fun calls t => t = s ∧ ∀ c ∈ calls, c.Refused loss)
    ⟨rfl, by simp⟩ ?_
  intro calls t c u _ hi hstep
  obtain ⟨rfl, hcalls⟩ := hi
  refine ⟨hstep.follows.sticky loss hloss, ?_⟩
  intro c' hc'
  rcases List.mem_append.mp hc' with hmem | hmem
  · exact hcalls c' hmem
  · rw [List.mem_singleton] at hmem
    subst hmem
    exact hstep.refused hloss

/-- The clock reading and the check-in time of an answer that carries one. -/
def Call.checkIn : Call → Option (Nat × Nat)
  | .decision nowMs (.wait checkInMs) => some (nowMs, checkInMs)
  | .acceptRenewal completedMs _ (.ok (.wait checkInMs)) => some (completedMs, checkInMs)
  | .acceptRenewal completedMs _ (.ok (.renewed checkInMs)) => some (completedMs, checkInMs)
  | .checkpoint nowMs _ _ _ (some (.ok (.wait checkInMs))) => some (nowMs, checkInMs)
  | .checkpoint _ _ completedMs _ (some (.ok (.renewed checkInMs))) => some (completedMs, checkInMs)
  | _ => none

/-- The readings at which the call took the lease for live: a `Wait` or `RenewNow`
decision, also inside a checkpoint, a successful assertion, an accepted renewal. -/
def Call.liveReadings : Call → List Nat
  | .decision nowMs (.wait _) => [nowMs]
  | .decision nowMs .renewNow => [nowMs]
  | .assertLive nowMs (some (.ok ())) => [nowMs]
  | .acceptRenewal completedMs _ (.ok _) => [completedMs]
  | .checkpoint nowMs _ completedMs _ (some (.ok (.renewed _))) => [nowMs, completedMs]
  | .checkpoint nowMs _ _ _ (some (.ok (.wait _))) => [nowMs]
  | .checkpoint nowMs _ _ (some _) _ => [nowMs]
  | _ => []

/-- The call accepted a renewal. -/
def Call.accepted : Call → Bool
  | .acceptRenewal _ _ (.ok (.renewed _)) => true
  | .checkpoint _ _ _ _ (some (.ok (.renewed _))) => true
  | _ => false

section Answers

variable {s t : RenewalSupervisor} {nowMs completedMs : Nat}

theorem RenewalSupervisor.DecisionSpec.beforeDeadline {answer : RenewalDecision}
    (h : DecisionSpec s nowMs answer t) (hlive : ∀ reason, answer ≠ .lost reason) :
    nowMs < s.localDeadlineMs ∧ t.localDeadlineMs = s.localDeadlineMs := by
  cases h with
  | sticky => exact absurd rfl (hlive _)
  | loses => exact absurd rfl (hlive _)
  | renewNow _ _ hlt => exact ⟨hlt, rfl⟩
  | wait _ _ hlt => exact ⟨hlt, rfl⟩

theorem RenewalSupervisor.DecisionSpec.checkIn {checkInMs : Nat}
    (h : DecisionSpec s nowMs (.wait checkInMs) t) :
    0 < checkInMs ∧ nowMs + checkInMs = t.nextRenewalMs := by
  cases h with
  | wait _ _ _ hnext => exact ⟨by omega, by dsimp only; omega⟩

theorem RenewalSupervisor.AcceptSpec.accepted {renewed : LeaseGrant}
    {answer : RenewalCheckpoint} (h : AcceptSpec s completedMs renewed (.ok answer) t) :
    completedMs < s.localDeadlineMs ∧
    (∀ d, s.grant.leaseExpiresMs = some d → ∃ d', t.grant.leaseExpiresMs = some d' ∧ d < d') ∧
    ∃ checkInMs, answer = .renewed checkInMs ∧ 0 < checkInMs ∧
      completedMs + checkInMs = t.nextRenewalMs := by
  cases h with
  | renewed _ _ hlt _ _ _ hprogress hschedule =>
    obtain ⟨_, _, _, hnext, _⟩ := schedule_ok hschedule
    refine ⟨hlt, validateDeadlineProgress_ok hprogress, _, rfl, by omega, ?_⟩
    dsimp only
    omega

end Answers

theorem Step.checkIn {s t : RenewalSupervisor} {c : Call} {reading checkInMs : Nat}
    (h : Step s c t) (hc : c.checkIn = some (reading, checkInMs)) :
    0 < checkInMs ∧ reading + checkInMs = t.nextRenewalMs := by
  cases h.change with
  | decision hd =>
    rename_i answer
    cases answer with
    | wait =>
      cases hc
      exact hd.checkIn
    | renewNow | lost => cases hc
  | assertLive => cases hc
  | acceptRenewal hd =>
    rename_i answer
    cases answer with
    | error => cases hc
    | ok answer =>
      obtain ⟨_, _, k, rfl, hpos, hsum⟩ := hd.accepted
      cases hc
      exact ⟨hpos, hsum⟩
  | checkpoint hd =>
    cases hd with
    | wait hd =>
      cases hc
      exact hd.checkIn
    | lost | failed => cases hc
    | answered hd hresponse ha =>
      rename_i answer
      cases answer with
      | error => cases hc
      | ok answer =>
        obtain ⟨_, _, k, rfl, hpos, hsum⟩ := ha.accepted
        cases hc
        exact ⟨hpos, hsum⟩

theorem Step.beforeDeadline {s t : RenewalSupervisor} {c : Call} (h : Step s c t) :
    ∀ reading ∈ c.liveReadings, reading < s.localDeadlineMs := by
  intro reading hr
  cases h.change with
  | decision hd =>
    rename_i nowMs answer
    cases answer with
    | wait | renewNow =>
      rw [List.mem_singleton.mp hr]
      exact (hd.beforeDeadline (by simp)).1
    | lost => cases hr
  | assertLive hd =>
    cases hd with
    | lost => cases hr
    | live hd hanswer =>
      rw [List.mem_singleton.mp hr]
      exact (hd.beforeDeadline hanswer).1
  | acceptRenewal hd =>
    rename_i answer
    cases answer with
    | error => cases hr
    | ok answer =>
      rw [List.mem_singleton.mp hr]
      exact hd.accepted.1
  | checkpoint hd =>
    cases hd with
    | wait hd =>
      rw [List.mem_singleton.mp hr]
      exact (hd.beforeDeadline (by simp)).1
    | lost => cases hr
    | failed hd =>
      rw [List.mem_singleton.mp hr]
      exact (hd.beforeDeadline (by simp)).1
    | answered hd hresponse ha =>
      rename_i answer
      obtain ⟨hlt, heq⟩ := hd.beforeDeadline (by simp)
      cases answer with
      | error =>
        rw [List.mem_singleton.mp hr]
        exact hlt
      | ok answer =>
        obtain ⟨hdone, _, k, rfl, _⟩ := ha.accepted
        rcases List.mem_cons.mp hr with rfl | hr
        · exact hlt
        · rw [List.mem_singleton.mp hr]
          omega

theorem Step.deadlineAdvances {s t : RenewalSupervisor} {c : Call} (h : Step s c t)
    (hc : c.accepted = true) :
    ∀ d, s.grant.leaseExpiresMs = some d → ∃ d', t.grant.leaseExpiresMs = some d' ∧ d < d' := by
  cases h.change with
  | decision | assertLive => cases hc
  | acceptRenewal hd =>
    rename_i answer
    cases answer with
    | error => cases hc
    | ok answer => exact hd.accepted.2.1
  | checkpoint hd =>
    cases hd with
    | wait | lost | failed => cases hc
    | answered hd hresponse ha =>
      rename_i answer
      cases answer with
      | error => cases hc
      | ok answer =>
        cases hd with
        | renewNow => exact ha.accepted.2.1

theorem new_live {grant : LeaseGrant} {policy : RenewalPolicy} {nowMs : Nat}
    {s : RenewalSupervisor} (h : RenewalSupervisor.new grant policy nowMs = .ok s) :
    s.grant = grant ∧ s.loss = none ∧ s.lastObservedMs = nowMs ∧
      s.localDeadlineMs = nowMs + grant.ttlMs ∧ s.Live := by
  unfold RenewalSupervisor.new at h
  split at h
  · cases h
  split at h
  · cases h
  split at h
  · cases h
  rename_i hschedule
  cases h
  obtain ⟨hd, httl, hmax, hlt, hnext⟩ := schedule_ok hschedule
  exact ⟨rfl, rfl, rfl, hd, by dsimp only; omega, hmax, hnext⟩

/-- The supervisor invariant over every run of calls, with arbitrary readings and
responses: a loss is final, the identity never changes, a reported authority
deadline only advances, the local window is sound while live, and the lease is
taken for live only before the deadline in force. -/
theorem supervisor_invariant (grant : LeaseGrant) (policy : RenewalPolicy) (startMs : Nat)
    (s₀ : RenewalSupervisor) (hnew : RenewalSupervisor.new grant policy startMs = .ok s₀)
    (calls : List Call) (s : RenewalSupervisor) (h : Exec Step s₀ calls s) :
    (∀ loss, s.loss = some loss → ∀ later t, Exec Step s later t →
      t.loss = some loss ∧ ∀ c ∈ later, c.Refused loss) ∧
    (s.grant.key = grant.key ∧ s.grant.holder = grant.holder ∧
      s.grant.fencingToken = grant.fencingToken) ∧
    (∀ d, s.grant.leaseExpiresMs = some d →
      (∀ later t, Exec Step s later t → ∃ d', t.grant.leaseExpiresMs = some d' ∧ d ≤ d') ∧
      (∀ c t, Step s c t → c.accepted = true → ∃ d', t.grant.leaseExpiresMs = some d' ∧ d < d')) ∧
    (s.loss = none → s.lastObservedMs < s.localDeadlineMs ∧
      s.localDeadlineMs ≤ maxRenewalClockMs ∧ s.nextRenewalMs < s.localDeadlineMs) ∧
    (∀ later t, Exec Step s later t → s.lastObservedMs ≤ t.lastObservedMs) ∧
    (∀ c t reading checkInMs, Step s c t → c.checkIn = some (reading, checkInMs) →
      0 < checkInMs ∧ reading + checkInMs = t.nextRenewalMs) ∧
    (∀ c t, Step s c t → ∀ reading ∈ c.liveReadings, reading < s.localDeadlineMs) := by
  obtain ⟨hgrant, _, _, _, hlive⟩ := new_live hnew
  have hfollows := follows_of_exec h
  refine ⟨?_, ?_, ?_, ?_, ?_, ?_, ?_⟩
  · intro loss hloss later t hlater
    obtain ⟨heq, hcalls⟩ := refused_of_exec hlater hloss
    exact ⟨heq ▸ hloss, hcalls⟩
  · rw [← hgrant]
    exact ⟨hfollows.key, hfollows.holder, hfollows.fencingToken⟩
  · intro d hd
    exact ⟨fun later t hlater => (follows_of_exec hlater).deadline d hd,
      fun c t hstep hc => hstep.deadlineAdvances hc d hd⟩
  · intro hnone
    have hs := hfollows.live (fun _ => hlive) hnone
    exact ⟨hs.observed, hs.inDomain, hs.nextRenewal⟩
  · intro later t hlater
    exact (follows_of_exec hlater).observed
  · intro c t reading checkInMs hstep hc
    exact hstep.checkIn hc
  · intro c t hstep
    exact hstep.beforeDeadline

def sampleGrant : LeaseGrant := ⟨⟨"jobs/rebuild", jobsRebuild_admitted⟩, "worker", 7, none, 10⟩

/-- Renew every five milliseconds, at the latest two before the deadline. -/
def samplePolicy : RenewalPolicy := ⟨5000000, 2000000⟩

def renewedGrant : LeaseGrant := { sampleGrant with leaseExpiresMs := some 19 }

/-- A wait and an accepted renewal, then a decision after the new deadline. -/
theorem loss_after_accepted_renewal :
    ∃ s₀ s t loss, RenewalSupervisor.new sampleGrant samplePolicy 3 = .ok s₀ ∧
      Exec Step s₀ [.decision 4 (.wait 4), .checkpoint 8 (.ok renewedGrant) 9
        (some (sampleGrant, 10000000)) (some (.ok (.renewed 5)))] s ∧
      s.localDeadlineMs = 19 ∧ s.lastObservedMs < s.localDeadlineMs ∧
      Exec Step s [.decision 25 (.lost .expired)] t ∧
      t.loss = some loss ∧ ∀ later u, Exec Step t later u → u.loss = some loss := by
  have hrun : Exec Step ⟨sampleGrant, samplePolicy, 13, 8, 3, none⟩
      [.decision 4 (.wait 4), .checkpoint 8 (.ok renewedGrant) 9
        (some (sampleGrant, 10000000)) (some (.ok (.renewed 5)))]
      ⟨renewedGrant, samplePolicy, 19, 14, 9, none⟩ :=
    Exec.append (.single (.decision 4)) (.single (.checkpoint 8 (.ok renewedGrant) 9))
  have hloss : Exec Step ⟨renewedGrant, samplePolicy, 19, 14, 9, none⟩
      [.decision 25 (.lost .expired)] _ := .single (.decision 25)
  have hnew : RenewalSupervisor.new sampleGrant samplePolicy 3 =
      .ok ⟨sampleGrant, samplePolicy, 13, 8, 3, none⟩ := by decide
  have hlive := supervisor_invariant sampleGrant samplePolicy 3 _ hnew _ _ hrun
  have hlost := supervisor_invariant sampleGrant samplePolicy 3 _ hnew _ _ (hrun.append hloss)
  exact ⟨_, _, _, _, hnew, hrun, rfl, (hlive.2.2.2.1 rfl).1, hloss, rfl,
    fun later u hlater => (hlost.1 _ rfl later u hlater).1⟩

end OresLocks.Renewal
