import OresLocks.MaintainedTsMachine
import OresLocks.Shared.Logs
import Mathlib.Data.List.Count

/-!
# Commit admission under background renewal

The maintainer keeps its own invariant with the log; the routine adds, for the await
it is suspended at, what it has already seen. A step appends to the log, so what was
recorded before `COMMIT` was issued stays as it was.
-/

namespace OresLocks.Ts

set_option autoImplicit false

universe u

open Shared.Runs Shared.Logs State

variable {α : Type u}

/-- The grant with the key, holder and token of the original and the requested TTL. -/
def SameGrant (grant : LeaseGrant) (ttlMs : Nat) (raw : RawGrant) : Prop :=
  ∃ renewed, snapshotAuthorityGrant grant.key raw .fiduciaRenew .lostLease = .ok renewed ∧
    renewed.key = grant.key ∧ renewed.holder = grant.holder ∧
    renewed.fencingToken = grant.fencingToken ∧ renewed.ttlMs = ttlMs

theorem snapshotFields_key {key : JsString} {fields : List (JsString × JsValue)}
    {grant : LeaseGrant} (h : snapshotFields key fields = .ok grant) : grant.key = key := by
  unfold snapshotFields at h
  split at h
  · cases h
  split at h
  · cases h
  split at h
  · cases h
  rename_i hkey
  rw [not_not] at hkey
  split at h
  · split at h
    · cases h
    split at h
    · split at h
      · cases h
      split at h
      · cases h
      split at h
      · cases h
        exact hkey
      · split at h
        · cases h
        · cases h
          exact hkey
    · cases h
  · cases h

theorem snapshotAuthorityGrant_key {key : JsString} {raw : RawGrant} {step : LockStep}
    {kind : LockErrorKind} {grant : LeaseGrant}
    (h : snapshotAuthorityGrant key raw step kind = .ok grant) : grant.key = key := by
  unfold snapshotAuthorityGrant at h
  split at h
  · cases h
  · cases h
  split at h
  · cases h
  split at h
  · cases h
  · rename_i hfields
    cases h
    exact snapshotFields_key hfields

/-- The answer of a renewal that the routine accepts. -/
def Good (grant : LeaseGrant) (ttlMs : Nat) (answer : Except Thrown RawGrant) : Prop :=
  ∃ raw, answer = .ok raw ∧ SameGrant grant ttlMs raw

theorem renewChecked_ok {grant renewed : LeaseGrant} {ttlMs : Nat}
    {answer : Except Thrown RawGrant} (h : renewChecked grant ttlMs answer = .ok renewed) :
    Good grant ttlMs answer := by
  unfold renewChecked at h
  split at h
  · cases h
  rename_i raw
  split at h
  · cases h
  rename_i snapshot hsnapshot
  dsimp only at h
  split at h
  · cases h
  rename_i hnone
  split at hnone
  · cases hnone
  rename_i hholder
  split at hnone
  · cases hnone
  rename_i htoken
  split at hnone
  · cases hnone
  rename_i httl
  exact ⟨raw, rfl, snapshot, hsnapshot, snapshotAuthorityGrant_key hsnapshot, not_not.mp hholder,
    not_not.mp htoken, not_not.mp httl⟩

/-- A failed renewal is thrown as a lock error, or as the failed conversion of its cause. -/
theorem renewalError_cases (key : JsString) (cause : Thrown) :
    (∃ error, Thrown.ofBuilt (renewalError key cause) = .lockError error) ∨
      Thrown.ofBuilt (renewalError key cause) = .unprintable := by
  unfold renewalError
  split
  · exact Or.inl ⟨_, rfl⟩
  · cases hbuilt : LockError.transport key cause with
    | ok error => exact Or.inl ⟨_, rfl⟩
    | error thrown =>
      rw [fromCause_error hbuilt]
      exact Or.inr rfl

/-- A rejected check has a message, so the maintainer can always record it. -/
theorem renewChecked_error {grant : LeaseGrant} {ttlMs : Nat} {answer : Except Thrown RawGrant}
    {cause : Thrown} (h : renewChecked grant ttlMs answer = .error cause) (key : JsString) :
    ∃ error, renewalError key cause = .ok error := by
  have hcause : (∃ error, cause = .lockError error) ∨ cause = .unprintable := by
    unfold renewChecked at h
    split at h
    · cases h
      exact renewalError_cases _ _
    split at h
    · cases h
      exact Or.inl ⟨_, rfl⟩
    · dsimp only at h
      split at h
      · cases h
        exact Or.inl ⟨_, rfl⟩
      · cases h
  rcases hcause with ⟨error, rfl⟩ | rfl
  · exact ⟨_, rfl⟩
  · exact ⟨_, rfl⟩

def Event.isMaintainerIssue : Event α → Bool
  | .renewIssued .maintainer => true
  | _ => false

def Event.isMaintainerAnswer : Event α → Bool
  | .renewed .maintainer _ => true
  | _ => false

/-- Renewals of the maintainer that have been issued and not answered. -/
def Phase.inFlight : Phase → Nat
  | .renewing => 1
  | _ => 0

/-- The maintainer and what the log says of it. -/
structure Kept (inputs : Inputs) (grant : LeaseGrant) (m : LeaseMaintainer)
    (log : List (Event α)) : Prop where
  counts : log.countP Event.isMaintainerIssue =
    log.countP Event.isMaintainerAnswer + m.phase.inFlight
  answers : m.failure = none → ∀ answer, .renewed .maintainer answer ∈ log →
    m.phase = .answered answer ∨ Good grant inputs.ttlMs answer
  failed : m.failure ≠ none → m.phase = .finished
  ended : m.phase = .finished → m.stopped = true ∨ m.failure ≠ none
  stopped : m.stopped = true → .stopped ∈ log

section Keeping

variable {inputs : Inputs} {grant : LeaseGrant} {m : LeaseMaintainer} {log : List (Event α)}

theorem kept_opened (answer : Except Thrown RawGrant) :
    Kept inputs grant (opened (α := α) answer).maintainer (opened (α := α) answer).log := by
  refine ⟨rfl, ?_, ?_, ?_, ?_⟩
  · intro _ answer' hmem
    simp [opened] at hmem
  · intro h
    exact absurd rfl h
  · intro h
    cases h
  · intro h
    cases h

/-- Events of the routine do not concern the maintainer. -/
theorem Kept.append (h : Kept inputs grant m log) {e : Event α}
    (hi : e.isMaintainerIssue = false) (ha : e.isMaintainerAnswer = false) :
    Kept inputs grant m (log ++ [e]) where
  counts := by
    rw [List.countP_append, List.countP_append, h.counts]
    simp [hi, ha]
  answers := by
    intro hnone answer hmem
    rcases List.mem_append.mp hmem with hmem | hmem
    · exact h.answers hnone answer hmem
    · rw [List.mem_singleton] at hmem
      subst hmem
      cases ha
  failed := h.failed
  ended := h.ended
  stopped := fun hs => List.mem_append_left _ (h.stopped hs)

theorem kept_stop {s : State α} (h : Kept inputs grant s.maintainer s.log) :
    Kept inputs grant s.stop.maintainer s.stop.log := by
  unfold State.stop
  split
  · exact h
  rename_i hstopped
  have happ := h.append (e := .stopped) rfl rfl
  have hmem : .stopped ∈ s.log ++ [Event.stopped] := by simp
  cases hphase : s.maintainer.phase with
  | sleeping =>
    refine ⟨?_, ?_, ?_, ?_, fun _ => hmem⟩
    · have hc := happ.counts
      rw [hphase] at hc
      exact hc
    · intro hnone answer hm
      rcases happ.answers hnone answer hm with hp | hg
      · rw [hphase] at hp
        cases hp
      · exact Or.inr hg
    · intro hf
      have hp := happ.failed hf
      rw [hphase] at hp
      cases hp
    · intro hp
      cases hp
  | _ =>
    refine ⟨?_, ?_, ?_, ?_, fun _ => hmem⟩
    · have hc := happ.counts
      rw [hphase] at hc
      exact hc
    · intro hnone answer hm
      have hp := happ.answers hnone answer hm
      rw [hphase] at hp
      exact hp
    · intro hf
      exact hphase.symm.trans (happ.failed hf)
    · intro _
      exact Or.inl rfl

end Keeping

/-- Work has resolved. -/
def WorkedLog (log : List (Event α)) : Prop :=
  ∃ before value after, log = before ++ .worked (.ok value) :: after

/-- Work has resolved and the final renewal has been issued after it. -/
def FinalIssued (log : List (Event α)) : Prop :=
  ∃ before value between after,
    log = before ++ .worked (.ok value) :: between ++ .renewIssued .final :: after

theorem WorkedLog.append {log : List (Event α)} (h : WorkedLog log) (e : Event α) :
    WorkedLog (log ++ [e]) := by
  obtain ⟨before, value, after, rfl⟩ := h
  exact ⟨before, value, after ++ [e], by simp⟩

/-- What has been recorded when `COMMIT` may be issued. -/
structure AdmitsCommit (inputs : Inputs) (grant : LeaseGrant) (log : List (Event α)) : Prop where
  renewed : ∃ before value between during raw,
    log = before ++ .worked (.ok value) :: between ++ .renewIssued .final :: during ++
      [.renewed .final (.ok raw)] ∧ SameGrant grant inputs.ttlMs raw
  maintained : ∀ answer, .renewed .maintainer answer ∈ log → Good grant inputs.ttlMs answer
  stopped : .stopped ∈ log
  idle : log.countP Event.isMaintainerIssue = log.countP Event.isMaintainerAnswer

/-- `COMMIT` has resolved. -/
def CommittedLog (log : List (Event α)) : Prop := ∃ rows, .queried .commit (.ok rows) ∈ log

theorem CommittedLog.append {log : List (Event α)} (h : CommittedLog log) (e : Event α) :
    CommittedLog (log ++ [e]) := by
  obtain ⟨rows, hrows⟩ := h
  exact ⟨rows, List.mem_append_left _ hrows⟩

/-- The part of the invariant that does not depend on the await. -/
structure Core (inputs : Inputs) (grant : LeaseGrant) (m : LeaseMaintainer)
    (log : List (Event α)) (poisonClient : Bool) : Prop where
  kept : Kept inputs grant m log
  unpoisoned : poisonClient = false → CommittedLog log
  returned : BeforeEach (· = .clientReleased false) CommittedLog log
  admitted : BeforeEach (· = .queryIssued .commit) (AdmitsCommit inputs grant) log

/-- Events that neither concern the maintainer nor need anything before them. -/
def Event.isPlain : Event α → Bool
  | .renewIssued .maintainer => false
  | .renewed .maintainer _ => false
  | .queryIssued .commit => false
  | .clientReleased _ => false
  | _ => true

theorem Event.isPlain_spec {e : Event α} (h : e.isPlain = true) :
    e.isMaintainerIssue = false ∧ e.isMaintainerAnswer = false ∧ e ≠ .clientReleased false ∧
      e ≠ .queryIssued .commit := by
  refine ⟨?_, ?_, ?_, ?_⟩
  · cases e with
    | renewIssued renewer =>
      cases renewer with
      | maintainer => cases h
      | final => rfl
    | _ => rfl
  · cases e with
    | renewed renewer answer =>
      cases renewer with
      | maintainer => cases h
      | final => rfl
    | _ => rfl
  · intro he
    subst he
    cases h
  · intro he
    subst he
    cases h

variable {inputs : Inputs} {grant : LeaseGrant}

/-- The invariant of the whole state. -/
def CoreOf (inputs : Inputs) (grant : LeaseGrant) (s : State α) : Prop :=
  Core inputs grant s.maintainer s.log s.poisonClient

theorem CoreOf.emit {s : State α} (h : CoreOf inputs grant s) {e : Event α}
    (he : e.isPlain = true) : CoreOf inputs grant (s.emit e) := by
  obtain ⟨hi, ha, hc, hq⟩ := Event.isPlain_spec he
  exact ⟨h.kept.append hi ha, fun hp => (h.unpoisoned hp).append e,
    h.returned.concat (fun hp => absurd hp hc), h.admitted.concat (fun hp => absurd hp hq)⟩

theorem CoreOf.stop {s : State α} (h : CoreOf inputs grant s) : CoreOf inputs grant s.stop := by
  have hkept := kept_stop h.kept
  unfold State.stop at hkept ⊢
  split
  · exact h
  · rename_i hstopped
    have hemit : CoreOf inputs grant (s.emit .stopped) := CoreOf.emit h rfl
    rw [if_neg hstopped] at hkept
    exact ⟨hkept, hemit.unpoisoned, hemit.returned, hemit.admitted⟩

theorem stop_stopped (s : State α) : s.stop.maintainer.stopped = true := by
  unfold State.stop
  split
  · assumption
  · rfl

theorem stop_worked {s : State α} (h : WorkedLog s.log) : WorkedLog s.stop.log := by
  unfold State.stop
  split
  · exact h
  · exact h.append _

/-- What the routine has seen at the await it is suspended at. -/
def AtPc (s : State α) : Prop :=
  match s.pc with
  | .stopping inner => s.maintainer.stopped = true ∧ (inner = .undefined → WorkedLog s.log)
  | .renewing => s.maintainer.phase = .finished ∧ s.maintainer.failure = none ∧ FinalIssued s.log
  | _ => True

structure Inv (inputs : Inputs) (grant : LeaseGrant) (s : State α) : Prop where
  core : CoreOf inputs grant s
  atPc : AtPc s

theorem inv_toStop {s : State α} (h : CoreOf inputs grant s) {inner : Thrown}
    (hinner : inner = .undefined → WorkedLog s.log) : Inv inputs grant (s.toStop inner) :=
  ⟨h.stop, stop_stopped s, fun hu => stop_worked (hinner hu)⟩

theorem inv_toClose {s : State α} (h : CoreOf inputs grant s)
    (outcome : Except Thrown (Option α)) : Inv inputs grant (s.toClose outcome) :=
  ⟨h.stop, trivial⟩

theorem ofBuilt_ne_undefined (kind : LockErrorKind) (key : JsString) (step : Option LockStep)
    (cause : Thrown) : Thrown.ofBuilt (LockError.fromCause kind key step cause) ≠ .undefined := by
  rcases ofBuilt_cases kind key step cause with ⟨error, hthrown⟩ | hthrown
  · rw [hthrown]
    exact nofun
  · rw [hthrown]
    exact nofun

section Routine

variable {s : State α}

theorem inv_pollLock (h : CoreOf inputs grant s) : Inv inputs grant s.pollLock := by
  unfold pollLock
  split
  · exact inv_toStop h (by simp)
  · exact ⟨h.emit rfl, trivial⟩

theorem inv_afterConnect (h : CoreOf inputs grant s) (answer : Except Thrown Unit) :
    Inv inputs grant (s.afterConnect inputs answer) := by
  have he : CoreOf inputs grant (s.emit (.connected answer)) := h.emit rfl
  unfold afterConnect
  cases answer with
  | ok _ =>
    have hclient : CoreOf inputs grant { s.emit (.connected (.ok ())) with client := true } := he
    exact ⟨hclient.emit rfl, trivial⟩
  | error cause =>
    dsimp only
    split
    · exact inv_toStop he (by simp)
    · exact inv_toClose he _

theorem inv_afterBegin (h : CoreOf inputs grant s) {answer : Except Thrown Rows}
    (hreason : answer ≠ .error .undefined) : Inv inputs grant (s.afterBegin answer) := by
  have he : CoreOf inputs grant (s.emit (.queried .begin answer)) := h.emit rfl
  unfold afterBegin
  cases answer with
  | ok rows =>
    have hbegan : CoreOf inputs grant { s.emit (.queried .begin (.ok rows)) with began := true } := he
    exact inv_pollLock hbegan
  | error cause =>
    apply inv_toStop he
    intro hundefined
    subst hundefined
    exact absurd rfl hreason

theorem inv_afterPoll (h : CoreOf inputs grant s) (answer : Except Thrown Rows) (elapsedMs : Int) :
    Inv inputs grant (s.afterPoll inputs answer elapsedMs) := by
  have he : CoreOf inputs grant (s.emit (.queried .tryAdvisoryXactLock answer)) := h.emit rfl
  unfold afterPoll
  cases answer with
  | error cause => exact inv_toStop he (fun hu => absurd hu (ofBuilt_ne_undefined _ _ _ _))
  | ok rows =>
    dsimp only
    split
    · exact ⟨he.emit rfl, trivial⟩
    split
    · exact inv_toStop he (by simp)
    split
    · exact inv_toStop he (by simp)
    split
    · exact inv_toStop he (by simp)
    · exact ⟨he, trivial⟩

theorem inv_afterWork (h : CoreOf inputs grant s) (answer : Except Thrown α) :
    Inv inputs grant (s.afterWork inputs answer) := by
  have he : CoreOf inputs grant (s.emit (.worked answer)) := h.emit rfl
  unfold afterWork
  cases answer with
  | ok value =>
    have hvalue : CoreOf inputs grant { s.emit (.worked (.ok value)) with value := some value } := he
    exact inv_toStop hvalue (fun _ => ⟨s.log, value, [], rfl⟩)
  | error cause => exact inv_toStop he (fun hu => absurd hu (ofBuilt_ne_undefined _ _ _ _))

theorem inv_failTransaction (h : CoreOf inputs grant s) (inner : Thrown) :
    Inv inputs grant (s.failTransaction inner) := by
  unfold failTransaction
  split
  · exact ⟨h.emit rfl, trivial⟩
  · exact inv_toClose h _

theorem withFailure_undefined {failure : Option LockError} {inner : Thrown}
    (h : withFailure failure inner = .ok .undefined) : failure = none ∧ inner = .undefined := by
  unfold withFailure at h
  split at h
  · cases h
    exact ⟨rfl, rfl⟩
  · split at h
    · cases h
    · split at h
      · cases h
      · cases h

theorem inv_afterStop (h : CoreOf inputs grant s) {inner : Thrown}
    (hphase : s.maintainer.phase = .finished) (hworked : inner = .undefined → WorkedLog s.log) :
    Inv inputs grant (s.afterStop inner) := by
  unfold afterStop
  split
  · exact inv_toClose h _
  · rename_i inner' hfailure
    split
    · rename_i hundefined
      subst hundefined
      obtain ⟨hnone, hinner⟩ := withFailure_undefined hfailure
      obtain ⟨before, value, after, hlog⟩ := hworked hinner
      refine ⟨h.emit rfl, hphase, hnone, before, value, after, [], ?_⟩
      change s.log ++ [_] = _
      rw [hlog]
    · exact inv_failTransaction h _

theorem admits_of_renewed (h : CoreOf inputs grant s) (hphase : s.maintainer.phase = .finished)
    (hfailure : s.maintainer.failure = none) (hissued : FinalIssued s.log) {raw : RawGrant}
    (hsame : SameGrant grant inputs.ttlMs raw) :
    AdmitsCommit inputs grant (s.log ++ [.renewed .final (.ok raw)]) := by
  have hkept := h.kept.append (e := .renewed .final (.ok raw)) rfl rfl
  obtain ⟨before, value, between, after, hlog⟩ := hissued
  refine ⟨⟨before, value, between, after, raw, by rw [hlog], hsame⟩, ?_, ?_, ?_⟩
  · intro answer hmem
    rcases hkept.answers hfailure answer hmem with hp | hgood
    · rw [hphase] at hp
      cases hp
    · exact hgood
  · rcases hkept.ended hphase with hstopped | hfailed
    · exact hkept.stopped hstopped
    · exact absurd hfailure hfailed
  · have hcounts := hkept.counts
    rw [hphase] at hcounts
    exact hcounts

theorem inv_afterFinalRenewal (h : CoreOf inputs grant s)
    (hphase : s.maintainer.phase = .finished) (hfailure : s.maintainer.failure = none)
    (hissued : FinalIssued s.log) (answer : Except Thrown RawGrant) :
    Inv inputs grant (s.afterFinalRenewal inputs grant answer) := by
  have he : CoreOf inputs grant (s.emit (.renewed .final answer)) := h.emit rfl
  unfold afterFinalRenewal
  dsimp only
  split
  · rename_i renewed hrenewed
    obtain ⟨raw, rfl, hsame⟩ := renewChecked_ok hrenewed
    have hadmits := admits_of_renewed h hphase hfailure hissued hsame
    refine ⟨⟨he.kept.append rfl rfl, fun hp => (he.unpoisoned hp).append _, ?_, ?_⟩, trivial⟩
    · exact he.returned.concat (by simp)
    · exact he.admitted.concat (fun _ => hadmits)
  · split
    · exact inv_failTransaction he _
    · exact inv_toClose he _

theorem inv_afterRollback (h : CoreOf inputs grant s) (inner : Thrown)
    (answer : Except Thrown Rows) : Inv inputs grant (s.afterRollback inputs inner answer) := by
  have he : CoreOf inputs grant (s.emit (.queried .rollback answer)) := h.emit rfl
  unfold afterRollback
  cases answer with
  | ok rows => exact inv_toClose he _
  | error cause =>
    dsimp only
    split
    · exact inv_toClose he _
    · exact inv_toClose he _

theorem inv_afterCommit (h : CoreOf inputs grant s) (answer : Except Thrown Rows) :
    Inv inputs grant (s.afterCommit inputs answer) := by
  have he : CoreOf inputs grant (s.emit (.queried .commit answer)) := h.emit rfl
  unfold afterCommit
  cases answer with
  | ok rows =>
    apply inv_toClose
    exact ⟨he.kept, fun _ => ⟨rows, by simp [State.emit]⟩, he.returned, he.admitted⟩
  | error cause => exact inv_toClose he _

theorem inv_afterClose (h : CoreOf inputs grant s) (outcome : Except Thrown (Option α))
    (answer : Except Thrown Unit) : Inv inputs grant (s.afterClose outcome answer) := by
  unfold afterClose
  have hreturned : CoreOf inputs grant
      (if s.client then s.emit (.clientReleased s.poisonClient) else s) := by
    split
    · refine ⟨h.kept.append rfl rfl, fun hp => (h.unpoisoned hp).append _, ?_, ?_⟩
      · apply h.returned.concat
        intro heq
        apply h.unpoisoned
        simpa using heq
      · exact h.admitted.concat (by simp)
    · exact h
  exact ⟨hreturned.emit rfl, trivial⟩

theorem inv_afterRelease (h : CoreOf inputs grant s) (outcome : Except Thrown (Option α))
    (answer : Except Thrown Bool) :
    Inv inputs grant (s.afterRelease inputs grant outcome answer) :=
  ⟨h.emit rfl, trivial⟩

end Routine

section Maintainer

variable {s : State α}

/-- The final renewal is only awaited once the maintainer has finished. -/
theorem AtPc.pc_ne_renewing (h : AtPc s) (hphase : s.maintainer.phase ≠ .finished) :
    s.pc ≠ .renewing := by
  intro hpc
  unfold AtPc at h
  rw [hpc] at h
  exact hphase h.1

/-- Steps of the maintainer leave the await of the routine and only add to the log. -/
theorem AtPc.of_maintainer {t : State α} (h : AtPc s) (hphase : s.maintainer.phase ≠ .finished)
    (hpc : t.pc = s.pc) (hstopped : t.maintainer.stopped = s.maintainer.stopped)
    (hlog : t.log = s.log ∨ ∃ e, t.log = s.log ++ [e]) : AtPc t := by
  have hne := h.pc_ne_renewing hphase
  unfold AtPc at h ⊢
  rw [hpc]
  cases hs : s.pc with
  | stopping inner =>
    rw [hs] at h
    refine ⟨hstopped.trans h.1, ?_⟩
    intro hinner
    rcases hlog with hlog | ⟨e, hlog⟩
    · rw [hlog]
      exact h.2 hinner
    · rw [hlog]
      exact (h.2 hinner).append e
  | renewing => exact absurd hs hne
  | _ => trivial

/-- The clauses about the log hold after any event that is not one of theirs. -/
theorem CoreOf.of_kept {t : State α} (h : CoreOf inputs grant s)
    (hkept : Kept inputs grant t.maintainer t.log) (hpoison : t.poisonClient = s.poisonClient)
    (hlog : t.log = s.log ∨ ∃ e, t.log = s.log ++ [e] ∧ e ≠ .clientReleased false ∧
      e ≠ .queryIssued .commit) : CoreOf inputs grant t := by
  refine ⟨hkept, ?_, ?_, ?_⟩
  · intro hp
    have hc := h.unpoisoned (hpoison.symm.trans hp)
    rcases hlog with hlog | ⟨e, hlog, _⟩
    · rw [hlog]
      exact hc
    · rw [hlog]
      exact hc.append e
  · rcases hlog with hlog | ⟨e, hlog, hne, _⟩
    · rw [hlog]
      exact h.returned
    · rw [hlog]
      exact h.returned.concat (fun hp => absurd hp hne)
  · rcases hlog with hlog | ⟨e, hlog, _, hne⟩
    · rw [hlog]
      exact h.admitted
    · rw [hlog]
      exact h.admitted.concat (fun hp => absurd hp hne)

/-- A phase without a renewal in flight or an unread answer replaces another. -/
theorem Kept.setPhase {m : LeaseMaintainer} {log : List (Event α)} {phase : Phase}
    (h : Kept inputs grant m log) (hidle : m.phase.inFlight = phase.inFlight)
    (hanswers : ∀ answer, m.phase = .answered answer → Good grant inputs.ttlMs answer)
    (hbefore : m.phase ≠ .finished) (hafter : phase = .finished → m.stopped = true) :
    Kept inputs grant { m with phase } log where
  counts := by rw [h.counts, hidle]
  answers := by
    intro hnone answer hmem
    rcases h.answers hnone answer hmem with hp | hgood
    · exact Or.inr (hanswers answer hp)
    · exact Or.inr hgood
  failed := fun hf => absurd (h.failed hf) hbefore
  ended := fun hp => Or.inl (hafter hp)
  stopped := h.stopped

theorem inv_timer (h : Inv inputs grant s) (hphase : s.maintainer.phase = .sleeping) :
    Inv inputs grant (s.setPhase .woken) := by
  have hkept : Kept inputs grant { s.maintainer with phase := .woken } s.log := by
    apply h.core.kept.setPhase
    · rw [hphase]
      rfl
    · intro answer hp
      rw [hphase] at hp
      cases hp
    · rw [hphase]
      exact Phase.noConfusion
    · exact Phase.noConfusion
  exact ⟨h.core.of_kept hkept rfl (Or.inl rfl),
    h.atPc.of_maintainer (by rw [hphase]; exact Phase.noConfusion) rfl rfl (Or.inl rfl)⟩

theorem inv_maintainerAnswered (h : Inv inputs grant s) (hphase : s.maintainer.phase = .renewing)
    (answer : Except Thrown RawGrant) :
    Inv inputs grant ((s.emit (.renewed .maintainer answer)).setPhase (.answered answer)) := by
  have hkept : Kept inputs grant { s.maintainer with phase := .answered answer }
      (s.log ++ [.renewed .maintainer answer]) := by
    have hk := h.core.kept
    refine ⟨?_, ?_, ?_, ?_, ?_⟩
    · have hcounts := hk.counts
      rw [hphase] at hcounts
      rw [List.countP_append, List.countP_append, hcounts]
      rfl
    · intro hnone answer' hmem
      rcases List.mem_append.mp hmem with hmem | hmem
      · rcases hk.answers hnone answer' hmem with hp | hgood
        · rw [hphase] at hp
          cases hp
        · exact Or.inr hgood
      · rw [List.mem_singleton] at hmem
        cases hmem
        exact Or.inl rfl
    · intro hf
      have hp := hk.failed hf
      rw [hphase] at hp
      cases hp
    · intro hp
      cases hp
    · intro hs
      exact List.mem_append_left _ (hk.stopped hs)
  have hne : s.maintainer.phase ≠ .finished := by
    rw [hphase]
    exact Phase.noConfusion
  exact ⟨h.core.of_kept hkept rfl (Or.inr ⟨_, rfl, by simp, by simp⟩),
    h.atPc.of_maintainer hne rfl rfl (Or.inr ⟨_, rfl⟩)⟩

theorem inv_maintainerWoken (h : Inv inputs grant s) (hphase : s.maintainer.phase = .woken) :
    Inv inputs grant s.maintainerWoken := by
  have hne : s.maintainer.phase ≠ .finished := by
    rw [hphase]
    exact Phase.noConfusion
  have hanswers : ∀ answer, s.maintainer.phase = .answered answer →
      Good grant inputs.ttlMs answer := by
    intro answer hp
    rw [hphase] at hp
    cases hp
  unfold maintainerWoken
  split
  · rename_i hstopped
    have hkept : Kept inputs grant { s.maintainer with phase := .finished } s.log :=
      h.core.kept.setPhase (by rw [hphase]; rfl) hanswers hne (fun _ => hstopped)
    exact ⟨h.core.of_kept hkept rfl (Or.inl rfl), h.atPc.of_maintainer hne rfl rfl (Or.inl rfl)⟩
  · have hkept : Kept inputs grant { s.maintainer with phase := .renewing }
        (s.log ++ [.renewIssued .maintainer]) := by
      have hk := h.core.kept
      refine ⟨?_, ?_, ?_, ?_, ?_⟩
      · have hcounts := hk.counts
        rw [hphase] at hcounts
        rw [List.countP_append, List.countP_append, hcounts]
        rfl
      · intro hnone answer hmem
        rcases List.mem_append.mp hmem with hmem | hmem
        · rcases hk.answers hnone answer hmem with hp | hgood
          · exact Or.inr (hanswers answer hp)
          · exact Or.inr hgood
        · rw [List.mem_singleton] at hmem
          cases hmem
      · intro hf
        exact absurd (hk.failed hf) hne
      · intro hp
        cases hp
      · intro hs
        exact List.mem_append_left _ (hk.stopped hs)
    exact ⟨h.core.of_kept hkept rfl (Or.inr ⟨_, rfl, by simp, by simp⟩),
      h.atPc.of_maintainer hne rfl rfl (Or.inr ⟨_, rfl⟩)⟩

theorem inv_maintainerRead (h : Inv inputs grant s) {answer : Except Thrown RawGrant}
    (hphase : s.maintainer.phase = .answered answer) :
    Inv inputs grant (s.maintainerRead inputs grant answer) := by
  have hne : s.maintainer.phase ≠ .finished := by
    rw [hphase]
    exact Phase.noConfusion
  unfold maintainerRead
  split
  · rename_i renewed hrenewed
    have hanswers : ∀ answer', s.maintainer.phase = .answered answer' →
        Good grant inputs.ttlMs answer' := by
      intro answer' hp
      rw [hphase] at hp
      cases hp
      exact renewChecked_ok hrenewed
    have hidle : ∀ phase : Phase, phase.inFlight = 0 →
        s.maintainer.phase.inFlight = phase.inFlight := by
      intro phase hzero
      rw [hphase, hzero]
      rfl
    split
    · rename_i hstopped
      have hkept : Kept inputs grant { s.maintainer with phase := .finished } s.log :=
        h.core.kept.setPhase (hidle _ rfl) hanswers hne (fun _ => hstopped)
      exact ⟨h.core.of_kept hkept rfl (Or.inl rfl), h.atPc.of_maintainer hne rfl rfl (Or.inl rfl)⟩
    · have hkept : Kept inputs grant { s.maintainer with phase := .sleeping } s.log :=
        h.core.kept.setPhase (hidle _ rfl) hanswers hne Phase.noConfusion
      exact ⟨h.core.of_kept hkept rfl (Or.inl rfl), h.atPc.of_maintainer hne rfl rfl (Or.inl rfl)⟩
  · rename_i cause hcause
    obtain ⟨error, herror⟩ := renewChecked_error hcause grant.key
    rw [herror]
    have hkept : Kept inputs grant ⟨.finished, s.maintainer.stopped, some error⟩ s.log := by
      have hk := h.core.kept
      refine ⟨?_, ?_, fun _ => rfl, ?_, hk.stopped⟩
      · have hcounts := hk.counts
        rw [hphase] at hcounts
        exact hcounts
      · intro hnone
        cases hnone
      · intro _
        exact Or.inr (by simp)
    exact ⟨h.core.of_kept hkept rfl (Or.inl rfl), h.atPc.of_maintainer hne rfl rfl (Or.inl rfl)⟩

end Maintainer

/-- The reason of a rejection the environment answers with. -/
def Input.rejection : Input α → Option Thrown
  | .connected (.error reason) => some reason
  | .begun (.error reason) => some reason
  | .polled (.error reason) _ => some reason
  | .worked (.error reason) => some reason
  | .renewed (.error reason) => some reason
  | .rolledBack (.error reason) => some reason
  | .committed (.error reason) => some reason
  | .released (.error reason) => some reason
  | .maintainerAnswered (.error reason) => some reason
  | _ => none

/-- Every rejection reason is an `Error`. -/
def Input.RejectsErrors (input : Input α) : Prop :=
  ∀ reason, input.rejection = some reason → reason.isError = true

theorem begun_ne_undefined {answer : Except Thrown Rows}
    (h : (Input.begun (α := α) answer).RejectsErrors) : answer ≠ .error .undefined := by
  intro hanswer
  subst hanswer
  have herror := h .undefined rfl
  cases herror

theorem inv_step {s t : State α} {input : Input α} (h : Inv inputs grant s)
    (hreasons : input.RejectsErrors) (hstep : Step inputs grant s input t) :
    Inv inputs grant t := by
  unfold Step step at hstep
  split at hstep
  · cases hstep
    exact inv_afterConnect h.core _
  · cases hstep
    exact inv_afterBegin h.core (begun_ne_undefined hreasons)
  · cases hstep
    exact inv_afterPoll h.core _ _
  · cases hstep
    exact inv_pollLock h.core
  · split at hstep
    · cases hstep
      exact inv_toStop h.core (by simp)
    · cases hstep
  · cases hstep
    exact inv_afterWork h.core _
  · rename_i inner hpc
    have hat := h.atPc
    unfold AtPc at hat
    rw [hpc] at hat
    split at hstep
    · rename_i hphase
      cases hstep
      exact inv_afterStop h.core hphase hat.2
    · cases hstep
  · rename_i answer hpc
    have hat := h.atPc
    unfold AtPc at hat
    rw [hpc] at hat
    obtain ⟨hphase, hfailure, hissued⟩ := hat
    cases hstep
    exact inv_afterFinalRenewal h.core hphase hfailure hissued answer
  · cases hstep
    exact inv_afterRollback h.core _ _
  · cases hstep
    exact inv_afterCommit h.core _
  · split at hstep
    · cases hstep
      exact inv_afterClose h.core _ _
    · cases hstep
  · cases hstep
    exact inv_afterRelease h.core _ _
  · split at hstep
    · rename_i hphase
      cases hstep
      exact inv_timer h hphase
    · cases hstep
  · split at hstep
    · rename_i hphase
      cases hstep
      exact inv_maintainerAnswered h hphase _
    · cases hstep
  · split at hstep
    · rename_i hphase
      cases hstep
      exact inv_maintainerWoken h hphase
    · rename_i answer hphase
      cases hstep
      exact inv_maintainerRead h hphase
    · cases hstep
  · cases hstep

/-- A log in which nothing has been committed and no client returned clean. -/
def Quiet (log : List (Event α)) : Prop :=
  ∀ e ∈ log, e ≠ .queryIssued .commit ∧ e ≠ .clientReleased false

theorem inv_opened (answer : Except Thrown RawGrant) :
    Inv inputs grant (opened (α := α) answer) := by
  have hquiet : Quiet (opened (α := α) answer).log := by
    intro e he
    simp only [opened, List.mem_cons, List.not_mem_nil, or_false] at he
    rcases he with rfl | rfl
    · simp
    · simp
  refine ⟨⟨kept_opened answer, ?_, ?_, ?_⟩, trivial⟩
  · intro hp
    cases hp
  · exact BeforeEach.of_forall_not (fun e he => (hquiet e he).2)
  · exact BeforeEach.of_forall_not (fun e he => (hquiet e he).1)

theorem inv_run {answer : Except Thrown RawGrant} {is : List (Input α)} {s : State α}
    (h : Exec (Step inputs grant) (opened answer) is s)
    (hreasons : ∀ input ∈ is, input.RejectsErrors) : Inv inputs grant s := by
  revert hreasons
  refine h.invariant (I := fun is s => (∀ input ∈ is, input.RejectsErrors) → Inv inputs grant s)
    (fun _ => inv_opened answer) ?_
  intro is t input u _ ih hstep hreasons
  have hbefore : ∀ i ∈ is, i.RejectsErrors := by
    intro i hi
    exact hreasons i (List.mem_append_left _ hi)
  exact inv_step (ih hbefore) (hreasons input (by simp)) hstep

/-- Every interleaving of the routine with its maintainer: `COMMIT` is issued, and a
client returned without poison, only in the order the lease allows. A call that never
opens its transaction does neither. -/
theorem maintained_commit_admitted (inputs : Inputs) (answer : Except Thrown RawGrant) :
    match withMaintainedXactLock (α := α) inputs answer with
    | .ended _ log => Quiet log
    | .refused _ _ log => Quiet log
    | .running grant start => ∀ is s, Exec (Step inputs grant) start is s →
        (∀ input ∈ is, input.RejectsErrors) →
        BeforeEach (· = .queryIssued .commit) (AdmitsCommit inputs grant) s.log ∧
        BeforeEach (· = .clientReleased false) CommittedLog s.log := by
  unfold withMaintainedXactLock
  cases answer with
  | error cause => simp [Quiet]
  | ok raw =>
    dsimp only
    split
    · rename_i heq
      split at heq
      · cases heq
        simp [Quiet]
      · split at heq
        · cases heq
        · cases heq
    · rename_i heq
      split at heq
      · cases heq
      · split at heq
        · cases heq
          simp [Quiet]
        · cases heq
    · rename_i grant start heq
      split at heq
      · cases heq
      · split at heq
        · cases heq
        · cases heq
          intro is s h hreasons
          have hinv := inv_run h hreasons
          exact ⟨hinv.core.admitted, hinv.core.returned⟩

def sampleInputs : Inputs := ⟨js "k", true, 1000, 5000, none⟩

def sampleGrant : LeaseGrant := ⟨js "k", js "h", 7, none, 1000⟩

def sampleRaw : RawGrant :=
  .object [⟨some (js "key"), some (.string (js "k"))⟩,
    ⟨some (js "holder"), some (.string (js "h"))⟩,
    ⟨some (js "fencingToken"), some (.bigint 7)⟩,
    ⟨some (js "ttlMs"), some (.number (.ofInt 1000))⟩]

def sampleSchedule : List (Input Nat) :=
  [.connected (.ok ()), .begun (.ok []), .timer, .polled (.ok [[.boolean true]]) 0,
    .maintainerResumed, .maintainerAnswered (.ok sampleRaw), .maintainerResumed, .worked (.ok 3),
    .maintainerResumed, .stopReturned, .renewed (.ok sampleRaw), .committed (.ok []), .closed (.ok ()),
    .released (.ok true)]

theorem sample_running :
    withMaintainedXactLock (α := Nat) sampleInputs (.ok sampleRaw) =
      .running sampleGrant (opened (.ok sampleRaw)) := by
  rfl

/-- The state a whole successful call ends in, with one background renewal. -/
def sampleEnd : State Nat :=
  (sampleSchedule.foldlM (step sampleInputs sampleGrant) (opened (.ok sampleRaw))).getD
    (opened (.ok sampleRaw))

theorem sample_exec :
    Exec (Step sampleInputs sampleGrant) (opened (.ok sampleRaw)) sampleSchedule sampleEnd :=
  Exec.of_foldlM rfl

theorem sample_rejects : ∀ input ∈ sampleSchedule, input.RejectsErrors := by
  intro input hinput reason hreason
  simp only [sampleSchedule, List.mem_cons, List.not_mem_nil, or_false] at hinput
  rcases hinput with rfl | rfl | rfl | rfl | rfl | rfl | rfl | rfl | rfl | rfl | rfl | rfl | rfl |
    rfl <;> cases hreason

theorem sample_commit_admitted :
    sampleEnd.pc = .settled (.ok (some 3)) ∧
      ∃ pre post, sampleEnd.log = pre ++ .queryIssued .commit :: post ∧
        AdmitsCommit sampleInputs sampleGrant pre := by
  have h := maintained_commit_admitted (α := Nat) sampleInputs (.ok sampleRaw)
  rw [sample_running] at h
  obtain ⟨hcommit, _⟩ := h sampleSchedule sampleEnd sample_exec sample_rejects
  have hlog : sampleEnd.log = sampleEnd.log.take 14 ++ .queryIssued .commit ::
      sampleEnd.log.drop 15 := rfl
  exact ⟨rfl, _, _, hlog, hcommit _ _ _ hlog rfl⟩

end OresLocks.Ts
