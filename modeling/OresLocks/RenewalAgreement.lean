import OresLocks.RenewalGleamWindow
import OresLocks.RenewalGoWindow
import OresLocks.RenewalRustWindow
import OresLocks.RenewalTsWindow

/-!
# The four supervisors agree on the shared domain

On grants that every runtime admits the four runtimes make the same checks, in
different orders. So they accept and lose together, and what they hold while live is
one window.
-/

namespace OresLocks.RenewalWindow

set_option autoImplicit false

open Renewal (RenewalLossReason maxRenewalClockMs maxRenewalTtlMs)
open Shared.Checks Shared.Runs
open Ts (js)

/-- An authority deadline of the clock domain, or none. -/
def ValidDeadline (deadline : Option Nat) : Prop :=
  ∀ value, deadline = some value → 1 ≤ value ∧ value ≤ maxRenewalClockMs

theorem validDeadline_iff (deadline : Option Nat) :
    ValidDeadline deadline ↔ zeroDeadline deadline = false ∧ farDeadline deadline = false := by
  unfold ValidDeadline zeroDeadline farDeadline
  cases deadline with
  | none => simp
  | some value =>
    simp only [Option.some.injEq, forall_eq', Option.any_some, decide_eq_false_iff_not]
    omega

theorem ValidDeadline.present {deadline : Option Nat} (h : ValidDeadline deadline) :
    Go.present deadline = deadline := by
  rw [Go.present_eq]
  cases deadline with
  | none => rfl
  | some d =>
    have hrange := h d rfl
    exact if_neg (by simp; omega)

/-- A grant of the domain the runtimes share; the key is one of the Rust crate. -/
structure SharedGrant (g : LeaseGrant) : Prop where
  key : Ts.lockKey (.string (js g.key.text)) ≠ none
  holder : g.holder ≠ ""
  token : g.fencingToken ≤ 18446744073709551615
  ttl : g.ttlMs ≤ 9007199254740991
  deadline : ∀ d, g.leaseExpiresMs = some d → 1 ≤ d ∧ d ≤ 9007199254740991

section Domain

variable {g : LeaseGrant}

theorem SharedGrant.admitted (h : SharedGrant g) : unadmitted g = false := by
  apply decide_eq_false
  rintro (hkey | hholder)
  · exact h.key hkey
  · exact h.holder hholder

theorem SharedGrant.validDeadline (h : SharedGrant g) : ValidDeadline g.leaseExpiresMs := h.deadline

end Domain

def Call.Shared : Call → Prop
  | .decision nowMs => nowMs ≤ 9007199254740991
  | .acceptRenewal completedMs renewed => completedMs ≤ 9007199254740991 ∧ SharedGrant renewed

/-- Without a fault of the shape of a grant the runtimes make the same checks. -/
theorem newChecks_none_iff {g : LeaseGrant} (h : SharedGrant g) (p : Policy) (nowMs : Nat) :
    (firstFailure (Go.newChecks g p nowMs) = none ↔ firstFailure (Rust.newChecks g p nowMs) = none) ∧
    (firstFailure (Gleam.newChecks g p nowMs) = none ↔
      firstFailure (Rust.newChecks g p nowMs) = none) ∧
    (firstFailure (TypeScript.newChecks g p nowMs) = none ↔
      firstFailure (Rust.newChecks g p nowMs) = none) := by
  obtain ⟨hzero, hfar⟩ := (validDeadline_iff _).mp h.validDeadline
  simp only [firstFailure_eq_none_iff, Go.newChecks, Rust.newChecks, Gleam.newChecks,
    TypeScript.newChecks, TypeScript.snapshotChecks, scheduleChecks, h.admitted, hzero, hfar]
  simp
  tauto

theorem checks_none_iff {w : Window} (hw : SharedGrant w.grant) {c : Call} (hc : c.Shared) :
    (firstFailure (Go.checks w c) = none ↔ firstFailure (Rust.checks w c) = none) ∧
    (firstFailure (Gleam.checks w c) = none ↔ firstFailure (Rust.checks w c) = none) ∧
    (firstFailure (TypeScript.checks w c) = none ↔ firstFailure (Rust.checks w c) = none) := by
  cases c with
  | decision nowMs => exact ⟨Iff.rfl, Iff.rfl, Iff.rfl⟩
  | acceptRenewal completedMs renewed =>
    obtain ⟨_, hr⟩ := hc
    obtain ⟨hzero, hfar⟩ := (validDeadline_iff _).mp hr.validDeadline
    simp only [firstFailure_eq_none_iff, Go.checks, Rust.checks, Gleam.checks, TypeScript.checks,
      TypeScript.snapshotChecks, scheduleChecks, continuityChecks, progressChecks, hr.admitted,
      hzero, hfar, hr.validDeadline.present, hw.validDeadline.present]
    simp
    tauto

/-- One supervisor of each runtime. -/
structure Quartet where
  rust : Renewal.RenewalSupervisor
  go : RenewalGo.RenewalSupervisor
  gleam : RenewalGleam.Supervisor
  ts : RenewalTs.LeaseRenewalSupervisor

/-- All four are live with the same deadline, next renewal time and grant. -/
structure Quartet.SameLive (q : Quartet) : Prop where
  rust : q.rust.loss = none
  go : q.go.loss = none ∧ q.go.localDeadlineMs = q.rust.localDeadlineMs ∧
    q.go.nextRenewalMs = q.rust.nextRenewalMs ∧ q.go.grant = Go.grant q.rust.grant
  gleam : q.gleam.loss = none ∧ q.gleam.localDeadlineMs = q.rust.localDeadlineMs ∧
    q.gleam.nextRenewalMs = q.rust.nextRenewalMs ∧ q.gleam.grant = Gleam.grant q.rust.grant
  ts : q.ts.loss = none ∧ q.ts.localDeadlineMs = q.rust.localDeadlineMs ∧
    q.ts.nextRenewalMs = q.rust.nextRenewalMs ∧ q.ts.grant = TypeScript.snapshot q.rust.grant

def Quartet.AllLost (q : Quartet) : Prop :=
  q.rust.loss ≠ none ∧ q.go.loss ≠ none ∧ q.gleam.loss ≠ none ∧ q.ts.loss ≠ none

/-- One call on all four, with their answers. -/
structure QuartetCall where
  call : Call
  rust : Answer
  go : Answer
  gleam : Answer
  ts : Answer

/-- The same decision, check-in time or renewal everywhere. -/
def QuartetCall.SameAnswer (l : QuartetCall) : Prop :=
  l.go = l.rust ∧ l.gleam = l.rust ∧ l.ts = l.rust ∧ ∀ reason, l.rust ≠ .lost reason

def QuartetCall.AllLost (l : QuartetCall) : Prop :=
  ∃ a b c d, l.rust = .lost a ∧ l.go = .lost b ∧ l.gleam = .lost c ∧ l.ts = .lost d

inductive QuartetStep (q : Quartet) : QuartetCall → Quartet → Prop where
  | call (c : Call) : QuartetStep q
      ⟨c, (Rust.call q.rust c).1, (Go.call q.go c).1, (Gleam.call q.gleam c).1,
        (TypeScript.call q.ts c).1⟩
      ⟨(Rust.call q.rust c).2, (Go.call q.go c).2, (Gleam.call q.gleam c).2,
        (TypeScript.call q.ts c).2⟩

def Quartet.of (w : Window) : Quartet :=
  ⟨Rust.supervisor w, Go.supervisor w, Gleam.supervisor w, TypeScript.supervisor w⟩

theorem Quartet.sameLive_of (w : Window) : (Quartet.of w).SameLive :=
  ⟨rfl, ⟨rfl, rfl, rfl, rfl⟩, ⟨rfl, rfl, rfl, rfl⟩, ⟨rfl, rfl, rfl, rfl⟩⟩

/-- The four hold one window of the shared domain, or all are lost. -/
def Quartet.Joint (q : Quartet) : Prop :=
  (∃ w, SharedGrant w.grant ∧ q = .of w) ∨
  ∃ a b c d, Rust.loss q.rust = some a ∧ Go.loss q.go = some b ∧ q.gleam.loss = some c ∧
    TypeScript.loss q.ts = some d

theorem Window.next_shared {w : Window} (hw : SharedGrant w.grant) {c : Call} (hc : c.Shared) :
    SharedGrant (w.next c).2.grant := by
  cases c with
  | decision nowMs => exact hw
  | acceptRenewal completedMs renewed => exact hc.2

theorem Call.Shared.bounded {c : Call} (h : c.Shared) : c.Bounded := by
  cases c with
  | decision nowMs => trivial
  | acceptRenewal completedMs renewed => exact h.2.token

/-- One call on a joint quartet. -/
theorem QuartetStep.joint {q q' : Quartet} {l : QuartetCall} (h : QuartetStep q l q')
    (hq : q.Joint) (hc : l.call.Shared) : q'.Joint ∧ (l.SameAnswer ∨ l.AllLost) := by
  cases h with
  | call c =>
    rcases hq with ⟨w, hw, rfl⟩ | ⟨a, b, d, e, ha, hb, hd, he⟩
    · obtain ⟨hgo, hgleam, hts⟩ := checks_none_iff hw hc
      cases hrust : firstFailure (Rust.checks w c) with
      | none =>
        have hr : Rust.call (Rust.supervisor w) c = _ :=
          Runtime.call_passed (R := Rust.runtime) hc.bounded hrust
        have ho : Go.call (Go.supervisor w) c = _ :=
          Runtime.call_passed (R := Go.runtime) hc.bounded (hgo.mpr hrust)
        have hm : Gleam.call (Gleam.supervisor w) c = _ :=
          Runtime.call_passed (R := Gleam.runtime) hc.bounded (hgleam.mpr hrust)
        have ht : TypeScript.call (TypeScript.supervisor w) c = _ :=
          Runtime.call_passed (R := TypeScript.runtime) hc.bounded (hts.mpr hrust)
        simp only [Quartet.of, hr, ho, hm, ht]
        exact ⟨Or.inl ⟨(w.next c).2, Window.next_shared hw hc, rfl⟩,
          Or.inl ⟨rfl, rfl, rfl, w.next_ne_lost c⟩⟩
      | some reason =>
        have hfailed : firstFailure (Rust.checks w c) ≠ none := by
          rw [hrust]
          exact Option.some_ne_none reason
        obtain ⟨b, hb⟩ := Option.ne_none_iff_exists'.mp (fun h => hfailed (hgo.mp h))
        obtain ⟨d, hd⟩ := Option.ne_none_iff_exists'.mp (fun h => hfailed (hgleam.mp h))
        obtain ⟨e, he⟩ := Option.ne_none_iff_exists'.mp (fun h => hfailed (hts.mp h))
        obtain ⟨hr, hr'⟩ := Runtime.call_failed (R := Rust.runtime) hc.bounded hrust
        obtain ⟨ho, ho'⟩ := Runtime.call_failed (R := Go.runtime) hc.bounded hb
        obtain ⟨hm, hm'⟩ := Runtime.call_failed (R := Gleam.runtime) hc.bounded hd
        obtain ⟨ht, ht'⟩ := Runtime.call_failed (R := TypeScript.runtime) hc.bounded he
        exact ⟨Or.inr ⟨reason, b, d, e, hr', ho', hm', ht'⟩,
          Or.inr ⟨reason, b, d, e, hr, ho, hm, ht⟩⟩
    · simp only [Rust.call_lost ha, Go.call_lost hb, Gleam.call_lost hd, TypeScript.call_lost he]
      exact ⟨Or.inr ⟨a, b, d, e, ha, hb, hd, he⟩, Or.inr ⟨a, b, d, e, rfl, rfl, rfl, rfl⟩⟩

theorem Quartet.Joint.agree {q : Quartet} (h : q.Joint) : q.SameLive ∨ q.AllLost := by
  rcases h with ⟨w, _, rfl⟩ | ⟨a, b, d, e, ha, hb, hd, he⟩
  · exact Or.inl (Quartet.sameLive_of w)
  · right
    refine ⟨?_, ?_, ?_, ?_⟩
    · intro hnone
      simp [Rust.loss, hnone] at ha
    · intro hnone
      simp [Go.loss, hnone] at hb
    · intro hnone
      simp [hnone] at hd
    · intro hnone
      simp [TypeScript.loss, hnone] at he

theorem Quartet.Joint.run {q q' : Quartet} {ls : List QuartetCall} (hq : q.Joint)
    (h : Exec QuartetStep q ls q') (hshared : ∀ l ∈ ls, l.call.Shared) :
    q'.Joint ∧ ∀ l ∈ ls, l.SameAnswer ∨ l.AllLost := by
  revert hshared
  refine h.invariant (I := fun ls q' => (∀ l ∈ ls, l.call.Shared) →
    q'.Joint ∧ ∀ l ∈ ls, l.SameAnswer ∨ l.AllLost) (fun _ => ⟨hq, by simp⟩) ?_
  intro ls t l u _ ih hstep hshared
  obtain ⟨hjoint, hanswers⟩ := ih (fun l' hl' => hshared l' (List.mem_append_left _ hl'))
  obtain ⟨hjoint', hanswer⟩ := hstep.joint hjoint (hshared l (by simp))
  refine ⟨hjoint', ?_⟩
  intro l' hl'
  rcases List.mem_append.mp hl' with hl' | hl'
  · exact hanswers l' hl'
  · rw [List.mem_singleton.mp hl']
    exact hanswer

theorem Gleam.new_of_none {g : LeaseGrant} {p : Policy} {nowMs : Nat}
    (h : firstFailure (Gleam.newChecks g p nowMs) = none) :
    Gleam.new g p nowMs = .ok (Gleam.supervisor (.start g p nowMs)) := by
  rw [Gleam.new_spec]
  unfold outcome
  rw [h]

theorem Gleam.new_of_some {g : LeaseGrant} {p : Policy} {nowMs : Nat}
    (h : firstFailure (Gleam.newChecks g p nowMs) ≠ none) :
    ∃ reason, Gleam.new g p nowMs = .error reason := by
  obtain ⟨reason, hreason⟩ := Option.ne_none_iff_exists'.mp h
  refine ⟨reason, ?_⟩
  rw [Gleam.new_spec]
  unfold outcome
  rw [hreason]

theorem new_joint (g : LeaseGrant) (p : Policy) (nowMs : Nat) (hg : SharedGrant g) :
    (∃ a b c d, Rust.new g p nowMs = .error a ∧ Go.new g p nowMs = .error b ∧
      Gleam.new g p nowMs = .error c ∧ TypeScript.new g p nowMs = .error d) ∨
    (Rust.new g p nowMs = .ok (Rust.supervisor (.start g p nowMs)) ∧
      Go.new g p nowMs = .ok (Go.supervisor (.start g p nowMs)) ∧
      Gleam.new g p nowMs = .ok (Gleam.supervisor (.start g p nowMs)) ∧
      TypeScript.new g p nowMs = .ok (TypeScript.supervisor (.start g p nowMs))) := by
  obtain ⟨hgo, hgleam, hts⟩ := newChecks_none_iff hg p nowMs
  rcases cases_of_outcome (Rust.new_spec g p nowMs) with ⟨a, ha, hfirst⟩ | ⟨hrust, hfirst⟩
  · have hfailed : firstFailure (Rust.newChecks g p nowMs) ≠ none := by
      rw [hfirst]
      exact Option.some_ne_none _
    obtain ⟨b, hb⟩ := error_of_failed (Go.new_spec g p nowMs) (fun h => hfailed (hgo.mp h))
    obtain ⟨c, hc⟩ := Gleam.new_of_some (fun h => hfailed (hgleam.mp h))
    obtain ⟨d, hd⟩ := error_of_failed (TypeScript.new_spec g p nowMs hg.token)
      (fun h => hfailed (hts.mp h))
    exact Or.inl ⟨a, b, c, d, ha, hb, hc, hd⟩
  · right
    refine ⟨hrust, ?_, Gleam.new_of_none (hgleam.mpr hfirst), ?_⟩
    · exact ok_of_passed (Go.new_spec g p nowMs) (hgo.mpr hfirst)
    · exact ok_of_passed (TypeScript.new_spec g p nowMs hg.token) (hts.mpr hfirst)

/-- Over every grant of the shared domain, policy and start time: the four constructions
succeed together, and along every sequence of calls the four stay live together with the
same window and the same answers, or are lost together. -/
theorem supervisors_agree (g : LeaseGrant) (p : Policy) (nowMs : Nat) (hg : SharedGrant g) :
    (∃ a b c d, Rust.new g p nowMs = .error a ∧ Go.new g p nowMs = .error b ∧
      Gleam.new g p nowMs = .error c ∧ TypeScript.new g p nowMs = .error d) ∨
    ∃ q : Quartet, Rust.new g p nowMs = .ok q.rust ∧ Go.new g p nowMs = .ok q.go ∧
      Gleam.new g p nowMs = .ok q.gleam ∧ TypeScript.new g p nowMs = .ok q.ts ∧ q.SameLive ∧
      ∀ ls q', Exec QuartetStep q ls q' → (∀ l ∈ ls, l.call.Shared) →
        (q'.SameLive ∨ q'.AllLost) ∧ ∀ l ∈ ls, l.SameAnswer ∨ l.AllLost := by
  rcases new_joint g p nowMs hg with herror | ⟨hrust, hgo, hgleam, hts⟩
  · exact Or.inl herror
  right
  refine ⟨.of (.start g p nowMs), hrust, hgo, hgleam, hts, Quartet.sameLive_of _, ?_⟩
  intro ls q' hrun hshared
  have hjoint : (Quartet.of (.start g p nowMs)).Joint := Or.inl ⟨_, hg, rfl⟩
  obtain ⟨hjoint', hanswers⟩ := hjoint.run hrun hshared
  exact ⟨hjoint'.agree, hanswers⟩

def sampleGrant : LeaseGrant := ⟨⟨"jobs/rebuild", jobsRebuild_admitted⟩, "worker", 7, some 1000, 10⟩

def samplePolicy : Policy := ⟨5, 2, by decide, by decide⟩

theorem sampleGrant_shared : SharedGrant sampleGrant :=
  ⟨by decide, by decide, by decide, by decide, by
    intro d hd
    cases hd
    decide⟩

/-- At the edge of the clock domain the four start and then reach their deadline together. -/
theorem sampleGrant_agreed :
    ∃ q : Quartet, Rust.new sampleGrant samplePolicy 9007199254740981 = .ok q.rust ∧ q.SameLive ∧
      ∃ l q', QuartetStep q l q' ∧ l.call = .decision 9007199254740991 ∧ q'.AllLost := by
  have hnew : Rust.new sampleGrant samplePolicy 9007199254740981 =
      .ok (Rust.supervisor (.start sampleGrant samplePolicy 9007199254740981)) := by decide
  rcases supervisors_agree sampleGrant samplePolicy 9007199254740981 sampleGrant_shared with
    ⟨a, _, _, _, ha, _⟩ | ⟨q, hrust, _, _, _, hsame, hruns⟩
  · rw [hnew] at ha
    cases ha
  have hstep := QuartetStep.call (q := q) (.decision 9007199254740991)
  refine ⟨q, hrust, hsame, _, _, hstep, rfl, ?_⟩
  have hagree := (hruns _ _ (.single hstep) (by
    intro l hl
    rw [List.mem_singleton.mp hl]
    exact Nat.le_refl _)).1
  rcases hagree with hsame' | hlost
  · rw [hnew] at hrust
    have hnone := hsame'.rust
    rw [← Except.ok.inj hrust] at hnone
    dsimp only at hnone
    exact absurd hnone (by decide)
  · exact hlost

end OresLocks.RenewalWindow
