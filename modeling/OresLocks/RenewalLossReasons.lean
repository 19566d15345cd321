import OresLocks.RenewalAgreement

/-!
# The loss reasons of three supervisors

Rust, Go and TypeScript make almost the same checks in different orders, and the reason
of a loss is the one of the first check that fails. So inputs with one fault agree and
inputs with several need not. The exceptions with one fault are an authority deadline
beyond the clock domain, which Rust alone calls an overflow, and a zero deadline, which
Go alone reads as an absent one.
-/

namespace OresLocks.RenewalWindow

set_option autoImplicit false

open Renewal (RenewalLossReason maxRenewalClockMs maxRenewalTtlMs)
open Shared.Checks Shared.Runs

/-- When all three fail they give one reason. -/
def Alike (rust go ts : Option RenewalLossReason) : Prop :=
  ∀ a b d, rust = some a → go = some b → ts = some d → b = a ∧ d = a

section Alike

variable {a b d : RenewalLossReason} {rust go ts : Option RenewalLossReason}

@[simp] theorem alike_some : Alike (some a) (some b) (some d) ↔ b = a ∧ d = a := by
  constructor
  · intro h
    exact h a b d rfl rfl rfl
  · rintro h _ _ _ ⟨⟩ ⟨⟩ ⟨⟩
    exact h

@[simp] theorem alike_refl : Alike rust rust rust := by
  intro a b d ha hb hd
  rw [ha] at hb hd
  cases hb
  cases hd
  exact ⟨rfl, rfl⟩

@[simp] theorem alike_none : Alike rust none ts := by
  intro _ _ _ _ h
  cases h

theorem alike_of_ne (h : rust ≠ some d) : Alike rust go (some d) ↔ rust = none ∨ go = none := by
  constructor
  · intro halike
    cases rust with
    | none => exact Or.inl rfl
    | some a =>
      cases go with
      | none => exact Or.inr rfl
      | some b =>
        have heq := (halike a b d rfl rfl rfl).2
        exact absurd (congrArg some heq).symm h
  · rintro (rfl | rfl)
    · intro _ _ _ hnone
      cases hnone
    · exact alike_none

end Alike

theorem zeroDeadline_zero : zeroDeadline (some 0) = true := rfl

theorem zeroDeadline_or_farDeadline {deadline : Option Nat} (h : ¬ ValidDeadline deadline) :
    deadline = some 0 ∧ farDeadline deadline = false ∨
    zeroDeadline deadline = false ∧ farDeadline deadline = true := by
  unfold ValidDeadline at h
  unfold zeroDeadline farDeadline
  cases deadline with
  | none => simp at h
  | some value =>
    simp only [Option.some.injEq, forall_eq', Option.any_some, decide_eq_false_iff_not,
      decide_eq_true_eq] at h ⊢
    omega

/-- The constructions that three runtimes reject for one reason, if all of them reject. -/
inductive NewAligned (g : LeaseGrant) (p : Policy) (nowMs : Nat) : Prop where
  | admitted : nowMs ≤ maxRenewalClockMs → farDeadline g.leaseExpiresMs = false →
      Fits g.ttlMs p → nowMs + g.ttlMs ≤ maxRenewalClockMs → NewAligned g p nowMs
  | wellFormed : unadmitted g = false → ValidDeadline g.leaseExpiresMs →
      (maxRenewalClockMs < nowMs → ttlFault g.ttlMs = false ∧ zeroPolicy p = false) →
      NewAligned g p nowMs

def NewAgrees (g : LeaseGrant) (p : Policy) (nowMs : Nat) : Prop :=
  ∀ a b d, Rust.new g p nowMs = .error a → Go.new g p nowMs = .error b →
    TypeScript.new g p nowMs = .error d → b.reason = a.reason ∧ d.reason = a.reason

theorem newAgrees_iff_alike (g : LeaseGrant) (p : Policy) (nowMs : Nat)
    (htoken : g.fencingToken ≤ 18446744073709551615) :
    NewAgrees g p nowMs ↔ Alike (firstFailure (Rust.newChecks g p nowMs))
      (firstFailure (Go.newChecks g p nowMs)) (firstFailure (TypeScript.newChecks g p nowMs)) := by
  unfold NewAgrees
  rcases cases_of_outcome (Rust.new_spec g p nowMs) with ⟨a, ha, ha'⟩ | ⟨hok, hnone⟩
  · rcases cases_of_outcome (Go.new_spec g p nowMs) with ⟨b, hb, hb'⟩ | ⟨hok, hnone⟩
    · rcases cases_of_outcome (TypeScript.new_spec g p nowMs htoken) with ⟨d, hd, hd'⟩ | ⟨hok, hnone⟩
      · rw [ha, hb, hd, ha', hb', hd', alike_some]
        constructor
        · intro h
          exact h a b d rfl rfl rfl
        · rintro h _ _ _ ⟨⟩ ⟨⟩ ⟨⟩
          exact h
      · simp [Alike, hok, hnone]
    · simp [Alike, hok, hnone]
  · simp [Alike, hok, hnone]

theorem fits_iff (ttlMs : Nat) (p : Policy) :
    Fits ttlMs p ↔ ttlFault ttlMs = false ∧ zeroPolicy p = false ∧ longPolicy p ttlMs = false := by
  unfold ttlFault zeroPolicy longPolicy
  simp only [decide_eq_false_iff_not]
  constructor
  · rintro ⟨hpositive, hbounded, hinterval, hmargin⟩
    omega
  · intro h
    exact ⟨by omega, by omega, by omega, by omega⟩

theorem newAligned_iff (g : LeaseGrant) (p : Policy) (nowMs : Nat) :
    NewAligned g p nowMs ↔
      (clockFault nowMs = false ∧ farDeadline g.leaseExpiresMs = false ∧ ttlFault g.ttlMs = false ∧
        zeroPolicy p = false ∧ longPolicy p g.ttlMs = false ∧ lateDeadline nowMs g.ttlMs = false) ∨
      (unadmitted g = false ∧ zeroDeadline g.leaseExpiresMs = false ∧
        farDeadline g.leaseExpiresMs = false ∧
        (clockFault nowMs = true → ttlFault g.ttlMs = false ∧ zeroPolicy p = false)) := by
  have hclock : clockFault nowMs = false ↔ nowMs ≤ maxRenewalClockMs := by simp [clockFault]
  have hclock' : clockFault nowMs = true ↔ maxRenewalClockMs < nowMs := by simp [clockFault]
  have hlate : lateDeadline nowMs g.ttlMs = false ↔ nowMs + g.ttlMs ≤ maxRenewalClockMs := by
    simp [lateDeadline]
  have hfits := fits_iff g.ttlMs p
  have hvalid := validDeadline_iff g.leaseExpiresMs
  rw [hclock, hclock', hlate]
  constructor
  · rintro (⟨hnow, hfar, hfit, hend⟩ | ⟨hadmitted, hdeadline, hother⟩)
    · obtain ⟨httl, hzero, hlong⟩ := hfits.mp hfit
      exact Or.inl ⟨hnow, hfar, httl, hzero, hlong, hend⟩
    · obtain ⟨hzero, hfar⟩ := hvalid.mp hdeadline
      exact Or.inr ⟨hadmitted, hzero, hfar, hother⟩
  · rintro (⟨hnow, hfar, httl, hzero, hlong, hend⟩ | ⟨hadmitted, hzero, hfar, hother⟩)
    · exact .admitted hnow hfar (hfits.mpr ⟨httl, hzero, hlong⟩) hend
    · exact .wellFormed hadmitted (hvalid.mpr ⟨hzero, hfar⟩) hother

theorem alike_new_unadmitted {g : LeaseGrant} (h : unadmitted g = true) (p : Policy) (nowMs : Nat) :
    Alike (firstFailure (Rust.newChecks g p nowMs)) (firstFailure (Go.newChecks g p nowMs))
      (firstFailure (TypeScript.newChecks g p nowMs)) ↔ NewAligned g p nowMs := by
  have hts : firstFailure (TypeScript.newChecks g p nowMs) = some .identityChanged := by
    simp [TypeScript.newChecks, TypeScript.snapshotChecks, h]
  have hrust : firstFailure (Rust.newChecks g p nowMs) ≠ some .identityChanged := by
    intro hfirst
    have hmem := mem_of_firstFailure hfirst
    simp [Rust.newChecks, scheduleChecks] at hmem
  rw [hts, alike_of_ne hrust, newAligned_iff, firstFailure_eq_none_iff, firstFailure_eq_none_iff, h]
  simp [Rust.newChecks, Go.newChecks, scheduleChecks]
  tauto

theorem alike_new_iff (g : LeaseGrant) (p : Policy) (nowMs : Nat) :
    Alike (firstFailure (Rust.newChecks g p nowMs)) (firstFailure (Go.newChecks g p nowMs))
      (firstFailure (TypeScript.newChecks g p nowMs)) ↔ NewAligned g p nowMs := by
  cases hidentity : unadmitted g with
  | true => exact alike_new_unadmitted hidentity p nowMs
  | false =>
    rw [newAligned_iff]
    unfold Rust.newChecks Go.newChecks TypeScript.newChecks TypeScript.snapshotChecks scheduleChecks
    simp only [List.cons_append, List.nil_append, hidentity]
    by_cases hd : ValidDeadline g.leaseExpiresMs
    · obtain ⟨hzero, hfar⟩ := (validDeadline_iff _).mp hd
      rw [hzero, hfar]
      cases clockFault nowMs with
      | true =>
        cases ttlFault g.ttlMs with
        | true => simp
        | false =>
          cases zeroPolicy p with
          | true => simp
          | false => simp
      | false =>
        cases ttlFault g.ttlMs with
        | true => simp
        | false =>
          cases zeroPolicy p with
          | true => simp
          | false => simp
    rcases zeroDeadline_or_farDeadline hd with ⟨hzero, hfar⟩ | ⟨hzero, hfar⟩
    · rw [hfar, hzero, zeroDeadline_zero]
      cases clockFault nowMs with
      | true =>
        cases ttlFault g.ttlMs with
        | true => simp
        | false => simp
      | false =>
        cases ttlFault g.ttlMs with
        | true => simp
        | false =>
          cases zeroPolicy p with
          | true => simp
          | false =>
            cases longPolicy p g.ttlMs with
            | true => simp
            | false =>
              cases lateDeadline nowMs g.ttlMs with
              | true => simp
              | false => simp
    · rw [hfar, hzero]
      cases clockFault nowMs with
      | true =>
        cases ttlFault g.ttlMs with
        | true => simp
        | false => simp
      | false =>
        cases ttlFault g.ttlMs with
        | true => simp
        | false => simp

/-- The response is for the held grant and completes in the window. -/
structure Continues (w : Window) (completedMs : Nat) (renewed : LeaseGrant) : Prop where
  observed : w.lastObservedMs ≤ completedMs
  unexpired : completedMs < w.localDeadlineMs
  identity : renewed.key = w.grant.key ∧ renewed.holder = w.grant.holder
  token : renewed.fencingToken = w.grant.fencingToken

/-- The calls that lose three live supervisors for one reason, if they lose all of them. -/
inductive Window.Aligned (w : Window) : Call → Prop where
  | decision (nowMs : Nat) : w.Aligned (.decision nowMs)
  | clock {completedMs : Nat} {renewed : LeaseGrant} : maxRenewalClockMs < completedMs →
      w.Aligned (.acceptRenewal completedMs renewed)
  | wellFormed {completedMs : Nat} {renewed : LeaseGrant} : unadmitted renewed = false →
      ttlFault renewed.ttlMs = false → ValidDeadline renewed.leaseExpiresMs →
      w.Aligned (.acceptRenewal completedMs renewed)
  | identity {completedMs : Nat} {renewed : LeaseGrant} : w.lastObservedMs ≤ completedMs →
      completedMs < w.localDeadlineMs → unadmitted renewed = true →
      w.Aligned (.acceptRenewal completedMs renewed)
  | ttl {completedMs : Nat} {renewed : LeaseGrant} : Continues w completedMs renewed →
      ValidDeadline renewed.leaseExpiresMs →
      missingDeadline w.grant.leaseExpiresMs renewed.leaseExpiresMs = false →
      regressedDeadline w.grant.leaseExpiresMs renewed.leaseExpiresMs = false →
      ttlFault renewed.ttlMs = true → w.Aligned (.acceptRenewal completedMs renewed)
  | zeroDeadline {completedMs : Nat} {renewed : LeaseGrant} : Continues w completedMs renewed →
      w.grant.leaseExpiresMs = none → renewed.leaseExpiresMs = some 0 →
      Fits renewed.ttlMs w.policy → completedMs + renewed.ttlMs ≤ maxRenewalClockMs →
      w.Aligned (.acceptRenewal completedMs renewed)

/-- What three live supervisors know of the grant they hold. -/
structure Settled (g : LeaseGrant) : Prop where
  admitted : unadmitted g = false
  deadline : g.leaseExpiresMs ≠ some 0

section Accepting

variable {w : Window} {completedMs : Nat} {renewed : LeaseGrant}

theorem continues_iff (w : Window) (completedMs : Nat) (renewed : LeaseGrant) :
    Continues w completedMs renewed ↔ firstFailure (continuityChecks w completedMs renewed) = none := by
  rw [firstFailure_eq_none_iff]
  simp only [continuityChecks, List.forall_mem_cons, decide_eq_false_iff_not]
  constructor
  · rintro ⟨hobserved, hunexpired, ⟨hkey, hholder⟩, htoken⟩
    simp [hkey, hholder, htoken, hobserved, hunexpired]
  · rintro ⟨hobserved, hunexpired, hidentity, htoken, _⟩
    exact ⟨by omega, by omega, by tauto, by tauto⟩

theorem continuity_reason {reason : RenewalLossReason}
    (h : firstFailure (continuityChecks w completedMs renewed) = some reason) :
    reason = .clockRegression ∨ reason = .completionAfterDeadline ∨ reason = .identityChanged ∨
      reason = .tokenChanged := by
  have hmem := mem_of_firstFailure h
  simp only [continuityChecks, List.mem_cons, Prod.mk.injEq, List.not_mem_nil, or_false] at hmem
  tauto

theorem Settled.present {g : LeaseGrant} (h : Settled g) :
    Go.present g.leaseExpiresMs = g.leaseExpiresMs := by
  rw [Go.present_eq]
  cases hd : g.leaseExpiresMs with
  | none => rfl
  | some d =>
    have hne := h.deadline
    rw [hd] at hne
    exact if_neg (by simpa using hne)

/-- The response is for another identity than the held one. -/
theorem Settled.identity_changed (hw : Settled w.grant) (h : unadmitted renewed = true) :
    renewed.key ≠ w.grant.key ∨ renewed.holder ≠ w.grant.holder := by
  by_contra hsame
  push Not at hsame
  have hadmitted := hw.admitted
  unfold unadmitted at h hadmitted
  rw [hsame.1, hsame.2, hadmitted] at h
  cases h

/-- The three answers to one call agree as far as all of them are losses. -/
def Window.AlikeAt (w : Window) (c : Call) : Prop :=
  Alike (firstFailure (Rust.checks w c)) (firstFailure (Go.checks w c))
    (firstFailure (TypeScript.checks w c))

theorem alikeAt_of_clock (h : clockFault completedMs = true) :
    w.AlikeAt (.acceptRenewal completedMs renewed) := by
  simp [Window.AlikeAt, Rust.checks, Go.checks, TypeScript.checks, h]

theorem alikeAt_of_wellFormed (hw : Settled w.grant) (hidentity : unadmitted renewed = false)
    (httl : ttlFault renewed.ttlMs = false) (hd : ValidDeadline renewed.leaseExpiresMs) :
    w.AlikeAt (.acceptRenewal completedMs renewed) := by
  obtain ⟨hzero, hfar⟩ := (validDeadline_iff _).mp hd
  simp [Window.AlikeAt, Rust.checks, Go.checks, TypeScript.checks, TypeScript.snapshotChecks,
    firstFailure_append, firstFailure_cons, hidentity, httl, hzero, hfar, hw.present, hd.present]

theorem alikeAt_unadmitted (hw : Settled w.grant) (hclock : clockFault completedMs = false)
    (h : unadmitted renewed = true) :
    w.AlikeAt (.acceptRenewal completedMs renewed) ↔
      w.lastObservedMs ≤ completedMs ∧ completedMs < w.localDeadlineMs := by
  have hidentity := hw.identity_changed h
  unfold Window.AlikeAt Rust.checks Go.checks TypeScript.checks TypeScript.snapshotChecks
    continuityChecks
  simp only [hclock, h, List.cons_append, List.nil_append, firstFailure_passed, firstFailure_failed,
    decide_eq_true hidentity]
  by_cases hregressed : completedMs < w.lastObservedMs
  · simp [hregressed]
  by_cases hexpired : w.localDeadlineMs ≤ completedMs
  · simp [hregressed, hexpired]
  · simp [hregressed, hexpired]
    omega

theorem alikeAt_ttl (hw : Settled w.grant) (hclock : clockFault completedMs = false)
    (hidentity : unadmitted renewed = false) (httl : ttlFault renewed.ttlMs = true) :
    w.AlikeAt (.acceptRenewal completedMs renewed) ↔
      Continues w completedMs renewed ∧ ValidDeadline renewed.leaseExpiresMs ∧
      missingDeadline w.grant.leaseExpiresMs renewed.leaseExpiresMs = false ∧
      regressedDeadline w.grant.leaseExpiresMs renewed.leaseExpiresMs = false := by
  rw [continues_iff]
  unfold Window.AlikeAt Rust.checks Go.checks TypeScript.checks TypeScript.snapshotChecks
  simp only [hclock, hidentity, httl, List.cons_append, List.nil_append, firstFailure_passed,
    firstFailure_failed, List.append_assoc, firstFailure_append, hw.present]
  cases hfirst : firstFailure (continuityChecks w completedMs renewed) with
  | some reason =>
    rcases continuity_reason hfirst with rfl | rfl | rfl | rfl
    all_goals simp
  | none =>
    by_cases hd : ValidDeadline renewed.leaseExpiresMs
    · obtain ⟨hzero, hfar⟩ := (validDeadline_iff _).mp hd
      simp only [hd, hd.present, hzero, hfar, progressChecks, scheduleChecks, httl,
        firstFailure_passed, Option.none_or, true_and]
      cases missingDeadline w.grant.leaseExpiresMs renewed.leaseExpiresMs with
      | true => simp
      | false =>
        cases regressedDeadline w.grant.leaseExpiresMs renewed.leaseExpiresMs with
        | true => simp
        | false => simp
    · rcases zeroDeadline_or_farDeadline hd with ⟨hzero, hfar⟩ | ⟨hzero, hfar⟩
      · have hgo : Go.present (some 0) = none := rfl
        rw [hfar, hzero, zeroDeadline_zero, hgo]
        rw [hzero] at hd
        cases hmissing : missingDeadline w.grant.leaseExpiresMs none with
        | true => simp [progressChecks, hmissing, hd]
        | false => simp [progressChecks, scheduleChecks, hmissing, regressedDeadline, httl, hd]
      · rw [hzero, hfar]
        simp [hd]

theorem alikeAt_invalidDeadline (hw : Settled w.grant) (hclock : clockFault completedMs = false)
    (hidentity : unadmitted renewed = false) (httl : ttlFault renewed.ttlMs = false)
    (hd : ¬ ValidDeadline renewed.leaseExpiresMs) :
    w.AlikeAt (.acceptRenewal completedMs renewed) ↔
      Continues w completedMs renewed ∧ w.grant.leaseExpiresMs = none ∧
      renewed.leaseExpiresMs = some 0 ∧ Fits renewed.ttlMs w.policy ∧
      completedMs + renewed.ttlMs ≤ maxRenewalClockMs := by
  rw [continues_iff, fits_iff]
  unfold Window.AlikeAt Rust.checks Go.checks TypeScript.checks TypeScript.snapshotChecks
  simp only [hclock, hidentity, httl, List.cons_append, List.nil_append, firstFailure_passed,
    List.append_assoc, firstFailure_append, hw.present]
  rcases zeroDeadline_or_farDeadline hd with ⟨hzero, hfar⟩ | ⟨hzero, hfar⟩
  · have hgo : Go.present (some 0) = none := rfl
    rw [hfar, hzero, zeroDeadline_zero, hgo]
    cases hfirst : firstFailure (continuityChecks w completedMs renewed) with
    | some reason =>
      rcases continuity_reason hfirst with rfl | rfl | rfl | rfl
      all_goals simp
    | none =>
      cases hprevious : w.grant.leaseExpiresMs with
      | some previous => simp [progressChecks, missingDeadline]
      | none =>
        have hprogress : firstFailure (progressChecks none none) = none := rfl
        simp only [firstFailure_passed, firstFailure_append, hprogress]
        have hlate : lateDeadline completedMs renewed.ttlMs = false ↔
            completedMs + renewed.ttlMs ≤ maxRenewalClockMs := by simp [lateDeadline]
        rw [← hlate]
        unfold scheduleChecks
        rw [httl]
        cases zeroPolicy w.policy with
        | true => simp
        | false =>
          cases longPolicy w.policy renewed.ttlMs with
          | true => simp
          | false =>
            cases lateDeadline completedMs renewed.ttlMs with
            | true => simp
            | false => simp
  · have hne : renewed.leaseExpiresMs ≠ some 0 := by
      simpa [zeroDeadline] using hzero
    cases hfirst : firstFailure (continuityChecks w completedMs renewed) with
    | some reason =>
      rcases continuity_reason hfirst with rfl | rfl | rfl | rfl
      all_goals simp [hfar]
    | none => simp [hzero, hfar, hne]

theorem alikeAt_iff (hw : Settled w.grant) (c : Call) : w.AlikeAt c ↔ w.Aligned c := by
  cases c with
  | decision nowMs => exact ⟨fun _ => .decision nowMs, fun _ => alike_refl⟩
  | acceptRenewal completedMs renewed =>
    cases hclock : clockFault completedMs with
    | true => exact ⟨fun _ => .clock (of_decide_eq_true hclock), fun _ => alikeAt_of_clock hclock⟩
    | false =>
      have hnear : ¬ maxRenewalClockMs < completedMs := of_decide_eq_false hclock
      cases hidentity : unadmitted renewed with
      | true =>
        rw [alikeAt_unadmitted hw hclock hidentity]
        constructor
        · rintro ⟨hobserved, hunexpired⟩
          exact .identity hobserved hunexpired hidentity
        · intro h
          cases h with
          | clock hfar => exact absurd hfar hnear
          | wellFormed hadmitted => simp [hidentity] at hadmitted
          | identity hobserved hunexpired => exact ⟨hobserved, hunexpired⟩
          | ttl hcontinues => exact ⟨hcontinues.observed, hcontinues.unexpired⟩
          | zeroDeadline hcontinues => exact ⟨hcontinues.observed, hcontinues.unexpired⟩
      | false =>
        cases httl : ttlFault renewed.ttlMs with
        | true =>
          rw [alikeAt_ttl hw hclock hidentity httl]
          constructor
          · rintro ⟨hcontinues, hd, hmissing, hregressed⟩
            exact .ttl hcontinues hd hmissing hregressed httl
          · intro h
            cases h with
            | clock hfar => exact absurd hfar hnear
            | wellFormed _ hfault => simp [httl] at hfault
            | identity _ _ hother => simp [hidentity] at hother
            | ttl hcontinues hd hmissing hregressed => exact ⟨hcontinues, hd, hmissing, hregressed⟩
            | zeroDeadline _ _ _ hfits =>
              have hfault := ((fits_iff _ _).mp hfits).1
              simp [httl] at hfault
        | false =>
          by_cases hd : ValidDeadline renewed.leaseExpiresMs
          · exact ⟨fun _ => .wellFormed hidentity httl hd,
              fun _ => alikeAt_of_wellFormed hw hidentity httl hd⟩
          · rw [alikeAt_invalidDeadline hw hclock hidentity httl hd]
            constructor
            · rintro ⟨hcontinues, hnone, hzero, hfits, hend⟩
              exact .zeroDeadline hcontinues hnone hzero hfits hend
            · intro h
              cases h with
              | clock hfar => exact absurd hfar hnear
              | wellFormed _ _ hvalid => exact absurd hvalid hd
              | identity _ _ hother => simp [hidentity] at hother
              | ttl _ hvalid => exact absurd hvalid hd
              | zeroDeadline hcontinues hnone hzero hfits hend =>
                exact ⟨hcontinues, hnone, hzero, hfits, hend⟩

end Accepting

/-- One supervisor of each of three runtimes. -/
structure Trio where
  rust : Renewal.RenewalSupervisor
  go : RenewalGo.RenewalSupervisor
  ts : RenewalTs.LeaseRenewalSupervisor

namespace Trio

def of (w : Window) : Trio := ⟨Rust.supervisor w, Go.supervisor w, TypeScript.supervisor w⟩

def call (t : Trio) (c : Call) : Trio :=
  ⟨(Rust.call t.rust c).2, (Go.call t.go c).2, (TypeScript.call t.ts c).2⟩

def Live (t : Trio) : Prop :=
  Rust.loss t.rust = none ∧ Go.loss t.go = none ∧ TypeScript.loss t.ts = none

/-- If the call loses three live supervisors, they report one reason. -/
def LossAgrees (t : Trio) (c : Call) : Prop :=
  t.Live → ∀ a b d, (Rust.call t.rust c).1 = .lost a → (Go.call t.go c).1 = .lost b →
    (TypeScript.call t.ts c).1 = .lost d → b = a ∧ d = a

/-- The call is aligned with the window that the three hold. -/
def Aligned (t : Trio) (c : Call) : Prop := ∀ w, t = .of w → w.Aligned c

/-- The three hold one window, or one of them is lost. -/
def Tracked (t : Trio) : Prop := (∃ w, Settled w.grant ∧ t = .of w) ∨ ¬ t.Live

end Trio

inductive TrioStep (t : Trio) : Call → Trio → Prop where
  | call (c : Call) : c.Bounded → TrioStep t c (t.call c)

theorem Trio.live_of (w : Window) : (Trio.of w).Live := ⟨rfl, rfl, rfl⟩

/-- A grant that passed checks of which the TypeScript snapshot's are a part. -/
theorem settled_of_checks {g : LeaseGrant} {checks : Checks}
    (hpart : ∀ check ∈ TypeScript.snapshotChecks g, check ∈ checks)
    (h : firstFailure checks = none) : Settled g := by
  rw [firstFailure_eq_none_iff] at h
  have hsnapshot : ∀ check ∈ TypeScript.snapshotChecks g, check.1 = false :=
    fun check hcheck => h check (hpart check hcheck)
  simp only [TypeScript.snapshotChecks, List.forall_mem_cons, Bool.or_eq_false_iff] at hsnapshot
  obtain ⟨hadmitted, _, ⟨hzero, _⟩, _⟩ := hsnapshot
  exact ⟨hadmitted, of_decide_eq_false hzero⟩

theorem Window.next_settled {w : Window} {c : Call} (hw : Settled w.grant)
    (h : firstFailure (TypeScript.checks w c) = none) : Settled (w.next c).2.grant := by
  cases c with
  | decision nowMs => exact hw
  | acceptRenewal completedMs renewed =>
    change Settled renewed
    apply settled_of_checks _ h
    intro check hcheck
    simp [TypeScript.checks, hcheck]

theorem Trio.Live.before {t : Trio} {c : Call} (h : (t.call c).Live) : t.Live :=
  ⟨Runtime.live_of_call (R := Rust.runtime) h.1, Runtime.live_of_call (R := Go.runtime) h.2.1,
    Runtime.live_of_call (R := TypeScript.runtime) h.2.2⟩

theorem Trio.Tracked.call {t : Trio} (h : t.Tracked) {c : Call} (hc : c.Bounded) :
    (t.call c).Tracked := by
  by_cases hlive : (t.call c).Live
  · rcases h with ⟨w, hw, rfl⟩ | hlost
    · have hrust := Runtime.passed_of_live (R := Rust.runtime) hc hlive.1
      have hgo := Runtime.passed_of_live (R := Go.runtime) hc hlive.2.1
      have hts := Runtime.passed_of_live (R := TypeScript.runtime) hc hlive.2.2
      have hr : Rust.call (Rust.supervisor w) c = _ :=
        Runtime.call_passed (R := Rust.runtime) hc hrust
      have ho : Go.call (Go.supervisor w) c = _ := Runtime.call_passed (R := Go.runtime) hc hgo
      have ht : TypeScript.call (TypeScript.supervisor w) c = _ :=
        Runtime.call_passed (R := TypeScript.runtime) hc hts
      refine Or.inl ⟨(w.next c).2, Window.next_settled hw hts, ?_⟩
      simp only [Trio.call, Trio.of, hr, ho, ht]
      rfl
    · exact absurd hlive.before hlost
  · exact Or.inr hlive

theorem Trio.Tracked.run {t t' : Trio} (h : t.Tracked) {cs : List Call} (hrun : Exec TrioStep t cs t') :
    t'.Tracked := by
  refine hrun.invariant (I := fun _ t' => t'.Tracked) h ?_
  intro _ t c _ _ ih hstep
  cases hstep with
  | call hc => exact ih.call hc

theorem Window.lossAgrees_iff {w : Window} {c : Call} (hc : c.Bounded) :
    (Trio.of w).LossAgrees c ↔ w.AlikeAt c := by
  have hrust := fun reason => Runtime.lost_iff (R := Rust.runtime) (w := w) hc reason
  have hgo := fun reason => Runtime.lost_iff (R := Go.runtime) (w := w) hc reason
  have hts := fun reason => Runtime.lost_iff (R := TypeScript.runtime) (w := w) hc reason
  constructor
  · intro h a b d ha hb hd
    exact h (Trio.live_of w) a b d ((hrust a).mpr ha) ((hgo b).mpr hb) ((hts d).mpr hd)
  · intro h _ a b d ha hb hd
    exact h a b d ((hrust a).mp ha) ((hgo b).mp hb) ((hts d).mp hd)

theorem Trio.Tracked.lossAgrees_iff {t : Trio} (h : t.Tracked) {c : Call} (hc : c.Bounded) :
    t.LossAgrees c ↔ t.Aligned c := by
  rcases h with ⟨w, hw, rfl⟩ | hlost
  · rw [Window.lossAgrees_iff hc]
    constructor
    · intro halike w' hw'
      have hgrant : w.grant = w'.grant := congrArg (fun t => t.rust.grant) hw'
      have hsettled : Settled w'.grant := by
        rw [← hgrant]
        exact hw
      rw [← alikeAt_iff hsettled, ← Window.lossAgrees_iff hc, ← hw', Window.lossAgrees_iff hc]
      exact halike
    · intro haligned
      exact (alikeAt_iff hw c).mpr (haligned w rfl)
  · constructor
    · rintro _ w rfl
      exact absurd (Trio.live_of w) hlost
    · intro _ hlive
      exact absurd hlive hlost

/-- A construction of the three runtimes, and then every call at the end of every run, gives
one reason if it is rejected or lost by all three, exactly when the input is aligned. -/
theorem loss_reasons_agree_iff (g : LeaseGrant) (p : Policy) (nowMs : Nat)
    (htoken : g.fencingToken ≤ 18446744073709551615) :
    (NewAgrees g p nowMs ↔ NewAligned g p nowMs) ∧
    ∀ t : Trio, Rust.new g p nowMs = .ok t.rust → Go.new g p nowMs = .ok t.go →
      TypeScript.new g p nowMs = .ok t.ts → ∀ cs t', Exec TrioStep t cs t' →
      ∀ c, c.Bounded → (t'.LossAgrees c ↔ t'.Aligned c) := by
  constructor
  · rw [newAgrees_iff_alike g p nowMs htoken, alike_new_iff]
  intro t hrust hgo hts cs t' hrun c hc
  obtain ⟨hr, _⟩ := passed_of_ok (Rust.new_spec g p nowMs) hrust
  obtain ⟨ho, _⟩ := passed_of_ok (Go.new_spec g p nowMs) hgo
  obtain ⟨hs, hpassed⟩ := passed_of_ok (TypeScript.new_spec g p nowMs htoken) hts
  have hsettled : Settled g := by
    apply settled_of_checks _ hpassed
    intro check hcheck
    simp [TypeScript.newChecks, hcheck]
  have htracked : t.Tracked := by
    refine Or.inl ⟨.start g p nowMs, hsettled, ?_⟩
    obtain ⟨rust, go, ts⟩ := t
    cases hr
    cases ho
    cases hs
    rfl
  exact (htracked.run hrun).lossAgrees_iff hc

def farGrant : LeaseGrant := { sampleGrant with leaseExpiresMs := some 9007199254740992 }

/-- The authority deadline is one millisecond beyond the clock domain. -/
theorem far_deadline_disagrees :
    (Rust.new farGrant samplePolicy 5).mapError (·.reason) = .error .deadlineOverflow ∧
    (Go.new farGrant samplePolicy 5).mapError (·.reason) = .error .deadlineInvalid ∧
    (TypeScript.new farGrant samplePolicy 5).mapError (·.reason) = .error .deadlineInvalid ∧
    ¬ NewAgrees farGrant samplePolicy 5 := by
  have hfar : farDeadline farGrant.leaseExpiresMs = true := by decide
  refine ⟨?_, ?_, ?_, ?_⟩
  · rw [Rust.new_spec]
    rfl
  · rw [Go.new_spec]
    rfl
  · rw [TypeScript.new_spec _ _ _ (by decide)]
    rfl
  · rw [newAgrees_iff_alike _ _ _ (by decide), alike_new_iff]
    rintro (⟨_, hnear, _, _⟩ | ⟨_, hvalid, _⟩)
    · simp [hfar] at hnear
    · have hrange := (hvalid 9007199254740992 rfl).2
      exact absurd hrange (by decide)

def driftedGrant : LeaseGrant := { sampleGrant with fencingToken := 8 }

/-- Near the end of the clock domain all three reject for one reason, and a live trio loses
a response with another token for one reason. -/
theorem sampleGrant_reasons_agree :
    NewAgrees sampleGrant samplePolicy 9007199254740990 ∧
    (Trio.of (.start sampleGrant samplePolicy 5)).LossAgrees (.acceptRenewal 6 driftedGrant) := by
  constructor
  · apply (loss_reasons_agree_iff sampleGrant samplePolicy 9007199254740990 (by decide)).1.mpr
    refine .wellFormed sampleGrant_shared.admitted sampleGrant_shared.deadline ?_
    intro hclock
    exact absurd hclock (by decide)
  · have hbounded : (Call.acceptRenewal 6 driftedGrant).Bounded :=
      show driftedGrant.fencingToken ≤ 18446744073709551615 by decide
    refine ((loss_reasons_agree_iff sampleGrant samplePolicy 5 (by decide)).2 _ rfl rfl ?_ [] _ .nil
      _ hbounded).mpr ?_
    · exact ok_of_passed (TypeScript.new_spec sampleGrant samplePolicy 5 (by decide)) rfl
    · intro w _
      exact .wellFormed (by decide) (by decide) sampleGrant_shared.deadline

end OresLocks.RenewalWindow
