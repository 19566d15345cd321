import OresLocks.Shared.Logs
import Mathlib.Data.List.Count
import Mathlib.Data.List.Induction

/-!
# What one acquisition does with its quorum handle

`alive handle now` says that the handle's window is open at a clock reading. A call
that has obtained a handle ends in one of two ways: the handle is recorded, or its
release has been issued.
-/

namespace OresLocks.Ledger

set_option autoImplicit false

universe u

open Shared.Logs

inductive Event (η ν τ ι : Type u) where
  | quorumAcquired (handle : η)
  | clockRead (now : ν)
  | mintIssued
  | minted (token : τ)
  | stored (id : ι)
  | releaseIssued (handle : η)
  deriving DecidableEq

inductive Stage (η ν τ ι : Type u) where
  | free
  | minting (handle : η)
  | released (handle : η)
  | stored (handle : η) (token : τ) (now : ν) (id : ι)

variable {η ν τ ι : Type u}

def Event.isAcquired : Event η ν τ ι → Bool
  | .quorumAcquired _ => true
  | _ => false

def Event.isMintIssued : Event η ν τ ι → Bool
  | .mintIssued => true
  | _ => false

def Event.isRelease : Event η ν τ ι → Bool
  | .releaseIssued _ => true
  | _ => false

def Event.isStored : Event η ν τ ι → Bool
  | .stored _ => true
  | _ => false

/-- The logs of one call, by how far it has come. -/
inductive Trace (alive : η → ν → Prop) (positive : τ → Prop) :
    Stage η ν τ ι → List (Event η ν τ ι) → Prop where
  | free : Trace alive positive .free []
  | minting {handle : η} {now : ν} (inTime : alive handle now) :
      Trace alive positive (.minting handle) [.quorumAcquired handle, .clockRead now, .mintIssued]
  | lapsed (handle : η) (now : ν) :
      Trace alive positive (.released handle)
        [.quorumAcquired handle, .clockRead now, .releaseIssued handle]
  | unminted {handle : η} {log : List (Event η ν τ ι)}
      (before : Trace alive positive (.minting handle) log) :
      Trace alive positive (.released handle) (log ++ [.releaseIssued handle])
  | rejected {handle : η} {log : List (Event η ν τ ι)} (token : τ)
      (before : Trace alive positive (.minting handle) log) :
      Trace alive positive (.released handle) (log ++ [.minted token, .releaseIssued handle])
  | late {handle : η} {log : List (Event η ν τ ι)} (token : τ) (now : ν)
      (before : Trace alive positive (.minting handle) log) :
      Trace alive positive (.released handle)
        (log ++ [.minted token, .clockRead now, .releaseIssued handle])
  | stored {handle : η} {log : List (Event η ν τ ι)} {token : τ} {now : ν} (id : ι)
      (before : Trace alive positive (.minting handle) log) (accepted : positive token)
      (inTime : alive handle now) :
      Trace alive positive (.stored handle token now id)
        (log ++ [.minted token, .clockRead now, .stored id])

/-- Minting starts at most once, with a handle whose window the last reading found open. -/
structure Orderly (alive : η → ν → Prop) (log : List (Event η ν τ ι)) : Prop where
  acquiredOnce : log.countP Event.isAcquired ≤ 1
  mintedOnce : log.countP Event.isMintIssued ≤ 1
  mintedOpen : BeforeEach (fun e => e.isMintIssued = true)
    (fun past => ∃ handle now, past = [.quorumAcquired handle, .clockRead now] ∧ alive handle now)
    log

/-- No handle without its release, and none released twice. -/
structure GivenBack (log : List (Event η ν τ ι)) : Prop where
  unstored : log.countP Event.isStored = 0
  balanced : log.countP Event.isRelease = log.countP Event.isAcquired
  same : ∀ handle other, .quorumAcquired handle ∈ log → .releaseIssued other ∈ log → other = handle

/-- The handle is recorded under `id`, after a positive token and a reading that found
its window open. -/
structure Kept (alive : η → ν → Prop) (positive : τ → Prop) (log : List (Event η ν τ ι))
    (handle : η) (token : τ) (id : ι) : Prop where
  acquired : .quorumAcquired handle ∈ log
  unreleased : log.countP Event.isRelease = 0
  accepted : positive token
  recorded : ∃ past now, log = past ++ [.minted token, .clockRead now, .stored id] ∧
    alive handle now

section Traces

variable {alive : η → ν → Prop} {positive : τ → Prop} {log : List (Event η ν τ ι)}

theorem Trace.minting_inv {handle : η} (h : Trace alive positive (.minting handle) log) :
    ∃ now, alive handle now ∧
      log = [.quorumAcquired handle, .clockRead now, .mintIssued] := by
  cases h with
  | minting hin => exact ⟨_, hin, rfl⟩

theorem Trace.free_inv (h : Trace alive positive .free log) : log = [] := by
  cases h
  rfl

theorem orderly_nil : Orderly alive ([] : List (Event η ν τ ι)) := by
  refine ⟨by simp, by simp, ?_⟩
  exact BeforeEach.of_forall_not (by simp)

/-- Nothing a call does later is an acquisition or a mint. -/
theorem Orderly.append {more : List (Event η ν τ ι)} (h : Orderly alive log)
    (hmore : ∀ e ∈ more, e.isAcquired = false ∧ e.isMintIssued = false) :
    Orderly alive (log ++ more) := by
  induction more using List.reverseRecOn with
  | nil => simpa using h
  | append_singleton more e ih =>
    obtain ⟨hacquired, hmint⟩ := hmore e (by simp)
    have hprev := ih (fun e' he' => hmore e' (List.mem_append_left _ he'))
    rw [← List.append_assoc]
    refine ⟨?_, ?_, ?_⟩
    · rw [List.countP_append]
      simpa [hacquired] using hprev.acquiredOnce
    · rw [List.countP_append]
      simpa [hmint] using hprev.mintedOnce
    · apply hprev.mintedOpen.concat
      intro he
      rw [hmint] at he
      cases he

theorem orderly_open {handle : η} {now : ν} :
    Orderly alive ([.quorumAcquired handle, .clockRead now] : List (Event η ν τ ι)) := by
  refine ⟨Nat.le_refl 1, Nat.zero_le 1, ?_⟩
  exact BeforeEach.of_forall_not (by simp [Event.isMintIssued])

theorem orderly_minting {handle : η} {now : ν} (hin : alive handle now) :
    Orderly alive
      ([.quorumAcquired handle, .clockRead now, .mintIssued] : List (Event η ν τ ι)) := by
  refine ⟨Nat.le_refl 1, Nat.le_refl 1, ?_⟩
  have hbefore : Orderly alive
      ([.quorumAcquired handle, .clockRead now] : List (Event η ν τ ι)) := orderly_open
  exact hbefore.mintedOpen.concat (e := .mintIssued) (fun _ => ⟨handle, now, rfl, hin⟩)

theorem Trace.orderly {stage : Stage η ν τ ι} (h : Trace alive positive stage log) :
    Orderly alive log := by
  induction h with
  | free => exact orderly_nil
  | minting hin => exact orderly_minting hin
  | lapsed handle now =>
    exact orderly_open.append (by simp [Event.isAcquired, Event.isMintIssued])
  | unminted _ ih => exact ih.append (by simp [Event.isAcquired, Event.isMintIssued])
  | rejected _ _ ih => exact ih.append (by simp [Event.isAcquired, Event.isMintIssued])
  | late _ _ _ ih => exact ih.append (by simp [Event.isAcquired, Event.isMintIssued])
  | stored _ _ _ _ ih => exact ih.append (by simp [Event.isAcquired, Event.isMintIssued])

theorem Trace.givenBack_free (h : Trace alive positive .free log) : GivenBack log := by
  cases h
  exact ⟨rfl, rfl, by simp⟩

theorem Trace.givenBack {handle : η} (h : Trace alive positive (.released handle) log) :
    GivenBack log := by
  cases h with
  | lapsed => exact ⟨rfl, rfl, by simp⟩
  | unminted h =>
    obtain ⟨_, _, rfl⟩ := h.minting_inv
    exact ⟨rfl, rfl, by simp⟩
  | rejected _ h =>
    obtain ⟨_, _, rfl⟩ := h.minting_inv
    exact ⟨rfl, rfl, by simp⟩
  | late _ _ h =>
    obtain ⟨_, _, rfl⟩ := h.minting_inv
    exact ⟨rfl, rfl, by simp⟩

theorem Trace.kept {handle : η} {token : τ} {now : ν} {id : ι}
    (h : Trace alive positive (.stored handle token now id) log) :
    Kept alive positive log handle token id := by
  cases h with
  | stored _ h haccepted hin =>
    obtain ⟨_, _, rfl⟩ := h.minting_inv
    exact ⟨by simp, rfl, haccepted, _, _, rfl, hin⟩

end Traces

end OresLocks.Ledger
