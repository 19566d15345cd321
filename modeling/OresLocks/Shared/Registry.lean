import OresLocks.Shared.Logs
import Mathlib.Logic.Function.Basic

/-!
# Values kept under names

A registry keeps at most one value under each name. An event enters a value, closes a name
or uses the value that is kept; a registry may lose an entry at any time.
-/

namespace Shared.Registry

set_option autoImplicit false

open Shared.Logs

universe u v w

variable {ν : Type u} {τ : Type v} {ε : Type w}

inductive Effect (ν : Type u) (τ : Type v) where
  | enter (name : ν) (value : τ)
  | close (name : ν)
  | use (name : ν) (value : τ)
  | silent

/-- What was kept under the name is kept no more. -/
def Effect.Replaces (name : ν) : Effect ν τ → Prop
  | .enter other _ => other = name
  | .close other => other = name
  | _ => False

/-- The entries before and after an event. -/
structure Admits (before : ν → Option τ) (effect : Effect ν τ) (after : ν → Option τ) : Prop where
  used : ∀ name value, effect = .use name value → before name = some value
  kept : ∀ name value, after name = some value →
    effect = .enter name value ∨ (before name = some value ∧ ¬ effect.Replaces name)

/-- The value was the last one entered under the name, and the name has not been closed since. -/
def Entered (effect : ε → Effect ν τ) (name : ν) (value : τ) : List ε → Prop :=
  Since (fun e => effect e = .enter name value) (fun e => (effect e).Replaces name)

/-- The entries are what the events have entered. -/
def Backed (effect : ε → Effect ν τ) (log : List ε) (entries : ν → Option τ) : Prop :=
  ∀ name value, entries name = some value → Entered effect name value log

/-- A value is used only while it is what the events have entered. -/
def InCustody (effect : ε → Effect ν τ) (log : List ε) : Prop :=
  ∀ name value, BeforeEach (fun e => effect e = .use name value) (Entered effect name value) log

variable {effect : ε → Effect ν τ} {log pre post : List ε} {entries after : ν → Option τ} {e x : ε}
  {name : ν} {value : τ}

theorem admits_enter [DecidableEq ν] :
    Admits entries (.enter name value) (Function.update entries name (some value)) := by
  refine ⟨by simp, ?_⟩
  intro other kept hkept
  by_cases hother : other = name
  · subst other
    rw [Function.update_self] at hkept
    cases hkept
    exact Or.inl rfl
  · rw [Function.update_of_ne hother] at hkept
    exact Or.inr ⟨hkept, fun hsame => hother hsame.symm⟩

theorem admits_use (h : entries name = some value) : Admits entries (.use name value) entries := by
  refine ⟨?_, fun other kept hkept => Or.inr ⟨hkept, id⟩⟩
  intro other used huse
  cases huse
  exact h

/-- Any event but a use, when no entry comes in and what it closes goes. -/
theorem admits_of_fewer {effect : Effect ν τ} (huse : ∀ name value, effect ≠ .use name value)
    (hsub : ∀ name value, after name = some value → entries name = some value)
    (hclosed : ∀ name, effect.Replaces name → after name = none) :
    Admits entries effect after := by
  refine ⟨fun name value h => absurd h (huse name value), ?_⟩
  intro name value hafter
  refine Or.inr ⟨hsub name value hafter, ?_⟩
  intro hreplaces
  rw [hclosed name hreplaces] at hafter
  cases hafter

theorem backed_empty : Backed effect log fun _ => none := by
  intro name value h
  cases h

theorem Backed.mono (h : Backed effect log entries)
    (hsub : ∀ name value, after name = some value → entries name = some value) :
    Backed effect log after :=
  fun name value hafter => h name value (hsub name value hafter)

theorem Backed.concat (h : Backed effect log entries) (he : Admits entries (effect e) after) :
    Backed effect (log ++ [e]) after := by
  intro name value hafter
  rcases he.kept name value hafter with henter | ⟨hbefore, hother⟩
  · exact Since.last henter
  · exact (h name value hbefore).concat hother

theorem inCustody_nil : InCustody effect [] :=
  fun _ _ => BeforeEach.of_forall_not (by simp)

theorem InCustody.concat (h : InCustody effect log) (hlog : Backed effect log entries)
    (he : Admits entries (effect e) after) : InCustody effect (log ++ [e]) :=
  fun name value => (h name value).concat fun huse => hlog name value (he.used name value huse)

/-- What is used has been entered before. -/
theorem InCustody.entered (h : InCustody effect (pre ++ e :: post))
    (huse : effect e = .use name value) : ∃ x ∈ pre, effect x = .enter name value :=
  (h name value pre e post rfl huse).exists_mem

/-- What is used after its name was closed has been entered again in between. -/
theorem InCustody.reentered {between : List ε}
    (h : InCustody effect (pre ++ x :: between ++ e :: post)) (hclose : effect x = .close name)
    (huse : effect e = .use name value) : ∃ y ∈ between, effect y = .enter name value := by
  have hentered : Entered effect name value (pre ++ x :: between) :=
    h name value (pre ++ x :: between) e post rfl huse
  apply Since.exists_mem (q := fun e => (effect e).Replaces name)
  apply hentered.after
  · rw [hclose]
    exact rfl
  · rw [hclose]
    simp

end Shared.Registry
