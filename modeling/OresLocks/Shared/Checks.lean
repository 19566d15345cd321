import Mathlib.Tactic.Common

/-!
# Checks in order

A routine that validates its input makes checks one after the other and stops at the
first one that fails. A check is whether it fails and the reason it then gives, or a
computation that may stop with the reason.
-/

namespace Shared.Checks

set_option autoImplicit false

universe u v w

variable {ρ : Type u} {α : Type v} {ε : Type w}

def firstFailure : List (Bool × ρ) → Option ρ
  | [] => none
  | (failed, reason) :: rest => if failed then some reason else firstFailure rest

/-- The value of a routine that makes the checks and then returns. -/
def outcome (checks : List (Bool × ρ)) (value : α) : Except ρ α :=
  match firstFailure checks with
  | some reason => .error reason
  | none => .ok value

@[simp] theorem firstFailure_nil : firstFailure ([] : List (Bool × ρ)) = none := rfl

theorem firstFailure_cons (failed : Bool) (reason : ρ) (rest : List (Bool × ρ)) :
    firstFailure ((failed, reason) :: rest) = if failed then some reason else firstFailure rest :=
  rfl

@[simp] theorem firstFailure_failed (reason : ρ) (rest : List (Bool × ρ)) :
    firstFailure ((true, reason) :: rest) = some reason := rfl

@[simp] theorem firstFailure_passed (reason : ρ) (rest : List (Bool × ρ)) :
    firstFailure ((false, reason) :: rest) = firstFailure rest := rfl

theorem firstFailure_append (checks rest : List (Bool × ρ)) :
    firstFailure (checks ++ rest) = (firstFailure checks).or (firstFailure rest) := by
  induction checks with
  | nil => rfl
  | cons check checks ih =>
    obtain ⟨failed, reason⟩ := check
    cases failed with
    | false => exact ih
    | true => rfl

theorem outcome_failed {checks : List (Bool × ρ)} {reason : ρ} (h : firstFailure checks = some reason)
    (rest : List (Bool × ρ)) (value : α) : outcome (checks ++ rest) value = .error reason := by
  unfold outcome
  rw [firstFailure_append, h]
  rfl

theorem outcome_passed {checks : List (Bool × ρ)} (h : firstFailure checks = none)
    (rest : List (Bool × ρ)) (value : α) : outcome (checks ++ rest) value = outcome rest value := by
  unfold outcome
  rw [firstFailure_append, h]
  rfl

theorem firstFailure_eq_none_iff (checks : List (Bool × ρ)) :
    firstFailure checks = none ↔ ∀ check ∈ checks, check.1 = false := by
  induction checks with
  | nil => simp
  | cons check checks ih =>
    obtain ⟨failed, reason⟩ := check
    cases failed with
    | false => simp [ih]
    | true => simp

theorem mem_of_firstFailure {checks : List (Bool × ρ)} {reason : ρ}
    (h : firstFailure checks = some reason) : (true, reason) ∈ checks := by
  induction checks with
  | nil => cases h
  | cons check checks ih =>
    obtain ⟨failed, first⟩ := check
    cases failed with
    | false => exact List.mem_cons_of_mem _ (ih h)
    | true =>
      cases h
      exact List.mem_cons_self

/-- A routine whose errors carry the reasons of the checks. -/
theorem cases_of_outcome {checks : List (Bool × ρ)} {value : α} {result : Except ε α}
    {reason : ε → ρ} (h : result.mapError reason = outcome checks value) :
    (∃ error, result = .error error ∧ firstFailure checks = some (reason error)) ∨
    (result = .ok value ∧ firstFailure checks = none) := by
  unfold outcome at h
  cases hfirst : firstFailure checks with
  | some first =>
    rw [hfirst] at h
    cases result with
    | error error =>
      refine Or.inl ⟨error, rfl, ?_⟩
      cases h
      rfl
    | ok _ => cases h
  | none =>
    rw [hfirst] at h
    cases result with
    | error _ => cases h
    | ok _ =>
      cases h
      exact Or.inr ⟨rfl, rfl⟩

section Outcomes

variable {checks : List (Bool × ρ)} {value : α} {result : Except ε α} {reason : ε → ρ}

theorem ok_of_passed (h : result.mapError reason = outcome checks value)
    (hpassed : firstFailure checks = none) : result = .ok value := by
  rcases cases_of_outcome h with ⟨_, _, hfailed⟩ | ⟨hok, _⟩
  · rw [hpassed] at hfailed
    cases hfailed
  · exact hok

theorem error_of_failed (h : result.mapError reason = outcome checks value)
    (hfailed : firstFailure checks ≠ none) : ∃ error, result = .error error := by
  rcases cases_of_outcome h with ⟨error, herror, _⟩ | ⟨_, hpassed⟩
  · exact ⟨error, herror⟩
  · exact absurd hpassed hfailed

theorem passed_of_ok {value' : α} (h : result.mapError reason = outcome checks value)
    (hok : result = .ok value') : value' = value ∧ firstFailure checks = none := by
  rcases cases_of_outcome h with ⟨_, herror, _⟩ | ⟨hvalue, hpassed⟩
  · rw [hok] at herror
    cases herror
  · rw [hok] at hvalue
    exact ⟨Except.ok.inj hvalue, hpassed⟩

end Outcomes

section Sequences

variable {β : Type v}

def rejectIf (failed : Bool) (error : ε) : Except ε Unit :=
  if failed then .error error else .ok ()

/-- A value that must be present. -/
def required (value : Option α) (error : ε) : Except ε α :=
  match value with
  | some value => .ok value
  | none => .error error

theorem bind_eq_ok {x : Except ε α} {f : α → Except ε β} {b : β} :
    (x >>= f) = .ok b ↔ ∃ a, x = .ok a ∧ f a = .ok b := by
  cases x with
  | error error => simp [bind, Except.bind]
  | ok a => simp [bind, Except.bind]

@[simp] theorem rejectIf_eq_ok {failed : Bool} {error : ε} {u : Unit} :
    rejectIf failed error = .ok u ↔ failed = false := by
  cases failed with
  | false => simp [rejectIf]
  | true => simp [rejectIf]

@[simp] theorem required_eq_ok {value : Option α} {error : ε} {a : α} :
    required value error = .ok a ↔ value = some a := by
  cases value with
  | none => simp [required]
  | some value => simp [required]

/-- A check and what follows it. -/
theorem rejectIf_bind_eq_ok {γ : Type} {failed : Bool} {error : ε} {next : Unit → Except ε γ}
    {c : γ} : (rejectIf failed error >>= next) = .ok c ↔ failed = false ∧ next () = .ok c := by
  rw [bind_eq_ok]
  constructor
  · rintro ⟨_, hpassed, hnext⟩
    exact ⟨rejectIf_eq_ok.mp hpassed, hnext⟩
  · rintro ⟨hpassed, hnext⟩
    exact ⟨(), rejectIf_eq_ok.mpr hpassed, hnext⟩

end Sequences

end Shared.Checks
