import Mathlib.Tactic.Common

/-!
# Loops that may fail

A turn of a loop goes on with a new state, ends with a result, or fails. A loop makes
at most a given number of turns; when a measure falls in every turn that goes on, a
number above the measure of the first state is enough.
-/

namespace Shared.Loops

set_option autoImplicit false

universe u v w

variable {σ : Type u} {ρ α β : Type v} {ε : Type w}

inductive Turn (σ : Type u) (ρ : Type v) where
  | again (next : σ)
  | done (result : ρ)

def Turn.Keeps (again : σ → Prop) (done : ρ → Prop) : Turn σ ρ → Prop
  | .again next => again next
  | .done result => done result

/-- The value is `good`, or the failure is `bad`. -/
def Meets (good : α → Prop) (bad : ε → Prop) : Except ε α → Prop
  | .ok value => good value
  | .error failure => bad failure

def run (exhausted : ε) (turn : σ → Except ε (Turn σ ρ)) : Nat → σ → Except ε ρ
  | 0, _ => .error exhausted
  | fuel + 1, s =>
    match turn s with
    | .error failure => .error failure
    | .ok (.done result) => .ok result
    | .ok (.again next) => run exhausted turn fuel next

section Outcomes

variable {good good' : α → Prop} {bad bad' : ε → Prop} {x : Except ε α}

theorem Meets.bind {f : α → Except ε β} {goal : β → Prop} (h : Meets good bad x)
    (hf : ∀ a, good a → Meets goal bad (f a)) : Meets goal bad (x >>= f) := by
  cases x with
  | error failure => exact h
  | ok a => exact hf a h

theorem Meets.mono (h : Meets good bad x) (hgood : ∀ a, good a → good' a)
    (hbad : ∀ e, bad e → bad' e) : Meets good' bad' x := by
  cases x with
  | error failure => exact hbad failure h
  | ok a => exact hgood a h

theorem Meets.of_ok {a : α} (h : Meets good bad x) (hok : x = .ok a) : good a := by
  rw [hok] at h
  exact h

theorem Meets.mapError {ε' : Type w} {f : ε → ε'} {bad' : ε' → Prop}
    (h : Meets good (fun e => bad' (f e)) x) : Meets good bad' (x.mapError f) := by
  cases x with
  | error failure => exact h
  | ok a => exact h

/-- A computation that never fails, and what follows it. -/
theorem Meets.bind_sure {f : α → Except ε β} {goal : β → Prop}
    (h : Meets good (fun _ : ε => False) x) (hf : ∀ a, good a → Meets goal bad (f a)) :
    Meets goal bad (x >>= f) :=
  (h.mono (fun _ hgood => hgood) (fun _ hfalse => hfalse.elim)).bind hf

end Outcomes

section Runs

variable {exhausted : ε} {turn : σ → Except ε (Turn σ ρ)} {s t : σ} {fuel : Nat}

theorem run_done {result : ρ} (h : turn s = .ok (.done result)) (hfuel : 0 < fuel) :
    run exhausted turn fuel s = .ok result := by
  cases fuel with
  | zero => cases hfuel
  | succ fuel =>
    unfold run
    rw [h]

theorem run_failed {failure : ε} (h : turn s = .error failure) (hfuel : 0 < fuel) :
    run exhausted turn fuel s = .error failure := by
  cases fuel with
  | zero => cases hfuel
  | succ fuel =>
    unfold run
    rw [h]

theorem run_again (h : turn s = .ok (.again t)) :
    run exhausted turn (fuel + 1) s = run exhausted turn fuel t := by
  rw [run, h]

/-- The rule of a loop: an invariant that every turn keeps while the measure falls. -/
theorem run_meets (inv : σ → Prop) (measure : σ → Nat) {good : ρ → Prop} {bad : ε → Prop}
    (hturn : ∀ s, inv s →
      Meets (Turn.Keeps (fun t => inv t ∧ measure t < measure s) good) bad (turn s))
    (hinv : inv s) (hfuel : measure s < fuel) : Meets good bad (run exhausted turn fuel s) := by
  induction fuel generalizing s with
  | zero => exact absurd hfuel (Nat.not_lt_zero _)
  | succ fuel ih =>
    have h := hturn s hinv
    cases hresult : turn s with
    | error failure =>
      rw [hresult] at h
      rw [run_failed hresult (Nat.succ_pos fuel)]
      exact h
    | ok decision =>
      rw [hresult] at h
      cases decision with
      | done result =>
        rw [run_done hresult (Nat.succ_pos fuel)]
        exact h
      | again next =>
        obtain ⟨hnext, hless⟩ := h
        rw [run_again hresult]
        exact ih hnext (by omega)

/-- Some turns, none of them the last. -/
inductive Reaches (turn : σ → Except ε (Turn σ ρ)) : σ → σ → Prop where
  | refl (s : σ) : Reaches turn s s
  | step {s t u : σ} : turn s = .ok (.again t) → Reaches turn t u → Reaches turn s u

theorem Reaches.single (h : turn s = .ok (.again t)) : Reaches turn s t := .step h (.refl t)

theorem Reaches.trans {u : σ} (h : Reaches turn s t) (h' : Reaches turn t u) :
    Reaches turn s u := by
  induction h with
  | refl => exact h'
  | step hstep _ ih => exact .step hstep (ih h')

/-- A loop that has reached a state still has the turns that state needs. -/
theorem run_of_reaches (exhausted : ε) (measure : σ → Nat)
    (hdecreases : ∀ s t, turn s = .ok (.again t) → measure t < measure s)
    (h : Reaches turn s t) (hfuel : measure s < fuel) :
    ∃ left, measure t < left ∧ run exhausted turn fuel s = run exhausted turn left t := by
  induction h generalizing fuel with
  | refl => exact ⟨fuel, hfuel, rfl⟩
  | @step s next t hstep _ ih =>
    obtain ⟨fuel, rfl⟩ : ∃ n, fuel = n + 1 := ⟨fuel - 1, by omega⟩
    have hless := hdecreases s next hstep
    rw [run_again hstep]
    exact ih (by omega)

end Runs

end Shared.Loops
