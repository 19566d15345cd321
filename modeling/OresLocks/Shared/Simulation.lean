import OresLocks.Shared.Runs

/-!
# Runs that trail another run

Labels are observed in two ways. A run trails what has been seen and heard of another
system when it shows the same to the first observer, and the same to the second one but
for what it still owes.
-/

namespace Shared.Runs

set_option autoImplicit false

universe u v w x y

variable {σ : Type u} {ε : Type v} {Step : σ → ε → σ → Prop}

/-- A run whose labels all satisfy `P`. -/
theorem Exec.restrict {P : ε → Prop} {s t : σ} {es : List ε} (h : Exec Step s es t)
    (hP : ∀ e ∈ es, P e) : Exec (fun s e t => Step s e t ∧ P e) s es t := by
  induction h with
  | nil => exact .nil
  | @snoc es t e u _ hstep ih =>
    exact (ih fun e' he' => hP e' (List.mem_append_left _ he')).snoc ⟨hstep, hP e (by simp)⟩

section Observing

variable {ω : Type w}

def observed (obs : ε → List ω) (es : List ε) : List ω := es.flatMap obs

variable {obs : ε → List ω}

@[simp] theorem observed_nil : observed obs [] = [] := rfl

@[simp] theorem observed_singleton (e : ε) : observed obs [e] = obs e := by
  simp [observed]

@[simp] theorem observed_append (es fs : List ε) :
    observed obs (es ++ fs) = observed obs es ++ observed obs fs := by
  simp [observed]

end Observing

/-- A run from `s` to `t` with what is seen, and with what is heard except for `owed`. -/
structure Trails {ω : Type x} {ν : Type y} (Step : σ → ε → σ → Prop) (sight : ε → List ω)
    (sound : ε → List ν) (s : σ) (seen : List ω) (heard owed : List ν) (t : σ) : Prop where
  run : ∃ es, Exec Step s es t ∧ observed sight es = seen ∧ observed sound es ++ owed = heard

namespace Trails

variable {ω : Type x} {ν : Type y} {sight : ε → List ω} {sound : ε → List ν} {s t u : σ} {e : ε}
  {seen : List ω} {heard owed : List ν}

theorem start : Trails Step sight sound s [] [] [] s := ⟨[], .nil, rfl, rfl⟩

/-- A step that pays the oldest of what is owed. -/
theorem step (h : Trails Step sight sound s seen heard (sound e ++ owed) t) (hstep : Step t e u) :
    Trails Step sight sound s (seen ++ sight e) heard owed u := by
  obtain ⟨es, hrun, hsight, hsound⟩ := h.run
  refine ⟨es ++ [e], hrun.snoc hstep, ?_, ?_⟩
  · rw [observed_append, observed_singleton, hsight]
  · rw [observed_append, observed_singleton, List.append_assoc, hsound]

/-- More is heard, and owed. -/
theorem hear (h : Trails Step sight sound s seen heard owed t) (more : List ν) :
    Trails Step sight sound s seen (heard ++ more) (owed ++ more) t := by
  obtain ⟨es, hrun, hsight, hsound⟩ := h.run
  exact ⟨es, hrun, hsight, by rw [← List.append_assoc, hsound]⟩

end Trails

end Shared.Runs
