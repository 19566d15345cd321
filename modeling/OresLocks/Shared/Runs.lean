import Mathlib.Tactic.Common
import Mathlib.Data.List.Induction

/-!
# Finite runs of a labelled transition system

A label is one observation of the environment: a call with its answer, or the
completion of one step. `Exec Step s es t` says that the labels `es` were
observed, oldest first, on the way from `s` to `t`. Histories only grow at
their end, so an invariant may speak about the whole past of a state.
-/

namespace Shared.Runs

set_option autoImplicit false

universe u v

variable {σ : Type u} {ε : Type v} {Step : σ → ε → σ → Prop} {s t u : σ}

inductive Exec (Step : σ → ε → σ → Prop) (s : σ) : List ε → σ → Prop where
  | nil : Exec Step s [] s
  | snoc {es : List ε} {t : σ} {e : ε} {u : σ} :
      Exec Step s es t → Step t e u → Exec Step s (es ++ [e]) u

namespace Exec

theorem single {e : ε} (h : Step s e t) : Exec Step s [e] t := .snoc .nil h

theorem append {es fs : List ε} (h : Exec Step s es t) (h' : Exec Step t fs u) :
    Exec Step s (es ++ fs) u := by
  induction h' with
  | nil => simpa using h
  | snoc _ hs ih => simpa [List.append_assoc] using ih.snoc hs

theorem concat_inv {es : List ε} {e : ε} (h : Exec Step s (es ++ [e]) u) :
    ∃ t, Exec Step s es t ∧ Step t e u := by
  generalize hl : es ++ [e] = l at h
  cases h with
  | nil => simp at hl
  | snoc h hs =>
    obtain ⟨rfl, he⟩ := List.append_inj' hl rfl
    cases he
    exact ⟨_, h, hs⟩

theorem single_inv {e : ε} (h : Exec Step s [e] t) : Step s e t := by
  have h' : Exec Step s ([] ++ [e]) t := h
  obtain ⟨v, hv, hs⟩ := h'.concat_inv
  generalize hl : ([] : List ε) = l at hv
  cases hv with
  | nil => exact hs
  | snoc => simp at hl

/-- A projection that turns steps into steps turns runs into runs. -/
theorem project {τ : Type u} {Step' : τ → ε → τ → Prop} (f : σ → τ)
    (sim : ∀ {t e u}, Step t e u → Step' (f t) e (f u)) {es : List ε} (h : Exec Step s es t) :
    Exec Step' (f s) es (f t) := by
  induction h with
  | nil => exact .nil
  | snoc _ hs ih => exact ih.snoc (sim hs)

/-- Where every label leaves one successor, so does every history. -/
theorem unique (one : ∀ {t e u u'}, Step t e u → Step t e u' → u = u') {es : List ε}
    (h : Exec Step s es t) (h' : Exec Step s es u) : t = u := by
  induction h generalizing u with
  | nil =>
    generalize hl : ([] : List ε) = l at h'
    cases h' with
    | nil => rfl
    | snoc => simp at hl
  | snoc _ hs ih =>
    obtain ⟨v, hv, hs'⟩ := h'.concat_inv
    cases ih hv
    exact one hs hs'

/-- Runs of a step function. -/
theorem of_foldlM {step : σ → ε → Option σ} {es : List ε} (h : es.foldlM step s = some t) :
    Exec (fun a e b => step a e = some b) s es t := by
  induction es generalizing s with
  | nil =>
    cases h
    exact .nil
  | cons e es ih =>
    rw [List.foldlM_cons] at h
    obtain ⟨v, hv, hrest⟩ := Option.bind_eq_some_iff.mp h
    exact append (single hv) (ih hrest)

/-- Runs of a step function in which every step meets a condition. -/
theorem of_guarded_foldlM {step : σ → ε → Option σ} {guard : σ → ε → Prop}
    [∀ a e, Decidable (guard a e)] {es : List ε}
    (h : es.foldlM (fun a e => if guard a e then step a e else none) s = some t) :
    Exec (fun a e b => step a e = some b ∧ guard a e) s es t := by
  apply (of_foldlM h).project id
  intro a e b hab
  split at hab
  · rename_i hguard
    exact ⟨hab, hguard⟩
  · cases hab

theorem split {es fs : List ε} (h : Exec Step s (es ++ fs) u) :
    ∃ t, Exec Step s es t ∧ Exec Step t fs u := by
  induction fs using List.reverseRecOn generalizing u with
  | nil => exact ⟨u, by simpa using h, .nil⟩
  | append_singleton fs e ih =>
    rw [← List.append_assoc] at h
    obtain ⟨v, hv, hs⟩ := h.concat_inv
    obtain ⟨t, ht, hf⟩ := ih hv
    exact ⟨t, ht, hf.snoc hs⟩

/-- The state just before and just after one given label. -/
theorem split_at {pre post : List ε} {e : ε} (h : Exec Step s (pre ++ e :: post) u) :
    ∃ t t', Exec Step s pre t ∧ Step t e t' ∧ Exec Step t' post u := by
  have h' : Exec Step s ((pre ++ [e]) ++ post) u := by simpa using h
  obtain ⟨t', hpre, hpost⟩ := h'.split
  obtain ⟨t, ht, hs⟩ := hpre.concat_inv
  exact ⟨t, t', ht, hs, hpost⟩

/-- An invariant of histories and states: it holds at the start and one more
observation keeps it. -/
theorem invariant {I : List ε → σ → Prop} (start : I [] s)
    (keep : ∀ {es t e u}, Exec Step s es t → I es t → Step t e u → I (es ++ [e]) u)
    {es : List ε} (h : Exec Step s es t) : I es t := by
  induction h with
  | nil => exact start
  | snoc h hs ih => exact keep h ih hs

/-- An invariant of states alone. -/
theorem stateInvariant {I : σ → Prop} (start : I s)
    (keep : ∀ {t e u}, I t → Step t e u → I u) {es : List ε} (h : Exec Step s es t) : I t :=
  h.invariant (I := fun _ => I) start (fun _ hi hs => keep hi hs)

/-- A transitive and reflexive relation kept by every step relates the two ends. -/
theorem related {R : σ → σ → Prop} (refl : ∀ s, R s s)
    (trans : ∀ {a b c}, R a b → R b c → R a c) (keep : ∀ {t e u}, Step t e u → R t u)
    {es : List ε} (h : Exec Step s es t) : R s t :=
  h.stateInvariant (I := fun t => R s t) (refl s) (fun hi hs => trans hi (keep hs))

/-- What holds between each observation and everything before it holds pairwise. -/
theorem pairwise {R : ε → ε → Prop}
    (later : ∀ {es t e u}, Exec Step s es t → Step t e u → ∀ e' ∈ es, R e' e)
    {es : List ε} (h : Exec Step s es t) : es.Pairwise R := by
  refine h.invariant (I := fun es _ => es.Pairwise R) .nil ?_
  intro es t e u he hp hs
  rw [List.pairwise_append]
  exact ⟨hp, by simp, fun a ha b hb => by
    rw [List.mem_singleton] at hb; subst hb; exact later he hs a ha⟩

end Exec

end Shared.Runs
