import Mathlib.Tactic.Common

/-!
# What a growing log has recorded before an event

A log only grows at its end, so what held of the log before some event stays true.
-/

namespace Shared.Logs

set_option autoImplicit false

universe u

variable {ε : Type u}

/-- Before every event that satisfies `p` the log satisfied `Q`. -/
def BeforeEach (p : ε → Prop) (Q : List ε → Prop) (log : List ε) : Prop :=
  ∀ pre e post, log = pre ++ e :: post → p e → Q pre

variable {p : ε → Prop} {Q : List ε → Prop} {log : List ε} {e : ε}

theorem BeforeEach.concat (h : BeforeEach p Q log) (he : p e → Q log) :
    BeforeEach p Q (log ++ [e]) := by
  intro pre e' post hlog hp
  rcases List.eq_nil_or_concat post with rfl | ⟨post', last, rfl⟩
  · obtain ⟨rfl, heq⟩ := List.append_inj' hlog rfl
    cases heq
    exact he hp
  · have hsplit : log ++ [e] = (pre ++ e' :: post') ++ [last] := by simpa using hlog
    obtain ⟨rfl, _⟩ := List.append_inj' hsplit rfl
    exact h pre e' post' rfl hp

theorem BeforeEach.of_forall_not (h : ∀ e ∈ log, ¬ p e) : BeforeEach p Q log := by
  intro pre e post hlog hp
  subst hlog
  exact absurd hp (h e (by simp))

/-- Some event satisfied `p`, and no later one has satisfied `q`. -/
def Since (p q : ε → Prop) (log : List ε) : Prop :=
  ∃ pre e post, log = pre ++ e :: post ∧ p e ∧ ∀ later ∈ post, ¬ q later

namespace Since

variable {q : ε → Prop} {pre post : List ε}

theorem last (h : p e) : Since p q (log ++ [e]) := ⟨log, e, [], rfl, h, by simp⟩

theorem concat (h : Since p q log) (he : ¬ q e) : Since p q (log ++ [e]) := by
  obtain ⟨pre, first, post, rfl, hfirst, hlater⟩ := h
  refine ⟨pre, first, post ++ [e], by simp, hfirst, ?_⟩
  intro later hmem
  rcases List.mem_append.mp hmem with hmem | hmem
  · exact hlater later hmem
  · rw [List.mem_singleton.mp hmem]
    exact he

theorem exists_mem (h : Since p q log) : ∃ e ∈ log, p e := by
  obtain ⟨pre, e, post, rfl, he, _⟩ := h
  exact ⟨e, by simp, he⟩

/-- An event that satisfies `q` has to be followed by one that satisfies `p`. -/
theorem after (h : Since p q (pre ++ e :: post)) (hq : q e) (hp : ¬ p e) : Since p q post := by
  obtain ⟨before, first, behind, hsplit, hfirst, hlater⟩ := h
  rcases List.append_eq_append_iff.mp hsplit with ⟨skipped, rfl, hrest⟩ | ⟨skipped, rfl, hrest⟩
  · cases skipped with
    | nil =>
      cases hrest
      exact absurd hfirst hp
    | cons _ skipped =>
      cases hrest
      exact ⟨skipped, first, behind, rfl, hfirst, hlater⟩
  · cases skipped with
    | nil =>
      cases hrest
      exact absurd hfirst hp
    | cons _ skipped =>
      cases hrest
      exact absurd hq (hlater e (by simp))

end Since

end Shared.Logs
