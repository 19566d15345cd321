import Mathlib.Tactic.Common
import Mathlib.Data.List.Basic

/-!
# Plans of nested brackets

A plan is a list of steps, some of which open a bracket and some close one. It is carried
out step by step; when a step fails, what is open is undone, the innermost first.
-/

namespace Shared.Brackets

set_option autoImplicit false

universe u

/-- `undoes` is the role of a step that stands in no plan. -/
inductive Role (Step : Type u) where
  | plain
  | opens (undo : Step)
  | closes (undo : Step)
  | undoes

structure Discipline (Step : Type u) where
  role : Step → Role Step
  /-- A step that fails to close its bracket leaves it open. -/
  kept : Step → Bool
  /-- What the step needs is not there: it is given up before it is attempted. -/
  missing : Step → Bool

/-- A step, and whether it succeeded. -/
abbrev Attempt (Step : Type u) := Step × Bool

variable {Step : Type u} {d : Discipline Step}

/-- The plan from here on, with the steps that undo what is open. -/
inductive Executes (d : Discipline Step) :
    List Step → List Step → List (Attempt Step) → Bool → Prop where
  | done : Executes d [] [] [] true
  | passed {s : Step} {steps undo : List Step} {attempts : List (Attempt Step)} {ok : Bool}
      (hrole : d.role s = .plain) (hthere : d.missing s = false)
      (rest : Executes d steps undo attempts ok) :
      Executes d (s :: steps) undo ((s, true) :: attempts) ok
  | opened {s u : Step} {steps undo : List Step} {attempts : List (Attempt Step)} {ok : Bool}
      (hrole : d.role s = .opens u) (hthere : d.missing s = false)
      (rest : Executes d steps (u :: undo) attempts ok) :
      Executes d (s :: steps) undo ((s, true) :: attempts) ok
  | closed {s u : Step} {steps undo : List Step} {attempts : List (Attempt Step)} {ok : Bool}
      (hrole : d.role s = .closes u) (rest : Executes d steps undo attempts ok) :
      Executes d (s :: steps) (u :: undo) ((s, true) :: attempts) ok
  | failed {s : Step} {steps undo : List Step} {attempts : List (Attempt Step)}
      (hrole : d.role s = .plain ∨ ∃ u, d.role s = .opens u) (hthere : d.missing s = false)
      (hundo : attempts.map Prod.fst = undo) :
      Executes d (s :: steps) undo ((s, false) :: attempts) false
  | unclosed {s u : Step} {steps undo : List Step} {attempts : List (Attempt Step)}
      (hrole : d.role s = .closes u)
      (hundo : attempts.map Prod.fst = if d.kept s then u :: undo else undo) :
      Executes d (s :: steps) (u :: undo) ((s, false) :: attempts) false
  | givenUp {s : Step} {steps undo : List Step} {attempts : List (Attempt Step)}
      (hmissing : d.missing s = true) (hundo : attempts.map Prod.fst = undo) :
      Executes d (s :: steps) undo attempts false

/-- The plan has been carried out up to some step, which failed or was given up. -/
def Stopped (d : Discipline Step) (steps : List Step) (attempts : List (Attempt Step)) : Prop :=
  ∃ carried s rest cleanup, steps = carried ++ s :: rest ∧
    (attempts = carried.map (fun s => (s, true)) ++ (s, false) :: cleanup ∨
      d.missing s = true ∧ attempts = carried.map (fun s => (s, true)) ++ cleanup)

theorem Stopped.cons {steps : List Step} {attempts : List (Attempt Step)}
    (h : Stopped d steps attempts) (s : Step) : Stopped d (s :: steps) ((s, true) :: attempts) := by
  obtain ⟨carried, t, rest, cleanup, rfl, hattempts⟩ := h
  refine ⟨s :: carried, t, rest, cleanup, rfl, ?_⟩
  rcases hattempts with rfl | ⟨hmissing, rfl⟩
  · exact .inl rfl
  · exact .inr ⟨hmissing, rfl⟩

namespace Executes

variable {steps undo : List Step} {attempts : List (Attempt Step)} {ok : Bool}

/-- What succeeds has carried out the plan, and nothing else. -/
theorem complete (h : Executes d steps undo attempts ok) (hok : ok = true) :
    attempts = steps.map fun s => (s, true) := by
  induction h with
  | done => rfl
  | passed _ _ _ ih => rw [ih hok, List.map_cons]
  | opened _ _ _ ih => rw [ih hok, List.map_cons]
  | closed _ _ ih => rw [ih hok, List.map_cons]
  | failed => cases hok
  | unclosed => cases hok
  | givenUp => cases hok

theorem stopped (h : Executes d steps undo attempts ok) (hok : ok = false) :
    Stopped d steps attempts := by
  induction h with
  | done => cases hok
  | @passed s _ _ _ _ _ _ _ ih => exact (ih hok).cons s
  | @opened s _ _ _ _ _ _ _ _ ih => exact (ih hok).cons s
  | @closed s _ _ _ _ _ _ _ ih => exact (ih hok).cons s
  | @failed s steps _ cleanup => exact ⟨[], s, steps, cleanup, rfl, .inl rfl⟩
  | @unclosed s _ steps _ cleanup => exact ⟨[], s, steps, cleanup, rfl, .inl rfl⟩
  | @givenUp s steps _ cleanup hmissing => exact ⟨[], s, steps, cleanup, rfl, .inr ⟨hmissing, rfl⟩⟩

/-- A bracket that the same step closes and undoes goes around a plan. -/
theorem within {c : Step} (h : Executes d steps undo attempts ok) (hrole : d.role c = .closes c)
    (hkept : d.kept c = false) (closes : Bool) :
    Executes d (steps ++ [c]) (undo ++ [c]) (attempts ++ [(c, closes)]) (ok && closes) := by
  have hmap : ∀ {attempts : List (Attempt Step)} {undo : List Step},
      attempts.map Prod.fst = undo → (attempts ++ [(c, closes)]).map Prod.fst = undo ++ [c] := by
    intro attempts undo hundo
    rw [List.map_append, hundo]
    rfl
  induction h with
  | done =>
    cases closes with
    | true => exact .closed hrole .done
    | false =>
      apply Executes.unclosed hrole
      rw [hkept]
      rfl
  | passed hplain hthere _ ih => exact .passed hplain hthere ih
  | opened hopens hthere _ ih => exact .opened hopens hthere ih
  | closed hcloses _ ih => exact .closed hcloses ih
  | failed hplain hthere hundo =>
    rw [Bool.false_and]
    exact .failed hplain hthere (hmap hundo)
  | @unclosed s _ _ _ _ hcloses hundo =>
    rw [Bool.false_and]
    apply Executes.unclosed hcloses
    apply (hmap hundo).trans
    cases d.kept s with
    | true => rfl
    | false => rfl
  | givenUp hmissing hundo =>
    rw [Bool.false_and]
    exact .givenUp hmissing (hmap hundo)

end Executes

section Balance

variable [DecidableEq Step]

/-- The attempt opened a bracket that `u` undoes. -/
def Discipline.opensOn (d : Discipline Step) (u : Step) (attempt : Attempt Step) : Bool :=
  match d.role attempt.1 with
  | .opens undo => attempt.2 && decide (undo = u)
  | _ => false

/-- The attempt ended a bracket that `u` undoes. -/
def Discipline.ends (d : Discipline Step) (u : Step) (attempt : Attempt Step) : Bool :=
  match d.role attempt.1 with
  | .closes undo => (attempt.2 || !d.kept attempt.1) && decide (undo = u)
  | .undoes => decide (attempt.1 = u)
  | _ => false

/-- What undoes a bracket closes it too, or stands in no plan. -/
def Discipline.Sound (d : Discipline Step) : Prop :=
  ∀ s u, d.role s = .opens u ∨ d.role s = .closes u →
    d.role u = .undoes ∨ d.role u = .closes u ∧ d.kept u = false

theorem Discipline.ends_undo {u v : Step} (b : Bool)
    (h : d.role v = .undoes ∨ d.role v = .closes v ∧ d.kept v = false) :
    d.ends u (v, b) = decide (v = u) ∧ d.opensOn u (v, b) = false := by
  unfold Discipline.ends Discipline.opensOn
  rcases h with hrole | ⟨hrole, hkept⟩
  · rw [hrole]
    exact ⟨rfl, rfl⟩
  · rw [hrole]
    simp [hkept]

/-- The attempts of undoing steps end one bracket each. -/
theorem Discipline.undone {undo : List Step} (u : Step)
    (hundo : ∀ v ∈ undo, d.role v = .undoes ∨ d.role v = .closes v ∧ d.kept v = false)
    (attempts : List (Attempt Step)) (h : attempts.map Prod.fst = undo) :
    attempts.countP (d.ends u) = undo.count u ∧ attempts.countP (d.opensOn u) = 0 := by
  induction attempts generalizing undo with
  | nil =>
    subst h
    exact ⟨rfl, rfl⟩
  | cons attempt attempts ih =>
    subst h
    obtain ⟨v, b⟩ := attempt
    obtain ⟨hends, hopens⟩ := ih (fun w hw => hundo w (List.mem_cons_of_mem _ hw)) rfl
    obtain ⟨hv, hv'⟩ := Discipline.ends_undo (u := u) b (hundo v List.mem_cons_self)
    constructor
    · rw [List.countP_cons, hends, hv, List.map_cons, List.count_cons]
      simp
    · rw [List.countP_cons, hopens, hv']
      rfl

/-- As many brackets are ended as have been opened. -/
theorem Executes.balanced (hsound : d.Sound) {steps undo : List Step}
    {attempts : List (Attempt Step)} {ok : Bool} (h : Executes d steps undo attempts ok)
    (hundo : ∀ v ∈ undo, d.role v = .undoes ∨ d.role v = .closes v ∧ d.kept v = false) (u : Step) :
    attempts.countP (d.ends u) = attempts.countP (d.opensOn u) + undo.count u := by
  induction h with
  | done => rfl
  | @passed s _ _ attempts _ hrole _ _ ih =>
    have hends : d.ends u (s, true) = false := by unfold Discipline.ends; rw [hrole]
    have hopens : d.opensOn u (s, true) = false := by unfold Discipline.opensOn; rw [hrole]
    rw [List.countP_cons, List.countP_cons, hends, hopens, ih hundo]
    simp
  | @opened s v _ undo attempts _ hrole _ _ ih =>
    have hends : d.ends u (s, true) = false := by unfold Discipline.ends; rw [hrole]
    have hopens : d.opensOn u (s, true) = decide (v = u) := by
      unfold Discipline.opensOn
      rw [hrole]
      rfl
    have hrest := ih fun w hw => by
      rcases List.mem_cons.mp hw with rfl | hold
      · exact hsound s w (.inl hrole)
      · exact hundo w hold
    rw [List.count_cons] at hrest
    rw [List.countP_cons, List.countP_cons, hends, hopens, hrest]
    by_cases hv : v = u
    · simp [hv]
      omega
    · simp [hv]
  | @closed s v _ undo attempts _ hrole _ ih =>
    have hends : d.ends u (s, true) = decide (v = u) := by
      unfold Discipline.ends
      rw [hrole]
      simp
    have hopens : d.opensOn u (s, true) = false := by unfold Discipline.opensOn; rw [hrole]
    have hrest := ih fun w hw => hundo w (List.mem_cons_of_mem _ hw)
    rw [List.countP_cons, List.countP_cons, hends, hopens, hrest, List.count_cons]
    by_cases hv : v = u
    · simp [hv]
      omega
    · simp [hv]
  | @failed s _ undo attempts hrole _ hattempts =>
    obtain ⟨hends, hopens⟩ := Discipline.undone u hundo attempts hattempts
    have hs : d.ends u (s, false) = false ∧ d.opensOn u (s, false) = false := by
      unfold Discipline.ends Discipline.opensOn
      rcases hrole with hrole | ⟨v, hrole⟩
      · rw [hrole]
        exact ⟨rfl, rfl⟩
      · rw [hrole]
        exact ⟨rfl, rfl⟩
    rw [List.countP_cons, List.countP_cons, hs.1, hs.2, hends, hopens]
    simp
  | @unclosed s v _ undo attempts hrole hattempts =>
    have hopens : d.opensOn u (s, false) = false := by unfold Discipline.opensOn; rw [hrole]
    have hends : d.ends u (s, false) = (!d.kept s && decide (v = u)) := by
      unfold Discipline.ends
      rw [hrole]
      simp
    cases hkept : d.kept s with
    | true =>
      rw [hkept, if_pos rfl] at hattempts
      obtain ⟨hcount, hnone⟩ := Discipline.undone u hundo attempts hattempts
      rw [List.countP_cons, List.countP_cons, hopens, hends, hcount, hnone, hkept]
      simp
    | false =>
      rw [hkept, if_neg Bool.false_ne_true] at hattempts
      obtain ⟨hcount, hnone⟩ := Discipline.undone u
        (fun w hw => hundo w (List.mem_cons_of_mem _ hw)) attempts hattempts
      rw [List.countP_cons, List.countP_cons, hopens, hends, hcount, hnone, hkept, List.count_cons]
      by_cases hv : v = u
      · simp [hv]
      · simp [hv]
  | givenUp _ hattempts =>
    obtain ⟨hends, hopens⟩ := Discipline.undone u hundo _ hattempts
    rw [hends, hopens, Nat.zero_add]

end Balance

end Shared.Brackets
