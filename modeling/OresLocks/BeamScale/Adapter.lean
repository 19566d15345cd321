import OresLocks.BeamScale.Custody
import OresLocks.Shared.Runs

/-!
# Adapters and their moves

The state that the adapters of two languages have in common: where each call is suspended,
the tokens it keeps in a table of its own, and its log. A view tells what such a table holds
under the name of a grant and how far a call has come.
-/

namespace OresLocks.BeamScale

set_option autoImplicit false

open Relation Shared.Registry Shared.Runs

variable {ρ γ κ : Type}

structure Adapter (ρ γ κ : Type) where
  tokens : ρ
  calls : Nat → Option γ
  log : List (Event κ)

namespace Adapter

def put (s : Adapter ρ γ κ) (call : Nat) (c : γ) : Adapter ρ γ κ :=
  { s with calls := fun other => if other = call then some c else s.calls other }

def emit (s : Adapter ρ γ κ) (e : Event κ) : Adapter ρ γ κ := { s with log := s.log ++ [e] }

end Adapter

structure View (ρ γ κ : Type) where
  named : ρ → Name κ → Option Token
  attempt : Option γ → Attempt κ

def Adapter.core (s : Adapter ρ γ κ) (view : View ρ γ κ) : Core κ :=
  ⟨view.named s.tokens, fun call => view.attempt (s.calls call), s.log⟩

namespace View

variable (view : View ρ γ κ) {s : Adapter ρ γ κ} {call : Nat} {c : γ} {e : Event κ} {name : Name κ}
  {token : Token} {identity : Identity κ} {failures : Nat}

theorem core_put (s : Adapter ρ γ κ) (call : Nat) (c : γ) :
    (s.put call c).core view = (s.core view).put call (view.attempt (some c)) := by
  simp only [Adapter.core, Adapter.put, Core.put]
  congr 1
  funext other
  split <;> rfl

/-- A call ends and says nothing. -/
theorem quiet (hc : view.attempt (some c) = .ended) :
    Move (s.core view) ((s.put call c).core view) := by
  rw [core_put, hc]
  exact .quiet (s.core view) call

/-- A call waits for something else. -/
theorem waiting (h : view.attempt (s.calls call) = view.attempt (some c)) :
    ReflTransGen Move (s.core view) ((s.put call c).core view) := by
  rw [core_put, Core.put_eq_self (s := s.core view) h]

theorem note {attempt : Attempt κ} (h : view.attempt (s.calls call) = attempt)
    (advances : Advances call attempt e (view.attempt (some c))) (he : e.effect = .silent) :
    Move (s.core view) (((s.emit e).put call c).core view) := by
  rw [core_put]
  exact .note call h advances he

theorem fail (h : view.attempt (s.calls call) = .running identity failures)
    (hc : view.attempt (some c) = .ended) :
    Move (s.core view) (((s.emit (.acquireFailed call)).put call c).core view) :=
  view.note h (hc ▸ .failed identity failures) rfl

theorem again (h : view.attempt (s.calls call) = .running identity failures)
    (hc : view.attempt (some c) = .running identity failures) :
    Move (s.core view) (((s.emit (.acquireSent call identity)).put call c).core view) := by
  apply view.note h _ rfl
  rw [hc]
  exact .again identity failures

/-- The failure is recorded first, then the request under the same identity. -/
theorem retry (h : view.attempt (s.calls call) = .running identity 0)
    (hc : view.attempt (some c) = .running identity 1) :
    ReflTransGen Move (s.core view)
      ((((s.emit (.acquireFailed call)).emit (.acquireSent call identity)).put call c).core
        view) := by
  let failed := ((s.core view).put call (.running identity 1)).emit (.acquireFailed call)
  have hattempt : failed.attempts call = .running identity 1 := if_pos rfl
  have hfailed : Move (s.core view) failed := .note call h (.retried identity) rfl
  have hsent : Move failed ((failed.put call (.running identity 1)).emit
      (.acquireSent call identity)) := .note call hattempt (.again identity 1) rfl
  rw [Core.put_eq_self hattempt] at hsent
  rw [core_put, hc]
  exact (ReflTransGen.single hfailed).tail hsent

theorem send (hc : view.attempt (some c) = .ended) (he : e.effect = .use name token)
    (hacquirer : e.acquirer = none) (h : view.named s.tokens name = some token) :
    Move (s.core view) (((s.emit e).put call c).core view) := by
  rw [core_put, hc]
  exact .send call he hacquirer h

variable [DecidableEq κ] {tokens : ρ}

theorem grant (h : view.attempt (s.calls call) = .running identity failures)
    (hc : view.attempt (some c) = .ended)
    (htokens : view.named tokens =
      Function.update (view.named s.tokens) (identity.granted token) (some token)) :
    Move (s.core view) ((({ s with tokens }.emit (.acquired call identity token)).put call c).core
      view) := by
  have hmove := Move.grant (s := s.core view) h token
  rw [core_put, hc]
  unfold Adapter.core Adapter.emit
  rw [htokens]
  exact hmove

theorem forget (hc : view.attempt (some c) = .ended)
    (he : e.effect = .close name ∨ e.effect = .silent) (hacquirer : e.acquirer = none)
    (htokens : view.named tokens = Function.update (view.named s.tokens) name none) :
    Move (s.core view) (({ s.emit e with tokens }.put call c).core view) := by
  have hmove := Move.forget (s := s.core view) call he hacquirer
  rw [core_put, hc]
  unfold Adapter.core Adapter.emit
  rw [htokens]
  exact hmove

end View

/-- A run of an adapter whose steps are moves keeps custody. -/
theorem kept_of_exec {ι : Type} {view : View ρ γ κ}
    {step : Adapter ρ γ κ → ι → Option (Adapter ρ γ κ)}
    (moves : ∀ {s input t}, step s input = some t → ReflTransGen Move (s.core view) (t.core view))
    {s t : Adapter ρ γ κ} (hopened : s.core view = Core.opened) {inputs : List ι}
    (h : Exec (fun s input t => step s input = some t) s inputs t) : Kept (t.core view) :=
  h.stateInvariant (I := fun s => Kept (s.core view)) (hopened ▸ kept_opened) fun hkept hstep =>
    hkept.moves (moves hstep)

end OresLocks.BeamScale
