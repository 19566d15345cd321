import OresLocks.Fence

/-!
# Fencing decisions in any runtime

A runtime has its own texts, keys and tokens. What it decides depends on the order of
two tokens and on whether two operations are the same one, and printing the tokens of a
decision commutes with taking it.
-/

namespace OresLocks.Fencing

set_option autoImplicit false

open Fence

universe u v

/-- A fenced write, or the last accepted one of its resource, as a runtime holds it. -/
structure Write (text key token optional : Type u) where
  tenantScope : text
  resourceKey : key
  fencingToken : token
  operationId : text
  payloadSha256 : text
  holder : optional
  leaseId : optional

structure Decision (token : Type u) where
  kind : FenceDecisionKind
  shouldApply : Bool
  incomingToken : token
  currentToken : token
  previousToken : Option token
  deriving DecidableEq

/-- What a caller of `evaluate_fence` can tell apart among the answers to valid writes. -/
inductive Outcome (token : Type u) where
  | identityMismatch
  | decided (decision : Decision token)
  deriving DecidableEq

namespace Decision

variable {token : Type u} {printed : Type v}

/-- The decision when no write was accepted before. -/
def first (incoming : token) : Decision token := ⟨.advanced, true, incoming, incoming, none⟩

/-- The decision by the order of the incoming token and the current one. -/
def against (order : Ordering) (same : Prop) [Decidable same] (incoming current : token) :
    Decision token :=
  match order with
  | .gt => ⟨.advanced, true, incoming, incoming, some current⟩
  | .lt => ⟨.stale, false, incoming, current, some current⟩
  | .eq =>
    if same then ⟨.replay, false, incoming, current, some current⟩
    else ⟨.tokenReuse, false, incoming, current, some current⟩

def map (print : token → printed) (d : Decision token) : Decision printed :=
  ⟨d.kind, d.shouldApply, print d.incomingToken, print d.currentToken, d.previousToken.map print⟩

@[simp] theorem map_first (print : token → printed) (incoming : token) :
    (first incoming).map print = first (print incoming) := rfl

@[simp] theorem map_against (print : token → printed) (order : Ordering) (same : Prop)
    [Decidable same] (incoming current : token) :
    (against order same incoming current).map print =
      against order same (print incoming) (print current) := by
  cases order with
  | lt => rfl
  | gt => rfl
  | eq => by_cases h : same <;> simp [against, map, h]

theorem against_congr {order order' : Ordering} {same same' : Prop} [Decidable same]
    [Decidable same'] (horder : order = order') (hsame : same ↔ same') (incoming current : token) :
    against order same incoming current = against order' same' incoming current := by
  subst horder
  cases order with
  | lt => rfl
  | gt => rfl
  | eq => simp only [against, hsame]

end Decision

/-- The outcome of an evaluation, its tokens printed; `none` when another check failed. -/
def report {ε token printed : Type} [DecidableEq ε] (mismatch : ε) (print : token → printed) :
    Except ε (Decision token) → Option (Outcome printed)
  | .ok decision => some (.decided (decision.map print))
  | .error e => if e = mismatch then some .identityMismatch else none

def Outcome.map {token printed : Type} (print : token → printed) : Outcome token → Outcome printed
  | .identityMismatch => .identityMismatch
  | .decided decision => .decided (decision.map print)

end OresLocks.Fencing
