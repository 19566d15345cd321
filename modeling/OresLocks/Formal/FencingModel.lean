import OresLocks.Fence
import OresLocks.Shared.Runs

/-!
# The repository's model of fenced writes with crashes and retries

`formal/fencing-model` explores this state machine for two holders, three token
generations, two identities and one crash per holder. Here the holders, the slots of
the tokens and the crash budgets are of any number, and a request is any valid one of
the protected pair. An assertion that fails and an `unwrap` of an error are `none`.
-/

namespace OresLocks.Formal.Fencing

set_option autoImplicit false

open Fence

/-- A valid request for one pair; its identity is the operation with the payload. -/
structure Request (tenantScope : String) (resourceKey : LockKey) where
  write : FencedWriteRequest
  valid : write.validate = .ok ()
  tenant : write.tenantScope = tenantScope
  resource : write.resourceKey = resourceKey

variable {tenantScope : String} {resourceKey : LockKey}

def Request.token (r : Request tenantScope resourceKey) : Nat := r.write.fencingToken.value

/-- The two requests have one token and one identity. -/
def Request.Same (r r' : Request tenantScope resourceKey) : Prop :=
  r.token = r'.token ∧ r.write.operationId = r'.write.operationId ∧
    r.write.payloadSha256 = r'.write.payloadSha256

instance (r r' : Request tenantScope resourceKey) : Decidable (r.Same r') :=
  inferInstanceAs (Decidable (_ ∧ _ ∧ _))

/-- A decision in a phase is the one the holder was last given. -/
inductive Phase where
  | start
  | classified (decision : FenceDecisionKind)
  | afterAtomic (decision : FenceDecisionKind)
  | done
  deriving DecidableEq

structure Actor (tenantScope : String) (resourceKey : LockKey) where
  request : Request tenantScope resourceKey
  phase : Phase
  crashesLeft : Nat

/-- The watermark is given by the request it was written for. -/
structure State (tenantScope : String) (resourceKey : LockKey) where
  watermark : Option (Request tenantScope resourceKey)
  appliedByToken : List Nat
  actors : List (Actor tenantScope resourceKey)

def classify (watermark : Option (Request tenantScope resourceKey))
    (request : Request tenantScope resourceKey) : Option FenceDecisionKind :=
  match evaluateFence (watermark.map fun mark => .fromRequest mark.write) request.write with
  | .ok decision => some decision.kind
  | .error _ => none

def assertState (s : State tenantScope resourceKey) : Bool :=
  s.appliedByToken.all (fun count => decide (count ≤ 1)) &&
    match s.watermark with
    | some mark =>
      (s.appliedByToken.drop (mark.token + 1)).all (fun count => count == 0) &&
        s.appliedByToken[mark.token]? == some 1
    | none => s.appliedByToken.all (fun count => count == 0)

def assertTransition (before after : State tenantScope resourceKey) : Bool :=
  (match before.watermark, after.watermark with
    | some old, some new => decide (old.token ≤ new.token)
    | _, _ => true) &&
  (before.appliedByToken.zip after.appliedByToken).all (fun counts =>
    decide (counts.1 ≤ counts.2) && decide (counts.2 ≤ 1)) &&
  assertState after

def applyAdvanced (s : State tenantScope resourceKey) (request : Request tenantScope resourceKey) :
    Option (State tenantScope resourceKey) := do
  guard (s.watermark.all fun current => decide (current.token < request.token))
  let slot ← s.appliedByToken[request.token]?
  guard (slot = 0)
  return { s with
    appliedByToken := s.appliedByToken.set request.token 1
    watermark := some request }

def State.setPhase (s : State tenantScope resourceKey) (index : Nat) (phase : Phase) :
    State tenantScope resourceKey :=
  { s with actors := s.actors.modify index fun actor => { actor with phase } }

/-- The holder starts again with one crash less to come. -/
def State.crash (s : State tenantScope resourceKey) (index : Nat) :
    State tenantScope resourceKey :=
  { s with actors := s.actors.modify index fun actor =>
      { actor with phase := .start, crashesLeft := actor.crashesLeft - 1 } }

/-- The atomic step classifies again; the decision the holder has cached is not used. -/
def atomic (s : State tenantScope resourceKey) (index : Nat)
    (request : Request tenantScope resourceKey) : Option (State tenantScope resourceKey) := do
  let decision ← classify s.watermark request
  if decision = .advanced then
    let applied ← applyAdvanced s request
    return applied.setPhase index (.afterAtomic decision)
  else return s.setPhase index (.afterAtomic decision)

/-- The successors before they are checked, in the order of the source. -/
def candidates (s : State tenantScope resourceKey) (index : Nat) :
    Option (List (State tenantScope resourceKey)) := do
  let actor ← s.actors[index]?
  let crashed := if 0 < actor.crashesLeft then [s.crash index] else []
  match actor.phase with
  | .start =>
    let decision ← classify s.watermark actor.request
    return [s.setPhase index (.classified decision)]
  | .classified _ =>
    let after ← atomic s index actor.request
    return crashed ++ [after]
  | .afterAtomic _ => return s.setPhase index .done :: crashed
  | .done => return []

def successors (s : State tenantScope resourceKey) (index : Nat) :
    Option (List (State tenantScope resourceKey)) := do
  let next ← candidates s index
  guard (next.all (assertTransition s))
  return next

/-- The phase of one holder. -/
def State.phase? (s : State tenantScope resourceKey) (index : Nat) : Option Phase :=
  (s.actors[index]?).map Actor.phase

/-- The turn of one holder in a round: its first successor that is not a crash. -/
def turn (s : State tenantScope resourceKey) (index : Nat) :
    Option (State tenantScope resourceKey) :=
  if s.phase? index = some .done then some s
  else do
    let next ← successors s index
    next.find? fun candidate => decide (candidate.phase? index ≠ some .start)

def round (s : State tenantScope resourceKey) : Option (State tenantScope resourceKey) :=
  (List.range s.actors.length).foldlM turn s

def State.allDone (s : State tenantScope resourceKey) : Bool :=
  s.actors.all fun actor => actor.phase == .done

def completeIn : Nat → State tenantScope resourceKey → Option (State tenantScope resourceKey)
  | 0, _ => none
  | rounds + 1, s => if s.allDone then some s else do completeIn rounds (← round s)

def completeWithoutMoreCrashes (s : State tenantScope resourceKey) :
    Option (State tenantScope resourceKey) :=
  completeIn 8 { s with actors := s.actors.map fun actor => { actor with crashesLeft := 0 } }

/-- What `explore` starts from: every holder at its start, and one write applied for
the watermark, if there is one. -/
def initialState (slots : Nat) (initial : Option (Request tenantScope resourceKey))
    (holders : List (Request tenantScope resourceKey × Nat)) : State tenantScope resourceKey where
  watermark := initial
  appliedByToken :=
    match initial with
    | some mark => (List.replicate slots 0).set mark.token 1
    | none => List.replicate slots 0
  actors := holders.map fun holder => ⟨holder.1, .start, holder.2⟩

/-- The write applied between two states, if any. -/
def State.written (s s' : State tenantScope resourceKey) :
    Option (Request tenantScope resourceKey) :=
  if s'.appliedByToken = s.appliedByToken then none else s'.watermark

/-- One step of a holder; the label is the write that it applies, if any. -/
def Step (s : State tenantScope resourceKey) (write : Option (Request tenantScope resourceKey))
    (s' : State tenantScope resourceKey) : Prop :=
  ∃ index next, successors s index = some next ∧ s' ∈ next ∧ write = s.written s'

end OresLocks.Formal.Fencing
