import Mathlib.Logic.Function.Basic
import OresLocks.LocalFile.Reading
import OresLocks.Shared.Runs

/-!
# Overlapping releases of one handle

Every `release` of one handle of the TypeScript package, with its promises. A promise
has the number of the call that made it. An answer is whatever the filesystem says to
the operation that the promise waits for, so every failure and every other process
are among the answers. A call that waits resumes some time after its promise settled.
-/

namespace OresLocks.LocalFile.Releasing

set_option autoImplicit false

open Shared.Programs Shared.Runs

/-- The promise of a `#release_once`. -/
inductive Promise where
  | running (rest : FsProg (ReleaseState × Except Failure Unit))
  | settled (outcome : Except Failure Unit)

/-- A `release`: the one that made the promise, one that returned the promise of
another, or one that has settled. -/
inductive CallState where
  | initiated
  | joined (promise : Nat)
  | settled (outcome : Except (Option Failure) Unit)

/-- The error of an answer. -/
def failureOf {op : FsOp} : FsAnswer op → Option FsError
  | .ok _ => none
  | .error error => some error

/-- A filesystem operation that was answered, with its error. -/
structure Attempt where
  promise : Nat
  op : FsOp
  failure : Option FsError
  deriving DecidableEq

/-- The handle, its promises, its calls and the operations so far, oldest first. -/
structure State where
  owner : JsString
  ownerIdentity : Identity
  releaseState : ReleaseState
  partialReleaseError : Option Failure
  releasePromise : Option Nat
  promises : Nat → Option Promise
  calls : Nat → Option CallState
  log : List Attempt

/-- What the filesystem says to the operation that is waiting. -/
abbrev Answering : Type := (op : FsOp) → FsAnswer op

inductive Event where
  | called (call : Nat)
  | answered (promise : Nat) (answer : Answering)
  | resumed (call : Nat)

def opened (owner : JsString) (ownerIdentity : Identity) : State :=
  ⟨owner, ownerIdentity, .held, none, none, fun _ => none, fun _ => none, []⟩

namespace State

variable (s : State)

/-- What `#release_once` reads of the handle. -/
def lock : LocalFileLock := ⟨s.owner, s.ownerIdentity, s.releaseState, s.partialReleaseError, none⟩

def setCall (call : Nat) (state : CallState) : State :=
  { s with calls := Function.update s.calls call (some state) }

def setPromise (promise : Nat) (state : Promise) : State :=
  { s with promises := Function.update s.promises promise (some state) }

/-- The assignments at the end of `#release_once`. -/
def enter (releaseState : ReleaseState) (outcome : Except Failure Unit) : State :=
  match releaseState with
  | .held => s
  | .released => { s with releaseState := .released }
  | .partially => { s with
      releaseState := .partially
      partialReleaseError :=
        match outcome with
        | .error error => some error
        | .ok () => none }

def record (promise : Nat) (op : FsOp) (answer : FsAnswer op) : State :=
  { s with log := s.log ++ [⟨promise, op, failureOf answer⟩] }

/-- `#release_once` up to its next operation, or to its end. -/
def advance (promise : Nat) (rest : FsProg (ReleaseState × Except Failure Unit)) : State :=
  match rest with
  | .call op next => s.setPromise promise (.running (.call op next))
  | .done (releaseState, outcome) =>
    (s.enter releaseState outcome).setPromise promise (.settled outcome)

/-- `release` up to its first `await`. -/
def release (win32 : Bool) (call : Nat) : State :=
  match s.releaseState with
  | .released => s.setCall call (.settled (.ok ()))
  | .partially => s.setCall call (.settled (.error s.partialReleaseError))
  | .held =>
    match s.releasePromise with
    | some promise => s.setCall call (.joined promise)
    | none =>
      { s.advance call (releaseOnce win32 s.lock) with
        releasePromise := some call }.setCall call .initiated

/-- The call settles as its promise did. -/
def settle (call : Nat) (outcome : Except Failure Unit) : State :=
  s.setCall call (.settled (outcome.mapError some))

/-- The `finally` of `release`. -/
def finish (call : Nat) (outcome : Except Failure Unit) : State :=
  if s.releasePromise = some call ∧ s.releaseState = .held then
    { s.settle call outcome with releasePromise := none }
  else s.settle call outcome

def step (win32 : Bool) : Event → Option State
  | .called call =>
    match s.calls call with
    | none => some (s.release win32 call)
    | some _ => none
  | .answered promise answer =>
    match s.promises promise with
    | some (.running (.call op next)) =>
      some ((s.record promise op (answer op)).advance promise (next (answer op)))
    | _ => none
  | .resumed call =>
    match s.calls call with
    | some .initiated =>
      match s.promises call with
      | some (.settled outcome) => some (s.finish call outcome)
      | _ => none
    | some (.joined promise) =>
      match s.promises promise with
      | some (.settled outcome) => some (s.settle call outcome)
      | _ => none
    | _ => none

section Fields

variable {s} {call promise other : Nat} {state : CallState} {settled : Promise}

@[simp] theorem setCall_self : (s.setCall call state).calls call = some state :=
  Function.update_self ..

theorem setCall_of_ne (h : other ≠ call) : (s.setCall call state).calls other = s.calls other :=
  Function.update_of_ne h ..

@[simp] theorem setCall_promises : (s.setCall call state).promises = s.promises := rfl

@[simp] theorem setCall_releasePromise :
    (s.setCall call state).releasePromise = s.releasePromise := rfl

@[simp] theorem setCall_releaseState : (s.setCall call state).releaseState = s.releaseState := rfl

@[simp] theorem setCall_log : (s.setCall call state).log = s.log := rfl

@[simp] theorem setPromise_self : (s.setPromise promise settled).promises promise = some settled :=
  Function.update_self ..

theorem setPromise_of_ne (h : other ≠ promise) :
    (s.setPromise promise settled).promises other = s.promises other :=
  Function.update_of_ne h ..

@[simp] theorem setPromise_calls : (s.setPromise promise settled).calls = s.calls := rfl

@[simp] theorem setPromise_releasePromise :
    (s.setPromise promise settled).releasePromise = s.releasePromise := rfl

@[simp] theorem setPromise_releaseState :
    (s.setPromise promise settled).releaseState = s.releaseState := rfl

@[simp] theorem setPromise_log : (s.setPromise promise settled).log = s.log := rfl

variable {releaseState : ReleaseState} {outcome : Except Failure Unit}

@[simp] theorem enter_promises : (s.enter releaseState outcome).promises = s.promises := by
  cases releaseState <;> rfl

@[simp] theorem enter_calls : (s.enter releaseState outcome).calls = s.calls := by
  cases releaseState <;> rfl

@[simp] theorem enter_releasePromise :
    (s.enter releaseState outcome).releasePromise = s.releasePromise := by
  cases releaseState <;> rfl

@[simp] theorem enter_log : (s.enter releaseState outcome).log = s.log := by
  cases releaseState <;> rfl

end Fields

/-- No filesystem operation is waiting for an answer. -/
def Idle : Prop := ∀ promise rest, s.promises promise ≠ some (.running rest)

end State

abbrev Runs (win32 : Bool) : State → List Event → State → Prop :=
  Exec fun s e t => s.step win32 e = some t

end OresLocks.LocalFile.Releasing
