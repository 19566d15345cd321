import OresLocks.LocalFile.MixedExclusion
import OresLocks.LocalFile.NativeRecoverer
import OresLocks.LocalFile.RecoverSteps

/-!
# Recoveries beside the acquisitions and releases of three runtimes

A runtime comes with its recovery, a program of a recoverer. Calls of any mix of runtimes
interleave on one path, one filesystem step at a time; a step happens or fails without
effect, and a process that crashes never moves again. `used` and `named` record the owners
that were acquired under and the owners that recoveries named.
-/

namespace OresLocks.LocalFile

set_option autoImplicit false

open Shared.Programs JsString

structure RecoveryRuntime extends LockRuntime where
  recover : Owner → Bool → FsProg (Option Bool)
  /-- The content that a recovery takes for its expected owner. -/
  accepts : Owner → Bytes → Prop
  /-- The decoder drops a leading U+FEFF. -/
  dropsMark : Bool
  recovers : ∀ o confirmed,
    Follows (recoverProtocol (accepts o)) (fun _ _ => True) .looking (recover o confirmed)
  reads : ∀ o owner, validateLocalFileLockOwner owner = .ok () → accepts o (encode owner) →
    (dropsMark = true → Unmarked owner) → owner = text o

/-- A recovery that may throw, as a program. -/
theorem follows_toOption {accepts : Bytes → Prop} {ε : Type} {x : ExceptT ε FsProg Bool}
    (h : Triple (recoverProtocol accepts) .looking x (fun _ _ => True) (fun _ _ => True)) :
    Follows (recoverProtocol accepts) (fun _ _ => True) .looking (do
      let result ← x.run
      pure result.toOption) := by
  apply Follows.bind
  apply Follows.mono h
  intro _ _ _
  trivial

def typescriptRecovery (win32 : Bool) : RecoveryRuntime where
  toLockRuntime := typescript win32
  recover expectedOwner confirmedInactive := do
    let result ← (recoverLocalFileLock win32 expectedOwner confirmedInactive).run
    pure result.toOption
  accepts := Decodes decodeOwner
  dropsMark := true
  recovers expectedOwner confirmedInactive :=
    follows_toOption (recover_recoverLocalFileLock win32 confirmedInactive expectedOwner)
  reads _ _ hvalid haccepts hunmarked :=
    Option.some.inj ((valid_decodeOwner hvalid (hunmarked rfl)).symm.trans haccepts)

def goRecovery (windows : Bool) (path : String) : RecoveryRuntime where
  toLockRuntime := go windows
  recover expectedOwner confirmedInactive := do
    let result ← (Go.recoverLocalFileLock windows path expectedOwner confirmedInactive).run
    pure result.toOption
  accepts expectedOwner content := content = expectedOwner
  dropsMark := false
  recovers expectedOwner confirmedInactive :=
    follows_toOption (Go.recover_recoverLocalFileLock windows path expectedOwner confirmedInactive)
  reads expectedOwner owner hvalid haccepts _ := by
    subst haccepts
    have hread := valid_fromUtf8 hvalid
    unfold Rust.fromUtf8 at hread
    obtain ⟨chars, hchars, howner⟩ := Option.map_eq_some_iff.mp hread
    change owner = ((Shared.Utf8.decode (encode owner)).getD []).flatMap utf16
    rw [hchars, Option.getD_some, howner]

def rustRecovery (windows : Bool) : RecoveryRuntime where
  toLockRuntime := rust windows
  recover expectedOwner confirmedInactive := do
    let result ← (Rust.recoverLocalFileLock windows expectedOwner confirmedInactive).run
    pure result.toOption
  accepts expectedOwner := Decodes Rust.fromUtf8 (Rust.text expectedOwner)
  dropsMark := false
  recovers expectedOwner confirmedInactive :=
    follows_toOption (Rust.recover_recoverLocalFileLock windows confirmedInactive expectedOwner)
  reads _ _ hvalid haccepts _ :=
    Option.some.inj ((valid_fromUtf8 hvalid).symm.trans haccepts)

/-- `path` is the lock path as the Go package prints it. -/
def recoveryRuntimes (windows : Bool) (path : String) : Language → RecoveryRuntime
  | .typescript => typescriptRecovery windows
  | .go => goRecovery windows path
  | .rust => rustRecovery windows

section Fleets

variable {κ : Type} (R : κ → RecoveryRuntime)

/-- One call: an acquisition with its releases, or a recovery. -/
inductive Member where
  | locking (party : Party fun kind => (R kind).toLockRuntime)
  | recovering (kind : κ) (expectedOwner : (R kind).Owner) (program : FsProg (Option Bool))
  | recovered (kind : κ) (expectedOwner : (R kind).Owner)

structure Fleet where
  fs : Fs
  members : Call → Member R
  crashed : Nat → Bool
  used : List JsString
  named : List JsString

inductive FleetAction where
  | acquire (call : Call) (kind : κ) (owner : (R kind).Owner)
  | release (call : Call)
  | recover (call : Call) (kind : κ) (expectedOwner : (R kind).Owner) (confirmedInactive : Bool)
  | answer (call : Call) (outcome : Outcome)
  | crash (process : Nat)

variable {R}

namespace Member

def settleRecover (kind : κ) (expectedOwner : (R kind).Owner) : FsProg (Option Bool) → Member R
  | .done _ => .recovered kind expectedOwner
  | .call op next => .recovering kind expectedOwner (.call op next)

def advance (run : (op : FsOp) → FsAnswer op × Fs) : Member R → Option (Member R × Fs)
  | .locking party =>
    match party.advance run with
    | some (party, fs) => some (.locking party, fs)
    | none => none
  | .recovering kind expectedOwner (.call op next) =>
    some (settleRecover kind expectedOwner (next (run op).1), (run op).2)
  | _ => none

/-- The text of the owner under which a call acquires. -/
def owner : Member R → Option JsString
  | .locking (.acquiring kind owner _) => some ((R kind).text owner)
  | .locking (.refused kind owner) => some ((R kind).text owner)
  | .locking (.holding kind lock) => some ((R kind).text ((R kind).owner lock))
  | .locking (.releasing kind lock _) => some ((R kind).text ((R kind).owner lock))
  | _ => none

/-- The text of the owner that a call recovers from. -/
def expectedOwner : Member R → Option JsString
  | .recovering kind expected _ => some ((R kind).text expected)
  | .recovered kind expected => some ((R kind).text expected)
  | _ => none

/-- The text of a returned handle's owner. -/
def heldText : Member R → Option JsString
  | .locking party => party.heldText
  | _ => none

/-- The runtime of a recovery whose next step is the claiming rename. -/
def claiming : Member R → Option κ
  | .recovering kind _ (.call (.rename _ _) _) => some kind
  | _ => none

end Member

namespace Fleet

def setMember (s : Fleet R) (call : Call) (member : Member R) : Fleet R :=
  { s with members := fun c => if c = call then member else s.members c }

def owners (s : Fleet R) (call : Call) : Option JsString := (s.members call).owner

def step (s : Fleet R) : FleetAction R → Option (Fleet R)
  | .acquire call kind owner =>
    if s.crashed call.process then none
    else
      match s.members call with
      | .locking .idle => some { s.setMember call
          (.locking (.settleAcquire kind owner ((R kind).tryAcquire owner))) with
          used := (R kind).text owner :: s.used }
      | _ => none
  | .release call =>
    if s.crashed call.process then none
    else
      match s.members call with
      | .locking (.holding kind lock) =>
        some (s.setMember call (.locking (.settleRelease kind lock ((R kind).release lock))))
      | _ => none
  | .recover call kind expectedOwner confirmedInactive =>
    if s.crashed call.process then none
    else
      match s.members call with
      | .locking .idle => some { s.setMember call (.settleRecover kind expectedOwner
          ((R kind).recover expectedOwner confirmedInactive)) with
          named := (R kind).text expectedOwner :: s.named }
      | _ => none
  | .answer call outcome =>
    if s.crashed call.process then none
    else
      match (s.members call).advance (outcome.run s.fs call) with
      | some (member, fs) => some { s.setMember call member with fs }
      | none => none
  | .crash process => some { s with
      crashed := fun p => if p = process then true else s.crashed p }

def Step (s : Fleet R) (action : FleetAction R) (t : Fleet R) : Prop := s.step action = some t

/-- Before any call: nothing at the lock path, whatever stands at its parent. -/
structure Initial (s : Fleet R) : Prop where
  members : ∀ call, s.members call = .locking .idle
  used : s.used = []
  named : s.named = []
  trace : s.fs.trace = []
  absent : s.fs.lock = none

/-- A returned handle whose own release has not removed its marker. -/
def Unreleased (s : Fleet R) (call : Call) : Prop :=
  (s.members call).heldText ≠ none ∧ ¬ OwnerRemoved s.fs call

/-- A recovery that names the owner of this call has claimed its marker. -/
def RecoveredByName (s : Fleet R) (call : Call) : Prop :=
  ∃ e ∈ s.fs.trace, e.removal = .renamed .owner .recovering ∧ e.creator = some call ∧
    (s.members e.call).expectedOwner = s.owners call

/-- A successful acquisition that was neither released nor recovered. -/
def Holds (s : Fleet R) (call : Call) : Prop := s.Unreleased call ∧ ¬ s.RecoveredByName call

end Fleet

end Fleets

end OresLocks.LocalFile
