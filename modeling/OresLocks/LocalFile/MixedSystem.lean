import OresLocks.LocalFile.Invariant
import OresLocks.LocalFile.ReleaseProtocol

/-!
# Runtimes side by side on one lock path

A runtime is given by its acquisition and its release, both programs of a holder. Calls
of any mix of runtimes interleave on one path, one filesystem step at a time. A step
happens or fails without effect, and a process that crashes never moves again.
-/

namespace OresLocks.LocalFile

set_option autoImplicit false

open Shared.Programs JsString

/-- The value of an acquisition that did not throw. -/
def returned {ε α : Type} : Except ε (Option α) → Option α
  | .ok result => result
  | .error _ => none

structure LockRuntime where
  Owner : Type
  Lock : Type
  text : Owner → JsString
  owner : Lock → Owner
  /-- A release of the handle would still look for its marker. -/
  Held : Lock → Prop
  tryAcquire : Owner → FsProg (Option Lock)
  release : Lock → FsProg Lock
  acquires : ∀ o, Follows (holderProtocol (text o))
    (fun stage result => ∀ lock, result = some lock →
      owner lock = o ∧ ∃ file, stage = published (text o) file) .outside (tryAcquire o)
  releases : ∀ lock stage, Unspent (text (owner lock)) stage (Held lock) →
    Follows (holderProtocol (text (owner lock)))
      (fun stage' result => owner result = owner lock ∧
        Unspent (text (owner lock)) stage' (Held result)) stage (release lock)

def typescript (win32 : Bool) : LockRuntime where
  Owner := JsString
  Lock := LocalFileLock
  text owner := owner
  owner lock := lock.owner
  Held := Ts.Held
  tryAcquire owner := do
    let result ← (tryAcquireLocalFileLock win32 owner).run
    pure (returned result)
  release := Ts.release win32
  acquires owner := by
    apply Follows.bind
    apply Follows.mono (holder_tryAcquireLocalFileLock win32 owner)
    intro stage result hresult lock hlock
    cases result with
    | error error => cases hlock
    | ok found =>
      change found = some lock at hlock
      subst hlock
      exact ⟨hresult.1, hresult.2.2⟩
  releases := Ts.holder_release win32

def go (windows : Bool) : LockRuntime where
  Owner := Bytes
  Lock := Go.LocalFileLock
  text := Go.text
  owner lock := lock.owner
  Held := Go.LocalFileLock.Held
  tryAcquire owner := do
    let result ← (Go.tryAcquireLocalFileLock windows owner).run
    pure (returned result)
  release lock := do
    let (lock, _) ← Go.release windows lock
    pure lock
  acquires owner := by
    apply Follows.bind
    apply Follows.mono (Go.holder_tryAcquireLocalFileLock windows owner)
    intro stage result hresult lock hlock
    cases result with
    | error error => cases hlock
    | ok found =>
      obtain ⟨rfl, hpublished⟩ := hresult lock hlock
      exact ⟨rfl, hpublished⟩
  releases lock stage h := by
    apply Follows.bind
    apply Follows.mono (Go.holder_release windows lock stage h)
    intro stage' result hresult
    exact hresult

def rust (windows : Bool) : LockRuntime where
  Owner := String
  Lock := Rust.LocalFileLock
  text := Rust.text
  owner lock := lock.owner
  Held := Rust.LocalFileLock.Held
  tryAcquire owner := do
    let result ← (Rust.tryAcquire windows owner).run
    pure (returned result)
  release lock := do
    let (lock, _) ← Rust.releaseInner windows lock
    pure lock
  acquires owner := by
    apply Follows.bind
    apply Follows.mono (Rust.holder_tryAcquire windows owner)
    intro stage result hresult lock hlock
    cases result with
    | error error => cases hlock
    | ok found =>
      obtain ⟨rfl, hpublished⟩ := hresult lock hlock
      exact ⟨rfl, hpublished⟩
  releases lock stage h := by
    apply Follows.bind
    apply Follows.mono (Rust.holder_releaseInner windows lock stage h)
    intro stage' result hresult
    exact hresult

inductive Language where
  | typescript
  | go
  | rust
  deriving DecidableEq

def runtimes (windows : Bool) : Language → LockRuntime
  | .typescript => typescript windows
  | .go => go windows
  | .rust => rust windows

section Hosts

variable {κ : Type} (R : κ → LockRuntime)

/-- One call of one runtime, and what became of it. -/
inductive Party where
  | idle
  | acquiring (kind : κ) (owner : (R kind).Owner) (program : FsProg (Option (R kind).Lock))
  | refused (kind : κ) (owner : (R kind).Owner)
  | holding (kind : κ) (lock : (R kind).Lock)
  | releasing (kind : κ) (lock : (R kind).Lock) (program : FsProg (R kind).Lock)

structure Host where
  fs : Fs
  parties : Call → Party R
  crashed : Nat → Bool

inductive HostAction where
  | acquire (call : Call) (kind : κ) (owner : (R kind).Owner)
  | release (call : Call)
  | answer (call : Call) (outcome : Outcome)
  | crash (process : Nat)

variable {R}

namespace Party

def settleAcquire (kind : κ) (owner : (R kind).Owner) :
    FsProg (Option (R kind).Lock) → Party R
  | .done (some lock) => .holding kind lock
  | .done none => .refused kind owner
  | .call op next => .acquiring kind owner (.call op next)

def settleRelease (kind : κ) (lock : (R kind).Lock) : FsProg (R kind).Lock → Party R
  | .done lock => .holding kind lock
  | .call op next => .releasing kind lock (.call op next)

def advance (run : (op : FsOp) → FsAnswer op × Fs) : Party R → Option (Party R × Fs)
  | .acquiring kind owner (.call op next) =>
    some (settleAcquire kind owner (next (run op).1), (run op).2)
  | .releasing kind lock (.call op next) =>
    some (settleRelease kind lock (next (run op).1), (run op).2)
  | _ => none

/-- The text of a returned handle's owner. -/
def heldText : Party R → Option JsString
  | .holding kind lock => some ((R kind).text ((R kind).owner lock))
  | .releasing kind lock _ => some ((R kind).text ((R kind).owner lock))
  | _ => none

end Party

namespace Host

def setParty (s : Host R) (call : Call) (party : Party R) : Host R :=
  { s with parties := fun c => if c = call then party else s.parties c }

def step (s : Host R) : HostAction R → Option (Host R)
  | .acquire call kind owner =>
    if s.crashed call.process then none
    else
      match s.parties call with
      | .idle => some (s.setParty call (.settleAcquire kind owner ((R kind).tryAcquire owner)))
      | _ => none
  | .release call =>
    if s.crashed call.process then none
    else
      match s.parties call with
      | .holding kind lock =>
        some (s.setParty call (.settleRelease kind lock ((R kind).release lock)))
      | _ => none
  | .answer call outcome =>
    if s.crashed call.process then none
    else
      match (s.parties call).advance (outcome.run s.fs call) with
      | some (party, fs) => some { s.setParty call party with fs }
      | none => none
  | .crash process => some { s with
      crashed := fun p => if p = process then true else s.crashed p }

def Step (s : Host R) (action : HostAction R) (t : Host R) : Prop := s.step action = some t

/-- Before any call: whatever stands at the path and its parent. -/
structure Initial (s : Host R) : Prop where
  parties : ∀ call, s.parties call = .idle
  trace : s.fs.trace = []
  foreign : ∀ node, s.fs.lock = some node → node.creator = none ∧ node.tenant = none

/-- A returned handle, of any runtime, whose own release has not removed its marker. -/
def Unreleased (s : Host R) (call : Call) : Prop :=
  (s.parties call).heldText ≠ none ∧ ¬ OwnerRemoved s.fs call

end Host

end Hosts

end OresLocks.LocalFile
