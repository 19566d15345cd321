import OresLocks.Redlock.Rust
import OresLocks.Redlock.Ts

/-!
# Every acquisition accounts for its quorum handle

In every state a call can reach, its await determines the trace of what it did.
-/

namespace OresLocks.Ts.Redlock.Acquire

set_option autoImplicit false

open Shared.Runs Ledger

def Alive (handle : RedlockHandle) (now : JsNumber) : Prop :=
  validExpiration handle.expiration now = true

def Positive (token : Int) : Prop := 0 < token

abbrev Traced (stage : Stage RedlockHandle JsNumber Int JsString) (log : List Event) : Prop :=
  Trace Alive Positive stage log

/-- The trace and the map that belong to each await. -/
def Explained (held : Held) (s : State) : Prop :=
  match s.pc with
  | .acquiring => Traced .free s.log ∧ s.held = held
  | .sleeping => Traced .free s.log ∧ s.held = held
  | .minting handle => Traced (.minting handle) s.log ∧ s.held = held
  | .cleaning _ => (∃ handle, Traced (.released handle) s.log) ∧ s.held = held
  | .settled (.error _) =>
    (Traced .free s.log ∨ ∃ handle, Traced (.released handle) s.log) ∧ s.held = held
  | .settled (.ok grant) =>
    ∃ handle now, Traced (.stored handle grant.fencingToken now (grantId grant)) s.log ∧
      s.held = set held (grantId grant) ⟨handle, grant⟩ ∧
      grant.leaseExpiresMs = some handle.expiration

/-- What one `acquire` has done by the time it is in `s`. -/
structure Accounted (held : Held) (s : State) : Prop where
  orderly : Orderly Alive s.log
  failed : ∀ error, s.pc = .settled (.error error) → GivenBack s.log ∧ s.held = held
  returned : ∀ grant, s.pc = .settled (.ok grant) →
    ∃ handle, Kept Alive Positive s.log handle grant.fencingToken (grantId grant) ∧
      s.held (grantId grant) = some ⟨handle, grant⟩ ∧
      (∀ id, id ≠ grantId grant → s.held id = held id) ∧
      grant.leaseExpiresMs = some handle.expiration

section Steps

variable {inputs : Inputs} {held : Held} {s : State}

theorem alive_of_not {handle : RedlockHandle} {now : JsNumber}
    (h : ¬ (!validExpiration handle.expiration now) = true) : Alive handle now := by
  rwa [Bool.not_eq_true', Bool.not_eq_false] at h

theorem explained_fail {error : Thrown} (htrace : Traced .free s.log) (hheld : s.held = held) :
    Explained held (s.fail error) := ⟨.inl htrace, hheld⟩

theorem explained_start : Explained held (start inputs held) := by
  unfold start
  dsimp only
  split
  · exact explained_fail .free rfl
  split
  · exact explained_fail .free rfl
  split
  · exact explained_fail .free rfl
  · exact ⟨.free, rfl⟩

theorem explained_refused {cause : Thrown} {kind : RedlockAcquireErrorKind} {waited : JsNumber}
    (htrace : Traced .free s.log) (hheld : s.held = held) :
    Explained held (refused inputs s cause kind waited) := by
  unfold refused
  split
  · exact explained_fail htrace hheld
  split
  · exact explained_fail htrace hheld
  split
  · exact explained_fail htrace hheld
  · exact ⟨htrace, hheld⟩

theorem explained_acquired {handle : RedlockHandle} {now : JsNumber}
    (htrace : Traced .free s.log) (hheld : s.held = held) :
    Explained held (acquired inputs s handle now) := by
  have hlog := htrace.free_inv
  unfold acquired
  dsimp only
  split
  · refine ⟨⟨handle, ?_⟩, hheld⟩
    change Traced _ (((s.log ++ [_]) ++ [_]) ++ [_])
    rw [hlog]
    exact .lapsed handle now
  · rename_i halive
    refine ⟨?_, hheld⟩
    change Traced _ (((s.log ++ [_]) ++ [_]) ++ [_])
    rw [hlog]
    exact .minting (alive_of_not halive)

theorem explained_minted {handle : RedlockHandle} {answer : Except Thrown Int} {now : JsNumber}
    (htrace : Traced (.minting handle) s.log) (hheld : s.held = held) :
    Explained held (minted inputs s handle answer now) := by
  unfold minted
  cases answer with
  | error cause => exact ⟨⟨handle, .unminted htrace⟩, hheld⟩
  | ok token =>
    dsimp only
    split
    · refine ⟨⟨handle, ?_⟩, hheld⟩
      change Traced _ ((s.log ++ [_]) ++ [_])
      rw [List.append_assoc]
      exact .rejected token htrace
    rename_i htoken
    split
    · refine ⟨⟨handle, ?_⟩, hheld⟩
      change Traced _ (((s.log ++ [_]) ++ [_]) ++ [_])
      rw [List.append_assoc, List.append_assoc]
      exact .late token now htrace
    · rename_i halive
      refine ⟨handle, now, ?_, congrArg (fun m => set m _ _) hheld, rfl⟩
      change Traced _ (((s.log ++ [_]) ++ [_]) ++ [_])
      rw [List.append_assoc, List.append_assoc]
      exact .stored _ htrace (Int.not_le.mp htoken) (alive_of_not halive)

theorem explained_step {input : Input} {t : State} (h : Explained held s)
    (hs : step inputs s input = some t) : Explained held t := by
  unfold step at hs
  unfold Explained at h
  split at hs
  all_goals (try cases hs)
  all_goals (rename_i hpc; rw [hpc] at h)
  · exact explained_refused h.1 h.2
  · exact explained_fail h.1 h.2
  · exact explained_acquired h.1 h.2
  · exact ⟨h.1, h.2⟩
  · exact explained_fail h.1 h.2
  · exact explained_minted h.1 h.2
  · exact ⟨.inr h.1, h.2⟩

theorem accounted_of_explained (h : Explained held s) : Accounted held s := by
  unfold Explained at h
  cases hpc : s.pc with
  | acquiring =>
    rw [hpc] at h
    exact ⟨h.1.orderly, by simp [hpc], by simp [hpc]⟩
  | sleeping =>
    rw [hpc] at h
    exact ⟨h.1.orderly, by simp [hpc], by simp [hpc]⟩
  | minting handle =>
    rw [hpc] at h
    exact ⟨h.1.orderly, by simp [hpc], by simp [hpc]⟩
  | cleaning error =>
    rw [hpc] at h
    obtain ⟨⟨handle, htrace⟩, hheld⟩ := h
    exact ⟨htrace.orderly, by simp [hpc], by simp [hpc]⟩
  | settled result =>
    rw [hpc] at h
    cases result with
    | error error =>
      obtain ⟨htrace | ⟨handle, htrace⟩, hheld⟩ := h
      · exact ⟨htrace.orderly, fun _ _ => ⟨htrace.givenBack_free, hheld⟩, by simp [hpc]⟩
      · exact ⟨htrace.orderly, fun _ _ => ⟨htrace.givenBack, hheld⟩, by simp [hpc]⟩
    | ok grant =>
      obtain ⟨handle, now, htrace, hheld, hexpires⟩ := h
      refine ⟨htrace.orderly, by simp [hpc], ?_⟩
      intro grant' hgrant
      rw [hpc] at hgrant
      cases hgrant
      rw [hheld]
      exact ⟨handle, htrace.kept, if_pos rfl, fun id hid => if_neg hid, hexpires⟩

end Steps

theorem accounted {inputs : Inputs} {held : Held} {es : List Input} {s : State}
    (h : Exec (fun s e t => step inputs s e = some t) (start inputs held) es s) :
    Accounted held s :=
  accounted_of_explained (h.stateInvariant explained_start (fun hi hs => explained_step hi hs))

end OresLocks.Ts.Redlock.Acquire

namespace OresLocks.Redlock.Acquire

set_option autoImplicit false

open Shared.Runs Ledger

def Alive (handle : RedlockHandle) (now : Nat) : Prop := now < handle.expirationMs

def Positive (token : Nat) : Prop := 0 < token

abbrev Traced (stage : Stage RedlockHandle Nat Nat GrantId) (log : List Event) : Prop :=
  Trace Alive Positive stage log

/-- The trace and the map that belong to each await. -/
def Explained (held : Held) (s : State) : Prop :=
  match s.pc with
  | .acquiring => Traced .free s.log ∧ s.held = held
  | .sleeping => Traced .free s.log ∧ s.held = held
  | .minting handle => Traced (.minting handle) s.log ∧ s.held = held
  | .cleaning _ => (∃ handle, Traced (.released handle) s.log) ∧ s.held = held
  | .settled (.error _) =>
    (Traced .free s.log ∨ ∃ handle, Traced (.released handle) s.log) ∧ s.held = held
  | .settled (.ok grant) =>
    ∃ handle now, Traced (.stored handle grant.fencingToken now (.fromGrant grant)) s.log ∧
      s.held = insert held (.fromGrant grant) handle ∧
      grant.leaseExpiresMs = some handle.expirationMs

/-- What one `acquire` has done by the time it is in `s`. -/
structure Accounted (held : Held) (s : State) : Prop where
  orderly : Orderly Alive s.log
  failed : ∀ error, s.pc = .settled (.error error) → GivenBack s.log ∧ s.held = held
  returned : ∀ grant, s.pc = .settled (.ok grant) →
    ∃ handle, Kept Alive Positive s.log handle grant.fencingToken (.fromGrant grant) ∧
      s.held (.fromGrant grant) = some handle ∧
      (∀ id, id ≠ .fromGrant grant → s.held id = held id) ∧
      grant.leaseExpiresMs = some handle.expirationMs

section Steps

variable {inputs : Inputs} {held : Held} {s : State}

theorem explained_fail {error : LockError} (htrace : Traced .free s.log) (hheld : s.held = held) :
    Explained held (s.fail error) := ⟨.inl htrace, hheld⟩

theorem explained_start : Explained held (start inputs held) := by
  unfold start
  dsimp only
  split
  · exact explained_fail .free rfl
  · exact ⟨.free, rfl⟩

theorem explained_refused {error : RedlockAcquireError} {waited : Duration}
    (htrace : Traced .free s.log) (hheld : s.held = held) :
    Explained held (refused inputs s error waited) := by
  unfold refused
  cases error with
  | transport message => exact explained_fail htrace hheld
  | contention message =>
    dsimp only
    split
    · exact explained_fail htrace hheld
    split
    · exact explained_fail htrace hheld
    · exact ⟨htrace, hheld⟩

theorem explained_acquired {handle : RedlockHandle} {now : Nat}
    (htrace : Traced .free s.log) (hheld : s.held = held) :
    Explained held (acquired inputs s handle now) := by
  have hlog := htrace.free_inv
  unfold acquired
  dsimp only
  split
  · refine ⟨⟨handle, ?_⟩, hheld⟩
    change Traced _ (((s.log ++ [_]) ++ [_]) ++ [_])
    rw [hlog]
    exact .lapsed handle now
  · rename_i halive
    refine ⟨?_, hheld⟩
    change Traced _ (((s.log ++ [_]) ++ [_]) ++ [_])
    rw [hlog]
    exact .minting (Nat.not_le.mp halive)

theorem explained_minted {handle : RedlockHandle} {answer : Except String Nat} {now : Nat}
    (htrace : Traced (.minting handle) s.log) (hheld : s.held = held) :
    Explained held (minted inputs s handle answer now) := by
  unfold minted
  cases answer with
  | error message => exact ⟨⟨handle, .unminted htrace⟩, hheld⟩
  | ok token =>
    dsimp only
    split
    · refine ⟨⟨handle, ?_⟩, hheld⟩
      change Traced _ ((s.log ++ [_]) ++ [_])
      rw [List.append_assoc]
      exact .rejected token htrace
    rename_i htoken
    split
    · refine ⟨⟨handle, ?_⟩, hheld⟩
      change Traced _ (((s.log ++ [_]) ++ [_]) ++ [_])
      rw [List.append_assoc, List.append_assoc]
      exact .late token now htrace
    · rename_i halive
      refine ⟨handle, now, ?_, congrArg (fun m => insert m _ _) hheld, rfl⟩
      change Traced _ (((s.log ++ [_]) ++ [_]) ++ [_])
      rw [List.append_assoc, List.append_assoc]
      exact .stored _ htrace (Nat.pos_of_ne_zero htoken) (Nat.not_le.mp halive)

theorem explained_step {input : Input} {t : State} (h : Explained held s)
    (hs : step inputs s input = some t) : Explained held t := by
  unfold step at hs
  unfold Explained at h
  split at hs
  all_goals (try cases hs)
  all_goals (rename_i hpc; rw [hpc] at h)
  · exact explained_refused h.1 h.2
  · exact explained_acquired h.1 h.2
  · exact ⟨h.1, h.2⟩
  · exact explained_minted h.1 h.2
  · exact ⟨.inr h.1, h.2⟩

theorem accounted_of_explained (h : Explained held s) : Accounted held s := by
  unfold Explained at h
  cases hpc : s.pc with
  | acquiring =>
    rw [hpc] at h
    exact ⟨h.1.orderly, by simp [hpc], by simp [hpc]⟩
  | sleeping =>
    rw [hpc] at h
    exact ⟨h.1.orderly, by simp [hpc], by simp [hpc]⟩
  | minting handle =>
    rw [hpc] at h
    exact ⟨h.1.orderly, by simp [hpc], by simp [hpc]⟩
  | cleaning error =>
    rw [hpc] at h
    obtain ⟨⟨handle, htrace⟩, hheld⟩ := h
    exact ⟨htrace.orderly, by simp [hpc], by simp [hpc]⟩
  | settled result =>
    rw [hpc] at h
    cases result with
    | error error =>
      obtain ⟨htrace | ⟨handle, htrace⟩, hheld⟩ := h
      · exact ⟨htrace.orderly, fun _ _ => ⟨htrace.givenBack_free, hheld⟩, by simp [hpc]⟩
      · exact ⟨htrace.orderly, fun _ _ => ⟨htrace.givenBack, hheld⟩, by simp [hpc]⟩
    | ok grant =>
      obtain ⟨handle, now, htrace, hheld, hexpires⟩ := h
      refine ⟨htrace.orderly, by simp [hpc], ?_⟩
      intro grant' hgrant
      rw [hpc] at hgrant
      cases hgrant
      rw [hheld]
      exact ⟨handle, htrace.kept, if_pos rfl, fun id hid => if_neg hid, hexpires⟩

end Steps

theorem accounted {inputs : Inputs} {held : Held} {es : List Input} {s : State}
    (h : Exec (fun s e t => step inputs s e = some t) (start inputs held) es s) :
    Accounted held s :=
  accounted_of_explained (h.stateInvariant explained_start (fun hi hs => explained_step hi hs))

end OresLocks.Redlock.Acquire

namespace OresLocks.Redlock

set_option autoImplicit false

open Shared.Runs

/-- In every state that one `acquire` of either package can reach: at most one quorum
handle was obtained, at most one token was minted and only for a handle still alive; a
returned grant has its handle recorded and never released, with a positive token and the
handle's expiration, later than the reading that followed the mint; and a failed call has
recorded nothing and issued exactly one release of the handle it obtained, if any. -/
theorem acquisitions_account_for_their_handle :
    (∀ inputs held es s,
      Exec (fun s e t => Ts.Redlock.Acquire.step inputs s e = some t)
        (Ts.Redlock.Acquire.start inputs held) es s → Ts.Redlock.Acquire.Accounted held s) ∧
    (∀ inputs held es s,
      Exec (fun s e t => Acquire.step inputs s e = some t) (Acquire.start inputs held) es s →
        Acquire.Accounted held s) :=
  ⟨fun _ _ _ _ h => Ts.Redlock.Acquire.accounted h, fun _ _ _ _ h => Acquire.accounted h⟩

section Sample

open Ts (js)

def sampleTsInputs : Ts.Redlock.Acquire.Inputs :=
  ⟨js "orders", ⟨.ofInt 1000, .ofInt 500, .ofInt 50, some (js "worker")⟩, js "redlock-1", true⟩

def sampleTsRun : List Ts.Redlock.Acquire.Input :=
  [.refused .undefined (.ok .contention) (.ofInt 3), .sleepElapsed,
    .acquired ⟨0, .ofInt 9000⟩ (.ofInt 8000), .minted (.ok 7) (.ofInt 8500)]

def sampleTsGrant : Ts.Redlock.LeaseGrant :=
  ⟨js "orders", js "worker", 7, some (.ofInt 9000), .ofInt 1000⟩

def sampleTsEnd : Ts.Redlock.Acquire.State :=
  ⟨.settled (.ok sampleTsGrant),
    Ts.Redlock.set (fun _ => none) (Ts.Redlock.grantId sampleTsGrant) ⟨⟨0, .ofInt 9000⟩, sampleTsGrant⟩,
    [.quorumAcquired ⟨0, .ofInt 9000⟩, .clockRead (.ofInt 8000), .mintIssued, .minted 7,
      .clockRead (.ofInt 8500), .stored (Ts.Redlock.grantId sampleTsGrant)]⟩

def sampleKey : LockKey := ⟨"orders", orders_admitted⟩

def sampleInputs : Acquire.Inputs := ⟨sampleKey, ⟨10 ^ 9, 10 ^ 9, 10 ^ 7, none⟩, "redlock-1", true⟩

/-- The handle lapses while its token is minted. -/
def sampleRun : List Acquire.Input :=
  [.refused (.contention "busy") 5, .sleepElapsed, .acquired ⟨0, 9000⟩ 8000, .minted (.ok 7) 9000,
    .cleaned (.error "unreachable")]

def sampleEnd : Acquire.State :=
  ⟨.settled (.error (LockError.new .lostLease sampleKey
      "Redlock grant expired while allocating its fencing token")), fun _ => none,
    [.quorumAcquired ⟨0, 9000⟩, .clockRead 8000, .mintIssued, .minted 7, .clockRead 9000,
      .releaseIssued ⟨0, 9000⟩]⟩

theorem sample_acquisitions_accounted :
    Ts.Redlock.Acquire.Accounted (fun _ => none) sampleTsEnd ∧
      Acquire.Accounted (fun _ => none) sampleEnd :=
  ⟨acquisitions_account_for_their_handle.1 sampleTsInputs (fun _ => none) sampleTsRun sampleTsEnd
      (Exec.of_foldlM rfl),
    acquisitions_account_for_their_handle.2 sampleInputs (fun _ => none) sampleRun sampleEnd
      (Exec.of_foldlM rfl)⟩

end Sample

end OresLocks.Redlock
