import OresLocks.LocalFile.Reading

/-!
# What a holder may do, and that its programs keep to it

A holder is outside the lock directory until its `mkdir` succeeds and inside it until
its `rmdir` does; inside, it knows which marker the directory holds.
-/

namespace OresLocks.LocalFile

set_option autoImplicit false

open Shared.Programs JsString

/-- The entry of a lock directory that has at most one. -/
structure Marker where
  name : Name
  file : Nat
  content : Bytes

inductive HolderStage where
  | outside
  | inside (marker : Option Marker)

/-- The marker a holder has published. -/
def published (owner : JsString) (file : Nat) : HolderStage :=
  .inside (some ⟨.owner, file, encode owner⟩)

def holderProtocol (owner : JsString) : Protocol FsOp FsAnswer HolderStage where
  allows stage op :=
    match op with
    | .mkdir => stage = .outside ∧ validateLocalFileLockOwner owner = .ok ()
    | .rmdir => ∃ marker, stage = .inside marker
    | .openExclusive name => name = .pending ∧ stage = .inside none
    | .write handle bytes => bytes = encode owner ∧ stage = .inside (some ⟨.pending, handle, []⟩)
    | .rename source target => source = .pending ∧ target = .owner ∧
        ∃ file, stage = .inside (some ⟨.pending, file, encode owner⟩)
    | .unlink _ => ∃ marker, stage = .inside marker
    | op => op.IsReading
  moves stage op answer stage' :=
    match op, answer with
    | .mkdir, .ok _ => stage' = .inside none
    | .rmdir, .ok _ => stage = .inside none ∧ stage' = .outside
    | .openExclusive name, .ok file => stage' = .inside (some ⟨name, file, []⟩)
    | .write handle bytes, .ok _ => stage' = .inside (some ⟨.pending, handle, bytes⟩)
    | .rename source target, .ok _ => ∃ file content,
        stage = .inside (some ⟨source, file, content⟩) ∧
        stage' = .inside (some ⟨target, file, content⟩)
    | .unlink name, .ok _ => ∃ file content, stage = .inside (some ⟨name, file, content⟩) ∧
        stage' = .inside none
    | _, _ => stage' = stage

theorem holder_reading (owner : JsString) (stage : HolderStage) (op : FsOp) (h : op.IsReading) :
    (holderProtocol owner).allows stage op ∧ ∀ answer stage',
      (holderProtocol owner).moves stage op answer stage' → stage' = stage := by
  cases op with
  | mkdir => simp [FsOp.IsReading, FsOp.IsLooking] at h
  | rmdir => simp [FsOp.IsReading, FsOp.IsLooking] at h
  | openExclusive name => simp [FsOp.IsReading, FsOp.IsLooking] at h
  | write handle bytes => simp [FsOp.IsReading, FsOp.IsLooking] at h
  | rename source target => simp [FsOp.IsReading, FsOp.IsLooking] at h
  | unlink name => simp [FsOp.IsReading, FsOp.IsLooking] at h
  | _ => exact ⟨h, fun _ _ hm => hm⟩

theorem holder_errors (owner : JsString) : ErrorsStay (holderProtocol owner) := by
  intro stage op error stage' hm
  cases op <;> exact hm

section Holder

variable {owner : JsString}

/-- A program that only looks leaves a holder where it is. -/
theorem holder_uses {α : Type} {x : FsM α} (h : Uses FsOp.IsReading x.run) (stage : HolderStage) :
    Triple (holderProtocol owner) stage x (fun stage' _ => stage' = stage)
      (fun stage' _ => stage' = stage) := by
  apply Uses.triple (I := fun stage' => stage' = stage) h
  · intro stage' op hstage hop
    subst hstage
    exact holder_reading owner stage' op hop
  · rfl

/-- Only `mkdir` itself rejects with a filesystem error there, and then nothing was made. -/
theorem holder_mkdir (hvalid : validateLocalFileLockOwner owner = .ok ()) (win32 : Bool) :
    Triple (holderProtocol owner) .outside
      (do
        await .mkdir
        validatePosixPrivateLockDirectory win32
        pure true)
      (fun stage created => created = true ∧ stage = .inside none)
      (fun stage failure => ∀ error, failure = .io error → stage = .outside) := by
  apply Triple.bind (fun stage _ => stage = .inside none)
  · apply triple_await (holder_errors owner)
    · exact ⟨rfl, hvalid⟩
    · intro _ stage' hm
      exact hm
    · intro error _ _
      rfl
  · intro stage _ hstage
    subst hstage
    unfold validatePosixPrivateLockDirectory
    split
    · exact Triple.pure ⟨rfl, rfl⟩
    · apply Triple.bind (fun stage _ => stage = .inside none)
      · apply triple_catchIo (fun stage _ => stage = .inside none)
        · apply holder_uses
          apply Uses.bind (uses_await (Or.inl (by trivial)))
          intro metadata
          exact uses_validatePosixPrivateMode _ _ _
        · intro stage error _ error' h
          cases h
        · intro stage error _
          apply Triple.throw
          intro error' h
          cases h
      · intro stage _ hstage
        exact Triple.pure ⟨rfl, hstage⟩

/-- The loop ends inside exactly when it reports the directory as created. -/
theorem holder_createLockDirectory (hvalid : validateLocalFileLockOwner owner = .ok ())
    (win32 : Bool) (attempts : Nat) :
    Triple (holderProtocol owner) .outside (createLockDirectory win32 attempts)
      (fun stage created => stage = if created then .inside none else .outside)
      (fun _ _ => True) := by
  induction attempts with
  | zero => exact Triple.pure rfl
  | succ attempts ih =>
    apply triple_catchIo (fun stage failure => ∀ error, failure = .io error → stage = .outside)
    · apply Triple.mono (holder_mkdir hvalid win32)
      · intro stage created hcreated
        rw [hcreated.1]
        exact hcreated.2
      · intro stage failure hfailure
        exact hfailure
    · intro _ _ _
      trivial
    · intro stage error hcaught
      have houtside := hcaught error rfl
      subst houtside
      split
      · exact Triple.throw trivial
      · apply triple_catchIo (fun stage _ => stage = .outside)
        · apply Triple.bind (fun stage _ => stage = .outside)
          · exact holder_uses (uses_await (Or.inl (by trivial))) _
          · intro stage metadata hstage
            subst hstage
            split
            · exact Triple.pure rfl
            · exact Triple.throw rfl
        · intro _ _ _
          trivial
        · intro stage inspectError hstage
          subst hstage
          split
          · exact ih
          · exact Triple.throw trivial

/-- A failed publication is still inside; a successful one has the whole owner in its
marker. -/
theorem holder_publishOwner :
    Triple (holderProtocol owner) (.inside none) (publishOwner owner)
      (fun stage _ => ∃ file, stage = published owner file)
      (fun stage _ => ∃ marker, stage = .inside marker) := by
  apply Triple.bind (fun stage handle => stage = .inside (some ⟨.pending, handle, []⟩))
  · apply Triple.adapt
    apply triple_await (holder_errors owner)
    · exact ⟨rfl, rfl⟩
    · intro handle stage' hm
      exact hm
    · intro error
      exact ⟨none, rfl⟩
  intro stage handle hstage
  subst hstage
  apply Triple.bind (fun stage _ => stage = .inside (some ⟨.pending, handle, encode owner⟩))
  · apply Triple.adapt
    apply Triple.bind (fun stage _ => stage = .inside (some ⟨.pending, handle, encode owner⟩))
    · apply triple_await (holder_errors owner)
      · exact ⟨rfl, rfl⟩
      · intro _ stage' hm
        exact hm
      · intro error
        exact ⟨_, rfl⟩
    intro stage _ hstage
    subst hstage
    apply Triple.mono (holder_uses ?_ _)
    · intro stage' _ hstage
      exact hstage
    · intro stage' _ hstage
      exact ⟨_, hstage⟩
    · apply Uses.bind (uses_await (Or.inl (by trivial)))
      intro _
      exact uses_await (Or.inl (by trivial))
  intro stage _ hstage
  subst hstage
  apply Triple.adapt
  apply Triple.bind (fun stage _ => stage = .inside (some ⟨.pending, handle, encode owner⟩))
  · apply Triple.mono (holder_uses ?_ _)
    · intro stage' _ hstage
      exact hstage
    · intro stage' _ hstage
      exact ⟨_, hstage⟩
    · apply uses_catchIo
      · apply Uses.bind (uses_await (Or.inl (by trivial)))
        intro _
        exact Uses.throw _
      · intro error
        split
        · exact Uses.pure _
        · exact Uses.throw _
  · intro stage _ hstage
    subst hstage
    apply triple_await (holder_errors owner)
    · exact ⟨rfl, rfl, handle, rfl⟩
    · intro _ stage' hm
      obtain ⟨file, content, hstage, hstage'⟩ := hm
      cases hstage
      exact ⟨handle, hstage'⟩
    · intro error
      exact ⟨_, rfl⟩

theorem holder_unlink {stage : HolderStage} (hinside : ∃ marker, stage = .inside marker)
    (name : Name) :
    Triple (holderProtocol owner) stage (await (.unlink name))
      (fun stage' _ => stage' = .inside none) (fun stage' _ => stage' = stage) := by
  apply triple_await (holder_errors owner)
  · exact hinside
  · intro _ stage' hm
    obtain ⟨file, content, _, hstage'⟩ := hm
    exact hstage'
  · intro error
    rfl

theorem holder_rmdir {stage : HolderStage} (hinside : ∃ marker, stage = .inside marker) :
    Triple (holderProtocol owner) stage (await .rmdir)
      (fun stage' _ => stage' = .outside) (fun stage' _ => stage' = stage) := by
  apply triple_await (holder_errors owner)
  · exact hinside
  · intro _ stage' hm
    exact hm.2
  · intro error
    rfl

theorem holder_unlinkIfPresent {stage : HolderStage} (hinside : ∃ marker, stage = .inside marker)
    (name : Name) :
    Triple (holderProtocol owner) stage (unlinkIfPresent name)
      (fun stage' _ => ∃ marker, stage' = .inside marker) (fun _ _ => True) := by
  apply Triple.tryCatch (fun stage' _ => stage' = stage)
  · apply Triple.mono (holder_unlink hinside name)
    · intro stage' _ hstage
      exact ⟨none, hstage⟩
    · intro stage' _ hstage
      exact hstage
  · intro stage' error hstage
    subst hstage
    split
    · exact Triple.pure hinside
    · exact Triple.throw trivial

theorem holder_rollbackPublication {stage : HolderStage}
    (hinside : ∃ marker, stage = .inside marker) :
    Triple (holderProtocol owner) stage rollbackPublication (fun _ _ => True) (fun _ _ => True) := by
  apply Triple.bind _ (holder_unlinkIfPresent hinside .pending)
  intro stage _ hinside
  apply Triple.bind _ (holder_unlinkIfPresent hinside .owner)
  intro stage _ hinside
  apply Triple.mono (holder_rmdir hinside)
  · intro _ _ _
    trivial
  · intro _ _ _
    trivial

theorem holder_publishOrRollback :
    Triple (holderProtocol owner) (.inside none) (publishOrRollback owner)
      (fun stage _ => ∃ file, stage = published owner file) (fun _ _ => True) := by
  apply Triple.bind (Ends (fun stage _ => ∃ file, stage = published owner file)
    (fun stage _ => ∃ marker, stage = .inside marker))
  · exact Triple.lift holder_publishOwner
  intro stage result hresult
  cases result with
  | ok value => exact Triple.pure hresult
  | error failure =>
    obtain ⟨error, pendingHandle⟩ := failure
    apply Triple.bind (fun stage _ => ∃ marker, stage = .inside marker)
    · unfold closeQuietly
      split
      · exact Triple.pure hresult
      · apply Triple.tryCatch (fun stage _ => ∃ marker, stage = .inside marker)
        · apply Triple.mono (holder_uses (uses_await (Or.inl (by trivial))) stage)
          · intro stage' _ hstage
            subst hstage
            exact hresult
          · intro stage' _ hstage
            subst hstage
            exact hresult
        · intro stage' _ hinside
          exact Triple.pure hinside
    · intro stage' _ hinside
      apply Triple.bind (fun _ _ => True)
      · apply Triple.attempt
        apply Triple.mono (holder_rollbackPublication hinside)
        · intro _ _ _
          trivial
        · intro _ _ _
          trivial
      · intro _ _ _
        exact Triple.throw trivial

theorem holder_identifyOrRollback (win32 : Bool) (file : Nat) :
    Triple (holderProtocol owner) (published owner file) (identifyOrRollback win32)
      (fun stage _ => stage = published owner file) (fun _ _ => True) := by
  apply Triple.tryCatch (fun stage _ => stage = published owner file)
  · apply holder_uses
    apply Uses.bind (uses_validateRegularFile looking_isReading _ _ _)
    intro _
    exact uses_readLocalFileOwnerIdentity looking_isReading
  · intro stage error hstage
    subst hstage
    apply Triple.bind (fun _ _ => True)
    · apply Triple.attempt
      apply Triple.bind (fun stage _ => stage = .inside none)
      · apply Triple.mono (holder_unlink ⟨_, rfl⟩ .owner)
        · intro _ _ hstage
          exact hstage
        · intro _ _ _
          trivial
      · intro stage _ hstage
        apply Triple.mono (holder_rmdir ⟨none, hstage⟩)
        · intro _ _ _
          trivial
        · intro _ _ _
          trivial
    · intro stage result _
      split
      · exact Triple.throw trivial
      · exact Triple.throw trivial

/-- A returned handle belongs to a published marker. -/
def Acquired (owner : JsString) (stage : HolderStage) : Option LocalFileLock → Prop
  | none => True
  | some lock => lock.owner = owner ∧ lock.releasePromise = none ∧
      ∃ file, stage = published owner file

theorem holder_tryAcquireLocalFileLock (win32 : Bool) (owner : JsString) :
    Triple (holderProtocol owner) .outside (tryAcquireLocalFileLock win32 owner)
      (Acquired owner) (fun _ _ => True) := by
  apply Triple.bind (fun stage _ =>
    stage = .outside ∧ validateLocalFileLockOwner owner = .ok ())
  · cases hvalid : validateLocalFileLockOwner owner with
    | ok value => exact ⟨rfl, rfl⟩
    | error error => exact trivial
  intro stage _ hstage
  obtain ⟨rfl, hvalid⟩ := hstage
  apply Triple.bind (fun stage _ => stage = .outside)
  · apply Triple.mono (holder_uses (uses_prepareLockParent looking_isReading win32) _)
    · intro _ _ hstage
      exact hstage
    · intro _ _ _
      trivial
  intro stage _ hstage
  subst hstage
  apply Triple.bind _ (holder_createLockDirectory hvalid win32 2)
  intro stage created hcreated
  cases created with
  | false => exact Triple.pure trivial
  | true =>
    change stage = .inside none at hcreated
    subst hcreated
    apply Triple.bind _ holder_publishOrRollback
    intro stage _ hpublished
    obtain ⟨file, rfl⟩ := hpublished
    apply Triple.bind _ (holder_identifyOrRollback win32 file)
    intro stage identity hstage
    exact Triple.pure ⟨rfl, rfl, file, hstage⟩

/-- A release that leaves the handle held has removed nothing. -/
def Released (owner : JsString) (stage : HolderStage) (result : ReleaseState × Except Failure Unit) :
    Prop :=
  result.1 = .held → ∃ file, stage = published owner file

theorem holder_removeOwned (file : Nat) :
    Triple (holderProtocol owner) (published owner file) removeOwned (fun _ _ => True)
      (fun stage failure => failure.2 = false → stage = published owner file) := by
  apply Triple.bind (fun stage _ => stage = .inside none)
  · apply Triple.adapt
    apply Triple.mono (holder_unlink ⟨_, rfl⟩ .owner)
    · intro _ _ hstage
      exact hstage
    · intro _ _ hstage _
      exact hstage
  · intro stage _ hstage
    apply Triple.adapt
    apply Triple.mono (holder_rmdir ⟨none, hstage⟩)
    · intro _ _ _
      trivial
    · intro _ _ _ hremoved
      cases hremoved

theorem holder_releaseOnce (win32 : Bool) (lock : LocalFileLock) (file : Nat) :
    Follows (holderProtocol lock.owner) (Released lock.owner) (published lock.owner file)
      (releaseOnce win32 lock) := by
  apply Follows.bind
  apply Follows.mono (holder_uses (uses_checkRelease win32 lock) (published lock.owner file))
  intro stage result hresult
  cases result with
  | error error =>
    intro _
    exact ⟨file, hresult⟩
  | ok value =>
    change stage = _ at hresult
    subst hresult
    apply Follows.bind
    apply Follows.mono (holder_removeOwned file)
    intro stage removed hremoved
    cases removed with
    | ok value =>
      intro hheld
      cases hheld
    | error failure =>
      obtain ⟨error, ownerRemoved⟩ := failure
      cases ownerRemoved with
      | false =>
        intro _
        exact ⟨file, hremoved rfl⟩
      | true =>
        intro hheld
        cases hheld

end Holder

end OresLocks.LocalFile
