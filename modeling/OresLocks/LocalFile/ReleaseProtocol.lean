import OresLocks.LocalFile.NativeHolder
import OresLocks.LocalFile.System

/-!
# Releases as programs of a holder

A handle that still counts as held stands for a published marker, before its release
and after it. `windows` and `win32` are as in the programs themselves.
-/

namespace OresLocks.LocalFile

set_option autoImplicit false

open Shared.Programs JsString

section Rules

variable {text : JsString}

/-- A handle that may still be released stands for a published marker. -/
def Unspent (text : JsString) (stage : HolderStage) (held : Prop) : Prop :=
  held → ∃ file, stage = published text file

/-- After the checks: both removals, the second only after the first. -/
theorem holder_unlinkOwner {file : Nat} :
    Follows (holderProtocol text)
      (fun stage' (answer : FsAnswer (.unlink .owner)) =>
        match answer with
        | .ok _ => stage' = .inside none
        | .error _ => stage' = published text file)
      (published text file) (issue (.unlink .owner)) := by
  refine ⟨⟨_, rfl⟩, ?_⟩
  intro answer stage' hm
  cases answer with
  | ok value =>
    obtain ⟨_, _, _, hstage'⟩ := hm
    exact hstage'
  | error error => exact hm

theorem holder_removeDirectory :
    Follows (holderProtocol text) (fun _ (_ : FsAnswer .rmdir) => True) (.inside none)
      (issue .rmdir) := ⟨⟨none, rfl⟩, fun _ _ _ => trivial⟩

end Rules

namespace Rust

theorem uses_ownerText (bytes : Bytes) : Uses FsOp.IsReading (ownerText bytes).run := by
  unfold ownerText
  split
  · exact Uses.throw _
  · apply Uses.bind (uses_guardThat _ _)
    intro _
    exact Uses.pure _

theorem uses_readOpenedOwner (windows : Bool) (pathMetadata : Stat) (handle : Nat) :
    Uses FsOp.IsReading (readOpenedOwner windows pathMetadata handle).run := by
  apply Uses.bind (uses_asked (Or.inl (by trivial)))
  intro openedMetadata
  apply Uses.bind (uses_guardThat _ _)
  intro _
  apply Uses.bind (uses_guardThat _ _)
  intro _
  apply Uses.bind (uses_guardThat _ _)
  intro _
  apply Uses.bind (Uses.adapt (uses_readOwnerBytes _ _ _))
  intro bytes
  apply Uses.bind (uses_guardThat _ _)
  intro _
  exact uses_ownerText bytes

theorem uses_readBoundedOwner (windows : Bool) :
    Uses FsOp.IsReading (readBoundedOwner windows).run := by
  apply Uses.bind (uses_asked (Or.inl (by trivial)))
  intro pathMetadata
  apply Uses.bind (uses_guardThat _ _)
  intro _
  apply Uses.bind (uses_guardThat _ _)
  intro _
  apply Uses.bind (uses_asked (Or.inr (Or.inl rfl)))
  intro handle
  exact uses_closing (Or.inl (by trivial)) (uses_readOpenedOwner windows pathMetadata handle)

theorem uses_checkRelease (windows : Bool) (owner : String) :
    Uses FsOp.IsReading (checkRelease windows owner).run := by
  apply Uses.bind
  · apply Uses.bind (uses_asked (Or.inl (by trivial)))
    intro metadata
    exact uses_guardThat _ _
  intro _
  apply Uses.bind (uses_validatePrivateLockDirectory windows)
  intro _
  apply Uses.bind (uses_readBoundedOwner windows)
  intro observed
  apply Uses.bind (uses_guardThat _ _)
  intro _
  apply Uses.bind (uses_asked (Or.inl (by trivial)))
  intro metadata
  apply Uses.bind (uses_guardThat _ _)
  intro _
  exact uses_guardThat _ _

/-- `release` would still look for the marker. -/
def LocalFileLock.Held (lock : LocalFileLock) : Prop :=
  lock.released = false ∧ lock.releaseError = none

theorem holder_releaseInner (windows : Bool) (lock : LocalFileLock) (stage : HolderStage)
    (h : Unspent (text lock.owner) stage lock.Held) :
    Follows (holderProtocol (text lock.owner))
      (fun stage' result => result.1.owner = lock.owner ∧
        Unspent (text lock.owner) stage' result.1.Held)
      stage (releaseInner windows lock) := by
  unfold releaseInner
  split
  · exact ⟨rfl, h⟩
  · rename_i hreleased
    split
    · exact ⟨rfl, h⟩
    · rename_i herror
      obtain ⟨file, rfl⟩ := h ⟨Bool.eq_false_iff.mpr hreleased, herror⟩
      apply Follows.bind
      apply Follows.mono (holder_looks (uses_checkRelease windows lock.owner) _)
      intro stage result hresult
      cases result with
      | error error =>
        change stage = _ at hresult
        subst hresult
        exact ⟨rfl, fun _ => ⟨file, rfl⟩⟩
      | ok value =>
        change stage = _ at hresult
        subst hresult
        apply Follows.bind
        apply Follows.mono holder_unlinkOwner
        intro stage answer hanswer
        cases answer with
        | error error =>
          change stage = _ at hanswer
          subst hanswer
          exact ⟨rfl, fun _ => ⟨file, rfl⟩⟩
        | ok value =>
          change stage = _ at hanswer
          subst hanswer
          apply Follows.bind
          apply Follows.mono holder_removeDirectory
          intro stage answer _
          cases answer with
          | ok value => exact ⟨rfl, fun hheld => (nomatch hheld.1)⟩
          | error error => exact ⟨rfl, fun hheld => (nomatch hheld.2)⟩

end Rust

namespace Go

theorem uses_readOpenedOwner (windows : Bool) (pathInfo : Stat) (handle : Nat) :
    Uses FsOp.IsReading (readOpenedOwner windows pathInfo handle).run := by
  apply Uses.bind (uses_asked (Or.inl (by trivial)))
  intro openedInfo
  apply Uses.bind (uses_guardThat _ _)
  intro _
  apply Uses.bind (uses_validateLocalPOSIXPrivateMode windows openedInfo _ _)
  intro _
  apply Uses.bind (uses_guardThat _ _)
  intro _
  apply Uses.bind (Uses.adapt (uses_readOwnerBytes _ _ _))
  intro owner
  apply Uses.bind (uses_guardThat _ _)
  intro _
  apply Uses.bind (uses_guardThat _ _)
  intro _
  exact Uses.pure _

theorem uses_readBoundedLocalFileLockOwner (windows : Bool) :
    Uses FsOp.IsReading (readBoundedLocalFileLockOwner windows).run := by
  apply Uses.bind (uses_asked (Or.inl (by trivial)))
  intro pathInfo
  apply Uses.bind (uses_guardThat _ _)
  intro _
  apply Uses.bind (uses_guardThat _ _)
  intro _
  apply Uses.bind (uses_validateLocalPOSIXPrivateMode windows pathInfo _ _)
  intro _
  apply Uses.bind (uses_guardThat _ _)
  intro _
  apply Uses.bind (uses_asked (Or.inr (Or.inl rfl)))
  intro handle
  exact uses_closing (Or.inl (by trivial)) (uses_readOpenedOwner windows pathInfo handle)

theorem uses_checkRelease (windows : Bool) (owner : Bytes) :
    Uses FsOp.IsReading (checkRelease windows owner).run := by
  apply Uses.bind
  · apply Uses.bind (uses_asked (Or.inl (by trivial)))
    intro info
    apply Uses.bind (uses_guardThat _ _)
    intro _
    exact uses_validateLocalPOSIXPrivateMode windows info _ _
  intro _
  apply Uses.bind (uses_readBoundedLocalFileLockOwner windows)
  intro observed
  exact uses_guardThat _ _

theorem uses_firstName : Uses FsOp.IsReading firstName := by
  refine ⟨Or.inl (by trivial), ?_⟩
  intro opened
  cases opened with
  | error error => trivial
  | ok value =>
    refine ⟨Or.inl (by trivial), ?_⟩
    intro names
    refine ⟨Or.inl (by trivial), ?_⟩
    intro _
    cases names with
    | ok name => trivial
    | error error => trivial

/-- `Release` would still look for the marker. -/
def LocalFileLock.Held (lock : LocalFileLock) : Prop :=
  lock.released = false ∧ lock.releaseErr = none

theorem holder_release (windows : Bool) (lock : LocalFileLock) (stage : HolderStage)
    (h : Unspent (text lock.owner) stage lock.Held) :
    Follows (holderProtocol (text lock.owner))
      (fun stage' result => result.1.owner = lock.owner ∧
        Unspent (text lock.owner) stage' result.1.Held)
      stage (release windows lock) := by
  unfold release
  split
  · exact ⟨rfl, h⟩
  · rename_i hreleased
    split
    · exact ⟨rfl, h⟩
    · rename_i herror
      obtain ⟨file, rfl⟩ := h ⟨Bool.eq_false_iff.mpr hreleased, herror⟩
      apply Follows.bind
      apply Follows.mono (holder_looks (uses_checkRelease windows lock.owner) _)
      intro stage result hresult
      cases result with
      | error error =>
        change stage = _ at hresult
        subst hresult
        exact ⟨rfl, fun _ => ⟨file, rfl⟩⟩
      | ok value =>
        change stage = _ at hresult
        subst hresult
        apply Follows.bind
        apply Follows.mono holder_unlinkOwner
        intro stage answer hanswer
        cases answer with
        | error error =>
          change stage = _ at hanswer
          subst hanswer
          exact ⟨rfl, fun _ => ⟨file, rfl⟩⟩
        | ok value =>
          change stage = _ at hanswer
          subst hanswer
          apply Follows.bind
          apply Follows.mono holder_removeDirectory
          intro stage answer _
          cases answer with
          | ok value => exact ⟨rfl, fun hheld => (nomatch hheld.1)⟩
          | error error =>
            -- the name is read for the kind of the error only
            apply Follows.bind
            apply Follows.mono (Uses.follows (I := fun _ => True) uses_firstName ?_ trivial)
            · intro stage' name _
              exact ⟨rfl, fun hheld => (nomatch hheld.2)⟩
            · intro stage' op _ hop
              exact ⟨(holder_reading _ stage' op hop).1, fun _ _ _ => trivial⟩

end Go

namespace Ts

/-- `release` would still look for the marker. -/
def Held (lock : LocalFileLock) : Prop := lock.releaseState = .held ∧ lock.releasePromise = none

/-- A call of `release` to its end, where no other is in flight. -/
def release (win32 : Bool) (lock : LocalFileLock) : FsProg LocalFileLock :=
  match lock.releaseState, lock.releasePromise with
  | .held, none => do
    let outcome ← releaseOnce win32 lock
    pure (lock.settleRelease (.done outcome))
  | _, _ => pure lock

theorem holder_release (win32 : Bool) (lock : LocalFileLock) (stage : HolderStage)
    (h : Unspent lock.owner stage (Held lock)) :
    Follows (holderProtocol lock.owner)
      (fun stage' result => result.owner = lock.owner ∧ Unspent lock.owner stage' (Held result))
      stage (release win32 lock) := by
  unfold release
  split
  · rename_i hheld hpromise
    obtain ⟨file, rfl⟩ := h ⟨hheld, hpromise⟩
    apply Follows.bind
    apply Follows.mono (holder_releaseOnce win32 lock file)
    intro stage outcome hreleased
    exact ⟨rfl, fun hstill => hreleased hstill.1⟩
  · exact ⟨rfl, h⟩

end Ts

end OresLocks.LocalFile
