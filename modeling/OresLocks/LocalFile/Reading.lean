import OresLocks.LocalFile.Recovery

/-!
# The programs that only look

The validations and the inspection issue no operation that changes the lock path.
-/

namespace OresLocks.LocalFile

set_option autoImplicit false

open Shared.Programs

/-- Operations that neither change the lock path nor look inside a marker. -/
def FsOp.IsLooking : FsOp → Prop
  | .mkdirParent => True
  | .lstat _ => True
  | .sync _ => True
  | .close _ => True
  | .fstat _ => True
  | .opendir => True
  | .readDirectory => True
  | .closeDirectory => True
  | .sleep _ => True
  | _ => False

/-- Operations that do not change the lock path. -/
def FsOp.IsReading (op : FsOp) : Prop :=
  op.IsLooking ∨ op = .openRead .owner ∨ ∃ handle position length, op = .read handle position length

section Calls

variable {Stage : Type} {P : Protocol FsOp FsAnswer Stage} {stage : Stage}

/-- A step that fails has no effect. -/
def ErrorsStay (P : Protocol FsOp FsAnswer Stage) : Prop :=
  ∀ stage op error stage', P.moves stage op (.error error) stage' → stage' = stage

/-- One call: what holds after each answer that can come. -/
theorem triple_call {op : FsOp} {ok : Stage → op.Answer → Prop} {err : Stage → Failure → Prop}
    (hallows : P.allows stage op)
    (hok : ∀ value stage', P.moves stage op (.ok value) stage' → ok stage' value)
    (herr : ∀ error stage', P.moves stage op (.error error) stage' → err stage' (.io error)) :
    Triple P stage (await op) ok err := by
  refine ⟨hallows, ?_⟩
  intro answer stage' hm
  cases answer with
  | ok value => exact hok value stage' hm
  | error error => exact herr error stage' hm

theorem triple_await (hstay : ErrorsStay P) {op : FsOp} {ok : Stage → op.Answer → Prop}
    {err : Stage → Failure → Prop} (hallows : P.allows stage op)
    (hok : ∀ value stage', P.moves stage op (.ok value) stage' → ok stage' value)
    (herr : ∀ error, err stage (.io error)) : Triple P stage (await op) ok err := by
  apply triple_call hallows hok
  intro error stage' hm
  have hstage := hstay stage op error stage' hm
  subst hstage
  exact herr error

theorem triple_catchIo {α : Type} {x : FsM α} {handler : FsError → FsM α}
    {ok : Stage → α → Prop} {err : Stage → Failure → Prop} (caught : Stage → Failure → Prop)
    (h : Triple P stage x ok caught)
    (hlock : ∀ stage error, caught stage (.lock error) → err stage (.lock error))
    (hio : ∀ stage error, caught stage (.io error) → Triple P stage (handler error) ok err) :
    Triple P stage (catchIo x handler) ok err := by
  apply Triple.tryCatch caught h
  intro stage' failure hcaught
  cases failure with
  | lock error => exact Triple.throw (hlock stage' error hcaught)
  | io error => exact hio stage' error hcaught

/-- In this stage an open file can be read and has the given content. -/
structure ReadsFile (P : Protocol FsOp FsAnswer Stage) (stage : Stage) (handle : Nat)
    (content : Bytes) (err : Stage → Failure → Prop) : Prop where
  allows : ∀ position length, P.allows stage (.read handle position length)
  chunk : ∀ position length chunk stage',
    P.moves stage (.read handle position length) (.ok chunk) stage' → stage' = stage ∧
      ∃ count, chunk = (content.drop position).take count ∧ (0 < length → 0 < count)
  error : ∀ position length error stage',
    P.moves stage (.read handle position length) (.error error) stage' → err stage' (.io error)

/-- The read loop: what it returns is a beginning of the file, and the whole file when it
is within the size bound. -/
theorem triple_readOwnerBytes {handle fuel : Nat} {bytes content : Bytes}
    {err : Stage → Failure → Prop} (hreads : ReadsFile P stage handle content err)
    (hbegins : ∃ rest, content = bytes ++ rest)
    (hfuel : maxLocalFileLockOwnerUtf8Bytes + 1 ≤ bytes.length + fuel) :
    Triple P stage (readOwnerBytes handle fuel bytes)
      (fun stage' result => stage' = stage ∧ (∃ rest, content = result ++ rest) ∧
        (result.length ≤ maxLocalFileLockOwnerUtf8Bytes → result = content))
      err := by
  induction fuel generalizing bytes with
  | zero =>
    apply Triple.pure
    refine ⟨rfl, hbegins, ?_⟩
    intro hshort
    omega
  | succ fuel ih =>
    unfold readOwnerBytes
    split
    · rename_i hroom
      apply Triple.bind (fun stage' chunk => stage' = stage ∧
        ∃ count, chunk = (content.drop bytes.length).take count ∧ 0 < count)
      · apply triple_call (hreads.allows _ _)
        · intro chunk stage' hm
          obtain ⟨hstage, count, htake, hpos⟩ := hreads.chunk _ _ _ _ hm
          exact ⟨hstage, count, htake, hpos (by omega)⟩
        · intro error stage' hm
          exact hreads.error _ _ _ _ hm
      intro stage' chunk hchunk
      obtain ⟨rfl, count, htake, hpos⟩ := hchunk
      obtain ⟨rest, hcontent⟩ := hbegins
      rw [hcontent, List.drop_left] at htake
      split
      · rename_i hempty
        apply Triple.pure
        refine ⟨rfl, ⟨rest, hcontent⟩, ?_⟩
        intro _
        rw [hempty] at htake
        have hrest : rest = [] := by
          rcases List.take_eq_nil_iff.mp htake.symm with hzero | hnil
          · omega
          · exact hnil
        rw [hcontent, hrest, List.append_nil]
      · rename_i hmore
        apply ih
        · refine ⟨rest.drop count, ?_⟩
          rw [hcontent, htake, List.append_assoc, List.take_append_drop]
        · have hlength : 0 < chunk.length := List.length_pos_iff.mpr hmore
          rw [List.length_append]
          omega
    · rename_i hfull
      apply Triple.pure
      refine ⟨rfl, hbegins, ?_⟩
      intro hshort
      omega

end Calls

theorem uses_await {allowed : FsOp → Prop} {op : FsOp} (h : allowed op) :
    Uses allowed (await op).run := ⟨h, fun _ => trivial⟩

theorem uses_catchIo {allowed : FsOp → Prop} {α : Type} {x : FsM α} {handler : FsError → FsM α}
    (h : Uses allowed x.run) (hh : ∀ error, Uses allowed (handler error).run) :
    Uses allowed (catchIo x handler).run := by
  apply Uses.tryCatch h
  intro failure
  cases failure with
  | lock error => exact Uses.throw _
  | io error => exact hh error

theorem uses_validatePosixPrivateMode {allowed : FsOp → Prop} (win32 : Bool) (mode : Nat)
    (label : String) :
    Uses allowed (validatePosixPrivateMode win32 mode label).run := by
  unfold validatePosixPrivateMode
  split
  · exact Uses.throw _
  · exact Uses.pure _

section Looking

variable {allowed : FsOp → Prop} (looks : ∀ op : FsOp, op.IsLooking → allowed op)

include looks

theorem uses_validateRealDirectory (place : Place) (label : String) :
    Uses allowed (validateRealDirectory place label).run := by
  apply uses_catchIo
  · apply Uses.bind (uses_await (looks _ (by trivial)))
    intro metadata
    split
    · exact Uses.pure _
    · exact Uses.throw _
  · intro error
    split
    · exact Uses.throw _
    · exact Uses.throw _

theorem uses_validatePosixTrustedParent (win32 : Bool) :
    Uses allowed (validatePosixTrustedParent win32).run := by
  unfold validatePosixTrustedParent
  split
  · exact Uses.pure _
  · apply uses_catchIo
    · apply Uses.bind (uses_await (looks _ (by trivial)))
      intro metadata
      split
      · exact Uses.throw _
      · exact Uses.pure _
    · intro error
      exact Uses.throw _

theorem uses_validatePosixPrivateLockDirectory (win32 : Bool) :
    Uses allowed (validatePosixPrivateLockDirectory win32).run := by
  unfold validatePosixPrivateLockDirectory
  split
  · exact Uses.pure _
  · apply uses_catchIo
    · apply Uses.bind (uses_await (looks _ (by trivial)))
      intro metadata
      exact uses_validatePosixPrivateMode _ _ _
    · intro error
      exact Uses.throw _

theorem uses_validateRegularFile (win32 : Bool) (name : Name) (label : String) :
    Uses allowed (validateRegularFile win32 name label).run := by
  apply uses_catchIo
  · apply Uses.bind (uses_await (looks _ (by trivial)))
    intro metadata
    split
    · split
      · exact uses_validatePosixPrivateMode _ _ _
      · exact Uses.throw _
    · exact Uses.throw _
  · intro error
    split
    · exact Uses.throw _
    · exact Uses.throw _

theorem uses_readLocalFileLockEntryNamesBounded :
    Uses allowed readLocalFileLockEntryNamesBounded.run := by
  apply Uses.bind (Uses.attempt (uses_await (looks _ (by trivial))))
  intro opened
  split
  · exact Uses.throw _
  · exact Uses.throw _
  · apply Uses.finallyDo
    · apply uses_catchIo
      · apply Uses.bind (uses_await (looks _ (by trivial)))
        intro first
        split
        · exact Uses.pure _
        · apply Uses.bind (uses_await (looks _ (by trivial)))
          intro second
          split
          · exact Uses.pure _
          · exact Uses.pure _
      · intro error
        exact Uses.throw _
    · exact uses_await (looks _ (by trivial))

theorem uses_readLocalFileOwnerIdentity : Uses allowed readLocalFileOwnerIdentity.run := by
  apply Uses.bind (Uses.attempt (uses_await (looks _ (by trivial))))
  intro metadata
  split
  · exact Uses.throw _
  · exact Uses.throw _
  · split
    · exact Uses.pure _
    · exact Uses.throw _

theorem uses_prepareLockParent (win32 : Bool) : Uses allowed (prepareLockParent win32).run := by
  apply uses_catchIo
  · apply Uses.bind (uses_await (looks _ (by trivial)))
    intro _
    apply Uses.bind (uses_validateRealDirectory looks _ _)
    intro _
    exact uses_validatePosixTrustedParent looks _
  · intro error
    exact Uses.throw _

theorem uses_probeDeletionPending : Uses allowed probeDeletionPending.run := by
  apply Uses.bind (Uses.attempt (uses_await (looks _ (by trivial))))
  intro probe
  split
  · exact Uses.pure _
  · exact Uses.throw _
  · split
    · exact Uses.pure _
    · split
      · exact Uses.throw _
      · exact Uses.pure _

theorem uses_lstatInspectionLockPathOnce (win32 : Bool) {again : Option (FsM (Option Stat))}
    (hagain : ∀ next, again = some next → Uses allowed next.run) :
    Uses allowed (lstatInspectionLockPathOnce win32 again).run := by
  apply Uses.bind (Uses.attempt (uses_await (looks _ (by trivial))))
  intro metadata
  split
  · exact Uses.pure _
  · exact Uses.throw _
  · split
    · exact Uses.pure _
    · split
      · exact Uses.throw _
      · split
        · rename_i next
          apply Uses.bind (uses_await (looks _ (by trivial)))
          intro _
          exact hagain next rfl
        · exact Uses.throw _

theorem uses_lstatInspectionLockPath (win32 : Bool) (retries : Nat) :
    Uses allowed (lstatInspectionLockPath win32 retries).run := by
  induction retries with
  | zero => exact uses_lstatInspectionLockPathOnce looks win32 (fun _ h => nomatch h)
  | succ retries ih =>
    apply uses_lstatInspectionLockPathOnce looks win32
    intro next hnext
    cases hnext
    exact ih

theorem uses_readInspectionEntryNamesOnce (win32 : Bool)
    {again : Option (FsM (Option (List Name)))}
    (hagain : ∀ next, again = some next → Uses allowed next.run) :
    Uses allowed (readInspectionEntryNamesOnce win32 again).run := by
  apply Uses.bind (Uses.attempt (uses_readLocalFileLockEntryNamesBounded looks))
  intro entries
  split
  · exact Uses.pure _
  · exact Uses.throw _
  · split
    · exact Uses.throw _
    · split
      · exact Uses.pure _
      · split
        · exact Uses.throw _
        · apply Uses.bind (uses_probeDeletionPending looks)
          intro disappeared
          split
          · exact Uses.pure _
          · split
            · rename_i next
              apply Uses.bind (uses_await (looks _ (by trivial)))
              intro _
              exact hagain next rfl
            · exact Uses.throw _

theorem uses_readInspectionEntryNames (win32 : Bool) (retries : Nat) :
    Uses allowed (readInspectionEntryNames win32 retries).run := by
  induction retries with
  | zero => exact uses_readInspectionEntryNamesOnce looks win32 (fun _ h => nomatch h)
  | succ retries ih =>
    apply uses_readInspectionEntryNamesOnce looks win32
    intro next hnext
    cases hnext
    exact ih

end Looking

section Reading

theorem uses_readOwnerBytes (handle fuel : Nat) (bytes : Bytes) :
    Uses FsOp.IsReading (readOwnerBytes handle fuel bytes).run := by
  induction fuel generalizing bytes with
  | zero => exact Uses.pure _
  | succ fuel ih =>
    unfold readOwnerBytes
    split
    · apply Uses.bind (uses_await (Or.inr (Or.inr ⟨_, _, _, rfl⟩)))
      intro chunk
      split
      · exact Uses.pure _
      · exact ih _
    · exact Uses.pure _

theorem uses_catchOwnerRead {allowed : FsOp → Prop} {α : Type} {x : FsM α}
    (h : Uses allowed x.run) : Uses allowed (catchOwnerRead x).run := by
  apply uses_catchIo h
  intro error
  split
  · exact Uses.throw _
  · exact Uses.throw _

theorem looking_isReading (op : FsOp) (h : op.IsLooking) : op.IsReading := Or.inl h

theorem uses_openBoundedLocalFileLockOwner (win32 : Bool) :
    Uses FsOp.IsReading (openBoundedLocalFileLockOwner win32).run := by
  apply Uses.bind (uses_await (Or.inl (by trivial)))
  intro metadata
  split
  · exact Uses.throw _
  · split
    · exact Uses.throw _
    · apply Uses.bind (uses_validatePosixPrivateMode _ _ _)
      intro _
      split
      · exact Uses.throw _
      · apply Uses.bind (uses_await (Or.inr (Or.inl rfl)))
        intro handle
        exact Uses.pure _

theorem uses_readOpenedLocalFileLockOwner (win32 : Bool) (metadata : Stat) (handle : Nat) :
    Uses FsOp.IsReading (readOpenedLocalFileLockOwner win32 metadata handle).run := by
  apply Uses.bind (uses_await (Or.inl (by trivial)))
  intro opened
  split
  · exact Uses.throw _
  · apply Uses.bind (uses_validatePosixPrivateMode _ _ _)
    intro _
    split
    · exact Uses.throw _
    · apply Uses.bind (uses_readOwnerBytes _ _ _)
      intro bytes
      split
      · exact Uses.throw _
      · split
        · exact Uses.pure _
        · exact Uses.throw _

theorem uses_readBoundedLocalFileLockOwner (win32 : Bool) :
    Uses FsOp.IsReading (readBoundedLocalFileLockOwner win32).run := by
  apply Uses.bind (uses_catchOwnerRead (uses_openBoundedLocalFileLockOwner win32))
  rintro ⟨metadata, handle⟩
  apply Uses.finallyDo
  · exact uses_catchOwnerRead (uses_readOpenedLocalFileLockOwner win32 metadata handle)
  · exact uses_await (Or.inl (by trivial))

theorem uses_checkRelease (win32 : Bool) (lock : LocalFileLock) :
    Uses FsOp.IsReading (checkRelease win32 lock).run := by
  apply Uses.bind (uses_validateRealDirectory looking_isReading _ _)
  intro _
  apply Uses.bind (uses_validatePosixPrivateLockDirectory looking_isReading _)
  intro _
  apply Uses.bind (uses_readLocalFileLockEntryNamesBounded looking_isReading)
  intro entries
  split
  · exact Uses.throw _
  · apply Uses.bind (uses_validateRegularFile looking_isReading _ _ _)
    intro _
    apply Uses.bind (uses_readLocalFileOwnerIdentity looking_isReading)
    intro identity
    split
    · exact Uses.throw _
    · apply Uses.bind (uses_readBoundedLocalFileLockOwner win32)
      intro observed
      split
      · exact Uses.throw _
      · exact Uses.pure _

end Reading

end OresLocks.LocalFile
