import OresLocks.LocalFile.Lock

/-!
# Inspecting the lock and recovering it from an inactive owner

The retries of the inspection belong to Windows, where a path whose deletion is
pending answers `EPERM`; elsewhere there is one attempt.
-/

namespace OresLocks.LocalFile

set_option autoImplicit false

open Shared.Programs

inductive LocalFileLockInspectionReason where
  | ownerMarkerMissing
  | pathNotDirectory
  | dirtyDirectory
  | ownerNotRegularFile
  | ownerTooLarge
  | ownerInvalidUtf8
  | ownerIdentityChanged
  | permissionsWidened
  | ownerContractViolation
  deriving DecidableEq

inductive LocalFileLockInspection where
  | absent
  | held (owner : JsString)
  | incomplete (message : String)
  | compromised (reason : LocalFileLockInspectionReason) (message : String)
  deriving DecidableEq

inductive InspectionOwnerRead where
  | owner (owner : JsString)
  | absent
  | incomplete

def includes (text part : String) : Bool :=
  text.toList.tails.any fun rest => part.toList.isPrefixOf rest

def causedByErrorCode (error : LocalFileLockError) (code : String) : Bool :=
  match error.cause with
  | some cause => cause.code == some code
  | none => false

def classifyBoundedOwnerError (error : LocalFileLockError) : LocalFileLockInspectionReason :=
  if includes error.message "valid UTF-8" then .ownerInvalidUtf8
  else if includes error.message "identity changed" then .ownerIdentityChanged
  else if includes error.message "permissions widened" then .permissionsWidened
  else if includes error.message "multiple filesystem links" ||
      includes error.message "multiply linked" then .ownerIdentityChanged
  else if includes error.message "exceeds the portable" && includes error.message "byte" then
    .ownerTooLarge
  else if includes error.message "regular file" then .ownerNotRegularFile
  else .ownerContractViolation

/-- The attempts after the first one. -/
def inspectionRetries (win32 : Bool) : Nat := if win32 then 3 else 0

def sleepMs (delay : Nat) : FsM Unit := await (.sleep delay)

/-- One attempt of `lstat_inspection_lock_path`; `again` is the next one. -/
def lstatInspectionLockPathOnce (win32 : Bool) (again : Option (FsM (Option Stat))) :
    FsM (Option Stat) := do
  match ← attempt (await (.lstat .lock)) with
  | .ok metadata => pure (some metadata)
  | .error (.lock error) => throw (.lock error)
  | .error (.io error) =>
    if error.code = some "ENOENT" then pure none
    else if !win32 ∨ error.code ≠ some "EPERM" then
      throw (ioError "inspect local lock path" error)
    else
      match again with
      | some next => do
        sleepMs 1
        next
      | none => throw (ioError "inspect local lock path" error)

def lstatInspectionLockPath (win32 : Bool) : Nat → FsM (Option Stat)
  | 0 => lstatInspectionLockPathOnce win32 none
  | retries + 1 => lstatInspectionLockPathOnce win32 (some (lstatInspectionLockPath win32 retries))

/-- The probe after `EPERM` on Windows: `true` when the lock path has disappeared. -/
def probeDeletionPending : FsM Bool := do
  match ← attempt (await (.lstat .lock)) with
  | .ok _ => pure false
  | .error (.lock error) => throw (.lock error)
  | .error (.io probeError) =>
    if probeError.code = some "ENOENT" then pure true
    else if probeError.code ≠ some "EPERM" then
      throw (ioError "recheck Windows deletion-pending local lock path" probeError)
    else pure false

def readInspectionEntryNamesOnce (win32 : Bool) (again : Option (FsM (Option (List Name)))) :
    FsM (Option (List Name)) := do
  match ← attempt readLocalFileLockEntryNamesBounded with
  | .ok entries => pure (some entries)
  | .error (.io error) => throw (.io error)
  | .error (.lock error) =>
    if error.kind ≠ .io then throw (.lock error)
    else if causedByErrorCode error "ENOENT" then pure none
    else if !win32 ∨ !causedByErrorCode error "EPERM" then throw (.lock error)
    else if ← probeDeletionPending then pure none
    else
      match again with
      | some next => do
        sleepMs 1
        next
      | none => throw (.lock error)

def readInspectionEntryNames (win32 : Bool) : Nat → FsM (Option (List Name))
  | 0 => readInspectionEntryNamesOnce win32 none
  | retries + 1 =>
    readInspectionEntryNamesOnce win32 (some (readInspectionEntryNames win32 retries))

/-- The probe after the owner marker was found missing. -/
def recheckAfterDisappearance (win32 : Bool) (again : Option (FsM InspectionOwnerRead)) :
    FsM InspectionOwnerRead := do
  match ← attempt (await (.lstat .lock)) with
  | .ok _ => pure .incomplete
  | .error (.lock error) => throw (.lock error)
  | .error (.io probeError) =>
    if probeError.code = some "ENOENT" then pure .absent
    else
      let failed : FsM InspectionOwnerRead :=
        throw (ioError "recheck local lock after owner disappearance" probeError)
      match again with
      | some next =>
        if win32 ∧ probeError.code = some "EPERM" then do
          sleepMs 1
          next
        else failed
      | none => failed

def readInspectionOwnerOnce (win32 : Bool) (again : Option (FsM InspectionOwnerRead)) :
    FsM InspectionOwnerRead := do
  match ← attempt (readBoundedLocalFileLockOwner win32) with
  | .ok owner => pure (.owner owner)
  | .error (.io error) => throw (.io error)
  | .error (.lock error) =>
    if error.kind = .compromised then
      if includes error.message "owner token is missing" then recheckAfterDisappearance win32 again
      else throw (.lock error)
    else if error.kind ≠ .io ∨ !win32 ∨ !causedByErrorCode error "EPERM" then throw (.lock error)
    else if ← probeDeletionPending then pure .absent
    else
      match again with
      | some next => do
        sleepMs 1
        next
      | none => throw (.lock error)

def readInspectionOwner (win32 : Bool) : Nat → FsM InspectionOwnerRead
  | 0 => readInspectionOwnerOnce win32 none
  | retries + 1 => readInspectionOwnerOnce win32 (some (readInspectionOwner win32 retries))

/-- The last checks of an owner that was read. -/
def classifyOwner (owner : JsString) : LocalFileLockInspection :=
  if owner = [] then .compromised .ownerContractViolation "owner token is empty"
  else if maxLocalFileLockOwnerCodepoints < codePoints owner then
    .compromised .ownerContractViolation
      "owner token exceeds the portable 512-code-point contract bound"
  else .held owner

/-- The inspection once the directory holds exactly the owner marker. -/
def inspectOwner (win32 : Bool) : FsM LocalFileLockInspection := do
  match ← attempt (readInspectionOwner win32 (inspectionRetries win32)) with
  | .error (.io error) => throw (.io error)
  | .error (.lock error) =>
    if error.kind = .compromised then
      pure (.compromised (classifyBoundedOwnerError error) error.message)
    else throw (.lock error)
  | .ok .absent => pure .absent
  | .ok .incomplete => pure (.incomplete "owner token disappeared during inspection")
  | .ok (.owner owner) => pure (classifyOwner owner)

def inspectLocalFileLock (win32 : Bool) : FsM LocalFileLockInspection := do
  match ← lstatInspectionLockPath win32 (inspectionRetries win32) with
  | none => pure .absent
  | some lockMetadata =>
    if lockMetadata.type ≠ .directory then
      pure (.compromised .pathNotDirectory "lock path is not an unaliased directory")
    else if !win32 && lockMetadata.mode &&& 0o077 != 0 then
      pure (.compromised .permissionsWidened
        "lock directory permissions widened beyond the private POSIX contract")
    else
      match ← readInspectionEntryNames win32 (inspectionRetries win32) with
      | none => pure .absent
      | some [] => pure (.incomplete ("lock directory has no owner marker; acquisition, release, " ++
          "or recovery may have crashed mid-transition"))
      | some [.pending] => pure (.incomplete
          "owner publication is incomplete; pending owner marker is not ownership authority")
      | some [.recovering] => pure (.incomplete
          "owner recovery is in progress; recovery claim is not reusable ownership authority")
      | some [.owner] => inspectOwner win32
      | some _ => pure (.compromised .dirtyDirectory
          "lock directory must contain exactly one published owner marker")

/-- The two inspections of `recover_local_file_lock`: whether its removal may start. -/
def authorizeRecoveryBy (inspect : FsM LocalFileLockInspection) (expectedOwner : JsString) :
    FsM Bool := do
  match ← inspect with
  | .absent => pure false
  | .incomplete _ => throw (compromised
      "incomplete lock state has no owner identity; refusing automatic recovery")
  | .compromised _ message => throw (compromised message)
  | .held owner =>
    if owner ≠ expectedOwner then
      throw (compromised "owner token does not match expected recovery owner")
    else if (← inspect) ≠ .held expectedOwner then
      throw (compromised "local lock changed during recovery; refusing deletion")
    else pure true

def authorizeRecovery (win32 : Bool) (expectedOwner : JsString) : FsM Bool :=
  authorizeRecoveryBy (inspectLocalFileLock win32) expectedOwner

/-- The rename that claims the recovery, and whether it won. -/
def claimRecovery (win32 : Bool) : FsM Bool := do
  match ← attempt (await (.rename .owner .recovering)) with
  | .ok () => pure true
  | .error error =>
    if errorCode error = some "ENOENT" then
      match ← inspectLocalFileLock win32 with
      | .absent => pure false
      | .incomplete _ => pure false
      | _ => throw (.lock ⟨.compromised, "local lock changed while claiming recovery", fsError error⟩)
    else throw (removalFailure "claim local lock recovery failed" error)

def removeClaimed : FsM Unit :=
  tryCatch
    (do
      await (.unlink .recovering)
      await .rmdir)
    fun error => throw (removalFailure "recover local lock failed after recovery claim" error)

/-- `recover_local_file_lock` for a path that is valid. -/
def recoverLocalFileLock (win32 : Bool) (expectedOwner : JsString) (confirmedInactive : Bool) :
    FsM Bool := do
  ExceptT.mk (pure (validateLocalFileLockOwner expectedOwner))
  if !confirmedInactive then
    throw (.lock ⟨.invalidInput, "explicit confirmed_inactive=true is required for recovery", none⟩)
  else if ← authorizeRecovery win32 expectedOwner then
    if ← claimRecovery win32 then
      removeClaimed
      pure true
    else pure false
  else pure false

end OresLocks.LocalFile
