import OresLocks.LocalFile.Inspection
import OresLocks.LocalFile.NativeHolder

/-!
# Recovery in the Rust crate and the Go package

For a lock path that is valid. Both inspect the lock twice, rename its owner marker by
name and then remove the marker and the directory. Each compares the bytes of the marker
as they are, where the TypeScript package drops a leading U+FEFF.
-/

namespace OresLocks.LocalFile

set_option autoImplicit false

open Shared.Programs

namespace Rust

def authorizeRecovery (windows : Bool) (expectedOwner : String) : FsM Bool :=
  authorizeRecoveryBy (inspectLocalFileLock windows) (text expectedOwner)

/-- The rename that claims the recovery, and whether it won. -/
def claimRecovery (windows : Bool) : FsM Bool := do
  match ← ask (.rename .owner .recovering) with
  | .ok () => pure true
  | .error renameError =>
    if renameError.code = some "ENOENT" then
      match ← inspectLocalFileLock windows with
      | .absent => pure false
      | .incomplete _ => pure false
      | _ => throw (LocalFile.compromised "local lock changed while claiming recovery")
    else if renameError.code = some "EEXIST" then
      throw (LocalFile.compromised ("recovery claim already exists: " ++ renameError.message))
    else throw (.lock (ioError "claim local lock recovery" renameError))

/-- What the directory shows after it could not be removed. -/
def leftoverKind : FsM LocalFileLockErrorKind := do
  match ← ask .opendir with
  | .error _ => pure .io
  | .ok () =>
    let next ← ask .readDirectory
    let _ ← ask .closeDirectory
    match next with
    | .ok none => pure .io
    | _ => pure .compromised

def removeClaimed : FsM Unit := do
  match ← ask (.unlink .recovering) with
  | .error removeError => throw (.lock (ioError "remove recovered owner claim" removeError))
  | .ok () =>
    match ← ask .rmdir with
    | .ok () => pure ()
    | .error removeError =>
      let kind ← leftoverKind
      throw (.lock ⟨kind, "remove recovered lock directory failed after recovery claim: " ++
        removeError.message, none⟩)

def recoverLocalFileLock (windows : Bool) (expectedOwner : String) (confirmedInactive : Bool) :
    FsM Bool := do
  if !confirmedInactive then
    throw (.lock (invalidInput "explicit confirmed_inactive=true is required for recovery"))
  else
    ExceptT.mk (pure ((validateLocalFileOwner expectedOwner).mapError .lock))
    if ← authorizeRecovery windows expectedOwner then
      if ← claimRecovery windows then
        removeClaimed
        pure true
      else pure false
    else pure false

end Rust

namespace Go

inductive LocalFileLockInspectionState where
  | absent
  | held
  | incomplete
  | compromised
  deriving DecidableEq

/-- The owner is the bytes of the string, and a reason is none where the string is empty. -/
structure LocalFileLockInspection where
  state : LocalFileLockInspectionState
  owner : Bytes
  reason : Option LocalFileLockInspectionReason
  message : String
  deriving DecidableEq

namespace LocalFileLockInspection

def absent : LocalFileLockInspection := ⟨.absent, [], none, ""⟩

def held (owner : Bytes) : LocalFileLockInspection := ⟨.held, owner, none, ""⟩

def incomplete (message : String) : LocalFileLockInspection :=
  ⟨.incomplete, [], some .ownerMarkerMissing, message⟩

def compromised (reason : LocalFileLockInspectionReason) (message : String) :
    LocalFileLockInspection :=
  ⟨.compromised, [], some reason, message⟩

end LocalFileLockInspection

def kindText : LocalFileLockErrorKind → String
  | .contention => "contention"
  | .timeout => "timeout"
  | .compromised => "compromised"
  | .io => "io"
  | .invalidInput => "invalid_input"

/-- `Error`; `path` is the lock path as `%q` prints it. -/
def errorText (path : String) (err : LocalFileLockError) : String :=
  "local filesystem lock " ++ kindText err.kind ++ " at " ++ path ++ ": " ++ err.message

def reasonFromLocalOwnerError (message : String) : LocalFileLockInspectionReason :=
  if includes message "multiple filesystem links" || includes message "identity changed" then
    .ownerIdentityChanged
  else if includes message "not an unaliased regular file" then .ownerNotRegularFile
  else if includes message "2048-byte" then .ownerTooLarge
  else if includes message "not valid UTF-8" then .ownerInvalidUtf8
  else if includes message "permissions widened" then .permissionsWidened
  else .ownerContractViolation

/-- At most that many names of the open directory. -/
def readNames : Nat → LockM (List Name)
  | 0 => pure []
  | more + 1 => do
    match ← asked .readDirectory (localFileError .io "list local lock directory failed") with
    | none => pure []
    | some name =>
      let names ← readNames more
      pure (name :: names)

def readEntryNames : LockM (List Name) := do
  asked .opendir (localFileError .io "open local lock directory failed")
  let entries ← attempt (readNames 2)
  let closed ← ask .closeDirectory
  match entries, closed with
  | .error readErr, _ => throw readErr
  | .ok _, .error closeErr =>
    throw (localFileError .io "close local lock directory failed" closeErr)
  | .ok names, .ok () => pure names

/-- The last checks of an owner that was read. -/
def classifyOwner (owner : Bytes) : LocalFileLockInspection :=
  if owner = [] then .compromised .ownerContractViolation "owner token is empty"
  else
    match Shared.Utf8.decode owner with
    | none => .compromised .ownerInvalidUtf8 "owner token is not valid UTF-8"
    | some runes =>
      if maxLocalFileLockOwnerCodepoints < runes.length then
        .compromised .ownerContractViolation
          "owner token exceeds the portable 512-code-point contract bound"
      else .held owner

/-- The inspection once the directory holds exactly the owner marker. -/
def inspectOwner (windows : Bool) : LockM LocalFileLockInspection := do
  match ← attempt (readBoundedLocalFileLockOwner windows) with
  | .ok owner => pure (classifyOwner owner)
  | .error err =>
    if err.kind = .compromised ∧ err.cause.any (fun cause => cause.code = some "ENOENT") then
      pure (.incomplete "owner token disappeared during inspection")
    else if err.kind = .compromised then
      pure (.compromised (reasonFromLocalOwnerError err.message) err.message)
    else throw err

def inspectLocalFileLock (windows : Bool) (path : String) : LockM LocalFileLockInspection := do
  match ← ask (.lstat .lock) with
  | .error err =>
    if err.code = some "ENOENT" then pure .absent
    else throw (localFileError .io "inspect local lock path failed" err)
  | .ok info =>
    if info.type ≠ .directory then
      pure (.compromised .pathNotDirectory "lock path is not an unaliased directory")
    else
      match ← attempt (validateLocalPOSIXPrivateMode windows info "lock directory" 0o022) with
      | .error err => pure (.compromised .permissionsWidened (errorText path err))
      | .ok () =>
        match ← readEntryNames with
        | [] => pure (.incomplete ("lock directory has no owner marker; acquisition, release, " ++
            "or recovery may have crashed mid-transition"))
        | [.pending] => pure (.incomplete
            "owner publication is incomplete; pending owner marker is not ownership authority")
        | [.recovering] => pure (.incomplete
            "owner recovery is in progress; recovery claim is not reusable ownership authority")
        | [.owner] => inspectOwner windows
        | _ => pure (.compromised .dirtyDirectory
            "lock directory must contain exactly one published owner marker")

/-- The inspections of `RecoverLocalFileLock`: whether its removal may start. -/
def authorizeRecovery (windows : Bool) (path : String) (expectedOwner : Bytes) : LockM Bool := do
  let inspection ← inspectLocalFileLock windows path
  match inspection.state with
  | .absent => pure false
  | .incomplete => throw (compromised
      "incomplete lock state has no owner identity; refusing automatic recovery")
  | .compromised => throw (compromised inspection.message)
  | .held =>
    if inspection.owner ≠ expectedOwner then
      throw (compromised "owner token does not match expected recovery owner")
    else
      let finalInspection ← inspectLocalFileLock windows path
      if finalInspection.state ≠ .held ∨ finalInspection.owner ≠ expectedOwner then
        throw (compromised "local lock changed during recovery; refusing deletion")
      else pure true

/-- The rename that claims the recovery, and whether it won. `os.ErrExist` stands for two
error numbers. -/
def claimRecovery (windows : Bool) (path : String) : LockM Bool := do
  match ← ask (.rename .owner .recovering) with
  | .ok () => pure true
  | .error err =>
    if err.code = some "ENOENT" then
      let after ← inspectLocalFileLock windows path
      match after.state with
      | .absent => pure false
      | .incomplete => pure false
      | _ => throw (localFileError .compromised "local lock changed while claiming recovery" err)
    else if err.code = some "EEXIST" ∨ err.code = some "ENOTEMPTY" then
      throw (localFileError .compromised "recovery claim already exists" err)
    else throw (localFileError .io "claim local lock recovery failed" err)

/-- After an attempt that failed: the next one, or the error of the last. -/
def retryRemoval (again : Option (LockM Unit)) (lastErr : FsError) : LockM Unit :=
  match again with
  | some next => do
    let _ ← ask (.sleep 2)
    next
  | none =>
    throw (localFileError .io "remove recovered lock directory failed after recovery claim" lastErr)

/-- One attempt of `removeRecoveredLockDirectory`; `again` is the next one. -/
def removeRecoveredLockDirectoryOnce (again : Option (LockM Unit)) : LockM Unit := do
  match ← ask .rmdir with
  | .ok () => pure ()
  | .error lastErr =>
    match ← ask .opendir with
    | .error openErr => if openErr.code = some "ENOENT" then pure () else retryRemoval again lastErr
    | .ok () =>
      let names ← ask .readDirectory
      let _ ← ask .closeDirectory
      match names with
      | .ok (some _) =>
        throw (localFileError .compromised ("remove recovered lock directory failed after " ++
          "recovery claim; directory is no longer empty") lastErr)
      | _ => retryRemoval again lastErr

def removeRecoveredLockDirectory : Nat → LockM Unit
  | 0 => removeRecoveredLockDirectoryOnce none
  | retries + 1 =>
    removeRecoveredLockDirectoryOnce (some (removeRecoveredLockDirectory retries))

/-- The attempts after the first one. -/
def removalRetries (windows : Bool) : Nat := if windows then 49 else 0

/-- The removals are `os.Remove`, of a regular file and of a directory. -/
def recoverLocalFileLock (windows : Bool) (path : String) (expectedOwner : Bytes)
    (confirmedInactive : Bool) : LockM Bool := do
  if !confirmedInactive then
    throw (invalidInput "explicit confirmed_inactive=true is required for recovery")
  else
    ExceptT.mk (pure (validateLocalOwner expectedOwner))
    if ← authorizeRecovery windows path expectedOwner then
      if ← claimRecovery windows path then
        asked (.unlink .recovering) (localFileError .io "remove recovered owner claim failed")
        removeRecoveredLockDirectory (removalRetries windows)
        pure true
      else pure false
    else pure false

end Go

end OresLocks.LocalFile
