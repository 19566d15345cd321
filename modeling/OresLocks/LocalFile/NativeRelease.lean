import OresLocks.LocalFile.Undisturbed

/-!
# The releases of the Rust crate and the Go package

Both look at the lock directory and its owner marker before they remove anything, and
at the other entries only when the directory does not go. `windows` drops the checks
of modes and link counts, as the build for that platform does.
-/

namespace OresLocks.LocalFile

set_option autoImplicit false

open Shared.Programs

def issue (op : FsOp) : FsProg (FsAnswer op) := .call op .done

namespace Rust

structure LocalFileLock where
  owner : String
  released : Bool
  releaseError : Option LocalFileLockError

def compromised (message : String) : LocalFileLockError := ⟨.compromised, message, none⟩

def ioError (operation : String) (error : FsError) : LocalFileLockError :=
  ⟨.io, operation ++ " failed: " ++ error.message, none⟩

/-- A missing path is compromised state, another error is reported as it is. -/
def missingOr (missing operation : String) (error : FsError) : LocalFileLockError :=
  if error.code = some "ENOENT" then compromised missing else ioError operation error

def validateRealDirectory (label : String) : LockM Unit := do
  let metadata ← asked (.lstat .lock) (missingOr (label ++ " is missing") ("inspect " ++ label))
  guardThat (metadata.type = .directory) (compromised (label ++ " is not an unaliased directory"))

def validatePrivateLockDirectory (windows : Bool) : LockM Unit :=
  if windows then pure ()
  else do
    let metadata ← asked (.lstat .lock) (ioError "inspect lock directory permissions")
    guardThat (metadata.mode &&& 0o077 = 0)
      (compromised "lock directory permissions widened beyond the private POSIX contract")

def ownerTooLarge : LocalFileLockError :=
  compromised "owner token exceeds the portable 2048-byte UTF-8 storage bound"

def readFailure : Failure → LocalFileLockError
  | .io error => ioError "read local lock owner token" error
  | .lock error => error

/-- The text of the bytes, under the owner contract. -/
def ownerText (bytes : Bytes) : LockM String :=
  match Shared.Utf8.decode bytes with
  | none => throw (compromised "owner token is not valid UTF-8")
  | some chars => do
    guardThat (chars ≠ [] ∧ chars.length ≤ maxLocalFileLockOwnerCodepoints)
      (compromised "owner token violates the portable owner contract")
    pure (String.ofList chars)

/-- The checks and the read on the open file. -/
def readOpenedOwner (windows : Bool) (pathMetadata : Stat) (handle : Nat) : LockM String := do
  let openedMetadata ← asked (.fstat handle) (ioError "inspect opened owner token")
  guardThat (openedMetadata.type = .file ∧ metadataHasMultipleLinks windows openedMetadata = false)
    (compromised "opened owner token is not a single-link unaliased regular file")
  guardThat (sameFileIdentity windows pathMetadata openedMetadata = true)
    (compromised "owner token identity changed while opening; refusing raced path-to-handle state")
  guardThat (openedMetadata.size ≤ maxLocalFileLockOwnerUtf8Bytes) ownerTooLarge
  let bytes ← (readOwnerBytes handle (maxLocalFileLockOwnerUtf8Bytes + 1) []).adapt readFailure
  guardThat (bytes.length ≤ maxLocalFileLockOwnerUtf8Bytes) ownerTooLarge
  ownerText bytes

def readBoundedOwner (windows : Bool) : LockM String := do
  let pathMetadata ← asked (.lstat (.entry .owner)) (missingOr
    "owner token is missing; refusing to trust altered lock state" "inspect local lock owner token")
  guardThat (pathMetadata.type = .file ∧ metadataHasMultipleLinks windows pathMetadata = false)
    (compromised "owner token is not a single-link unaliased regular file")
  guardThat (pathMetadata.size ≤ maxLocalFileLockOwnerUtf8Bytes) ownerTooLarge
  let handle ← asked (.openRead .owner) (ioError "open local lock owner token")
  closing handle (readOpenedOwner windows pathMetadata handle)

def validateRegularFile (windows : Bool) (label : String) : LockM Unit := do
  let metadata ← asked (.lstat (.entry .owner))
    (missingOr (label ++ " is missing") ("inspect " ++ label))
  guardThat (metadata.type = .file) (compromised (label ++ " is not an unaliased regular file"))
  guardThat (metadataHasMultipleLinks windows metadata = false)
    (compromised (label ++ " has multiple filesystem links"))

def ownerChanged : LocalFileLockError :=
  compromised ("owner token changed; refusing to remove a lock that may belong to another " ++
    "acquisition")

/-- `release_inner` before anything is removed. -/
def checkRelease (windows : Bool) (owner : String) : LockM Unit := do
  validateRealDirectory "lock directory"
  validatePrivateLockDirectory windows
  let observed ← readBoundedOwner windows
  guardThat (observed = owner) ownerChanged
  validateRegularFile windows "owner token"

def removalFailure (error : FsError) : LocalFileLockError :=
  ⟨if error.code = some "ENOTEMPTY" then .compromised else .io,
    "remove local lock directory failed: " ++ error.message, none⟩

def releaseInner (windows : Bool) (lock : LocalFileLock) :
    FsProg (LocalFileLock × Except LocalFileLockError Unit) :=
  if lock.released then pure (lock, .ok ())
  else
    match lock.releaseError with
    | some error => pure (lock, .error error)
    | none => do
      match ← (checkRelease windows lock.owner).run with
      | .error error => pure (lock, .error error)
      | .ok () =>
        match ← issue (.unlink .owner) with
        | .error error => pure (lock, .error (ioError "remove local lock owner token" error))
        | .ok () =>
          match ← issue .rmdir with
          | .ok () => pure ({ lock with released := true }, .ok ())
          | .error error =>
            pure ({ lock with releaseError := some (removalFailure error) },
              .error (removalFailure error))

end Rust

namespace Go

/-- A handle; the owner is the bytes of the string. -/
structure LocalFileLock where
  owner : Bytes
  released : Bool
  releaseErr : Option LocalFileLockError

def compromised (message : String) : LocalFileLockError := ⟨.compromised, message, none⟩

def localFileError (kind : LocalFileLockErrorKind) (message : String) (cause : FsError) :
    LocalFileLockError := ⟨kind, message, some cause⟩

/-- A missing path is compromised state, another error is reported as it is. -/
def missingOr (missing failed : String) (error : FsError) : LocalFileLockError :=
  if error.code = some "ENOENT" then localFileError .compromised missing error
  else localFileError .io failed error

def validateLocalPOSIXPrivateMode (windows : Bool) (metadata : Stat) (label : String)
    (forbidden : Nat) : LockM Unit :=
  guardThat (windows = true ∨ metadata.mode &&& forbidden = 0)
    (compromised (label ++ " permissions widened beyond the portable private-state policy"))

def validateLocalRealDirectory (windows : Bool) (label : String) : LockM Unit := do
  let info ← asked (.lstat .lock)
    (missingOr (label ++ " is missing") ("inspect " ++ label ++ " failed"))
  guardThat (info.type = .directory) (compromised (label ++ " is not an unaliased directory"))
  validateLocalPOSIXPrivateMode windows info label 0o022

def localFileHasMultipleLinks (windows : Bool) (info : Stat) : Bool := !windows && info.nlink != 1

/-- `os.SameFile`. -/
def sameFile (pathInfo openedInfo : Stat) : Bool :=
  pathInfo.identity.dev == openedInfo.identity.dev && pathInfo.identity.ino == openedInfo.identity.ino

def ownerTooLarge : LocalFileLockError :=
  compromised "owner token exceeds the portable 2048-byte UTF-8 storage bound"

def readFailure : Failure → LocalFileLockError
  | .io error => localFileError .io "read local lock owner token failed" error
  | .lock error => error

/-- The checks and the read on the open file. -/
def readOpenedOwner (windows : Bool) (pathInfo : Stat) (handle : Nat) : LockM Bytes := do
  let openedInfo ← asked (.fstat handle)
    (localFileError .io "stat opened local lock owner token failed")
  guardThat (openedInfo.type = .file ∧ sameFile pathInfo openedInfo = true ∧
      localFileHasMultipleLinks windows openedInfo = false)
    (compromised ("owner token identity changed or became multiply linked while opening; " ++
      "refusing raced path-to-handle state"))
  validateLocalPOSIXPrivateMode windows openedInfo "opened owner token" 0o077
  guardThat (openedInfo.size ≤ maxLocalFileLockOwnerUtf8Bytes) ownerTooLarge
  let owner ← (readOwnerBytes handle (maxLocalFileLockOwnerUtf8Bytes + 1) []).adapt readFailure
  guardThat (owner.length ≤ maxLocalFileLockOwnerUtf8Bytes) ownerTooLarge
  guardThat ((Shared.Utf8.decode owner).isSome = true) (compromised "owner token is not valid UTF-8")
  pure owner

def readBoundedLocalFileLockOwner (windows : Bool) : LockM Bytes := do
  let pathInfo ← asked (.lstat (.entry .owner))
    (missingOr "owner token is missing" "inspect local lock owner token failed")
  guardThat (pathInfo.type = .file) (compromised "owner token is not an unaliased regular file")
  guardThat (localFileHasMultipleLinks windows pathInfo = false)
    (compromised ("owner token has multiple filesystem links; refusing aliased ownership state"))
  validateLocalPOSIXPrivateMode windows pathInfo "owner token" 0o077
  guardThat (pathInfo.size ≤ maxLocalFileLockOwnerUtf8Bytes) ownerTooLarge
  let handle ← asked (.openRead .owner)
    (missingOr "owner token is missing" "open local lock owner token failed")
  closing handle (readOpenedOwner windows pathInfo handle)

def ownerChanged : LocalFileLockError :=
  compromised ("owner token changed; refusing to remove a lock that may belong to another " ++
    "acquisition")

/-- `Release` before anything is removed. -/
def checkRelease (windows : Bool) (owner : Bytes) : LockM Unit := do
  validateLocalRealDirectory windows "lock directory"
  let observed ← readBoundedLocalFileLockOwner windows
  guardThat (observed = owner) ownerChanged

/-- `os.Open` and `Readdirnames(1)` on the lock path. -/
def firstName : FsProg (Option Name) := do
  match ← issue .opendir with
  | .error _ => pure none
  | .ok () =>
    let names ← issue .readDirectory
    let _ ← issue .closeDirectory
    match names with
    | .ok name => pure name
    | .error _ => pure none

/-- The removals are `os.Remove`, of a regular file and of a directory. -/
def release (windows : Bool) (lock : LocalFileLock) :
    FsProg (LocalFileLock × Except LocalFileLockError Unit) :=
  if lock.released then pure (lock, .ok ())
  else
    match lock.releaseErr with
    | some error => pure (lock, .error error)
    | none => do
      match ← (checkRelease windows lock.owner).run with
      | .error error => pure (lock, .error error)
      | .ok () =>
        match ← issue (.unlink .owner) with
        | .error error =>
          pure (lock, .error (localFileError .io "remove local lock owner token failed" error))
        | .ok () =>
          match ← issue .rmdir with
          | .ok () => pure ({ lock with released := true }, .ok ())
          | .error error =>
            let name ← firstName
            let kind := if name.isSome then LocalFileLockErrorKind.compromised else .io
            let wrapped := localFileError kind "remove local lock directory failed" error
            pure ({ lock with releaseErr := some wrapped }, .error wrapped)

end Go

end OresLocks.LocalFile
