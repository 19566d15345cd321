import OresLocks.LocalFile.NativeRelease

/-!
# The acquisitions of the Rust crate and the Go package

For a lock path that is valid and has a parent. Where the publication fails, what is left
of it is removed without looking at the answers. `os.Remove` is the removal of a file for
the marker and of a directory for the lock path.
-/

namespace OresLocks.LocalFile

set_option autoImplicit false

open Shared.Programs

namespace Rust

def invalidInput (message : String) : LocalFileLockError := ⟨.invalidInput, message, none⟩

def validateLocalFileOwner (owner : String) : Except LocalFileLockError Unit :=
  if owner.isEmpty then .error (invalidInput "owner token must not be empty")
  else if maxLocalFileLockOwnerCodepoints < owner.toList.length then
    .error (invalidInput "owner token must not exceed 512 Unicode code points")
  else .ok ()

/-- `create_dir_all` of the parent, and what `validate_real_directory` says of it. -/
def prepareParent : LockM Unit := do
  asked .mkdirParent (ioError "create lock parent")
  let metadata ← asked (.lstat .parent) (missingOr "lock parent is missing" "inspect lock parent")
  guardThat (metadata.type = .directory) (compromised "lock parent is not an unaliased directory")

/-- The loop over `transition_attempt`: whether this call created the directory. -/
def createLockDirectory : Nat → LockM Bool
  | 0 => pure false
  | attempts + 1 => do
    match ← ask .mkdir with
    | .ok () => pure true
    | .error error =>
      if error.code = some "EEXIST" then
        match ← ask (.lstat .lock) with
        | .ok metadata =>
          if metadata.type = .directory then pure false
          else throw (compromised "lock path already exists but is not an unaliased directory")
        | .error inspectError =>
          if inspectError.code = some "ENOENT" then createLockDirectory attempts
          else throw (ioError "inspect contended local lock path" inspectError)
      else throw (ioError "atomically create local lock directory" error)

/-- Both removals after a failed publication. -/
def withdraw (error : LocalFileLockError) : LockM Unit := do
  let _ ← ask (.unlink .pending)
  let _ ← ask .rmdir
  throw error

/-- From the target check on. -/
def renameOwner : LockM Unit := do
  match ← ask (.lstat (.entry .owner)) with
  | .ok _ =>
    withdraw (compromised "published owner target already exists before atomic publication")
  | .error error =>
    if error.code = some "ENOENT" then
      match ← ask (.rename .pending .owner) with
      | .ok () => pure ()
      | .error error => withdraw (ioError "atomically publish local lock owner token" error)
    else withdraw (ioError "inspect owner publication target" error)

/-- The open pending marker: `drop` closes it. -/
def writeOwner (owner : String) (handle : Nat) : LockM Unit := do
  match ← ask (.write handle (Shared.Utf8.utf8 owner)) with
  | .error error =>
    let _ ← ask (.close handle)
    withdraw (ioError "write pending local lock owner token" error)
  | .ok () =>
    match ← ask (.sync handle) with
    | .error error =>
      let _ ← ask (.close handle)
      withdraw (ioError "sync pending local lock owner token" error)
    | .ok () =>
      let _ ← ask (.close handle)
      renameOwner

def publishOwner (owner : String) : LockM Unit := do
  match ← ask (.openExclusive .pending) with
  | .error error =>
    let _ ← ask .rmdir
    throw ⟨if error.code = some "EEXIST" then .compromised else .io,
      "create pending local lock owner token failed: " ++ error.message, none⟩
  | .ok handle => writeOwner owner handle

def tryAcquire (windows : Bool) (owner : String) : LockM (Option LocalFileLock) := do
  ExceptT.mk (pure (validateLocalFileOwner owner))
  prepareParent
  if ← createLockDirectory 2 then
    validatePrivateLockDirectory windows
    publishOwner owner
    pure (some ⟨owner, false, none⟩)
  else pure none

end Rust

namespace Go

def invalidInput (message : String) : LocalFileLockError := ⟨.invalidInput, message, none⟩

def validateLocalOwner (owner : Bytes) : Except LocalFileLockError Unit :=
  if owner = [] then .error (invalidInput "owner token must not be empty")
  else
    match Shared.Utf8.decode owner with
    | none => .error (invalidInput "owner token must be valid UTF-8 Unicode scalar data")
    | some runes =>
      if maxLocalFileLockOwnerCodepoints < runes.length then
        .error (invalidInput "owner token must not exceed 512 Unicode code points")
      else .ok ()

/-- `os.MkdirAll` of the parent, and what `validateLocalRealDirectory` says of it. -/
def prepareParent (windows : Bool) : LockM Unit := do
  asked .mkdirParent (localFileError .io "create lock parent failed")
  let info ← asked (.lstat .parent)
    (missingOr "lock parent is missing" "inspect lock parent failed")
  guardThat (info.type = .directory) (compromised "lock parent is not an unaliased directory")
  validateLocalPOSIXPrivateMode windows info "lock parent" 0o022

/-- The loop over `transitionAttempt`: whether this call created the directory. -/
def createLockDirectory (windows : Bool) : Nat → LockM Bool
  | 0 => pure false
  | attempts + 1 => do
    match ← ask .mkdir with
    | .ok () => pure true
    | .error mkdirErr =>
      if mkdirErr.code = some "EEXIST" then
        match ← ask (.lstat .lock) with
        | .ok info =>
          if info.type = .directory then do
            validateLocalPOSIXPrivateMode windows info "lock directory" 0o022
            pure false
          else
            throw (localFileError .compromised
              "lock path already exists but is not an unaliased directory" mkdirErr)
        | .error inspectErr =>
          if inspectErr.code = some "ENOENT" then createLockDirectory windows attempts
          else throw (localFileError .io "inspect contended local lock path failed" inspectErr)
      else
        throw (localFileError .io "atomically create local lock directory failed" mkdirErr)

/-- Both removals after a failed publication. -/
def withdraw (error : LocalFileLockError) : LockM Unit := do
  let _ ← ask (.unlink .pending)
  let _ ← ask .rmdir
  throw error

/-- From the target check on. -/
def renameOwner : LockM Unit := do
  match ← ask (.lstat (.entry .owner)) with
  | .ok _ =>
    withdraw (compromised "published owner target already exists before atomic publication")
  | .error statErr =>
    if statErr.code = some "ENOENT" then
      match ← ask (.rename .pending .owner) with
      | .ok () => pure ()
      | .error renameErr =>
        withdraw (localFileError .io "atomically publish local lock owner token failed" renameErr)
    else withdraw (localFileError .io "inspect owner publication target failed" statErr)

/-- The first of the write, sync and close errors counts; the file is closed in any case. -/
def writeOwner (owner : Bytes) (handle : Nat) : LockM Unit := do
  match ← ask (.write handle owner) with
  | .error writeErr =>
    let _ ← ask (.close handle)
    withdraw (localFileError .io "write pending local lock owner token failed" writeErr)
  | .ok () =>
    let synced ← ask (.sync handle)
    let closed ← ask (.close handle)
    match synced, closed with
    | .error syncErr, _ =>
      withdraw (localFileError .io "sync pending local lock owner token failed" syncErr)
    | .ok (), .error closeErr =>
      withdraw (localFileError .io "close pending local lock owner token failed" closeErr)
    | .ok (), .ok () => renameOwner

def publishOwner (owner : Bytes) : LockM Unit := do
  match ← ask (.openExclusive .pending) with
  | .error openErr =>
    let _ ← ask .rmdir
    throw (localFileError (if openErr.code = some "EEXIST" then .compromised else .io)
      "create pending local lock owner token failed" openErr)
  | .ok handle => writeOwner owner handle

/-- The handle, or none under ordinary contention. -/
def tryAcquireLocalFileLock (windows : Bool) (owner : Bytes) : LockM (Option LocalFileLock) := do
  ExceptT.mk (pure (validateLocalOwner owner))
  prepareParent windows
  if ← createLockDirectory windows 2 then
    publishOwner owner
    pure (some ⟨owner, false, none⟩)
  else pure none

end Go

end OresLocks.LocalFile
