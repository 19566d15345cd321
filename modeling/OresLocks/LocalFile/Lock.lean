import OresLocks.LocalFile.FileSystem
import OresLocks.LocalFile.OwnerText

/-!
# Acquiring and releasing the lock directory

The programs of the TypeScript package, one filesystem call for each `await`. The
constructor `lock` of a failure is an instance of `LocalFileLockError`; `io` is what a
filesystem call rejected with. Of the cause of an error only a filesystem error is
ever read again.
-/

namespace OresLocks.LocalFile

set_option autoImplicit false

open Shared.Programs

inductive LocalFileLockErrorKind where
  | contention
  | timeout
  | compromised
  | io
  | invalidInput
  deriving DecidableEq

structure LocalFileLockError where
  kind : LocalFileLockErrorKind
  message : String
  cause : Option FsError
  deriving DecidableEq

inductive Failure where
  | io (error : FsError)
  | lock (error : LocalFileLockError)
  deriving DecidableEq

abbrev FsProg := Prog FsOp FsAnswer

abbrev FsM := ExceptT Failure FsProg

def await (op : FsOp) : FsM op.Answer :=
  ExceptT.mk (.call op fun answer => .done (answer.mapError .io))

def errorCode : Failure → Option String
  | .io error => error.code
  | .lock _ => none

def describeError : Failure → String
  | .io error => error.message
  | .lock error => error.message

def fsError : Failure → Option FsError
  | .io error => some error
  | .lock _ => none

def ioError (operation : String) (error : FsError) : Failure :=
  .lock ⟨.io, operation ++ " failed: " ++ error.message, some error⟩

def compromised (message : String) : Failure := .lock ⟨.compromised, message, none⟩

def compromisedBy (message : String) (cause : FsError) : Failure :=
  .lock ⟨.compromised, message, some cause⟩

/-- A `catch` that rethrows instances of `LocalFileLockError`. -/
def catchIo {α : Type} (x : FsM α) (handler : FsError → FsM α) : FsM α :=
  tryCatch x fun failure =>
    match failure with
    | .lock error => throw (.lock error)
    | .io error => handler error

def validateLocalFileLockOwner (owner : JsString) : Except Failure Unit :=
  if owner = [] then .error (.lock ⟨.invalidInput, "owner token must not be empty", none⟩)
  else if hasLoneSurrogate owner then
    .error (.lock ⟨.invalidInput, "owner token must contain only valid Unicode scalar values", none⟩)
  else if maxLocalFileLockOwnerCodepoints < codePoints owner then
    .error (.lock ⟨.invalidInput, "owner token must not exceed 512 Unicode code points", none⟩)
  else .ok ()

/-- `win32` says whether the platform is Windows, where modes are not read. -/
def validatePosixPrivateMode (win32 : Bool) (mode : Nat) (label : String) : FsM Unit :=
  if !win32 && mode &&& 0o077 != 0 then
    throw (compromised (label ++ " permissions widened beyond the private POSIX contract"))
  else pure ()

def validateRealDirectory (place : Place) (label : String) : FsM Unit :=
  catchIo
    (do
      let metadata ← await (.lstat place)
      if metadata.type = .directory then pure ()
      else throw (compromised (label ++ " is not an unaliased directory")))
    fun error =>
      if error.code = some "ENOENT" then throw (compromisedBy (label ++ " is missing") error)
      else throw (ioError ("inspect " ++ label) error)

def validatePosixTrustedParent (win32 : Bool) : FsM Unit :=
  if win32 then pure ()
  else
    catchIo
      (do
        let metadata ← await (.lstat .parent)
        if metadata.mode &&& 0o022 ≠ 0 then
          throw (compromised
            "lock parent is group/world writable and is outside the trusted private-root boundary")
        else pure ())
      fun error => throw (ioError "inspect POSIX lock-parent permissions" error)

def validatePosixPrivateLockDirectory (win32 : Bool) : FsM Unit :=
  if win32 then pure ()
  else
    catchIo
      (do
        let metadata ← await (.lstat .lock)
        validatePosixPrivateMode win32 metadata.mode "lock directory")
      fun error => throw (ioError "inspect POSIX lock-directory permissions" error)

def validateRegularFile (win32 : Bool) (name : Name) (label : String) : FsM Unit :=
  catchIo
    (do
      let metadata ← await (.lstat (.entry name))
      if metadata.type = .file then
        if metadata.nlink = 1 then validatePosixPrivateMode win32 metadata.mode label
        else throw (compromised (label ++ " has multiple filesystem links"))
      else throw (compromised (label ++ " is not an unaliased regular file")))
    fun error =>
      if error.code = some "ENOENT" then throw (compromisedBy (label ++ " is missing") error)
      else throw (ioError ("inspect " ++ label) error)

def readLocalFileLockEntryNamesBounded : FsM (List Name) := do
  let listing : FsError → FsM (List Name) := fun error =>
    throw (ioError "list local lock directory" error)
  match ← attempt (await .opendir) with
  | .error (.lock error) => throw (.lock error)
  | .error (.io error) => listing error
  | .ok () =>
    finallyDo
      (catchIo
        (do
          match ← await .readDirectory with
          | none => pure []
          | some first =>
            match ← await .readDirectory with
            | none => pure [first]
            | some second => pure [first, second])
        listing)
      (await .closeDirectory)

def readLocalFileOwnerIdentity : FsM Identity := do
  match ← attempt (await (.lstat (.entry .owner))) with
  | .error (.lock error) => throw (.lock error)
  | .error (.io error) => throw (ioError "inspect local lock owner identity" error)
  | .ok metadata =>
    if metadata.type = .file ∧ metadata.nlink = 1 then pure metadata.identity
    else throw (compromised "owner marker identity is not a single-link unaliased regular file")

def ownerTooLarge : Failure :=
  compromised "owner token exceeds the portable 2048-byte UTF-8 storage bound"

/-- The bytes read into a buffer with one byte more than an owner may have. -/
def readOwnerBytes (handle : Nat) : Nat → Bytes → FsM Bytes
  | 0, bytes => pure bytes
  | fuel + 1, bytes =>
    if bytes.length < maxLocalFileLockOwnerUtf8Bytes + 1 then do
      let chunk ← await
        (.read handle bytes.length (maxLocalFileLockOwnerUtf8Bytes + 1 - bytes.length))
      if chunk = [] then pure bytes else readOwnerBytes handle fuel (bytes ++ chunk)
    else pure bytes

/-- The errors of `read_bounded_local_file_lock_owner`. -/
def catchOwnerRead {α : Type} (x : FsM α) : FsM α :=
  catchIo x fun error =>
    if error.code = some "ENOENT" then throw (compromisedBy "owner token is missing" error)
    else throw (ioError "read local lock owner token" error)

/-- The checks up to the `open` of the owner marker. -/
def openBoundedLocalFileLockOwner (win32 : Bool) : FsM (Stat × Nat) := do
  let pathMetadata ← await (.lstat (.entry .owner))
  if pathMetadata.type ≠ .file then
    throw (compromised "owner token is not an unaliased regular file")
  else if pathMetadata.nlink ≠ 1 then
    throw (compromised "owner token has multiple filesystem links; refusing aliased ownership state")
  else
    validatePosixPrivateMode win32 pathMetadata.mode "owner token"
    if maxLocalFileLockOwnerUtf8Bytes < pathMetadata.size then throw ownerTooLarge
    else
      let handle ← await (.openRead .owner)
      pure (pathMetadata, handle)

/-- The checks and reads on the open handle. -/
def readOpenedLocalFileLockOwner (win32 : Bool) (pathMetadata : Stat) (handle : Nat) :
    FsM JsString := do
  let openedMetadata ← await (.fstat handle)
  if openedMetadata.type ≠ .file ∨ openedMetadata.nlink ≠ 1 ∨
      openedMetadata.identity.dev ≠ pathMetadata.identity.dev ∨
      openedMetadata.identity.ino ≠ pathMetadata.identity.ino then
    throw (compromised ("owner token identity changed or became multiply linked while opening; " ++
      "refusing raced path-to-handle state"))
  else
    validatePosixPrivateMode win32 openedMetadata.mode "opened owner token"
    if maxLocalFileLockOwnerUtf8Bytes < openedMetadata.size then throw ownerTooLarge
    else
      let bytes ← readOwnerBytes handle (maxLocalFileLockOwnerUtf8Bytes + 1) []
      if maxLocalFileLockOwnerUtf8Bytes < bytes.length then throw ownerTooLarge
      else
        match decodeOwner bytes with
        | some owner => pure owner
        | none => throw (compromised "owner token is not valid UTF-8")

def readBoundedLocalFileLockOwner (win32 : Bool) : FsM JsString := do
  let (pathMetadata, handle) ← catchOwnerRead (openBoundedLocalFileLockOwner win32)
  finallyDo (catchOwnerRead (readOpenedLocalFileLockOwner win32 pathMetadata handle))
    (await (.close handle))

inductive ReleaseState where
  | held
  | released
  | partially
  deriving DecidableEq

/-- A handle. `releasePromise` is the release in flight. -/
structure LocalFileLock where
  owner : JsString
  ownerIdentity : Identity
  releaseState : ReleaseState
  partialReleaseError : Option Failure
  releasePromise : Option (FsProg (ReleaseState × Except Failure Unit))

def prepareLockParent (win32 : Bool) : FsM Unit :=
  catchIo
    (do
      await .mkdirParent
      validateRealDirectory .parent "lock parent"
      validatePosixTrustedParent win32)
    fun error => throw (ioError "prepare local lock parent" error)

/-- The loop over `transitionAttempt`: whether this call created the directory. -/
def createLockDirectory (win32 : Bool) : Nat → FsM Bool
  | 0 => pure false
  | attempts + 1 =>
    catchIo
      (do
        await .mkdir
        validatePosixPrivateLockDirectory win32
        pure true)
      fun error =>
        if error.code ≠ some "EEXIST" then
          throw (ioError "atomically create local lock directory" error)
        else
          catchIo
            (do
              let metadata ← await (.lstat .lock)
              if metadata.type = .directory then pure false
              else throw (compromisedBy
                "lock path already exists but is not an unaliased directory" error))
            fun inspectError =>
              if inspectError.code = some "ENOENT" then createLockDirectory win32 attempts
              else throw (ioError "inspect contended local lock path" inspectError)

def inspectPublicationTarget : FsM Unit :=
  catchIo
    (do
      let _ ← await (.lstat (.entry .owner))
      throw (compromised "published owner target already exists before atomic publication"))
    fun targetError =>
      if targetError.code = some "ENOENT" then pure ()
      else throw (ioError "inspect owner publication target" targetError)

/-- The publication; a failure comes with `pendingHandle` as it then is. -/
def publishOwner (owner : JsString) : ExceptT (Failure × Option Nat) FsProg Unit := do
  let handle ← (await (.openExclusive .pending)).adapt fun failure => (failure, none)
  ExceptT.adapt (fun failure => (failure, some handle))
    (do
      await (.write handle (JsString.encode owner))
      await (.sync handle)
      await (.close handle))
  ExceptT.adapt (fun failure => (failure, none))
    (do
      inspectPublicationTarget
      await (.rename .pending .owner))

def unlinkIfPresent (name : Name) : FsM Unit :=
  tryCatch (await (.unlink name)) fun cleanupError =>
    if errorCode cleanupError = some "ENOENT" then pure () else throw cleanupError

def closeQuietly (pendingHandle : Option Nat) : FsM Unit :=
  match pendingHandle with
  | none => pure ()
  | some handle => tryCatch (await (.close handle)) fun _ => pure ()

def rollbackPublication : FsM Unit := do
  unlinkIfPresent .pending
  unlinkIfPresent .owner
  await .rmdir

/-- What is thrown after a failed publication. -/
def publicationFailure (error : Failure) (rollback : Except Failure Unit) : Failure :=
  match rollback with
  | .error rollbackError => compromised ("owner publication failed: " ++ describeError error ++
      "; provisional lock rollback also failed: " ++ describeError rollbackError)
  | .ok () =>
    match error with
    | .lock error => .lock error
    | .io error =>
      if error.code = some "EEXIST" then
        compromisedBy
          "owner publication marker already exists after winning lock directory creation" error
      else ioError "publish local lock owner token" error

def publishOrRollback (owner : JsString) : FsM Unit := do
  match ← ExceptT.lift (publishOwner owner).run with
  | .ok () => pure ()
  | .error (error, pendingHandle) =>
    closeQuietly pendingHandle
    let rollback ← attempt rollbackPublication
    throw (publicationFailure error rollback)

def rollbackOwner : FsM Unit := do
  await (.unlink .owner)
  await .rmdir

def identifyOrRollback (win32 : Bool) : FsM Identity :=
  tryCatch
    (do
      validateRegularFile win32 .owner "owner token"
      readLocalFileOwnerIdentity)
    fun error => do
      match ← attempt rollbackOwner with
      | .error rollbackError =>
        throw (.lock ⟨.compromised, "owner token was published but validation failed and " ++
          "rollback also failed: " ++ describeError rollbackError, fsError rollbackError⟩)
      | .ok () => throw error

/-- `try_acquire_local_file_lock` for a path that is valid. -/
def tryAcquireLocalFileLock (win32 : Bool) (owner : JsString) : FsM (Option LocalFileLock) := do
  ExceptT.mk (pure (validateLocalFileLockOwner owner))
  prepareLockParent win32
  if ← createLockDirectory win32 2 then
    publishOrRollback owner
    let ownerIdentity ← identifyOrRollback win32
    pure (some ⟨owner, ownerIdentity, .held, none, none⟩)
  else pure none

/-- The checks of `#release_once` before anything is removed. -/
def checkRelease (win32 : Bool) (lock : LocalFileLock) : FsM Unit := do
  validateRealDirectory .lock "lock directory"
  validatePosixPrivateLockDirectory win32
  let entries ← readLocalFileLockEntryNamesBounded
  if entries ≠ [.owner] then
    throw (compromised
      "lock directory must contain exactly one published owner marker before release")
  else
    validateRegularFile win32 .owner "owner token"
    let currentOwnerIdentity ← readLocalFileOwnerIdentity
    if lock.ownerIdentity ≠ currentOwnerIdentity then
      throw (compromised ("owner marker identity changed; refusing stale-handle release across " ++
        "recovery/reacquisition"))
    else
      let observed ← readBoundedLocalFileLockOwner win32
      if observed ≠ lock.owner then
        throw (compromised ("owner token changed; refusing to remove a lock that may belong to " ++
          "another acquisition"))
      else pure ()

/-- The removals; a failure comes with `ownerRemoved` as it then is. -/
def removeOwned : ExceptT (Failure × Bool) FsProg Unit := do
  (await (.unlink .owner)).adapt fun failure => (failure, false)
  (await .rmdir).adapt fun failure => (failure, true)

/-- An error that reports leftover entries means a compromised lock. -/
def removalFailure (failed : String) (error : Failure) : Failure :=
  let kind :=
    if errorCode error = some "ENOTEMPTY" ∨ errorCode error = some "EEXIST" then
      LocalFileLockErrorKind.compromised
    else .io
  .lock ⟨kind, failed ++ ": " ++ describeError error, fsError error⟩

/-- `#release_once`: the state it leaves the handle in, and how its promise settles. -/
def releaseOnce (win32 : Bool) (lock : LocalFileLock) :
    FsProg (ReleaseState × Except Failure Unit) := do
  match ← (checkRelease win32 lock).run with
  | .error error => pure (.held, .error error)
  | .ok () =>
    match ← removeOwned.run with
    | .ok () => pure (.released, .ok ())
    | .error (error, ownerRemoved) =>
      pure (if ownerRemoved then .partially else .held,
        .error (removalFailure "remove local lock directory failed" error))

end OresLocks.LocalFile
