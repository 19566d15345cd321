import OresLocks.LocalFile.Reading

/-!
# What an inspection sees of a path that is used cleanly

The inspections of the TypeScript package and of the Rust crate. A stage is what an
inspection has learnt; the answers it can get in that stage are those of a lock path that
only ever holds nothing, an empty directory, a pending marker or a whole published owner.
From such answers no inspection on POSIX concludes that the lock is compromised.
-/

namespace OresLocks.LocalFile

set_option autoImplicit false

open Shared.Programs JsString

namespace Rust

def metadataHasMultipleLinks (windows : Bool) (metadata : Stat) : Bool :=
  !windows && metadata.nlink != 1

def sameFileIdentity (windows : Bool) (pathMetadata openedMetadata : Stat) : Bool :=
  windows || (pathMetadata.identity.dev == openedMetadata.identity.dev &&
    pathMetadata.identity.ino == openedMetadata.identity.ino)

def readEntryNamesBounded : FsM (List Name) := do
  match ← attempt (await .opendir) with
  | .error (.lock error) => throw (.lock error)
  | .error (.io error) => throw (ioError "list local lock directory" error)
  | .ok () =>
    finallyDo
      (catchIo
        (do
          match ← await .readDirectory with
          | none => pure []
          | some first =>
            match ← await .readDirectory with
            | none => pure [first]
            | some second => pure [first, second])
        fun error => throw (ioError "read local lock directory entry" error))
      (tryCatch (await .closeDirectory) fun _ => pure ())

/-- `String::from_utf8`, which keeps a leading U+FEFF. -/
def fromUtf8 (bytes : Bytes) : Option JsString :=
  (Shared.Utf8.decode bytes).map fun chars => chars.flatMap utf16

/-- The inspection of the opened owner marker. -/
def inspectOpenedOwner (windows : Bool) (ownerMetadata : Stat) (handle : Nat) :
    FsM LocalFileLockInspection := do
  match ← attempt (await (.fstat handle)) with
  | .error (.lock error) => throw (.lock error)
  | .error (.io error) => throw (ioError "reinspect opened local lock owner token" error)
  | .ok openedMetadata =>
    if openedMetadata.type ≠ .file then
      pure (.compromised .ownerNotRegularFile
        "opened owner token is not an unaliased regular file")
    else if metadataHasMultipleLinks windows openedMetadata then
      pure (.compromised .ownerIdentityChanged
        "opened owner token became multiply linked while inspecting")
    else if !sameFileIdentity windows ownerMetadata openedMetadata then
      pure (.compromised .ownerIdentityChanged
        "owner token identity changed while opening; refusing raced path-to-handle state")
    else
      match ← attempt (readOwnerBytes handle (maxLocalFileLockOwnerUtf8Bytes + 1) []) with
      | .error (.lock error) => throw (.lock error)
      | .error (.io error) => throw (ioError "read local lock owner token" error)
      | .ok bytes =>
        if maxLocalFileLockOwnerUtf8Bytes < bytes.length then
          pure (.compromised .ownerTooLarge
            "owner token exceeds the portable 2048-byte UTF-8 storage bound")
        else
          match fromUtf8 bytes with
          | none => pure (.compromised .ownerInvalidUtf8 "owner token is not valid UTF-8")
          | some owner => pure (classifyOwner owner)

/-- The inspection once the directory holds exactly the owner marker. -/
def inspectOwner (windows : Bool) : FsM LocalFileLockInspection := do
  match ← attempt (await (.lstat (.entry .owner))) with
  | .error (.lock error) => throw (.lock error)
  | .error (.io error) =>
    if error.code = some "ENOENT" then pure (.incomplete "owner token disappeared during inspection")
    else throw (ioError "inspect local lock owner token" error)
  | .ok ownerMetadata =>
    if ownerMetadata.type ≠ .file then
      pure (.compromised .ownerNotRegularFile "owner token is not an unaliased regular file")
    else if metadataHasMultipleLinks windows ownerMetadata then
      pure (.compromised .ownerIdentityChanged
        "owner token has multiple filesystem links; refusing aliased ownership state")
    else if maxLocalFileLockOwnerUtf8Bytes < ownerMetadata.size then
      pure (.compromised .ownerTooLarge
        "owner token exceeds the portable 2048-byte UTF-8 storage bound")
    else
      match ← attempt (await (.openRead .owner)) with
      | .error (.lock error) => throw (.lock error)
      | .error (.io error) =>
        if error.code = some "ENOENT" then
          pure (.incomplete "owner token disappeared during inspection")
        else throw (ioError "open local lock owner token" error)
      | .ok handle =>
        finallyDo (inspectOpenedOwner windows ownerMetadata handle)
          (tryCatch (await (.close handle)) fun _ => pure ())

/-- `inspect_local_file_lock` of the crate. A handle that is dropped is closed, and what
closing answers is not looked at. -/
def inspectLocalFileLock (windows : Bool) : FsM LocalFileLockInspection := do
  match ← attempt (await (.lstat .lock)) with
  | .error (.lock error) => throw (.lock error)
  | .error (.io error) =>
    if error.code = some "ENOENT" then pure .absent
    else throw (ioError "inspect local lock path" error)
  | .ok metadata =>
    if metadata.type ≠ .directory then
      pure (.compromised .pathNotDirectory "lock path is not an unaliased directory")
    else
      match ← readEntryNamesBounded with
      | [] => pure (.incomplete ("lock directory has no owner marker; acquisition, release, " ++
          "or recovery may have crashed mid-transition"))
      | [.pending] => pure (.incomplete
          "owner publication is incomplete; pending owner marker is not ownership authority")
      | [.recovering] => pure (.incomplete
          "owner recovery is in progress; recovery claim is not reusable ownership authority")
      | [.owner] => inspectOwner windows
      | _ => pure (.compromised .dirtyDirectory
          "lock directory must contain exactly one published owner marker")

end Rust

inductive Inspector where
  | typeScript
  | rust
  deriving DecidableEq

def Inspector.inspect : Inspector → FsM LocalFileLockInspection
  | .typeScript => LocalFile.inspectLocalFileLock false
  | .rust => Rust.inspectLocalFileLock false

/-- The metadata of a published marker. -/
structure OwnerStat (stat : Stat) : Prop where
  type : stat.type = .file
  nlink : stat.nlink = 1
  mode : stat.mode &&& 0o077 = 0
  size : stat.size ≤ maxLocalFileLockOwnerUtf8Bytes

/-- The owner does not begin with U+FEFF. -/
def Unmarked (owner : JsString) : Prop := owner.head? ≠ some 0xfeff

/-- The owner in the owner marker begins with U+FEFF. -/
def Fs.ownerMarked (fs : Fs) : Bool :=
  match fs.lock with
  | none => false
  | some node =>
    match node.entries.lookup .owner with
    | none => false
    | some file => decide ((fs.files file).content.take 3 = [0xef, 0xbb, 0xbf])

inductive InspectStage where
  | looking
  | listing (shown : Bool)
  | found (looked : Stat)
  | reading (looked : Stat) (handle : Nat) (owner : JsString)

/-- The answers of a path that is used cleanly, to an inspection that nothing disturbs. -/
def inspectProtocol (inspector : Inspector) : Protocol FsOp FsAnswer InspectStage where
  allows stage op :=
    match op with
    | .lstat .lock => True
    | .lstat (.entry name) => name = .owner
    | .opendir => True
    | .readDirectory => ∃ shown, stage = .listing shown
    | .closeDirectory => True
    | .openRead name => name = .owner ∧ ∃ looked, stage = .found looked
    | .fstat handle => ∃ looked owner, stage = .reading looked handle owner
    | .read handle _ _ => ∃ looked owner, stage = .reading looked handle owner
    | .close _ => True
    | _ => False
  moves stage op answer stage' :=
    match op, answer with
    | .lstat .lock, .ok stat => stat.type = .directory ∧ stat.mode &&& 0o077 = 0 ∧ stage' = stage
    | .lstat .lock, .error error => error.code = some "ENOENT" ∧ stage' = stage
    | .lstat (.entry _), .ok stat => OwnerStat stat ∧ stage' = .found stat
    | .lstat (.entry _), .error error => error.code = some "ENOENT" ∧ stage' = .looking
    | .opendir, .ok _ => stage' = .listing false
    | .opendir, .error error =>
      inspector = .typeScript ∧ error.code = some "ENOENT" ∧ stage' = .looking
    | .readDirectory, .ok none => stage' = stage
    | .readDirectory, .ok (some name) => stage = .listing false ∧ stage' = .listing true ∧
        (name = .pending ∨ name = .owner)
    | .openRead _, .ok handle => ∃ looked owner, stage = .found looked ∧
        validateLocalFileLockOwner owner = .ok () ∧
        (inspector = .typeScript → Unmarked owner) ∧ stage' = .reading looked handle owner
    | .openRead _, .error error => error.code = some "ENOENT" ∧ stage' = stage
    | .fstat _, .ok stat => stage' = stage ∧ OwnerStat stat ∧ ∀ looked handle owner,
        stage = .reading looked handle owner →
          stat.identity.dev = looked.identity.dev ∧ stat.identity.ino = looked.identity.ino
    | .read _ position length, .ok chunk => stage' = stage ∧ ∀ looked handle owner,
        stage = .reading looked handle owner →
          ∃ count, chunk = ((encode owner).drop position).take count ∧ (0 < length → 0 < count)
    | .closeDirectory, .ok _ => stage' = stage
    | .close _, .ok _ => stage' = stage
    | _, _ => False

/-- The closed state model: an inspection that answers `held` has read that owner. -/
def Closed (stage : InspectStage) : LocalFileLockInspection → Prop
  | .absent => True
  | .incomplete _ => True
  | .held owner => ∃ looked handle, stage = .reading looked handle owner
  | .compromised _ _ => False

section Owners

variable {owner : JsString}

theorem unmarked_of_bytes {owner : JsString} (h : (encode owner).take 3 ≠ [0xef, 0xbb, 0xbf]) :
    Unmarked owner := by
  intro hhead
  apply h
  cases owner with
  | nil => cases hhead
  | cons u rest =>
    cases hhead
    have hunit : encodeUnit 0xfeff = [0xef, 0xbb, 0xbf] := by decide
    cases rest with
    | nil => exact hunit
    | cons v rest =>
      have hhigh : ¬ (isHighSurrogate 0xfeff && isLowSurrogate v) = true := by
        simp [isHighSurrogate]
      unfold encode
      rw [if_neg hhigh, hunit]
      rfl

theorem valid_parts (h : validateLocalFileLockOwner owner = .ok ()) :
    owner ≠ [] ∧ hasLoneSurrogate owner = false ∧
      codePoints owner ≤ maxLocalFileLockOwnerCodepoints := by
  unfold validateLocalFileLockOwner at h
  split at h
  · cases h
  rename_i hne
  split at h
  · cases h
  rename_i hlone
  split at h
  · cases h
  · rename_i hlong
    exact ⟨hne, by simpa using hlone, by omega⟩

theorem valid_classified (h : validateLocalFileLockOwner owner = .ok ()) :
    classifyOwner owner = .held owner := by
  obtain ⟨hne, _, hlong⟩ := valid_parts h
  unfold classifyOwner
  rw [if_neg hne, if_neg (by omega)]

theorem valid_size (h : validateLocalFileLockOwner owner = .ok ()) :
    (encode owner).length ≤ maxLocalFileLockOwnerUtf8Bytes := by
  obtain ⟨_, hlone, hlong⟩ := valid_parts h
  have hlength := length_encode_le hlone
  unfold maxLocalFileLockOwnerUtf8Bytes
  omega

theorem valid_decodeOwner (h : validateLocalFileLockOwner owner = .ok ()) (hunmarked : Unmarked owner) :
    decodeOwner (encode owner) = some owner :=
  decodeOwner_encode_unmarked (valid_parts h).2.1 hunmarked

theorem valid_fromUtf8 (h : validateLocalFileLockOwner owner = .ok ()) :
    Rust.fromUtf8 (encode owner) = some owner := by
  obtain ⟨_, hlone, _⟩ := valid_parts h
  unfold Rust.fromUtf8
  rw [encode_eq_scalarValues hlone, Shared.Utf8.decode_encode, Option.map_some,
    flatMap_utf16_scalarValues hlone]

end Owners

/-- The failure of an operation that finds nothing under its name. -/
def Missing (_ : InspectStage) (failure : Failure) : Prop :=
  ∃ error, failure = .io error ∧ error.code = some "ENOENT"

section Inspecting

variable {inspector : Inspector} {stage : InspectStage}

theorem inspect_lstatLock (stage : InspectStage) :
    Triple (inspectProtocol inspector) stage (await (.lstat .lock))
      (fun _ stat => stat.type = .directory ∧ stat.mode &&& 0o077 = 0) Missing := by
  apply triple_call
  · trivial
  · intro _ _ hm
    exact ⟨hm.1, hm.2.1⟩
  · intro error _ hm
    exact ⟨error, rfl, hm.1⟩

theorem inspect_lstatOwner (stage : InspectStage) :
    Triple (inspectProtocol inspector) stage (await (.lstat (.entry .owner)))
      (fun stage' stat => OwnerStat stat ∧ stage' = .found stat) Missing := by
  apply triple_call
  · exact rfl
  · intro _ _ hm
    exact hm
  · intro error _ hm
    exact ⟨error, rfl, hm.1⟩

/-- The marker that was looked at is opened, or it is gone. -/
theorem inspect_openOwner (looked : Stat) :
    Triple (inspectProtocol inspector) (.found looked) (await (.openRead .owner))
      (fun stage' handle => ∃ owner, stage' = .reading looked handle owner ∧
        validateLocalFileLockOwner owner = .ok () ∧ (inspector = .typeScript → Unmarked owner))
      Missing := by
  apply triple_call
  · exact ⟨rfl, looked, rfl⟩
  · rintro handle stage' ⟨looked', owner, hfound, hvalid, hunmarked, hstage⟩
    cases hfound
    exact ⟨owner, hstage, hvalid, hunmarked⟩
  · intro error _ hm
    exact ⟨error, rfl, hm.1⟩

/-- The opened marker is still the one that was looked at. -/
theorem inspect_fstat (looked : Stat) (handle : Nat) (owner : JsString) :
    Triple (inspectProtocol inspector) (.reading looked handle owner) (await (.fstat handle))
      (fun stage opened => stage = .reading looked handle owner ∧ OwnerStat opened ∧
        opened.identity.dev = looked.identity.dev ∧ opened.identity.ino = looked.identity.ino)
      (fun _ _ => False) := by
  apply triple_call
  · exact ⟨looked, owner, rfl⟩
  · rintro opened stage' ⟨hstage, hstat, hsame⟩
    exact ⟨hstage, hstat, hsame looked handle owner rfl⟩
  · intro _ _ hm
    exact hm

/-- Only the TypeScript inspection can find the directory gone. -/
theorem inspect_opendir (stage : InspectStage) :
    Triple (inspectProtocol inspector) stage (await .opendir)
      (fun stage' _ => stage' = .listing false)
      (fun stage' failure => inspector = .typeScript ∧ Missing stage' failure) := by
  apply triple_call
  · trivial
  · intro _ _ hm
    exact hm
  · intro error _ hm
    exact ⟨hm.1, error, rfl, hm.2.1⟩

theorem inspect_readsFile (looked : Stat) (handle : Nat) (owner : JsString) :
    ReadsFile (inspectProtocol inspector) (.reading looked handle owner) handle (encode owner)
      (fun _ _ => False) where
  allows _ _ := ⟨looked, owner, rfl⟩
  chunk _ _ _ _ hm := ⟨hm.1, hm.2 looked handle owner rfl⟩
  error _ _ _ _ hm := hm

/-- The whole owner is read from its marker. -/
theorem inspect_readOwnerBytes (looked : Stat) (handle : Nat) {owner : JsString}
    (hvalid : validateLocalFileLockOwner owner = .ok ()) :
    Triple (inspectProtocol inspector) (.reading looked handle owner)
      (readOwnerBytes handle (maxLocalFileLockOwnerUtf8Bytes + 1) [])
      (fun stage bytes => stage = .reading looked handle owner ∧ bytes = encode owner)
      (fun _ _ => False) := by
  have hbegins : ∃ rest, encode owner = [] ++ rest := ⟨encode owner, rfl⟩
  apply Triple.mono (triple_readOwnerBytes (inspect_readsFile looked handle owner) hbegins (by simp))
  · intro stage bytes hread
    obtain ⟨hstage, ⟨rest, hrest⟩, hwhole⟩ := hread
    have hsize := valid_size hvalid
    have hlength := congrArg List.length hrest
    rw [List.length_append] at hlength
    exact ⟨hstage, hwhole (by omega)⟩
  · intro _ _ hfalse
    exact hfalse

theorem inspect_validatePosixPrivateMode {mode : Nat} (h : mode &&& 0o077 = 0) (label : String) :
    Triple (inspectProtocol inspector) stage (validatePosixPrivateMode false mode label)
      (fun stage' _ => stage' = stage) (fun _ _ => False) := by
  unfold validatePosixPrivateMode
  rw [if_neg (by simp [h])]
  exact Triple.pure rfl

/-- The marker is looked at and opened, or it is missing. -/
theorem inspect_openBounded (stage : InspectStage) :
    Triple (inspectProtocol .typeScript) stage (openBoundedLocalFileLockOwner false)
      (fun stage' opened => ∃ owner, stage' = .reading opened.1 opened.2 owner ∧
        validateLocalFileLockOwner owner = .ok () ∧ Unmarked owner)
      Missing := by
  apply Triple.bind _ (inspect_lstatOwner stage)
  intro stage' metadata hmetadata
  obtain ⟨hstat, rfl⟩ := hmetadata
  rw [if_neg (not_not.mpr hstat.type), if_neg (not_not.mpr hstat.nlink)]
  apply Triple.bind (fun stage' _ => stage' = .found metadata)
  · apply Triple.mono (inspect_validatePosixPrivateMode hstat.mode _)
    · intro _ _ hstage
      exact hstage
    · intro _ _ hfalse
      exact hfalse.elim
  intro stage' _ hstage
  subst hstage
  rw [if_neg (Nat.not_lt.mpr hstat.size)]
  apply Triple.bind _ (inspect_openOwner metadata)
  rintro stage' handle ⟨owner, hstage, hvalid, hunmarked⟩
  exact Triple.pure ⟨owner, hstage, hvalid, hunmarked rfl⟩

theorem inspect_readOpened (looked : Stat) (handle : Nat) {owner : JsString}
    (hvalid : validateLocalFileLockOwner owner = .ok ()) (hunmarked : Unmarked owner) :
    Triple (inspectProtocol inspector) (.reading looked handle owner)
      (readOpenedLocalFileLockOwner false looked handle)
      (fun stage result => stage = .reading looked handle owner ∧ result = owner)
      (fun _ _ => False) := by
  apply Triple.bind _ (inspect_fstat looked handle owner)
  intro stage' opened hopened
  obtain ⟨rfl, hstat, hdev, hino⟩ := hopened
  rw [if_neg (by simp [hstat.type, hstat.nlink, hdev, hino])]
  apply Triple.bind _ (inspect_validatePosixPrivateMode hstat.mode _)
  intro stage' _ hstage
  subst hstage
  rw [if_neg (Nat.not_lt.mpr hstat.size)]
  apply Triple.bind _ (inspect_readOwnerBytes looked handle hvalid)
  intro stage' bytes hread
  obtain ⟨rfl, rfl⟩ := hread
  rw [if_neg (Nat.not_lt.mpr (valid_size hvalid)), valid_decodeOwner hvalid hunmarked]
  exact Triple.pure ⟨rfl, rfl⟩

/-- The failure of a read whose marker is gone. -/
def OwnerMissing (failure : Failure) : Prop :=
  ∃ error, failure = compromisedBy "owner token is missing" error

theorem inspect_catchMissing {α : Type} {x : FsM α} {ok : InspectStage → α → Prop}
    (h : Triple (inspectProtocol inspector) stage x ok Missing) :
    Triple (inspectProtocol inspector) stage (catchOwnerRead x) ok
      (fun _ failure => OwnerMissing failure) := by
  apply triple_catchIo _ h
  · rintro _ error ⟨_, hio, _⟩
    cases hio
  · rintro stage' error ⟨_, hio, hcode⟩
    cases hio
    rw [if_pos hcode]
    exact Triple.throw ⟨error, rfl⟩

/-- The handle is closed in the stage it was read in. -/
theorem inspect_close (handle : Nat) (err : InspectStage → Failure → Prop) :
    Triple (inspectProtocol inspector) stage (await (.close handle))
      (fun stage' _ => stage' = stage) err := by
  apply triple_call
  · trivial
  · intro _ stage' hm
    exact hm
  · intro _ _ hm
    exact hm.elim

theorem inspect_readBounded (stage : InspectStage) :
    Triple (inspectProtocol .typeScript) stage (readBoundedLocalFileLockOwner false)
      (fun stage' owner => (∃ looked handle, stage' = .reading looked handle owner) ∧
        validateLocalFileLockOwner owner = .ok ())
      (fun _ failure => OwnerMissing failure) := by
  apply Triple.bind _ (inspect_catchMissing (inspect_openBounded stage))
  rintro stage' ⟨looked, handle⟩ ⟨owner, rfl, hvalid, hunmarked⟩
  apply Triple.finallyDo
  · apply inspect_catchMissing
    apply Triple.mono (inspect_readOpened looked handle hvalid hunmarked)
    · rintro stage result ⟨rfl, rfl⟩
      exact ⟨⟨looked, handle, rfl⟩, hvalid⟩
    · intro _ _ hfalse
      exact hfalse.elim
  · intro stage outcome _
    exact inspect_close handle _

/-- What is learnt of the owner. -/
def OwnerLearnt (stage : InspectStage) : InspectionOwnerRead → Prop
  | .owner owner => (∃ looked handle, stage = .reading looked handle owner) ∧
      validateLocalFileLockOwner owner = .ok ()
  | _ => True

theorem inspect_recheck (stage : InspectStage) :
    Triple (inspectProtocol .typeScript) stage (recheckAfterDisappearance false none) OwnerLearnt
      (fun _ _ => False) := by
  apply Triple.bind _ (Triple.attempted (inspect_lstatLock stage))
  intro stage' probe hprobe
  cases probe with
  | ok metadata => exact Triple.pure trivial
  | error failure =>
    obtain ⟨error, rfl, hcode⟩ := hprobe
    change Triple _ _ (if error.code = some "ENOENT" then _ else _) _ _
    rw [if_pos hcode]
    exact Triple.pure trivial

theorem inspect_readInspectionOwner (stage : InspectStage) :
    Triple (inspectProtocol .typeScript) stage (readInspectionOwner false 0) OwnerLearnt
      (fun _ _ => False) := by
  apply Triple.bind _ (Triple.attempted (inspect_readBounded stage))
  intro stage' result hresult
  cases result with
  | ok owner => exact Triple.pure hresult
  | error failure =>
    obtain ⟨error, rfl⟩ := hresult
    have hmissing : includes "owner token is missing" "owner token is missing" = true := by decide
    change Triple _ _ (if LocalFileLockErrorKind.compromised = .compromised then
      if includes "owner token is missing" "owner token is missing" then _ else _ else _) _ _
    rw [if_pos rfl, if_pos hmissing]
    exact inspect_recheck stage'

theorem inspect_inspectOwner (stage : InspectStage) :
    Triple (inspectProtocol .typeScript) stage (inspectOwner false) Closed (fun _ _ => False) := by
  apply Triple.bind _ (Triple.attempted (inspect_readInspectionOwner stage))
  intro stage' result hresult
  cases result with
  | error failure => exact hresult.elim
  | ok read =>
    cases read with
    | absent => exact Triple.pure trivial
    | incomplete => exact Triple.pure trivial
    | owner owner =>
      obtain ⟨hread, hvalid⟩ := hresult
      change Triple _ _ (pure (classifyOwner owner)) _ _
      rw [valid_classified hvalid]
      exact Triple.pure hread

/-- A stream that nothing disturbs shows one marker at most. -/
def Listed (entries : List Name) : Prop :=
  entries = [] ∨ entries = [.pending] ∨ entries = [.owner]

theorem inspect_readEntries :
    Triple (inspectProtocol inspector) (.listing false)
      (do
        match ← await .readDirectory with
        | none => pure []
        | some first =>
          match ← await .readDirectory with
          | none => pure [first]
          | some second => pure [first, second])
      (fun _ entries => Listed entries) (fun _ _ => False) := by
  apply Triple.bind (fun stage entry => ∀ name, entry = some name →
    stage = .listing true ∧ (name = .pending ∨ name = .owner))
  · apply triple_call
    · exact ⟨false, rfl⟩
    · intro entry stage hm name hname
      subst hname
      exact ⟨hm.2.1, hm.2.2⟩
    · intro _ _ hm
      exact hm
  intro stage entry hentry
  cases entry with
  | none => exact Triple.pure (Or.inl rfl)
  | some first =>
    obtain ⟨rfl, hfirst⟩ := hentry first rfl
    apply Triple.bind (fun _ entry => entry = none)
    · apply triple_call
      · exact ⟨true, rfl⟩
      · intro entry stage hm
        cases entry with
        | none => rfl
        | some second => cases hm.1
      · intro _ _ hm
        exact hm
    · rintro stage _ rfl
      rcases hfirst with rfl | rfl
      · exact Triple.pure (Or.inr (Or.inl rfl))
      · exact Triple.pure (Or.inr (Or.inr rfl))

/-- The stream after it was opened, with the handler of either runtime. -/
theorem inspect_readStream (listing : FsError → FsM (List Name)) {close : FsM Unit}
    {err : InspectStage → Failure → Prop}
    (hclose : ∀ stage, Triple (inspectProtocol inspector) stage close
      (fun stage' _ => stage' = stage) err) :
    Triple (inspectProtocol inspector) (.listing false)
      (finallyDo
        (catchIo
          (do
            match ← await .readDirectory with
            | none => pure []
            | some first =>
              match ← await .readDirectory with
              | none => pure [first]
              | some second => pure [first, second])
          listing)
        close)
      (fun _ entries => Listed entries) err := by
  apply Triple.finallyDo
  · apply triple_catchIo (fun _ _ => False) inspect_readEntries
    · intro _ _ hfalse
      exact hfalse.elim
    · intro _ _ hfalse
      exact hfalse.elim
  · intro stage _ _
    exact hclose stage

theorem inspect_closeDirectory (err : InspectStage → Failure → Prop) :
    Triple (inspectProtocol inspector) stage (await .closeDirectory)
      (fun stage' _ => stage' = stage) err := by
  apply triple_call
  · trivial
  · intro _ stage' hm
    exact hm
  · intro _ _ hm
    exact hm.elim

theorem inspect_entryNames (stage : InspectStage) :
    Triple (inspectProtocol .typeScript) stage readLocalFileLockEntryNamesBounded
      (fun _ entries => Listed entries)
      (fun _ failure => ∃ error, failure = ioError "list local lock directory" error ∧
        error.code = some "ENOENT") := by
  apply Triple.bind _ (Triple.attempted (inspect_opendir stage))
  intro stage' result hresult
  cases result with
  | error failure =>
    obtain ⟨_, error, rfl, hcode⟩ := hresult
    exact Triple.throw ⟨error, rfl, hcode⟩
  | ok _ =>
    change stage' = .listing false at hresult
    subst hresult
    exact inspect_readStream _ (fun _ => inspect_closeDirectory _)

theorem inspect_readInspectionEntryNames (stage : InspectStage) :
    Triple (inspectProtocol .typeScript) stage (readInspectionEntryNames false 0)
      (fun _ result => ∀ entries, result = some entries → Listed entries) (fun _ _ => False) := by
  apply Triple.bind _ (Triple.attempted (inspect_entryNames stage))
  intro stage' result hresult
  cases result with
  | ok entries =>
    apply Triple.pure
    intro entries' heq
    cases heq
    exact hresult
  | error failure =>
    obtain ⟨error, rfl, hcode⟩ := hresult
    have hcaused : causedByErrorCode ⟨.io, "list local lock directory" ++ " failed: " ++
        error.message, some error⟩ "ENOENT" = true := beq_iff_eq.mpr hcode
    have hkind : ¬ LocalFileLockErrorKind.io ≠ .io := not_not.mpr rfl
    simp only [ioError, hkind, if_false, hcaused, if_true]
    apply Triple.pure
    intro _ hnone
    cases hnone

theorem inspect_typeScript :
    Triple (inspectProtocol .typeScript) .looking (inspectLocalFileLock false) Closed
      (fun _ _ => False) := by
  apply Triple.bind (fun _ metadata => ∀ stat, metadata = some stat →
    stat.type = .directory ∧ stat.mode &&& 0o077 = 0)
  · apply Triple.bind _ (Triple.attempted (inspect_lstatLock .looking))
    intro stage' result hresult
    cases result with
    | ok stat =>
      apply Triple.pure
      intro stat' heq
      cases heq
      exact hresult
    | error failure =>
      obtain ⟨error, rfl, hcode⟩ := hresult
      change Triple _ _ (if error.code = some "ENOENT" then _ else _) _ _
      rw [if_pos hcode]
      apply Triple.pure
      intro _ hnone
      cases hnone
  intro stage' metadata hmetadata
  cases metadata with
  | none => exact Triple.pure trivial
  | some stat =>
    obtain ⟨htype, hmode⟩ := hmetadata stat rfl
    dsimp only
    rw [if_neg (not_not.mpr htype), if_neg (by simp [hmode])]
    apply Triple.bind _ (inspect_readInspectionEntryNames stage')
    intro stage'' result hresult
    cases result with
    | none => exact Triple.pure trivial
    | some entries =>
      rcases hresult entries rfl with rfl | rfl | rfl
      · exact Triple.pure trivial
      · exact Triple.pure trivial
      · exact inspect_inspectOwner stage''

/-- A dropped handle is closed quietly. -/
theorem inspect_quietly {x : FsM Unit} (err : InspectStage → Failure → Prop)
    (h : Triple (inspectProtocol inspector) stage x (fun stage' _ => stage' = stage)
      (fun _ _ => False)) :
    Triple (inspectProtocol inspector) stage (tryCatch x fun _ => pure ())
      (fun stage' _ => stage' = stage) err := by
  apply Triple.tryCatch _ h
  intro _ _ hfalse
  exact hfalse.elim

theorem inspect_rust_entryNames (stage : InspectStage) :
    Triple (inspectProtocol .rust) stage Rust.readEntryNamesBounded
      (fun _ entries => Listed entries) (fun _ _ => False) := by
  apply Triple.bind _ (Triple.attempted (inspect_opendir stage))
  intro stage' result hresult
  cases result with
  | error failure => cases hresult.1
  | ok _ =>
    change stage' = .listing false at hresult
    subst hresult
    exact inspect_readStream _ (fun _ => inspect_quietly _ (inspect_closeDirectory _))

theorem inspect_rust_openedOwner (looked : Stat) (handle : Nat) {owner : JsString}
    (hvalid : validateLocalFileLockOwner owner = .ok ()) :
    Triple (inspectProtocol .rust) (.reading looked handle owner)
      (Rust.inspectOpenedOwner false looked handle) Closed (fun _ _ => False) := by
  apply Triple.bind _ (Triple.attempted (inspect_fstat looked handle owner))
  intro stage' result hresult
  cases result with
  | error failure => exact hresult.elim
  | ok opened =>
    obtain ⟨rfl, hstat, hdev, hino⟩ := hresult
    dsimp only
    rw [if_neg (not_not.mpr hstat.type),
      if_neg (by simp [Rust.metadataHasMultipleLinks, hstat.nlink]),
      if_neg (by simp [Rust.sameFileIdentity, hdev, hino])]
    apply Triple.bind _ (Triple.attempted (inspect_readOwnerBytes looked handle hvalid))
    intro stage' result hresult
    cases result with
    | error failure => exact hresult.elim
    | ok bytes =>
      obtain ⟨rfl, rfl⟩ := hresult
      dsimp only
      rw [if_neg (Nat.not_lt.mpr (valid_size hvalid)), valid_fromUtf8 hvalid]
      change Triple _ _ (pure (classifyOwner owner)) _ _
      rw [valid_classified hvalid]
      exact Triple.pure ⟨looked, handle, rfl⟩

theorem inspect_rust_inspectOwner (stage : InspectStage) :
    Triple (inspectProtocol .rust) stage (Rust.inspectOwner false) Closed (fun _ _ => False) := by
  apply Triple.bind _ (Triple.attempted (inspect_lstatOwner stage))
  intro stage' result hresult
  cases result with
  | error failure =>
    obtain ⟨error, rfl, hcode⟩ := hresult
    change Triple _ _ (if error.code = some "ENOENT" then _ else _) _ _
    rw [if_pos hcode]
    exact Triple.pure trivial
  | ok looked =>
    obtain ⟨hstat, rfl⟩ := hresult
    dsimp only
    rw [if_neg (not_not.mpr hstat.type),
      if_neg (by simp [Rust.metadataHasMultipleLinks, hstat.nlink]),
      if_neg (Nat.not_lt.mpr hstat.size)]
    apply Triple.bind _ (Triple.attempted (inspect_openOwner looked))
    intro stage' result hresult
    cases result with
    | error failure =>
      obtain ⟨error, rfl, hcode⟩ := hresult
      change Triple _ _ (if error.code = some "ENOENT" then _ else _) _ _
      rw [if_pos hcode]
      exact Triple.pure trivial
    | ok handle =>
      obtain ⟨owner, rfl, hvalid, _⟩ := hresult
      apply Triple.finallyDo (inspect_rust_openedOwner looked handle hvalid)
      intro stage'' _ _
      exact inspect_quietly _ (inspect_close handle _)

theorem inspect_rust :
    Triple (inspectProtocol .rust) .looking (Rust.inspectLocalFileLock false) Closed
      (fun _ _ => False) := by
  apply Triple.bind _ (Triple.attempted (inspect_lstatLock .looking))
  intro stage' result hresult
  cases result with
  | error failure =>
    obtain ⟨error, rfl, hcode⟩ := hresult
    change Triple _ _ (if error.code = some "ENOENT" then _ else _) _ _
    rw [if_pos hcode]
    exact Triple.pure trivial
  | ok stat =>
    have htype : stat.type = .directory := hresult.1
    dsimp only
    rw [if_neg (not_not.mpr htype)]
    apply Triple.bind _ (inspect_rust_entryNames stage')
    intro stage'' entries hentries
    rcases hentries with rfl | rfl | rfl
    · exact Triple.pure trivial
    · exact Triple.pure trivial
    · exact inspect_rust_inspectOwner stage''

/-- Either inspection stays in the closed state model. -/
theorem inspect_closed (inspector : Inspector) :
    Triple (inspectProtocol inspector) .looking inspector.inspect Closed (fun _ _ => False) := by
  cases inspector with
  | typeScript => exact inspect_typeScript
  | rust => exact inspect_rust

end Inspecting

end OresLocks.LocalFile
