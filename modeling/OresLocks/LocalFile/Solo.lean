import OresLocks.LocalFile.Inspection
import OresLocks.LocalFile.Tenancy

/-!
# A program that nobody disturbs

No step fails and no other process touches the path, so the stream of the lock
directory shows each of its entries once.
-/

namespace OresLocks.LocalFile

set_option autoImplicit false

open Shared.Programs JsString

/-- The filesystem, and the names that the open directory stream has still to show. -/
structure Solo where
  fs : Fs
  stream : List Name

/-- What the stream still shows after an operation. -/
def Streams (fs : Fs) (stream : List Name) (op : FsOp) (stream' : List Name) : Prop :=
  match op with
  | .opendir => ∀ node, fs.lock = some node → stream'.Perm (node.entries.map Prod.fst)
  | .readDirectory => stream' = stream.tail
  | _ => stream' = stream

/-- The filesystem makes one choice and performs the operation. -/
structure Performed (caller : Call) (stage : Solo) (op : FsOp) (choice : Choice) (stage' : Solo) :
    Prop where
  shown : op = .readDirectory → choice.entry = stage.stream.head?
  fs : stage'.fs = (stage.fs.perform caller choice op).2
  stream : Streams stage.fs stage.stream op stage'.stream

def solo (caller : Call) : Protocol FsOp FsAnswer Solo where
  allows _ _ := True
  moves stage op answer stage' := ∃ choice, Performed caller stage op choice stage' ∧
    answer = (stage.fs.perform caller choice op).1

/-- The lock directory is private, and its only entry is a private marker. -/
structure HasOnly (fs : Fs) (name : Name) (number : Nat) (content : Bytes) (identity : Identity) :
    Prop where
  node : ∃ node, fs.lock = some node ∧ node.type = .directory ∧ node.mode &&& 0o077 = 0 ∧
    node.entries = [(name, number)]
  type : (fs.files number).type = .file
  mode : (fs.files number).mode &&& 0o077 = 0
  nlink : (fs.files number).nlink = 1
  content : (fs.files number).content = content
  identity : (fs.files number).identity = identity

/-- The lock directory is private and empty. -/
def Empty (fs : Fs) : Prop :=
  ∃ node, fs.lock = some node ∧ node.type = .directory ∧ node.mode &&& 0o077 = 0 ∧
    node.entries = []

section Answers

variable {caller : Call} {stage stage' : Solo} {op : FsOp} {choice : Choice} {name : Name}
  {number : Nat} {content : Bytes} {identity : Identity} {fs : Fs}

theorem HasOnly.same {fs' : Fs} (h : HasOnly fs name number content identity)
    (hsame : SameLock caller fs fs') : HasOnly fs' name number content identity := by
  obtain ⟨hnode, htype, hmode, hnlink, hcontent, hidentity⟩ := h
  rw [← hsame.files] at htype hmode hnlink hcontent hidentity
  rw [← hsame.lock] at hnode
  exact ⟨hnode, htype, hmode, hnlink, hcontent, hidentity⟩

theorem HasOnly.entry (h : HasOnly fs name number content identity) (choice : Choice) :
    ∃ node, fs.entry name choice = .ok (node, number) ∧ fs.lock = some node ∧
      node.type = .directory ∧ node.mode &&& 0o077 = 0 ∧ node.entries = [(name, number)] := by
  obtain ⟨node, hlock, htype, hmode, hentries⟩ := h.node
  refine ⟨node, ?_, hlock, htype, hmode, hentries⟩
  unfold Fs.entry Fs.directory
  simp [hlock, htype, hentries]

/-- Reading leaves the marker as it is. -/
theorem Performed.holds (h : Performed caller stage op choice stage') (hop : op.IsReading)
    (hholds : HasOnly stage.fs name number content identity) :
    HasOnly stage'.fs name number content identity := by
  rw [h.fs]
  exact hholds.same (perform_reading hop stage.fs caller choice)

theorem solo_answered (stage : Solo) (op : FsOp) :
    ∃ answer stage', (solo caller).moves stage op answer stage' := by
  let choice : Choice := ⟨"", ⟨0, 0, 0⟩, stage.stream.head?, 0⟩
  have hstream : ∃ stream', Streams stage.fs stage.stream op stream' := by
    cases op with
    | opendir =>
      cases hlock : stage.fs.lock with
      | none => exact ⟨[], fun node hnode => by rw [hlock] at hnode; cases hnode⟩
      | some node =>
        refine ⟨node.entries.map Prod.fst, fun node' hnode => ?_⟩
        rw [hlock] at hnode
        cases hnode
        exact .refl _
    | readDirectory => exact ⟨stage.stream.tail, rfl⟩
    | _ => exact ⟨stage.stream, rfl⟩
  obtain ⟨stream', hstream⟩ := hstream
  exact ⟨_, ⟨_, stream'⟩, choice, ⟨fun _ => rfl, rfl, hstream⟩, rfl⟩

theorem solo_call {ok : Solo → op.Answer → Prop} {err : Solo → Failure → Prop}
    (hok : ∀ choice stage' value, Performed caller stage op choice stage' →
      (stage.fs.perform caller choice op).1 = .ok value → ok stage' value)
    (herr : ∀ choice stage' error, Performed caller stage op choice stage' →
      (stage.fs.perform caller choice op).1 = .error error → err stage' (.io error)) :
    Triple (solo caller) stage (await op) ok err := by
  apply triple_call
  · trivial
  · rintro value stage' ⟨choice, hperformed, hanswer⟩
    exact hok choice stage' value hperformed hanswer.symm
  · rintro error stage' ⟨choice, hperformed, hanswer⟩
    exact herr choice stage' error hperformed hanswer.symm

/-- A read that gets its answer and leaves the marker. -/
theorem solo_read (op : FsOp) (hop : op.IsReading) {ok : Solo → op.Answer → Prop}
    {err : Solo → Failure → Prop} (hholds : HasOnly stage.fs name number content identity)
    (hanswer : ∀ choice : Choice, (op = .readDirectory → choice.entry = stage.stream.head?) →
      ∃ value, (stage.fs.perform caller choice op).1 = .ok value ∧
        ∀ stage', HasOnly stage'.fs name number content identity →
          Streams stage.fs stage.stream op stage'.stream → ok stage' value) :
    Triple (solo caller) stage (await op) ok err := by
  apply solo_call
  · intro choice stage' value hperformed hvalue
    obtain ⟨value', hvalue', hok⟩ := hanswer choice hperformed.shown
    rw [hvalue] at hvalue'
    cases hvalue'
    exact hok stage' (hperformed.holds hop hholds) hperformed.stream
  · intro choice stage' error hperformed herror
    obtain ⟨value', hvalue', _⟩ := hanswer choice hperformed.shown
    rw [herror] at hvalue'
    cases hvalue'

end Answers

/-- The stage holds the published marker. -/
abbrev Intact (number : Nat) (content : Bytes) (identity : Identity) (stage : Solo) : Prop :=
  HasOnly stage.fs .owner number content identity

section Reading

variable {caller : Call} {stage : Solo} {win32 : Bool} {number : Nat} {content : Bytes}
  {identity : Identity} {err : Solo → Failure → Prop}

theorem solo_lstatLock (h : Intact number content identity stage) :
    Triple (solo caller) stage (await (.lstat .lock))
      (fun stage' stat => Intact number content identity stage' ∧ stat.type = .directory ∧
        stat.mode &&& 0o077 = 0) err := by
  obtain ⟨node, hlock, htype, hmode, _⟩ := h.node
  apply solo_read (.lstat .lock) (.inl trivial) h
  intro choice _
  refine ⟨node.stat, ?_, fun stage' hstage' _ => ⟨hstage', htype, hmode⟩⟩
  change stage.fs.lstat .lock choice = _
  unfold Fs.lstat
  rw [hlock]

/-- What the marker looks like. -/
structure MarkerStat (content : Bytes) (identity : Identity) (stat : Stat) : Prop where
  type : stat.type = .file
  nlink : stat.nlink = 1
  mode : stat.mode &&& 0o077 = 0
  size : stat.size = content.length
  identity : stat.identity = identity

theorem HasOnly.stat {fs : Fs} {name : Name} (h : HasOnly fs name number content identity) :
    MarkerStat content identity (fs.files number).stat :=
  ⟨h.type, h.nlink, h.mode, congrArg List.length h.content, h.identity⟩

theorem solo_lstatOwner (h : Intact number content identity stage) :
    Triple (solo caller) stage (await (.lstat (.entry .owner)))
      (fun stage' stat => Intact number content identity stage' ∧
        MarkerStat content identity stat) err := by
  apply solo_read (.lstat (.entry .owner)) (.inl trivial) h
  intro choice _
  refine ⟨(stage.fs.files number).stat, ?_, fun stage' hstage' _ => ⟨hstage', h.stat⟩⟩
  obtain ⟨node, hentry, _⟩ := h.entry choice
  change stage.fs.lstat (.entry .owner) choice = _
  unfold Fs.lstat
  simp only [hentry]

theorem solo_openOwner (h : Intact number content identity stage) :
    Triple (solo caller) stage (await (.openRead .owner))
      (fun stage' handle => Intact number content identity stage' ∧ handle = number) err := by
  apply solo_read _ (.inr (.inl rfl)) h
  intro choice _
  refine ⟨number, ?_, fun stage' hstage' _ => ⟨hstage', rfl⟩⟩
  obtain ⟨node, hentry, _⟩ := h.entry choice
  change (stage.fs.openRead caller .owner choice).1 = _
  unfold Fs.openRead
  simp only [hentry]

theorem solo_fstat (h : Intact number content identity stage) :
    Triple (solo caller) stage (await (.fstat number))
      (fun stage' stat => Intact number content identity stage' ∧
        MarkerStat content identity stat) err := by
  apply solo_read (.fstat number) (.inl trivial) h
  intro choice _
  exact ⟨(stage.fs.files number).stat, rfl, fun stage' hstage' _ => ⟨hstage', h.stat⟩⟩

theorem solo_close (handle : Nat) :
    Triple (solo caller) stage (await (.close handle))
      (fun stage' _ => stage' = stage) err := by
  apply solo_call
  · intro choice stage' _ hperformed _
    obtain ⟨fs', stream'⟩ := stage'
    obtain ⟨_, rfl, rfl⟩ := hperformed
    rfl
  · intro choice stage' error _ herror
    cases herror

theorem solo_closeDirectory :
    Triple (solo caller) stage (await .closeDirectory)
      (fun stage' _ => stage' = stage) err := by
  apply solo_call
  · intro choice stage' _ hperformed _
    obtain ⟨fs', stream'⟩ := stage'
    obtain ⟨_, rfl, rfl⟩ := hperformed
    rfl
  · intro choice stage' error _ herror
    cases herror

theorem solo_readsFile (h : Intact number content identity stage) :
    ReadsFile (solo caller) stage number content (fun _ _ => False) where
  allows _ _ := trivial
  chunk := by
    rintro position length chunk ⟨fs', stream'⟩ ⟨choice, ⟨_, rfl, rfl⟩, hanswer⟩
    refine ⟨rfl, min length (max 1 choice.bytesRead), ?_, ?_⟩
    · rw [← h.content]
      exact Except.ok.inj hanswer
    · intro hlength
      omega
  error := by
    rintro position length error stage' ⟨choice, _, hanswer⟩
    cases hanswer

/-- The whole marker is read. -/
theorem solo_readOwnerBytes (h : Intact number content identity stage)
    (hsize : content.length ≤ maxLocalFileLockOwnerUtf8Bytes) :
    Triple (solo caller) stage (readOwnerBytes number (maxLocalFileLockOwnerUtf8Bytes + 1) [])
      (fun stage' bytes => stage' = stage ∧ bytes = content) (fun _ _ => False) := by
  have hbegins : ∃ rest, content = [] ++ rest := ⟨content, rfl⟩
  apply Triple.mono (triple_readOwnerBytes (solo_readsFile h) hbegins (by simp))
  · rintro stage' bytes ⟨hstage, ⟨rest, hrest⟩, hwhole⟩
    have hlength := congrArg List.length hrest
    rw [List.length_append] at hlength
    exact ⟨hstage, hwhole (by omega)⟩
  · exact fun _ _ hfalse => hfalse

theorem solo_privateMode {mode : Nat} (hmode : mode &&& 0o077 = 0) (label : String) :
    Triple (solo caller) stage (validatePosixPrivateMode win32 mode label)
      (fun stage' _ => stage' = stage) err := by
  unfold validatePosixPrivateMode
  rw [if_neg (by simp [hmode])]
  exact Triple.pure rfl

theorem never_throws {α : Type} {x : FsM α} {ok : Solo → α → Prop}
    (h : Triple (solo caller) stage x ok (fun _ _ => False)) :
    Triple (solo caller) stage x ok err :=
  h.mono (fun _ _ hok => hok) (fun _ _ hfalse => hfalse.elim)

/-- A look that only fails where it cannot. -/
theorem solo_catchIo {α : Type} {x : FsM α} {handler : FsError → FsM α} {ok : Solo → α → Prop}
    (h : Triple (solo caller) stage x ok (fun _ _ => False)) :
    Triple (solo caller) stage (catchIo x handler) ok err := by
  apply triple_catchIo (fun _ _ => False) h
  · exact fun _ _ hfalse => hfalse.elim
  · exact fun _ _ hfalse => hfalse.elim

theorem solo_validateRealDirectory (label : String) (h : Intact number content identity stage) :
    Triple (solo caller) stage (validateRealDirectory .lock label)
      (fun stage' _ => Intact number content identity stage') err := by
  apply solo_catchIo
  apply Triple.bind _ (solo_lstatLock h)
  rintro stage' metadata ⟨hintact, htype, _⟩
  rw [if_pos htype]
  exact Triple.pure hintact

theorem solo_validatePrivateLock (h : Intact number content identity stage) :
    Triple (solo caller) stage (validatePosixPrivateLockDirectory win32)
      (fun stage' _ => Intact number content identity stage') err := by
  unfold validatePosixPrivateLockDirectory
  split
  · exact Triple.pure h
  apply solo_catchIo
  apply Triple.bind _ (solo_lstatLock h)
  rintro stage' metadata ⟨hintact, _, hmode⟩
  apply Triple.mono (solo_privateMode hmode _)
  · rintro _ _ rfl
    exact hintact
  · exact fun _ _ hfalse => hfalse

theorem solo_validateRegularFile (label : String) (h : Intact number content identity stage) :
    Triple (solo caller) stage (validateRegularFile win32 .owner label)
      (fun stage' _ => Intact number content identity stage') err := by
  apply solo_catchIo
  apply Triple.bind _ (solo_lstatOwner h)
  rintro stage' metadata ⟨hintact, hstat⟩
  rw [if_pos hstat.type, if_pos hstat.nlink]
  apply Triple.mono (solo_privateMode hstat.mode _)
  · rintro _ _ rfl
    exact hintact
  · exact fun _ _ hfalse => hfalse

/-- What never throws is caught with its value. -/
theorem attempted_never {α : Type} {x : FsM α} {ok : Solo → α → Prop}
    (h : Triple (solo caller) stage x ok (fun _ _ => False)) :
    Triple (solo caller) stage (attempt x) (Ends ok (fun _ _ => False)) err :=
  Triple.attempted h

theorem solo_readIdentity (h : Intact number content identity stage) :
    Triple (solo caller) stage readLocalFileOwnerIdentity
      (fun stage' found => Intact number content identity stage' ∧ found = identity) err := by
  apply Triple.bind _ (attempted_never (solo_lstatOwner h))
  intro stage' result hresult
  cases result with
  | error failure => exact hresult.elim
  | ok metadata =>
    obtain ⟨hintact, hstat⟩ := hresult
    dsimp only
    rw [if_pos ⟨hstat.type, hstat.nlink⟩]
    exact Triple.pure ⟨hintact, hstat.identity⟩

/-- The stream shows the owner marker and nothing else. -/
theorem solo_readStream (h : Intact number content identity stage)
    (hstream : stage.stream = [.owner]) :
    Triple (solo caller) stage
      (do
        match ← await .readDirectory with
        | none => pure []
        | some first =>
          match ← await .readDirectory with
          | none => pure [first]
          | some second => pure [first, second])
      (fun stage' entries => Intact number content identity stage' ∧ entries = [.owner])
      (fun _ _ => False) := by
  apply Triple.bind (fun stage' entry => Intact number content identity stage' ∧
    stage'.stream = [] ∧ entry = some .owner)
  · apply solo_read .readDirectory (.inl trivial) h
    intro choice hshown
    refine ⟨choice.entry, rfl, ?_⟩
    intro stage' hstage' hrest
    refine ⟨hstage', ?_, ?_⟩
    · exact Eq.trans hrest (by rw [hstream]; rfl)
    · rw [hshown rfl, hstream]
      rfl
  rintro stage' _ ⟨hintact, hempty, rfl⟩
  apply Triple.bind (fun stage' entry => Intact number content identity stage' ∧ entry = none)
  · apply solo_read .readDirectory (.inl trivial) hintact
    intro choice hshown
    refine ⟨choice.entry, rfl, ?_⟩
    intro stage'' hstage'' _
    exact ⟨hstage'', by rw [hshown rfl, hempty]; rfl⟩
  rintro stage'' _ ⟨hintact', rfl⟩
  exact Triple.pure ⟨hintact', rfl⟩

theorem solo_entryNames (h : Intact number content identity stage) :
    Triple (solo caller) stage readLocalFileLockEntryNamesBounded
      (fun stage' entries => Intact number content identity stage' ∧ entries = [.owner]) err := by
  have hopen : Triple (solo caller) stage (await .opendir)
      (fun stage' _ => Intact number content identity stage' ∧ stage'.stream = [.owner])
      (fun _ _ => False) := by
    obtain ⟨node, hlock, htype, _, hentries⟩ := h.node
    apply solo_read .opendir (.inl trivial) h
    intro choice _
    refine ⟨(), ?_, ?_⟩
    · change stage.fs.opendir choice = _
      unfold Fs.opendir Fs.directory
      simp [hlock, htype]
    · intro stage' hstage' hstream
      have hperm := hstream node hlock
      rw [hentries] at hperm
      exact ⟨hstage', List.perm_singleton.mp hperm⟩
  apply Triple.bind _ (Triple.attempted hopen)
  intro stage' result hresult
  cases result with
  | error failure => exact hresult.elim
  | ok _ =>
    obtain ⟨hintact, hstream⟩ := hresult
    apply never_throws
    apply Triple.finallyDo (solo_catchIo (solo_readStream hintact hstream))
    intro stage'' outcome houtcome
    cases outcome with
    | ok entries => exact solo_closeDirectory
    | error failure => exact houtcome.elim

/-- The read of a marker that the decoder accepts. -/
theorem solo_readBounded {text : JsString} (h : Intact number content identity stage)
    (hsize : content.length ≤ maxLocalFileLockOwnerUtf8Bytes)
    (hdecode : decodeOwner content = some text) :
    Triple (solo caller) stage (readBoundedLocalFileLockOwner win32)
      (fun stage' owner => Intact number content identity stage' ∧ owner = text) err := by
  have hopen : Triple (solo caller) stage (openBoundedLocalFileLockOwner win32)
      (fun stage' opened => Intact number content identity stage' ∧
        MarkerStat content identity opened.1 ∧ opened.2 = number) (fun _ _ => False) := by
    apply Triple.bind _ (solo_lstatOwner h)
    rintro stage' metadata ⟨hintact, hstat⟩
    rw [if_neg (not_not.mpr hstat.type), if_neg (not_not.mpr hstat.nlink)]
    apply Triple.bind _ (solo_privateMode hstat.mode _)
    rintro stage'' _ rfl
    rw [if_neg (by rw [hstat.size]; omega)]
    apply Triple.bind _ (solo_openOwner hintact)
    rintro stage' handle ⟨hintact', hhandle⟩
    exact Triple.pure ⟨hintact', hstat, hhandle⟩
  apply Triple.bind _ (solo_catchIo hopen)
  rintro stage' ⟨looked, handle⟩ ⟨hintact, hlooked, hhandle⟩
  dsimp only at hlooked hhandle
  subst hhandle
  have hread : Triple (solo caller) stage' (readOpenedLocalFileLockOwner win32 looked handle)
      (fun stage'' owner => Intact handle content identity stage'' ∧ owner = text)
      (fun _ _ => False) := by
    apply Triple.bind _ (solo_fstat hintact)
    rintro stage'' opened ⟨hintact', hopened⟩
    rw [if_neg (by
      simp [hopened.type, hopened.nlink, hopened.identity, hlooked.identity])]
    apply Triple.bind _ (solo_privateMode hopened.mode _)
    rintro stage' _ rfl
    rw [if_neg (by rw [hopened.size]; omega)]
    apply Triple.bind _ (solo_readOwnerBytes hintact' hsize)
    rintro stage' bytes ⟨rfl, rfl⟩
    rw [if_neg (by omega), hdecode]
    exact Triple.pure ⟨hintact', rfl⟩
  apply never_throws
  apply Triple.finallyDo (solo_catchIo hread)
  intro stage'' outcome houtcome
  cases outcome with
  | ok owner => exact solo_close handle
  | error failure => exact houtcome.elim

/-- A release of the handle that wrote the marker passes its checks, if the decoder gives
the owner back. -/
theorem solo_checkRelease {text : JsString} (lock : LocalFileLock)
    (h : Intact number content identity stage)
    (hsize : content.length ≤ maxLocalFileLockOwnerUtf8Bytes)
    (hdecode : decodeOwner content = some text) (hidentity : lock.ownerIdentity = identity) :
    Triple (solo caller) stage (checkRelease win32 lock)
      (fun stage' _ => Intact number content identity stage' ∧ text = lock.owner)
      (fun _ _ => text ≠ lock.owner) := by
  apply Triple.bind _ (solo_validateRealDirectory _ h)
  intro stage' _ h
  apply Triple.bind _ (solo_validatePrivateLock h)
  intro stage' _ h
  apply Triple.bind _ (solo_entryNames h)
  rintro stage' _ ⟨h, rfl⟩
  rw [if_neg (not_not.mpr rfl)]
  apply Triple.bind _ (solo_validateRegularFile _ h)
  intro stage' _ h
  apply Triple.bind _ (solo_readIdentity h)
  rintro stage' found ⟨h, hfound⟩
  rw [if_neg (by rw [hidentity, hfound]; simp)]
  apply Triple.bind _ (solo_readBounded h hsize hdecode)
  rintro stage' _ ⟨h, rfl⟩
  split
  · rename_i hne
    exact Triple.throw hne
  · rename_i heq
    exact Triple.pure ⟨h, not_not.mp heq⟩

theorem solo_lstatPath (retries : Nat) (h : Intact number content identity stage) :
    Triple (solo caller) stage (lstatInspectionLockPath win32 retries)
      (fun stage' metadata => Intact number content identity stage' ∧
        ∃ stat, metadata = some stat ∧ stat.type = .directory ∧ stat.mode &&& 0o077 = 0) err := by
  have honce : ∀ again, Triple (solo caller) stage (lstatInspectionLockPathOnce win32 again)
      (fun stage' metadata => Intact number content identity stage' ∧
        ∃ stat, metadata = some stat ∧ stat.type = .directory ∧ stat.mode &&& 0o077 = 0) err := by
    intro again
    apply Triple.bind _ (attempted_never (solo_lstatLock h))
    intro stage' result hresult
    cases result with
    | error failure => exact hresult.elim
    | ok metadata => exact Triple.pure ⟨hresult.1, metadata, rfl, hresult.2⟩
  cases retries with
  | zero => exact honce none
  | succ retries => exact honce _

theorem solo_inspectionNames (retries : Nat) (h : Intact number content identity stage) :
    Triple (solo caller) stage (readInspectionEntryNames win32 retries)
      (fun stage' names => Intact number content identity stage' ∧ names = some [.owner]) err := by
  have honce : ∀ again, Triple (solo caller) stage (readInspectionEntryNamesOnce win32 again)
      (fun stage' names => Intact number content identity stage' ∧ names = some [.owner]) err := by
    intro again
    apply Triple.bind _ (attempted_never (solo_entryNames h))
    intro stage' result hresult
    cases result with
    | error failure => exact hresult.elim
    | ok entries => exact Triple.pure ⟨hresult.1, congrArg some hresult.2⟩
  cases retries with
  | zero => exact honce none
  | succ retries => exact honce _

section Decoding

variable {text : JsString} (hsize : content.length ≤ maxLocalFileLockOwnerUtf8Bytes)
  (hdecode : decodeOwner content = some text)

include hsize hdecode

theorem solo_inspectionOwner (retries : Nat) (h : Intact number content identity stage) :
    Triple (solo caller) stage (readInspectionOwner win32 retries)
      (fun stage' read => Intact number content identity stage' ∧ read = .owner text) err := by
  have honce : ∀ again, Triple (solo caller) stage (readInspectionOwnerOnce win32 again)
      (fun stage' read => Intact number content identity stage' ∧ read = .owner text) err := by
    intro again
    apply Triple.bind _ (attempted_never
      (solo_readBounded h hsize hdecode))
    intro stage' result hresult
    cases result with
    | error failure => exact hresult.elim
    | ok owner => exact Triple.pure ⟨hresult.1, congrArg _ hresult.2⟩
  cases retries with
  | zero => exact honce none
  | succ retries => exact honce _

/-- The inspection of an intact lock says what the decoder gives. -/
theorem solo_inspect (h : Intact number content identity stage) :
    Triple (solo caller) stage (inspectLocalFileLock win32)
      (fun stage' inspection => Intact number content identity stage' ∧
        inspection = classifyOwner text) (fun _ _ => False) := by
  apply Triple.bind _ (solo_lstatPath _ h)
  rintro stage' _ ⟨h, metadata, rfl, htype, hmode⟩
  dsimp only
  rw [if_neg (not_not.mpr htype), if_neg (by simp [hmode])]
  apply Triple.bind _ (solo_inspectionNames _ h)
  rintro stage' _ ⟨h, rfl⟩
  apply Triple.bind _ (attempted_never
    (solo_inspectionOwner hsize hdecode _ h))
  intro stage' result hresult
  cases result with
  | error failure => exact hresult.elim
  | ok read =>
    obtain ⟨h, rfl⟩ := hresult
    exact Triple.pure ⟨h, rfl⟩

end Decoding

end Reading

end OresLocks.LocalFile
