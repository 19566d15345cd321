import OresLocks.LocalFile.NativeRelease

/-!
# Releases that end in `compromised`

What the checks of the Rust and Go releases find, and what the two leave behind when
they report a compromised lock.
-/

namespace OresLocks.LocalFile

set_option autoImplicit false

open Shared.Programs

/-- The lock path and every file behind it are as they were. -/
def Unchanged (fs fs' : Fs) : Prop := fs'.lock = fs.lock ∧ fs'.files = fs.files

/-- The lock directory with its marker, as a handle of `owner` has to find it. The marker
is read by `reads` and the modes are checked against the masks. -/
structure Owned (windows : Bool) (directoryMask fileMask : Nat) (reads : Bytes → Prop)
    (fs : Fs) (node : Node) (number : Nat) : Prop where
  lock : fs.lock = some node
  type : node.type = .directory
  mode : windows = true ∨ node.mode &&& directoryMask = 0
  entry : node.entries.lookup .owner = some number
  fileType : (fs.files number).type = .file
  fileMode : windows = true ∨ (fs.files number).mode &&& fileMask = 0
  nlink : windows = true ∨ (fs.files number).nlink = 1
  size : (fs.files number).content.length ≤ maxLocalFileLockOwnerUtf8Bytes
  reads : reads (fs.files number).content

section Facts

variable {fs : Fs}

theorem lockStat_unique {stat stat' : Stat} (h : ∃ node, fs.lock = some node ∧ stat = node.stat)
    (h' : ∃ node, fs.lock = some node ∧ stat' = node.stat) : stat = stat' := by
  obtain ⟨node, hlock, rfl⟩ := h
  obtain ⟨node', hlock', rfl⟩ := h'
  rw [hlock] at hlock'
  cases hlock'
  rfl

theorem ownerStat_unique {stat stat' : Stat}
    (h : ∃ number, OwnerAt fs number ∧ stat = (fs.files number).stat)
    (h' : ∃ number, OwnerAt fs number ∧ stat' = (fs.files number).stat) : stat = stat' := by
  obtain ⟨number, hat, rfl⟩ := h
  obtain ⟨number', hat', rfl⟩ := h'
  cases hat.unique hat'
  rfl

end Facts

section Removal

variable {faulty : Prop} {caller : Call} {fs : Fs} {number : Nat} {node : Node} {stage : Solo}

theorem alone_unlink (hsame : SameLock caller fs stage.fs) (hlock : fs.lock = some node)
    (htype : node.type = .directory) (hentry : node.entries.lookup .owner = some number)
    (hfile : (fs.files number).type = .file) :
    Follows (alone faulty caller) (fun stage' answer =>
      match answer with
      | .ok _ => stage'.fs.lock = some { node with entries := Fs.without node.entries .owner }
      | .error _ => faulty ∧ SameLock caller fs stage'.fs) stage (issue (.unlink .owner)) := by
  refine ⟨trivial, ?_⟩
  rintro answer stage' (⟨choice, hperformed, hanswer⟩ | ⟨hfaulty, rfl, error, rfl, _⟩)
  · have hfound : stage.fs.entry .owner choice = .ok (node, number) := by
      unfold Fs.entry Fs.directory
      simp [hsame.lock, hlock, htype, hentry]
    have hregular : (stage.fs.files number).type ≠ .directory := by
      rw [hsame.files, hfile]
      simp
    have hfs := hperformed.fs
    change answer = (stage.fs.unlink caller .owner choice).1 at hanswer
    change _ = (stage.fs.unlink caller .owner choice).2 at hfs
    unfold Fs.unlink at hanswer hfs
    simp only [hfound, if_neg hregular] at hanswer hfs
    subst hanswer
    change stage'.fs.lock = _
    rw [hfs]
    rfl
  · exact ⟨hfaulty, hsame⟩

theorem alone_rmdir (hlock : stage.fs.lock = some node) (htype : node.type = .directory) :
    Follows (alone faulty caller) (fun stage' answer =>
      match answer with
      | .ok _ => node.entries = []
      | .error error => stage'.fs = stage.fs ∧
          (error.code = some "ENOTEMPTY" ∧ node.entries ≠ [] ∨
            faulty ∧ error.code ≠ some "ENOTEMPTY")) stage (issue .rmdir) := by
  refine ⟨trivial, ?_⟩
  rintro answer stage' (⟨choice, hperformed, hanswer⟩ | ⟨hfaulty, rfl, error, rfl, hcode⟩)
  · have hfound : stage.fs.directory choice = .ok node := by
      unfold Fs.directory
      simp [hlock, htype]
    have hfs := hperformed.fs
    change answer = (stage.fs.rmdir caller choice).1 at hanswer
    change _ = (stage.fs.rmdir caller choice).2 at hfs
    unfold Fs.rmdir at hanswer hfs
    simp only [hfound] at hanswer hfs
    split at hanswer
    · rename_i hempty
      subst hanswer
      exact hempty
    · rename_i hfull
      rw [if_neg hfull] at hfs
      subst hanswer
      exact ⟨hfs, .inl ⟨rfl, hfull⟩⟩
  · exact ⟨rfl, .inr ⟨hfaulty, hcode⟩⟩

/-- Without its marker the directory is not what it was. -/
theorem unmarked_changed {fs' : Fs} (hlock : fs.lock = some node)
    (hentry : node.entries.lookup .owner = some number)
    (hlock' : fs'.lock = some { node with entries := Fs.without node.entries .owner }) :
    ¬ Unchanged fs fs' := by
  rintro ⟨hsame, _⟩
  rw [hlock', hlock] at hsame
  have hentries : Fs.without node.entries .owner = node.entries :=
    congrArg Node.entries (Option.some.inj hsame)
  have hmem : (Name.owner, number) ∈ Fs.without node.entries .owner := by
    rw [hentries]
    obtain ⟨before, after, hsplit, _⟩ := List.lookup_eq_some_iff.mp hentry
    simp [hsplit]
  simp [Fs.without] at hmem

/-- A compromised release changes nothing, unless the lock is `dirty`; then, where no
call fails, it is compromised and does. -/
structure Aftermath (faulty : Prop) (fs : Fs) (dirty : Prop) (stage : Solo)
    (result : Except LocalFileLockError Unit) : Prop where
  kept : ∀ error, result = .error error → error.kind = .compromised →
    Unchanged fs stage.fs ∨ dirty
  lost : faulty ∨ ¬ dirty ∨ ∃ error, result = .error error ∧ error.kind = .compromised ∧
    ¬ Unchanged fs stage.fs

theorem aftermath_of_clean {result : Except LocalFileLockError Unit} {dirty : Prop}
    (hsame : SameLock caller fs stage.fs) (hclean : faulty ∨ ¬ dirty) :
    Aftermath faulty fs dirty stage result :=
  ⟨fun _ _ _ => .inl ⟨hsame.lock, hsame.files⟩, hclean.imp_right .inl⟩

theorem aftermath_of_removed {dirty : Prop} (hclean : ¬ dirty) :
    Aftermath faulty fs dirty stage (.ok ()) := by
  refine ⟨?_, .inr (.inl hclean)⟩
  intro error herror
  cases herror

/-- The marker is gone and the directory is not. -/
theorem aftermath_of_left {error : LocalFileLockError} {dirty : Prop}
    (hchanged : ¬ Unchanged fs stage.fs)
    (h : error.kind = .compromised ∧ dirty ∨ error.kind ≠ .compromised ∧ faulty) :
    Aftermath faulty fs dirty stage (.error error) := by
  obtain ⟨hkind, hdirty⟩ | ⟨hkind, hfaulty⟩ := h
  · exact ⟨fun _ _ _ => .inr hdirty, .inr (.inr ⟨error, rfl, hkind, hchanged⟩)⟩
  · refine ⟨?_, .inl hfaulty⟩
    intro error' herror hkind'
    cases herror
    exact absurd hkind' hkind

/-- The checks and the two removals, where `failed` reports a directory that stays. -/
theorem removals_aftermath {α : Type} {windows : Bool} {directoryMask fileMask : Nat}
    {reads : Bytes → Prop} {checks : LockM Unit} {refused removed : α} {dirty : Prop}
    {unlinkFailure : FsError → LocalFileLockError}
    {failed : FsError → FsProg (α × Except LocalFileLockError Unit)}
    (hchecks : Decides faulty caller fs checks
      (fun _ => ∃ node number, Owned windows directoryMask fileMask reads fs node number))
    (hdirty : dirty ↔ ∃ node number, Owned windows directoryMask fileMask reads fs node number ∧
      Fs.without node.entries .owner ≠ [])
    (hfailed : ∀ left error stage, stage.fs.lock = some left → left.type = .directory →
      ¬ Unchanged fs stage.fs → (left.entries ≠ [] → dirty) →
      (error.code = some "ENOTEMPTY" ∧ left.entries ≠ [] ∨
        faulty ∧ error.code ≠ some "ENOTEMPTY") →
      Follows (alone faulty caller) (fun final result => Aftermath faulty fs dirty final result.2)
        stage (failed error)) :
    Follows (alone faulty caller) (fun final result => Aftermath faulty fs dirty final result.2)
      ⟨fs, []⟩
      (do
        match ← checks.run with
        | .error error => pure (refused, .error error)
        | .ok () =>
          match ← issue (.unlink .owner) with
          | .error error => pure (refused, .error (unlinkFailure error))
          | .ok () =>
            match ← issue .rmdir with
            | .ok () => pure (removed, .ok ())
            | .error error => failed error) := by
  apply Follows.bind
  apply Follows.mono (hchecks ⟨fs, []⟩ (.refl caller fs))
  intro stage checked hchecked
  cases checked with
  | error error =>
    obtain ⟨hsame, hbad⟩ := hchecked
    apply aftermath_of_clean hsame
    apply hbad.imp_right
    intro hunowned hd
    obtain ⟨node, number, howned, _⟩ := hdirty.mp hd
    exact hunowned () ⟨node, number, howned⟩
  | ok _ =>
    obtain ⟨hsame, node, number, howned⟩ := hchecked
    apply Follows.bind
    apply Follows.mono (alone_unlink hsame howned.lock howned.type howned.entry howned.fileType)
    intro stage unlinked hunlinked
    cases unlinked with
    | error error => exact aftermath_of_clean hunlinked.2 (.inl hunlinked.1)
    | ok _ =>
      apply Follows.bind
      apply Follows.mono (alone_rmdir hunlinked howned.type)
      intro stage' removed hremoved
      cases removed with
      | ok _ =>
        apply aftermath_of_removed
        intro hd
        obtain ⟨node', number', howned', hfull⟩ := hdirty.mp hd
        cases howned.lock.symm.trans howned'.lock
        exact hfull hremoved
      | error error =>
        obtain ⟨hfs, hleft⟩ := hremoved
        have hlock : stage'.fs.lock = _ := (congrArg Fs.lock hfs).trans hunlinked
        apply hfailed _ error stage' hlock howned.type ?_ ?_ hleft
        · exact unmarked_changed howned.lock howned.entry hlock
        · exact fun hfull => hdirty.mpr ⟨node, number, howned, hfull⟩

theorem leaves_lock_iff {α : Type} {dirty : Prop}
    {program : FsProg (α × Except LocalFileLockError Unit)}
    (h : ∀ faulty, Follows (alone faulty caller)
      (fun stage result => Aftermath faulty fs dirty stage result.2) ⟨fs, []⟩ program) :
    (∀ final result, Ran (alone True caller) ⟨fs, []⟩ program final result →
      ∀ error, result.2 = .error error → error.kind = .compromised → Unchanged fs final.fs) ↔
    ¬ dirty := by
  constructor
  · intro hkept hdirty
    have hanswered : ∀ stage op, ∃ answer stage',
        (alone False caller).moves stage op answer stage' := by
      intro stage op
      have hanswered : ∃ answer stage', (solo caller).moves stage op answer stage' :=
        solo_answered stage op
      obtain ⟨answer, stage', hmove⟩ := hanswered
      exact ⟨answer, stage', .inl hmove⟩
    obtain ⟨final, result, hran⟩ := Ran.total hanswered ⟨fs, []⟩ program
    have hran' : Ran (alone True caller) ⟨fs, []⟩ program final result := by
      apply Ran.mono ?_ hran
      rintro stage op answer stage' (hmove | ⟨hfalse, _⟩)
      · exact .inl hmove
      · exact hfalse.elim
    obtain hfalse | hclean | ⟨error, herror, hkind, hchanged⟩ := ((h False).ran hran).lost
    · exact hfalse
    · exact hclean hdirty
    · exact hchanged (hkept final result hran' error herror hkind)
  · intro hclean final result hran error herror hkind
    exact (((h True).ran hran).kept error herror hkind).resolve_right hclean

end Removal

namespace Rust

section Checks

variable {faulty : Prop} {caller : Call} {fs : Fs} {windows : Bool} {number : Nat}

theorem decides_validateRealDirectory (label : String) :
    Decides faulty caller fs (validateRealDirectory label)
      (fun _ => ∃ node, fs.lock = some node ∧ node.type = .directory) := by
  apply Decides.iff (decides_lstatLock.bind (fun _ _ => lockStat_unique) fun stat _ =>
    decides_guard (stat.type = .directory) _)
  intro _
  constructor
  · rintro ⟨_, ⟨node, hlock, rfl⟩, htype⟩
    exact ⟨node, hlock, htype⟩
  · rintro ⟨node, hlock, htype⟩
    exact ⟨node.stat, ⟨node, hlock, rfl⟩, htype⟩

theorem decides_validatePrivateLockDirectory {node : Node} (hlock : fs.lock = some node) :
    Decides faulty caller fs (validatePrivateLockDirectory windows)
      (fun _ => windows = true ∨ node.mode &&& 0o077 = 0) := by
  unfold validatePrivateLockDirectory
  split
  · rename_i hwindows
    exact (decides_pure ()).iff fun _ => by simp [hwindows]
  · rename_i hwindows
    apply Decides.iff (decides_lstatLock.bind (fun _ _ => lockStat_unique) fun stat _ =>
      decides_guard (stat.mode &&& 0o077 = 0) _)
    intro _
    constructor
    · rintro ⟨_, ⟨node', hlock', rfl⟩, hmode⟩
      rw [hlock] at hlock'
      cases hlock'
      exact .inr hmode
    · rintro (htrue | hmode)
      · exact absurd htrue hwindows
      · exact ⟨node.stat, ⟨node, hlock, rfl⟩, hmode⟩

/-- The owner contract of the crate. -/
def Reads (owner : String) (content : Bytes) : Prop :=
  Shared.Utf8.decode content = some owner.toList ∧ owner.toList ≠ [] ∧
    owner.toList.length ≤ maxLocalFileLockOwnerCodepoints

theorem decides_ownerText (content : Bytes) :
    Decides faulty caller fs (ownerText content) (fun owner => Reads owner content) := by
  unfold ownerText Reads
  cases hdecode : Shared.Utf8.decode content with
  | none =>
    intro stage hsame
    apply Triple.throw
    exact ⟨hsame, .inr fun owner h => by cases h.1⟩
  | some chars =>
    apply Decides.iff ((decides_guard (chars ≠ [] ∧ chars.length ≤ maxLocalFileLockOwnerCodepoints)
      _).andThen fun _ => decides_pure (String.ofList chars))
    intro owner
    constructor
    · rintro ⟨⟨hne, hlength⟩, rfl⟩
      rw [String.toList_ofList]
      exact ⟨rfl, hne, hlength⟩
    · rintro ⟨hchars, hne, hlength⟩
      cases hchars
      exact ⟨⟨hne, hlength⟩, String.ofList_toList.symm⟩

theorem multipleLinks_iff (file : File) :
    metadataHasMultipleLinks windows file.stat = false ↔ windows = true ∨ file.nlink = 1 := by
  cases windows <;> simp [metadataHasMultipleLinks, File.stat]

theorem same_identity (stat : Stat) : sameFileIdentity windows stat stat = true := by
  simp [sameFileIdentity]

/-- The read of a marker within the bound. -/
theorem decides_readText (hsize : (fs.files number).content.length ≤ maxLocalFileLockOwnerUtf8Bytes) :
    Decides faulty caller fs
      (do
        let bytes ← (readOwnerBytes number (maxLocalFileLockOwnerUtf8Bytes + 1) []).adapt readFailure
        guardThat (bytes.length ≤ maxLocalFileLockOwnerUtf8Bytes) ownerTooLarge
        ownerText bytes)
      (fun owner => Reads owner (fs.files number).content) := by
  apply Decides.iff ((decides_readOwnerBytes readFailure hsize).bind (fun _ _ h h' => h.trans h'.symm)
    fun bytes _ => (decides_guard (bytes.length ≤ maxLocalFileLockOwnerUtf8Bytes) _).andThen
      fun _ => decides_ownerText bytes)
  intro owner
  constructor
  · rintro ⟨_, rfl, _, hreads⟩
    exact hreads
  · exact fun hreads => ⟨_, rfl, hsize, hreads⟩

/-- The open file is the one that was looked at, so the second look finds what the first did. -/
theorem decides_readOpenedOwner (htype : (fs.files number).type = .file)
    (hlinks : metadataHasMultipleLinks windows (fs.files number).stat = false)
    (hsize : (fs.files number).content.length ≤ maxLocalFileLockOwnerUtf8Bytes) :
    Decides faulty caller fs (readOpenedOwner windows (fs.files number).stat number)
      (fun owner => Reads owner (fs.files number).content) := by
  apply Decides.iff ((decides_fstat number).bind (fun _ _ h h' => h.trans h'.symm) fun stat _ =>
    (decides_guard (stat.type = .file ∧ metadataHasMultipleLinks windows stat = false) _).andThen
      fun _ => (decides_guard (sameFileIdentity windows (fs.files number).stat stat = true) _).andThen
      fun _ => (decides_guard (stat.size ≤ maxLocalFileLockOwnerUtf8Bytes) _).andThen
      fun _ => decides_readText hsize)
  intro owner
  constructor
  · rintro ⟨_, _, _, _, _, hreads⟩
    exact hreads
  · exact fun hreads => ⟨_, rfl, ⟨htype, hlinks⟩, same_identity _, hsize, hreads⟩

/-- The marker reads as this owner. -/
def Shows (windows : Bool) (fs : Fs) (owner : String) : Prop :=
  ∃ number, OwnerAt fs number ∧ (fs.files number).type = .file ∧
    metadataHasMultipleLinks windows (fs.files number).stat = false ∧
    (fs.files number).content.length ≤ maxLocalFileLockOwnerUtf8Bytes ∧
    Reads owner (fs.files number).content

theorem Shows.unique {owner owner' : String} (h : Shows windows fs owner)
    (h' : Shows windows fs owner') : owner = owner' := by
  obtain ⟨number, hat, _, _, _, hreads, _⟩ := h
  obtain ⟨number', hat', _, _, _, hreads', _⟩ := h'
  cases hat.unique hat'
  exact String.toList_inj.mp (Option.some.inj (hreads.symm.trans hreads'))

theorem decides_readBoundedOwner :
    Decides faulty caller fs (readBoundedOwner windows) (Shows windows fs) := by
  have hopened : ∀ stat, (∃ number, OwnerAt fs number ∧ stat = (fs.files number).stat) →
      stat.type = .file ∧ metadataHasMultipleLinks windows stat = false →
      stat.size ≤ maxLocalFileLockOwnerUtf8Bytes →
      Decides faulty caller fs
        (do
          let handle ← asked (.openRead .owner) (ioError "open local lock owner token")
          closing handle (readOpenedOwner windows stat handle))
        (fun owner => ∃ number, OwnerAt fs number ∧ Reads owner (fs.files number).content) := by
    rintro _ ⟨number, hat, rfl⟩ ⟨htype, hlinks⟩ hsize
    apply decides_openOwner.bind (fun _ _ => OwnerAt.unique)
    intro handle hhandle
    cases hat.unique hhandle
    exact (decides_readOpenedOwner htype hlinks hsize).closing number
  apply Decides.iff (decides_lstatOwner.bind (fun _ _ => ownerStat_unique) fun stat hstat =>
    (decides_guard (stat.type = .file ∧ metadataHasMultipleLinks windows stat = false) _).andThen
      fun hfile => (decides_guard (stat.size ≤ maxLocalFileLockOwnerUtf8Bytes) _).andThen
      fun hsize => hopened stat hstat hfile hsize)
  intro owner
  constructor
  · rintro ⟨_, ⟨number, hat, rfl⟩, ⟨htype, hlinks⟩, hsize, number', hat', hreads⟩
    cases hat.unique hat'
    exact ⟨number, hat, htype, hlinks, hsize, hreads⟩
  · rintro ⟨number, hat, htype, hlinks, hsize, hreads⟩
    exact ⟨_, ⟨number, hat, rfl⟩, ⟨htype, hlinks⟩, hsize, number, hat, hreads⟩

theorem decides_validateRegularFile (label : String) :
    Decides faulty caller fs (validateRegularFile windows label)
      (fun _ => ∃ number, OwnerAt fs number ∧ (fs.files number).type = .file ∧
        metadataHasMultipleLinks windows (fs.files number).stat = false) := by
  apply Decides.iff (decides_lstatOwner.bind (fun _ _ => ownerStat_unique) fun stat _ =>
    (decides_guard (stat.type = .file) _).andThen
      fun _ => decides_guard (metadataHasMultipleLinks windows stat = false) _)
  intro _
  constructor
  · rintro ⟨_, ⟨number, hat, rfl⟩, htype, hlinks⟩
    exact ⟨number, hat, htype, hlinks⟩
  · rintro ⟨number, hat, htype, hlinks⟩
    exact ⟨_, ⟨number, hat, rfl⟩, htype, hlinks⟩

/-- What the checks of a handle of `owner` have to find. -/
abbrev Admits (windows : Bool) (owner : String) : Fs → Node → Nat → Prop :=
  Owned windows 0o077 0 (Reads owner)

theorem decides_checkRelease (owner : String) :
    Decides faulty caller fs (checkRelease windows owner)
      (fun _ => ∃ node number, Admits windows owner fs node number) := by
  have hmarker : Decides faulty caller fs
      (do
        let observed ← readBoundedOwner windows
        guardThat (observed = owner) ownerChanged
        validateRegularFile windows "owner token")
      (fun _ => Shows windows fs owner) := by
    apply Decides.iff (decides_readBoundedOwner.bind (fun _ _ => Shows.unique) fun observed _ =>
      (decides_guard (observed = owner) _).andThen fun _ => decides_validateRegularFile _)
    intro _
    constructor
    · rintro ⟨observed, hshows, rfl, _⟩
      exact hshows
    · intro hshows
      obtain ⟨number, hat, htype, hlinks, _⟩ := id hshows
      exact ⟨owner, hshows, rfl, number, hat, htype, hlinks⟩
  have hprivate : (∃ node, fs.lock = some node ∧ node.type = .directory) → Decides faulty caller fs
      (do
        validatePrivateLockDirectory windows
        let observed ← readBoundedOwner windows
        guardThat (observed = owner) ownerChanged
        validateRegularFile windows "owner token")
      (fun _ => ∃ node number, Admits windows owner fs node number) := by
    rintro ⟨node, hlock, htype⟩
    apply Decides.iff ((decides_validatePrivateLockDirectory hlock).andThen fun _ => hmarker)
    intro _
    constructor
    · rintro ⟨hmode, number, ⟨node', hlock', _, hentry⟩, hfile, hlinks, hsize, hreads⟩
      rw [hlock] at hlock'
      cases hlock'
      exact ⟨node, number, hlock, htype, hmode, hentry, hfile, .inr (Nat.and_zero _),
        (multipleLinks_iff _).mp hlinks, hsize, hreads⟩
    · rintro ⟨node', number, h⟩
      obtain rfl : node = node' := Option.some.inj (hlock.symm.trans h.lock)
      exact ⟨h.mode, number, ⟨node, hlock, htype, h.entry⟩, h.fileType,
        (multipleLinks_iff _).mpr h.nlink, h.size, h.reads⟩
  apply Decides.iff ((decides_validateRealDirectory "lock directory").andThen hprivate)
  intro _
  constructor
  · exact And.right
  · rintro ⟨node, number, h⟩
    exact ⟨⟨node, h.lock, h.type⟩, node, number, h⟩

end Checks

section Release

/-- A handle that has not been released, on a lock that passes its checks and holds
other entries beside the marker. -/
def Littered (windows : Bool) (lock : LocalFileLock) (fs : Fs) : Prop :=
  lock.released = false ∧ lock.releaseError = none ∧
    ∃ node number, Admits windows lock.owner fs node number ∧
      Fs.without node.entries .owner ≠ []

theorem releaseInner_aftermath (caller : Call) (windows : Bool) (lock : LocalFileLock) (fs : Fs)
    (faulty : Prop) :
    Follows (alone faulty caller)
      (fun stage result => Aftermath faulty fs (Littered windows lock fs) stage result.2)
      ⟨fs, []⟩ (releaseInner windows lock) := by
  unfold releaseInner
  split
  · rename_i hreleased
    exact aftermath_of_clean (.refl caller fs) (.inr fun h => by simp [h.1] at hreleased)
  split
  · rename_i herror
    exact aftermath_of_clean (.refl caller fs) (.inr fun h => by simp [h.2.1] at herror)
  rename_i hfresh _ hnone
  apply removals_aftermath (decides_checkRelease lock.owner)
  · exact ⟨fun h => h.2.2, fun h => ⟨by simpa using hfresh, hnone, h⟩⟩
  intro left error stage _ _ hchanged hdirty hleft
  apply aftermath_of_left hchanged
  obtain ⟨hcode, hfull⟩ | ⟨hfaulty, hcode⟩ := hleft
  · exact .inl ⟨if_pos hcode, hdirty hfull⟩
  · exact .inr ⟨by simp [removalFailure, hcode], hfaulty⟩

end Release

end Rust

namespace Go

section Checks

variable {faulty : Prop} {caller : Call} {fs : Fs} {windows : Bool} {number : Nat}

theorem decides_validateLocalRealDirectory (label : String) :
    Decides faulty caller fs (validateLocalRealDirectory windows label)
      (fun _ => ∃ node, fs.lock = some node ∧ node.type = .directory ∧
        (windows = true ∨ node.mode &&& 0o022 = 0)) := by
  apply Decides.iff (decides_lstatLock.bind (fun _ _ => lockStat_unique) fun stat _ =>
    (decides_guard (stat.type = .directory) _).andThen fun _ =>
      decides_guard (windows = true ∨ stat.mode &&& 0o022 = 0) _)
  intro _
  constructor
  · rintro ⟨_, ⟨node, hlock, rfl⟩, htype, hmode⟩
    exact ⟨node, hlock, htype, hmode⟩
  · rintro ⟨node, hlock, htype, hmode⟩
    exact ⟨node.stat, ⟨node, hlock, rfl⟩, htype, hmode⟩

/-- What the checks ask of the marker before it is opened. -/
structure Private (windows : Bool) (stat : Stat) : Prop where
  type : stat.type = .file
  nlink : localFileHasMultipleLinks windows stat = false
  mode : windows = true ∨ stat.mode &&& 0o077 = 0
  size : stat.size ≤ maxLocalFileLockOwnerUtf8Bytes

/-- The bytes of a marker that is valid UTF-8. -/
def Reads (owner content : Bytes) : Prop :=
  owner = content ∧ (Shared.Utf8.decode content).isSome = true

theorem decides_readOpenedOwner (h : Private windows (fs.files number).stat) :
    Decides faulty caller fs (readOpenedOwner windows (fs.files number).stat number)
      (fun owner => Reads owner (fs.files number).content) := by
  have hread : Decides faulty caller fs
      (do
        let owner ← (readOwnerBytes number (maxLocalFileLockOwnerUtf8Bytes + 1) []).adapt readFailure
        guardThat (owner.length ≤ maxLocalFileLockOwnerUtf8Bytes) ownerTooLarge
        guardThat ((Shared.Utf8.decode owner).isSome = true)
          (compromised "owner token is not valid UTF-8")
        pure owner)
      (fun owner => Reads owner (fs.files number).content) := by
    apply Decides.iff ((decides_readOwnerBytes readFailure h.size).bind
      (fun _ _ h h' => h.trans h'.symm) fun bytes _ =>
      (decides_guard (bytes.length ≤ maxLocalFileLockOwnerUtf8Bytes) _).andThen fun _ =>
      (decides_guard ((Shared.Utf8.decode bytes).isSome = true) _).andThen fun _ => decides_pure bytes)
    intro owner
    constructor
    · rintro ⟨_, rfl, _, hdecode, rfl⟩
      exact ⟨rfl, hdecode⟩
    · rintro ⟨rfl, hdecode⟩
      exact ⟨_, rfl, h.size, hdecode, rfl⟩
  apply Decides.iff ((decides_fstat number).bind (fun _ _ h h' => h.trans h'.symm) fun stat _ =>
    (decides_guard (stat.type = .file ∧ sameFile (fs.files number).stat stat = true ∧
      localFileHasMultipleLinks windows stat = false) _).andThen fun _ =>
    (decides_guard (windows = true ∨ stat.mode &&& 0o077 = 0) _).andThen fun _ =>
    (decides_guard (stat.size ≤ maxLocalFileLockOwnerUtf8Bytes) _).andThen fun _ => hread)
  intro owner
  constructor
  · rintro ⟨_, _, _, _, _, hreads⟩
    exact hreads
  · exact fun hreads => ⟨_, rfl, ⟨h.type, by simp [sameFile], h.nlink⟩, h.mode, h.size, hreads⟩

/-- The marker reads as these bytes. -/
def Shows (windows : Bool) (fs : Fs) (owner : Bytes) : Prop :=
  ∃ number, OwnerAt fs number ∧ Private windows (fs.files number).stat ∧
    Reads owner (fs.files number).content

theorem Shows.unique {owner owner' : Bytes} (h : Shows windows fs owner)
    (h' : Shows windows fs owner') : owner = owner' := by
  obtain ⟨number, hat, _, rfl, _⟩ := h
  obtain ⟨number', hat', _, rfl, _⟩ := h'
  cases hat.unique hat'
  rfl

theorem decides_readBoundedLocalFileLockOwner :
    Decides faulty caller fs (readBoundedLocalFileLockOwner windows) (Shows windows fs) := by
  have hopened : ∀ stat, (∃ number, OwnerAt fs number ∧ stat = (fs.files number).stat) →
      Private windows stat →
      Decides faulty caller fs
        (do
          let handle ← asked (.openRead .owner)
            (missingOr "owner token is missing" "open local lock owner token failed")
          closing handle (readOpenedOwner windows stat handle))
        (fun owner => ∃ number, OwnerAt fs number ∧ Reads owner (fs.files number).content) := by
    rintro _ ⟨number, hat, rfl⟩ hprivate
    apply decides_openOwner.bind (fun _ _ => OwnerAt.unique)
    intro handle hhandle
    cases hat.unique hhandle
    exact (decides_readOpenedOwner hprivate).closing number
  apply Decides.iff (decides_lstatOwner.bind (fun _ _ => ownerStat_unique) fun stat hstat =>
    (decides_guard (stat.type = .file) _).andThen fun htype =>
    (decides_guard (localFileHasMultipleLinks windows stat = false) _).andThen fun hlinks =>
    (decides_guard (windows = true ∨ stat.mode &&& 0o077 = 0) _).andThen fun hmode =>
    (decides_guard (stat.size ≤ maxLocalFileLockOwnerUtf8Bytes) _).andThen fun hsize =>
    hopened stat hstat ⟨htype, hlinks, hmode, hsize⟩)
  intro owner
  constructor
  · rintro ⟨_, ⟨number, hat, rfl⟩, htype, hlinks, hmode, hsize, number', hat', hreads⟩
    cases hat.unique hat'
    exact ⟨number, hat, ⟨htype, hlinks, hmode, hsize⟩, hreads⟩
  · rintro ⟨number, hat, h, hreads⟩
    exact ⟨_, ⟨number, hat, rfl⟩, h.type, h.nlink, h.mode, h.size, number, hat, hreads⟩

theorem multipleLinks_iff (file : File) :
    localFileHasMultipleLinks windows file.stat = false ↔ windows = true ∨ file.nlink = 1 := by
  cases windows <;> simp [localFileHasMultipleLinks, File.stat]

/-- What the checks of a handle of `owner` have to find. -/
abbrev Admits (windows : Bool) (owner : Bytes) : Fs → Node → Nat → Prop :=
  Owned windows 0o022 0o077 (Reads owner)

theorem decides_checkRelease (owner : Bytes) :
    Decides faulty caller fs (checkRelease windows owner)
      (fun _ => ∃ node number, Admits windows owner fs node number) := by
  apply Decides.iff ((decides_validateLocalRealDirectory "lock directory").andThen fun _ =>
    decides_readBoundedLocalFileLockOwner.bind (fun _ _ => Shows.unique) fun observed _ =>
      decides_guard (observed = owner) _)
  intro _
  constructor
  · rintro ⟨⟨node, hlock, htype, hmode⟩, _, ⟨number, ⟨node', hlock', _, hentry⟩, h, hreads⟩, rfl⟩
    rw [hlock] at hlock'
    cases hlock'
    exact ⟨node, number, hlock, htype, hmode, hentry, h.type, h.mode,
      (multipleLinks_iff _).mp h.nlink, h.size, hreads⟩
  · rintro ⟨node, number, h⟩
    exact ⟨⟨node, h.lock, h.type, h.mode⟩, owner, ⟨number, ⟨node, h.lock, h.type, h.entry⟩,
      ⟨h.fileType, (multipleLinks_iff _).mpr h.nlink, h.fileMode, h.size⟩, h.reads⟩, rfl⟩

end Checks

section Release

variable {faulty : Prop} {caller : Call} {node : Node} {stage : Solo}

theorem alone_opendir (hlock : stage.fs.lock = some node) (htype : node.type = .directory) :
    Follows (alone faulty caller) (fun stage' answer => stage'.fs = stage.fs ∧
      match answer with
      | .ok _ => stage'.stream.Perm (node.entries.map Prod.fst)
      | .error _ => faulty) stage (issue .opendir) := by
  refine ⟨trivial, ?_⟩
  rintro answer stage' (⟨choice, hperformed, hanswer⟩ | ⟨hfaulty, rfl, error, rfl, _⟩)
  · refine ⟨hperformed.fs, ?_⟩
    change answer = stage.fs.opendir choice at hanswer
    have hstream := hperformed.stream node hlock
    unfold Fs.opendir Fs.directory at hanswer
    simp only [hlock, if_pos htype] at hanswer
    subst hanswer
    exact hstream
  · exact ⟨rfl, hfaulty⟩

/-- A name is found only in a directory with entries, and then unless a call fails. -/
theorem alone_firstName (hlock : stage.fs.lock = some node) (htype : node.type = .directory) :
    Follows (alone faulty caller) (fun stage' name => stage'.fs = stage.fs ∧
      (name.isSome = true ∧ node.entries ≠ [] ∨
        name.isSome = false ∧ (faulty ∨ node.entries = []))) stage firstName := by
  apply Follows.bind
  apply Follows.mono (alone_opendir hlock htype)
  rintro stage' answer ⟨hfs, hopened⟩
  cases answer with
  | error error => exact ⟨hfs, .inr ⟨rfl, .inl hopened⟩⟩
  | ok _ =>
    refine ⟨trivial, ?_⟩
    intro names stage'' hread
    refine ⟨trivial, ?_⟩
    intro closed final hclosed
    have hfinal : final.fs = stage''.fs := by
      obtain ⟨choice, hperformed, _⟩ | ⟨_, rfl, _⟩ := hclosed
      · exact hperformed.fs
      · rfl
    obtain ⟨choice, hperformed, rfl⟩ | ⟨hfaulty, rfl, error, rfl, _⟩ := hread
    · have hsame : final.fs = stage.fs := hfinal.trans (hperformed.fs.trans hfs)
      have hshown := hperformed.shown rfl
      change final.fs = stage.fs ∧ (choice.entry.isSome = true ∧ _ ∨ choice.entry.isSome = false ∧ _)
      refine ⟨hsame, ?_⟩
      rw [hshown]
      cases hentries : node.entries with
      | nil =>
        rw [hentries] at hopened
        rw [List.perm_nil.mp hopened]
        exact .inr ⟨rfl, .inr rfl⟩
      | cons entry entries =>
        rw [hentries] at hopened
        cases hstream : stage'.stream with
        | nil =>
          rw [hstream] at hopened
          cases List.nil_perm.mp hopened
        | cons name names => exact .inl ⟨rfl, by simp⟩
    · exact ⟨hfinal.trans hfs, .inr ⟨rfl, .inl hfaulty⟩⟩

/-- A handle that has not been released, on a lock that passes its checks and holds
other entries beside the marker. -/
def Littered (windows : Bool) (lock : LocalFileLock) (fs : Fs) : Prop :=
  lock.released = false ∧ lock.releaseErr = none ∧
    ∃ node number, Admits windows lock.owner fs node number ∧
      Fs.without node.entries .owner ≠ []

theorem release_aftermath (caller : Call) (windows : Bool) (lock : LocalFileLock) (fs : Fs)
    (faulty : Prop) :
    Follows (alone faulty caller)
      (fun stage result => Aftermath faulty fs (Littered windows lock fs) stage result.2)
      ⟨fs, []⟩ (release windows lock) := by
  unfold release
  split
  · rename_i hreleased
    exact aftermath_of_clean (.refl caller fs) (.inr fun h => by simp [h.1] at hreleased)
  split
  · rename_i herror
    exact aftermath_of_clean (.refl caller fs) (.inr fun h => by simp [h.2.1] at herror)
  rename_i hfresh _ hnone
  apply removals_aftermath (decides_checkRelease lock.owner)
  · exact ⟨fun h => h.2.2, fun h => ⟨by simpa using hfresh, hnone, h⟩⟩
  intro left error stage hlock htype hchanged hdirty hleft
  apply Follows.bind
  apply Follows.mono (alone_firstName hlock htype)
  rintro final name ⟨hfinal, hname⟩
  apply aftermath_of_left (hfinal ▸ hchanged)
  obtain ⟨hsome, hfull⟩ | ⟨hnothing, hrest⟩ := hname
  · exact .inl ⟨if_pos hsome, hdirty hfull⟩
  · refine .inr ⟨by simp [localFileError, hnothing], ?_⟩
    obtain ⟨_, hfull⟩ | ⟨hfaulty, _⟩ := hleft
    · exact hrest.resolve_right hfull
    · exact hfaulty

end Release

end Go

/-- A release that nobody disturbs and that ends in `compromised`, of either runtime,
leaves the lock path as it was, exactly when the handle is not a live one whose lock
passes the checks and holds other entries beside the marker. -/
theorem compromised_release_leaves_lock_iff_unlittered (windows : Bool) (caller : Call) (fs : Fs) :
    (∀ lock : Rust.LocalFileLock,
      (∀ final result, Ran (alone True caller) ⟨fs, []⟩ (Rust.releaseInner windows lock) final result →
        ∀ error, result.2 = .error error → error.kind = .compromised → Unchanged fs final.fs) ↔
      ¬ Rust.Littered windows lock fs) ∧
    (∀ lock : Go.LocalFileLock,
      (∀ final result, Ran (alone True caller) ⟨fs, []⟩ (Go.release windows lock) final result →
        ∀ error, result.2 = .error error → error.kind = .compromised → Unchanged fs final.fs) ↔
      ¬ Go.Littered windows lock fs) :=
  ⟨fun lock => leaves_lock_iff (Rust.releaseInner_aftermath caller windows lock fs),
    fun lock => leaves_lock_iff (Go.release_aftermath caller windows lock fs)⟩

section Sample

/-- A private lock of the owner `x` with an unexpected entry beside the marker. -/
def litteredFs : Fs where
  parent := some ⟨.directory, 0o700, 2, 0, ⟨1, 1, 1⟩⟩
  lock := some ⟨.directory, 0o700, ⟨1, 2, 2⟩, [(.owner, 0), (.other "unexpected", 1)], none, none⟩
  files := fun _ => ⟨.file, 0o600, 1, [0x78], ⟨1, 3, 3⟩, none⟩
  count := 2
  opened := fun _ => none
  trace := []

theorem littered_admits :
    Rust.Admits false "x" litteredFs
      ⟨.directory, 0o700, ⟨1, 2, 2⟩, [(.owner, 0), (.other "unexpected", 1)], none, none⟩ 0 where
  lock := rfl
  type := rfl
  mode := .inr rfl
  entry := rfl
  fileType := rfl
  fileMode := .inr rfl
  nlink := .inr rfl
  size := by decide
  reads := ⟨rfl, by decide, by decide⟩

theorem compromised_release_unlinks_marker :
    ¬ ∀ (windows : Bool) (lock : Rust.LocalFileLock) (caller : Call) (fs : Fs) (final : Solo)
      (result : Rust.LocalFileLock × Except LocalFileLockError Unit) (error : LocalFileLockError),
      Ran (alone True caller) ⟨fs, []⟩ (Rust.releaseInner windows lock) final result →
      result.2 = .error error → error.kind = .compromised → Unchanged fs final.fs := by
  intro h
  apply (leaves_lock_iff
    (Rust.releaseInner_aftermath ⟨1, 0⟩ false ⟨"x", false, none⟩ litteredFs)).mp
  · intro final result hran error
    exact h false _ ⟨1, 0⟩ litteredFs final result error hran
  · exact ⟨rfl, rfl, _, 0, littered_admits, by decide⟩

end Sample

end OresLocks.LocalFile
