import OresLocks.LocalFile.Solo

/-!
# An owner written, inspected, recovered and released

What an undisturbed acquisition publishes is read back by the inspection, the recovery
and the release, unless the decoder drops its first character.
-/

namespace OresLocks.LocalFile

set_option autoImplicit false

open Shared.Programs JsString

section Writing

variable {caller : Call} {stage : Solo} {win32 : Bool} {name : Name} {number : Nat}
  {content : Bytes} {identity : Identity} {err : Solo → Failure → Prop}

/-- An operation that succeeds whatever the filesystem chooses. -/
theorem solo_succeeds (op : FsOp) {ok : Solo → op.Answer → Prop}
    (h : ∀ choice, ∃ value fs', stage.fs.perform caller choice op = (.ok value, fs') ∧
      ∀ stage' : Solo, stage'.fs = fs' → ok stage' value) :
    Triple (solo caller) stage (await op) ok err := by
  apply solo_call
  · intro choice stage' value hperformed hanswer
    obtain ⟨value', fs', hperform, hok⟩ := h choice
    rw [hperform] at hanswer
    cases hanswer
    exact hok stage' (by rw [hperformed.fs, hperform])
  · intro choice stage' error _ herror
    obtain ⟨value', fs', hperform, _⟩ := h choice
    rw [hperform] at herror
    cases herror

/-- The only marker is removed, and the directory is empty. -/
theorem solo_unlink (h : HasOnly stage.fs name number content identity) :
    Triple (solo caller) stage (await (.unlink name)) (fun stage' _ => Empty stage'.fs) err := by
  apply solo_succeeds (.unlink name)
  intro choice
  obtain ⟨node, hentry, _, htype, hmode, hentries⟩ := h.entry choice
  refine ⟨(), (stage.fs.unlink caller name choice).2, ?_, ?_⟩
  · change stage.fs.unlink caller name choice = _
    unfold Fs.unlink
    simp only [hentry, h.type]
    rfl
  · intro stage' hfs
    rw [hfs]
    unfold Fs.unlink
    simp only [hentry, h.type]
    exact ⟨_, rfl, htype, hmode, by simp [hentries, Fs.without]⟩

theorem solo_rmdir (h : Empty stage.fs) :
    Triple (solo caller) stage (await .rmdir) (fun stage' _ => stage'.fs.lock = none) err := by
  obtain ⟨node, hlock, htype, _, hentries⟩ := h
  apply solo_succeeds .rmdir
  intro choice
  refine ⟨(), (stage.fs.rmdir caller choice).2, ?_, ?_⟩
  · change stage.fs.rmdir caller choice = _
    unfold Fs.rmdir Fs.directory
    simp [hlock, htype, hentries]
  · intro stage' hfs
    rw [hfs]
    unfold Fs.rmdir Fs.directory
    simp [hlock, htype, hentries]

/-- The marker gets its new name. -/
theorem solo_rename {target : Name} (h : HasOnly stage.fs name number content identity)
    (hne : target ≠ name) :
    Triple (solo caller) stage (await (.rename name target))
      (fun stage' _ => HasOnly stage'.fs target number content identity) err := by
  apply solo_succeeds (.rename name target)
  intro choice
  obtain ⟨node, hentry, _, htype, hmode, hentries⟩ := h.entry choice
  have hlookup : node.entries.lookup target = none := by
    have hbeq : (target == name) = false := by simpa using hne
    rw [hentries]
    rw [List.lookup_cons, hbeq]
    rfl
  refine ⟨(), (stage.fs.rename caller name target choice).2, ?_, ?_⟩
  · change stage.fs.rename caller name target choice = _
    unfold Fs.rename
    simp only [hentry, hlookup]
  · intro stage' hfs
    rw [hfs]
    unfold Fs.rename
    simp only [hentry, hlookup]
    refine ⟨⟨_, rfl, htype, hmode, ?_⟩, h.type, h.mode, h.nlink, h.content, h.identity⟩
    simp [hentries, Fs.without]

theorem solo_mkdir :
    Triple (solo caller) stage (await .mkdir) (fun stage' _ => Empty stage'.fs)
      (fun _ _ => True) := by
  apply solo_call
  · intro choice stage' _ hperformed hanswer
    rw [hperformed.fs]
    change (stage.fs.mkdir caller choice).1 = .ok _ at hanswer
    change Empty (stage.fs.mkdir caller choice).2
    unfold Fs.mkdir at hanswer ⊢
    split at hanswer
    · cases hanswer
    · cases hanswer
    · split at hanswer
      · rename_i hparent
        rw [if_pos hparent]
        exact ⟨_, rfl, rfl, by simp, rfl⟩
      · cases hanswer
  · exact fun _ _ _ _ _ => trivial

theorem solo_openExclusive (h : Empty stage.fs) :
    Triple (solo caller) stage (await (.openExclusive name))
      (fun stage' handle => ∃ identity, HasOnly stage'.fs name handle [] identity) err := by
  obtain ⟨node, hlock, htype, hmode, hentries⟩ := h
  apply solo_succeeds (.openExclusive name)
  intro choice
  refine ⟨stage.fs.count, (stage.fs.openExclusive caller name choice).2, ?_, ?_⟩
  · change stage.fs.openExclusive caller name choice = _
    unfold Fs.openExclusive Fs.directory
    simp [hlock, htype, hentries]
  · intro stage' hfs
    rw [hfs]
    unfold Fs.openExclusive Fs.directory
    simp only [hlock, htype, if_true, hentries]
    refine ⟨choice.identity, ⟨_, rfl, htype, hmode, rfl⟩, ?_, ?_, ?_, ?_, ?_⟩
    · simp [Fs.setFile, Fs.setEntries]
    · simp [Fs.setFile, Fs.setEntries]
    · simp [Fs.setFile, Fs.setEntries]
    · simp [Fs.setFile, Fs.setEntries]
    · simp [Fs.setFile, Fs.setEntries]

theorem solo_write (bytes : Bytes) (h : HasOnly stage.fs name number content identity) :
    Triple (solo caller) stage (await (.write number bytes))
      (fun stage' _ => HasOnly stage'.fs name number (content ++ bytes) identity) err := by
  apply solo_succeeds (.write number bytes)
  intro choice
  refine ⟨(), stage.fs.write number bytes, rfl, ?_⟩
  intro stage' hfs
  rw [hfs]
  obtain ⟨hnode, htype, hmode, hnlink, rfl, hidentity⟩ := h
  refine ⟨hnode, ?_, ?_, ?_, ?_, ?_⟩
  · simpa [Fs.write, Fs.setFile] using htype
  · simpa [Fs.write, Fs.setFile] using hmode
  · simpa [Fs.write, Fs.setFile] using hnlink
  · simp [Fs.write, Fs.setFile]
  · simpa [Fs.write, Fs.setFile] using hidentity

end Writing

section Acquiring

variable {caller : Call} {stage : Solo} {win32 : Bool} {owner : JsString}

theorem solo_marker {name : Name} {number : Nat} {content : Bytes} {identity : Identity}
    {err : Solo → Failure → Prop} (op : FsOp) (hop : op.IsLooking)
    (h : HasOnly stage.fs name number content identity)
    (hanswer : ∀ choice, ∃ value, (stage.fs.perform caller choice op).1 = .ok value) :
    Triple (solo caller) stage (await op)
      (fun stage' _ => HasOnly stage'.fs name number content identity) err := by
  apply solo_call
  · intro choice stage' value hperformed _
    exact hperformed.holds (.inl hop) h
  · intro choice stage' error _ herror
    obtain ⟨value, hvalue⟩ := hanswer choice
    rw [herror] at hvalue
    cases hvalue

/-- No owner is published yet. -/
theorem solo_inspectTarget {number : Nat} {content : Bytes} {identity : Identity}
    {err : Solo → Failure → Prop} (h : HasOnly stage.fs .pending number content identity) :
    Triple (solo caller) stage inspectPublicationTarget
      (fun stage' _ => HasOnly stage'.fs .pending number content identity) err := by
  have hmissing : ∀ choice, stage.fs.lstat (.entry .owner) choice =
      .error (Fs.error "ENOENT" choice) := by
    intro choice
    obtain ⟨node, hlock, htype, _, hentries⟩ := h.node
    have hbeq : (Name.owner == Name.pending) = false := by decide
    unfold Fs.lstat Fs.entry Fs.directory
    simp [hlock, htype, hentries, List.lookup_cons, hbeq]
  apply triple_catchIo (fun stage' failure => HasOnly stage'.fs .pending number content identity ∧
    ∃ error, failure = .io error ∧ error.code = some "ENOENT")
  · apply Triple.bind (fun _ _ => False)
    · apply solo_call
      · intro choice stage' value _ hanswer
        change stage.fs.lstat (.entry .owner) choice = .ok value at hanswer
        rw [hmissing] at hanswer
        cases hanswer
      · intro choice stage' error hperformed hanswer
        change stage.fs.lstat (.entry .owner) choice = .error error at hanswer
        rw [hmissing] at hanswer
        cases hanswer
        exact ⟨hperformed.holds (.inl trivial) h, _, rfl, rfl⟩
    · intro _ _ hfalse
      exact hfalse.elim
  · rintro _ _ ⟨_, _, hio, _⟩
    cases hio
  · rintro stage' error ⟨hholds, error', hio, hcode⟩
    cases hio
    rw [if_pos hcode]
    exact Triple.pure hholds

theorem solo_publishOwner {err : Solo → Failure × Option Nat → Prop} (h : Empty stage.fs) :
    Triple (solo caller) stage (publishOwner owner)
      (fun stage' _ => ∃ number identity,
        HasOnly stage'.fs .owner number (encode owner) identity) err := by
  apply Triple.bind _ (Triple.adapt (solo_openExclusive h))
  rintro stage' handle ⟨identity, h⟩
  apply Triple.bind (fun stage' _ => HasOnly stage'.fs .pending handle (encode owner) identity)
  · apply Triple.adapt
    apply Triple.bind _ (solo_write (encode owner) h)
    intro stage' _ h
    apply Triple.bind _ (solo_marker (.sync handle) trivial h fun _ => ⟨(), rfl⟩)
    intro stage' _ h
    exact solo_marker (.close handle) trivial h fun _ => ⟨(), rfl⟩
  intro stage' _ h
  apply Triple.adapt
  apply Triple.bind _ (solo_inspectTarget h)
  intro stage' _ h
  apply (solo_rename h (by simp)).mono
  · exact fun _ _ hholds => ⟨handle, identity, hholds⟩
  · exact fun _ _ herr => herr

/-- What an acquisition returns has been published. -/
def Published (owner : JsString) (stage : Solo) (lock : LocalFileLock) : Prop :=
  validateLocalFileLockOwner owner = .ok () ∧ lock.owner = owner ∧
    ∃ number, Intact number (encode owner) lock.ownerIdentity stage

/-- Looking leaves an empty directory as it is. -/
theorem empty_looking (stage : Solo) (op : FsOp) (h : Empty stage.fs) (hop : op.IsLooking) :
    (solo caller).allows stage op ∧ ∀ answer stage', (solo caller).moves stage op answer stage' →
      Empty stage'.fs := by
  refine ⟨trivial, ?_⟩
  rintro answer stage' ⟨choice, hperformed, _⟩
  rw [hperformed.fs]
  obtain ⟨node, hlock, hnode⟩ := h
  exact ⟨node, (perform_reading (.inl hop) stage.fs caller choice).lock.trans hlock, hnode⟩

theorem solo_createLockDirectory (attempts : Nat) :
    Triple (solo caller) stage (createLockDirectory win32 attempts)
      (fun stage' created => created = true → Empty stage'.fs) (fun _ _ => True) := by
  induction attempts generalizing stage with
  | zero => exact Triple.pure (by simp)
  | succ attempts ih =>
    apply triple_catchIo (fun _ _ => True)
    · apply Triple.bind _ solo_mkdir
      intro stage' _ hempty
      apply Triple.bind (fun stage' _ => Empty stage'.fs)
      · exact ((uses_validatePosixPrivateLockDirectory (fun _ h => h) win32).triple
          (I := fun (stage : Solo) => Empty stage.fs) empty_looking hempty).mono
          (fun _ _ h => h) (fun _ _ _ => trivial)
      intro stage' _ hempty
      exact Triple.pure fun _ => hempty
    · exact fun _ _ _ => trivial
    · intro stage' error _
      split
      · exact Triple.throw trivial
      apply triple_catchIo (fun _ _ => True)
      · apply Triple.bind (fun _ _ => True)
        · apply solo_call
          · exact fun _ _ _ _ _ => trivial
          · exact fun _ _ _ _ _ => trivial
        intro stage'' metadata _
        split
        · exact Triple.pure (by simp)
        · exact Triple.throw trivial
      · exact fun _ _ _ => trivial
      · intro stage'' inspectError _
        split
        · exact ih
        · exact Triple.throw trivial

theorem solo_publishOrRollback (h : Empty stage.fs) :
    Triple (solo caller) stage (publishOrRollback owner)
      (fun stage' _ => ∃ number identity,
        HasOnly stage'.fs .owner number (encode owner) identity) (fun _ _ => True) := by
  apply Triple.bind (Ends (fun stage' _ => ∃ number identity,
    HasOnly stage'.fs .owner number (encode owner) identity) (fun _ _ => False))
  · exact Triple.lift (solo_publishOwner h)
  intro stage' outcome houtcome
  cases outcome with
  | ok _ => exact Triple.pure houtcome
  | error failed => exact houtcome.elim

theorem solo_identifyOrRollback {number : Nat} {identity : Identity} {err : Solo → Failure → Prop}
    (h : Intact number (encode owner) identity stage) :
    Triple (solo caller) stage (identifyOrRollback win32)
      (fun stage' found => Intact number (encode owner) identity stage' ∧ found = identity) err := by
  apply Triple.tryCatch (fun _ _ => False)
  · apply Triple.bind _ (solo_validateRegularFile _ h)
    intro stage' _ h
    exact solo_readIdentity h
  · exact fun _ _ hfalse => hfalse.elim

theorem solo_tryAcquire :
    Triple (solo caller) stage (tryAcquireLocalFileLock win32 owner)
      (fun stage' lock => ∀ held, lock = some held → Published owner stage' held)
      (fun _ _ => True) := by
  apply Triple.bind (fun _ _ => validateLocalFileLockOwner owner = .ok ())
  · change Follows _ _ _ (pure (validateLocalFileLockOwner owner))
    cases validateLocalFileLockOwner owner with
    | error failure => trivial
    | ok _ => exact rfl
  intro stage' _ hvalid
  apply Triple.bind (fun _ _ => True)
  · exact ((uses_prepareLockParent (fun _ h => h) win32).triple (I := fun (_ : Solo) => True)
      (fun _ _ _ _ => ⟨trivial, fun _ _ _ => trivial⟩) trivial).mono
        (fun _ _ h => h) (fun _ _ h => h)
  intro stage' _ _
  apply Triple.bind _ (solo_createLockDirectory 2)
  intro stage' created hcreated
  cases created with
  | false => exact Triple.pure (by simp)
  | true =>
    apply Triple.bind _ (solo_publishOrRollback (hcreated rfl))
    rintro stage' _ ⟨number, identity, h⟩
    apply Triple.bind _ (solo_identifyOrRollback h)
    rintro stage' _ ⟨h, rfl⟩
    apply Triple.pure
    intro held hheld
    cases hheld
    exact ⟨hvalid, rfl, number, h⟩

end Acquiring

/-- After the acquisition: the inspection answers the owner, a recovery removes the lock
for exactly that owner, and the release of the handle leaves the path absent. -/
structure RoundTrips (win32 : Bool) (owner : JsString) (lock : LocalFileLock) (stage : Solo) :
    Prop where
  inspected : ∀ caller final result,
    Ran (solo caller) stage (inspectLocalFileLock win32).run final result →
      result = .ok (.held owner)
  recovered : ∀ caller expected final result,
    Ran (solo caller) stage (recoverLocalFileLock win32 expected true).run final result →
      (result = .ok true ↔ expected = owner)
  released : ∀ caller final result,
    Ran (solo caller) stage (releaseOnce win32 lock) final result →
      result = (.released, .ok ()) ∧ final.fs.lock = none

section RoundTrip

variable {caller : Call} {stage : Solo} {win32 : Bool} {owner text : JsString} {number : Nat}
  {identity : Identity}

theorem solo_removeOwned {content : Bytes} (h : Intact number content identity stage) :
    Triple (solo caller) stage removeOwned (fun stage' _ => stage'.fs.lock = none)
      (fun _ _ => False) := by
  apply Triple.bind _ (Triple.adapt (solo_unlink h))
  intro stage' _ hempty
  exact Triple.adapt (solo_rmdir hempty)

theorem solo_releaseOnce {lock : LocalFileLock} (hlock : Published owner stage lock)
    (hdecode : decodeOwner (encode owner) = some owner) :
    Follows (solo caller) (fun stage' result => result = (.released, .ok ()) ∧
      stage'.fs.lock = none) stage (releaseOnce win32 lock) := by
  obtain ⟨hvalid, rfl, number, h⟩ := hlock
  apply Follows.bind
  apply Follows.mono (solo_checkRelease lock h (valid_size hvalid) hdecode rfl)
  intro stage' checked hchecked
  cases checked with
  | error failure => exact absurd rfl hchecked
  | ok _ =>
    obtain ⟨h, _⟩ := hchecked
    apply Follows.bind
    apply Follows.mono (solo_removeOwned h)
    intro stage'' removed hremoved
    cases removed with
    | error failure => exact hremoved.elim
    | ok _ => exact ⟨rfl, hremoved⟩

theorem solo_authorize {content : Bytes} (expected : JsString)
    (h : Intact number content identity stage)
    (hsize : content.length ≤ maxLocalFileLockOwnerUtf8Bytes)
    (hdecode : decodeOwner content = some owner) (hheld : classifyOwner owner = .held owner) :
    Triple (solo caller) stage (authorizeRecovery win32 expected)
      (fun stage' authorized => Intact number content identity stage' ∧ authorized = true ∧
        expected = owner) (fun _ _ => expected ≠ owner) := by
  apply Triple.bind _ (never_throws (solo_inspect hsize hdecode h))
  rintro stage' inspection ⟨h, rfl⟩
  rw [hheld]
  dsimp only
  split
  · rename_i hne
    exact Triple.throw (Ne.symm hne)
  rename_i heq
  apply Triple.bind _ (never_throws (solo_inspect hsize hdecode h))
  rintro stage' inspection ⟨h, rfl⟩
  rw [hheld, if_neg (by rw [not_not.mp heq]; simp)]
  exact Triple.pure ⟨h, rfl, (not_not.mp heq).symm⟩

theorem solo_claim {content : Bytes} (h : Intact number content identity stage)
    {err : Solo → Failure → Prop} :
    Triple (solo caller) stage (claimRecovery win32)
      (fun stage' claimed => HasOnly stage'.fs .recovering number content identity ∧
        claimed = true) err := by
  apply Triple.bind _ (attempted_never (solo_rename h (by simp)))
  intro stage' result hresult
  cases result with
  | error failure => exact hresult.elim
  | ok _ => exact Triple.pure ⟨hresult, rfl⟩

theorem solo_removeClaimed {content : Bytes} {err : Solo → Failure → Prop}
    (h : HasOnly stage.fs .recovering number content identity) :
    Triple (solo caller) stage removeClaimed (fun stage' _ => stage'.fs.lock = none) err := by
  apply Triple.tryCatch (fun _ _ => False)
  · apply Triple.bind _ (solo_unlink h)
    intro stage' _ hempty
    exact solo_rmdir hempty
  · exact fun _ _ hfalse => hfalse.elim

theorem solo_recover {content : Bytes} (expected : JsString)
    (h : Intact number content identity stage)
    (hsize : content.length ≤ maxLocalFileLockOwnerUtf8Bytes)
    (hdecode : decodeOwner content = some owner) (hheld : classifyOwner owner = .held owner)
    (hvalid : validateLocalFileLockOwner owner = .ok ()) :
    Triple (solo caller) stage (recoverLocalFileLock win32 expected true)
      (fun _ recovered => recovered = true ∧ expected = owner) (fun _ _ => expected ≠ owner) := by
  apply Triple.bind (fun stage' _ => Intact number content identity stage')
  · change Follows _ _ _ (pure (validateLocalFileLockOwner expected))
    cases hexpected : validateLocalFileLockOwner expected with
    | error failure =>
      rintro rfl
      rw [hvalid] at hexpected
      cases hexpected
    | ok _ => exact h
  intro stage' _ h
  rw [if_neg (by simp)]
  apply Triple.bind _ (solo_authorize expected h hsize hdecode hheld)
  rintro stage' _ ⟨h, rfl, heq⟩
  rw [if_pos rfl]
  apply Triple.bind _ (solo_claim h)
  rintro stage' _ ⟨h, rfl⟩
  rw [if_pos rfl]
  apply Triple.bind _ (solo_removeClaimed h)
  intro stage' _ _
  exact Triple.pure ⟨rfl, heq⟩

/-- An owner without a leading U+FEFF. -/
theorem round_trips_unmarked {lock : LocalFileLock} (hlock : Published owner stage lock)
    (hunmarked : Unmarked owner) : RoundTrips win32 owner lock stage := by
  obtain ⟨hvalid, _, number, h⟩ := id hlock
  have hdecode := valid_decodeOwner hvalid hunmarked
  have hsize := valid_size hvalid
  have hheld := valid_classified hvalid
  refine ⟨?_, ?_, ?_⟩
  · intro caller final result hran
    have hend := Follows.ran (solo_inspect hsize hdecode h) hran
    cases result with
    | error failure => exact hend.elim
    | ok inspection => rw [hend.2, hheld]
  · intro caller expected final result hran
    have hend := Follows.ran (solo_recover expected h hsize hdecode hheld hvalid) hran
    cases result with
    | error failure =>
      constructor
      · intro hok
        cases hok
      · exact fun heq => absurd heq hend
    | ok recovered =>
      obtain ⟨rfl, heq⟩ := hend
      exact ⟨fun _ => heq, fun _ => rfl⟩
  · intro caller final result hran
    have hrelease : Follows (solo caller) _ stage (releaseOnce win32 lock) :=
      solo_releaseOnce hlock hdecode
    exact hrelease.ran hran

/-- The decoder drops a leading U+FEFF. -/
theorem decodeOwner_marked {rest : JsString} (h : hasLoneSurrogate (0xfeff :: rest) = false) :
    decodeOwner (encode (0xfeff :: rest)) = some rest := by
  have hhigh : isHighSurrogate 0xfeff = false := by decide
  have hlow : isLowSurrogate 0xfeff = false := by decide
  have hchars : scalarValues (0xfeff :: rest) = byteOrderMark :: scalarValues rest := by
    cases rest with
    | nil => rfl
    | cons v rest =>
      rw [scalarValues, hhigh]
      rfl
  have hrest : hasLoneSurrogate rest = false := by
    cases rest with
    | nil => rfl
    | cons v rest =>
      rw [hasLoneSurrogate, hhigh, hlow] at h
      exact h
  unfold decodeOwner
  rw [encode_eq_scalarValues h, Shared.Utf8.decode_encode, Option.map_some, hchars,
    stripByteOrderMark, if_pos rfl, flatMap_utf16_scalarValues hrest]

/-- A leading U+FEFF is lost on the way back. -/
theorem inspection_of_marked {lock : LocalFileLock} (hlock : Published owner stage lock)
    (hmarked : ¬ Unmarked owner) (win32 : Bool) (caller : Call) :
    ∃ final result, Ran (solo caller) stage (inspectLocalFileLock win32).run final result ∧
      result ≠ .ok (.held owner) := by
  obtain ⟨hvalid, _, number, h⟩ := hlock
  obtain ⟨rest, rfl⟩ := List.head?_eq_some_iff.mp (not_not.mp hmarked)
  have hdecode := decodeOwner_marked (valid_parts hvalid).2.1
  obtain ⟨final, result, hran⟩ := Ran.total (P := solo caller) solo_answered stage
    (inspectLocalFileLock win32).run
  refine ⟨final, result, hran, ?_⟩
  have hend := Follows.ran (solo_inspect (valid_size hvalid) hdecode h)
    hran
  rintro rfl
  have hclassified : LocalFileLockInspection.held (0xfeff :: rest) = classifyOwner rest := hend.2
  unfold classifyOwner at hclassified
  split at hclassified
  · cases hclassified
  split at hclassified
  · cases hclassified
  · have hlength := congrArg List.length (LocalFileLockInspection.held.inj hclassified)
    simp at hlength

/-- An undisturbed acquisition round trips its owner through the inspection, the recovery
and the release exactly when the owner does not begin with U+FEFF. -/
theorem owner_round_trips_iff_unmarked {start : Solo} {lock : LocalFileLock}
    (h : Ran (solo caller) start (tryAcquireLocalFileLock win32 owner).run stage (.ok (some lock))) :
    RoundTrips win32 owner lock stage ↔ owner.head? ≠ some 0xfeff := by
  have hpublished : Published owner stage lock := Follows.ran solo_tryAcquire h lock rfl
  constructor
  · intro htrips
    by_contra hmarked
    obtain ⟨final, result, hran, hne⟩ :=
      inspection_of_marked hpublished (not_not.mpr hmarked) win32 caller
    exact hne (htrips.inspected caller final result hran)
  · exact round_trips_unmarked hpublished

end RoundTrip

section Sample

/-- What the stream shows next when the directory lists its entries in their order. -/
def nextStream (stage : Solo) : FsOp → List Name
  | .opendir => (stage.fs.lock.map fun node => node.entries.map Prod.fst).getD []
  | .readDirectory => stage.stream.tail
  | _ => stage.stream

/-- The program with one choice of the filesystem for every step. -/
def soloRun {α : Type} (caller : Call) (choice : Choice) :
    Nat → Solo → FsProg α → Option (Solo × α)
  | _, stage, .done value => some (stage, value)
  | 0, _, .call _ _ => none
  | fuel + 1, stage, .call op next =>
    let shown := { choice with entry := stage.stream.head? }
    soloRun caller choice fuel
      ⟨(stage.fs.perform caller shown op).2, nextStream stage op⟩
      (next (stage.fs.perform caller shown op).1)

theorem nextStream_streams (stage : Solo) (op : FsOp) :
    Streams stage.fs stage.stream op (nextStream stage op) := by
  cases op with
  | opendir =>
    intro node hlock
    simp [nextStream, hlock]
  | _ => rfl

theorem ran_of_soloRun {α : Type} {caller : Call} {choice : Choice} {fuel : Nat} {stage final : Solo}
    {program : FsProg α} {value : α}
    (h : soloRun caller choice fuel stage program = some (final, value)) :
    Ran (solo caller) stage program final value := by
  induction fuel generalizing stage program with
  | zero =>
    cases program with
    | done result =>
      cases h
      exact .done _ _
    | call op next => cases h
  | succ fuel ih =>
    cases program with
    | done result =>
      cases h
      exact .done _ _
    | call op next =>
      exact .call ⟨_, ⟨fun _ => rfl, rfl, nextStream_streams stage op⟩, rfl⟩ (ih h)

def soloCaller : Call := ⟨1, 0⟩

def soloChoice : Choice := ⟨"", ⟨1, 2, 3⟩, none, 4096⟩

def soloStart : Solo :=
  ⟨⟨some ⟨.directory, 0o700, 2, 0, ⟨1, 1, 1⟩⟩, none,
    fun _ => ⟨.file, 0, 0, [], ⟨0, 0, 0⟩, none⟩, 0, fun _ => none, []⟩, []⟩

def markedOwner : JsString := [0xfeff, 0x61]

def publishedLock (owner : JsString) : LocalFileLock := ⟨owner, ⟨1, 2, 3⟩, .held, none, none⟩

/-- The stage an acquisition for `owner` ends in. -/
def publishedStage (owner : JsString) : Solo :=
  ((soloRun soloCaller soloChoice 20 soloStart (tryAcquireLocalFileLock false owner).run).map
    Prod.fst).getD soloStart

theorem ran_published (owner : JsString)
    (h : (soloRun soloCaller soloChoice 20 soloStart (tryAcquireLocalFileLock false owner).run).map
      Prod.snd = some (.ok (some (publishedLock owner)))) :
    Ran (solo soloCaller) soloStart (tryAcquireLocalFileLock false owner).run (publishedStage owner)
      (.ok (some (publishedLock owner))) := by
  obtain ⟨⟨final, result⟩, hrun, hresult⟩ := Option.map_eq_some_iff.mp h
  dsimp only at hresult
  subst hresult
  have hstage : publishedStage owner = final := by
    unfold publishedStage
    rw [hrun]
    rfl
  rw [hstage]
  exact ran_of_soloRun hrun

theorem marked_owner_lost :
    ¬ ∀ (win32 : Bool) (owner : JsString) (caller : Call) (start stage : Solo)
      (lock : LocalFileLock),
      Ran (solo caller) start (tryAcquireLocalFileLock win32 owner).run stage (.ok (some lock)) →
      RoundTrips win32 owner lock stage := by
  intro h
  have hran := ran_published markedOwner rfl
  have hpublished : Published markedOwner _ _ := Follows.ran solo_tryAcquire hran _ rfl
  obtain ⟨final, result, hinspect, hne⟩ :=
    inspection_of_marked hpublished (by simp [Unmarked, markedOwner]) false soloCaller
  exact hne ((h false markedOwner soloCaller soloStart _ _ hran).inspected _ _ _ hinspect)

theorem unmarked_owner_round_trips :
    RoundTrips false [0x61] (publishedLock [0x61]) (publishedStage [0x61]) ↔
      ([0x61] : JsString).head? ≠ some 0xfeff :=
  owner_round_trips_iff_unmarked (ran_published [0x61] rfl)

end Sample

end OresLocks.LocalFile
