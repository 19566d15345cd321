import OresLocks.LocalFile.Tenancy

/-!
# What a failed acquisition leaves at the lock path

One acquisition on a path where nothing is, and nobody else. Each filesystem step
happens or fails without effect, the steps of a rollback included.
-/

namespace OresLocks.LocalFile

set_option autoImplicit false

open Shared.Programs

inductive Fate where
  | performed
  | failed
  deriving DecidableEq

/-- The filesystem and the steps so far, oldest first. -/
structure Trial where
  fs : Fs
  log : List (FsOp × Fate)

def trial (caller : Call) : Protocol FsOp FsAnswer Trial where
  allows _ _ := True
  moves stage op answer stage' :=
    (∃ choice, answer = (stage.fs.perform caller choice op).1 ∧
      stage' = ⟨(stage.fs.perform caller choice op).2, stage.log ++ [(op, .performed)]⟩) ∨
    (∃ error, answer = .error error ∧ stage' = ⟨stage.fs, stage.log ++ [(op, .failed)]⟩)

def Failure.IsCompromised : Failure → Prop
  | .io _ => False
  | .lock error => error.kind = .compromised

/-- A failure of another kind, or no lock, with nothing at the path. -/
def LeavesNothing (fs : Fs) : Except Failure (Option LocalFileLock) → Prop
  | .error failure => failure.IsCompromised ∨ fs.lock = none
  | .ok none => fs.lock = none
  | .ok (some _) => True

/-- The new lock directory could not be looked at. -/
def Unchecked (log : List (FsOp × Fate)) : Prop :=
  ∃ before after, log = before ++ (.mkdir, .performed) :: (.lstat .lock, .failed) :: after

/-- The last step was not the creation of the directory. -/
def Calm (log : List (FsOp × Fate)) : Prop := log.getLast? ≠ some (.mkdir, .performed)

section Logs

variable {log : List (FsOp × Fate)} {e : FsOp × Fate}

theorem unchecked_concat : Unchecked (log ++ [e]) ↔
    Unchecked log ∨ e = (.lstat .lock, .failed) ∧ ¬ Calm log := by
  constructor
  · rintro ⟨before, after, hlog⟩
    rcases List.eq_nil_or_concat after with rfl | ⟨after, last, rfl⟩
    · have hsplit : log ++ [e] = (before ++ [(.mkdir, .performed)]) ++ [(.lstat .lock, .failed)] := by
        simpa using hlog
      obtain ⟨rfl, he⟩ := List.append_inj' hsplit rfl
      cases he
      exact .inr ⟨rfl, by simp [Calm]⟩
    · have hsplit : log ++ [e] =
          (before ++ (.mkdir, .performed) :: (.lstat .lock, .failed) :: after) ++ [last] := by
        simpa using hlog
      obtain ⟨rfl, _⟩ := List.append_inj' hsplit rfl
      exact .inl ⟨before, after, rfl⟩
  · rintro (⟨before, after, rfl⟩ | ⟨rfl, hlast⟩)
    · exact ⟨before, after ++ [e], by simp⟩
    · obtain ⟨before, rfl⟩ := List.getLast?_eq_some_iff.mp (not_not.mp hlast)
      exact ⟨before, [], by simp⟩

theorem calm_concat (h : e ≠ (.mkdir, .performed)) : Calm (log ++ [e]) := by
  simpa [Calm] using h

end Logs

/-- Nothing at the path, and nothing created there that was not looked at. -/
structure Untouched (stage : Trial) : Prop where
  absent : stage.fs.lock = none
  checked : ¬ Unchecked stage.log
  calm : Calm stage.log

section Trials

variable {caller : Call} {stage stage' : Trial} {op : FsOp}

/-- Looking leaves the path and the log as they have to be. -/
theorem untouched_looking (caller : Call) (stage : Trial) (op : FsOp) (h : Untouched stage)
    (hop : op.IsLooking) :
    (trial caller).allows stage op ∧ ∀ answer stage', (trial caller).moves stage op answer stage' →
      Untouched stage' := by
  refine ⟨trivial, ?_⟩
  have hmkdir : op ≠ .mkdir := by
    rintro rfl
    exact hop
  have hlog : ∀ fate, ¬ Unchecked (stage.log ++ [(op, fate)]) ∧ Calm (stage.log ++ [(op, fate)]) := by
    intro fate
    refine ⟨?_, calm_concat fun heq => hmkdir (congrArg Prod.fst heq)⟩
    rw [unchecked_concat]
    rintro (hold | ⟨_, hcalm⟩)
    · exact h.checked hold
    · exact hcalm h.calm
  rintro answer stage' (⟨choice, _, rfl⟩ | ⟨error, _, rfl⟩)
  · exact ⟨(perform_reading (.inl hop) stage.fs caller choice).lock.trans h.absent,
      (hlog _).1, (hlog _).2⟩
  · exact ⟨h.absent, (hlog _).1, (hlog _).2⟩

theorem untouched_uses {α : Type} {x : FsM α} (h : Uses FsOp.IsLooking x.run)
    (hstage : Untouched stage) :
    Triple (trial caller) stage x (fun stage _ => Untouched stage) (fun stage _ => Untouched stage) :=
  h.triple (untouched_looking caller) hstage

/-- An operation after the directory was looked at. -/
def FsOp.IsLater (op : FsOp) : Prop := op ≠ .lstat .lock

theorem checked_later (caller : Call) (stage : Trial) (op : FsOp) (h : ¬ Unchecked stage.log)
    (hop : op.IsLater) :
    (trial caller).allows stage op ∧ ∀ answer stage', (trial caller).moves stage op answer stage' →
      ¬ Unchecked stage'.log := by
  refine ⟨trivial, ?_⟩
  have hlog : ∀ fate, ¬ Unchecked (stage.log ++ [(op, fate)]) := by
    intro fate
    rw [unchecked_concat]
    rintro (hold | ⟨he, _⟩)
    · exact h hold
    · exact hop (congrArg Prod.fst he)
  rintro answer stage' (⟨choice, _, rfl⟩ | ⟨error, _, rfl⟩)
  · exact hlog _
  · exact hlog _

theorem checked_uses {α : Type} {x : FsM α} (h : Uses FsOp.IsLater x.run)
    (hstage : ¬ Unchecked stage.log) :
    Triple (trial caller) stage x (fun (stage : Trial) _ => ¬ Unchecked stage.log)
      (fun (stage : Trial) _ => ¬ Unchecked stage.log) :=
  h.triple (I := fun (stage : Trial) => ¬ Unchecked stage.log) (checked_later caller) hstage

end Trials

/-- A failure while the directory is created. -/
def CreationFailed (stage : Trial) (failure : Failure) : Prop :=
  ¬ Unchecked stage.log ∧ stage.fs.lock = none ∨
  Unchecked stage.log ∧ stage.fs.lock ≠ none ∧ ¬ failure.IsCompromised

/-- What the loop catches; only a step that failed reports that the path exists. -/
def CreationCaught (stage : Trial) : Failure → Prop
  | .io error => stage.fs.lock = none ∧ ¬ Unchecked stage.log ∧
      (error.code = some "EEXIST" → Calm stage.log)
  | .lock error => CreationFailed stage (.lock error)

/-- The directory has just been made. -/
structure Made (stage : Trial) : Prop where
  node : ∃ node, stage.fs.lock = some node ∧ node.mode = 0o700
  checked : ¬ Unchecked stage.log
  last : ¬ Calm stage.log

section Creation

variable {caller : Call} {stage : Trial}

/-- On an absent path `mkdir` makes the directory or has another code than `EEXIST`. -/
theorem mkdir_absent (caller : Call) (fs : Fs) (choice : Choice) (habsent : fs.lock = none) :
    (∃ node, fs.mkdir caller choice = (.ok (), { fs with lock := some node }) ∧
      node.mode = 0o700) ∨
    ∃ error, fs.mkdir caller choice = (.error error, fs) ∧ error.code ≠ some "EEXIST" := by
  unfold Fs.mkdir
  rw [habsent]
  cases fs.parent with
  | none => exact .inr ⟨_, rfl, by simp [Fs.error]⟩
  | some stat =>
    dsimp only
    split
    · exact .inl ⟨_, rfl, rfl⟩
    · exact .inr ⟨_, rfl, by simp [Fs.error]⟩

theorem trial_mkdir (h : Untouched stage) :
    Triple (trial caller) stage (await .mkdir) (fun stage _ => Made stage) CreationCaught := by
  have hlog : ∀ fate, ¬ Unchecked (stage.log ++ [(.mkdir, fate)]) := by
    intro fate
    rw [unchecked_concat]
    rintro (hold | ⟨he, _⟩)
    · exact h.checked hold
    · cases he
  have hlast : ¬ Calm (stage.log ++ [(.mkdir, .performed)]) := by simp [Calm]
  apply triple_call
  · trivial
  · rintro value stage' (⟨choice, hanswer, rfl⟩ | ⟨error, herror, rfl⟩)
    · obtain ⟨node, hmkdir, hmode⟩ | ⟨error, hmkdir, _⟩ :=
        mkdir_absent caller stage.fs choice h.absent
      · refine ⟨⟨node, ?_, hmode⟩, hlog _, hlast⟩
        change (stage.fs.mkdir caller choice).2.lock = some node
        rw [hmkdir]
      · change .ok value = (stage.fs.mkdir caller choice).1 at hanswer
        rw [hmkdir] at hanswer
        cases hanswer
    · cases herror
  · rintro error stage' (⟨choice, hanswer, rfl⟩ | ⟨_, _, rfl⟩)
    · obtain ⟨node, hmkdir, _⟩ | ⟨reason, hmkdir, hcode⟩ :=
        mkdir_absent caller stage.fs choice h.absent
      · change .error error = (stage.fs.mkdir caller choice).1 at hanswer
        rw [hmkdir] at hanswer
        cases hanswer
      · change .error error = (stage.fs.mkdir caller choice).1 at hanswer
        rw [hmkdir] at hanswer
        cases hanswer
        refine ⟨?_, hlog _, fun hexist => absurd hexist hcode⟩
        change (stage.fs.mkdir caller choice).2.lock = none
        rw [hmkdir]
        exact h.absent
    · exact ⟨h.absent, hlog _, fun _ => calm_concat (by simp)⟩

/-- The look at the new directory: it passes, or it fails and the directory stays. -/
theorem trial_validateMade (win32 : Bool) (h : Made stage) :
    Triple (trial caller) stage (validatePosixPrivateLockDirectory win32)
      (fun (stage : Trial) _ => ¬ Unchecked stage.log) CreationCaught := by
  obtain ⟨node, hnode, hmode⟩ := h.node
  unfold validatePosixPrivateLockDirectory
  split
  · exact Triple.pure h.checked
  apply triple_catchIo (fun stage failure => Unchecked stage.log ∧ stage.fs.lock ≠ none ∧
    ∃ error, failure = .io error)
  · apply Triple.bind (fun stage metadata => ¬ Unchecked stage.log ∧ metadata.mode = 0o700)
    · apply triple_call
      · trivial
      · rintro stat stage' (⟨choice, hanswer, rfl⟩ | ⟨error, herror, rfl⟩)
        · change .ok stat = stage.fs.lstat .lock choice at hanswer
          unfold Fs.lstat at hanswer
          rw [hnode] at hanswer
          cases hanswer
          refine ⟨?_, hmode⟩
          rw [unchecked_concat]
          rintro (hold | ⟨he, _⟩)
          · exact h.checked hold
          · cases he
        · cases herror
      · rintro error stage' (⟨choice, hanswer, rfl⟩ | ⟨_, _, rfl⟩)
        · change .error error = stage.fs.lstat .lock choice at hanswer
          unfold Fs.lstat at hanswer
          rw [hnode] at hanswer
          cases hanswer
        · exact ⟨unchecked_concat.mpr (.inr ⟨rfl, h.last⟩), by simp [hnode], error, rfl⟩
    · rintro stage' metadata ⟨hchecked, hprivate⟩
      unfold validatePosixPrivateMode
      rw [hprivate, if_neg (by simp)]
      exact Triple.pure hchecked
  · rintro _ error ⟨_, _, _, hio⟩
    cases hio
  · rintro stage' error ⟨hunchecked, hpresent, _⟩
    exact Triple.throw (.inr ⟨hunchecked, hpresent, by simp [Failure.IsCompromised]⟩)

theorem trial_lstatAbsent (h : Untouched stage) :
    Triple (trial caller) stage (await (.lstat .lock)) (fun _ _ => False)
      (fun stage failure => Untouched stage ∧ ∃ error, failure = .io error) := by
  have hmoves := (untouched_looking caller stage (.lstat .lock) h trivial).2
  apply triple_call
  · trivial
  · rintro stat stage' (⟨choice, hanswer, rfl⟩ | ⟨error, herror, rfl⟩)
    · change .ok stat = stage.fs.lstat .lock choice at hanswer
      unfold Fs.lstat at hanswer
      rw [h.absent] at hanswer
      cases hanswer
    · cases herror
  · intro error stage' hm
    exact ⟨hmoves _ _ hm, error, rfl⟩

theorem trial_createLockDirectory (win32 : Bool) (attempts : Nat) (h : Untouched stage) :
    Triple (trial caller) stage (createLockDirectory win32 attempts)
      (fun stage created => ¬ Unchecked stage.log ∧ (created = false → stage.fs.lock = none))
      CreationFailed := by
  induction attempts generalizing stage with
  | zero => exact Triple.pure ⟨h.checked, fun _ => h.absent⟩
  | succ attempts ih =>
    apply triple_catchIo CreationCaught
    · apply Triple.bind _ (trial_mkdir h)
      intro stage' _ hmade
      apply Triple.bind _ (trial_validateMade win32 hmade)
      intro stage'' _ hchecked
      exact Triple.pure ⟨hchecked, by simp⟩
    · intro _ _ hcaught
      exact hcaught
    · rintro stage' error ⟨habsent, hchecked, hcalm⟩
      split
      · exact Triple.throw (.inl ⟨hchecked, habsent⟩)
      rename_i hexist
      have huntouched : Untouched stage' := ⟨habsent, hchecked, hcalm (not_not.mp hexist)⟩
      apply triple_catchIo (fun stage failure => Untouched stage ∧ ∃ error, failure = .io error)
      · apply Triple.bind _ (trial_lstatAbsent huntouched)
        intro _ _ hfalse
        exact hfalse.elim
      · rintro _ error' ⟨_, _, hio⟩
        cases hio
      · rintro stage'' inspectError ⟨hstage, _⟩
        split
        · exact ih hstage
        · exact Triple.throw (.inl ⟨hstage.checked, hstage.absent⟩)

end Creation

/-- A failure after the directory was looked at: undone or reported as compromised. -/
def Undone (stage : Trial) (failure : Failure) : Prop :=
  ¬ Unchecked stage.log ∧ (failure.IsCompromised ∨ stage.fs.lock = none)

section Publication

variable {caller : Call} {stage : Trial}

theorem uses_later {op : FsOp} (h : op ≠ .lstat .lock) : Uses FsOp.IsLater (await op).run :=
  uses_await h

theorem uses_adapt {allowed : FsOp → Prop} {α ε' : Type} {x : FsM α} {f : Failure → ε'}
    (h : Uses allowed x.run) : Uses allowed (x.adapt f).run :=
  Uses.bindProg h fun _ => trivial

theorem uses_inspectPublicationTarget : Uses FsOp.IsLater inspectPublicationTarget.run := by
  apply uses_catchIo
  · apply Uses.bind (uses_later (by simp))
    intro _
    exact Uses.throw _
  · intro error
    split
    · exact Uses.pure _
    · exact Uses.throw _

theorem uses_publishOwner (owner : JsString) : Uses FsOp.IsLater (publishOwner owner).run := by
  apply Uses.bind (uses_adapt (uses_later (by simp)))
  intro handle
  apply Uses.bind
  · apply uses_adapt
    apply Uses.bind (uses_later (by simp))
    intro _
    apply Uses.bind (uses_later (by simp))
    intro _
    exact uses_later (by simp)
  · intro _
    apply uses_adapt
    apply Uses.bind uses_inspectPublicationTarget
    intro _
    exact uses_later (by simp)

theorem uses_unlinkIfPresent (name : Name) : Uses FsOp.IsLater (unlinkIfPresent name).run := by
  apply Uses.tryCatch (uses_later (by simp))
  intro failure
  split
  · exact Uses.pure _
  · exact Uses.throw _

theorem uses_validateMarker (win32 : Bool) :
    Uses FsOp.IsLater (validateRegularFile win32 .owner "owner token").run := by
  apply uses_catchIo
  · apply Uses.bind (uses_later (by simp))
    intro metadata
    split
    · split
      · exact uses_validatePosixPrivateMode _ _ _
      · exact Uses.throw _
    · exact Uses.throw _
  · intro error
    split
    · exact Uses.throw _
    · exact Uses.throw _

theorem uses_readMarkerIdentity : Uses FsOp.IsLater readLocalFileOwnerIdentity.run := by
  apply Uses.bind (Uses.attempt (uses_later (by simp)))
  intro metadata
  split
  · exact Uses.throw _
  · exact Uses.throw _
  · split
    · exact Uses.pure _
    · exact Uses.throw _

/-- A removed directory is gone. -/
theorem trial_rmdir (h : ¬ Unchecked stage.log) :
    Triple (trial caller) stage (await .rmdir)
      (fun (stage : Trial) _ => ¬ Unchecked stage.log ∧ stage.fs.lock = none)
      (fun (stage : Trial) _ => ¬ Unchecked stage.log) := by
  have hmoves := (checked_later caller stage .rmdir h (by simp [FsOp.IsLater])).2
  apply triple_call
  · trivial
  · intro value stage' hm
    refine ⟨hmoves _ _ hm, ?_⟩
    obtain ⟨choice, hanswer, rfl⟩ | ⟨error, herror, rfl⟩ := hm
    · change .ok value = (stage.fs.rmdir caller choice).1 at hanswer
      change (stage.fs.rmdir caller choice).2.lock = none
      unfold Fs.rmdir at hanswer ⊢
      split at hanswer
      · cases hanswer
      split at hanswer
      · rename_i hempty
        rw [if_pos hempty]
      · cases hanswer
    · cases herror
  · intro error stage' hm
    exact hmoves _ _ hm

theorem trial_rollbackPublication (h : ¬ Unchecked stage.log) :
    Triple (trial caller) stage rollbackPublication
      (fun (stage : Trial) _ => ¬ Unchecked stage.log ∧ stage.fs.lock = none)
      (fun (stage : Trial) _ => ¬ Unchecked stage.log) := by
  apply Triple.bind _ (checked_uses (uses_unlinkIfPresent .pending) h)
  intro stage' _ hpending
  apply Triple.bind _ (checked_uses (uses_unlinkIfPresent .owner) hpending)
  intro stage' _ howner
  exact trial_rmdir howner

theorem trial_rollbackOwner (h : ¬ Unchecked stage.log) :
    Triple (trial caller) stage rollbackOwner
      (fun (stage : Trial) _ => ¬ Unchecked stage.log ∧ stage.fs.lock = none)
      (fun (stage : Trial) _ => ¬ Unchecked stage.log) := by
  apply Triple.bind _ (checked_uses (uses_later (by simp)) h)
  intro stage' _ hunlinked
  exact trial_rmdir hunlinked

/-- Closing the pending handle never throws. -/
theorem trial_closeQuietly (pendingHandle : Option Nat) (h : ¬ Unchecked stage.log)
    {err : Trial → Failure → Prop} :
    Triple (trial caller) stage (closeQuietly pendingHandle)
      (fun (stage : Trial) _ => ¬ Unchecked stage.log) err := by
  cases pendingHandle with
  | none => exact Triple.pure h
  | some handle =>
    apply Triple.tryCatch _ (checked_uses (uses_later (by simp)) h)
    intro stage' _ hclosed
    exact Triple.pure hclosed

theorem trial_publishOrRollback (owner : JsString) (h : ¬ Unchecked stage.log) :
    Triple (trial caller) stage (publishOrRollback owner)
      (fun (stage : Trial) _ => ¬ Unchecked stage.log) Undone := by
  apply Triple.bind (fun (stage : Trial) _ => ¬ Unchecked stage.log)
  · exact Triple.lift ((uses_publishOwner owner).follows
      (I := fun (stage : Trial) => ¬ Unchecked stage.log) (checked_later caller) h)
  intro stage' outcome hchecked
  cases outcome with
  | ok _ => exact Triple.pure hchecked
  | error failed =>
    obtain ⟨error, pendingHandle⟩ := failed
    apply Triple.bind _ (trial_closeQuietly pendingHandle hchecked)
    intro stage' _ hclosed
    apply Triple.bind _ (Triple.attempted (trial_rollbackPublication hclosed))
    intro stage' rollback hrollback
    apply Triple.throw
    cases rollback with
    | ok _ => exact ⟨hrollback.1, .inr hrollback.2⟩
    | error rollbackError => exact ⟨hrollback, .inl rfl⟩

theorem trial_identifyOrRollback (win32 : Bool) (h : ¬ Unchecked stage.log) :
    Triple (trial caller) stage (identifyOrRollback win32)
      (fun (stage : Trial) _ => ¬ Unchecked stage.log) Undone := by
  apply Triple.tryCatch (fun (stage : Trial) _ => ¬ Unchecked stage.log)
  · apply Triple.bind _ (checked_uses (uses_validateMarker win32) h)
    intro stage' _ hvalidated
    exact checked_uses uses_readMarkerIdentity hvalidated
  · intro stage' error hfailed
    apply Triple.bind _ (Triple.attempted (trial_rollbackOwner hfailed))
    intro stage' rollback hrollback
    cases rollback with
    | ok _ => exact Triple.throw ⟨hrollback.1, .inr hrollback.2⟩
    | error rollbackError => exact Triple.throw ⟨hrollback, .inl rfl⟩

end Publication

section Acquisition

variable {caller : Call} {stage : Trial} {win32 : Bool} {owner : JsString}

/-- How an acquisition may end. -/
def Settles (stage : Trial) (result : Except Failure (Option LocalFileLock)) : Prop :=
  LeavesNothing stage.fs result ↔ ¬ Unchecked stage.log

theorem settles_creationFailed {failure : Failure} (h : CreationFailed stage failure) :
    Settles stage (.error failure) := by
  obtain ⟨hchecked, habsent⟩ | ⟨hunchecked, hpresent, hkind⟩ := h
  · exact ⟨fun _ => hchecked, fun _ => .inr habsent⟩
  · constructor
    · rintro (hcompromised | habsent)
      · exact absurd hcompromised hkind
      · exact absurd habsent hpresent
    · exact fun hchecked => absurd hunchecked hchecked

theorem settles_undone {failure : Failure} (h : Undone stage failure) :
    Settles stage (.error failure) := ⟨fun _ => h.1, fun _ => h.2⟩

theorem trial_tryAcquire (h : Untouched stage) :
    Follows (trial caller) Settles stage (tryAcquireLocalFileLock win32 owner).run := by
  have htriple : Triple (trial caller) stage (tryAcquireLocalFileLock win32 owner)
      (fun stage lock => Settles stage (.ok lock)) (fun stage failure =>
        Settles stage (.error failure)) := by
    have hsettled : ∀ (stage : Trial) (failure : Failure), Untouched stage →
        Settles stage (.error failure) := fun stage failure huntouched =>
      settles_creationFailed (.inl ⟨huntouched.checked, huntouched.absent⟩)
    apply Triple.bind (fun stage _ => Untouched stage)
    · change Follows _ _ _ (pure (validateLocalFileLockOwner owner))
      cases validateLocalFileLockOwner owner with
      | error failure => exact hsettled stage failure h
      | ok _ => exact h
    intro stage' _ hvalid
    apply Triple.bind (fun stage _ => Untouched stage)
    · exact (untouched_uses (uses_prepareLockParent (fun _ h => h) win32) hvalid).mono
        (fun _ _ h => h) hsettled
    intro stage' _ hparent
    apply Triple.bind (fun (stage : Trial) created =>
      ¬ Unchecked stage.log ∧ (created = false → stage.fs.lock = none))
    · exact (trial_createLockDirectory win32 2 hparent).mono (fun _ _ h => h)
        (fun _ _ h => settles_creationFailed h)
    rintro stage' created ⟨hchecked, hnone⟩
    cases created with
    | false => exact Triple.pure ⟨fun _ => hchecked, fun _ => hnone rfl⟩
    | true =>
      apply Triple.bind (fun (stage : Trial) _ => ¬ Unchecked stage.log)
      · exact (trial_publishOrRollback owner hchecked).mono (fun _ _ h => h)
          (fun _ _ h => settles_undone h)
      intro stage' _ hpublished
      apply Triple.bind (fun (stage : Trial) _ => ¬ Unchecked stage.log)
      · exact (trial_identifyOrRollback win32 hpublished).mono (fun _ _ h => h)
          (fun _ _ h => settles_undone h)
      intro stage' _ hidentified
      exact Triple.pure ⟨fun _ => hidentified, fun _ => trivial⟩
  apply Follows.mono htriple
  intro stage' result hresult
  cases result with
  | ok lock => exact hresult
  | error failure => exact hresult

/-- An acquisition on an absent path, whatever steps fail: it leaves nothing behind, or
reports a compromised lock, exactly when the look at the new directory does not fail. -/
theorem failed_acquisition_leaves_nothing_iff {fs : Fs} {final : Trial}
    {result : Except Failure (Option LocalFileLock)} (habsent : fs.lock = none)
    (h : Ran (trial caller) ⟨fs, []⟩ (tryAcquireLocalFileLock win32 owner).run final result) :
    LeavesNothing final.fs result ↔ ¬ Unchecked final.log := by
  have huntouched : Untouched ⟨fs, []⟩ := ⟨habsent, by simp [Unchecked], by simp [Calm]⟩
  exact (trial_tryAcquire huntouched).ran h

/-- The program with given fates of its steps. -/
def rehearse {α : Type} (caller : Call) :
    List (Except FsError Choice) → Trial → FsProg α → Option (Trial × α)
  | _, stage, .done value => some (stage, value)
  | [], _, .call _ _ => none
  | .ok choice :: fates, stage, .call op next =>
    rehearse caller fates
      ⟨(stage.fs.perform caller choice op).2, stage.log ++ [(op, .performed)]⟩
      (next (stage.fs.perform caller choice op).1)
  | .error error :: fates, stage, .call op next =>
    rehearse caller fates ⟨stage.fs, stage.log ++ [(op, .failed)]⟩ (next (.error error))

theorem ran_of_rehearse {α : Type} {fates : List (Except FsError Choice)} {program : FsProg α}
    {final : Trial} {value : α} (h : rehearse caller fates stage program = some (final, value)) :
    Ran (trial caller) stage program final value := by
  induction fates generalizing stage program with
  | nil =>
    cases program with
    | done result =>
      cases h
      exact .done _ _
    | call op next => cases h
  | cons fate fates ih =>
    cases program with
    | done result =>
      cases h
      exact .done _ _
    | call op next =>
      cases fate with
      | ok choice => exact .call (.inl ⟨choice, rfl, rfl⟩) (ih h)
      | error error => exact .call (.inr ⟨error, rfl, rfl⟩) (ih h)

end Acquisition

section Sample

def trialCaller : Call := ⟨1, 0⟩

def trialChoice : Choice := ⟨"", ⟨1, 2, 3⟩, none, 4096⟩

/-- A private parent directory with nothing at the lock path. -/
def absentFs : Fs :=
  ⟨some ⟨.directory, 0o700, 2, 0, ⟨1, 1, 1⟩⟩, none,
    fun _ => ⟨.file, 0, 0, [], ⟨0, 0, 0⟩, none⟩, 0, fun _ => none, []⟩

/-- The look at the new directory fails. -/
def uncheckedFates : List (Except FsError Choice) :=
  [.ok trialChoice, .ok trialChoice, .ok trialChoice, .ok trialChoice,
    .error ⟨some "EIO", "i/o error"⟩]

def uncheckedFinal : Trial :=
  ⟨(absentFs.mkdir trialCaller trialChoice).2,
    [(.mkdirParent, .performed), (.lstat .parent, .performed), (.lstat .parent, .performed),
      (.mkdir, .performed), (.lstat .lock, .failed)]⟩

theorem ran_unchecked :
    Ran (trial trialCaller) ⟨absentFs, []⟩ (tryAcquireLocalFileLock false [0x61]).run uncheckedFinal
      (.error (ioError "inspect POSIX lock-directory permissions" ⟨some "EIO", "i/o error"⟩)) :=
  @ran_of_rehearse _ _ _ uncheckedFates _ _ _ rfl

theorem failed_acquisition_leaves_directory :
    ¬ ∀ (win32 : Bool) (owner : JsString) (caller : Call) (fs : Fs) (final : Trial)
      (result : Except Failure (Option LocalFileLock)), fs.lock = none →
      Ran (trial caller) ⟨fs, []⟩ (tryAcquireLocalFileLock win32 owner).run final result →
      LeavesNothing final.fs result := by
  intro h
  obtain hcompromised | habsent := h false [0x61] trialCaller absentFs uncheckedFinal _ rfl
    ran_unchecked
  · cases hcompromised
  · cases habsent

/-- The write of the pending marker fails, and the rollback succeeds. -/
def unwrittenFates : List (Except FsError Choice) :=
  List.replicate 6 (.ok trialChoice) ++ [.error ⟨some "EIO", "i/o error"⟩] ++
    List.replicate 4 (.ok trialChoice)

theorem ran_unwritten : ∃ final,
    Ran (trial trialCaller) ⟨absentFs, []⟩ (tryAcquireLocalFileLock false [0x61]).run final
        (.error (ioError "publish local lock owner token" ⟨some "EIO", "i/o error"⟩)) ∧
      final.log.length = 11 ∧ ¬ Unchecked final.log := by
  refine ⟨_, @ran_of_rehearse _ _ _ unwrittenFates _ _ _ rfl, rfl, ?_⟩
  rintro ⟨before, after, hlog⟩
  have hmem : (FsOp.lstat .lock, Fate.failed) ∈
      before ++ (.mkdir, .performed) :: (.lstat .lock, .failed) :: after := by simp
  rw [← hlog] at hmem
  simp at hmem

/-- One run on either side: the first leaves the directory, the second nothing. -/
theorem unchecked_acquisition :
    (LeavesNothing uncheckedFinal.fs
      (.error (ioError "inspect POSIX lock-directory permissions" ⟨some "EIO", "i/o error"⟩)) ↔
    ¬ Unchecked uncheckedFinal.log) ∧
    ∃ final : Trial, final.log.length = 11 ∧ LeavesNothing final.fs
      (.error (ioError "publish local lock owner token" ⟨some "EIO", "i/o error"⟩)) := by
  refine ⟨failed_acquisition_leaves_nothing_iff rfl ran_unchecked, ?_⟩
  obtain ⟨final, hran, hlength, hchecked⟩ := ran_unwritten
  exact ⟨final, hlength, (failed_acquisition_leaves_nothing_iff rfl hran).mpr hchecked⟩

end Sample

end OresLocks.LocalFile
