import OresLocks.LocalFile.HolderProtocol

/-!
# What a recoverer may do, and that its program keeps to it

A recoverer only looks until it renames the owner marker. It may do so once it has
read its expected owner from the file it opened last, and from then on it alone
empties the directory.
-/

namespace OresLocks.LocalFile

set_option autoImplicit false

open Shared.Programs

inductive RecoverStage where
  | looking
  | opened (file : Nat) (content : Bytes)
  | inside (marker : Option Marker)
  | finished

/-- Before the claim. -/
def RecoverStage.IsLooking (stage : RecoverStage) : Prop :=
  stage = .looking ∨ ∃ file content, stage = .opened file content

/-- The last file that was opened holds accepted content. -/
def RecoverStage.HasRead (stage : RecoverStage) (accepts : Bytes → Prop) : Prop :=
  ∃ file content, stage = .opened file content ∧ accepts content

theorem RecoverStage.HasRead.isLooking {stage : RecoverStage} {accepts : Bytes → Prop}
    (h : stage.HasRead accepts) : stage.IsLooking := by
  obtain ⟨file, content, hstage, _⟩ := h
  exact Or.inr ⟨file, content, hstage⟩

/-- `accepts` is the content that a recovery takes for its expected owner. -/
def recoverProtocol (accepts : Bytes → Prop) : Protocol FsOp FsAnswer RecoverStage where
  allows stage op :=
    match op with
    | .rename source target => source = .owner ∧ target = .recovering ∧ stage.HasRead accepts
    | .unlink name => ∃ file content, name = .recovering ∧
        stage = .inside (some ⟨.recovering, file, content⟩)
    | .rmdir => stage = .inside none
    | .openRead name => name = .owner ∧ stage.IsLooking
    | .read _ _ _ => True
    | op => op.IsLooking
  moves stage op answer stage' :=
    match op, answer with
    | .rename _ _, .ok _ => ∃ file content, stage = .opened file content ∧
        stage' = .inside (some ⟨.recovering, file, content⟩)
    | .unlink _, .ok _ => stage' = .inside none
    | .rmdir, .ok _ => stage' = .finished
    | .openRead _, .ok file => ∃ content, stage' = .opened file content
    | .read handle position length, .ok chunk => stage' = stage ∧ ∀ content,
        stage = .opened handle content →
          ∃ count, chunk = (content.drop position).take count ∧ (0 < length → 0 < count)
    | _, _ => stage' = stage

/-- The content that `decode` reads as the owner. -/
def Decodes (decode : Bytes → Option JsString) (owner : JsString) (content : Bytes) : Prop :=
  decode content = some owner

theorem recover_errors (accepts : Bytes → Prop) : ErrorsStay (recoverProtocol accepts) := by
  intro stage op error stage' hm
  cases op <;> exact hm

section Recover

variable {accepts : Bytes → Prop}

theorem recover_looking_step (stage : RecoverStage) (op : FsOp) (h : op.IsLooking) :
    (recoverProtocol accepts).allows stage op ∧ ∀ answer stage',
      (recoverProtocol accepts).moves stage op answer stage' → stage' = stage := by
  cases op with
  | mkdir => exact absurd h id
  | rmdir => exact absurd h id
  | openExclusive name => exact absurd h id
  | openRead name => exact absurd h id
  | write handle bytes => exact absurd h id
  | read handle position length => exact absurd h id
  | rename source target => exact absurd h id
  | unlink name => exact absurd h id
  | _ => exact ⟨h, fun _ _ hm => hm⟩

/-- A program that only looks leaves a recoverer where it is. -/
theorem recover_uses {ε α : Type} {x : ExceptT ε FsProg α} (h : Uses FsOp.IsLooking x.run)
    (stage : RecoverStage) :
    Triple (recoverProtocol accepts) stage x (fun stage' _ => stage' = stage)
      (fun stage' _ => stage' = stage) := by
  apply Uses.triple (I := fun stage' => stage' = stage) h
  · intro stage' op hstage hop
    subst hstage
    exact recover_looking_step stage' op hop
  · rfl

theorem recover_readsFile (handle : Nat) (content : Bytes) :
    ReadsFile (recoverProtocol accepts) (.opened handle content) handle content
      (fun stage _ => stage = .opened handle content) where
  allows _ _ := trivial
  chunk _ _ _ _ hm := ⟨hm.1, hm.2 content rfl⟩
  error _ _ _ _ hm := hm

theorem recover_validatePosixPrivateMode (win32 : Bool) (mode : Nat) (label : String)
    (stage : RecoverStage) :
    Triple (recoverProtocol accepts) stage (validatePosixPrivateMode win32 mode label)
      (fun stage' _ => stage' = stage) (fun stage' _ => stage' = stage) :=
  recover_uses (uses_validatePosixPrivateMode win32 mode label) stage

theorem recover_catchOwnerRead {α : Type} {x : FsM α} {stage : RecoverStage}
    {ok : RecoverStage → α → Prop} {I : RecoverStage → Prop}
    (h : Triple (recoverProtocol accepts) stage x ok (fun stage _ => I stage)) :
    Triple (recoverProtocol accepts) stage (catchOwnerRead x) ok (fun stage _ => I stage) := by
  apply triple_catchIo (fun stage _ => I stage) h
  · intro _ _ hI
    exact hI
  · intro stage error hI
    split
    · exact Triple.throw hI
    · exact Triple.throw hI

theorem recover_openBounded {stage : RecoverStage} (hlooking : stage.IsLooking) (win32 : Bool) :
    Triple (recoverProtocol accepts) stage (openBoundedLocalFileLockOwner win32)
      (fun stage' opened => ∃ content, stage' = .opened opened.2 content)
      (fun stage' _ => stage'.IsLooking) := by
  apply Triple.bind (fun stage' _ => stage' = stage)
  · apply Triple.mono (recover_uses (uses_await (by trivial)) stage)
    · intro _ _ hstage
      exact hstage
    · intro _ _ hstage
      rw [hstage]
      exact hlooking
  intro stage' metadata hstage
  subst hstage
  split
  · exact Triple.throw hlooking
  split
  · exact Triple.throw hlooking
  apply Triple.bind (fun stage'' _ => stage'' = stage')
  · apply Triple.mono (recover_validatePosixPrivateMode win32 _ _ stage')
    · intro _ _ hstage
      exact hstage
    · intro _ _ hstage
      rw [hstage]
      exact hlooking
  intro stage'' _ hstage
  subst hstage
  split
  · exact Triple.throw hlooking
  apply Triple.bind (fun stage handle => ∃ content, stage = .opened handle content)
  · apply triple_await (recover_errors accepts)
    · exact ⟨rfl, hlooking⟩
    · intro handle stage hm
      exact hm
    · intro error
      exact hlooking
  · intro stage handle hopened
    exact Triple.pure hopened

theorem recover_readOpened (win32 : Bool) (metadata : Stat) (handle : Nat) (content : Bytes) :
    Triple (recoverProtocol accepts) (.opened handle content)
      (readOpenedLocalFileLockOwner win32 metadata handle)
      (fun stage owner => stage = .opened handle content ∧ decodeOwner content = some owner)
      (fun stage _ => stage = .opened handle content) := by
  apply Triple.bind (fun stage _ => stage = .opened handle content)
  · exact recover_uses (uses_await (by trivial)) _
  intro stage opened hstage
  subst hstage
  split
  · exact Triple.throw rfl
  apply Triple.bind _ (recover_validatePosixPrivateMode win32 _ _ _)
  intro stage _ hstage
  subst hstage
  split
  · exact Triple.throw rfl
  have hbegins : ∃ rest, content = [] ++ rest := ⟨content, rfl⟩
  apply Triple.bind _ (triple_readOwnerBytes (recover_readsFile handle content) hbegins (by simp))
  intro stage bytes hread
  obtain ⟨rfl, _, hbytes⟩ := hread
  split
  · exact Triple.throw rfl
  · rename_i hshort
    have heq := hbytes (Nat.le_of_not_lt hshort)
    subst heq
    split
    · rename_i owner howner
      exact Triple.pure ⟨rfl, howner⟩
    · exact Triple.throw rfl

theorem recover_readBounded {stage : RecoverStage} (hlooking : stage.IsLooking) (win32 : Bool) :
    Triple (recoverProtocol accepts) stage (readBoundedLocalFileLockOwner win32)
      (fun stage' owner => stage'.HasRead (Decodes decodeOwner owner)) (fun stage' _ => stage'.IsLooking) := by
  apply Triple.bind _ (recover_catchOwnerRead (recover_openBounded hlooking win32))
  intro stage' opened hopened
  obtain ⟨metadata, handle⟩ := opened
  obtain ⟨content, rfl⟩ := hopened
  apply Triple.finallyDo
  · apply recover_catchOwnerRead
    apply Triple.mono (recover_readOpened win32 metadata handle content)
    · intro stage owner hread
      exact ⟨handle, content, hread⟩
    · intro stage _ hstage
      exact Or.inr ⟨handle, content, hstage⟩
  · intro stage outcome houtcome
    have hlooking : stage.IsLooking := by
      cases outcome with
      | ok owner => exact RecoverStage.HasRead.isLooking houtcome
      | error error => exact houtcome
    apply Triple.mono (recover_uses (uses_await (by trivial)) stage)
    · intro _ _ hstage
      exact hstage
    · intro _ _ hstage
      rw [hstage]
      exact hlooking

/-- What an attempt to read the owner establishes. -/
def OwnerRead (stage : RecoverStage) : InspectionOwnerRead → Prop
  | .owner owner => stage.HasRead (Decodes decodeOwner owner)
  | _ => stage.IsLooking

theorem recover_look {ε α : Type} {x : ExceptT ε FsProg α} {stage : RecoverStage}
    (hlooking : stage.IsLooking) (h : Uses FsOp.IsLooking x.run) :
    Triple (recoverProtocol accepts) stage x (fun stage' _ => stage'.IsLooking)
      (fun stage' _ => stage'.IsLooking) := by
  apply Triple.mono (recover_uses h stage)
  · intro _ _ hstage
    rw [hstage]
    exact hlooking
  · intro _ _ hstage
    rw [hstage]
    exact hlooking

theorem recover_retry {again : Option (FsM InspectionOwnerRead)} {stage : RecoverStage}
    (hlooking : stage.IsLooking)
    (hagain : ∀ next, again = some next → ∀ stage : RecoverStage, stage.IsLooking →
      Triple (recoverProtocol accepts) stage next OwnerRead (fun stage _ => stage.IsLooking))
    {next : FsM InspectionOwnerRead} (hnext : again = some next) :
    Triple (recoverProtocol accepts) stage (do sleepMs 1; next) OwnerRead
      (fun stage _ => stage.IsLooking) := by
  apply Triple.bind _ (recover_look hlooking (uses_await (by trivial)))
  intro stage' _ hlooking'
  exact hagain next hnext stage' hlooking'

theorem recover_recheck {again : Option (FsM InspectionOwnerRead)} {stage : RecoverStage}
    (hlooking : stage.IsLooking) (win32 : Bool)
    (hagain : ∀ next, again = some next → ∀ stage : RecoverStage, stage.IsLooking →
      Triple (recoverProtocol accepts) stage next OwnerRead (fun stage _ => stage.IsLooking)) :
    Triple (recoverProtocol accepts) stage (recheckAfterDisappearance win32 again) OwnerRead
      (fun stage _ => stage.IsLooking) := by
  apply Triple.bind (fun stage' _ => stage'.IsLooking)
  · apply Triple.attempt
    exact recover_look hlooking (uses_await (by trivial))
  intro stage' probe hlooking'
  split
  · exact Triple.pure hlooking'
  · exact Triple.throw hlooking'
  · split
    · exact Triple.pure hlooking'
    · dsimp only
      split
      · rename_i next
        split
        · exact recover_retry hlooking' hagain rfl
        · exact Triple.throw hlooking'
      · exact Triple.throw hlooking'

theorem recover_readInspectionOwnerOnce {again : Option (FsM InspectionOwnerRead)}
    {stage : RecoverStage} (hlooking : stage.IsLooking) (win32 : Bool)
    (hagain : ∀ next, again = some next → ∀ stage : RecoverStage, stage.IsLooking →
      Triple (recoverProtocol accepts) stage next OwnerRead (fun stage _ => stage.IsLooking)) :
    Triple (recoverProtocol accepts) stage (readInspectionOwnerOnce win32 again) OwnerRead
      (fun stage _ => stage.IsLooking) := by
  apply Triple.bind _ (Triple.attempted (recover_readBounded hlooking win32))
  intro stage' result hresult
  split
  · exact Triple.pure hresult
  · exact Triple.throw hresult
  · split
    · split
      · exact recover_recheck hresult win32 hagain
      · exact Triple.throw hresult
    · split
      · exact Triple.throw hresult
      · apply Triple.bind _ (recover_look hresult (uses_probeDeletionPending (fun _ h => h)))
        intro stage'' disappeared hlooking''
        split
        · exact Triple.pure hlooking''
        · split
          · exact recover_retry hlooking'' hagain rfl
          · exact Triple.throw hlooking''

theorem recover_readInspectionOwner (win32 : Bool) (retries : Nat) {stage : RecoverStage}
    (hlooking : stage.IsLooking) :
    Triple (recoverProtocol accepts) stage (readInspectionOwner win32 retries) OwnerRead
      (fun stage _ => stage.IsLooking) := by
  induction retries generalizing stage with
  | zero => exact recover_readInspectionOwnerOnce hlooking win32 (fun _ h => nomatch h)
  | succ retries ih =>
    apply recover_readInspectionOwnerOnce hlooking win32
    intro next hnext stage' hlooking'
    cases hnext
    exact ih hlooking'

/-- What an inspection establishes whose owners are read by `decode`. -/
def Inspected (decode : Bytes → Option JsString) (stage : RecoverStage) :
    LocalFileLockInspection → Prop
  | .held owner => stage.HasRead (Decodes decode owner)
  | _ => stage.IsLooking

theorem Inspected.isLooking {decode : Bytes → Option JsString} {stage : RecoverStage}
    {inspection : LocalFileLockInspection} (h : Inspected decode stage inspection) :
    stage.IsLooking := by
  cases inspection with
  | held owner => exact RecoverStage.HasRead.isLooking h
  | _ => exact h

theorem recover_inspectOwner (win32 : Bool) {stage : RecoverStage} (hlooking : stage.IsLooking) :
    Triple (recoverProtocol accepts) stage (inspectOwner win32)
      (Inspected decodeOwner) (fun stage _ => stage.IsLooking) := by
  apply Triple.bind _ (Triple.attempted (recover_readInspectionOwner win32 _ hlooking))
  intro stage' result hresult
  split
  · exact Triple.throw hresult
  · split
    · exact Triple.pure hresult
    · exact Triple.throw hresult
  · exact Triple.pure hresult
  · exact Triple.pure hresult
  · rename_i owner
    apply Triple.pure
    unfold classifyOwner
    split
    · exact RecoverStage.HasRead.isLooking hresult
    · split
      · exact RecoverStage.HasRead.isLooking hresult
      · exact hresult

theorem recover_inspect (win32 : Bool) {stage : RecoverStage} (hlooking : stage.IsLooking) :
    Triple (recoverProtocol accepts) stage (inspectLocalFileLock win32)
      (Inspected decodeOwner) (fun stage _ => stage.IsLooking) := by
  apply Triple.bind _ (recover_look hlooking (uses_lstatInspectionLockPath (fun _ h => h) win32 _))
  intro stage' metadata hlooking'
  split
  · exact Triple.pure hlooking'
  · split
    · exact Triple.pure hlooking'
    · split
      · exact Triple.pure hlooking'
      · apply Triple.bind _
          (recover_look hlooking' (uses_readInspectionEntryNames (fun _ h => h) win32 _))
        intro stage'' entries hlooking''
        split
        · exact Triple.pure hlooking''
        · exact Triple.pure hlooking''
        · exact Triple.pure hlooking''
        · exact Triple.pure hlooking''
        · exact recover_inspectOwner win32 hlooking''
        · exact Triple.pure hlooking''

variable {expectedOwner : JsString}

/-- Two inspections that agree have read the expected owner from the file opened last. -/
theorem recover_authorize {decode : Bytes → Option JsString} {inspect : FsM LocalFileLockInspection}
    (hinspect : ∀ stage : RecoverStage, stage.IsLooking →
      Triple (recoverProtocol accepts) stage inspect (Inspected decode)
        (fun stage _ => stage.IsLooking))
    {stage : RecoverStage} (hlooking : stage.IsLooking) :
    Triple (recoverProtocol accepts) stage (authorizeRecoveryBy inspect expectedOwner)
      (fun stage authorized => authorized = true → stage.HasRead (Decodes decode expectedOwner))
      (fun _ _ => True) := by
  have hinspects : ∀ stage : RecoverStage, stage.IsLooking →
      Triple (recoverProtocol accepts) stage inspect (Inspected decode) (fun _ _ => True) := by
    intro stage hlooking
    exact Triple.mono (hinspect stage hlooking) (fun _ _ h => h) (fun _ _ _ => trivial)
  apply Triple.bind _ (hinspects stage hlooking)
  intro stage' inspection hinspected
  split
  · exact Triple.pure (fun h => nomatch h)
  · exact Triple.throw trivial
  · exact Triple.throw trivial
  · split
    · exact Triple.throw trivial
    · apply Triple.bind _ (hinspects stage' hinspected.isLooking)
      intro stage'' final hfinal
      split
      · exact Triple.throw trivial
      · rename_i heq
        rw [not_not] at heq
        subst heq
        exact Triple.pure (fun _ => hfinal)

theorem recover_claim (win32 : Bool) {stage : RecoverStage} (hread : stage.HasRead accepts) :
    Triple (recoverProtocol accepts) stage (claimRecovery win32)
      (fun stage claimed => claimed = true →
        ∃ file content, stage = .inside (some ⟨.recovering, file, content⟩))
      (fun _ _ => True) := by
  apply Triple.bind (Ends (fun stage _ => ∃ file content,
    stage = .inside (some ⟨.recovering, file, content⟩)) (fun stage _ => stage.IsLooking))
  · apply Triple.attempt
    apply triple_await (recover_errors accepts)
    · exact ⟨rfl, rfl, hread⟩
    · intro _ stage' hm
      obtain ⟨file, content, _, hstage'⟩ := hm
      exact ⟨file, content, hstage'⟩
    · intro error
      exact hread.isLooking
  intro stage' result hresult
  split
  · exact Triple.pure (fun _ => hresult)
  · split
    · apply Triple.bind (Inspected decodeOwner)
      · exact Triple.mono (recover_inspect win32 hresult) (fun _ _ h => h) (fun _ _ _ => trivial)
      intro stage'' after _
      split
      · exact Triple.pure (fun h => nomatch h)
      · exact Triple.pure (fun h => nomatch h)
      · exact Triple.throw trivial
    · exact Triple.throw trivial

theorem recover_removeClaimed {file : Nat} {content : Bytes} :
    Triple (recoverProtocol accepts) (.inside (some ⟨.recovering, file, content⟩))
      removeClaimed (fun _ _ => True) (fun _ _ => True) := by
  apply Triple.tryCatch (fun _ _ => True)
  · apply Triple.bind (fun stage _ => stage = .inside none)
    · apply triple_await (recover_errors accepts)
      · exact ⟨file, content, rfl, rfl⟩
      · intro _ stage' hm
        exact hm
      · intro _
        trivial
    · intro stage _ hstage
      subst hstage
      apply triple_await (recover_errors accepts)
      · exact rfl
      · intro _ _ _
        trivial
      · intro _
        trivial
  · intro _ _ _
    exact Triple.throw trivial

theorem recover_recoverLocalFileLock (win32 confirmedInactive : Bool) (expectedOwner : JsString) :
    Triple (recoverProtocol (Decodes decodeOwner expectedOwner)) .looking
      (recoverLocalFileLock win32 expectedOwner confirmedInactive)
      (fun _ _ => True) (fun _ _ => True) := by
  apply Triple.bind (fun stage _ => stage = .looking)
  · cases validateLocalFileLockOwner expectedOwner with
    | ok value => exact rfl
    | error error => exact trivial
  intro stage _ hstage
  subst hstage
  split
  · exact Triple.throw trivial
  · apply Triple.bind _
      (recover_authorize (fun _ hlooking => recover_inspect win32 hlooking) (Or.inl rfl))
    intro stage authorized hauthorized
    split
    · rename_i htrue
      apply Triple.bind _ (recover_claim win32 (hauthorized htrue))
      intro stage' claimed hclaimed
      split
      · rename_i htrue'
        obtain ⟨file, content, rfl⟩ := hclaimed htrue'
        apply Triple.bind _ recover_removeClaimed
        intro _ _ _
        exact Triple.pure trivial
      · exact Triple.pure trivial
    · exact Triple.pure trivial

end Recover

end OresLocks.LocalFile
