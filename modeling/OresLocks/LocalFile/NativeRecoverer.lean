import OresLocks.LocalFile.NativeRecovery
import OresLocks.LocalFile.RecoverProtocol

/-!
# The Rust and Go recoveries are programs of a recoverer

Both rename the owner marker only after they have read their expected owner from the file
they opened last. What they accept is the text of that owner and nothing else.
-/

namespace OresLocks.LocalFile

set_option autoImplicit false

open Shared.Programs JsString

section Calls

variable {accepts : Bytes → Prop} {stage : RecoverStage} {α : Type}

theorem recover_asked {op : FsOp} {wrap : FsError → LocalFileLockError}
    {ok : RecoverStage → op.Answer → Prop} {err : RecoverStage → LocalFileLockError → Prop}
    (hallows : (recoverProtocol accepts).allows stage op)
    (hok : ∀ value stage', (recoverProtocol accepts).moves stage op (.ok value) stage' →
      ok stage' value)
    (herr : ∀ error, err stage error) :
    Triple (recoverProtocol accepts) stage (asked op wrap) ok err := by
  apply Triple.bind (fun stage' answer =>
    (∀ value, answer = .ok value → ok stage' value) ∧ ∀ error, answer = .error error → stage' = stage)
  · apply triple_answer (recover_errors accepts) hallows
    · intro value stage' hm
      refine ⟨?_, fun _ heq => nomatch heq⟩
      intro value' heq
      cases heq
      exact hok value stage' hm
    · intro error
      exact ⟨fun _ heq => (nomatch heq), fun _ _ => rfl⟩
  intro stage' answer hanswer
  cases answer with
  | ok value => exact Triple.pure (hanswer.1 value rfl)
  | error error =>
    rw [hanswer.2 error rfl]
    exact Triple.throw (herr (wrap error))

/-- The claiming rename, after which the marker is the recoverer's. -/
theorem recover_rename {ε : Type} {err : RecoverStage → ε → Prop} (hread : stage.HasRead accepts) :
    Triple (recoverProtocol accepts) stage
      (ask (.rename .owner .recovering) : ExceptT ε FsProg (FsAnswer (.rename .owner .recovering)))
      (Ends (fun stage _ => ∃ file content, stage = .inside (some ⟨.recovering, file, content⟩))
        (fun stage _ => stage.IsLooking)) err := by
  apply triple_answer (recover_errors accepts)
  · exact ⟨rfl, rfl, hread⟩
  · intro _ stage' hm
    obtain ⟨file, content, _, hstage'⟩ := hm
    exact ⟨file, content, hstage'⟩
  · intro error
    exact hread.isLooking

/-- Closing a file leaves a recoverer where it is. -/
theorem recover_closing {x : LockM α} {handle : Nat} {ok : RecoverStage → α → Prop}
    {err : RecoverStage → LocalFileLockError → Prop} (h : Triple (recoverProtocol accepts) stage x ok err) :
    Triple (recoverProtocol accepts) stage (closing handle x) ok err := by
  apply Triple.bind _ (Triple.attempted h)
  intro stage' outcome houtcome
  apply Triple.bind (fun stage'' _ => stage'' = stage')
  · apply triple_answer (recover_errors accepts)
    · trivial
    · intro _ _ hm
      exact hm
    · intro error
      rfl
  intro stage'' _ hstage
  subst hstage
  cases outcome with
  | ok value => exact houtcome
  | error error => exact houtcome

theorem recover_guardThat {p : Prop} [Decidable p] {error : LocalFileLockError}
    {ok : RecoverStage → Unit → Prop} {err : RecoverStage → LocalFileLockError → Prop}
    (hok : p → ok stage ()) (herr : err stage error) :
    Triple (recoverProtocol accepts) stage (guardThat p error) ok err := by
  unfold guardThat
  split
  · rename_i hp
    exact Triple.pure (hok hp)
  · exact Triple.throw herr

end Calls

namespace Rust

section Recover

variable {accepts : Bytes → Prop} {stage : RecoverStage}

theorem uses_readEntryNamesBounded : Uses FsOp.IsLooking readEntryNamesBounded.run := by
  apply Uses.bind (Uses.attempt (uses_await (by trivial)))
  intro opened
  split
  · exact Uses.throw _
  · exact Uses.throw _
  · apply Uses.finallyDo
    · apply uses_catchIo
      · apply Uses.bind (uses_await (by trivial))
        intro first
        split
        · exact Uses.pure _
        · apply Uses.bind (uses_await (by trivial))
          intro second
          split
          · exact Uses.pure _
          · exact Uses.pure _
      · intro error
        exact Uses.throw _
    · apply Uses.tryCatch (uses_await (by trivial))
      intro _
      exact Uses.pure _

theorem recover_inspectOpenedOwner (windows : Bool) (metadata : Stat) (handle : Nat)
    (content : Bytes) :
    Triple (recoverProtocol accepts) (.opened handle content)
      (inspectOpenedOwner windows metadata handle) (Inspected fromUtf8)
      (fun stage _ => stage.IsLooking) := by
  have hlooking : RecoverStage.IsLooking (.opened handle content) := Or.inr ⟨handle, content, rfl⟩
  apply Triple.bind (fun stage _ => stage = .opened handle content)
  · apply Triple.attempt
    exact recover_uses (uses_await (by trivial)) _
  intro stage opened hstage
  subst hstage
  split
  · exact Triple.throw hlooking
  · exact Triple.throw hlooking
  split
  · exact Triple.pure hlooking
  split
  · exact Triple.pure hlooking
  split
  · exact Triple.pure hlooking
  have hbegins : ∃ rest, content = [] ++ rest := ⟨content, rfl⟩
  apply Triple.bind _ (Triple.attempted
    (triple_readOwnerBytes (recover_readsFile handle content) hbegins (by simp)))
  intro stage result hread
  split
  · cases hread
    exact Triple.throw hlooking
  · cases hread
    exact Triple.throw hlooking
  · obtain ⟨rfl, _, hbytes⟩ := hread
    split
    · exact Triple.pure hlooking
    · rename_i hshort
      have heq := hbytes (Nat.le_of_not_lt hshort)
      subst heq
      split
      · exact Triple.pure hlooking
      · rename_i owner howner
        apply Triple.pure
        unfold classifyOwner
        split
        · exact hlooking
        · split
          · exact hlooking
          · exact ⟨handle, _, rfl, howner⟩

theorem recover_inspectOwner (windows : Bool) (hlooking : stage.IsLooking) :
    Triple (recoverProtocol accepts) stage (inspectOwner windows) (Inspected fromUtf8)
      (fun stage _ => stage.IsLooking) := by
  apply Triple.bind (fun stage' _ => stage' = stage)
  · apply Triple.attempt
    exact recover_uses (uses_await (by trivial)) _
  intro stage' looked hstage
  subst hstage
  split
  · exact Triple.throw hlooking
  · split
    · exact Triple.pure hlooking
    · exact Triple.throw hlooking
  split
  · exact Triple.pure hlooking
  split
  · exact Triple.pure hlooking
  split
  · exact Triple.pure hlooking
  apply Triple.bind (fun stage' opened => stage'.IsLooking ∧
    ∀ handle, opened = .ok handle → ∃ content, stage' = .opened handle content)
  · apply Triple.attempt
    apply triple_await (recover_errors accepts)
    · exact ⟨rfl, hlooking⟩
    · intro handle stage'' hm
      obtain ⟨content, rfl⟩ := hm
      refine ⟨Or.inr ⟨handle, content, rfl⟩, ?_⟩
      intro handle' heq
      cases heq
      exact ⟨content, rfl⟩
    · intro error
      exact ⟨hlooking, fun _ heq => nomatch heq⟩
  intro stage'' opened hopened
  split
  · exact Triple.throw hopened.1
  · split
    · exact Triple.pure hopened.1
    · exact Triple.throw hopened.1
  · rename_i handle
    obtain ⟨content, rfl⟩ := hopened.2 handle rfl
    apply Triple.finallyDo (recover_inspectOpenedOwner windows _ handle content)
    intro stage outcome houtcome
    have hlooking : stage.IsLooking := by
      cases outcome with
      | ok inspection => exact Inspected.isLooking houtcome
      | error error => exact houtcome
    apply Triple.mono (recover_uses (Uses.tryCatch (uses_await (by trivial))
      fun _ => Uses.pure _) stage)
    · intro _ _ hstage
      exact hstage
    · intro _ _ hstage
      rw [hstage]
      exact hlooking

theorem recover_inspect (windows : Bool) (hlooking : stage.IsLooking) :
    Triple (recoverProtocol accepts) stage (inspectLocalFileLock windows) (Inspected fromUtf8)
      (fun stage _ => stage.IsLooking) := by
  apply Triple.bind (fun stage' _ => stage' = stage)
  · apply Triple.attempt
    exact recover_uses (uses_await (by trivial)) _
  intro stage' looked hstage
  subst hstage
  split
  · exact Triple.throw hlooking
  · split
    · exact Triple.pure hlooking
    · exact Triple.throw hlooking
  split
  · exact Triple.pure hlooking
  apply Triple.bind _ (recover_look hlooking uses_readEntryNamesBounded)
  intro stage'' entries hlooking''
  split
  · exact Triple.pure hlooking''
  · exact Triple.pure hlooking''
  · exact Triple.pure hlooking''
  · exact recover_inspectOwner windows hlooking''
  · exact Triple.pure hlooking''

theorem recover_claim (windows : Bool) (hread : stage.HasRead accepts) :
    Triple (recoverProtocol accepts) stage (claimRecovery windows)
      (fun stage claimed => claimed = true →
        ∃ file content, stage = .inside (some ⟨.recovering, file, content⟩))
      (fun _ _ => True) := by
  apply Triple.bind _ (recover_rename hread)
  intro stage' result hresult
  split
  · exact Triple.pure (fun _ => hresult)
  · split
    · apply Triple.bind (Inspected fromUtf8)
      · exact Triple.mono (recover_inspect windows hresult) (fun _ _ h => h) (fun _ _ _ => trivial)
      intro stage'' after _
      split
      · exact Triple.pure (fun h => nomatch h)
      · exact Triple.pure (fun h => nomatch h)
      · exact Triple.throw trivial
    · split
      · exact Triple.throw trivial
      · exact Triple.throw trivial

theorem uses_leftoverKind : Uses FsOp.IsLooking leftoverKind.run := by
  apply Uses.bind (uses_ask (by trivial))
  intro opened
  split
  · exact Uses.pure _
  · apply Uses.bind (uses_ask (by trivial))
    intro next
    apply Uses.bind (uses_ask (by trivial))
    intro _
    split
    · exact Uses.pure _
    · exact Uses.pure _

theorem recover_removeClaimed {file : Nat} {content : Bytes} :
    Triple (recoverProtocol accepts) (.inside (some ⟨.recovering, file, content⟩))
      removeClaimed (fun _ _ => True) (fun _ _ => True) := by
  apply Triple.bind (fun stage answer => answer = .ok () → stage = .inside none)
  · apply triple_answer (recover_errors accepts)
    · exact ⟨file, content, rfl, rfl⟩
    · intro _ stage' hm _
      exact hm
    · intro error heq
      cases heq
  intro stage answer hanswer
  split
  · exact Triple.throw trivial
  · rw [hanswer rfl]
    apply Triple.bind (fun _ _ => True)
    · apply triple_answer (recover_errors accepts)
      · exact rfl
      · intro _ _ _
        trivial
      · intro _
        trivial
    intro stage' result _
    split
    · exact Triple.pure trivial
    · apply Triple.bind (fun _ _ => True)
      · apply Triple.mono (recover_uses uses_leftoverKind stage')
        · intro _ _ _
          trivial
        · intro _ _ _
          trivial
      intro _ _ _
      exact Triple.throw trivial

theorem recover_recoverLocalFileLock (windows confirmedInactive : Bool) (expectedOwner : String) :
    Triple (recoverProtocol (Decodes fromUtf8 (text expectedOwner))) .looking
      (recoverLocalFileLock windows expectedOwner confirmedInactive)
      (fun _ _ => True) (fun _ _ => True) := by
  unfold recoverLocalFileLock
  split
  · exact Triple.throw trivial
  apply Triple.bind (fun stage _ => stage = .looking)
  · cases validateLocalFileOwner expectedOwner with
    | ok value => exact rfl
    | error error => exact trivial
  intro stage _ hstage
  subst hstage
  apply Triple.bind _
    (recover_authorize (fun _ hlooking => recover_inspect windows hlooking) (Or.inl rfl))
  intro stage authorized hauthorized
  split
  · rename_i htrue
    apply Triple.bind _ (recover_claim windows (hauthorized htrue))
    intro stage' claimed hclaimed
    split
    · rename_i htrue'
      obtain ⟨file, content, rfl⟩ := hclaimed htrue'
      apply Triple.bind _ recover_removeClaimed
      intro _ _ _
      exact Triple.pure trivial
    · exact Triple.pure trivial
  · exact Triple.pure trivial

end Recover

end Rust

namespace Go

section Recover

variable {accepts : Bytes → Prop} {stage : RecoverStage}

theorem recover_validateMode (windows : Bool) (metadata : Stat) (label : String) (forbidden : Nat)
    (stage : RecoverStage) :
    Triple (recoverProtocol accepts) stage
      (validateLocalPOSIXPrivateMode windows metadata label forbidden)
      (fun stage' _ => stage' = stage) (fun stage' _ => stage' = stage) :=
  recover_guardThat (fun _ => rfl) rfl

theorem recover_readOpenedOwner (windows : Bool) (pathInfo : Stat) (handle : Nat)
    (content : Bytes) :
    Triple (recoverProtocol accepts) (.opened handle content)
      (readOpenedOwner windows pathInfo handle)
      (fun stage owner => stage = .opened handle content ∧ content = owner)
      (fun stage _ => stage = .opened handle content) := by
  apply Triple.bind (fun stage _ => stage = .opened handle content)
  · apply recover_asked
    · trivial
    · intro _ _ hm
      exact hm
    · intro _
      rfl
  intro stage openedInfo hstage
  subst hstage
  apply Triple.bind (fun stage _ => stage = .opened handle content)
  · exact recover_guardThat (fun _ => rfl) rfl
  intro stage _ hstage
  subst hstage
  apply Triple.bind _ (recover_validateMode windows openedInfo _ _ _)
  intro stage _ hstage
  subst hstage
  apply Triple.bind (fun stage _ => stage = .opened handle content)
  · exact recover_guardThat (fun _ => rfl) rfl
  intro stage _ hstage
  subst hstage
  have hbegins : ∃ rest, content = [] ++ rest := ⟨content, rfl⟩
  have hread : Triple (recoverProtocol accepts) (.opened handle content)
      ((readOwnerBytes handle (maxLocalFileLockOwnerUtf8Bytes + 1) []).adapt readFailure)
      (fun stage owner => stage = .opened handle content ∧ (∃ rest, content = owner ++ rest) ∧
        (owner.length ≤ maxLocalFileLockOwnerUtf8Bytes → owner = content))
      (fun stage _ => stage = .opened handle content) :=
    Triple.adapt (triple_readOwnerBytes (recover_readsFile handle content) hbegins (by simp))
  apply Triple.bind _ hread
  intro stage owner hread
  obtain ⟨rfl, _, howner⟩ := hread
  apply Triple.bind (fun stage _ => stage = .opened handle content ∧ content = owner)
  · apply recover_guardThat
    · intro hshort
      exact ⟨rfl, (howner hshort).symm⟩
    · rfl
  intro stage _ hstage
  obtain ⟨rfl, rfl⟩ := hstage
  apply Triple.bind (fun stage _ => stage = .opened handle content)
  · exact recover_guardThat (fun _ => rfl) rfl
  intro stage _ hstage
  exact Triple.pure ⟨hstage, rfl⟩

theorem recover_readBounded (windows : Bool) (hlooking : stage.IsLooking) :
    Triple (recoverProtocol accepts) stage (readBoundedLocalFileLockOwner windows)
      (fun stage' owner => stage'.HasRead fun content => content = owner)
      (fun stage' _ => stage'.IsLooking) := by
  apply Triple.bind (fun stage' _ => stage' = stage)
  · apply recover_asked
    · exact trivial
    · intro _ _ hm
      exact hm
    · intro _
      exact hlooking
  intro stage' pathInfo hstage
  subst hstage
  apply Triple.bind (fun stage'' _ => stage'' = stage')
  · exact recover_guardThat (fun _ => rfl) hlooking
  intro stage'' _ hstage
  subst hstage
  apply Triple.bind (fun stage' _ => stage' = stage'')
  · exact recover_guardThat (fun _ => rfl) hlooking
  intro stage' _ hstage
  subst hstage
  apply Triple.bind (fun stage'' _ => stage'' = stage')
  · exact recover_guardThat (fun _ => rfl) hlooking
  intro stage'' _ hstage
  subst hstage
  apply Triple.bind (fun stage' _ => stage' = stage'')
  · exact recover_guardThat (fun _ => rfl) hlooking
  intro stage' _ hstage
  subst hstage
  apply Triple.bind (fun stage handle => ∃ content, stage = .opened handle content)
  · apply recover_asked
    · exact ⟨rfl, hlooking⟩
    · intro handle stage'' hm
      exact hm
    · intro _
      exact hlooking
  rintro stage'' handle ⟨content, rfl⟩
  apply recover_closing
  apply Triple.mono (recover_readOpenedOwner windows pathInfo handle content)
  · rintro stage owner ⟨rfl, heq⟩
    exact ⟨handle, content, rfl, heq⟩
  · intro stage _ hstage
    exact Or.inr ⟨handle, content, hstage⟩

/-- What an inspection establishes. -/
def Inspected (stage : RecoverStage) (inspection : LocalFileLockInspection) : Prop :=
  stage.IsLooking ∧ (inspection.state = .held →
    stage.HasRead fun content => content = inspection.owner)

theorem Inspected.other {inspection : LocalFileLockInspection} (hlooking : stage.IsLooking)
    (h : inspection.state ≠ .held) : Inspected stage inspection :=
  ⟨hlooking, fun hheld => absurd hheld h⟩

theorem recover_inspectOwner (windows : Bool) (hlooking : stage.IsLooking) :
    Triple (recoverProtocol accepts) stage (inspectOwner windows) Inspected
      (fun stage _ => stage.IsLooking) := by
  apply Triple.bind _ (Triple.attempted (recover_readBounded windows hlooking))
  intro stage' result hresult
  split
  · rename_i owner
    apply Triple.pure
    change stage'.HasRead _ at hresult
    have hlooking' := hresult.isLooking
    unfold classifyOwner
    split
    · exact .other hlooking' (by simp [LocalFileLockInspection.compromised])
    · split
      · exact .other hlooking' (by simp [LocalFileLockInspection.compromised])
      · split
        · exact .other hlooking' (by simp [LocalFileLockInspection.compromised])
        · exact ⟨hlooking', fun _ => hresult⟩
  · split
    · exact Triple.pure (.other hresult (by simp [LocalFileLockInspection.incomplete]))
    · split
      · exact Triple.pure (.other hresult (by simp [LocalFileLockInspection.compromised]))
      · exact Triple.throw hresult

theorem uses_readNames (limit : Nat) : Uses FsOp.IsLooking (readNames limit).run := by
  induction limit with
  | zero => exact Uses.pure _
  | succ more ih =>
    apply Uses.bind (uses_asked (by trivial))
    intro name
    split
    · exact Uses.pure _
    · apply Uses.bind ih
      intro names
      exact Uses.pure _

theorem uses_readEntryNames : Uses FsOp.IsLooking readEntryNames.run := by
  apply Uses.bind (uses_asked (by trivial))
  intro _
  apply Uses.bind (Uses.attempt (uses_readNames 2))
  intro entries
  apply Uses.bind (uses_ask (by trivial))
  intro closed
  split
  · exact Uses.throw _
  · exact Uses.throw _
  · exact Uses.pure _

theorem recover_inspect (windows : Bool) (path : String) (hlooking : stage.IsLooking) :
    Triple (recoverProtocol accepts) stage (inspectLocalFileLock windows path) Inspected
      (fun stage _ => stage.IsLooking) := by
  apply Triple.bind _ (recover_look hlooking (uses_ask (by trivial)))
  intro stage' looked hlooking'
  split
  · split
    · exact Triple.pure (.other hlooking' (by simp [LocalFileLockInspection.absent]))
    · exact Triple.throw hlooking'
  split
  · exact Triple.pure (.other hlooking' (by simp [LocalFileLockInspection.compromised]))
  rename_i info _
  apply Triple.bind _ (recover_look hlooking' (Uses.attempt (uses_guardThat _ _)))
  intro stage'' checked hlooking''
  split
  · exact Triple.pure (.other hlooking'' (by simp [LocalFileLockInspection.compromised]))
  apply Triple.bind _ (recover_look hlooking'' uses_readEntryNames)
  intro stage entries hlooking
  split
  · exact Triple.pure (.other hlooking (by simp [LocalFileLockInspection.incomplete]))
  · exact Triple.pure (.other hlooking (by simp [LocalFileLockInspection.incomplete]))
  · exact Triple.pure (.other hlooking (by simp [LocalFileLockInspection.incomplete]))
  · exact recover_inspectOwner windows hlooking
  · exact Triple.pure (.other hlooking (by simp [LocalFileLockInspection.compromised]))

theorem recover_authorize (windows : Bool) (path : String) (expectedOwner : Bytes)
    (hlooking : stage.IsLooking) :
    Triple (recoverProtocol accepts) stage (authorizeRecovery windows path expectedOwner)
      (fun stage authorized => authorized = true →
        stage.HasRead fun content => content = expectedOwner)
      (fun _ _ => True) := by
  have hinspects : ∀ stage : RecoverStage, stage.IsLooking →
      Triple (recoverProtocol accepts) stage (inspectLocalFileLock windows path) Inspected
        (fun _ _ => True) := by
    intro stage hlooking
    exact Triple.mono (recover_inspect windows path hlooking) (fun _ _ h => h) (fun _ _ _ => trivial)
  apply Triple.bind _ (hinspects stage hlooking)
  intro stage' inspection hinspected
  split
  · exact Triple.pure (fun h => nomatch h)
  · exact Triple.throw trivial
  · exact Triple.throw trivial
  · split
    · exact Triple.throw trivial
    apply Triple.bind _ (hinspects stage' hinspected.1)
    intro stage'' final hfinal
    split
    · exact Triple.throw trivial
    · rename_i hagrees
      rw [not_or, not_not, not_not] at hagrees
      obtain ⟨hheld, rfl⟩ := hagrees
      exact Triple.pure (fun _ => hfinal.2 hheld)

theorem recover_claim (windows : Bool) (path : String) (hread : stage.HasRead accepts) :
    Triple (recoverProtocol accepts) stage (claimRecovery windows path)
      (fun stage claimed => claimed = true →
        ∃ file content, stage = .inside (some ⟨.recovering, file, content⟩))
      (fun _ _ => True) := by
  apply Triple.bind _ (recover_rename hread)
  intro stage' result hresult
  split
  · exact Triple.pure (fun _ => hresult)
  · split
    · apply Triple.bind Inspected
      · exact Triple.mono (recover_inspect windows path hresult) (fun _ _ h => h)
          (fun _ _ _ => trivial)
      intro stage'' after _
      split
      · exact Triple.pure (fun h => nomatch h)
      · exact Triple.pure (fun h => nomatch h)
      · exact Triple.throw trivial
    · split
      · exact Triple.throw trivial
      · exact Triple.throw trivial

/-- After a removal that failed the directory is looked at, and the next attempt is made. -/
theorem recover_removeDirectoryOnce {again : Option (LockM Unit)}
    (hagain : ∀ next, again = some next → Triple (recoverProtocol accepts) (.inside none) next
      (fun _ _ => True) (fun _ _ => True)) :
    Triple (recoverProtocol accepts) (.inside none) (removeRecoveredLockDirectoryOnce again)
      (fun _ _ => True) (fun _ _ => True) := by
  apply Triple.bind (fun stage answer => ∀ error, answer = .error error → stage = .inside none)
  · apply triple_answer (recover_errors accepts)
    · exact rfl
    · intro _ _ _ _ heq
      cases heq
    · intro _ _ _
      rfl
  intro stage answer hanswer
  split
  · exact Triple.pure trivial
  rename_i error
  have hstage := hanswer error rfl
  subst hstage
  have hlook : ∀ {op : FsOp}, op.IsLooking →
      Triple (recoverProtocol accepts) (.inside none) (ask op : LockM (FsAnswer op))
        (fun stage _ => stage = .inside none) (fun _ _ => True) := by
    intro op hop
    apply Triple.mono (recover_uses (uses_ask hop) (.inside none))
    · intro _ _ hstage
      exact hstage
    · intro _ _ _
      trivial
  have hretry : Triple (recoverProtocol accepts) (.inside none) (retryRemoval again error)
      (fun _ _ => True) (fun _ _ => True) := by
    cases again with
    | none => exact Triple.throw trivial
    | some next =>
      apply Triple.bind _ (hlook (by trivial))
      intro stage _ hstage
      subst hstage
      exact hagain next rfl
  apply Triple.bind _ (hlook (by trivial))
  intro stage opened hstage
  subst hstage
  split
  · split
    · exact Triple.pure trivial
    · exact hretry
  · apply Triple.bind _ (hlook (by trivial))
    intro stage names hstage
    subst hstage
    apply Triple.bind _ (hlook (by trivial))
    intro stage _ hstage
    subst hstage
    split
    · exact Triple.throw trivial
    · exact hretry

theorem recover_removeDirectory (retries : Nat) :
    Triple (recoverProtocol accepts) (.inside none) (removeRecoveredLockDirectory retries)
      (fun _ _ => True) (fun _ _ => True) := by
  induction retries with
  | zero => exact recover_removeDirectoryOnce (fun _ h => nomatch h)
  | succ retries ih =>
    apply recover_removeDirectoryOnce
    intro next hnext
    cases hnext
    exact ih

theorem recover_recoverLocalFileLock (windows : Bool) (path : String) (expectedOwner : Bytes)
    (confirmedInactive : Bool) :
    Triple (recoverProtocol fun content => content = expectedOwner) .looking
      (recoverLocalFileLock windows path expectedOwner confirmedInactive)
      (fun _ _ => True) (fun _ _ => True) := by
  unfold recoverLocalFileLock
  split
  · exact Triple.throw trivial
  apply Triple.bind (fun stage _ => stage = .looking)
  · cases validateLocalOwner expectedOwner with
    | ok value => exact rfl
    | error error => exact trivial
  intro stage _ hstage
  subst hstage
  apply Triple.bind _ (recover_authorize windows path expectedOwner (Or.inl rfl))
  intro stage authorized hauthorized
  split
  · rename_i htrue
    apply Triple.bind _ (recover_claim windows path (hauthorized htrue))
    intro stage' claimed hclaimed
    split
    · rename_i htrue'
      obtain ⟨file, content, rfl⟩ := hclaimed htrue'
      apply Triple.bind (fun stage _ => stage = .inside none)
      · apply recover_asked
        · exact ⟨file, content, rfl, rfl⟩
        · intro _ _ hm
          exact hm
        · intro _
          trivial
      intro stage _ hstage
      subst hstage
      apply Triple.bind _ (recover_removeDirectory _)
      intro _ _ _
      exact Triple.pure trivial
    · exact Triple.pure trivial
  · exact Triple.pure trivial

end Recover

end Go

end OresLocks.LocalFile
