import OresLocks.JsErrors
import OresLocks.LocalFile.HolderProtocol
import OresLocks.LocalFile.NativeAcquire

/-!
# The programs of the Rust crate and the Go package as holders

A `String` and a Go string that is UTF-8 stand for the same owner as the JavaScript
string of their scalar values. With that owner the acquisitions and releases keep to
the protocol of a holder.
-/

namespace OresLocks.LocalFile

set_option autoImplicit false

open Shared.Programs JsString

/-- A scalar value is one code unit that is no surrogate, or a pair of surrogates. -/
theorem utf16_cases (c : Char) :
    (∃ u, utf16 c = [u] ∧ isHighSurrogate u = false ∧ isLowSurrogate u = false) ∨
    ∃ u v, utf16 c = [u, v] ∧ isHighSurrogate u = true ∧ isLowSurrogate v = true := by
  have hvalid : c.toNat < 0xd800 ∨ 0xdfff < c.toNat ∧ c.toNat < 0x110000 := c.valid
  unfold utf16
  split
  · rename_i hlt
    have hu : (UInt16.ofNat c.toNat).toNat = c.toNat := UInt16.toNat_ofNat_of_lt' hlt
    refine Or.inl ⟨_, rfl, ?_, ?_⟩
    · rw [← Bool.not_eq_true, high_iff, hu]
      omega
    · rw [← Bool.not_eq_true, low_iff, hu]
      omega
  · rename_i hge
    have hhi : (UInt16.ofNat (0xd800 + (c.toNat - 0x10000) / 0x400)).toNat =
        0xd800 + (c.toNat - 0x10000) / 0x400 :=
      UInt16.toNat_ofNat_of_lt' (by simp [UInt16.size]; omega)
    have hlo : (UInt16.ofNat (0xdc00 + (c.toNat - 0x10000) % 0x400)).toNat =
        0xdc00 + (c.toNat - 0x10000) % 0x400 :=
      UInt16.toNat_ofNat_of_lt' (by simp [UInt16.size]; omega)
    refine Or.inr ⟨_, _, rfl, ?_, ?_⟩
    · rw [high_iff, hhi]
      omega
    · rw [low_iff, hlo]
      omega

theorem hasLoneSurrogate_flatMap (chars : List Char) :
    hasLoneSurrogate (chars.flatMap utf16) = false := by
  induction chars with
  | nil => rfl
  | cons c chars ih =>
    rw [List.flatMap_cons]
    rcases utf16_cases c with ⟨u, hu, hhigh, hlow⟩ | ⟨u, v, huv, hhigh, hlow⟩
    · rw [hu]
      cases hrest : chars.flatMap utf16 with
      | nil => simp [hasLoneSurrogate, hhigh, hlow]
      | cons v rest =>
        rw [hrest] at ih
        simp [hasLoneSurrogate, hhigh, hlow, ih]
    · rw [huv]
      simp [hasLoneSurrogate, hhigh, hlow, ih]

theorem codePoints_flatMap (chars : List Char) :
    codePoints (chars.flatMap utf16) = chars.length := by
  induction chars with
  | nil => rfl
  | cons c chars ih =>
    rw [List.flatMap_cons, List.length_cons, ← ih, Nat.add_comm]
    rcases utf16_cases c with ⟨u, hu, hhigh, hlow⟩ | ⟨u, v, huv, hhigh, hlow⟩
    · rw [hu]
      cases hrest : chars.flatMap utf16 with
      | nil => rfl
      | cons v rest => simp [codePoints, hhigh]
    · rw [huv]
      simp [codePoints, hhigh, hlow]

theorem encode_flatMap (chars : List Char) :
    encode (chars.flatMap utf16) = chars.flatMap String.utf8EncodeChar := by
  induction chars with
  | nil => rfl
  | cons c chars ih =>
    rw [List.flatMap_cons, List.flatMap_cons, ← ih]
    exact Ts.encode_char c (chars.flatMap utf16)

theorem flatMap_utf16_ne_nil {chars : List Char} (h : chars ≠ []) : chars.flatMap utf16 ≠ [] := by
  intro hnil
  have hlength := codePoints_flatMap chars
  rw [hnil] at hlength
  exact h (List.length_eq_zero_iff.mp hlength.symm)

/-- All runtimes accept the same owners. -/
theorem validateLocalFileLockOwner_flatMap {chars : List Char} (hne : chars ≠ [])
    (hlength : chars.length ≤ maxLocalFileLockOwnerCodepoints) :
    validateLocalFileLockOwner (chars.flatMap utf16) = .ok () := by
  unfold validateLocalFileLockOwner
  rw [if_neg (flatMap_utf16_ne_nil hne), hasLoneSurrogate_flatMap, codePoints_flatMap]
  simp only [Bool.false_eq_true, if_false]
  rw [if_neg (by omega)]

section Rules

variable {text : JsString} {stage : HolderStage} {α : Type}

theorem uses_ask {ε : Type} {allowed : FsOp → Prop} {op : FsOp} (h : allowed op) :
    Uses allowed (ask op : ExceptT ε FsProg (FsAnswer op)).run := ⟨h, fun _ => trivial⟩

theorem uses_asked {allowed : FsOp → Prop} {op : FsOp} {wrap : FsError → LocalFileLockError}
    (h : allowed op) : Uses allowed (asked op wrap).run := by
  apply Uses.bind (uses_ask h)
  intro answer
  cases answer with
  | ok value => exact Uses.pure _
  | error error => exact Uses.throw _

theorem uses_guardThat {allowed : FsOp → Prop} (p : Prop) [Decidable p]
    (error : LocalFileLockError) : Uses allowed (guardThat p error).run := by
  unfold guardThat
  split
  · exact Uses.pure _
  · exact Uses.throw _

theorem uses_closing {allowed : FsOp → Prop} {handle : Nat} {x : LockM α}
    (hclose : allowed (.close handle)) (h : Uses allowed x.run) :
    Uses allowed (closing handle x).run := by
  apply Uses.bind (Uses.attempt h)
  intro outcome
  apply Uses.bind (uses_ask hclose)
  intro answer
  cases outcome with
  | ok value => trivial
  | error error => trivial

theorem Uses.adapt {ε ε' : Type} {allowed : FsOp → Prop} {x : ExceptT ε FsProg α} {f : ε → ε'}
    (h : Uses allowed x.run) : Uses allowed (x.adapt f).run := by
  apply Uses.bindProg h
  intro result
  cases result with
  | ok value => trivial
  | error error => trivial

/-- A program of the other runtimes that only looks leaves a holder where it is. -/
theorem holder_looks {ε : Type} {x : ExceptT ε FsProg α} (h : Uses FsOp.IsReading x.run)
    (stage : HolderStage) :
    Triple (holderProtocol text) stage x (fun stage' _ => stage' = stage)
      (fun stage' _ => stage' = stage) := by
  apply Uses.triple (I := fun stage' => stage' = stage) h
  · intro stage' op hstage hop
    subst hstage
    exact holder_reading text stage' op hop
  · rfl

/-- One call whose answer is looked at. -/
theorem triple_answer {Stage : Type} {P : Protocol FsOp FsAnswer Stage} (hstay : ErrorsStay P)
    {stage : Stage} {ε : Type} {op : FsOp} {ok : Stage → FsAnswer op → Prop}
    {err : Stage → ε → Prop} (hallows : P.allows stage op)
    (hok : ∀ value stage', P.moves stage op (.ok value) stage' → ok stage' (.ok value))
    (herr : ∀ error, ok stage (.error error)) :
    Triple P stage (ask op : ExceptT ε FsProg (FsAnswer op)) ok err := by
  apply Triple.lift
  refine ⟨hallows, ?_⟩
  intro answer stage' hm
  cases answer with
  | ok value => exact hok value stage' hm
  | error error =>
    have hstage := hstay stage op error stage' hm
    subst hstage
    exact herr error

theorem holder_ask {ε : Type} {op : FsOp} {ok : HolderStage → FsAnswer op → Prop}
    {err : HolderStage → ε → Prop} (hallows : (holderProtocol text).allows stage op)
    (hok : ∀ value stage', (holderProtocol text).moves stage op (.ok value) stage' →
      ok stage' (.ok value))
    (herr : ∀ error, ok stage (.error error)) :
    Triple (holderProtocol text) stage (ask op : ExceptT ε FsProg (FsAnswer op)) ok err :=
  triple_answer (holder_errors text) hallows hok herr

/-- A cleanup whose answer is ignored stays inside. -/
theorem holder_cleanup_unlink {ε : Type} {err : HolderStage → ε → Prop} (name : Name)
    (hinside : ∃ marker, stage = .inside marker) :
    Triple (holderProtocol text) stage
      (ask (.unlink name) : ExceptT ε FsProg (FsAnswer (.unlink name)))
      (fun stage' _ => ∃ marker, stage' = .inside marker) err := by
  apply holder_ask
  · exact hinside
  · intro _ stage' hm
    obtain ⟨_, _, _, hstage'⟩ := hm
    exact ⟨none, hstage'⟩
  · intro _
    exact hinside

theorem holder_cleanup_rmdir {ε : Type} {err : HolderStage → ε → Prop}
    (hinside : ∃ marker, stage = .inside marker) :
    Triple (holderProtocol text) stage (ask .rmdir : ExceptT ε FsProg (FsAnswer .rmdir))
      (fun _ _ => True) err := by
  apply holder_ask
  · exact hinside
  · intro _ _ _
    trivial
  · intro _
    trivial

/-- Closing the marker leaves a holder where it is. -/
theorem holder_close {ε : Type} {handle : Nat} {err : HolderStage → ε → Prop} :
    Triple (holderProtocol text) stage
      (ask (.close handle) : ExceptT ε FsProg (FsAnswer (.close handle)))
      (fun stage' _ => stage' = stage) err := by
  apply holder_ask
  · exact Or.inl trivial
  · intro _ stage' hm
    exact hm
  · intro _
    rfl

/-- What both do when a publication fails. -/
theorem holder_withdrawal {error : LocalFileLockError} {ok : HolderStage → α → Prop}
    (hinside : ∃ marker, stage = .inside marker) :
    Triple (holderProtocol text) stage
      (do
        let _ ← ask (.unlink .pending)
        let _ ← ask .rmdir
        throw error : LockM α)
      ok (fun _ _ => True) := by
  apply Triple.bind (fun stage' _ => ∃ marker, stage' = .inside marker)
  · exact holder_cleanup_unlink .pending hinside
  intro stage' _ hinside
  apply Triple.bind (fun _ _ => True) (holder_cleanup_rmdir hinside)
  intro _ _ _
  exact Triple.throw trivial

/-- The rename of the written marker, and what follows it. -/
theorem holder_rename {ε : Type} {handle : Nat} {err : HolderStage → ε → Prop} :
    Triple (holderProtocol text) (.inside (some ⟨.pending, handle, encode text⟩))
      (ask (.rename .pending .owner) : ExceptT ε FsProg (FsAnswer (.rename .pending .owner)))
      (fun stage' answer =>
        match answer with
        | .ok _ => ∃ file, stage' = published text file
        | .error _ => ∃ marker, stage' = .inside marker) err := by
  apply holder_ask
  · exact ⟨rfl, rfl, handle, rfl⟩
  · intro _ stage' hm
    obtain ⟨file, content, hstage, hstage'⟩ := hm
    cases hstage
    exact ⟨handle, hstage'⟩
  · intro _
    exact ⟨_, rfl⟩

/-- The write of the owner into the pending marker. -/
theorem holder_write {ε : Type} {handle : Nat} {bytes : Bytes} {err : HolderStage → ε → Prop}
    (hbytes : bytes = encode text) :
    Triple (holderProtocol text) (.inside (some ⟨.pending, handle, []⟩))
      (ask (.write handle bytes) : ExceptT ε FsProg (FsAnswer (.write handle bytes)))
      (fun stage' answer =>
        match answer with
        | .ok _ => stage' = .inside (some ⟨.pending, handle, encode text⟩)
        | .error _ => ∃ marker, stage' = .inside marker) err := by
  apply holder_ask
  · exact ⟨hbytes, rfl⟩
  · intro _ stage' hm
    rw [← hbytes]
    exact hm
  · intro _
    exact ⟨_, rfl⟩

theorem holder_openPending {ε : Type} {err : HolderStage → ε → Prop} :
    Triple (holderProtocol text) (.inside none)
      (ask (.openExclusive .pending) : ExceptT ε FsProg (FsAnswer (.openExclusive .pending)))
      (fun stage' answer =>
        match answer with
        | .ok handle => stage' = .inside (some ⟨.pending, handle, []⟩)
        | .error _ => ∃ marker, stage' = .inside marker) err := by
  apply holder_ask
  · exact ⟨rfl, rfl⟩
  · intro _ stage' hm
    exact hm
  · intro _
    exact ⟨none, rfl⟩

theorem holder_mkdirAsked {ε : Type} {err : HolderStage → ε → Prop}
    (hvalid : validateLocalFileLockOwner text = .ok ()) :
    Triple (holderProtocol text) .outside (ask .mkdir : ExceptT ε FsProg (FsAnswer .mkdir))
      (fun stage' answer =>
        match answer with
        | .ok _ => stage' = .inside none
        | .error _ => stage' = .outside) err := by
  apply holder_ask
  · exact ⟨rfl, hvalid⟩
  · intro _ stage' hm
    exact hm
  · intro _
    rfl

end Rules

namespace Rust

theorem uses_prepareParent : Uses FsOp.IsReading prepareParent.run := by
  apply Uses.bind (uses_asked (Or.inl (by trivial)))
  intro _
  apply Uses.bind (uses_asked (Or.inl (by trivial)))
  intro metadata
  exact uses_guardThat _ _

theorem uses_validatePrivateLockDirectory (windows : Bool) :
    Uses FsOp.IsReading (validatePrivateLockDirectory windows).run := by
  unfold validatePrivateLockDirectory
  split
  · exact Uses.pure _
  · apply Uses.bind (uses_asked (Or.inl (by trivial)))
    intro metadata
    exact uses_guardThat _ _

section Acquire

variable {text : JsString}

theorem holder_createLockDirectory (hvalid : validateLocalFileLockOwner text = .ok ())
    (attempts : Nat) :
    Triple (holderProtocol text) .outside (createLockDirectory attempts)
      (fun stage created => stage = if created then .inside none else .outside)
      (fun _ _ => True) := by
  induction attempts with
  | zero => exact Triple.pure rfl
  | succ attempts ih =>
    apply Triple.bind _ (holder_mkdirAsked hvalid)
    intro stage answer hanswer
    cases answer with
    | ok value => exact Triple.pure hanswer
    | error error =>
      change stage = .outside at hanswer
      subst hanswer
      dsimp only
      split
      · apply Triple.bind (fun stage _ => stage = .outside)
        · apply Triple.mono (holder_looks (uses_ask (Or.inl (by trivial))) _)
          · intro _ _ hstage
            exact hstage
          · intro _ _ _
            trivial
        intro stage answer hstage
        subst hstage
        cases answer with
        | ok metadata =>
          dsimp only
          split
          · exact Triple.pure rfl
          · exact Triple.throw trivial
        | error inspectError =>
          dsimp only
          split
          · exact ih
          · exact Triple.throw trivial
      · exact Triple.throw trivial

theorem holder_renameOwner {handle : Nat} :
    Triple (holderProtocol text) (.inside (some ⟨.pending, handle, encode text⟩)) renameOwner
      (fun stage _ => ∃ file, stage = published text file) (fun _ _ => True) := by
  apply Triple.bind (fun stage _ => stage = .inside (some ⟨.pending, handle, encode text⟩))
  · apply Triple.mono (holder_looks (uses_ask (Or.inl (by trivial))) _)
    · intro _ _ hstage
      exact hstage
    · intro _ _ _
      trivial
  intro stage answer hstage
  subst hstage
  cases answer with
  | ok metadata => exact holder_withdrawal ⟨_, rfl⟩
  | error error =>
    dsimp only
    split
    · apply Triple.bind _ holder_rename
      intro stage answer hanswer
      cases answer with
      | ok value => exact Triple.pure hanswer
      | error error => exact holder_withdrawal hanswer
    · exact holder_withdrawal ⟨_, rfl⟩

theorem holder_writeOwner {owner : String} (howner : Shared.Utf8.utf8 owner = encode text)
    {handle : Nat} :
    Triple (holderProtocol text) (.inside (some ⟨.pending, handle, []⟩)) (writeOwner owner handle)
      (fun stage _ => ∃ file, stage = published text file) (fun _ _ => True) := by
  apply Triple.bind _ (holder_write howner)
  intro stage answer hanswer
  cases answer with
  | error error =>
    apply Triple.bind _ holder_close
    intro stage' _ hstage
    subst hstage
    exact holder_withdrawal hanswer
  | ok value =>
    change stage = _ at hanswer
    subst hanswer
    apply Triple.bind (fun stage _ => stage = .inside (some ⟨.pending, handle, encode text⟩))
    · apply Triple.mono (holder_looks (uses_ask (Or.inl (by trivial))) _)
      · intro _ _ hstage
        exact hstage
      · intro _ _ _
        trivial
    intro stage answer hstage
    subst hstage
    cases answer with
    | error error =>
      apply Triple.bind _ holder_close
      intro stage' _ hstage
      subst hstage
      exact holder_withdrawal ⟨_, rfl⟩
    | ok value =>
      apply Triple.bind _ holder_close
      intro stage' _ hstage
      subst hstage
      exact holder_renameOwner

theorem holder_publishOwner {owner : String} (howner : Shared.Utf8.utf8 owner = encode text) :
    Triple (holderProtocol text) (.inside none) (publishOwner owner)
      (fun stage _ => ∃ file, stage = published text file) (fun _ _ => True) := by
  apply Triple.bind _ holder_openPending
  intro stage answer hanswer
  cases answer with
  | error error =>
    apply Triple.bind (fun _ _ => True) (holder_cleanup_rmdir hanswer)
    intro _ _ _
    exact Triple.throw trivial
  | ok handle =>
    change stage = _ at hanswer
    subst hanswer
    exact holder_writeOwner howner

end Acquire

/-- The owner as the marker's text. -/
def text (owner : String) : JsString := owner.toList.flatMap utf16

theorem validate_text {owner : String} (h : validateLocalFileOwner owner = .ok ()) :
    validateLocalFileLockOwner (text owner) = .ok () := by
  unfold validateLocalFileOwner at h
  split at h
  · cases h
  · rename_i hne
    split at h
    · cases h
    · rename_i hlength
      apply validateLocalFileLockOwner_flatMap
      · intro hnil
        exact hne (by rw [String.isEmpty_iff, ← String.toList_eq_nil_iff, hnil])
      · omega

theorem holder_tryAcquire (windows : Bool) (owner : String) :
    Triple (holderProtocol (text owner)) .outside (tryAcquire windows owner)
      (fun stage result => ∀ lock, result = some lock →
        lock = ⟨owner, false, none⟩ ∧ ∃ file, stage = published (text owner) file)
      (fun _ _ => True) := by
  apply Triple.bind (fun stage _ => stage = .outside ∧ validateLocalFileOwner owner = .ok ())
  · cases hvalid : validateLocalFileOwner owner with
    | ok value => exact ⟨rfl, rfl⟩
    | error error => exact trivial
  intro stage _ hstage
  obtain ⟨rfl, hvalid⟩ := hstage
  apply Triple.bind (fun stage _ => stage = .outside)
  · apply Triple.mono (holder_looks uses_prepareParent _)
    · intro _ _ hstage
      exact hstage
    · intro _ _ _
      trivial
  intro stage _ hstage
  subst hstage
  apply Triple.bind _ (holder_createLockDirectory (validate_text hvalid) 2)
  intro stage created hcreated
  cases created with
  | false =>
    apply Triple.pure
    intro lock hlock
    cases hlock
  | true =>
    change stage = .inside none at hcreated
    subst hcreated
    apply Triple.bind (fun stage _ => stage = .inside none)
    · apply Triple.mono (holder_looks (uses_validatePrivateLockDirectory windows) _)
      · intro _ _ hstage
        exact hstage
      · intro _ _ _
        trivial
    intro stage _ hstage
    subst hstage
    apply Triple.bind _ (holder_publishOwner (encode_flatMap owner.toList).symm)
    intro stage _ hpublished
    apply Triple.pure
    intro lock hlock
    cases hlock
    exact ⟨rfl, hpublished⟩

end Rust

namespace Go

theorem uses_validateLocalPOSIXPrivateMode (windows : Bool) (metadata : Stat) (label : String)
    (forbidden : Nat) :
    Uses FsOp.IsReading (validateLocalPOSIXPrivateMode windows metadata label forbidden).run :=
  uses_guardThat _ _

theorem uses_prepareParent (windows : Bool) : Uses FsOp.IsReading (prepareParent windows).run := by
  apply Uses.bind (uses_asked (Or.inl (by trivial)))
  intro _
  apply Uses.bind (uses_asked (Or.inl (by trivial)))
  intro info
  apply Uses.bind (uses_guardThat _ _)
  intro _
  exact uses_validateLocalPOSIXPrivateMode windows info _ _

section Acquire

variable {text : JsString}

theorem holder_createLockDirectory (hvalid : validateLocalFileLockOwner text = .ok ())
    (windows : Bool) (attempts : Nat) :
    Triple (holderProtocol text) .outside (createLockDirectory windows attempts)
      (fun stage created => stage = if created then .inside none else .outside)
      (fun _ _ => True) := by
  induction attempts with
  | zero => exact Triple.pure rfl
  | succ attempts ih =>
    apply Triple.bind _ (holder_mkdirAsked hvalid)
    intro stage answer hanswer
    cases answer with
    | ok value => exact Triple.pure hanswer
    | error mkdirErr =>
      change stage = .outside at hanswer
      subst hanswer
      dsimp only
      split
      · apply Triple.bind (fun stage _ => stage = .outside)
        · apply Triple.mono (holder_looks (uses_ask (Or.inl (by trivial))) _)
          · intro _ _ hstage
            exact hstage
          · intro _ _ _
            trivial
        intro stage answer hstage
        subst hstage
        cases answer with
        | ok info =>
          dsimp only
          split
          · apply Triple.bind (fun stage _ => stage = .outside)
            · apply Triple.mono
                (holder_looks (uses_validateLocalPOSIXPrivateMode windows info _ _) _)
              · intro _ _ hstage
                exact hstage
              · intro _ _ _
                trivial
            intro stage _ hstage
            exact Triple.pure hstage
          · exact Triple.throw trivial
        | error inspectErr =>
          dsimp only
          split
          · exact ih
          · exact Triple.throw trivial
      · exact Triple.throw trivial

theorem holder_renameOwner {handle : Nat} :
    Triple (holderProtocol text) (.inside (some ⟨.pending, handle, encode text⟩)) renameOwner
      (fun stage _ => ∃ file, stage = published text file) (fun _ _ => True) := by
  apply Triple.bind (fun stage _ => stage = .inside (some ⟨.pending, handle, encode text⟩))
  · apply Triple.mono (holder_looks (uses_ask (Or.inl (by trivial))) _)
    · intro _ _ hstage
      exact hstage
    · intro _ _ _
      trivial
  intro stage answer hstage
  subst hstage
  cases answer with
  | ok info => exact holder_withdrawal ⟨_, rfl⟩
  | error statErr =>
    dsimp only
    split
    · apply Triple.bind _ holder_rename
      intro stage answer hanswer
      cases answer with
      | ok value => exact Triple.pure hanswer
      | error renameErr => exact holder_withdrawal hanswer
    · exact holder_withdrawal ⟨_, rfl⟩

/-- The file is synced and closed in any case before the first of the errors counts. -/
theorem holder_writeOwner {owner : Bytes} (howner : owner = encode text) {handle : Nat} :
    Triple (holderProtocol text) (.inside (some ⟨.pending, handle, []⟩)) (writeOwner owner handle)
      (fun stage _ => ∃ file, stage = published text file) (fun _ _ => True) := by
  apply Triple.bind _ (holder_write howner)
  intro stage answer hanswer
  cases answer with
  | error writeErr =>
    apply Triple.bind _ holder_close
    intro stage' _ hstage
    subst hstage
    exact holder_withdrawal hanswer
  | ok value =>
    change stage = _ at hanswer
    subst hanswer
    apply Triple.bind (fun stage _ => stage = .inside (some ⟨.pending, handle, encode text⟩))
    · apply Triple.mono (holder_looks (uses_ask (Or.inl (by trivial))) _)
      · intro _ _ hstage
        exact hstage
      · intro _ _ _
        trivial
    intro stage synced hstage
    subst hstage
    apply Triple.bind _ holder_close
    intro stage closed hstage
    subst hstage
    cases synced with
    | error syncErr => exact holder_withdrawal ⟨_, rfl⟩
    | ok value =>
      cases closed with
      | error closeErr => exact holder_withdrawal ⟨_, rfl⟩
      | ok value => exact holder_renameOwner

theorem holder_publishOwner {owner : Bytes} (howner : owner = encode text) :
    Triple (holderProtocol text) (.inside none) (publishOwner owner)
      (fun stage _ => ∃ file, stage = published text file) (fun _ _ => True) := by
  apply Triple.bind _ holder_openPending
  intro stage answer hanswer
  cases answer with
  | error openErr =>
    apply Triple.bind (fun _ _ => True) (holder_cleanup_rmdir hanswer)
    intro _ _ _
    exact Triple.throw trivial
  | ok handle =>
    change stage = _ at hanswer
    subst hanswer
    exact holder_writeOwner howner

end Acquire

/-- The owner as the marker's text. Bytes that are not UTF-8 never reach a marker. -/
def text (owner : Bytes) : JsString := ((Shared.Utf8.decode owner).getD []).flatMap utf16

theorem validate_text {owner : Bytes} (h : validateLocalOwner owner = .ok ()) :
    validateLocalFileLockOwner (text owner) = .ok () ∧ owner = encode (text owner) := by
  unfold validateLocalOwner at h
  split at h
  · cases h
  · rename_i hne
    split at h
    · cases h
    · rename_i runes hrunes
      have htext : text owner = runes.flatMap utf16 := by rw [text, hrunes, Option.getD_some]
      have hbytes := Shared.Utf8.encode_of_decode hrunes
      rw [htext, encode_flatMap]
      split at h
      · cases h
      · rename_i hlength
        refine ⟨validateLocalFileLockOwner_flatMap ?_ (by omega), hbytes.symm⟩
        intro hnil
        rw [hnil] at hbytes
        exact hne hbytes.symm

theorem holder_tryAcquireLocalFileLock (windows : Bool) (owner : Bytes) :
    Triple (holderProtocol (text owner)) .outside (tryAcquireLocalFileLock windows owner)
      (fun stage result => ∀ lock, result = some lock →
        lock = ⟨owner, false, none⟩ ∧ ∃ file, stage = published (text owner) file)
      (fun _ _ => True) := by
  apply Triple.bind (fun stage _ => stage = .outside ∧ validateLocalOwner owner = .ok ())
  · cases hvalid : validateLocalOwner owner with
    | ok value => exact ⟨rfl, rfl⟩
    | error error => exact trivial
  intro stage _ hstage
  obtain ⟨rfl, hvalid⟩ := hstage
  obtain ⟨htext, hbytes⟩ := validate_text hvalid
  apply Triple.bind (fun stage _ => stage = .outside)
  · apply Triple.mono (holder_looks (uses_prepareParent windows) _)
    · intro _ _ hstage
      exact hstage
    · intro _ _ _
      trivial
  intro stage _ hstage
  subst hstage
  apply Triple.bind _ (holder_createLockDirectory htext windows 2)
  intro stage created hcreated
  cases created with
  | false =>
    apply Triple.pure
    intro lock hlock
    cases hlock
  | true =>
    change stage = .inside none at hcreated
    subst hcreated
    apply Triple.bind _ (holder_publishOwner hbytes)
    intro stage _ hpublished
    apply Triple.pure
    intro lock hlock
    cases hlock
    exact ⟨rfl, hpublished⟩

end Go

end OresLocks.LocalFile
