import OresLocks.LocalFile.HolderSteps
import OresLocks.LocalFile.System

/-!
# The invariant of the calls on a lock path that nobody recovers

Every thread follows the protocol of a holder from a stage that describes the lock path,
and every effect is on something its own call made.
-/

namespace OresLocks.LocalFile

set_option autoImplicit false

open Shared.Programs JsString

/-- The handle's own release has removed the owner marker. -/
def OwnerRemoved (fs : Fs) (call : Call) : Prop :=
  ∃ e ∈ fs.trace, e.call = call ∧ e.removal = .unlinked .owner

theorem OwnerRemoved.later {fs fs' : Fs} {call : Call} {new : List Effect}
    (htrace : fs'.trace = fs.trace ++ new) (h : OwnerRemoved fs call) : OwnerRemoved fs' call := by
  obtain ⟨e, he, hremoved⟩ := h
  refine ⟨e, ?_, hremoved⟩
  rw [htrace]
  exact List.mem_append_left new he

/-- The release in flight, or the handle between two releases. -/
def ReleaseAt (lock : LocalFileLock) (stage : HolderStage) : Prop :=
  match lock.releasePromise with
  | some program => Follows (holderProtocol lock.owner) (Released lock.owner) stage program
  | none => lock.releaseState = .held → ∃ file, stage = published lock.owner file

/-- What the filesystem says about a call that is no recovery. -/
def HolderThread (fs : Fs) (call : Call) : Thread → Prop
  | .idle => NotTenant fs call
  | .acquiring owner program => ∃ stage, HolderAt fs owner call stage ∧
      Follows (holderProtocol owner) (Ends (Acquired owner) fun _ _ => True) stage program
  | .refused owner _ => ∃ stage, HolderAt fs owner call stage
  | .holding lock => ∃ stage, HolderAt fs lock.owner call stage ∧ ReleaseAt lock stage ∧
      ((∃ file, stage = published lock.owner file) ∨ OwnerRemoved fs call)
  | _ => False

structure Inv (s : System) : Prop where
  threads : ∀ call, HolderThread s.fs call (s.threads call)
  effects : ∀ e ∈ s.fs.trace, e.creator = some e.call

theorem inv_initial {s : System} (h : s.Initial) : Inv s where
  threads call := by
    rw [h.threads]
    intro node hnode
    rw [(h.foreign node hnode).2]
    exact (Option.some_ne_none call).symm
  effects e he := by
    rw [h.trace] at he
    cases he

theorem HolderThread.frame {fs fs' : Fs} {actor call : Call} {new : List Effect} {thread : Thread}
    (hf : Frame actor none fs fs') (hne : call ≠ actor) (htrace : fs'.trace = fs.trace ++ new)
    (h : HolderThread fs call thread) : HolderThread fs' call thread := by
  have hvictim : some call ≠ (none : Option Call) := Option.some_ne_none call
  cases thread with
  | idle => exact hf.notTenant call hne h
  | acquiring owner program =>
    obtain ⟨stage, hat, hfollows⟩ := h
    exact ⟨stage, hat.frame hf hne hvictim, hfollows⟩
  | refused owner result =>
    obtain ⟨stage, hat⟩ := h
    exact ⟨stage, hat.frame hf hne hvictim⟩
  | holding lock =>
    obtain ⟨stage, hat, hrelease, hmarker⟩ := h
    exact ⟨stage, hat.frame hf hne hvictim, hrelease, hmarker.imp_right (·.later htrace)⟩
  | recovering expected program => exact h.elim
  | recovered expected result => exact h.elim

section Advance

variable {s : System}

/-- One thread moves with its filesystem step, and everyone else stays. -/
theorem Inv.advanced (h : Inv s) {call : Call} {thread : Thread} {fs' : Fs} {new : List Effect}
    (hframe : Frame call none s.fs fs') (hholder : HolderThread fs' call thread)
    (htrace : fs'.trace = s.fs.trace ++ new)
    (hnew : ∀ e ∈ new, e.call = call ∧ e.creator = some call) :
    Inv { s.setThread call thread with fs := fs' } where
  threads c := by
    change HolderThread fs' c (if c = call then thread else s.threads c)
    split
    · rename_i hc
      subst hc
      exact hholder
    · rename_i hc
      exact (h.threads c).frame hframe hc htrace
  effects e he := by
    change e ∈ fs'.trace at he
    rw [htrace] at he
    rcases List.mem_append.mp he with hold | hadded
    · exact h.effects e hold
    · obtain ⟨hcall, hcreator⟩ := hnew e hadded
      rw [hcreator, hcall]

/-- One thread moves without a filesystem step. -/
theorem Inv.started (h : Inv s) {call : Call} {thread : Thread}
    (hholder : HolderThread s.fs call thread) : Inv (s.setThread call thread) := by
  have hsame : Frame call none s.fs s.fs := (SameLock.refl call s.fs).frame
  exact h.advanced hsame hholder (List.append_nil _).symm (fun _ he => nomatch he)

/-- The pending step happens, or it fails without effect. -/
inductive Outcome where
  | performed (choice : Choice)
  | failed (error : FsError)

def Outcome.run (fs : Fs) (call : Call) : Outcome → (op : FsOp) → FsAnswer op × Fs
  | .performed choice => fs.perform call choice
  | .failed error => fun _ => (.error error, fs)

theorem holder_answered {fs : Fs} {call : Call} (outcome : Outcome) {owner : JsString}
    {stage : HolderStage} {op : FsOp} (h : HolderAt fs owner call stage)
    (hallows : (holderProtocol owner).allows stage op) :
    ∃ stage', (holderProtocol owner).moves stage op (outcome.run fs call op).1 stage' ∧
      HolderStep owner call stage stage' fs (outcome.run fs call op).2 := by
  cases outcome with
  | performed choice => exact holder_step h hallows choice
  | failed error =>
    refine ⟨stage, ?_, .stay h (.refl call fs)⟩
    cases op <;> exact rfl

/-- Every effect of a holder's step is on what its call made. -/
theorem HolderStep.own {text : JsString} {call : Call} {stage stage' : HolderStage} {fs fs' : Fs}
    (h : HolderStep text call stage stage' fs fs') :
    ∃ new, fs'.trace = fs.trace ++ new ∧ ∀ e ∈ new, e.call = call ∧ e.creator = some call ∧
      e.removal ≠ .renamed .owner .recovering := by
  obtain ⟨new, htrace, hnew, _⟩ := h.effects
  exact ⟨new, htrace, hnew⟩

/-- The stage of a holder after its step, with what the step did to the marker. -/
theorem marker_after {fs fs' : Fs} {call : Call} {text : JsString} {stage stage' : HolderStage}
    (hstep : HolderStep text call stage stage' fs fs')
    (hmarker : (∃ file, stage = published text file) ∨ OwnerRemoved fs call) :
    (∃ file, stage' = published text file) ∨ OwnerRemoved fs' call := by
  obtain ⟨new, htrace, hnew, hpublished⟩ := hstep.effects
  rcases hmarker with hbefore | hremoved
  · rcases hpublished hbefore with hafter | ⟨e, he, hremoved⟩
    · exact Or.inl hafter
    · refine Or.inr ⟨e, ?_, (hnew e he).1, hremoved⟩
      rw [htrace]
      exact List.mem_append_right _ he
  · exact Or.inr (hremoved.later htrace)

theorem settleAcquire_holder {fs : Fs} {call : Call} {owner : JsString} {stage : HolderStage}
    {program : FsProg (Except Failure (Option LocalFileLock))} (hat : HolderAt fs owner call stage)
    (hfollows : Follows (holderProtocol owner) (Ends (Acquired owner) fun _ _ => True) stage
      program) :
    HolderThread fs call (settleAcquire owner program) := by
  cases program with
  | call op next => exact ⟨stage, hat, hfollows⟩
  | done result =>
    cases result with
    | error error => exact ⟨stage, hat⟩
    | ok value =>
      cases value with
      | none => exact ⟨stage, hat⟩
      | some lock =>
        obtain ⟨rfl, hpromise, hpublished⟩ := hfollows
        refine ⟨stage, hat, ?_, Or.inl hpublished⟩
        unfold ReleaseAt
        rw [hpromise]
        exact fun _ => hpublished

theorem settleRelease_holder {fs : Fs} {call : Call} {lock : LocalFileLock} {stage : HolderStage}
    {program : FsProg (ReleaseState × Except Failure Unit)}
    (hat : HolderAt fs lock.owner call stage)
    (hfollows : Follows (holderProtocol lock.owner) (Released lock.owner) stage program)
    (hmarker : (∃ file, stage = published lock.owner file) ∨ OwnerRemoved fs call) :
    HolderThread fs call (.holding (lock.settleRelease program)) := by
  cases program with
  | call op next => exact ⟨stage, hat, hfollows, hmarker⟩
  | done result => exact ⟨stage, hat, hfollows, hmarker⟩

theorem Inv.advance_acquire (h : Inv s) {call : Call} (outcome : Outcome) {owner : JsString} {op : FsOp}
    {next : FsAnswer op → FsProg (Except Failure (Option LocalFileLock))}
    (hthread : s.threads call = .acquiring owner (.call op next)) :
    Inv { s.setThread call (settleAcquire owner (next (outcome.run s.fs call op).1)) with
      fs := (outcome.run s.fs call op).2 } := by
  have hholder := h.threads call
  rw [hthread] at hholder
  obtain ⟨stage, hat, hallows, hnext⟩ := hholder
  obtain ⟨stage', hmoves, hstep⟩ := holder_answered outcome hat hallows
  obtain ⟨new, htrace, hnew⟩ := hstep.own
  apply h.advanced hstep.frame _ htrace (fun e he => ⟨(hnew e he).1, (hnew e he).2.1⟩)
  exact settleAcquire_holder hstep.after (hnext _ stage' hmoves)

theorem Inv.advance_release (h : Inv s) {call : Call} (outcome : Outcome) {lock : LocalFileLock} {op : FsOp}
    {next : FsAnswer op → FsProg (ReleaseState × Except Failure Unit)}
    (hthread : s.threads call = .holding lock) (hpromise : lock.releasePromise = some (.call op next)) :
    Inv { s.setThread call
        (.holding (lock.settleRelease (next (outcome.run s.fs call op).1))) with
      fs := (outcome.run s.fs call op).2 } := by
  have hholder := h.threads call
  rw [hthread] at hholder
  obtain ⟨stage, hat, hrelease, hmarker⟩ := hholder
  unfold ReleaseAt at hrelease
  rw [hpromise] at hrelease
  obtain ⟨hallows, hnext⟩ := hrelease
  obtain ⟨stage', hmoves, hstep⟩ := holder_answered outcome hat hallows
  obtain ⟨new, htrace, hnew⟩ := hstep.own
  apply h.advanced hstep.frame _ htrace (fun e he => ⟨(hnew e he).1, (hnew e he).2.1⟩)
  exact settleRelease_holder hstep.after (hnext _ stage' hmoves) (marker_after hstep hmarker)

/-- A pending step of any call is answered. -/
theorem Inv.advance (h : Inv s) {t : System} {call : Call} (outcome : Outcome)
    (hstep : s.advance call (outcome.run s.fs call) = some t) : Inv t := by
  have hholder := h.threads call
  unfold System.advance at hstep
  split at hstep
  · cases hstep
  cases hthread : s.threads call with
  | idle =>
    rw [hthread] at hstep
    cases hstep
  | refused owner result =>
    rw [hthread] at hstep
    cases hstep
  | recovered expected result =>
    rw [hthread] at hholder
    exact hholder.elim
  | recovering expected program =>
    rw [hthread] at hholder
    exact hholder.elim
  | acquiring owner program =>
    cases program with
    | done result =>
      rw [hthread] at hstep
      cases hstep
    | call op next =>
      rw [hthread] at hstep
      cases hstep
      exact h.advance_acquire outcome hthread
  | holding lock =>
    rw [hthread] at hstep
    cases hpromise : lock.releasePromise with
    | none =>
      simp only [Thread.advance, hpromise] at hstep
      cases hstep
    | some program =>
      cases program with
      | done result =>
        simp only [Thread.advance, hpromise] at hstep
        cases hstep
      | call op next =>
        simp only [Thread.advance, hpromise] at hstep
        cases hstep
        exact h.advance_release outcome hthread hpromise

end Advance

section Starts

variable {s : System} {call : Call}

theorem Inv.start_acquire (h : Inv s) (win32 : Bool) (owner : JsString)
    (hidle : s.threads call = .idle) :
    Inv (s.setThread call (settleAcquire owner (tryAcquireLocalFileLock win32 owner).run)) := by
  have hidleAt := h.threads call
  rw [hidle] at hidleAt
  have hat : HolderAt s.fs owner call .outside := hidleAt
  exact h.started (settleAcquire_holder hat (holder_tryAcquireLocalFileLock win32 owner))

theorem Inv.start_release (h : Inv s) (win32 : Bool) {lock : LocalFileLock}
    (hthread : s.threads call = .holding lock) :
    Inv (s.setThread call (.holding (lock.release win32))) := by
  have hholder := h.threads call
  rw [hthread] at hholder
  apply h.started
  unfold LocalFileLock.release
  split
  · rename_i hheld hpromise
    obtain ⟨stage, hat, hrelease, hmarker⟩ := hholder
    unfold ReleaseAt at hrelease
    rw [hpromise] at hrelease
    obtain ⟨file, rfl⟩ := hrelease hheld
    exact settleRelease_holder hat (holder_releaseOnce win32 lock file) hmarker
  · exact hholder

end Starts

end OresLocks.LocalFile
