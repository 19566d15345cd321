import OresLocks.LocalFile.Exclusion
import OresLocks.LocalFile.Inspection

/-!
# The metadata of the lock path between clean steps

Directories and markers are private, and a marker that has its name is a regular file
with one link. Every step of a holder keeps this, and no step changes the type or the
mode of a file.
-/

namespace OresLocks.LocalFile

set_option autoImplicit false

open Shared.Programs JsString

/-- A private regular file with one link. -/
def File.Linked (file : File) : Prop :=
  file.type = .file ∧ file.nlink = 1 ∧ file.mode &&& 0o077 = 0

structure Tidy (fs : Fs) : Prop where
  mode : ∀ node, fs.lock = some node → node.mode &&& 0o077 = 0
  marker : ∀ node, fs.lock = some node → ∀ entry ∈ node.entries, (fs.files entry.2).Linked

/-- The files that exist keep their type and mode. -/
def Kept (fs fs' : Fs) : Prop :=
  ∀ n, n < fs.count → (fs'.files n).type = (fs.files n).type ∧
    (fs'.files n).mode = (fs.files n).mode

theorem Kept.refl (fs : Fs) : Kept fs fs := fun _ _ => ⟨rfl, rfl⟩

theorem Kept.setFile {fs : Fs} {number : Nat} {file : File}
    (h : number < fs.count → file.type = (fs.files number).type ∧ file.mode = (fs.files number).mode) :
    Kept fs (fs.setFile number file) := by
  intro n hn
  change (if n = number then file else fs.files n).type = _ ∧
    (if n = number then file else fs.files n).mode = _
  split
  · rename_i heq
    subst heq
    exact h hn
  · exact ⟨rfl, rfl⟩

theorem SameLock.tidy {caller : Call} {fs fs' : Fs} (h : SameLock caller fs fs') (ht : Tidy fs) :
    Tidy fs' ∧ Kept fs fs' := by
  refine ⟨⟨?_, ?_⟩, ?_⟩
  · intro node hnode
    rw [h.lock] at hnode
    exact ht.mode node hnode
  · intro node hnode entry hentry
    rw [h.lock] at hnode
    rw [h.files]
    exact ht.marker node hnode entry hentry
  · intro n _
    rw [h.files]
    exact ⟨rfl, rfl⟩

section Steps

variable {fs : Fs} {call : Call} {node : Node} {marker : Option Marker}

theorem tidy_mkdir (h : Tidy fs) (choice : Choice) :
    Tidy (fs.mkdir call choice).2 ∧ Kept fs (fs.mkdir call choice).2 := by
  unfold Fs.mkdir
  split
  · exact ⟨h, .refl fs⟩
  · exact ⟨h, .refl fs⟩
  · split
    · refine ⟨⟨?_, ?_⟩, fun _ _ => ⟨rfl, rfl⟩⟩
      · intro node hnode
        cases hnode
        change (0o700 : Nat) &&& 0o077 = 0
        decide
      · intro node hnode entry hentry
        cases hnode
        cases hentry
    · exact ⟨h, .refl fs⟩

theorem tidy_rmdir (h : Tidy fs) (choice : Choice) :
    Tidy (fs.rmdir call choice).2 ∧ Kept fs (fs.rmdir call choice).2 := by
  unfold Fs.rmdir
  split
  · exact ⟨h, .refl fs⟩
  · split
    · refine ⟨⟨?_, ?_⟩, fun _ _ => ⟨rfl, rfl⟩⟩
      · intro node hnode
        cases hnode
      · intro node hnode
        cases hnode
    · exact ⟨h, .refl fs⟩

theorem tidy_openExclusive (h : Tidy fs) (hinside : Inside fs node call none) (name : Name)
    (choice : Choice) :
    Tidy (fs.openExclusive call name choice).2 ∧ Kept fs (fs.openExclusive call name choice).2 := by
  unfold Fs.openExclusive
  rw [hinside.directory_eq]
  dsimp only
  rw [hinside.lookup_empty]
  refine ⟨⟨?_, ?_⟩, ?_⟩
  · intro node' hnode
    cases hnode
    exact h.mode node hinside.lock
  · intro node' hnode entry hentry
    cases hnode
    rw [hinside.entries] at hentry
    cases List.mem_singleton.mp hentry
    change File.Linked (if fs.count = fs.count then _ else _)
    rw [if_pos rfl]
    have hmode : (0o600 : Nat) &&& 0o077 = 0 := by decide
    exact ⟨rfl, rfl, hmode⟩
  · intro n hn
    apply Kept.setFile _ n hn
    intro hlt
    exact absurd hlt (Nat.lt_irrefl _)

theorem tidy_write (h : Tidy fs) (handle : Nat) (bytes : Bytes) :
    Tidy (fs.write handle bytes) ∧ Kept fs (fs.write handle bytes) := by
  refine ⟨⟨h.mode, ?_⟩, Kept.setFile fun _ => ⟨rfl, rfl⟩⟩
  intro node hnode entry hentry
  have hlinked := h.marker node hnode entry hentry
  change File.Linked (if entry.2 = handle then _ else _)
  split
  · rename_i heq
    rw [← heq]
    exact hlinked
  · exact hlinked

theorem tidy_rename {file : Nat} {content : Bytes} (h : Tidy fs)
    (hinside : Inside fs node call (some ⟨.pending, file, content⟩)) (choice : Choice) :
    Tidy (fs.rename call .pending .owner choice).2 ∧
      Kept fs (fs.rename call .pending .owner choice).2 := by
  have hne : Name.owner ≠ Name.pending := Name.noConfusion
  have hlinked := h.marker node hinside.lock (.pending, file) (by simp [hinside.entries])
  unfold Fs.rename
  rw [hinside.entry_some]
  dsimp only
  rw [hinside.lookup_marker, if_neg hne]
  refine ⟨⟨?_, ?_⟩, fun _ _ => ⟨rfl, rfl⟩⟩
  · intro node' hnode
    cases hnode
    exact h.mode node hinside.lock
  · intro node' hnode entry hentry
    cases hnode
    have hentries : Fs.without (Fs.without node.entries .pending) .owner ++ [(.owner, file)] =
        [(.owner, file)] := by
      rw [hinside.entries]
      rfl
    rw [hentries] at hentry
    cases List.mem_singleton.mp hentry
    exact hlinked

theorem tidy_unlink (h : Tidy fs) (hinside : Inside fs node call marker) (name : Name)
    (choice : Choice) :
    Tidy (fs.unlink call name choice).2 ∧ Kept fs (fs.unlink call name choice).2 := by
  unfold Fs.unlink
  cases marker with
  | none =>
    rw [hinside.entry_empty]
    exact ⟨h, .refl fs⟩
  | some m =>
    by_cases hname : name = m.name
    · subst hname
      rw [hinside.entry_some]
      dsimp only
      split
      · exact ⟨h, .refl fs⟩
      · refine ⟨⟨?_, ?_⟩, ?_⟩
        · intro node' hnode
          cases hnode
          exact h.mode node hinside.lock
        · intro node' hnode entry hentry
          cases hnode
          have hentries : Fs.without node.entries m.name = [] := by
            rw [hinside.entries]
            simp [Fs.without]
          rw [hentries] at hentry
          cases hentry
        · exact Kept.setFile fun _ => ⟨rfl, rfl⟩
    · rw [hinside.entry_none hname]
      exact ⟨h, .refl fs⟩

/-- Every allowed step of a holder. -/
theorem tidy_step {owner : JsString} {stage : HolderStage} {op : FsOp} (h : Tidy fs)
    (hat : HolderAt fs owner call stage) (hallows : (holderProtocol owner).allows stage op)
    (choice : Choice) :
    Tidy (fs.perform call choice op).2 ∧ Kept fs (fs.perform call choice op).2 := by
  cases op with
  | mkdir => exact tidy_mkdir h choice
  | rmdir => exact tidy_rmdir h choice
  | openExclusive name =>
    obtain ⟨_, rfl⟩ := hallows
    obtain ⟨_, _, node, hinside, _⟩ := hat
    exact tidy_openExclusive h hinside name choice
  | write handle bytes => exact tidy_write h handle bytes
  | rename source target =>
    obtain ⟨rfl, rfl, file, rfl⟩ := hallows
    obtain ⟨_, _, node, hinside, _⟩ := hat
    exact tidy_rename h hinside choice
  | unlink name =>
    obtain ⟨marker, rfl⟩ := hallows
    obtain ⟨_, _, node, hinside, _⟩ := hat
    exact tidy_unlink h hinside name choice
  | _ => exact (perform_reading hallows fs call choice).tidy h

end Steps

/-- Acquisitions and releases, without failures, crashes or recoveries. -/
def Action.IsClean : Action → Bool
  | .acquire _ _ => true
  | .release _ => true
  | .perform _ _ => true
  | _ => false

/-- A lock path that was only ever used cleanly. -/
structure Clean (s : System) : Prop where
  inv : Inv s
  native : Native s.fs
  tidy : Tidy s.fs

section Clean

variable {s : System}

/-- The tenant of the directory is a holder inside it. -/
theorem Clean.holder (h : Clean s) {node : Node} {call : Call} (hlock : s.fs.lock = some node)
    (htenant : node.tenant = some call) :
    ∃ owner stage, HolderAt s.fs owner call stage := by
  have hthread := h.inv.threads call
  cases hcall : s.threads call with
  | idle =>
    rw [hcall] at hthread
    exact absurd htenant (hthread node hlock)
  | acquiring owner program =>
    rw [hcall] at hthread
    obtain ⟨stage, hat, _⟩ := hthread
    exact ⟨owner, stage, hat⟩
  | refused owner result =>
    rw [hcall] at hthread
    obtain ⟨stage, hat⟩ := hthread
    exact ⟨owner, stage, hat⟩
  | holding lock =>
    rw [hcall] at hthread
    obtain ⟨stage, hat, _⟩ := hthread
    exact ⟨lock.owner, stage, hat⟩
  | recovering expected program =>
    rw [hcall] at hthread
    exact hthread.elim
  | recovered expected result =>
    rw [hcall] at hthread
    exact hthread.elim

/-- A clean path is absent or a directory with at most one marker, which is pending or holds
the whole owner of its tenant. -/
theorem Clean.inside (h : Clean s) {node : Node} (hlock : s.fs.lock = some node) :
    ∃ call owner marker, Inside s.fs node call marker ∧
      validateLocalFileLockOwner owner = .ok () ∧ ∀ m, marker = some m → m.Sound owner := by
  obtain ⟨call, htenant⟩ := Option.ne_none_iff_exists'.mp (h.native node hlock)
  obtain ⟨owner, stage, hat⟩ := h.holder hlock htenant
  cases stage with
  | outside => exact absurd htenant (hat node hlock)
  | inside marker =>
    obtain ⟨hvalid, hsound, node', hinside, _⟩ := hat
    cases hlock.symm.trans hinside.lock
    exact ⟨call, owner, marker, hinside, hvalid, hsound⟩

/-- What one clean action leaves of the files. -/
structure CleanStep (s t : System) : Prop where
  after : Clean t
  frame : ∃ actor, Frame actor none s.fs t.fs
  kept : Kept s.fs t.fs

theorem Clean.performed (h : Clean s) {t : System} {call : Call} {choice : Choice}
    (hstep : s.advance call (s.fs.perform call choice) = some t) :
    Native t.fs ∧ Tidy t.fs ∧ (∃ actor, Frame actor none s.fs t.fs) ∧ Kept s.fs t.fs := by
  unfold System.advance at hstep
  split at hstep
  · cases hstep
  split at hstep
  · cases hstep
  rename_i thread fs' hadvance
  cases hstep
  change Native fs' ∧ Tidy fs' ∧ (∃ actor, Frame actor none s.fs fs') ∧ Kept s.fs fs'
  have hmoved : ∀ {owner : JsString} {stage : HolderStage} {op : FsOp},
      HolderAt s.fs owner call stage → (holderProtocol owner).allows stage op →
      Native (s.fs.perform call choice op).2 ∧ Tidy (s.fs.perform call choice op).2 ∧
        (∃ actor, Frame actor none s.fs (s.fs.perform call choice op).2) ∧
        Kept s.fs (s.fs.perform call choice op).2 := by
    intro owner stage op hat hallows
    obtain ⟨htidy, hkept⟩ := tidy_step h.tidy hat hallows choice
    obtain ⟨_, _, hholder⟩ := holder_step hat hallows choice
    exact ⟨h.native.perform call choice op, htidy, ⟨call, hholder.frame⟩, hkept⟩
  have hthread := h.inv.threads call
  unfold Thread.advance at hadvance
  split at hadvance
  · rename_i owner op next hacquiring
    cases hadvance
    rw [hacquiring] at hthread
    obtain ⟨stage, hat, hallows, _⟩ := hthread
    exact hmoved hat hallows
  · rename_i expected op next hrecovering
    rw [hrecovering] at hthread
    exact hthread.elim
  · rename_i lock hholding
    split at hadvance
    · rename_i op next hpromise
      cases hadvance
      rw [hholding] at hthread
      obtain ⟨stage, hat, hrelease, _⟩ := hthread
      unfold ReleaseAt at hrelease
      rw [hpromise] at hrelease
      exact hmoved hat hrelease.1
    · cases hadvance
  · cases hadvance

theorem Clean.step (h : Clean s) {t : System} {action : Action} (hclean : action.IsClean = true)
    (hstep : s.Step false action t) : CleanStep s t := by
  have hno : ∀ call expected confirmed, action ≠ .recover call expected confirmed := by
    intro call expected confirmed heq
    subst heq
    cases hclean
  have hfs : Native t.fs ∧ Tidy t.fs ∧ (∃ actor, Frame actor none s.fs t.fs) ∧ Kept s.fs t.fs := by
    have hsame : ∀ call : Call, t.fs = s.fs →
        Native t.fs ∧ Tidy t.fs ∧ (∃ actor, Frame actor none s.fs t.fs) ∧ Kept s.fs t.fs := by
      intro call heq
      rw [heq]
      exact ⟨h.native, h.tidy, ⟨call, (SameLock.refl call s.fs).frame⟩, .refl s.fs⟩
    unfold System.Step System.step at hstep
    cases action with
    | acquire call owner =>
      dsimp only at hstep
      split at hstep
      · cases hstep
      split at hstep
      · cases hstep
        exact hsame call rfl
      · cases hstep
    | release call =>
      dsimp only at hstep
      split at hstep
      · cases hstep
      split at hstep
      · cases hstep
        exact hsame call rfl
      · cases hstep
    | perform call choice => exact h.performed hstep
    | recover call expected confirmed => cases hclean
    | fail call error => cases hclean
    | crash process => cases hclean
  obtain ⟨hnative, htidy, hframe, hkept⟩ := hfs
  exact ⟨⟨inv_step h.inv hno hstep, hnative, htidy⟩, hframe, hkept⟩

theorem SameLock.holderAt {watcher call : Call} {fs fs' : Fs} (hs : SameLock watcher fs fs')
    {owner : JsString} {stage : HolderStage} (h : HolderAt fs owner call stage) :
    HolderAt fs' owner call stage := by
  cases stage with
  | outside => exact hs.notTenant h
  | inside marker =>
    obtain ⟨hvalid, hsound, node, hinside, hcreator⟩ := h
    exact ⟨hvalid, hsound, node, hs.inside hinside, hcreator⟩

theorem SameLock.holderThread {watcher call : Call} {fs fs' : Fs} (hs : SameLock watcher fs fs')
    {thread : Thread} (h : HolderThread fs call thread) : HolderThread fs' call thread := by
  cases thread with
  | idle => exact hs.notTenant h
  | acquiring owner program =>
    obtain ⟨stage, hat, hfollows⟩ := h
    exact ⟨stage, hs.holderAt hat, hfollows⟩
  | refused owner result =>
    obtain ⟨stage, hat⟩ := h
    exact ⟨stage, hs.holderAt hat⟩
  | holding lock =>
    obtain ⟨stage, hat, hrelease, hmarker⟩ := h
    refine ⟨stage, hs.holderAt hat, hrelease, ?_⟩
    unfold OwnerRemoved
    rw [hs.trace]
    exact hmarker
  | recovering expected program => exact h.elim
  | recovered expected result => exact h.elim

/-- A step of an inspection changes nothing that anyone reads. -/
theorem Clean.looked (h : Clean s) {watcher : Call} {fs' : Fs} (hs : SameLock watcher s.fs fs') :
    Clean { s with fs := fs' } := by
  refine ⟨⟨fun call => hs.holderThread (h.inv.threads call), ?_⟩, ?_, (hs.tidy h.tidy).1⟩
  · intro e he
    rw [hs.trace] at he
    exact h.inv.effects e he
  · intro node hnode
    rw [hs.lock] at hnode
    exact h.native node hnode

end Clean

end OresLocks.LocalFile
