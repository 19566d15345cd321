import OresLocks.LocalFile.HolderSteps

/-!
# The steps of a recoverer

A recoverer that has read its expected owner knows the file and its content, not that
the file still is the owner marker. The claiming rename is right when it is, and when the
content was not misread.
-/

namespace OresLocks.LocalFile

set_option autoImplicit false

open Shared.Programs JsString

variable {fs fs' : Fs} {owners owners' : Call → Option JsString} {call : Call}
  {accepts : Bytes → Prop} {expectedOwner : JsString}

theorem valid_owner {owner : JsString} (h : validateLocalFileLockOwner owner = .ok ()) :
    owner ≠ [] ∧ hasLoneSurrogate owner = false := by
  unfold validateLocalFileLockOwner at h
  split at h
  · cases h
  rename_i hne
  split at h
  · cases h
  · rename_i hlone
    exact ⟨hne, by simpa using hlone⟩

/-- The owner marker belongs to the holder that published it. -/
def Occupied (fs : Fs) (owners : Call → Option JsString) : Prop :=
  ∀ node file, fs.lock = some node → node.entries.lookup .owner = some file →
    ∃ holder owner, Inside fs node holder (some ⟨.owner, file, encode owner⟩) ∧
      node.creator = some holder ∧ owners holder = some owner ∧
      validateLocalFileLockOwner owner = .ok ()

/-- A file that was once published: its content is its creator's owner. -/
def Sealed (fs : Fs) (owners : Call → Option JsString) (file : Nat) (content : Bytes) : Prop :=
  file < fs.count ∧ (fs.files file).content = content ∧
    ∃ holder owner, (fs.files file).creator = some holder ∧ owners holder = some owner ∧
      validateLocalFileLockOwner owner = .ok () ∧ content = encode owner

theorem Sealed.frame {actor : Call} {victim : Option Call} {file : Nat} {content : Bytes}
    (hf : Frame actor victim fs fs') (howners : ∀ c o, owners c = some o → owners' c = some o)
    (h : Sealed fs owners file content) : Sealed fs' owners' file content := by
  obtain ⟨hcount, hcontent, holder, owner, hcreator, howner, hvalid, heq⟩ := h
  obtain ⟨hne, hlone⟩ := valid_owner hvalid
  have hfile := hf.files file hcount
  refine ⟨Nat.lt_of_lt_of_le hcount hf.count, ?_, holder, owner, hfile.1.trans hcreator,
    howners holder owner howner, hvalid, heq⟩
  rw [hfile.2, hcontent]
  rw [hcontent, heq]
  exact encode_ne_nil hlone hne

/-- The lock directory and the files are as the recoverer's stage says. -/
def RecoverAt (fs : Fs) (owners : Call → Option JsString) (expectedOwner : JsString) (call : Call) :
    RecoverStage → Prop
  | .looking => NotTenant fs call
  | .opened file content => NotTenant fs call ∧ fs.opened call = some file ∧
      Sealed fs owners file content
  | .inside marker => ∃ node holder, Inside fs node call marker ∧ node.creator = some holder ∧
      owners holder = some expectedOwner ∧
      ∀ m, marker = some m → m.name = .recovering ∧ m.content = encode expectedOwner
  | .finished => NotTenant fs call

theorem RecoverAt.frame {actor : Call} {victim : Option Call} {stage : RecoverStage}
    (hf : Frame actor victim fs fs') (hne : call ≠ actor) (hvictim : some call ≠ victim)
    (howners : ∀ c o, owners c = some o → owners' c = some o)
    (h : RecoverAt fs owners expectedOwner call stage) :
    RecoverAt fs' owners' expectedOwner call stage := by
  cases stage with
  | looking => exact hf.notTenant call hne h
  | finished => exact hf.notTenant call hne h
  | opened file content =>
    obtain ⟨hnot, hopened, hsealed⟩ := h
    exact ⟨hf.notTenant call hne hnot, (hf.opened call hne).trans hopened, hsealed.frame hf howners⟩
  | inside marker =>
    obtain ⟨node, holder, hinside, hcreator, howner, hmarker⟩ := h
    exact ⟨node, holder, hf.inside node call marker hne hvictim hinside, hcreator,
      howners holder _ howner, hmarker⟩

theorem RecoverAt.owners_mono {stage : RecoverStage}
    (howners : ∀ c o, owners c = some o → owners' c = some o)
    (h : RecoverAt fs owners expectedOwner call stage) :
    RecoverAt fs owners' expectedOwner call stage := by
  cases stage with
  | looking => exact h
  | finished => exact h
  | opened file content =>
    obtain ⟨hnot, hopened, hsealed⟩ := h
    exact ⟨hnot, hopened, hsealed.frame (SameLock.refl call fs).frame howners⟩
  | inside marker =>
    obtain ⟨node, holder, hinside, hcreator, howner, hmarker⟩ := h
    exact ⟨node, holder, hinside, hcreator, howners holder _ howner, hmarker⟩

/-- The directory of a holder holds the owner marker only if it published it. -/
theorem HolderAt.published_of_lookup {fs : Fs} {owner : JsString} {call : Call} {stage : HolderStage}
    {node : Node} {file : Nat} (h : HolderAt fs owner call stage) (hlock : fs.lock = some node)
    (htenant : node.tenant = some call) (hlookup : node.entries.lookup .owner = some file) :
    Inside fs node call (some ⟨.owner, file, encode owner⟩) ∧ node.creator = some call ∧
      validateLocalFileLockOwner owner = .ok () := by
  cases stage with
  | outside => exact absurd htenant (h node hlock)
  | inside marker =>
    obtain ⟨hvalid, hsound, node', hinside, hcreator⟩ := h
    cases hlock.symm.trans hinside.lock
    cases marker with
    | none =>
      rw [hinside.lookup_empty] at hlookup
      cases hlookup
    | some m =>
      rw [hinside.lookup_marker] at hlookup
      split at hlookup
      · rename_i hname
        cases hlookup
        obtain ⟨name, file, content⟩ := m
        dsimp only at hname
        subst hname
        rcases hsound _ rfl with hpending | ⟨_, hcontent⟩
        · cases hpending
        · dsimp only at hcontent
          subst hcontent
          exact ⟨hinside, hcreator, hvalid⟩
      · cases hlookup

/-- The directory of a recoverer holds no owner marker. -/
theorem RecoverAt.no_owner {fs : Fs} {owners : Call → Option JsString} {expected : JsString}
    {call : Call} {stage : RecoverStage} {node : Node} {file : Nat}
    (h : RecoverAt fs owners expected call stage) (hlock : fs.lock = some node)
    (htenant : node.tenant = some call) : node.entries.lookup .owner ≠ some file := by
  intro hlookup
  cases stage with
  | looking => exact h node hlock htenant
  | finished => exact h node hlock htenant
  | opened file content => exact h.1 node hlock htenant
  | inside marker =>
    obtain ⟨node', holder, hinside, _, _, hmarker⟩ := h
    cases hlock.symm.trans hinside.lock
    cases marker with
    | none =>
      rw [hinside.lookup_empty] at hlookup
      cases hlookup
    | some m =>
      rw [hinside.lookup_marker, (hmarker m rfl).1] at hlookup
      cases hlookup

/-- What one step of a recoverer leaves behind. -/
structure RecoverStep (owners : Call → Option JsString) (expectedOwner : JsString) (call : Call)
    (stage' : RecoverStage) (fs fs' : Fs) (victim : Option Call) : Prop where
  after : RecoverAt fs' owners expectedOwner call stage'
  frame : Frame call victim fs fs'
  effects : ∃ new, fs'.trace = fs.trace ++ new ∧
    (∀ e ∈ new, e.call = call ∧
      (∃ holder, e.creator = some holder ∧ owners holder = some expectedOwner) ∧
      (e.removal ≠ .removedDirectory → e.content = encode expectedOwner)) ∧
    ∀ holder, victim = some holder → NotTenant fs' holder ∧
      ∃ e ∈ new, e.removal = .renamed .owner .recovering ∧ e.creator = some holder

/-- A step without effect on the lock directory. -/
theorem RecoverStep.same {stage' : RecoverStage} (hs : SameLock call fs fs')
    (h : RecoverAt fs' owners expectedOwner call stage') :
    RecoverStep owners expectedOwner call stage' fs fs' none := by
  refine ⟨h, hs.frame, [], ?_, fun _ he => (nomatch he), fun _ hv => (nomatch hv)⟩
  rw [hs.trace, List.append_nil]

theorem RecoverAt.same {stage : RecoverStage} (hs : SameLock call fs fs')
    (hopened : fs'.opened call = fs.opened call)
    (h : RecoverAt fs owners expectedOwner call stage) :
    RecoverAt fs' owners expectedOwner call stage := by
  cases stage with
  | looking => exact hs.notTenant h
  | finished => exact hs.notTenant h
  | opened file content =>
    obtain ⟨hnot, hfile, hsealed⟩ := h
    exact ⟨hs.notTenant hnot, hopened.trans hfile, hsealed.frame hs.frame (fun _ _ h => h)⟩
  | inside marker =>
    obtain ⟨node, holder, hinside, hcreator, howner, hmarker⟩ := h
    exact ⟨node, holder, hs.inside hinside, hcreator, howner, hmarker⟩

/-- A step that fails. -/
theorem RecoverStep.stay {stage : RecoverStage} (h : RecoverAt fs owners expectedOwner call stage) :
    RecoverStep owners expectedOwner call stage fs fs none :=
  .same (.refl call fs) h

/-- A step of the tenant with exactly one effect. -/
theorem RecoverStep.one {stage' : RecoverStage} {victim : Option Call} {e : Effect} {holder : Call}
    (hafter : RecoverAt fs' owners expectedOwner call stage') (hframe : Frame call victim fs fs')
    (htrace : fs'.trace = fs.trace ++ [e]) (hcall : e.call = call)
    (hcreator : e.creator = some holder) (howner : owners holder = some expectedOwner)
    (hcontent : e.removal ≠ .removedDirectory → e.content = encode expectedOwner)
    (hvictim : ∀ holder, victim = some holder → NotTenant fs' holder ∧
      e.removal = .renamed .owner .recovering ∧ e.creator = some holder) :
    RecoverStep owners expectedOwner call stage' fs fs' victim := by
  refine ⟨hafter, hframe, [e], htrace, ?_, ?_⟩
  · intro e' he'
    rw [List.mem_singleton] at he'
    subst he'
    exact ⟨hcall, ⟨holder, hcreator, howner⟩, hcontent⟩
  · intro holder' hholder
    obtain ⟨hnot, hremoval, hcreator'⟩ := hvictim holder' hholder
    exact ⟨hnot, e, List.mem_singleton.mpr rfl, hremoval, hcreator'⟩

theorem recover_step_openRead (hocc : Occupied fs owners) {stage : RecoverStage}
    (h : RecoverAt fs owners expectedOwner call stage) (hlooking : stage.IsLooking)
    (choice : Choice) :
    ∃ stage', (recoverProtocol accepts).moves stage (.openRead .owner)
        (fs.openRead call .owner choice).1 stage' ∧
      RecoverStep owners expectedOwner call stage' fs (fs.openRead call .owner choice).2 none := by
  have hsame := perform_reading (Or.inr (Or.inl rfl)) fs call choice
  change SameLock call fs (fs.openRead call .owner choice).2 at hsame
  have hnot : NotTenant fs call := by
    rcases hlooking with rfl | ⟨file, content, rfl⟩
    · exact h
    · exact h.1
  unfold Fs.openRead at hsame ⊢
  cases hentry : fs.entry .owner choice with
  | error error =>
    rw [hentry] at hsame
    exact ⟨stage, rfl, .stay h⟩
  | ok entry =>
    obtain ⟨node, file⟩ := entry
    rw [hentry] at hsame
    obtain ⟨hlock, hlookup⟩ := entry_ok hentry
    obtain ⟨holder, owner, hinside, hcreator, howner, hvalid⟩ := hocc node file hlock hlookup
    obtain ⟨hcount, hcontent, hmine⟩ := hinside.file _ rfl
    refine ⟨.opened file (encode owner), ⟨_, rfl⟩, .same hsame ⟨hsame.notTenant hnot, ?_, ?_⟩⟩
    · exact if_pos rfl
    · exact ⟨hcount, hcontent, holder, owner, hmine.trans hcreator, howner, hvalid, rfl⟩

theorem recover_step_read {stage : RecoverStage} (h : RecoverAt fs owners expectedOwner call stage)
    (handle position length : Nat) (choice : Choice) :
    (recoverProtocol accepts).moves stage (.read handle position length)
        (.ok (fs.read handle position length choice)) stage ∧
      RecoverStep owners expectedOwner call stage fs fs none := by
  refine ⟨⟨rfl, ?_⟩, .stay h⟩
  intro content hstage
  subst hstage
  obtain ⟨_, _, _, hcontent, _⟩ := h
  refine ⟨min length (max 1 choice.bytesRead), ?_, ?_⟩
  · unfold Fs.read
    rw [hcontent]
  · intro hpos
    omega

/-- The owner marker that is there, if any, is the file this call opened last. -/
def OpenedLast (fs : Fs) (call : Call) : Prop :=
  ∀ node ∈ fs.lock, ∀ file ∈ node.entries.lookup .owner, fs.opened call = some file

/-- The owner marker holds the expected owner if its content is accepted. -/
def MarkerExpected (fs : Fs) (accepts : Bytes → Prop) (expectedOwner : JsString) : Prop :=
  ∀ node file, fs.lock = some node → node.entries.lookup .owner = some file →
    ∀ owner, validateLocalFileLockOwner owner = .ok () →
      (fs.files file).content = encode owner → accepts (encode owner) → owner = expectedOwner

/-- The marker that a claim finds is the file that was read, in the directory of a call with
the expected owner. -/
theorem Occupied.claimed (hocc : Occupied fs owners) {file file' : Nat} {content : Bytes}
    {node : Node} {choice : Choice} (hlast : OpenedLast fs call)
    (hexpected : MarkerExpected fs accepts expectedOwner) (hopened : fs.opened call = some file)
    (hcontent : (fs.files file).content = content) (haccepts : accepts content)
    (hentry : fs.entry .owner choice = .ok (node, file')) :
    file' = file ∧ content = encode expectedOwner ∧
      validateLocalFileLockOwner expectedOwner = .ok () ∧
      ∃ holder, node.creator = some holder ∧ owners holder = some expectedOwner ∧
        Inside fs node holder (some ⟨.owner, file, encode expectedOwner⟩) := by
  obtain ⟨hlock, hlookup⟩ := entry_ok hentry
  have hsame : file' = file :=
    Option.some.inj ((hlast node hlock file' hlookup).symm.trans hopened)
  subst hsame
  obtain ⟨holder, owner, hinside, hnode, howner, hvalid⟩ := hocc node file' hlock hlookup
  have hwhole : (fs.files file').content = encode owner := (hinside.file _ rfl).2.1
  have hencoded : content = encode owner := hcontent.symm.trans hwhole
  rw [hencoded] at haccepts
  have heq := hexpected node file' hlock hlookup owner hvalid hwhole haccepts
  subst heq
  exact ⟨rfl, hencoded, hvalid, holder, hnode, howner, hinside⟩

/-- The claimed directory changes its tenant, and nobody else notices. -/
theorem Steady.claim_frame {node : Node} {holder : Call} {m : Marker} {entries : List (Name × Nat)}
    (hsteady : Steady fs fs') (hinside : Inside fs node holder (some m))
    (hlock : fs'.lock = some { node with entries := entries, tenant := some call }) :
    Frame call (some holder) fs fs' where
  inside _ _ _ _ hvictim hinside' :=
    absurd (congrArg some (hinside'.unique hinside)) hvictim
  notTenant c hc _ := by
    intro node' hnode' heq
    cases hlock.symm.trans hnode'
    exact hc (Option.some.inj heq).symm
  foreign node' hnode' hforeign := by
    cases hlock.symm.trans hnode'
    cases hforeign
  opened _ _ := by rw [hsteady.opened]
  count := hsteady.count.ge
  files n _ := ⟨(hsteady.files n).1, fun _ => (hsteady.files n).2⟩

/-- The claimed marker is the holder's file under its new name. -/
theorem Steady.claim_inside {node : Node} {holder : Call} {m : Marker} (hsteady : Steady fs fs')
    (hinside : Inside fs node holder (some m))
    (hlock : fs'.lock = some { node with
      entries := [(Name.recovering, m.file)], tenant := some call }) :
    Inside fs' { node with entries := [(Name.recovering, m.file)], tenant := some call } call
      (some ⟨.recovering, m.file, m.content⟩) := by
  obtain ⟨hcount, hcontent, hcreator⟩ := hinside.file m rfl
  refine ⟨hlock, hinside.directory, rfl, rfl, ?_⟩
  intro m' hm'
  cases hm'
  refine ⟨hsteady.count.symm ▸ hcount, ?_, ?_⟩
  · exact (hsteady.files m.file).2.trans hcontent
  · exact (hsteady.files m.file).1.trans hcreator

/-- The claim: the owner marker that is there must be the file that was opened last. -/
theorem recover_step_claim (hocc : Occupied fs owners) {stage : RecoverStage}
    (h : RecoverAt fs owners expectedOwner call stage) (hread : stage.HasRead accepts)
    (hcurrent : OpenedLast fs call) (hexpected : MarkerExpected fs accepts expectedOwner)
    (choice : Choice) :
    ∃ stage' victim, (recoverProtocol accepts).moves stage (.rename .owner .recovering)
        (fs.rename call .owner .recovering choice).1 stage' ∧
      RecoverStep owners expectedOwner call stage' fs (fs.rename call .owner .recovering choice).2
        victim ∧ ∀ holder, victim = some holder → owners holder = some expectedOwner ∧
          validateLocalFileLockOwner expectedOwner = .ok () := by
  obtain ⟨file, content, rfl, haccepts⟩ := hread
  have hstay := h
  obtain ⟨hnot, hopened, _, hcontent, _⟩ := h
  cases hentry : fs.entry .owner choice with
  | error error =>
    have hfails : fs.rename call .owner .recovering choice = (.error error, fs) := by
      unfold Fs.rename
      rw [hentry]
    rw [hfails]
    exact ⟨_, none, rfl, .stay hstay, fun _ hv => nomatch hv⟩
  | ok entry =>
    obtain ⟨node, file'⟩ := entry
    obtain ⟨rfl, rfl, hvalid, holder, hnode, howner, hinside⟩ :=
      hocc.claimed hcurrent hexpected hopened hcontent haccepts hentry
    have hne : Name.recovering ≠ Name.owner := Name.noConfusion
    obtain ⟨fs', hfs', hsteady, hlock', htrace⟩ := hinside.rename_marker call hne choice
    dsimp only at hfs' hlock' htrace
    rw [if_pos rfl] at hlock'
    rw [hfs']
    have hframe := hsteady.claim_frame hinside hlock'
    have hcallne : holder ≠ call := by
      intro heq
      subst heq
      exact hnot node (entry_ok hentry).1 hinside.tenant
    refine ⟨.inside (some ⟨.recovering, file', encode expectedOwner⟩), some holder,
      ⟨file', encode expectedOwner, rfl, rfl⟩, ?_, ?_⟩
    · apply RecoverStep.one (e := ⟨call, .renamed .owner .recovering, node.creator, encode expectedOwner⟩)
      · refine ⟨_, holder, hsteady.claim_inside hinside hlock', hnode, howner, ?_⟩
        intro m hm
        cases hm
        exact ⟨rfl, rfl⟩
      · exact hframe
      · exact htrace
      · rfl
      · exact hnode
      · exact howner
      · intro _
        rfl
      · intro victim hvictim
        cases hvictim
        refine ⟨?_, rfl, hnode⟩
        intro node' hnode' heq
        cases hlock'.symm.trans hnode'
        exact hcallne (Option.some.inj heq).symm
    · intro victim hvictim
      cases hvictim
      exact ⟨howner, hvalid⟩

theorem recover_step_unlink {file : Nat} {content : Bytes}
    (h : RecoverAt fs owners expectedOwner call (.inside (some ⟨.recovering, file, content⟩)))
    (choice : Choice) :
    ∃ stage', (recoverProtocol accepts).moves (.inside (some ⟨.recovering, file, content⟩))
        (.unlink .recovering) (fs.unlink call .recovering choice).1 stage' ∧
      RecoverStep owners expectedOwner call stage' fs (fs.unlink call .recovering choice).2 none := by
  have hat := h
  obtain ⟨node, holder, hinside, hcreator, howner, hmarker⟩ := h
  rcases hinside.unlink_cases call .recovering choice with ⟨error, herror⟩ |
    ⟨fs', file', content', hok, hm, hinside', hsteady, htrace⟩
  · rw [herror]
    exact ⟨_, rfl, .stay hat⟩
  · rw [hok]
    refine ⟨.inside none, rfl, ?_⟩
    apply RecoverStep.one (e := ⟨call, .unlinked .recovering, node.creator, content'⟩)
    · exact ⟨_, holder, hinside', hcreator, howner, fun _ hm => nomatch hm⟩
    · apply hsteady.frame hinside
      intro node' hnode
      cases hinside'.lock.symm.trans hnode
      exact hinside.tenant
    · exact htrace
    · rfl
    · exact hcreator
    · exact howner
    · intro _
      exact (hmarker _ hm).2
    · intro _ hv
      cases hv

theorem recover_step_rmdir (h : RecoverAt fs owners expectedOwner call (.inside none))
    (choice : Choice) :
    ∃ stage', (recoverProtocol accepts).moves (.inside none) .rmdir
        (fs.rmdir call choice).1 stage' ∧
      RecoverStep owners expectedOwner call stage' fs (fs.rmdir call choice).2 none := by
  obtain ⟨node, holder, hinside, hcreator, howner, hmarker⟩ := h
  rw [hinside.rmdir_empty]
  refine ⟨.finished, rfl, ?_⟩
  apply RecoverStep.one (e := ⟨call, .removedDirectory, node.creator, []⟩)
  · intro node' hnode
    cases hnode
  · apply Frame.of_tenant hinside
    · intro node' hnode
      cases hnode
    · rfl
    · exact Nat.le_refl _
    · exact fun _ _ => ⟨rfl, fun _ => rfl⟩
  · rfl
  · rfl
  · exact hcreator
  · exact howner
  · intro hne
    exact absurd rfl hne
  · intro _ hv
    cases hv

/-- Every allowed step of a recoverer. -/
theorem recover_step (hocc : Occupied fs owners) {stage : RecoverStage} {op : FsOp}
    (h : RecoverAt fs owners expectedOwner call stage)
    (hallows : (recoverProtocol accepts).allows stage op)
    (hcurrent : op = .rename .owner .recovering →
      OpenedLast fs call ∧ MarkerExpected fs accepts expectedOwner) (choice : Choice) :
    ∃ stage' victim, (recoverProtocol accepts).moves stage op
        (fs.perform call choice op).1 stage' ∧
      RecoverStep owners expectedOwner call stage' fs (fs.perform call choice op).2 victim ∧
      ∀ holder, victim = some holder → owners holder = some expectedOwner ∧
        validateLocalFileLockOwner expectedOwner = .ok () := by
  have hnone : ∀ holder, (none : Option Call) = some holder → owners holder = some expectedOwner ∧
      validateLocalFileLockOwner expectedOwner = .ok () := fun _ hv => nomatch hv
  cases op with
  | rename source target =>
    obtain ⟨rfl, rfl, hread⟩ := hallows
    obtain ⟨hlast, hexpected⟩ := hcurrent rfl
    exact recover_step_claim hocc h hread hlast hexpected choice
  | unlink name =>
    obtain ⟨file, content, rfl, rfl⟩ := hallows
    obtain ⟨stage', hmoves, hstep⟩ := recover_step_unlink h choice
    exact ⟨stage', none, hmoves, hstep, hnone⟩
  | rmdir =>
    cases hallows
    obtain ⟨stage', hmoves, hstep⟩ := recover_step_rmdir h choice
    exact ⟨stage', none, hmoves, hstep, hnone⟩
  | openRead name =>
    obtain ⟨rfl, hlooking⟩ := hallows
    obtain ⟨stage', hmoves, hstep⟩ := recover_step_openRead hocc h hlooking choice
    exact ⟨stage', none, hmoves, hstep, hnone⟩
  | read handle position length =>
    obtain ⟨hmoves, hstep⟩ := recover_step_read h handle position length choice
    exact ⟨stage, none, hmoves, hstep, hnone⟩
  | mkdirParent =>
    have hlooks : FsOp.IsLooking .mkdirParent := hallows
    have hsame := perform_reading (Or.inl hlooks) fs call choice
    refine ⟨stage, none, ?_, .same hsame (RecoverAt.same hsame ?_ h), hnone⟩
    · cases (fs.perform call choice .mkdirParent).1 <;> exact rfl
    · change (fs.mkdirParent choice).2.opened call = _
      unfold Fs.mkdirParent
      split
      · rfl
      · split <;> rfl
  | mkdir => exact absurd hallows id
  | openExclusive name => exact absurd hallows id
  | write handle bytes => exact absurd hallows id
  | _ =>
    refine ⟨stage, none, ?_, .stay h, hnone⟩
    cases hanswer : (fs.perform call choice _).1 <;> exact rfl

end OresLocks.LocalFile
