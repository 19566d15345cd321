import OresLocks.LocalFile.Tenancy

/-!
# The steps of a holder

Each allowed filesystem step takes a holder from a stage that describes the lock
directory to a stage that describes it again. Whatever it removes or renames on the
way is its own.
-/

namespace OresLocks.LocalFile

set_option autoImplicit false

open Shared.Programs JsString

/-- The markers a holder can have: a pending one, or its whole owner published. -/
def Marker.Sound (owner : JsString) (marker : Marker) : Prop :=
  marker.name = .pending ∨ marker.name = .owner ∧ marker.content = encode owner

/-- The lock directory is as the holder's stage says. -/
def HolderAt (fs : Fs) (owner : JsString) (call : Call) : HolderStage → Prop
  | .outside => NotTenant fs call
  | .inside marker => validateLocalFileLockOwner owner = .ok () ∧
      (∀ m, marker = some m → m.Sound owner) ∧
      ∃ node, Inside fs node call marker ∧ node.creator = some call

/-- A holder keeps its stage while others move. -/
theorem HolderAt.frame {fs fs' : Fs} {actor call : Call} {victim : Option Call} {owner : JsString}
    {stage : HolderStage} (hf : Frame actor victim fs fs') (hne : call ≠ actor)
    (hvictim : some call ≠ victim) (h : HolderAt fs owner call stage) :
    HolderAt fs' owner call stage := by
  cases stage with
  | outside => exact hf.notTenant call hne h
  | inside marker =>
    obtain ⟨hvalid, hsound, node, hinside, hcreator⟩ := h
    exact ⟨hvalid, hsound, node, hf.inside node call marker hne hvictim hinside, hcreator⟩

/-- What one step of a holder leaves behind. -/
structure HolderStep (owner : JsString) (call : Call) (stage stage' : HolderStage) (fs fs' : Fs) :
    Prop where
  after : HolderAt fs' owner call stage'
  frame : Frame call none fs fs'
  effects : ∃ new, fs'.trace = fs.trace ++ new ∧
    (∀ e ∈ new, e.call = call ∧ e.creator = some call ∧ e.removal ≠ .renamed .owner .recovering) ∧
    ((∃ file, stage = published owner file) →
      (∃ file, stage' = published owner file) ∨ ∃ e ∈ new, e.removal = .unlinked .owner)

section Step

variable {fs : Fs} {owner : JsString} {call : Call} {stage : HolderStage}

/-- A step that fails, or only looks. -/
theorem HolderStep.stay {fs' : Fs} (h : HolderAt fs owner call stage) (hs : SameLock call fs fs') :
    HolderStep owner call stage stage fs fs' := by
  refine ⟨?_, hs.frame, [], ?_, ?_, ?_⟩
  · cases stage with
    | outside => exact hs.notTenant h
    | inside marker =>
      obtain ⟨hvalid, hsound, node, hinside, hcreator⟩ := h
      exact ⟨hvalid, hsound, node, hs.inside hinside, hcreator⟩
  · rw [hs.trace, List.append_nil]
  · intro e he
    cases he
  · intro hpublished
    exact Or.inl hpublished

/-- A step with exactly one effect on the holder's own object. -/
theorem HolderStep.one {fs' : Fs} {stage' : HolderStage} {e : Effect}
    (hafter : HolderAt fs' owner call stage') (hframe : Frame call none fs fs')
    (htrace : fs'.trace = fs.trace ++ [e]) (hcall : e.call = call) (hcreator : e.creator = some call)
    (hremoval : e.removal ≠ .renamed .owner .recovering)
    (hpublished : (∃ file, stage = published owner file) →
      (∃ file, stage' = published owner file) ∨ e.removal = .unlinked .owner) :
    HolderStep owner call stage stage' fs fs' := by
  refine ⟨hafter, hframe, [e], htrace, ?_, ?_⟩
  · intro e' he'
    rw [List.mem_singleton] at he'
    subst he'
    exact ⟨hcall, hcreator, hremoval⟩
  · intro h
    rcases hpublished h with hstill | hunlinked
    · exact Or.inl hstill
    · exact Or.inr ⟨e, List.mem_singleton.mpr rfl, hunlinked⟩

theorem holder_step_mkdir (h : HolderAt fs owner call .outside)
    (hvalid : validateLocalFileLockOwner owner = .ok ()) (choice : Choice) :
    ∃ stage', (holderProtocol owner).moves .outside .mkdir (fs.mkdir call choice).1 stage' ∧
      HolderStep owner call .outside stage' fs (fs.mkdir call choice).2 := by
  unfold Fs.mkdir
  split
  · exact ⟨.outside, rfl, .stay h (.refl call fs)⟩
  · exact ⟨.outside, rfl, .stay h (.refl call fs)⟩
  · rename_i stat hparent hlock
    split
    · refine ⟨.inside none, rfl, ⟨hvalid, fun _ hm => (nomatch hm), _, ⟨rfl, rfl, rfl, rfl,
        fun _ hm => (nomatch hm)⟩, rfl⟩, ⟨?_, ?_, ?_, fun _ _ => rfl, Nat.le_refl _,
        fun _ _ => ⟨rfl, fun _ => rfl⟩⟩, [], (List.append_nil _).symm, fun _ he => (nomatch he), ?_⟩
      · intro node call' marker _ _ hinside
        rw [hinside.lock] at hlock
        cases hlock
      · intro call' hne _ node hnode
        cases hnode
        intro heq
        exact hne (Option.some.inj heq).symm
      · intro node hnode hforeign
        cases hnode
        cases hforeign
      · rintro ⟨file, hfile⟩
        cases hfile
    · exact ⟨.outside, rfl, .stay h (.refl call fs)⟩

theorem holder_step_rmdir {marker : Option Marker} (h : HolderAt fs owner call (.inside marker))
    (choice : Choice) :
    ∃ stage', (holderProtocol owner).moves (.inside marker) .rmdir (fs.rmdir call choice).1 stage' ∧
      HolderStep owner call (.inside marker) stage' fs (fs.rmdir call choice).2 := by
  obtain ⟨hvalid, hsound, node, hinside, hcreator⟩ := h
  cases marker with
  | none =>
    rw [hinside.rmdir_empty]
    refine ⟨.outside, ⟨rfl, rfl⟩, ?_⟩
    apply HolderStep.one
    · intro node' hnode
      cases hnode
    · apply Frame.of_tenant hinside
      · intro node' hnode
        cases hnode
      · rfl
      · exact Nat.le_refl _
      · exact fun _ _ => ⟨rfl, fun _ => rfl⟩
    · rfl
    · rfl
    · exact hcreator
    · exact Removal.noConfusion
    · rintro ⟨file, hfile⟩
      cases hfile
  | some m =>
    rw [hinside.rmdir_occupied]
    exact ⟨_, rfl, .stay ⟨hvalid, hsound, node, hinside, hcreator⟩ (.refl call fs)⟩

theorem holder_step_openExclusive (h : HolderAt fs owner call (.inside none)) (choice : Choice) :
    ∃ stage', (holderProtocol owner).moves (.inside none) (.openExclusive .pending)
        (fs.openExclusive call .pending choice).1 stage' ∧
      HolderStep owner call (.inside none) stage' fs (fs.openExclusive call .pending choice).2 := by
  obtain ⟨hvalid, hsound, node, hinside, hcreator⟩ := h
  have hlookup := hinside.lookup_empty .pending
  have hold : ∀ n, n < fs.count → (if n = fs.count then
      (⟨.file, 0o600, 1, [], choice.identity, some call⟩ : File) else fs.files n) = fs.files n := by
    intro n hn
    exact if_neg (Nat.ne_of_lt hn)
  unfold Fs.openExclusive
  rw [hinside.directory_eq]
  dsimp only
  rw [hlookup]
  refine ⟨.inside (some ⟨.pending, fs.count, []⟩), rfl, ⟨hvalid, ?_, { node with
    entries := node.entries ++ [(.pending, fs.count)] }, ⟨rfl, hinside.directory, hinside.tenant, ?_,
    ?_⟩, hcreator⟩, ?_, [], (List.append_nil _).symm, fun _ he => (nomatch he), ?_⟩
  · intro m hm
    cases hm
    exact Or.inl rfl
  · change node.entries ++ _ = _
    rw [hinside.entries]
    rfl
  · intro m hm
    cases hm
    refine ⟨Nat.lt_succ_self _, ?_, ?_⟩
    · change (if fs.count = fs.count then _ else _ : File).content = []
      rw [if_pos rfl]
    · change (if fs.count = fs.count then _ else _ : File).creator = node.creator
      rw [if_pos rfl, hcreator]
  · apply Frame.of_tenant hinside
    · intro node' hnode
      cases hnode
      exact hinside.tenant
    · rfl
    · exact Nat.le_succ _
    · intro n hn
      change (if n = fs.count then _ else _ : File).creator = _ ∧
        (_ → (if n = fs.count then _ else _ : File).content = _)
      rw [hold n hn]
      exact ⟨rfl, fun _ => rfl⟩
  · rintro ⟨file, hfile⟩
    cases hfile

theorem holder_step_write {handle : Nat}
    (h : HolderAt fs owner call (.inside (some ⟨.pending, handle, []⟩))) :
    HolderStep owner call (.inside (some ⟨.pending, handle, []⟩))
      (.inside (some ⟨.pending, handle, encode owner⟩)) fs (fs.write handle (encode owner)) := by
  obtain ⟨hvalid, hsound, node, hinside, hcreator⟩ := h
  obtain ⟨hcount, hcontent, hmine⟩ := hinside.file _ rfl
  dsimp only at hcount hcontent hmine
  refine ⟨⟨hvalid, ?_, node, ⟨hinside.lock, hinside.directory, hinside.tenant, hinside.entries, ?_⟩,
    hcreator⟩, ?_, [], (List.append_nil _).symm, fun _ he => (nomatch he), ?_⟩
  · intro m hm
    cases hm
    exact Or.inl rfl
  · intro m hm
    cases hm
    refine ⟨hcount, ?_, ?_⟩
    · change (if handle = handle then _ else _ : File).content = _
      rw [if_pos rfl]
      change (fs.files handle).content ++ _ = _
      rw [hcontent, List.nil_append]
    · change (if handle = handle then _ else _ : File).creator = _
      rw [if_pos rfl]
      exact hmine
  · apply Frame.of_tenant hinside
    · intro node' hnode
      cases hinside.lock.symm.trans hnode
      exact hinside.tenant
    · rfl
    · exact Nat.le_refl _
    · intro n _
      change (if n = handle then _ else _ : File).creator = _ ∧
        (_ → (if n = handle then _ else _ : File).content = _)
      split
      · rename_i hn
        subst hn
        exact ⟨rfl, fun hne => absurd hcontent hne⟩
      · exact ⟨rfl, fun _ => rfl⟩
  · rintro ⟨file, hfile⟩
    cases hfile

theorem holder_step_rename {file : Nat}
    (h : HolderAt fs owner call (.inside (some ⟨.pending, file, encode owner⟩))) (choice : Choice) :
    ∃ stage', (holderProtocol owner).moves (.inside (some ⟨.pending, file, encode owner⟩))
        (.rename .pending .owner) (fs.rename call .pending .owner choice).1 stage' ∧
      HolderStep owner call (.inside (some ⟨.pending, file, encode owner⟩)) stage' fs
        (fs.rename call .pending .owner choice).2 := by
  obtain ⟨hvalid, hsound, node, hinside, hcreator⟩ := h
  have hne : Name.owner ≠ Name.pending := Name.noConfusion
  obtain ⟨fs', hfs', hsteady, hlock, htrace⟩ := hinside.rename_marker call hne choice
  obtain ⟨hcount, hcontent, hmine⟩ := hinside.file _ rfl
  dsimp only at hfs' hlock htrace hcount hcontent hmine
  rw [hfs']
  have htenant : ∀ node', fs'.lock = some node' → node'.tenant = some call := by
    intro node' hnode
    cases hlock.symm.trans hnode
    exact hinside.tenant
  refine ⟨published owner file, ⟨file, encode owner, rfl, rfl⟩, ?_⟩
  apply HolderStep.one (e := ⟨call, .renamed .pending .owner, node.creator, encode owner⟩)
  · refine ⟨hvalid, ?_, _, ⟨hlock, hinside.directory, hinside.tenant, rfl, ?_⟩, hcreator⟩
    · intro m hm
      cases hm
      exact Or.inr ⟨rfl, rfl⟩
    · intro m hm
      cases hm
      refine ⟨hsteady.count.symm ▸ hcount, ?_, ?_⟩
      · exact (hsteady.files file).2.trans hcontent
      · exact (hsteady.files file).1.trans hmine
  · exact hsteady.frame hinside htenant
  · exact htrace
  · rfl
  · exact hcreator
  · intro heq
    cases heq
  · intro _
    exact Or.inl ⟨file, rfl⟩

theorem holder_step_unlink {marker : Option Marker} (h : HolderAt fs owner call (.inside marker))
    (name : Name) (choice : Choice) :
    ∃ stage', (holderProtocol owner).moves (.inside marker) (.unlink name)
        (fs.unlink call name choice).1 stage' ∧
      HolderStep owner call (.inside marker) stage' fs (fs.unlink call name choice).2 := by
  have hat := h
  obtain ⟨hvalid, hsound, node, hinside, hcreator⟩ := h
  rcases hinside.unlink_cases call name choice with ⟨error, herror⟩ |
    ⟨fs', file, content, hok, rfl, hinside', hsteady, htrace⟩
  · rw [herror]
    exact ⟨_, rfl, .stay hat (.refl call fs)⟩
  · rw [hok]
    refine ⟨.inside none, ⟨file, content, rfl, rfl⟩, ?_⟩
    apply HolderStep.one (e := ⟨call, .unlinked name, node.creator, content⟩)
    · exact ⟨hvalid, fun _ hm => (nomatch hm), _, hinside', hcreator⟩
    · apply hsteady.frame hinside
      intro node' hnode
      cases hinside'.lock.symm.trans hnode
      exact hinside.tenant
    · exact htrace
    · rfl
    · exact hcreator
    · exact Removal.noConfusion
    · rintro ⟨file', hfile⟩
      cases hfile
      exact Or.inr rfl

/-- Every allowed step of a holder. -/
theorem holder_step {op : FsOp} (h : HolderAt fs owner call stage)
    (hallows : (holderProtocol owner).allows stage op) (choice : Choice) :
    ∃ stage', (holderProtocol owner).moves stage op (fs.perform call choice op).1 stage' ∧
      HolderStep owner call stage stage' fs (fs.perform call choice op).2 := by
  cases op with
  | mkdir =>
    obtain ⟨rfl, hvalid⟩ := hallows
    exact holder_step_mkdir h hvalid choice
  | rmdir =>
    obtain ⟨marker, rfl⟩ := hallows
    exact holder_step_rmdir h choice
  | openExclusive name =>
    obtain ⟨rfl, rfl⟩ := hallows
    exact holder_step_openExclusive h choice
  | write handle bytes =>
    obtain ⟨rfl, rfl⟩ := hallows
    exact ⟨_, rfl, holder_step_write h⟩
  | rename source target =>
    obtain ⟨rfl, rfl, file, rfl⟩ := hallows
    exact holder_step_rename h choice
  | unlink name =>
    obtain ⟨marker, rfl⟩ := hallows
    exact holder_step_unlink h name choice
  | _ =>
    refine ⟨stage, ?_, .stay h (perform_reading hallows fs call choice)⟩
    cases hanswer : (fs.perform call choice _).1 <;> exact rfl

end Step

end OresLocks.LocalFile
