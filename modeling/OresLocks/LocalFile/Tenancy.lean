import OresLocks.LocalFile.RecoverProtocol

/-!
# Who may change the lock directory

The tenant of the directory is the call that made it, until a recovery claims it. Only
the tenant's stage is inside, and one step of any other call leaves the directory as
it is.
-/

namespace OresLocks.LocalFile

set_option autoImplicit false

open Shared.Programs JsString

def NotTenant (fs : Fs) (call : Call) : Prop :=
  ∀ node, fs.lock = some node → node.tenant ≠ some call

/-- The lock directory is `node`, it belongs to `tenant`, and `marker` is its only entry. -/
structure Inside (fs : Fs) (node : Node) (tenant : Call) (marker : Option Marker) : Prop where
  lock : fs.lock = some node
  directory : node.type = .directory
  tenant : node.tenant = some tenant
  entries : node.entries = marker.toList.map fun m => (m.name, m.file)
  file : ∀ m, marker = some m → m.file < fs.count ∧
    (fs.files m.file).content = m.content ∧ (fs.files m.file).creator = node.creator

theorem Inside.unique {fs : Fs} {node node' : Node} {call call' : Call}
    {marker marker' : Option Marker} (h : Inside fs node call marker)
    (h' : Inside fs node' call' marker') : call = call' := by
  have hnode : node = node' := Option.some.inj (h.lock.symm.trans h'.lock)
  subst hnode
  exact Option.some.inj (h.tenant.symm.trans h'.tenant)

/-- Everything but the parent and what the caller opened is as before. -/
structure SameLock (caller : Call) (fs fs' : Fs) : Prop where
  lock : fs'.lock = fs.lock
  files : fs'.files = fs.files
  count : fs'.count = fs.count
  trace : fs'.trace = fs.trace
  opened : ∀ call, call ≠ caller → fs'.opened call = fs.opened call

theorem SameLock.refl (caller : Call) (fs : Fs) : SameLock caller fs fs :=
  ⟨rfl, rfl, rfl, rfl, fun _ _ => rfl⟩

section Same

variable {caller : Call} {fs fs' : Fs}

theorem SameLock.notTenant (h : SameLock caller fs fs') {call : Call} (ht : NotTenant fs call) :
    NotTenant fs' call := by
  intro node hnode
  rw [h.lock] at hnode
  exact ht node hnode

theorem SameLock.inside (h : SameLock caller fs fs') {node : Node} {call : Call}
    {marker : Option Marker} (hi : Inside fs node call marker) : Inside fs' node call marker := by
  refine ⟨h.lock.trans hi.lock, hi.directory, hi.tenant, hi.entries, ?_⟩
  intro m hm
  rw [h.count, h.files]
  exact hi.file m hm

end Same

theorem perform_reading {op : FsOp} (h : op.IsReading) (fs : Fs) (caller : Call) (choice : Choice) :
    SameLock caller fs (fs.perform caller choice op).2 := by
  cases op with
  | mkdirParent =>
    change SameLock caller fs (fs.mkdirParent choice).2
    unfold Fs.mkdirParent
    split
    · exact ⟨rfl, rfl, rfl, rfl, fun _ _ => rfl⟩
    · split
      · exact .refl caller fs
      · exact .refl caller fs
  | openRead name =>
    change SameLock caller fs (fs.openRead caller name choice).2
    unfold Fs.openRead
    split
    · exact .refl caller fs
    · refine ⟨rfl, rfl, rfl, rfl, ?_⟩
      intro call hne
      exact if_neg hne
  | mkdir => simp [FsOp.IsReading, FsOp.IsLooking] at h
  | rmdir => simp [FsOp.IsReading, FsOp.IsLooking] at h
  | openExclusive name => simp [FsOp.IsReading, FsOp.IsLooking] at h
  | write handle bytes => simp [FsOp.IsReading, FsOp.IsLooking] at h
  | rename source target => simp [FsOp.IsReading, FsOp.IsLooking] at h
  | unlink name => simp [FsOp.IsReading, FsOp.IsLooking] at h
  | _ => exact .refl caller fs

/-- What a step of `actor` does to the others. A recovery takes the directory from its
`victim`. -/
structure Frame (actor : Call) (victim : Option Call) (fs fs' : Fs) : Prop where
  inside : ∀ node call marker, call ≠ actor → some call ≠ victim → Inside fs node call marker →
    Inside fs' node call marker
  notTenant : ∀ call, call ≠ actor → NotTenant fs call → NotTenant fs' call
  foreign : ∀ node, fs'.lock = some node → node.tenant = none → fs.lock = some node
  opened : ∀ call, call ≠ actor → fs'.opened call = fs.opened call
  count : fs.count ≤ fs'.count
  files : ∀ n, n < fs.count → (fs'.files n).creator = (fs.files n).creator ∧
    ((fs.files n).content ≠ [] → (fs'.files n).content = (fs.files n).content)

theorem SameLock.frame {caller : Call} {fs fs' : Fs} (h : SameLock caller fs fs') :
    Frame caller none fs fs' where
  inside _ _ _ _ _ hi := h.inside hi
  notTenant _ _ ht := h.notTenant ht
  foreign _ hnode _ := h.lock.symm.trans hnode
  opened := h.opened
  count := h.count.ge
  files := by
    intro n _
    rw [h.files]
    exact ⟨rfl, fun _ => rfl⟩

/-- A step of the tenant cannot touch another tenant's directory, since there is none. -/
theorem Frame.of_tenant {actor : Call} {fs fs' : Fs} {node : Node} {marker : Option Marker}
    (h : Inside fs node actor marker)
    (hlock : ∀ node', fs'.lock = some node' → node'.tenant = some actor)
    (hopened : fs'.opened = fs.opened) (hcount : fs.count ≤ fs'.count)
    (hfiles : ∀ n, n < fs.count → (fs'.files n).creator = (fs.files n).creator ∧
      ((fs.files n).content ≠ [] → (fs'.files n).content = (fs.files n).content)) :
    Frame actor none fs fs' where
  inside node' call marker' hne _ hi := absurd (hi.unique h) hne
  notTenant call hne _ node' hnode := by
    rw [hlock node' hnode]
    intro heq
    exact hne (Option.some.inj heq).symm
  foreign node' hnode hforeign := by
    rw [hlock node' hnode] at hforeign
    cases hforeign
  opened call _ := by rw [hopened]
  count := hcount
  files := hfiles

section InsideOps

variable {fs : Fs} {node : Node} {call : Call} {marker : Option Marker}

theorem Inside.directory_eq (h : Inside fs node call marker) (choice : Choice) :
    fs.directory choice = .ok node := by
  unfold Fs.directory
  rw [h.lock]
  exact if_pos h.directory

theorem Inside.lookup_empty (h : Inside fs node call none) (name : Name) :
    node.entries.lookup name = none := by
  rw [h.entries]
  rfl

theorem Inside.lookup_marker {m : Marker} (h : Inside fs node call (some m)) (name : Name) :
    node.entries.lookup name = if name = m.name then some m.file else none := by
  rw [h.entries]
  change List.lookup name [(m.name, m.file)] = _
  rw [List.lookup_cons]
  split
  · rename_i heq
    rw [if_pos (beq_iff_eq.mp heq)]
  · rename_i hne
    rw [if_neg (beq_eq_false_iff_ne.mp hne)]
    rfl

theorem Inside.entry_empty (h : Inside fs node call none) (name : Name) (choice : Choice) :
    fs.entry name choice = .error (Fs.error "ENOENT" choice) := by
  unfold Fs.entry
  rw [h.directory_eq]
  dsimp only
  rw [h.lookup_empty]

theorem Inside.entry_none {m : Marker} {name : Name} (h : Inside fs node call (some m))
    (hne : name ≠ m.name) (choice : Choice) :
    fs.entry name choice = .error (Fs.error "ENOENT" choice) := by
  unfold Fs.entry
  rw [h.directory_eq]
  dsimp only
  rw [h.lookup_marker, if_neg hne]

theorem Inside.entry_some {m : Marker} (h : Inside fs node call (some m)) (choice : Choice) :
    fs.entry m.name choice = .ok (node, m.file) := by
  unfold Fs.entry
  rw [h.directory_eq]
  dsimp only
  rw [h.lookup_marker, if_pos rfl]

/-- Links and directory entries apart, every file is as before. -/
structure Steady (fs fs' : Fs) : Prop where
  opened : fs'.opened = fs.opened
  count : fs'.count = fs.count
  files : ∀ n, (fs'.files n).creator = (fs.files n).creator ∧
    (fs'.files n).content = (fs.files n).content

theorem Steady.frame {fs fs' : Fs} {actor : Call} (hs : Steady fs fs')
    (h : Inside fs node actor marker)
    (hlock : ∀ node', fs'.lock = some node' → node'.tenant = some actor) :
    Frame actor none fs fs' :=
  .of_tenant h hlock hs.opened hs.count.ge fun n _ => ⟨(hs.files n).1, fun _ => (hs.files n).2⟩

theorem Inside.rmdir_empty (h : Inside fs node call none) (caller : Call) (choice : Choice) :
    fs.rmdir caller choice = (.ok (), { fs with
      lock := none, trace := fs.trace ++ [⟨caller, .removedDirectory, node.creator, []⟩] }) := by
  unfold Fs.rmdir
  rw [h.directory_eq]
  exact if_pos h.entries

theorem Inside.rmdir_occupied {m : Marker} (h : Inside fs node call (some m)) (caller : Call)
    (choice : Choice) :
    fs.rmdir caller choice = (.error (Fs.error "ENOTEMPTY" choice), fs) := by
  unfold Fs.rmdir
  rw [h.directory_eq]
  dsimp only
  rw [if_neg]
  rw [h.entries]
  exact List.cons_ne_nil _ _

/-- An `unlink` fails without effect, or it removes the marker of that name. -/
theorem Inside.unlink_cases (h : Inside fs node call marker) (caller : Call) (name : Name)
    (choice : Choice) :
    (∃ error, fs.unlink caller name choice = (.error error, fs)) ∨
    ∃ fs' file content, fs.unlink caller name choice = (.ok (), fs') ∧
      marker = some ⟨name, file, content⟩ ∧ Inside fs' { node with entries := [] } call none ∧
      Steady fs fs' ∧
      fs'.trace = fs.trace ++ [⟨caller, .unlinked name, node.creator, content⟩] := by
  unfold Fs.unlink
  cases marker with
  | none =>
    rw [h.entry_empty]
    exact Or.inl ⟨_, rfl⟩
  | some m =>
    by_cases hname : name = m.name
    · subst hname
      rw [h.entry_some]
      dsimp only
      obtain ⟨hcount, hcontent, hcreator⟩ := h.file m rfl
      split
      · exact Or.inl ⟨_, rfl⟩
      · refine Or.inr ⟨_, m.file, m.content, rfl, rfl, ?_, ?_, ?_⟩
        · refine ⟨?_, h.directory, h.tenant, rfl, fun _ hm => nomatch hm⟩
          have hentries : Fs.without node.entries m.name = [] := by
            rw [h.entries]
            simp [Fs.without]
          rw [hentries]
          rfl
        · refine ⟨rfl, rfl, ?_⟩
          intro n
          change ((if n = m.file then _ else _) : File).creator = _ ∧
            ((if n = m.file then _ else _) : File).content = _
          split
          · rename_i hn
            subst hn
            exact ⟨rfl, rfl⟩
          · exact ⟨rfl, rfl⟩
        · change fs.trace ++ [_] = _
          rw [hcreator, hcontent]
    · rw [h.entry_none hname]
      exact Or.inl ⟨_, rfl⟩

/-- A `rename` of the marker to another name. -/
theorem Inside.rename_marker {m : Marker} (h : Inside fs node call (some m)) (caller : Call)
    {target : Name} (hne : target ≠ m.name) (choice : Choice) :
    ∃ fs', fs.rename caller m.name target choice = (.ok (), fs') ∧ Steady fs fs' ∧
      fs'.lock = some { node with
        entries := [(target, m.file)]
        tenant := if target = .recovering then some caller else node.tenant } ∧
      fs'.trace = fs.trace ++ [⟨caller, .renamed m.name target, node.creator, m.content⟩] := by
  unfold Fs.rename
  obtain ⟨hcount, hcontent, hcreator⟩ := h.file m rfl
  rw [h.entry_some]
  dsimp only
  rw [h.lookup_marker, if_neg hne]
  dsimp only
  refine ⟨_, rfl, ⟨rfl, rfl, fun _ => ⟨rfl, rfl⟩⟩, ?_, ?_⟩
  · have hentries : Fs.without (Fs.without node.entries m.name) target ++ [(target, m.file)] =
        [(target, m.file)] := by
      rw [h.entries]
      simp [Fs.without]
    rw [hentries]
    rfl
  · change fs.trace ++ [_] = _
    rw [hcreator, hcontent]

end InsideOps

section Directories

variable {fs : Fs}

theorem directory_ok {choice : Choice} {node : Node} (h : fs.directory choice = .ok node) :
    fs.lock = some node := by
  unfold Fs.directory at h
  split at h
  · cases h
  · rename_i node' hlock
    split at h
    · cases h
      exact hlock
    · cases h

theorem entry_ok {name : Name} {choice : Choice} {node : Node} {file : Nat}
    (h : fs.entry name choice = .ok (node, file)) :
    fs.lock = some node ∧ node.entries.lookup name = some file := by
  unfold Fs.entry at h
  split at h
  · cases h
  · rename_i node' hdirectory
    split at h
    · cases h
    · rename_i file' hfile
      cases h
      exact ⟨directory_ok hdirectory, hfile⟩

/-- No directory of unknown origin stands at the lock path. -/
def Native (fs : Fs) : Prop := ∀ node, fs.lock = some node → node.tenant ≠ none

/-- Only `mkdir` makes a directory, and it names its tenant. -/
theorem Native.perform (h : Native fs) (call : Call) (choice : Choice) (op : FsOp) :
    Native (fs.perform call choice op).2 := by
  intro node hnode
  cases op with
  | mkdirParent =>
    apply h
    rw [← hnode]
    change fs.lock = (fs.mkdirParent choice).2.lock
    unfold Fs.mkdirParent
    split
    · rfl
    · split <;> rfl
  | mkdir =>
    change (fs.mkdir call choice).2.lock = some node at hnode
    unfold Fs.mkdir at hnode
    split at hnode
    · exact h node hnode
    · exact h node hnode
    · split at hnode
      · cases hnode
        exact Option.some_ne_none call
      · exact h node hnode
  | rmdir =>
    change (fs.rmdir call choice).2.lock = some node at hnode
    unfold Fs.rmdir at hnode
    split at hnode
    · exact h node hnode
    · split at hnode
      · cases hnode
      · exact h node hnode
  | openExclusive name =>
    change (fs.openExclusive call name choice).2.lock = some node at hnode
    unfold Fs.openExclusive at hnode
    split at hnode
    · exact h node hnode
    · rename_i node' hdir
      split at hnode
      · exact h node hnode
      · cases hnode
        exact h node' (directory_ok hdir)
  | openRead name =>
    change (fs.openRead call name choice).2.lock = some node at hnode
    unfold Fs.openRead at hnode
    split at hnode
    · exact h node hnode
    · exact h node hnode
  | rename source target =>
    change (fs.rename call source target choice).2.lock = some node at hnode
    unfold Fs.rename at hnode
    split at hnode
    · exact h node hnode
    · rename_i node' number hentry
      have hnative := h node' (entry_ok hentry).1
      have hmoved : (if target = .recovering then some call else node'.tenant) ≠ none := by
        split
        · exact Option.some_ne_none call
        · exact hnative
      dsimp only at hnode
      split at hnode
      · cases hnode
        exact hmoved
      · cases hnode
        exact hmoved
  | unlink name =>
    change (fs.unlink call name choice).2.lock = some node at hnode
    unfold Fs.unlink at hnode
    split at hnode
    · exact h node hnode
    · rename_i node' number hentry
      split at hnode
      · exact h node hnode
      · cases hnode
        exact h node' (entry_ok hentry).1
  | _ => exact h node hnode

end Directories

end OresLocks.LocalFile
