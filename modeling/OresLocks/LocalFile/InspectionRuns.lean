import OresLocks.LocalFile.Tidiness

/-!
# One inspection among clean acquisitions and releases

The filesystem steps of one inspection are interleaved with those of any number of
acquisitions and releases. A directory stream shows names that the directory has had
since the stream was opened, and need not show all of them. `streamed`, `shown` and
`looked` are read by no operation: they record which names those are, whether the stream
has shown one, and what the last look at the owner marker saw.
-/

namespace OresLocks.LocalFile

set_option autoImplicit false

open Shared.Programs Shared.Runs JsString

structure Watch where
  system : System
  program : FsProg (Except Failure LocalFileLockInspection)
  streamed : List Name
  shown : Bool
  looked : Option Stat

inductive WatchAction where
  | other (action : Action)
  | inspect (choice : Choice)

def Fs.names (fs : Fs) : List Name :=
  match fs.lock with
  | none => []
  | some node => node.entries.map (·.1)

/-- This owner is the one in the owner marker. -/
def Fs.Published (fs : Fs) (owner : JsString) : Prop :=
  validateLocalFileLockOwner owner = .ok () ∧ ∃ node file, fs.lock = some node ∧
    node.entries.lookup .owner = some file ∧ (fs.files file).content = encode owner

namespace Watch

/-- What a directory stream may show. -/
def streams (w : Watch) (choice : Choice) : Bool :=
  choice.entry.all fun name => decide (name ∈ w.streamed)

/-- The inspection gets the answer to its pending step. -/
def answered (watcher : Call) (w : Watch) (choice : Choice) (op : FsOp)
    (next : FsAnswer op → FsProg (Except Failure LocalFileLockInspection)) : Watch where
  system := { w.system with fs := (w.system.fs.perform watcher choice op).2 }
  program := next (w.system.fs.perform watcher choice op).1
  streamed := if op = .opendir then w.system.fs.names else w.streamed
  shown :=
    if op = .opendir then false
    else if op = .readDirectory then w.shown || choice.entry.isSome
    else w.shown
  looked :=
    if op = .lstat (.entry .owner) then (w.system.fs.lstat (.entry .owner) choice).toOption
    else w.looked

def step (watcher : Call) (w : Watch) : WatchAction → Option Watch
  | .other action =>
    if action.IsClean then
      (w.system.step false action).map fun system =>
        { w with system, streamed := w.streamed ++ system.fs.names }
    else none
  | .inspect choice =>
    match w.program with
    | .done _ => none
    | .call op next =>
      if op = .readDirectory ∧ ¬ w.streams choice then none
      else some (w.answered watcher choice op next)

/-- The filesystem step the inspection waits for. -/
def pending (w : Watch) : Option FsOp :=
  match w.program with
  | .done _ => none
  | .call op _ => some op

end Watch

def WatchStep (watcher : Call) (w : Watch) (action : WatchAction) (w' : Watch) : Prop :=
  w.step watcher action = some w'

/-- The file behind the handle is still the marker that was looked at. -/
def Watch.sameMarker (w : Watch) (handle : Nat) : Bool :=
  decide ((w.system.fs.files handle).nlink = 1) && w.looked.any fun looked =>
    decide ((w.system.fs.files handle).identity.dev = looked.identity.dev ∧
      (w.system.fs.files handle).identity.ino = looked.identity.ino)

/-- No transition meets a gap that the inspection leaves open: its stream does not show a
second name, the marker it opened is still the one it looked at when it asks for the
metadata of the handle, the owner it opens does not begin with U+FEFF for the TypeScript
decoder, and the directory it opens is still there for the Rust crate. -/
def Watch.undisturbed (inspector : Inspector) (w : Watch) : WatchAction → Bool
  | .other _ => true
  | .inspect choice =>
    match w.pending with
    | some .opendir => inspector ≠ .rust || w.system.fs.lock.isSome
    | some .readDirectory => !w.shown || choice.entry.isNone
    | some (.openRead _) => inspector ≠ .typeScript || !w.system.fs.ownerMarked
    | some (.fstat handle) => w.sameMarker handle
    | _ => true

/-- Before the inspection: nothing at the lock path, or a lock held by one handle. -/
inductive Ready (s : System) : Prop where
  | absent : s.Initial → s.fs.lock = none → Ready s
  | held (call : Call) (lock : LocalFileLock) (node : Node) (file : Nat) :
      s.threads = (fun c => if c = call then .holding lock else .idle) →
      lock.releaseState = .held → lock.releasePromise = none →
      s.fs.trace = [] →
      validateLocalFileLockOwner lock.owner = .ok () →
      Inside s.fs node call (some ⟨.owner, file, encode lock.owner⟩) →
      node.creator = some call → node.mode &&& 0o077 = 0 → (s.fs.files file).Linked → Ready s

def Inspector.start (inspector : Inspector) (s : System) : Watch :=
  ⟨s, inspector.inspect.run, [], false, none⟩

theorem inv_held {s : System} {call : Call} {lock : LocalFileLock} {node : Node} {file : Nat}
    (hthreads : s.threads = fun c => if c = call then .holding lock else .idle)
    (hpromise : lock.releasePromise = none) (htrace : s.fs.trace = [])
    (hvalid : validateLocalFileLockOwner lock.owner = .ok ())
    (hinside : Inside s.fs node call (some ⟨.owner, file, encode lock.owner⟩))
    (hcreator : node.creator = some call) : Inv s where
  threads c := by
    rw [hthreads]
    change HolderThread s.fs c (if c = call then .holding lock else .idle)
    split
    · rename_i hc
      subst hc
      refine ⟨published lock.owner file, ⟨hvalid, ?_, node, hinside, hcreator⟩, ?_, Or.inl ⟨file, rfl⟩⟩
      · intro m hm
        cases hm
        exact Or.inr ⟨rfl, rfl⟩
      · unfold ReleaseAt
        rw [hpromise]
        intro _
        exact ⟨file, rfl⟩
    · rename_i hne
      intro node' hnode htenant
      cases hnode.symm.trans hinside.lock
      exact hne (Option.some.inj (htenant.symm.trans hinside.tenant))
  effects e he := by
    rw [htrace] at he
    cases he

theorem Ready.clean {s : System} (h : Ready s) : Clean s := by
  cases h with
  | absent hinitial hlock =>
    have hnone : ∀ node, s.fs.lock ≠ some node := by
      intro node hnode
      rw [hlock] at hnode
      cases hnode
    exact ⟨inv_initial hinitial, fun node hnode => absurd hnode (hnone node),
      fun node hnode => absurd hnode (hnone node), fun node hnode => absurd hnode (hnone node)⟩
  | held call lock node file hthreads _ hpromise htrace hvalid hinside hcreator hmode hlinked =>
    refine ⟨inv_held hthreads hpromise htrace hvalid hinside hcreator, ?_, ?_, ?_⟩
    · intro node' hnode
      cases hnode.symm.trans hinside.lock
      rw [hinside.tenant]
      exact Option.some_ne_none call
    · intro node' hnode
      cases hnode.symm.trans hinside.lock
      exact hmode
    · intro node' hnode entry hentry
      cases hnode.symm.trans hinside.lock
      rw [hinside.entries] at hentry
      cases List.mem_singleton.mp hentry
      exact hlinked

section Looking

variable {s : System}

/-- The names of a clean path. -/
theorem Clean.names (h : Clean s) {name : Name} (hname : name ∈ s.fs.names) :
    name = .pending ∨ name = .owner := by
  unfold Fs.names at hname
  split at hname
  · cases hname
  · rename_i node hlock
    obtain ⟨call, owner, marker, hinside, _, hsound⟩ := h.inside hlock
    rw [hinside.entries] at hname
    cases marker with
    | none => cases hname
    | some m =>
      cases List.mem_singleton.mp hname
      rcases hsound m rfl with hpending | ⟨howner, _⟩
      · exact Or.inl hpending
      · exact Or.inr howner

/-- An operation on the owner marker of a clean path finds it published, or nothing. -/
theorem Clean.entry_owner (h : Clean s) (choice : Choice) :
    (∃ error, s.fs.entry .owner choice = .error error ∧ error.code = some "ENOENT") ∨
    ∃ node file owner, s.fs.entry .owner choice = .ok (node, file) ∧ s.fs.lock = some node ∧
      node.entries.lookup .owner = some file ∧ file < s.fs.count ∧ (s.fs.files file).Linked ∧
      validateLocalFileLockOwner owner = .ok () ∧ (s.fs.files file).content = encode owner := by
  cases hlock : s.fs.lock with
  | none =>
    left
    unfold Fs.entry Fs.directory
    rw [hlock]
    exact ⟨_, rfl, rfl⟩
  | some node =>
    obtain ⟨call, owner, marker, hinside, hvalid, hsound⟩ := h.inside hlock
    cases marker with
    | none =>
      left
      rw [hinside.entry_empty]
      exact ⟨_, rfl, rfl⟩
    | some m =>
      by_cases hname : Name.owner = m.name
      · right
        have hentry := hinside.entry_some choice
        have hlookup := hinside.lookup_marker .owner
        obtain ⟨hcount, hcontent, _⟩ := hinside.file m rfl
        rw [← hname] at hentry
        rw [if_pos hname] at hlookup
        have hlinked := h.tidy.marker node hlock (m.name, m.file) (by simp [hinside.entries])
        refine ⟨node, m.file, owner, hentry, rfl, hlookup, hcount, hlinked, hvalid, ?_⟩
        rcases hsound m rfl with hpending | ⟨_, hwhole⟩
        · rw [hpending] at hname
          cases hname
        · rw [hcontent, hwhole]
      · left
        rw [hinside.entry_none hname]
        exact ⟨_, rfl, rfl⟩

end Looking

/-- What the watch knows in a stage; `seen` are the owners that were published during the
call. -/
def WatchAt (seen : JsString → Prop) (w : Watch) : InspectStage → Prop
  | .looking => True
  | .listing shown => w.shown = shown ∧ ∀ name ∈ w.streamed, name = .pending ∨ name = .owner
  | .found looked => w.looked = some looked
  | .reading looked handle owner => w.looked = some looked ∧ handle < w.system.fs.count ∧
      (w.system.fs.files handle).content = encode owner ∧
      (w.system.fs.files handle).type = .file ∧ (w.system.fs.files handle).mode &&& 0o077 = 0 ∧
      validateLocalFileLockOwner owner = .ok () ∧ seen owner

theorem WatchAt.mono {seen seen' : JsString → Prop} (hmono : ∀ owner, seen owner → seen' owner)
    {w : Watch} {stage : InspectStage} (h : WatchAt seen w stage) : WatchAt seen' w stage := by
  cases stage with
  | reading looked handle owner =>
    obtain ⟨hlooked, hcount, hcontent, htype, hmode, hvalid, hseen⟩ := h
    exact ⟨hlooked, hcount, hcontent, htype, hmode, hvalid, hmono owner hseen⟩
  | _ => exact h

/-- An inspection keeps its stage while others move. -/
theorem WatchAt.other {seen : JsString → Prop} {w : Watch} {t : System} {stage : InspectStage}
    (h : WatchAt seen w stage) (hstep : CleanStep w.system t) :
    WatchAt seen { w with system := t, streamed := w.streamed ++ t.fs.names } stage := by
  cases stage with
  | looking => trivial
  | listing shown =>
    refine ⟨h.1, ?_⟩
    intro name hname
    rcases List.mem_append.mp hname with hbefore | hnow
    · exact h.2 name hbefore
    · exact hstep.after.names hnow
  | found looked => exact h
  | reading looked handle owner =>
    obtain ⟨hlooked, hcount, hcontent, htype, hmode, hvalid, hseen⟩ := h
    obtain ⟨actor, hframe⟩ := hstep.frame
    obtain ⟨hne, hlone, _⟩ := valid_parts hvalid
    have hnonempty : (w.system.fs.files handle).content ≠ [] := by
      rw [hcontent]
      exact encode_ne_nil hlone hne
    obtain ⟨htype', hmode'⟩ := hstep.kept handle hcount
    refine ⟨hlooked, Nat.lt_of_lt_of_le hcount hframe.count, ?_, htype'.trans htype, ?_, hvalid, hseen⟩
    · exact ((hframe.files handle hcount).2 hnonempty).trans hcontent
    · rw [hmode']
      exact hmode

section Inspecting

variable {inspector : Inspector} {watcher : Call} {w : Watch} {choice : Choice}
  {seen seen' : JsString → Prop} {stage : InspectStage}

/-- The lock path itself is absent or a private directory. -/
theorem Clean.lstat_lock {s : System} (h : Clean s) (choice : Choice) :
    (∃ error, s.fs.lstat .lock choice = .error error ∧ error.code = some "ENOENT") ∨
    ∃ stat, s.fs.lstat .lock choice = .ok stat ∧ stat.type = .directory ∧ stat.mode &&& 0o077 = 0 := by
  unfold Fs.lstat
  dsimp only
  split
  · exact Or.inl ⟨_, rfl, rfl⟩
  · rename_i node hlock
    obtain ⟨call, owner, marker, hinside, _, _⟩ := h.inside hlock
    exact Or.inr ⟨_, rfl, hinside.directory, h.tidy.mode node hlock⟩

theorem Clean.lstat_owner {s : System} (h : Clean s) (choice : Choice) :
    (∃ error, s.fs.lstat (.entry .owner) choice = .error error ∧ error.code = some "ENOENT") ∨
    ∃ stat, s.fs.lstat (.entry .owner) choice = .ok stat ∧ OwnerStat stat := by
  unfold Fs.lstat
  dsimp only
  rcases h.entry_owner choice with ⟨error, herror, hcode⟩ |
    ⟨node, file, owner, hok, _, _, _, ⟨htype, hnlink, hmode⟩, hvalid, hcontent⟩
  · rw [herror]
    exact Or.inl ⟨error, rfl, hcode⟩
  · rw [hok]
    refine Or.inr ⟨_, rfl, htype, hnlink, hmode, ?_⟩
    change (s.fs.files file).content.length ≤ _
    rw [hcontent]
    exact valid_size hvalid

/-- The pending step is answered as the protocol says, and the watch then knows what the
next stage says. -/
def Advances (inspector : Inspector) (watcher : Call) (choice : Choice) (seen : JsString → Prop)
    (w : Watch) (stage : InspectStage) (op : FsOp)
    (next : FsAnswer op → FsProg (Except Failure LocalFileLockInspection)) : Prop :=
  ∃ stage', (inspectProtocol inspector).moves stage op (w.system.fs.perform watcher choice op).1
    stage' ∧ WatchAt seen (w.answered watcher choice op next) stage'

theorem advances_lstat_lock (hclean : Clean w.system) (hat : WatchAt seen w stage)
    (next : FsAnswer (.lstat .lock) → FsProg (Except Failure LocalFileLockInspection)) :
    Advances inspector watcher choice seen w stage (.lstat .lock) next := by
  change ∃ stage', (inspectProtocol inspector).moves stage (.lstat .lock)
    (w.system.fs.lstat .lock choice) stage' ∧ _
  rcases hclean.lstat_lock choice with ⟨error, herror, hcode⟩ | ⟨stat, hok, htype, hmode⟩
  · rw [herror]
    exact ⟨stage, ⟨hcode, rfl⟩, hat⟩
  · rw [hok]
    exact ⟨stage, ⟨htype, hmode, rfl⟩, hat⟩

theorem advances_lstat_owner (hclean : Clean w.system)
    (next : FsAnswer (.lstat (.entry .owner)) → FsProg (Except Failure LocalFileLockInspection)) :
    Advances inspector watcher choice seen w stage (.lstat (.entry .owner)) next := by
  change ∃ stage', (inspectProtocol inspector).moves stage (.lstat (.entry .owner))
    (w.system.fs.lstat (.entry .owner) choice) stage' ∧ _
  rcases hclean.lstat_owner choice with ⟨error, herror, hcode⟩ | ⟨stat, hok, hstat⟩
  · rw [herror]
    exact ⟨.looking, ⟨hcode, rfl⟩, trivial⟩
  · have hlooked : (w.answered watcher choice (.lstat (.entry .owner)) next).looked = some stat := by
      change (w.system.fs.lstat (.entry .owner) choice).toOption = some stat
      rw [hok]
      rfl
    rw [hok]
    exact ⟨.found stat, ⟨hstat, rfl⟩, hlooked⟩

theorem advances_opendir (hclean : Clean w.system)
    (hpresent : inspector = .rust → w.system.fs.lock ≠ none)
    (next : FsAnswer .opendir → FsProg (Except Failure LocalFileLockInspection)) :
    Advances inspector watcher choice seen w stage .opendir next := by
  change ∃ stage', (inspectProtocol inspector).moves stage .opendir (w.system.fs.opendir choice)
    stage' ∧ _
  unfold Fs.opendir Fs.directory
  cases hlock : w.system.fs.lock with
  | none =>
    cases inspector with
    | rust => exact absurd hlock (hpresent rfl)
    | typeScript => exact ⟨.looking, ⟨rfl, rfl, rfl⟩, trivial⟩
  | some node =>
    obtain ⟨call, owner, marker, hinside, _, _⟩ := hclean.inside hlock
    dsimp only
    rw [if_pos hinside.directory]
    exact ⟨.listing false, rfl, rfl, fun name hname => hclean.names hname⟩

theorem advances_readDirectory {shown : Bool} (hat : WatchAt seen w (.listing shown))
    (hstreams : w.streams choice = true) (hsecond : w.shown = true → choice.entry = none)
    (next : FsAnswer .readDirectory → FsProg (Except Failure LocalFileLockInspection)) :
    Advances inspector watcher choice seen w (.listing shown) .readDirectory next := by
  obtain ⟨hshown, hnames⟩ := hat
  change ∃ stage', (inspectProtocol inspector).moves (.listing shown) .readDirectory
    (.ok choice.entry) stage' ∧ _
  cases hentry : choice.entry with
  | none =>
    refine ⟨.listing shown, rfl, ?_, hnames⟩
    change (w.shown || choice.entry.isSome) = shown
    rw [hentry, Option.isSome_none, Bool.or_false, hshown]
  | some name =>
    rw [Watch.streams, hentry] at hstreams
    have hname := hnames name (of_decide_eq_true hstreams)
    have hfirst : shown = false := by
      cases shown with
      | false => rfl
      | true =>
        have hnone := hsecond hshown
        rw [hentry] at hnone
        cases hnone
    subst hfirst
    refine ⟨.listing true, ⟨rfl, rfl, hname⟩, ?_, hnames⟩
    change (w.shown || choice.entry.isSome) = true
    rw [hentry, Option.isSome_some, Bool.or_true]

theorem advances_openRead {looked : Stat} (hclean : Clean w.system)
    (hat : WatchAt seen w (.found looked))
    (hmarked : inspector = .typeScript → w.system.fs.ownerMarked = false)
    (hnow : ∀ owner, w.system.fs.Published owner → seen owner)
    (next : FsAnswer (.openRead .owner) → FsProg (Except Failure LocalFileLockInspection)) :
    Advances inspector watcher choice seen w (.found looked) (.openRead .owner) next := by
  have hsame := perform_reading (Or.inr (Or.inl rfl)) w.system.fs watcher choice
  change ∃ stage', (inspectProtocol inspector).moves (.found looked) (.openRead .owner)
    (w.system.fs.openRead watcher .owner choice).1 stage' ∧ _
  rcases hclean.entry_owner choice with ⟨error, herror, hcode⟩ |
    ⟨node, file, owner, hok, hlock, hlookup, hcount, ⟨htype, _, hmode⟩, hvalid, hcontent⟩
  · unfold Fs.openRead
    rw [herror]
    exact ⟨.found looked, ⟨hcode, rfl⟩, hat⟩
  have hanswer : (w.system.fs.openRead watcher .owner choice).1 = .ok file := by
    unfold Fs.openRead
    rw [hok]
  have hunmarked : inspector = .typeScript → Unmarked owner := by
    intro hts
    have hbytes := hmarked hts
    unfold Fs.ownerMarked at hbytes
    rw [hlock] at hbytes
    dsimp only at hbytes
    rw [hlookup] at hbytes
    dsimp only at hbytes
    rw [hcontent] at hbytes
    exact unmarked_of_bytes (of_decide_eq_false hbytes)
  rw [hanswer]
  refine ⟨.reading looked file owner, ⟨looked, owner, rfl, hvalid, hunmarked, rfl⟩, hat, ?_⟩
  change file < (w.system.fs.perform watcher choice (.openRead .owner)).2.count ∧
    ((w.system.fs.perform watcher choice (.openRead .owner)).2.files file).content = _ ∧
    ((w.system.fs.perform watcher choice (.openRead .owner)).2.files file).type = _ ∧
    ((w.system.fs.perform watcher choice (.openRead .owner)).2.files file).mode &&& 0o077 = 0 ∧ _
  rw [hsame.count, hsame.files]
  exact ⟨hcount, hcontent, htype, hmode, hvalid,
    hnow owner ⟨hvalid, node, file, hlock, hlookup, hcontent⟩⟩

theorem advances_fstat {looked : Stat} {handle : Nat} {owner : JsString}
    (hat : WatchAt seen w (.reading looked handle owner)) (hsame : w.sameMarker handle = true)
    (next : FsAnswer (.fstat handle) → FsProg (Except Failure LocalFileLockInspection)) :
    Advances inspector watcher choice seen w (.reading looked handle owner) (.fstat handle) next := by
  have hat' := hat
  obtain ⟨hlooked, _, hcontent, htype, hmode, hvalid, _⟩ := hat
  simp only [Watch.sameMarker, hlooked, Option.any_some, Bool.and_eq_true, decide_eq_true_eq] at hsame
  obtain ⟨hnlink, hdev, hino⟩ := hsame
  refine ⟨.reading looked handle owner, ⟨rfl, ⟨htype, hnlink, hmode, ?_⟩, ?_⟩, hat'⟩
  · change (w.system.fs.files handle).content.length ≤ _
    rw [hcontent]
    exact valid_size hvalid
  · intro looked' handle' owner' heq
    cases heq
    exact ⟨hdev, hino⟩

theorem advances_read {looked : Stat} {handle position length : Nat} {owner : JsString}
    (hat : WatchAt seen w (.reading looked handle owner))
    (next : FsAnswer (.read handle position length) →
      FsProg (Except Failure LocalFileLockInspection)) :
    Advances inspector watcher choice seen w (.reading looked handle owner)
      (.read handle position length) next := by
  have hcontent := hat.2.2.1
  refine ⟨.reading looked handle owner, ⟨rfl, ?_⟩, hat⟩
  intro looked' handle' owner' heq
  cases heq
  refine ⟨min length (max 1 choice.bytesRead), ?_, ?_⟩
  · change ((w.system.fs.files handle).content.drop position).take _ = _
    rw [hcontent]
  · intro hpos
    omega

/-- One step of an undisturbed inspection. -/
theorem watch_inspected (watcher : Call) {op : FsOp}
    {next : FsAnswer op → FsProg (Except Failure LocalFileLockInspection)}
    (hclean : Clean w.system) (hat : WatchAt seen w stage)
    (hallows : (inspectProtocol inspector).allows stage op) (hprogram : w.program = .call op next)
    (hstreams : op = .readDirectory → w.streams choice = true)
    (hquiet : w.undisturbed inspector (.inspect choice) = true)
    (hnow : ∀ owner, w.system.fs.Published owner → seen owner) :
    Advances inspector watcher choice seen w stage op next := by
  have hpending : w.pending = some op := by
    unfold Watch.pending
    rw [hprogram]
  unfold Watch.undisturbed at hquiet
  dsimp only at hquiet
  rw [hpending] at hquiet
  cases op with
  | lstat place =>
    cases place with
    | parent => exact hallows.elim
    | lock => exact advances_lstat_lock hclean hat next
    | entry name =>
      change name = .owner at hallows
      subst hallows
      exact advances_lstat_owner hclean next
  | opendir =>
    apply advances_opendir hclean
    intro hrust hnone
    simp [hrust, hnone] at hquiet
  | readDirectory =>
    obtain ⟨shown, rfl⟩ := hallows
    apply advances_readDirectory hat (hstreams rfl)
    intro hshown
    simpa [hshown] using hquiet
  | openRead name =>
    obtain ⟨rfl, looked, rfl⟩ := hallows
    apply advances_openRead hclean hat _ hnow
    intro hts
    simpa [hts] using hquiet
  | fstat handle =>
    obtain ⟨looked, owner, rfl⟩ := hallows
    exact advances_fstat hat hquiet next
  | read handle position length =>
    obtain ⟨looked, owner, rfl⟩ := hallows
    exact advances_read hat next
  | closeDirectory => exact ⟨stage, rfl, hat⟩
  | close handle => exact ⟨stage, rfl, hat⟩
  | _ => exact hallows.elim

/-- An inspection only reads. -/
theorem inspect_reads {op : FsOp} (h : (inspectProtocol inspector).allows stage op) :
    op.IsReading := by
  cases op with
  | lstat place => exact Or.inl trivial
  | opendir => exact Or.inl trivial
  | readDirectory => exact Or.inl trivial
  | closeDirectory => exact Or.inl trivial
  | fstat handle => exact Or.inl trivial
  | close handle => exact Or.inl trivial
  | openRead name =>
    obtain ⟨rfl, _⟩ := h
    exact Or.inr (Or.inl rfl)
  | read handle position length => exact Or.inr (Or.inr ⟨_, _, _, rfl⟩)
  | _ => exact h.elim

/-- The steps of a run in which nothing disturbs the inspection. -/
def QuietStep (inspector : Inspector) (watcher : Call) (w : Watch) (action : WatchAction)
    (w' : Watch) : Prop :=
  WatchStep watcher w action w' ∧ w.undisturbed inspector action = true

/-- The owner was published at some moment of the run. -/
def PublishedDuring (Step : Watch → WatchAction → Watch → Prop) (start : Watch)
    (actions : List WatchAction) (w : Watch) (owner : JsString) : Prop :=
  ∃ before moment after, actions = before ++ after ∧ Exec Step start before moment ∧
    Exec Step moment after w ∧ moment.system.fs.Published owner

section During

variable {Step : Watch → WatchAction → Watch → Prop} {start w' : Watch}
  {actions : List WatchAction} {action : WatchAction} {owner : JsString}

theorem PublishedDuring.snoc (h : PublishedDuring Step start actions w owner)
    (hstep : Step w action w') : PublishedDuring Step start (actions ++ [action]) w' owner := by
  obtain ⟨before, moment, after, rfl, hbefore, hafter, hpublished⟩ := h
  exact ⟨before, moment, after ++ [action], List.append_assoc _ _ _, hbefore, hafter.snoc hstep,
    hpublished⟩

theorem PublishedDuring.now (hrun : Exec Step start actions w) (hpublished : w.system.fs.Published owner)
    (hstep : Step w action w') : PublishedDuring Step start (actions ++ [action]) w' owner :=
  ⟨actions, w, [action], rfl, hrun, .single hstep, hpublished⟩

end During

/-- The path is clean, and the inspection follows its protocol from a stage that says what
it knows. -/
def Watching (inspector : Inspector) (seen : JsString → Prop) (w : Watch) : Prop :=
  Clean w.system ∧ ∃ stage, WatchAt seen w stage ∧
    Follows (inspectProtocol inspector) (Ends Closed fun _ _ => False) stage w.program

theorem Watching.step {w' : Watch} {action : WatchAction} (h : Watching inspector seen w)
    (hstep : QuietStep inspector watcher w action w') (hmono : ∀ owner, seen owner → seen' owner)
    (hnow : ∀ owner, w.system.fs.Published owner → seen' owner) : Watching inspector seen' w' := by
  obtain ⟨hclean, stage, hat, hfollows⟩ := h
  obtain ⟨hstep, hquiet⟩ := hstep
  cases action with
  | other action =>
    unfold WatchStep Watch.step at hstep
    dsimp only at hstep
    split at hstep
    · rename_i haction
      obtain ⟨t, ht, rfl⟩ := Option.map_eq_some_iff.mp hstep
      have hafter := hclean.step haction ht
      exact ⟨hafter.after, stage, (hat.other hafter).mono hmono, hfollows⟩
    · cases hstep
  | inspect choice =>
    unfold WatchStep Watch.step at hstep
    dsimp only at hstep
    split at hstep
    · cases hstep
    rename_i op next hprogram
    split at hstep
    · cases hstep
    · rename_i hshows
      cases hstep
      have hstreams : op = .readDirectory → w.streams choice = true := by
        intro hop
        by_contra hnot
        exact hshows ⟨hop, hnot⟩
      rw [hprogram] at hfollows
      obtain ⟨hallows, hnext⟩ := hfollows
      obtain ⟨stage', hmoves, hat'⟩ :=
        watch_inspected watcher hclean (hat.mono hmono) hallows hprogram hstreams hquiet hnow
      have hsame := perform_reading (inspect_reads hallows) w.system.fs watcher choice
      exact ⟨hclean.looked hsame, stage', hat', hnext _ stage' hmoves⟩

/-- Whatever the inspection has been answered, its own steps bring it to an end. -/
theorem inspection_completes (watcher : Call) (w : Watch) :
    ∃ actions w' result, Exec (WatchStep watcher) w actions w' ∧ w'.program = .done result := by
  obtain ⟨system, program, streamed, shown, looked⟩ := w
  induction program generalizing system streamed shown looked with
  | done result => exact ⟨[], _, result, .nil, rfl⟩
  | call op next ih =>
    let w : Watch := ⟨system, .call op next, streamed, shown, looked⟩
    let choice : Choice := ⟨"", ⟨0, 0, 0⟩, none, 0⟩
    have hstep : WatchStep watcher w (.inspect choice) (w.answered watcher choice op next) := by
      unfold WatchStep Watch.step
      dsimp only
      exact if_neg fun hshows => hshows.2 rfl
    obtain ⟨actions, w', result, hrun, hdone⟩ := ih (system.fs.perform watcher choice op).1
      (w.answered watcher choice op next).system (w.answered watcher choice op next).streamed
      (w.answered watcher choice op next).shown (w.answered watcher choice op next).looked
    exact ⟨.inspect choice :: actions, w', result, .append (.single hstep) hrun, hdone⟩

end Inspecting

/-- Over every interleaving of one inspection with clean acquisitions and releases of a path
that was absent or held: as long as nothing meets a gap of the inspection, it ends as
absent, incomplete, or held by an owner that was published during the call. In any case it
ends. -/
theorem inspection_closed (inspector : Inspector) (watcher : Call) {s : System} (hs : Ready s)
    {actions : List WatchAction} {w : Watch}
    (hrun : Exec (QuietStep inspector watcher) (inspector.start s) actions w) :
    (∀ result, w.program = .done result →
      result = .ok .absent ∨ (∃ message, result = .ok (.incomplete message)) ∨
      ∃ owner, result = .ok (.held owner) ∧
        PublishedDuring (QuietStep inspector watcher) (inspector.start s) actions w owner) ∧
    ∃ actions' w' result, Exec (WatchStep watcher) w actions' w' ∧ w'.program = .done result := by
  refine ⟨?_, inspection_completes watcher w⟩
  have hwatching : Watching inspector
      (PublishedDuring (QuietStep inspector watcher) (inspector.start s) actions w) w := by
    refine hrun.invariant (I := fun actions w => Watching inspector
      (PublishedDuring (QuietStep inspector watcher) (inspector.start s) actions w) w) ?_ ?_
    · exact ⟨hs.clean, .looking, trivial, inspect_closed inspector⟩
    · intro actions w action w' hbefore ih hstep
      exact ih.step hstep (fun owner h => h.snoc hstep) (fun owner h => .now hbefore h hstep)
  intro result hdone
  obtain ⟨_, stage, hat, hfollows⟩ := hwatching
  rw [hdone] at hfollows
  cases result with
  | error failure => exact hfollows.elim
  | ok inspection =>
    cases inspection with
    | absent => exact Or.inl rfl
    | incomplete message => exact Or.inr (Or.inl ⟨message, rfl⟩)
    | compromised reason message => exact hfollows.elim
    | held owner =>
      obtain ⟨looked, handle, rfl⟩ := hfollows
      exact Or.inr (Or.inr ⟨owner, rfl, hat.2.2.2.2.2.2⟩)

section Samples

def sampleWatcher : Call := ⟨9, 0⟩

def sampleHandle : LocalFileLock := ⟨[0x78], ⟨1, 2, 3⟩, .held, none, none⟩

/-- The lock held under the owner `x`. -/
def sampleHeld : System where
  fs := {
    parent := some ⟨.directory, 0o700, 2, 0, ⟨1, 1, 1⟩⟩
    lock := some ⟨.directory, 0o700, ⟨1, 4, 3⟩, [(.owner, 0)], some (sampleCall 0), some (sampleCall 0)⟩
    files := fun _ => ⟨.file, 0o600, 1, [0x78], ⟨1, 2, 3⟩, some (sampleCall 0)⟩
    count := 1
    opened := fun _ => none
    trace := [] }
  threads := fun c => if c = sampleCall 0 then .holding sampleHandle else .idle
  crashed := fun _ => false

theorem sampleHeld_ready : Ready sampleHeld := by
  refine .held (sampleCall 0) sampleHandle _ 0 rfl rfl rfl rfl (by decide)
    ⟨rfl, rfl, rfl, rfl, ?_⟩ rfl (by decide) ⟨rfl, rfl, by decide⟩
  intro m hm
  cases hm
  exact ⟨by decide, rfl, rfl⟩

def ownerShown : Choice := { sampleChoice with entry := some .owner }

/-- The steps of an inspection up to the `open` of the owner marker. -/
def inspectsToOpen : List WatchAction :=
  [.inspect sampleChoice, .inspect sampleChoice, .inspect ownerShown] ++
    List.replicate 4 (.inspect sampleChoice)

/-- The steps of a release up to the `unlink` of the owner marker. -/
def releasesToUnlink : List WatchAction :=
  (.release (sampleCall 0) :: (performs (sampleCall 0) 3 ++
    [.perform (sampleCall 0) ownerShown] ++ performs (sampleCall 0) 11)).map .other

/-- The release unlinks the marker between the `open` and the `fstat` of the inspection. -/
def racedRun : List WatchAction :=
  inspectsToOpen ++ releasesToUnlink ++ List.replicate 2 (.inspect sampleChoice)

def racedEnd (inspector : Inspector) : Watch :=
  (racedRun.foldlM (Watch.step sampleWatcher) (inspector.start sampleHeld)).getD
    (inspector.start sampleHeld)

/-- The holder releases and the next call starts once the inspection has seen the metadata
of the marker it opened. -/
def lateRun : List WatchAction :=
  inspectsToOpen ++ [.inspect sampleChoice] ++ releasesToUnlink ++
    [.other (.perform (sampleCall 0) sampleChoice), .other (.acquire (sampleCall 1) [0x79])] ++
    List.replicate 3 (.inspect sampleChoice)

def lateEnd (inspector : Inspector) : Watch :=
  (lateRun.foldlM (Watch.step sampleWatcher) (inspector.start sampleHeld)).getD
    (inspector.start sampleHeld)

end Samples

/-- One clean release makes either inspection of a held lock answer `compromised`. -/
theorem release_race_compromises :
    Ready sampleHeld ∧ ∀ inspector : Inspector, ∃ w message,
      Exec (WatchStep sampleWatcher) (inspector.start sampleHeld) racedRun w ∧
      w.program = .done (.ok (.compromised .ownerIdentityChanged message)) := by
  refine ⟨sampleHeld_ready, ?_⟩
  intro inspector
  cases inspector with
  | typeScript => exact ⟨racedEnd .typeScript, _, Exec.of_foldlM rfl, rfl⟩
  | rust => exact ⟨racedEnd .rust, _, Exec.of_foldlM rfl, rfl⟩

theorem late_release_undisturbed (inspector : Inspector) :
    Exec (QuietStep inspector sampleWatcher) (inspector.start sampleHeld) lateRun
      (lateEnd inspector) := by
  cases inspector with
  | typeScript => exact Exec.of_guarded_foldlM rfl
  | rust => exact Exec.of_guarded_foldlM rfl

/-- The lock is gone, and the owner that the inspection answers was published during it. -/
theorem sampleHeld_inspected :
    (lateEnd .typeScript).system.fs.lock = none ∧
      PublishedDuring (QuietStep .typeScript sampleWatcher) (Inspector.typeScript.start sampleHeld)
        lateRun (lateEnd .typeScript) [0x78] := by
  have hclosed := inspection_closed .typeScript sampleWatcher sampleHeld_ready
    (late_release_undisturbed .typeScript)
  refine ⟨rfl, ?_⟩
  rcases hclosed.1 (.ok (.held [0x78])) rfl with habsent | ⟨message, hincomplete⟩ |
    ⟨owner, hheld, hduring⟩
  · cases habsent
  · cases hincomplete
  · cases hheld
    exact hduring

end OresLocks.LocalFile
