import OresLocks.LocalFile.Solo

/-!
# What a program reads off a lock that nobody else touches

A filesystem call is performed, or it fails without effect. `faulty` says whether it
may fail. Only a directory with entries reports `ENOTEMPTY`. A program `Decides` a fact
about the lock path when it changes nothing and returns what the fact says; where no
call fails, it throws only if the fact fails.
-/

namespace OresLocks.LocalFile

set_option autoImplicit false

open Shared.Programs

def alone (faulty : Prop) (caller : Call) : Protocol FsOp FsAnswer Solo where
  allows _ _ := True
  moves stage op answer stage' :=
    (∃ choice, Performed caller stage op choice stage' ∧
      answer = (stage.fs.perform caller choice op).1) ∨
    (faulty ∧ stage' = stage ∧ ∃ error, answer = .error error ∧ error.code ≠ some "ENOTEMPTY")

/-- Programs that map each error of a filesystem call to their own. -/
abbrev LockM := ExceptT LocalFileLockError FsProg

/-- The answer of a filesystem call as a value. -/
def ask {ε : Type} (op : FsOp) : ExceptT ε FsProg (FsAnswer op) :=
  ExceptT.lift (.call op .done)

def asked (op : FsOp) (wrap : FsError → LocalFileLockError) : LockM op.Answer := do
  match ← ask op with
  | .ok value => pure value
  | .error error => throw (wrap error)

def guardThat (p : Prop) [Decidable p] (error : LocalFileLockError) : LockM Unit :=
  if p then pure () else throw error

/-- What `defer` and the end of a scope do with an open file. -/
def closing {α : Type} (handle : Nat) (x : LockM α) : LockM α := do
  let outcome ← attempt x
  let _ ← ask (.close handle)
  ExceptT.mk (pure outcome)

/-- `Good` holds of what the program returns. -/
def Decides (faulty : Prop) (caller : Call) (fs : Fs) {α : Type} (x : LockM α)
    (Good : α → Prop) : Prop :=
  ∀ stage : Solo, SameLock caller fs stage.fs →
    Triple (alone faulty caller) stage x
      (fun stage' value => SameLock caller fs stage'.fs ∧ Good value)
      (fun stage' _ => SameLock caller fs stage'.fs ∧ (faulty ∨ ∀ value, ¬ Good value))

section Rules

variable {faulty : Prop} {caller : Call} {fs : Fs} {α β : Type}

theorem SameLock.trans {fs' fs'' : Fs} (h : SameLock caller fs fs') (h' : SameLock caller fs' fs'') :
    SameLock caller fs fs'' :=
  ⟨h'.lock.trans h.lock, h'.files.trans h.files, h'.count.trans h.count, h'.trace.trans h.trace,
    fun call hne => (h'.opened call hne).trans (h.opened call hne)⟩

theorem triple_ask {ε : Type} {stage : Solo} (op : FsOp) {ok : Solo → FsAnswer op → Prop}
    {err : Solo → ε → Prop}
    (h : ∀ answer stage', (alone faulty caller).moves stage op answer stage' → ok stage' answer) :
    Triple (alone faulty caller) stage (ask op) ok err := by
  apply Triple.lift
  exact ⟨trivial, h⟩

/-- A call that only reads: what each of its answers says. -/
theorem decides_asked (op : FsOp) (hop : op.IsReading) {wrap : FsError → LocalFileLockError}
    {Good : op.Answer → Prop}
    (hok : ∀ fs' choice value, SameLock caller fs fs' →
      (fs'.perform caller choice op).1 = .ok value → Good value)
    (herr : ∀ fs' choice error, SameLock caller fs fs' →
      (fs'.perform caller choice op).1 = .error error → ∀ value, ¬ Good value) :
    Decides faulty caller fs (asked op wrap) Good := by
  intro stage hsame
  apply Triple.bind (fun stage' answer => SameLock caller fs stage'.fs ∧
    match answer with
    | .ok value => Good value
    | .error _ => faulty ∨ ∀ value, ¬ Good value)
  · apply triple_ask
    rintro answer stage' (⟨choice, hperformed, hanswer⟩ | ⟨hfaulty, rfl, error, rfl, _⟩)
    · refine ⟨?_, ?_⟩
      · rw [hperformed.fs]
        exact hsame.trans (perform_reading hop stage.fs caller choice)
      · cases answer with
        | ok value => exact hok stage.fs choice value hsame hanswer.symm
        | error error => exact .inr (herr stage.fs choice error hsame hanswer.symm)
    · exact ⟨hsame, .inl hfaulty⟩
  · intro stage' answer hanswer
    cases answer with
    | ok value => exact Triple.pure hanswer
    | error error => exact Triple.throw hanswer

theorem decides_guard (p : Prop) [Decidable p] (error : LocalFileLockError) :
    Decides faulty caller fs (guardThat p error) (fun _ => p) := by
  intro stage hsame
  unfold guardThat
  split
  · rename_i hp
    exact Triple.pure ⟨hsame, hp⟩
  · rename_i hp
    exact Triple.throw ⟨hsame, .inr fun _ => hp⟩

theorem decides_pure (value : α) : Decides faulty caller fs (pure value) (fun result => result = value) :=
  fun _ hsame => Triple.pure ⟨hsame, rfl⟩

/-- Where the first program has one good value, the second decides the rest. -/
theorem Decides.bind {x : LockM α} {f : α → LockM β} {Good : α → Prop} {Rest : α → β → Prop}
    (h : Decides faulty caller fs x Good) (one : ∀ a a', Good a → Good a' → a = a')
    (hf : ∀ a, Good a → Decides faulty caller fs (f a) (Rest a)) :
    Decides faulty caller fs (x >>= f) (fun b => ∃ a, Good a ∧ Rest a b) := by
  intro stage hsame
  apply Triple.bind (fun stage' a => SameLock caller fs stage'.fs ∧ Good a)
  · apply Triple.mono (h stage hsame)
    · exact fun _ _ hgood => hgood
    · rintro stage' error ⟨hsame', hbad⟩
      exact ⟨hsame', hbad.imp_right fun hnone _ ⟨a, ha, _⟩ => hnone a ha⟩
  · rintro stage' a ⟨hsame', hgood⟩
    apply Triple.mono (hf a hgood stage' hsame')
    · exact fun _ b hb => ⟨hb.1, a, hgood, hb.2⟩
    · rintro stage'' error ⟨hsame'', hbad⟩
      refine ⟨hsame'', hbad.imp_right ?_⟩
      rintro hnone b ⟨a', ha', hb⟩
      cases one a a' hgood ha'
      exact hnone b hb

/-- A check first, then the rest. -/
theorem Decides.andThen {x : LockM Unit} {y : LockM β} {p : Prop} {Rest : β → Prop}
    (h : Decides faulty caller fs x (fun _ => p))
    (hy : p → Decides faulty caller fs y Rest) :
    Decides faulty caller fs (x >>= fun _ => y) (fun b => p ∧ Rest b) := by
  intro stage hsame
  apply Triple.mono (h.bind (fun _ _ _ _ => rfl) (fun _ hp => hy hp) stage hsame)
  · rintro stage' b ⟨hsame', _, hp, hb⟩
    exact ⟨hsame', hp, hb⟩
  · rintro stage' error ⟨hsame', hbad⟩
    exact ⟨hsame', hbad.imp_right fun hnone b hb => hnone b ⟨(), hb⟩⟩

theorem Decides.iff {x : LockM α} {Good Good' : α → Prop} (h : Decides faulty caller fs x Good)
    (hiff : ∀ value, Good value ↔ Good' value) : Decides faulty caller fs x Good' := by
  have heq : Good = Good' := funext fun value => propext (hiff value)
  exact heq ▸ h

/-- The file is closed whatever was found. -/
theorem Decides.closing {x : LockM α} {Good : α → Prop} (handle : Nat)
    (h : Decides faulty caller fs x Good) : Decides faulty caller fs (closing handle x) Good := by
  intro stage hsame
  apply Triple.bind _ (Triple.attempted (h stage hsame))
  intro stage' outcome houtcome
  apply Triple.bind (fun stage'' _ => stage''.fs = stage'.fs)
  · apply triple_ask
    rintro answer stage'' (⟨choice, hperformed, _⟩ | ⟨_, rfl, _⟩)
    · exact hperformed.fs
    · rfl
  · intro stage'' _ hfs
    cases outcome with
    | ok value =>
      obtain ⟨hsame', hgood⟩ := houtcome
      rw [← hfs] at hsame'
      exact Triple.pure ⟨hsame', hgood⟩
    | error error =>
      obtain ⟨hsame', hbad⟩ := houtcome
      rw [← hfs] at hsame'
      exact Triple.throw ⟨hsame', hbad⟩

end Rules

/-- The owner marker is this file. -/
def OwnerAt (fs : Fs) (number : Nat) : Prop :=
  ∃ node, fs.lock = some node ∧ node.type = .directory ∧ node.entries.lookup .owner = some number

theorem OwnerAt.unique {fs : Fs} {number number' : Nat} (h : OwnerAt fs number)
    (h' : OwnerAt fs number') : number = number' := by
  obtain ⟨node, hlock, _, hlookup⟩ := h
  obtain ⟨node', hlock', _, hlookup'⟩ := h'
  rw [hlock] at hlock'
  cases hlock'
  rw [hlookup] at hlookup'
  exact Option.some.inj hlookup'

section Marker

variable {faulty : Prop} {caller : Call} {fs : Fs} {wrap : FsError → LocalFileLockError}

theorem decides_lstatLock : Decides faulty caller fs (asked (.lstat .lock) wrap)
    (fun stat => ∃ node, fs.lock = some node ∧ stat = node.stat) := by
  apply decides_asked (.lstat .lock) (.inl trivial)
  · intro fs' choice stat hsame hanswer
    change fs'.lstat .lock choice = .ok stat at hanswer
    unfold Fs.lstat at hanswer
    rw [hsame.lock] at hanswer
    cases hlock : fs.lock with
    | none => simp [hlock] at hanswer
    | some node =>
      simp only [hlock, Except.ok.injEq] at hanswer
      exact ⟨node, rfl, hanswer.symm⟩
  · rintro fs' choice error hsame hanswer stat ⟨node, hlock, _⟩
    change fs'.lstat .lock choice = .error error at hanswer
    unfold Fs.lstat at hanswer
    simp [hsame.lock, hlock] at hanswer

/-- What looking up the marker finds. -/
theorem entry_owner (fs : Fs) (choice : Choice) : match fs.entry .owner choice with
    | .ok (_, number) => OwnerAt fs number
    | .error _ => ∀ number, ¬ OwnerAt fs number := by
  unfold Fs.entry Fs.directory OwnerAt
  cases hlock : fs.lock with
  | none => simp
  | some node =>
    by_cases htype : node.type = .directory
    · cases hlookup : node.entries.lookup .owner <;> simp [htype, hlookup]
    · simp [htype]

theorem entry_same {fs' : Fs} (h : SameLock caller fs fs') (name : Name) (choice : Choice) :
    fs'.entry name choice = fs.entry name choice := by
  unfold Fs.entry Fs.directory
  rw [h.lock]

theorem decides_lstatOwner : Decides faulty caller fs (asked (.lstat (.entry .owner)) wrap)
    (fun stat => ∃ number, OwnerAt fs number ∧ stat = (fs.files number).stat) := by
  apply decides_asked (.lstat (.entry .owner)) (.inl trivial)
  · intro fs' choice stat hsame hanswer
    have hfound := entry_owner fs choice
    change fs'.lstat (.entry .owner) choice = .ok stat at hanswer
    unfold Fs.lstat at hanswer
    simp only [entry_same hsame, hsame.files] at hanswer
    split at hanswer
    · cases hanswer
    · rename_i number hentry
      cases hanswer
      rw [hentry] at hfound
      exact ⟨number, hfound, rfl⟩
  · rintro fs' choice error hsame hanswer stat ⟨number, hat, _⟩
    have hfound := entry_owner fs choice
    change fs'.lstat (.entry .owner) choice = .error error at hanswer
    unfold Fs.lstat at hanswer
    simp only [entry_same hsame] at hanswer
    split at hanswer
    · rename_i hentry
      rw [hentry] at hfound
      exact hfound number hat
    · cases hanswer

theorem decides_openOwner : Decides faulty caller fs (asked (.openRead .owner) wrap)
    (OwnerAt fs) := by
  apply decides_asked (.openRead .owner) (.inr (.inl rfl))
  · intro fs' choice handle hsame hanswer
    have hfound := entry_owner fs choice
    change (fs'.openRead caller .owner choice).1 = .ok handle at hanswer
    unfold Fs.openRead at hanswer
    simp only [entry_same hsame] at hanswer
    split at hanswer
    · cases hanswer
    · rename_i number hentry
      cases hanswer
      rw [hentry] at hfound
      exact hfound
  · intro fs' choice error hsame hanswer number hat
    have hfound := entry_owner fs choice
    change (fs'.openRead caller .owner choice).1 = .error error at hanswer
    unfold Fs.openRead at hanswer
    simp only [entry_same hsame] at hanswer
    split at hanswer
    · rename_i hentry
      rw [hentry] at hfound
      exact hfound number hat
    · cases hanswer

theorem decides_fstat (handle : Nat) : Decides faulty caller fs (asked (.fstat handle) wrap)
    (fun stat => stat = (fs.files handle).stat) := by
  apply decides_asked (.fstat handle) (.inl trivial)
  · intro fs' choice stat hsame hanswer
    cases hanswer
    rw [hsame.files]
  · intro fs' choice error _ hanswer
    cases hanswer

theorem alone_readsFile (stage : Solo) (handle : Nat) :
    ReadsFile (alone faulty caller) stage handle (stage.fs.files handle).content
      (fun stage' _ => stage' = stage ∧ faulty) where
  allows _ _ := trivial
  chunk := by
    rintro position length chunk ⟨fs', stream'⟩ (⟨choice, ⟨_, rfl, rfl⟩, hanswer⟩ | ⟨_, _, _, hanswer, _⟩)
    · refine ⟨rfl, min length (max 1 choice.bytesRead), Except.ok.inj hanswer, ?_⟩
      intro hlength
      omega
    · cases hanswer
  error := by
    rintro position length error stage' (⟨choice, _, hanswer⟩ | ⟨hfaulty, rfl, _⟩)
    · cases hanswer
    · exact ⟨rfl, hfaulty⟩

/-- The whole of a marker that is within the bound. -/
theorem decides_readOwnerBytes {handle : Nat} (wrapped : Failure → LocalFileLockError)
    (hsize : (fs.files handle).content.length ≤ maxLocalFileLockOwnerUtf8Bytes) :
    Decides faulty caller fs
      ((readOwnerBytes handle (maxLocalFileLockOwnerUtf8Bytes + 1) []).adapt wrapped)
      (fun bytes => bytes = (fs.files handle).content) := by
  intro stage hsame
  rw [← hsame.files] at hsize ⊢
  have hbegins : ∃ rest, (stage.fs.files handle).content = [] ++ rest := ⟨_, rfl⟩
  apply Triple.adapt
  apply Triple.mono (triple_readOwnerBytes (alone_readsFile stage handle) hbegins (by simp))
  · rintro stage' bytes ⟨rfl, ⟨rest, hrest⟩, hwhole⟩
    have hlength := congrArg List.length hrest
    rw [List.length_append] at hlength
    exact ⟨hsame, hwhole (by omega)⟩
  · rintro stage' failure ⟨rfl, hfaulty⟩
    exact ⟨hsame, .inl hfaulty⟩

end Marker

end OresLocks.LocalFile
