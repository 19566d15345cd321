import OresLocks.LocalFile.RecoveryInvariant

/-!
# What a recovery may take, and mutual exclusion with recoveries

Recoveries keep to the marker of their expected owner under one condition: a claiming
rename finds, if any, the marker that the final inspection opened, and for the TypeScript
decoder that marker does not begin with a U+FEFF. A recovery of any runtime that has
inspected the lock before another one finished breaks it.
-/

namespace OresLocks.LocalFile

set_option autoImplicit false

open Shared.Runs Shared.Programs JsString

section Conditions

variable {κ : Type} {R : κ → RecoveryRuntime}

/-- An owner that a recovery names is inactive: its calls take no step. -/
def InactiveExpected (s : Fleet R) : FleetAction R → Prop
  | .acquire _ kind owner => validateLocalFileLockOwner ((R kind).text owner) = .ok () →
      (R kind).text owner ∉ s.named
  | .release call => ∀ owner ∈ s.owners call,
      validateLocalFileLockOwner owner = .ok () → owner ∉ s.named
  | .answer call _ => ∀ owner ∈ s.owners call,
      validateLocalFileLockOwner owner = .ok () → owner ∉ s.named
  | _ => True

/-- Owner strings are never reused. -/
def FreshOwner (s : Fleet R) : FleetAction R → Prop
  | .acquire _ kind owner => (R kind).text owner ∉ s.used
  | _ => True

/-- The claiming rename of a recovery finds, if any, the marker that its last inspection
opened, and the decoder drops nothing of it. -/
def ClaimsRead (s : Fleet R) : FleetAction R → Prop
  | .answer call (.performed _) => ∀ kind ∈ (s.members call).claiming, OpenedLast s.fs call ∧
      ((R kind).dropsMark = true → s.fs.ownerMarked = false)
  | _ => True

instance (s : Fleet R) : (action : FleetAction R) → Decidable (InactiveExpected s action)
  | .acquire _ kind owner => inferInstanceAs (Decidable
      (validateLocalFileLockOwner ((R kind).text owner) = .ok () → (R kind).text owner ∉ s.named))
  | .release call => inferInstanceAs (Decidable (∀ owner ∈ s.owners call,
      validateLocalFileLockOwner owner = .ok () → owner ∉ s.named))
  | .answer call _ => inferInstanceAs (Decidable (∀ owner ∈ s.owners call,
      validateLocalFileLockOwner owner = .ok () → owner ∉ s.named))
  | .recover _ _ _ _ => inferInstanceAs (Decidable True)
  | .crash _ => inferInstanceAs (Decidable True)

instance (s : Fleet R) : (action : FleetAction R) → Decidable (FreshOwner s action)
  | .acquire _ kind owner => inferInstanceAs (Decidable ((R kind).text owner ∉ s.used))
  | .release _ => inferInstanceAs (Decidable True)
  | .recover _ _ _ _ => inferInstanceAs (Decidable True)
  | .answer _ _ => inferInstanceAs (Decidable True)
  | .crash _ => inferInstanceAs (Decidable True)

instance (fs : Fs) (call : Call) : Decidable (OpenedLast fs call) :=
  inferInstanceAs (Decidable (∀ node ∈ fs.lock, ∀ file ∈ node.entries.lookup .owner,
    fs.opened call = some file))

instance (s : Fleet R) : (action : FleetAction R) → Decidable (ClaimsRead s action)
  | .answer call (.performed _) => inferInstanceAs (Decidable (∀ kind ∈ (s.members call).claiming,
      OpenedLast s.fs call ∧ ((R kind).dropsMark = true → s.fs.ownerMarked = false)))
  | .answer _ (.failed _) => inferInstanceAs (Decidable True)
  | .acquire _ _ _ => inferInstanceAs (Decidable True)
  | .release _ => inferInstanceAs (Decidable True)
  | .recover _ _ _ _ => inferInstanceAs (Decidable True)
  | .crash _ => inferInstanceAs (Decidable True)

/-- The runs in which every recovery names an inactive owner and claims what it read. -/
def CurrentStep (s : Fleet R) (action : FleetAction R) (t : Fleet R) : Prop :=
  s.Step action t ∧ InactiveExpected s action ∧ ClaimsRead s action

end Conditions

section Step

variable {κ : Type} {R : κ → RecoveryRuntime} {s t : Fleet R}

/-- A marker that the decoder reads whole is the expected owner's. -/
theorem marker_expected {fs : Fs} {kind : κ} (expected : (R kind).Owner)
    (h : (R kind).dropsMark = true → fs.ownerMarked = false) :
    MarkerExpected fs ((R kind).accepts expected) ((R kind).text expected) := by
  intro node file hlock hlookup owner hvalid hcontent haccepts
  apply (R kind).reads expected owner hvalid haccepts
  intro hdrops
  have hmarked := h hdrops
  unfold Fs.ownerMarked at hmarked
  rw [hlock] at hmarked
  dsimp only at hmarked
  rw [hlookup] at hmarked
  dsimp only at hmarked
  rw [hcontent] at hmarked
  exact unmarked_of_bytes (of_decide_eq_false hmarked)

theorem FleetInv.answer (h : FleetInv s) {call : Call} (outcome : Outcome) {member : Member R}
    {fs' : Fs}
    (hactive : ∀ owner ∈ s.owners call, validateLocalFileLockOwner owner = .ok () → owner ∉ s.named)
    (hclaims : ClaimsRead s (.answer call outcome))
    (hadvance : (s.members call).advance (outcome.run s.fs call) = some (member, fs')) :
    FleetInv { s.setMember call member with fs := fs' } := by
  cases hcall : s.members call with
  | locking party =>
    rw [hcall] at hadvance
    unfold Member.advance at hadvance
    dsimp only at hadvance
    split at hadvance
    · rename_i party' fs'' hparty
      cases hadvance
      have hat : PartyAt s.fs call party := by
        have hmember : MemberAt s.fs call (s.members call) := by
          cases howner : s.owners call with
          | some owner => exact h.active howner (hactive owner howner)
          | none =>
            rcases h.holder call with hmember | htaken
            · exact hmember
            · obtain ⟨owner, _, howner', _⟩ := htaken.named
              cases howner.symm.trans howner'
        rw [hcall] at hmember
        exact hmember
      exact h.answer_locking outcome hcall hat hparty
    · cases hadvance
  | recovering kind expected program =>
    rw [hcall] at hadvance
    cases program with
    | done result => cases hadvance
    | call op next =>
      cases hadvance
      apply h.answer_recovering outcome hcall
      rintro choice rfl rfl
      have hclaiming : kind ∈ (s.members call).claiming := by
        rw [hcall]
        rfl
      obtain ⟨hlast, hdrops⟩ := hclaims kind hclaiming
      exact ⟨hlast, marker_expected expected hdrops⟩
  | recovered kind expected =>
    rw [hcall] at hadvance
    cases hadvance

theorem fleetInv_step {action : FleetAction R} (h : FleetInv s) (hstep : CurrentStep s action t) :
    FleetInv t := by
  obtain ⟨hstep, hinactive, hclaims⟩ := hstep
  unfold Fleet.Step Fleet.step at hstep
  cases action with
  | acquire call kind owner =>
    dsimp only at hstep
    split at hstep
    · cases hstep
    split at hstep
    · rename_i hidle
      cases hstep
      exact h.start_acquire kind owner hidle
    · cases hstep
  | release call =>
    dsimp only at hstep
    split at hstep
    · cases hstep
    split at hstep
    · rename_i kind lock hcall
      cases hstep
      apply h.start_release hcall
      have howner : s.owners call = some ((R kind).text ((R kind).owner lock)) :=
        congrArg Member.owner hcall
      exact h.active howner (hinactive _ howner)
    · cases hstep
  | recover call kind expected confirmed =>
    dsimp only at hstep
    split at hstep
    · cases hstep
    split at hstep
    · rename_i hidle
      cases hstep
      exact h.start_recover kind expected confirmed hidle
    · cases hstep
  | answer call outcome =>
    dsimp only at hstep
    split at hstep
    · cases hstep
    split at hstep
    · rename_i member fs hadvance
      cases hstep
      exact h.answer outcome hinactive hclaims hadvance
    · cases hstep
  | crash process =>
    cases hstep
    refine ⟨?_, h.recoverer, ?_, h.native, h.named⟩
    · intro call
      rcases h.holder call with hmember | ⟨hnot, hnamed, hclaimed⟩
      · exact Or.inl hmember
      · exact Or.inr ⟨hnot, hnamed, hclaimed⟩
    · intro e he
      obtain ⟨hstarted, hright⟩ := h.effects e he
      exact ⟨hstarted, hright⟩

theorem fleetInv_run {actions : List (FleetAction R)} (hs : s.Initial)
    (h : Exec CurrentStep s actions t) : FleetInv t :=
  h.stateInvariant (fleetInv_initial hs) fleetInv_step

/-- The holder of a lock is the tenant of the directory. -/
theorem FleetInv.inside (h : FleetInv s) {call : Call} (hholds : s.Holds call) :
    ∃ node marker, Inside s.fs node call marker := by
  obtain ⟨⟨hheld, hremoved⟩, hrecovered⟩ := hholds
  have hmember : MemberAt s.fs call (s.members call) := by
    rcases h.holder call with hmember | htaken
    · exact hmember
    · exact absurd htaken.claimed hrecovered
  cases hcall : s.members call with
  | locking party =>
    rw [hcall] at hmember hheld
    cases party with
    | holding kind lock =>
      obtain ⟨stage, hat, _, hmarker⟩ := hmember
      obtain ⟨file, rfl⟩ := hmarker.resolve_right hremoved
      obtain ⟨_, _, node, hinside, _⟩ := hat
      exact ⟨node, _, hinside⟩
    | releasing kind lock program =>
      obtain ⟨stage, hat, _, hmarker⟩ := hmember
      obtain ⟨file, rfl⟩ := hmarker.resolve_right hremoved
      obtain ⟨_, _, node, hinside, _⟩ := hat
      exact ⟨node, _, hinside⟩
    | _ => exact absurd rfl hheld
  | _ =>
    rw [hcall] at hheld
    exact absurd rfl hheld

theorem FleetInv.exclusive (h : FleetInv s) {call call' : Call} (hcall : s.Holds call)
    (hcall' : s.Holds call') : call = call' := by
  obtain ⟨node, marker, hinside⟩ := h.inside hcall
  obtain ⟨node', marker', hinside'⟩ := h.inside hcall'
  exact hinside.unique hinside'

end Step

/-- With recoveries, acquisitions and releases of the three runtimes interleaved in those
runs: a recovery removes only what its expected owner made and only markers that hold it,
and at most one acquisition is held. -/
theorem recovery_keeps_exclusion (windows : Bool) (path : String)
    {s t : Fleet (recoveryRuntimes windows path)} (hs : s.Initial)
    {actions : List (FleetAction (recoveryRuntimes windows path))}
    (h : Exec CurrentStep s actions t) :
    (∀ e ∈ t.fs.trace, ∀ expected, (t.members e.call).expectedOwner = some expected →
      (∃ holder, e.creator = some holder ∧ t.owners holder = some expected) ∧
      (e.removal ≠ .removedDirectory → e.content = encode expected)) ∧
      ∀ call call', t.Holds call → t.Holds call' → call = call' := by
  have hinv := fleetInv_run hs h
  exact ⟨fun e he => (hinv.effects e he).recoverer, fun call call' => hinv.exclusive⟩

section Samples

abbrev sampleRuntimes : Language → RecoveryRuntime := recoveryRuntimes false "lock"

def sampleFleet : Fleet sampleRuntimes :=
  ⟨sampleStart.fs, fun _ => .locking .idle, fun _ => false, [], []⟩

theorem sampleFleet_initial : sampleFleet.Initial := ⟨fun _ => rfl, rfl, rfl, rfl, rfl⟩

def sampleOwner (letter : Char) : (language : Language) → (sampleRuntimes language).Owner
  | .typescript => utf16 letter
  | .go => Shared.Utf8.utf8 (String.singleton letter)
  | .rust => String.singleton letter

/-- The filesystem steps of an acquisition that succeeds. -/
def acquireSteps : Language → Nat
  | .typescript => 13
  | .go => 9
  | .rust => 10

def fleetAnswers (process count : Nat) : List (FleetAction sampleRuntimes) :=
  List.replicate count (.answer (sampleCall process) (.performed sampleChoice))

def acquiresOwner (process : Nat) (language : Language) (letter : Char) :
    List (FleetAction sampleRuntimes) :=
  .acquire (sampleCall process) language (sampleOwner letter language) ::
    fleetAnswers process (acquireSteps language)

/-- All steps of an inspection that finds the lock held. -/
def inspectsHeld (process : Nat) : List (FleetAction sampleRuntimes) :=
  fleetAnswers process 2 ++
    [.answer (sampleCall process) (.performed { sampleChoice with entry := some .owner })] ++
    fleetAnswers process 8

/-- A recovery from the owner `x` up to its claiming rename. -/
def recoversToClaim (process : Nat) (language : Language) : List (FleetAction sampleRuntimes) :=
  .recover (sampleCall process) language (sampleOwner 'x' language) true ::
    (inspectsHeld process ++ inspectsHeld process)

/-- A TypeScript owner crashes, a Rust recovery runs to its end beside a Go contender that
finds the path taken, and a Go owner acquires. -/
def recoveredRun : List (FleetAction sampleRuntimes) :=
  acquiresOwner 0 .typescript 'x' ++ [.crash 0] ++ recoversToClaim 1 .rust ++
    [.acquire (sampleCall 2) .go (sampleOwner 'w' .go)] ++ fleetAnswers 1 1 ++ fleetAnswers 2 4 ++
    fleetAnswers 1 2 ++ acquiresOwner 3 .go 'y'

def recoveredEnd : Fleet sampleRuntimes :=
  (recoveredRun.foldlM (fun s action =>
    if InactiveExpected s action ∧ ClaimsRead s action then s.step action else none)
    sampleFleet).getD sampleFleet

/-- Two recoveries of the same inactive owner have both inspected it. The first finishes,
a new owner acquires, and the second takes the new owner's marker; then a third owner
acquires as well. -/
def staleRun (language : Language) : List (FleetAction sampleRuntimes) :=
  acquiresOwner 0 language 'x' ++ [.crash 0] ++ recoversToClaim 1 language ++
    recoversToClaim 2 language ++ fleetAnswers 1 3 ++ acquiresOwner 3 language 'y' ++
    fleetAnswers 2 3 ++ acquiresOwner 4 language 'z'

def staleEnd (language : Language) : Fleet sampleRuntimes :=
  ((staleRun language).foldlM (fun s action =>
    if InactiveExpected s action ∧ FreshOwner s action then s.step action else none)
    sampleFleet).getD sampleFleet

end Samples

theorem next_owner_holds_alone :
    recoveredEnd.Holds (sampleCall 3) ∧
      (∀ call, recoveredEnd.Holds call → call = sampleCall 3) ∧
      ∃ e ∈ recoveredEnd.fs.trace, e.call = sampleCall 1 ∧ e.content = encode [0x78] := by
  have hrun : Exec CurrentStep sampleFleet recoveredRun recoveredEnd := by
    apply Exec.of_guarded_foldlM
    rfl
  have hholds : recoveredEnd.Holds (sampleCall 3) := by
    unfold Fleet.Holds Fleet.Unreleased OwnerRemoved Fleet.RecoveredByName
    decide +kernel
  have hexclusive := recovery_keeps_exclusion false "lock" sampleFleet_initial hrun
  refine ⟨hholds, fun call hcall => hexclusive.2 call (sampleCall 3) hcall hholds, ?_⟩
  decide +kernel

/-- In each of the three languages a stale recovery takes the marker of a later owner. -/
theorem stale_recovery_takes_later_owner :
    sampleFleet.Initial ∧ ∀ language,
      Exec (fun s action t => Fleet.Step s action t ∧ InactiveExpected s action ∧
        FreshOwner s action) sampleFleet (staleRun language) (staleEnd language) ∧
      (∃ e ∈ (staleEnd language).fs.trace,
        ((staleEnd language).members e.call).expectedOwner = some [0x78] ∧
        e.removal = .unlinked .recovering ∧ e.content = encode [0x79]) ∧
      (staleEnd language).Holds (sampleCall 3) ∧ (staleEnd language).Holds (sampleCall 4) := by
  refine ⟨sampleFleet_initial, ?_⟩
  intro language
  have hrun : ((staleRun language).foldlM (fun s action =>
      if InactiveExpected s action ∧ FreshOwner s action then s.step action else none)
      sampleFleet).isSome = true := by
    cases language with
    | typescript => decide +kernel
    | go => decide +kernel
    | rust => decide +kernel
  have hend := (Option.getD_of_ne_none (Option.isSome_iff_ne_none.mp hrun) sampleFleet).symm
  refine ⟨Exec.of_guarded_foldlM hend, ?_⟩
  unfold Fleet.Holds Fleet.Unreleased OwnerRemoved Fleet.RecoveredByName
  cases language with
  | typescript => decide +kernel
  | go => decide +kernel
  | rust => decide +kernel

end OresLocks.LocalFile
