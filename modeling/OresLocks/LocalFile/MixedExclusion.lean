import OresLocks.LocalFile.Exclusion
import OresLocks.LocalFile.MixedSystem

/-!
# Mutual exclusion across runtimes

Whatever mix of TypeScript, Go and Rust calls one path, at most one handle is
unreleased, its marker holds its owner, and nobody removes what another call made. A
holder that crashes keeps the path.
-/

namespace OresLocks.LocalFile

set_option autoImplicit false

open Shared.Programs Shared.Runs JsString

section Hosts

variable {κ : Type} {R : κ → LockRuntime}

/-- What the filesystem says about one call. -/
def PartyAt (fs : Fs) (call : Call) : Party R → Prop
  | .idle => NotTenant fs call
  | .acquiring kind owner program => ∃ stage, HolderAt fs ((R kind).text owner) call stage ∧
      Follows (holderProtocol ((R kind).text owner))
        (fun stage result => ∀ lock, result = some lock →
          (R kind).owner lock = owner ∧ ∃ file, stage = published ((R kind).text owner) file)
        stage program
  | .refused kind owner => ∃ stage, HolderAt fs ((R kind).text owner) call stage
  | .holding kind lock => ∃ stage, HolderAt fs ((R kind).text ((R kind).owner lock)) call stage ∧
      Unspent ((R kind).text ((R kind).owner lock)) stage ((R kind).Held lock) ∧
      ((∃ file, stage = published ((R kind).text ((R kind).owner lock)) file) ∨
        OwnerRemoved fs call)
  | .releasing kind lock program =>
      ∃ stage, HolderAt fs ((R kind).text ((R kind).owner lock)) call stage ∧
      Follows (holderProtocol ((R kind).text ((R kind).owner lock)))
        (fun stage result => (R kind).owner result = (R kind).owner lock ∧
          Unspent ((R kind).text ((R kind).owner lock)) stage ((R kind).Held result))
        stage program ∧
      ((∃ file, stage = published ((R kind).text ((R kind).owner lock)) file) ∨
        OwnerRemoved fs call)

structure HostInv (s : Host R) : Prop where
  parties : ∀ call, PartyAt s.fs call (s.parties call)
  effects : ∀ e ∈ s.fs.trace, e.creator = some e.call

theorem hostInv_initial {s : Host R} (h : s.Initial) : HostInv s where
  parties call := by
    rw [h.parties]
    intro node hnode
    rw [(h.foreign node hnode).2]
    exact (Option.some_ne_none call).symm
  effects e he := by
    rw [h.trace] at he
    cases he

section Others

variable {fs fs' : Fs} {actor call : Call} {new : List Effect}

theorem PartyAt.frame {victim : Option Call} {party : Party R} (hf : Frame actor victim fs fs')
    (hne : call ≠ actor) (hvictim : some call ≠ victim) (htrace : fs'.trace = fs.trace ++ new)
    (h : PartyAt fs call party) : PartyAt fs' call party := by
  cases party with
  | idle => exact hf.notTenant call hne h
  | acquiring kind owner program =>
    obtain ⟨stage, hat, hfollows⟩ := h
    exact ⟨stage, hat.frame hf hne hvictim, hfollows⟩
  | refused kind owner =>
    obtain ⟨stage, hat⟩ := h
    exact ⟨stage, hat.frame hf hne hvictim⟩
  | holding kind lock =>
    obtain ⟨stage, hat, hunspent, hmarker⟩ := h
    exact ⟨stage, hat.frame hf hne hvictim, hunspent, hmarker.imp_right (·.later htrace)⟩
  | releasing kind lock program =>
    obtain ⟨stage, hat, hfollows, hmarker⟩ := h
    exact ⟨stage, hat.frame hf hne hvictim, hfollows, hmarker.imp_right (·.later htrace)⟩

end Others

section Settle

variable {fs : Fs} {call : Call} {kind : κ} {stage : HolderStage}

theorem settleAcquire_at {owner : (R kind).Owner} {program : FsProg (Option (R kind).Lock)}
    (hat : HolderAt fs ((R kind).text owner) call stage)
    (hfollows : Follows (holderProtocol ((R kind).text owner))
      (fun stage result => ∀ lock, result = some lock →
        (R kind).owner lock = owner ∧ ∃ file, stage = published ((R kind).text owner) file)
      stage program) :
    PartyAt fs call (Party.settleAcquire kind owner program) := by
  cases program with
  | call op next => exact ⟨stage, hat, hfollows⟩
  | done result =>
    cases result with
    | none => exact ⟨stage, hat⟩
    | some lock =>
      obtain ⟨rfl, hpublished⟩ := hfollows lock rfl
      exact ⟨stage, hat, fun _ => hpublished, Or.inl hpublished⟩

theorem settleRelease_at {lock : (R kind).Lock} {program : FsProg (R kind).Lock}
    (hat : HolderAt fs ((R kind).text ((R kind).owner lock)) call stage)
    (hfollows : Follows (holderProtocol ((R kind).text ((R kind).owner lock)))
      (fun stage result => (R kind).owner result = (R kind).owner lock ∧
        Unspent ((R kind).text ((R kind).owner lock)) stage ((R kind).Held result))
      stage program)
    (hmarker : (∃ file, stage = published ((R kind).text ((R kind).owner lock)) file) ∨
      OwnerRemoved fs call) :
    PartyAt fs call (Party.settleRelease kind lock program) := by
  cases program with
  | call op next => exact ⟨stage, hat, hfollows, hmarker⟩
  | done result =>
    obtain ⟨howner, hunspent⟩ := hfollows
    refine ⟨stage, ?_, ?_, ?_⟩
    · rw [howner]
      exact hat
    · rw [howner]
      exact hunspent
    · rw [howner]
      exact hmarker

end Settle

section Step

variable {s t : Host R} {call : Call}

/-- The pending step of a call, answered. -/
theorem PartyAt.advance {fs : Fs} {party party' : Party R} {fs' : Fs} (outcome : Outcome)
    (h : PartyAt fs call party)
    (hadvance : party.advance (outcome.run fs call) = some (party', fs')) :
    PartyAt fs' call party' ∧ Frame call none fs fs' ∧
      ∃ new, fs'.trace = fs.trace ++ new ∧ ∀ e ∈ new, e.call = call ∧ e.creator = some call ∧
        e.removal ≠ .renamed .owner .recovering := by
  cases party with
  | acquiring kind owner program =>
    cases program with
    | done result => cases hadvance
    | call op next =>
      cases hadvance
      obtain ⟨stage, hat, hallows, hnext⟩ := h
      obtain ⟨stage', hmoves, hstep⟩ := holder_answered outcome hat hallows
      exact ⟨settleAcquire_at hstep.after (hnext _ stage' hmoves), hstep.frame, hstep.own⟩
  | releasing kind lock program =>
    cases program with
    | done result => cases hadvance
    | call op next =>
      cases hadvance
      obtain ⟨stage, hat, ⟨hallows, hnext⟩, hmarker⟩ := h
      obtain ⟨stage', hmoves, hstep⟩ := holder_answered outcome hat hallows
      exact ⟨settleRelease_at hstep.after (hnext _ stage' hmoves) (marker_after hstep hmarker),
        hstep.frame, hstep.own⟩
  | _ => cases hadvance

/-- One party changes between two steps of the filesystem. -/
theorem HostInv.started (h : HostInv s) {party : Party R} (hparty : PartyAt s.fs call party) :
    HostInv (s.setParty call party) where
  parties c := by
    change PartyAt s.fs c (if c = call then party else s.parties c)
    split
    · rename_i hc
      rw [hc]
      exact hparty
    · exact h.parties c
  effects := h.effects

theorem hostInv_step {action : HostAction R} (h : HostInv s) (hstep : s.Step action t) :
    HostInv t := by
  unfold Host.Step Host.step at hstep
  cases action with
  | acquire call kind owner =>
    dsimp only at hstep
    split at hstep
    · cases hstep
    split at hstep
    · rename_i hidle
      cases hstep
      apply h.started
      have hnot := h.parties call
      rw [hidle] at hnot
      have hat : HolderAt s.fs ((R kind).text owner) call .outside := hnot
      exact settleAcquire_at hat ((R kind).acquires owner)
    · cases hstep
  | release call =>
    dsimp only at hstep
    split at hstep
    · cases hstep
    split at hstep
    · rename_i kind lock hholding
      cases hstep
      apply h.started
      have hat := h.parties call
      rw [hholding] at hat
      obtain ⟨stage, hat, hunspent, hmarker⟩ := hat
      exact settleRelease_at hat ((R kind).releases lock stage hunspent) hmarker
    · cases hstep
  | answer call outcome =>
    dsimp only at hstep
    split at hstep
    · cases hstep
    split at hstep
    · rename_i party fs hadvance
      cases hstep
      obtain ⟨hparty, hframe, new, htrace, hnew⟩ := (h.parties call).advance outcome hadvance
      refine ⟨?_, ?_⟩
      · intro c
        change PartyAt fs c (if c = call then party else s.parties c)
        split
        · rename_i hc
          rw [hc]
          exact hparty
        · rename_i hc
          exact (h.parties c).frame hframe hc (Option.some_ne_none c) htrace
      · intro e he
        change e ∈ fs.trace at he
        rw [htrace] at he
        rcases List.mem_append.mp he with hold | hadded
        · exact h.effects e hold
        · obtain ⟨hcall, hcreator, _⟩ := hnew e hadded
          rw [hcreator, hcall]
    · cases hstep
  | crash process =>
    cases hstep
    exact ⟨h.parties, h.effects⟩

theorem hostInv_run {actions : List (HostAction R)} (hs : s.Initial)
    (h : Exec Host.Step s actions t) : HostInv t :=
  h.stateInvariant (hostInv_initial hs) hostInv_step

/-- The lock directory belongs to the call, and its one entry is the call's owner marker. -/
def Marked (fs : Fs) (call : Call) (text : JsString) : Prop :=
  ∃ node file, Inside fs node call (some ⟨.owner, file, encode text⟩)

theorem HostInv.marked (h : HostInv s) (hunreleased : s.Unreleased call) :
    ∃ text, (s.parties call).heldText = some text ∧ Marked s.fs call text := by
  obtain ⟨hheld, hremoved⟩ := hunreleased
  have hparty := h.parties call
  cases hcall : s.parties call with
  | holding kind lock =>
    rw [hcall] at hparty
    obtain ⟨stage, hat, _, hmarker⟩ := hparty
    obtain ⟨file, rfl⟩ := hmarker.resolve_right hremoved
    obtain ⟨_, _, node, hinside, _⟩ := hat
    exact ⟨_, rfl, node, file, hinside⟩
  | releasing kind lock program =>
    rw [hcall] at hparty
    obtain ⟨stage, hat, _, hmarker⟩ := hparty
    obtain ⟨file, rfl⟩ := hmarker.resolve_right hremoved
    obtain ⟨_, _, node, hinside, _⟩ := hat
    exact ⟨_, rfl, node, file, hinside⟩
  | _ =>
    rw [hcall] at hheld
    exact absurd rfl hheld

theorem HostInv.exclusive (h : HostInv s) {call' : Call} (hcall : s.Unreleased call)
    (hcall' : s.Unreleased call') : call = call' := by
  obtain ⟨_, _, node, file, hinside⟩ := h.marked hcall
  obtain ⟨_, _, node', file', hinside'⟩ := h.marked hcall'
  exact hinside.unique hinside'

/-- While a call of a crashed process holds the path, no step of another changes it. -/
theorem crashed_step {action : HostAction R} {text : JsString} {node : Node} {file : Nat}
    (hinv : HostInv s) (hcrashed : s.crashed call.process = true)
    (hheld : (s.parties call).heldText = some text)
    (hinside : Inside s.fs node call (some ⟨.owner, file, encode text⟩))
    (hremoved : ¬ OwnerRemoved s.fs call) (hstep : s.Step action t) :
    t.crashed call.process = true ∧ (t.parties call).heldText = some text ∧
      Inside t.fs node call (some ⟨.owner, file, encode text⟩) ∧ ¬ OwnerRemoved t.fs call := by
  have hother : ∀ {c : Call}, ¬ s.crashed c.process = true → call ≠ c := by
    intro c halive heq
    subst heq
    exact halive hcrashed
  have hkept : ∀ {c : Call} {party : Party R}, call ≠ c →
      ((s.setParty c party).parties call).heldText = some text := by
    intro c party hne
    change ((if call = c then party else s.parties call) : Party R).heldText = some text
    rw [if_neg hne]
    exact hheld
  unfold Host.Step Host.step at hstep
  cases action with
  | acquire c kind owner =>
    dsimp only at hstep
    split at hstep
    · cases hstep
    rename_i halive
    split at hstep
    · cases hstep
      exact ⟨hcrashed, hkept (hother halive), hinside, hremoved⟩
    · cases hstep
  | release c =>
    dsimp only at hstep
    split at hstep
    · cases hstep
    rename_i halive
    split at hstep
    · cases hstep
      exact ⟨hcrashed, hkept (hother halive), hinside, hremoved⟩
    · cases hstep
  | answer c outcome =>
    dsimp only at hstep
    split at hstep
    · cases hstep
    rename_i halive
    split at hstep
    · rename_i party fs hadvance
      cases hstep
      obtain ⟨_, hframe, new, htrace, hnew⟩ := (hinv.parties c).advance outcome hadvance
      refine ⟨hcrashed, hkept (hother halive), ?_, ?_⟩
      · exact hframe.inside node call _ (hother halive) (Option.some_ne_none call) hinside
      · intro hafter
        obtain ⟨e, he, hcall, hremoval⟩ := hafter
        change e ∈ fs.trace at he
        rw [htrace] at he
        rcases List.mem_append.mp he with hold | hadded
        · exact hremoved ⟨e, hold, hcall, hremoval⟩
        · exact hother halive (hcall.symm.trans (hnew e hadded).1)
    · cases hstep
  | crash process =>
    cases hstep
    refine ⟨?_, hheld, hinside, hremoved⟩
    change (if call.process = process then true else s.crashed call.process) = true
    split
    · rfl
    · exact hcrashed

end Step

end Hosts

section Samples

def sampleHost : Host (runtimes false) := ⟨sampleStart.fs, fun _ => .idle, fun _ => false⟩

theorem sampleHost_initial : sampleHost.Initial where
  parties _ := rfl
  trace := rfl
  foreign _ hnode := nomatch hnode

def answers (process count : Nat) : List (HostAction (runtimes false)) :=
  List.replicate count (.answer (sampleCall process) (.performed sampleChoice))

/-- A Go call acquires, a TypeScript call finds the path taken, and the first process
crashes. -/
def contention : List (HostAction (runtimes false)) :=
  .acquire (sampleCall 0) .go [0x78] :: answers 0 9 ++
    .acquire (sampleCall 1) .typescript [0x79] :: answers 1 5 ++ [.crash 0]

/-- A Rust call finds the path still taken. -/
def afterCrash : List (HostAction (runtimes false)) :=
  .acquire (sampleCall 2) .rust "z" :: answers 2 4

def contended : Host (runtimes false) :=
  (contention.foldlM Host.step sampleHost).getD sampleHost

def abandoned : Host (runtimes false) :=
  (afterCrash.foldlM Host.step contended).getD contended

theorem contended_run :
    Exec Host.Step sampleHost contention contended := Exec.of_foldlM rfl

theorem abandoned_run : Exec Host.Step contended afterCrash abandoned := Exec.of_foldlM rfl

theorem contended_unreleased : contended.Unreleased (sampleCall 0) := by
  refine ⟨Option.some_ne_none _, ?_⟩
  unfold OwnerRemoved
  decide +kernel

end Samples

/-- In every interleaving of calls of the three runtimes, with failures and crashes: at most
one handle is unreleased, the path holds exactly its owner marker, and every removal or
rename is of something its own call made. -/
theorem cross_runtime_exclusion (windows : Bool) {s t : Host (runtimes windows)} (hs : s.Initial)
    {actions : List (HostAction (runtimes windows))} (h : Exec Host.Step s actions t) :
    (∀ call call', t.Unreleased call → t.Unreleased call' → call = call') ∧
      (∀ call, t.Unreleased call →
        ∃ text, (t.parties call).heldText = some text ∧ Marked t.fs call text) ∧
      ∀ e ∈ t.fs.trace, e.creator = some e.call := by
  have hinv := hostInv_run hs h
  refine ⟨?_, ?_, hinv.effects⟩
  · intro call call' hcall hcall'
    exact hinv.exclusive hcall hcall'
  · intro call hcall
    exact hinv.marked hcall

theorem contended_path_exclusive :
    ¬ contended.Unreleased (sampleCall 1) ∧
      ∃ text, (contended.parties (sampleCall 0)).heldText = some text ∧
        Marked contended.fs (sampleCall 0) text := by
  have h := cross_runtime_exclusion false sampleHost_initial contended_run
  refine ⟨?_, h.2.1 (sampleCall 0) contended_unreleased⟩
  intro hcall
  have heq := h.1 (sampleCall 1) (sampleCall 0) hcall contended_unreleased
  exact absurd heq (by decide)

/-- A handle whose process has crashed stays the only one: no later call of any runtime
takes the path over, and the directory with its marker stays as it was. -/
theorem crashed_holder_keeps_path (windows : Bool) {s t u : Host (runtimes windows)}
    (hs : s.Initial) {actions later : List (HostAction (runtimes windows))}
    (h : Exec Host.Step s actions t) {call : Call} (hunreleased : t.Unreleased call)
    (hcrashed : t.crashed call.process = true) (hlater : Exec Host.Step t later u) :
    (∀ call', u.Unreleased call' ↔ call' = call) ∧ u.fs.lock = t.fs.lock ∧
      ∃ text, (t.parties call).heldText = some text ∧ Marked u.fs call text := by
  have hinv := hostInv_run hs h
  obtain ⟨text, hheld, node, file, hinside⟩ := hinv.marked hunreleased
  have hrun : HostInv u ∧ u.crashed call.process = true ∧
      (u.parties call).heldText = some text ∧
      Inside u.fs node call (some ⟨.owner, file, encode text⟩) ∧ ¬ OwnerRemoved u.fs call := by
    refine hlater.stateInvariant (I := fun u => HostInv u ∧ u.crashed call.process = true ∧
      (u.parties call).heldText = some text ∧
      Inside u.fs node call (some ⟨.owner, file, encode text⟩) ∧ ¬ OwnerRemoved u.fs call)
      ⟨hinv, hcrashed, hheld, hinside, hunreleased.2⟩ ?_
    intro v action w hv hstep
    obtain ⟨hinv, hcrashed, hheld, hinside, hremoved⟩ := hv
    exact ⟨hostInv_step hinv hstep, crashed_step hinv hcrashed hheld hinside hremoved hstep⟩
  obtain ⟨hinv', _, hheld', hinside', hremoved'⟩ := hrun
  have hstill : u.Unreleased call := by
    refine ⟨?_, hremoved'⟩
    rw [hheld']
    exact Option.some_ne_none text
  refine ⟨?_, ?_, text, hheld, node, file, hinside'⟩
  · intro call'
    constructor
    · intro hcall'
      exact hinv'.exclusive hcall' hstill
    · intro heq
      rw [heq]
      exact hstill
  · rw [hinside'.lock, hinside.lock]

theorem abandoned_path_stays_held :
    abandoned.Unreleased (sampleCall 0) ∧ ¬ abandoned.Unreleased (sampleCall 2) := by
  have h := crashed_holder_keeps_path false sampleHost_initial contended_run contended_unreleased
    rfl abandoned_run
  refine ⟨(h.1 (sampleCall 0)).mpr rfl, ?_⟩
  intro hcall
  exact absurd ((h.1 (sampleCall 2)).mp hcall) (by decide)

end OresLocks.LocalFile
