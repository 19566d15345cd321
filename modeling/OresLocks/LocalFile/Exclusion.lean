import OresLocks.LocalFile.Invariant

/-!
# Mutual exclusion of the TypeScript local-file lock

Without recovery every interleaving of acquisitions and releases is safe: at most one
handle is unreleased, and nobody removes or renames what another call made.
-/

namespace OresLocks.LocalFile

set_option autoImplicit false

open Shared.Runs Shared.Programs JsString

variable {win32 : Bool}

def Thread.isHolding : Thread → Bool
  | .holding _ => true
  | _ => false

/-- A returned handle whose owner marker its own release has not removed. -/
def Unreleased (s : System) (call : Call) : Prop :=
  (s.threads call).isHolding = true ∧ ¬ OwnerRemoved s.fs call

/-- The holder of an unreleased lock is the tenant of the directory. -/
theorem Inv.inside_of_unreleased {s : System} (h : Inv s) {call : Call}
    (hunreleased : Unreleased s call) : ∃ node marker, Inside s.fs node call marker := by
  obtain ⟨hholding, hremoved⟩ := hunreleased
  have hthread := h.threads call
  cases hcall : s.threads call with
  | holding lock =>
    rw [hcall] at hthread
    obtain ⟨stage, hat, _, hmarker⟩ := hthread
    obtain ⟨file, rfl⟩ := hmarker.resolve_right hremoved
    obtain ⟨_, _, node, hinside, _⟩ := hat
    exact ⟨node, _, hinside⟩
  | _ =>
    rw [hcall] at hholding
    cases hholding

theorem Inv.exclusive {s : System} (h : Inv s) {call call' : Call} (hc : Unreleased s call)
    (hc' : Unreleased s call') : call = call' := by
  obtain ⟨node, marker, hinside⟩ := h.inside_of_unreleased hc
  obtain ⟨node', marker', hinside'⟩ := h.inside_of_unreleased hc'
  exact hinside.unique hinside'

theorem inv_step {s t : System} {action : Action} (h : Inv s)
    (hno : ∀ call expected confirmed, action ≠ .recover call expected confirmed)
    (hstep : s.Step win32 action t) : Inv t := by
  unfold System.Step System.step at hstep
  cases action with
  | acquire call owner =>
    dsimp only at hstep
    split at hstep
    · cases hstep
    split at hstep
    · rename_i hidle
      cases hstep
      exact h.start_acquire win32 owner hidle
    · cases hstep
  | release call =>
    dsimp only at hstep
    split at hstep
    · cases hstep
    split at hstep
    · rename_i lock hthread
      cases hstep
      exact h.start_release win32 hthread
    · cases hstep
  | recover call expected confirmed => exact absurd rfl (hno call expected confirmed)
  | perform call choice => exact h.advance (.performed choice) hstep
  | fail call error => exact h.advance (.failed error) hstep
  | crash process =>
    cases hstep
    exact ⟨h.threads, h.effects⟩

/-- Mutual exclusion without recovery, over every interleaving of acquisitions and
releases with failures and crashes: at most one handle is unreleased, and every
removal or rename is of something its own call made. -/
theorem local_file_mutual_exclusion {s t : System} (hs : s.Initial) {actions : List Action}
    (h : Exec (System.Step win32) s actions t)
    (hno : ∀ call expected confirmed, .recover call expected confirmed ∉ actions) :
    (∀ call call', Unreleased t call → Unreleased t call' → call = call') ∧
      ∀ e ∈ t.fs.trace, e.creator = some e.call := by
  have hinv : Inv t := by
    revert hno
    refine h.invariant (I := fun actions t => (∀ call expected confirmed,
      .recover call expected confirmed ∉ actions) → Inv t) ?_ ?_
    · intro _
      exact inv_initial hs
    · intro actions t action u _ ih hstep hno
      have hbefore : ∀ call expected confirmed, .recover call expected confirmed ∉ actions :=
        fun call expected confirmed hmem =>
          hno call expected confirmed (List.mem_append_left _ hmem)
      have haction : ∀ call expected confirmed, action ≠ .recover call expected confirmed := by
        intro call expected confirmed heq
        subst heq
        exact hno call expected confirmed (by simp)
      exact inv_step (ih hbefore) haction hstep
  exact ⟨fun call call' hc hc' => hinv.exclusive hc hc', hinv.effects⟩

section Samples

/-- A private parent directory and nothing at the lock path. -/
def sampleStart : System where
  fs := {
    parent := some ⟨.directory, 0o700, 2, 0, ⟨1, 1, 1⟩⟩
    lock := none
    files := fun _ => ⟨.file, 0o600, 0, [], ⟨0, 0, 0⟩, none⟩
    count := 0
    opened := fun _ => none
    trace := [] }
  threads := fun _ => .idle
  crashed := fun _ => false

theorem sampleStart_initial : sampleStart.Initial where
  threads _ := rfl
  trace := rfl
  foreign _ hnode := nomatch hnode

def sampleChoice : Choice := ⟨"", ⟨1, 2, 3⟩, none, 4096⟩

def performs (call : Call) (count : Nat) : List Action :=
  List.replicate count (.perform call sampleChoice)

def sampleCall (process : Nat) : Call := ⟨process, 0⟩

/-- All steps of a release that succeeds. -/
def releases (call : Call) : List Action :=
  .release call :: (performs call 3 ++ [.perform call { sampleChoice with entry := some .owner }] ++
    performs call 12)

/-- Two calls race for a fresh path and the first one wins, a third fails, the winner
releases and its process crashes, and a later call acquires under the same owner. -/
def racedAcquisitions : List Action :=
  [.acquire (sampleCall 0) [0x78], .acquire (sampleCall 1) [0x79]] ++ performs (sampleCall 1) 2 ++
    performs (sampleCall 0) 13 ++ performs (sampleCall 1) 3 ++
    [.acquire (sampleCall 2) [0x7a], .fail (sampleCall 2) ⟨some "EACCES", "permission denied"⟩] ++
    releases (sampleCall 0) ++ [.crash 0, .acquire (sampleCall 3) [0x78]] ++ performs (sampleCall 3) 13

def racedSystem : System :=
  (racedAcquisitions.foldlM (System.step false) sampleStart).getD sampleStart

end Samples

/-- After the race the later call holds alone. -/
theorem later_acquisition_exclusive :
    Unreleased racedSystem (sampleCall 3) ∧
      ∀ call, Unreleased racedSystem call → call = sampleCall 3 := by
  have hrun : Exec (System.Step false) sampleStart racedAcquisitions racedSystem :=
    Exec.of_foldlM rfl
  have hno : ∀ call expected confirmed, .recover call expected confirmed ∉ racedAcquisitions := by
    intro call expected confirmed hmem
    simp [racedAcquisitions, releases, performs] at hmem
  have hholds : Unreleased racedSystem (sampleCall 3) := by
    refine ⟨rfl, ?_⟩
    unfold OwnerRemoved
    decide +kernel
  have hexclusive := local_file_mutual_exclusion sampleStart_initial hrun hno
  exact ⟨hholds, fun call hcall => hexclusive.1 call (sampleCall 3) hcall hholds⟩

end OresLocks.LocalFile
