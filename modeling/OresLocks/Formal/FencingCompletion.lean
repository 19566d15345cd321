import OresLocks.Formal.FencingRuns
import Mathlib.Data.List.ReduceOption

/-!
# Atomic fencing survives every schedule of crashes and retries

From every state of a run the holders complete in three rounds without crashes, since
each turn takes one of them a step nearer to its end. The assertions and the decisions
of a run are read off the writes on its labels.
-/

namespace OresLocks.Formal.Fencing

set_option autoImplicit false

open Shared.Runs Fence

variable {tenantScope : String} {resourceKey : LockKey}

section Completion

variable {slots index : Nat} {requests writes : List (Request tenantScope resourceKey)}
  {s s' : State tenantScope resourceKey} {actor : Actor tenantScope resourceKey}

/-- The steps that a holder still has to take when it does not crash. -/
def Phase.rank : Phase → Nat
  | .start => 3
  | .classified _ => 2
  | .afterAtomic _ => 1
  | .done => 0

def State.rank? (s : State tenantScope resourceKey) (index : Nat) : Option Nat :=
  (s.phase? index).map Phase.rank

theorem phase?_eq (hactor : s.actors[index]? = some actor) : s.phase? index = some actor.phase := by
  unfold State.phase?
  rw [hactor]
  rfl

theorem phase?_setPhase (s : State tenantScope resourceKey) (phase : Phase) (j : Nat) :
    (s.setPhase index phase).phase? j =
      if index = j then (s.phase? j).map fun _ => phase else s.phase? j := by
  unfold State.phase? State.setPhase
  rw [List.getElem?_modify]
  cases s.actors[j]? with
  | none =>
    simp only [Option.map_eq_map, Option.map_none]
    split <;> rfl
  | some old =>
    simp only [Option.map_eq_map, Option.map_some]
    split <;> rfl

/-- What a turn does: the holder comes one step nearer to its end, the others stay. -/
def Advances (s : State tenantScope resourceKey) (index : Nat)
    (s' : State tenantScope resourceKey) : Prop :=
  ∀ j, s'.rank? j = if index = j then (s.rank? j).map (· - 1) else s.rank? j

theorem advances_of_actors {phase : Phase} (hactor : s.actors[index]? = some actor)
    (hactors : s'.actors = (s.setPhase index phase).actors)
    (hrank : phase.rank = actor.phase.rank - 1) : Advances s index s' := by
  intro j
  have hphase : s'.phase? j = (s.setPhase index phase).phase? j := by
    unfold State.phase?
    rw [hactors]
  unfold State.rank?
  rw [hphase, phase?_setPhase]
  split
  · rename_i heq
    subst heq
    rw [phase?_eq hactor]
    exact congrArg some hrank
  · rfl

theorem turn_of_candidate (hi : Inv slots requests writes s)
    (hslots : ∀ r ∈ requests, r.token < slots) {next : List (State tenantScope resourceKey)}
    (hdone : s.phase? index ≠ some .done) (hnext : candidates s index = some next)
    (hfind : next.find? (fun candidate => decide (candidate.phase? index ≠ some .start)) =
      some s') :
    turn s index = some s' ∧ ∃ more, Inv slots requests (writes ++ more) s' := by
  constructor
  · unfold turn
    rw [if_neg hdone, hi.successors_of_candidates hslots hnext, Option.bind_eq_bind,
      Option.bind_some, hfind]
  · obtain ⟨actor, hactor, hm⟩ := candidates_move hnext (List.mem_of_find?_eq_some hfind)
    exact ⟨_, hi.move hslots hactor hm⟩

/-- Each turn is possible, whatever happened before. -/
theorem Inv.turn_advances (hi : Inv slots requests writes s)
    (hslots : ∀ r ∈ requests, r.token < slots) (hactor : s.actors[index]? = some actor) :
    ∃ s' more, turn s index = some s' ∧ Inv slots requests (writes ++ more) s' ∧
      Advances s index s' := by
  have hphase? := phase?_eq hactor
  have hset : ∀ phase, (s.setPhase index phase).phase? index = some phase := by
    intro phase
    rw [phase?_setPhase, if_pos rfl, hphase?]
    rfl
  cases hphase : actor.phase with
  | start =>
    rw [hphase] at hphase?
    obtain ⟨decision, hdecision⟩ := classify_total (r := actor.request) s.watermark
    have hnext := candidates_start hactor hphase hdecision
    obtain ⟨hturn, more, hi'⟩ := turn_of_candidate hi hslots (by simp [hphase?]) hnext
      (List.find?_cons_of_pos (by simp [hset]))
    exact ⟨_, more, hturn, hi', advances_of_actors hactor rfl (by rw [hphase]; rfl)⟩
  | classified cached =>
    rw [hphase] at hphase?
    obtain ⟨decision, after, hatomic, hactors⟩ := hi.atomic_total hslots hactor
    have hafter : after.phase? index = some (.afterAtomic decision) := by
      have hsame : after.phase? index =
          (s.setPhase index (.afterAtomic decision)).phase? index := by
        unfold State.phase?
        rw [hactors]
      rw [hsame, hset]
    have hcrash : (s.crash index).phase? index = some .start := by
      unfold State.phase? State.crash
      rw [List.getElem?_modify, hactor]
      simp
    have hnext := candidates_classified hactor hphase hatomic
    have hfind : ((if 0 < actor.crashesLeft then [s.crash index] else []) ++ [after]).find?
        (fun candidate => decide (candidate.phase? index ≠ some .start)) = some after := by
      split <;> simp [hcrash, hafter]
    obtain ⟨hturn, more, hi'⟩ := turn_of_candidate hi hslots (by simp [hphase?]) hnext hfind
    exact ⟨_, more, hturn, hi', advances_of_actors hactor hactors (by rw [hphase]; rfl)⟩
  | afterAtomic decision =>
    rw [hphase] at hphase?
    have hnext := candidates_afterAtomic hactor hphase
    obtain ⟨hturn, more, hi'⟩ := turn_of_candidate hi hslots (by simp [hphase?]) hnext
      (List.find?_cons_of_pos (by simp [hset]))
    exact ⟨_, more, hturn, hi', advances_of_actors hactor rfl (by rw [hphase]; rfl)⟩
  | done =>
    rw [hphase] at hphase?
    refine ⟨s, [], ?_, by rwa [List.append_nil], ?_⟩
    · unfold turn
      rw [if_pos hphase?]
    · intro j
      split
      · rename_i heq
        subst heq
        unfold State.rank?
        rw [hphase?]
        rfl
      · rfl

/-- After the turns of the first holders each of them is one step nearer to its end. -/
theorem Inv.turns (hi : Inv slots requests writes s) (hslots : ∀ r ∈ requests, r.token < slots)
    (k : Nat) (hk : k ≤ s.actors.length) :
    ∃ s' more, (List.range k).foldlM turn s = some s' ∧ Inv slots requests (writes ++ more) s' ∧
      ∀ j, s'.rank? j = if j < k then (s.rank? j).map (· - 1) else s.rank? j := by
  induction k with
  | zero => exact ⟨s, [], rfl, by rwa [List.append_nil], fun j => rfl⟩
  | succ k ih =>
    obtain ⟨t, more, hturns, ht, hrank⟩ := ih (Nat.le_of_succ_le hk)
    have hlength : t.actors.length = s.actors.length := by
      rw [← List.length_map Actor.request, ht.requests, ← hi.requests, List.length_map]
    have hlt : k < t.actors.length := by omega
    obtain ⟨s', more', hturn, hs', hadvances⟩ :=
      ht.turn_advances hslots (List.getElem?_eq_getElem hlt)
    refine ⟨s', more ++ more', ?_, ?_, ?_⟩
    · rw [List.range_succ, List.foldlM_append, hturns, Option.bind_eq_bind, Option.bind_some,
        List.foldlM_cons, hturn]
      rfl
    · rwa [← List.append_assoc]
    · intro j
      rw [hadvances j, hrank j]
      by_cases heq : k = j
      · subst heq
        simp
      · have hiff : j < k + 1 ↔ j < k := by omega
        simp only [if_neg heq, hiff]

theorem allDone_of_rank (h : ∀ j rank, s.rank? j = some rank → rank = 0) : s.allDone = true := by
  unfold State.allDone
  rw [List.all_eq_true]
  intro actor hactor
  obtain ⟨j, hj⟩ := List.mem_iff_getElem?.mp hactor
  have hrank := h j actor.phase.rank (by unfold State.rank?; rw [phase?_eq hj]; rfl)
  cases hphase : actor.phase with
  | done => rfl
  | start | classified | afterAtomic =>
    rw [hphase] at hrank
    cases hrank

/-- Rounds without crashes end as soon as there are more of them than steps to take. -/
theorem Inv.completeIn_total (hslots : ∀ r ∈ requests, r.token < slots) {rounds bound : Nat}
    (hbound : bound < rounds) (hi : Inv slots requests writes s)
    (hrank : ∀ j rank, s.rank? j = some rank → rank ≤ bound) :
    ∃ s' more, completeIn rounds s = some s' ∧ s'.allDone = true ∧
      Inv slots requests (writes ++ more) s' := by
  induction rounds generalizing s writes bound with
  | zero => exact absurd hbound (Nat.not_lt_zero bound)
  | succ rounds ih =>
    unfold completeIn
    by_cases hdone : s.allDone = true
    · exact ⟨s, [], if_pos hdone, hdone, by rwa [List.append_nil]⟩
    · have hpos : 0 < bound := by
        by_contra hzero
        exact hdone (allDone_of_rank fun j rank h => by
          have := hrank j rank h
          omega)
      obtain ⟨t, more, hturns, ht, hless⟩ := hi.turns hslots s.actors.length (Nat.le_refl _)
      have hrank' : ∀ j rank, t.rank? j = some rank → rank ≤ bound - 1 := by
        intro j rank h
        rw [hless j] at h
        split at h
        · obtain ⟨old, hold, rfl⟩ := Option.map_eq_some_iff.mp h
          have := hrank j old hold
          omega
        · rename_i hlen
          have hnone : s.actors[j]? = none := List.getElem?_eq_none (Nat.le_of_not_lt hlen)
          unfold State.rank? State.phase? at h
          rw [hnone] at h
          cases h
      obtain ⟨s', more', hcomplete, hall, hs'⟩ := ih (by omega : bound - 1 < rounds) ht hrank'
      refine ⟨s', more ++ more', ?_, hall, by rwa [← List.append_assoc]⟩
      rw [if_neg hdone, Option.bind_eq_bind]
      have hround : round s = some t := hturns
      rw [hround, Option.bind_some, hcomplete]

theorem rank_le_three {j rank : Nat} (h : s.rank? j = some rank) : rank ≤ 3 := by
  obtain ⟨phase, _, rfl⟩ := Option.map_eq_some_iff.mp h
  cases phase <;> simp [Phase.rank]

theorem Inv.without_crashes (hi : Inv slots requests writes s) :
    Inv slots requests writes
      { s with actors := s.actors.map fun actor => { actor with crashesLeft := 0 } } where
  increasing := hi.increasing
  inSlots := hi.inSlots
  watermark := hi.watermark
  applied := hi.applied
  requests := by
    rw [← hi.requests, List.map_map]
    rfl
  phases := by
    intro actor hactor
    obtain ⟨old, hold, rfl⟩ := List.mem_map.mp hactor
    exact hi.phases old hold

end Completion

section Runs

variable {slots : Nat} {initial : Option (Request tenantScope resourceKey)}
  {holders : List (Request tenantScope resourceKey × Nat)}
  {labels : List (Option (Request tenantScope resourceKey))} {s : State tenantScope resourceKey}

theorem initial_inv (hinitial : ∀ mark ∈ initial, mark.token < slots) :
    Inv slots (holders.map Prod.fst) initial.toList (initialState slots initial holders) where
  increasing := by cases initial <;> simp
  inSlots := by simpa using hinitial
  watermark := by cases initial <;> rfl
  applied := by
    have hzero : ∀ n,
        counts ([] : List (Request tenantScope resourceKey)) n = List.replicate n 0 := by
      intro n
      apply List.ext_getElem <;> simp [counts]
    cases initial with
    | none => exact (hzero slots).symm
    | some mark =>
      have hnone : mark.token ∉ ([] : List (Request tenantScope resourceKey)).map Request.token :=
        List.not_mem_nil
      have hcount : counts [mark] slots = (counts [] slots).set mark.token 1 := counts_concat hnone
      rw [hzero] at hcount
      exact hcount.symm
  requests := by
    unfold initialState
    rw [List.map_map]
    rfl
  phases := by
    intro actor hactor
    obtain ⟨holder, _, rfl⟩ := List.mem_map.mp hactor
    trivial

theorem run_inv (hinitial : ∀ mark ∈ initial, mark.token < slots)
    (hholders : ∀ holder ∈ holders, holder.1.token < slots)
    (h : Exec Step (initialState slots initial holders) labels s) :
    Inv slots (holders.map Prod.fst) (initial.toList ++ labels.reduceOption) s ∧
      ∀ w ∈ labels.reduceOption, w ∈ holders.map Prod.fst := by
  have hslots : ∀ r ∈ holders.map Prod.fst, r.token < slots := by
    intro r hr
    obtain ⟨holder, hholder, rfl⟩ := List.mem_map.mp hr
    exact hholders holder hholder
  refine h.invariant (I := fun labels s =>
    Inv slots (holders.map Prod.fst) (initial.toList ++ labels.reduceOption) s ∧
      ∀ w ∈ labels.reduceOption, w ∈ holders.map Prod.fst) ?_ ?_
  · refine ⟨?_, by simp⟩
    rw [List.reduceOption_nil, List.append_nil]
    exact initial_inv hinitial
  · rintro labels t label u _ ⟨ht, hauthors⟩ ⟨index, next, hnext, hu, rfl⟩
    obtain ⟨actor, hactor, hm⟩ := candidates_move (candidates_of_successors hnext) hu
    have hlabel : [t.written u].reduceOption = (t.written u).toList := by
      cases t.written u <;> rfl
    rw [List.reduceOption_append, hlabel]
    constructor
    · rw [← List.append_assoc]
      exact ht.move hslots hactor hm
    · intro w hw
      rcases List.mem_append.mp hw with hw | hw
      · exact hauthors w hw
      · rw [hm.request_of_written (Option.mem_toList.mp hw)]
        exact ht.request_mem hactor

/-- No assertion of the model fails in any run, its writes are requests of the holders
with increasing tokens, every decision of an atomic step is explained by them, and from
every state reached the holders complete under a watermark that none of them is above. -/
theorem atomic_fencing_survives_crashes (hinitial : ∀ mark ∈ initial, mark.token < slots)
    (hholders : ∀ holder ∈ holders, holder.1.token < slots)
    (h : Exec Step (initialState slots initial holders) labels s) :
    assertState s = true ∧
    (∀ index < holders.length, ∃ next, successors s index = some next) ∧
    (∀ w ∈ labels.reduceOption, w ∈ holders.map Prod.fst) ∧
    ((initial.toList ++ labels.reduceOption).Pairwise fun w w' => w.token < w'.token) ∧
    s.watermark = (initial.toList ++ labels.reduceOption).getLast? ∧
    (∀ actor ∈ s.actors, ∀ decision, actor.phase = .afterAtomic decision →
      Explains (initial.toList ++ labels.reduceOption) actor.request decision) ∧
    ∃ s', completeWithoutMoreCrashes s = some s' ∧ s'.allDone = true ∧
      s'.actors.map Actor.request = holders.map Prod.fst ∧
      ∀ holder ∈ holders, ∃ mark, s'.watermark = some mark ∧ holder.1.token ≤ mark.token := by
  have hslots : ∀ r ∈ holders.map Prod.fst, r.token < slots := by
    intro r hr
    obtain ⟨holder, hholder, rfl⟩ := List.mem_map.mp hr
    exact hholders holder hholder
  obtain ⟨hi, hauthors⟩ := run_inv hinitial hholders h
  refine ⟨hi.assertState_holds, ?_, hauthors, hi.increasing, hi.watermark, ?_, ?_⟩
  · intro index hindex
    have hlength : s.actors.length = holders.length := by
      rw [← List.length_map Actor.request, hi.requests, List.length_map]
    obtain ⟨next, hnext⟩ := hi.candidates_total hslots
      (List.getElem?_eq_getElem (hlength ▸ hindex : index < s.actors.length))
    exact ⟨next, hi.successors_of_candidates hslots hnext⟩
  · intro actor hactor decision hphase
    have hexplained := hi.phases actor hactor
    unfold PhaseHolds at hexplained
    rwa [hphase] at hexplained
  · obtain ⟨s', more, hcomplete, hdone, hs'⟩ := Inv.completeIn_total hslots
      (by decide : 3 < 8) hi.without_crashes fun j rank hrank => rank_le_three hrank
    refine ⟨s', hcomplete, hdone, hs'.requests, ?_⟩
    intro holder hholder
    have hmem : holder.1 ∈ s'.actors.map Actor.request := by
      rw [hs'.requests]
      exact List.mem_map_of_mem hholder
    obtain ⟨actor, hactor, hrequest⟩ := List.mem_map.mp hmem
    have hphase := beq_iff_eq.mp (List.all_eq_true.mp hdone actor hactor)
    have hexplained := hs'.phases actor hactor
    unfold PhaseHolds at hexplained
    rw [hphase] at hexplained
    obtain ⟨decision, hdecision⟩ := hexplained
    obtain ⟨w, hw, hle⟩ := hdecision.covered
    obtain ⟨mark, hmark⟩ := Option.isSome_iff_exists.mp
      (List.getLast?_isSome.mpr (List.ne_nil_of_mem hw))
    refine ⟨mark, hs'.watermark.trans hmark, ?_⟩
    rw [← hrequest]
    exact hle.trans (hs'.token_le_last hmark hw)

/-- One more candidate of a holder continues a run. -/
theorem run_concat (hinitial : ∀ mark ∈ initial, mark.token < slots)
    (hholders : ∀ holder ∈ holders, holder.1.token < slots)
    (h : Exec Step (initialState slots initial holders) labels s) (index : Nat)
    {next : List (State tenantScope resourceKey)} {s' : State tenantScope resourceKey}
    (hnext : candidates s index = some next) (hmem : s' ∈ next) :
    Exec Step (initialState slots initial holders) (labels ++ [s.written s']) s' := by
  have hslots : ∀ r ∈ holders.map Prod.fst, r.token < slots := by
    intro r hr
    obtain ⟨holder, hholder, rfl⟩ := List.mem_map.mp hr
    exact hholders holder hholder
  have hi := (run_inv hinitial hholders h).1
  exact h.snoc ⟨index, next, hi.successors_of_candidates hslots hnext, hmem, rfl⟩

end Runs

section Sample

def sampleKey : LockKey := ⟨"jobs/rebuild", jobsRebuild_admitted⟩

def lowWrite : FencedWriteRequest where
  tenantScope := "acme"
  resourceKey := sampleKey
  fencingToken := .fromU64 1 (by decide)
  operationId := "op-1"
  payloadSha256 := "0123456789abcdef0123456789abcdef0123456789abcdef0123456789abcdef"
  holder := none
  leaseId := none

def low : Request "acme" sampleKey := ⟨lowWrite, by decide, rfl, rfl⟩

def high : Request "acme" sampleKey :=
  ⟨{ lowWrite with fencingToken := .fromU64 2 (by decide), operationId := "op-2" },
    by decide, rfl, rfl⟩

def sampleHolders : List (Request "acme" sampleKey × Nat) := [(low, 1), (high, 1)]

def sampleState (watermark : Option (Request "acme" sampleKey)) (appliedByToken : List Nat)
    (lowPhase highPhase : Phase) (lowCrashes : Nat) : State "acme" sampleKey :=
  ⟨watermark, appliedByToken, [⟨low, lowPhase, lowCrashes⟩, ⟨high, highPhase, 1⟩]⟩

theorem sampleHolders_inSlots : ∀ holder ∈ sampleHolders, holder.1.token < 3 := by decide

theorem sample_concat {labels : List (Option (Request "acme" sampleKey))}
    {s : State "acme" sampleKey} (h : Exec Step (initialState 3 none sampleHolders) labels s)
    (index : Nat) (s' : State "acme" sampleKey) {next : List (State "acme" sampleKey)}
    (hnext : candidates s index = some next) (hmem : s' ∈ next) :
    Exec Step (initialState 3 none sampleHolders) (labels ++ [s.written s']) s' := by
  have hnone : ∀ mark ∈ (none : Option (Request "acme" sampleKey)), mark.token < 3 := by
    intro mark hmark
    cases hmark
  exact run_concat hnone sampleHolders_inSlots h index hnext hmem

/-- Both holders are told that they are ahead; the older one writes, crashes, and comes
back after the newer one has written. -/
theorem sample_run : Exec Step (initialState 3 none sampleHolders)
    [none, none, some low, none, some high, none, none]
    (sampleState (some high) [0, 1, 1] (.afterAtomic .stale) (.afterAtomic .advanced) 0) := by
  have hhigh : classify (some low) high = some .advanced := by decide +kernel
  have hlow : classify (some high) low = some .stale := by decide +kernel
  have hwrite : atomic
      (sampleState none [0, 0, 0] (.classified .advanced) (.classified .advanced) 1) 0 low = some
        (sampleState (some low) [0, 1, 0] (.afterAtomic .advanced) (.classified .advanced) 1) := by
    unfold atomic sampleState
    rw [classify_none]
    rfl
  have hnewer : atomic (sampleState (some low) [0, 1, 0] .start (.classified .advanced) 0) 1 high =
      some (sampleState (some high) [0, 1, 1] .start (.afterAtomic .advanced) 0) := by
    unfold atomic sampleState
    rw [hhigh]
    rfl
  have hstale : atomic
      (sampleState (some high) [0, 1, 1] (.classified .stale) (.afterAtomic .advanced) 0) 0 low =
      some (sampleState (some high) [0, 1, 1] (.afterAtomic .stale) (.afterAtomic .advanced) 0) := by
    unfold atomic sampleState
    rw [hlow]
    rfl
  have h1 := sample_concat .nil 1 (sampleState none [0, 0, 0] .start (.classified .advanced) 1)
    (candidates_start rfl rfl classify_none) (List.mem_singleton_self _)
  have h2 := sample_concat h1 0
    (sampleState none [0, 0, 0] (.classified .advanced) (.classified .advanced) 1)
    (candidates_start rfl rfl classify_none) (List.mem_singleton_self _)
  have h3 := sample_concat h2 0 _ (candidates_classified rfl rfl hwrite)
    (List.mem_append_right _ (List.mem_singleton_self _))
  have h4 := sample_concat h3 0
    (sampleState (some low) [0, 1, 0] .start (.classified .advanced) 0)
    (candidates_afterAtomic rfl rfl) (List.mem_cons_of_mem _ (List.mem_singleton_self _))
  have h5 := sample_concat h4 1 _ (candidates_classified rfl rfl hnewer)
    (List.mem_append_right _ (List.mem_singleton_self _))
  have h6 := sample_concat h5 0
    (sampleState (some high) [0, 1, 1] (.classified .stale) (.afterAtomic .advanced) 0)
    (candidates_start rfl rfl hlow) (List.mem_singleton_self _)
  exact sample_concat h6 0 _ (candidates_classified rfl rfl hstale)
    (List.mem_append_right _ (List.mem_singleton_self _))

/-- The holder that came back reports the newer write, and both complete. -/
theorem late_holder_is_stale : Explains [low, high] low .stale ∧
    ∃ s', completeWithoutMoreCrashes
        (sampleState (some high) [0, 1, 1] (.afterAtomic .stale) (.afterAtomic .advanced) 0) =
        some s' ∧
      s'.allDone = true ∧ ∃ mark, s'.watermark = some mark ∧ 2 ≤ mark.token := by
  have hnone : ∀ mark ∈ (none : Option (Request "acme" sampleKey)), mark.token < 3 := by
    intro mark hmark
    cases hmark
  obtain ⟨_, _, _, _, _, hexplains, s', hcomplete, hdone, _, hcovered⟩ :=
    atomic_fencing_survives_crashes hnone sampleHolders_inSlots sample_run
  exact ⟨hexplains _ (List.mem_cons_self ..) .stale rfl, s', hcomplete, hdone,
    hcovered (high, 1) (by simp [sampleHolders])⟩

end Sample

end OresLocks.Formal.Fencing
