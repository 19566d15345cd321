import OresLocks.Formal.FencingModel
import Mathlib.Data.List.Nodup

/-!
# What the writes make of the state

The writes of a run are the ones its atomic steps apply. Their tokens increase, the last
of them is the watermark, and a slot counts the writes with its token. Every step of a
holder keeps this, and with it no assertion of the model fails.
-/

namespace OresLocks.Formal.Fencing

set_option autoImplicit false

open Fence

variable {tenantScope : String} {resourceKey : LockKey}

section Classification

variable {w r : Request tenantScope resourceKey}

theorem classify_none : classify none r = some .advanced := by
  unfold classify
  rw [Option.map_none, evaluateFence_first r.valid]

theorem classify_some : classify (some w) r = some
    (match compare r.token w.token with
    | .gt => .advanced
    | .lt => .stale
    | .eq => if w.Same r then .replay else .tokenReuse) := by
  have hvalid : (FenceWatermark.fromRequest w.write).validate = .ok () := w.valid
  have htenant : (FenceWatermark.fromRequest w.write).tenantScope = r.write.tenantScope :=
    w.tenant.trans r.tenant.symm
  have hresource : (FenceWatermark.fromRequest w.write).resourceKey = r.write.resourceKey :=
    w.resource.trans r.resource.symm
  have heval := evaluateFence_found r.valid hvalid htenant hresource
  unfold classify
  rw [Option.map_some, heval]
  have htoken : (FenceWatermark.fromRequest w.write).fencingToken.value = w.token := rfl
  have hr : r.write.fencingToken.value = r.token := rfl
  rw [htoken, hr]
  cases hc : compare r.token w.token with
  | gt => rfl
  | lt => rfl
  | eq =>
    have heq := Nat.compare_eq_eq.mp hc
    have hsame : w.Same r ↔
        (FenceWatermark.fromRequest w.write).operationId = r.write.operationId ∧
          (FenceWatermark.fromRequest w.write).payloadSha256 = r.write.payloadSha256 := by
      constructor
      · intro h
        exact h.2
      · intro h
        exact ⟨heq.symm, h⟩
    simp only [hsame]
    split <;> rfl

theorem classify_total (watermark : Option (Request tenantScope resourceKey)) :
    ∃ decision, classify watermark r = some decision := by
  cases watermark with
  | none => exact ⟨_, classify_none⟩
  | some w => exact ⟨_, classify_some⟩

/-- What the writes so far say of a request with this decision. -/
def Explains (writes : List (Request tenantScope resourceKey))
    (r : Request tenantScope resourceKey) : FenceDecisionKind → Prop
  | .advanced => ∃ w ∈ writes, w.Same r
  | .replay => ∃ w ∈ writes, w.Same r
  | .stale => ∃ w ∈ writes, r.token < w.token
  | .tokenReuse => ∃ w ∈ writes, w.token = r.token ∧ ¬ w.Same r

/-- A decision other than `advanced` is explained by the watermark. -/
theorem explains_of_classify {writes : List (Request tenantScope resourceKey)}
    {decision : FenceDecisionKind} (h : classify writes.getLast? r = some decision)
    (hne : decision ≠ .advanced) : Explains writes r decision := by
  cases hlast : writes.getLast? with
  | none =>
    rw [hlast, classify_none, Option.some.injEq] at h
    exact absurd h.symm hne
  | some w =>
    have hmem := List.mem_of_getLast? hlast
    rw [hlast, classify_some, Option.some.injEq] at h
    cases hc : compare r.token w.token with
    | gt =>
      rw [hc] at h
      exact absurd h.symm hne
    | lt =>
      rw [hc] at h
      subst h
      exact ⟨w, hmem, Nat.compare_eq_lt.mp hc⟩
    | eq =>
      rw [hc] at h
      simp only at h
      split at h
      · rename_i hsame
        subst h
        exact ⟨w, hmem, hsame⟩
      · rename_i hsame
        subst h
        exact ⟨w, hmem, (Nat.compare_eq_eq.mp hc).symm, hsame⟩

theorem newer_of_classify (h : classify (some w) r = some .advanced) : w.token < r.token := by
  rw [classify_some, Option.some.injEq] at h
  cases hc : compare r.token w.token with
  | gt => exact Nat.compare_eq_gt.mp hc
  | lt =>
    rw [hc] at h
    cases h
  | eq =>
    rw [hc] at h
    simp only at h
    split at h <;> cases h

end Classification

section Moves

/-- The kinds of steps of one holder. -/
inductive Move (s : State tenantScope resourceKey) (index : Nat)
    (actor : Actor tenantScope resourceKey) : State tenantScope resourceKey → Prop where
  | classify (decision : FenceDecisionKind) :
      Move s index actor (s.setPhase index (.classified decision))
  | crash : Move s index actor (s.crash index)
  | keep (decision : FenceDecisionKind)
      (h : Fencing.classify s.watermark actor.request = some decision)
      (hne : decision ≠ .advanced) :
      Move s index actor (s.setPhase index (.afterAtomic decision))
  | apply (applied : State tenantScope resourceKey)
      (h : Fencing.classify s.watermark actor.request = some .advanced)
      (happly : applyAdvanced s actor.request = some applied) :
      Move s index actor (applied.setPhase index (.afterAtomic .advanced))
  | done (decision : FenceDecisionKind) (h : actor.phase = .afterAtomic decision) :
      Move s index actor (s.setPhase index .done)

variable {s s' : State tenantScope resourceKey} {index : Nat}
  {next : List (State tenantScope resourceKey)} {actor : Actor tenantScope resourceKey}

theorem atomic_move (h : atomic s index actor.request = some s') : Move s index actor s' := by
  unfold atomic at h
  obtain ⟨decision, hdecision, h⟩ := Option.bind_eq_some_iff.mp h
  split at h
  · rename_i hadvanced
    subst hadvanced
    obtain ⟨applied, happlied, h⟩ := Option.bind_eq_some_iff.mp h
    cases h
    exact .apply applied hdecision happlied
  · rename_i hne
    cases h
    exact .keep decision hdecision hne

theorem candidates_move (h : candidates s index = some next) (hmem : s' ∈ next) :
    ∃ actor, s.actors[index]? = some actor ∧ Move s index actor s' := by
  unfold candidates at h
  obtain ⟨actor, hactor, h⟩ := Option.bind_eq_some_iff.mp h
  have hcrash : ∀ t, t ∈ (if 0 < actor.crashesLeft then [s.crash index] else []) →
      Move s index actor t := by
    intro t ht
    split at ht
    · rw [List.mem_singleton.mp ht]
      exact .crash
    · cases ht
  refine ⟨actor, hactor, ?_⟩
  simp only at h
  split at h
  · obtain ⟨decision, _, h⟩ := Option.bind_eq_some_iff.mp h
    cases h
    rw [List.mem_singleton.mp hmem]
    exact .classify decision
  · obtain ⟨after, hafter, h⟩ := Option.bind_eq_some_iff.mp h
    cases h
    rcases List.mem_append.mp hmem with hmem | hmem
    · exact hcrash s' hmem
    · rw [List.mem_singleton.mp hmem]
      exact atomic_move hafter
  · rename_i decision hphase
    cases h
    rcases List.mem_cons.mp hmem with rfl | hmem
    · exact .done decision hphase
    · exact hcrash s' hmem
  · cases h
    cases hmem

theorem candidates_of_successors (h : successors s index = some next) :
    candidates s index = some next := by
  unfold successors at h
  obtain ⟨all, hall, h⟩ := Option.bind_eq_some_iff.mp h
  obtain ⟨_, _, h⟩ := Option.bind_eq_some_iff.mp h
  cases h
  exact hall

end Moves

section Explanations

variable {writes more : List (Request tenantScope resourceKey)}
  {r : Request tenantScope resourceKey} {decision : FenceDecisionKind}

theorem Explains.append (h : Explains writes r decision) :
    Explains (writes ++ more) r decision := by
  cases decision with
  | advanced | replay | stale | tokenReuse =>
    obtain ⟨w, hw, hwr⟩ := h
    exact ⟨w, List.mem_append_left more hw, hwr⟩

/-- Whatever was decided, a write with this token or a newer one has been applied. -/
theorem Explains.covered (h : Explains writes r decision) : ∃ w ∈ writes, r.token ≤ w.token := by
  cases decision with
  | advanced | replay =>
    obtain ⟨w, hw, hsame⟩ := h
    exact ⟨w, hw, hsame.1.ge⟩
  | stale =>
    obtain ⟨w, hw, hlt⟩ := h
    exact ⟨w, hw, hlt.le⟩
  | tokenReuse =>
    obtain ⟨w, hw, htoken, _⟩ := h
    exact ⟨w, hw, htoken.ge⟩

/-- A holder that is past its atomic step has a decision that the writes explain. -/
def PhaseHolds (writes : List (Request tenantScope resourceKey))
    (actor : Actor tenantScope resourceKey) : Prop :=
  match actor.phase with
  | .start => True
  | .classified _ => True
  | .afterAtomic decision => Explains writes actor.request decision
  | .done => ∃ decision, Explains writes actor.request decision

theorem PhaseHolds.append {actor : Actor tenantScope resourceKey} (h : PhaseHolds writes actor) :
    PhaseHolds (writes ++ more) actor := by
  unfold PhaseHolds at *
  split
  · trivial
  · trivial
  · rename_i hphase
    rw [hphase] at h
    exact h.append
  · rename_i hphase
    rw [hphase] at h
    obtain ⟨decision, h⟩ := h
    exact ⟨decision, h.append⟩

/-- Each slot counts the writes with its token. -/
def counts (writes : List (Request tenantScope resourceKey)) (slots : Nat) : List Nat :=
  (List.range slots).map fun token => (writes.map Request.token).count token

theorem getElem?_counts (writes : List (Request tenantScope resourceKey)) {slots token : Nat}
    (h : token < slots) :
    (counts writes slots)[token]? = some ((writes.map Request.token).count token) := by
  unfold counts
  rw [List.getElem?_map, List.getElem?_range h]
  rfl

theorem counts_concat {slots : Nat} (hnew : r.token ∉ writes.map Request.token) :
    counts (writes ++ [r]) slots = (counts writes slots).set r.token 1 := by
  apply List.ext_getElem
  · simp [counts]
  · intro token h _
    have hcount := List.count_eq_zero.mpr hnew
    rw [List.getElem_set]
    simp only [counts, List.getElem_map, List.getElem_range, List.map_append, List.map_cons,
      List.map_nil, List.count_append, List.count_singleton, beq_iff_eq]
    split
    · rename_i heq
      subst heq
      rw [hcount]
    · rfl

end Explanations

section Invariant

/-- The state is what the writes so far make of it. -/
structure Inv (slots : Nat) (requests writes : List (Request tenantScope resourceKey))
    (s : State tenantScope resourceKey) : Prop where
  increasing : writes.Pairwise fun w w' => w.token < w'.token
  inSlots : ∀ w ∈ writes, w.token < slots
  watermark : s.watermark = writes.getLast?
  applied : s.appliedByToken = counts writes slots
  requests : s.actors.map Actor.request = requests
  phases : ∀ actor ∈ s.actors, PhaseHolds writes actor

variable {slots index : Nat} {requests writes more : List (Request tenantScope resourceKey)}
  {s s' : State tenantScope resourceKey} {actor : Actor tenantScope resourceKey}

theorem Inv.nodup (hi : Inv slots requests writes s) : (writes.map Request.token).Nodup :=
  List.pairwise_map.mpr (hi.increasing.imp fun h => h.ne)

theorem Inv.token_le_last (hi : Inv slots requests writes s)
    {mark w : Request tenantScope resourceKey} (hlast : writes.getLast? = some mark)
    (hw : w ∈ writes) : w.token ≤ mark.token := by
  obtain ⟨before, rfl⟩ := List.getLast?_eq_some_iff.mp hlast
  rcases List.mem_append.mp hw with hw | hw
  · exact ((List.pairwise_append.mp hi.increasing).2.2 w hw mark (List.mem_singleton_self _)).le
  · rw [List.mem_singleton.mp hw]

theorem Inv.request_mem (hi : Inv slots requests writes s) (h : s.actors[index]? = some actor) :
    actor.request ∈ requests := by
  rw [← hi.requests]
  exact List.mem_map_of_mem (List.mem_of_getElem? h)

theorem mem_modify {f : Actor tenantScope resourceKey → Actor tenantScope resourceKey}
    {actors : List (Actor tenantScope resourceKey)} (h : actor ∈ actors.modify index f) :
    actor ∈ actors ∨ ∃ old, actors[index]? = some old ∧ actor = f old := by
  obtain ⟨j, hj⟩ := List.mem_iff_getElem?.mp h
  rw [List.getElem?_modify] at hj
  obtain ⟨old, hold, hactor⟩ := Option.map_eq_some_iff.mp hj
  split at hactor
  · rename_i heq
    subst heq
    exact .inr ⟨old, hold, hactor.symm⟩
  · subst hactor
    exact .inl (List.mem_of_getElem? hold)

/-- A change of one holder's phase alone. -/
theorem Inv.modify {f : Actor tenantScope resourceKey → Actor tenantScope resourceKey}
    (hi : Inv slots requests writes s) (hrequest : ∀ old, (f old).request = old.request)
    (hphase : ∀ old, s.actors[index]? = some old → PhaseHolds writes (f old)) :
    Inv slots requests writes { s with actors := s.actors.modify index f } where
  increasing := hi.increasing
  inSlots := hi.inSlots
  watermark := hi.watermark
  applied := hi.applied
  requests := by
    rw [← hi.requests]
    apply List.ext_getElem?
    intro j
    simp only [List.getElem?_map, List.getElem?_modify]
    cases s.actors[j]? with
    | none => rfl
    | some old =>
      simp only [Option.map_eq_map, Option.map_some]
      split
      · rw [hrequest]
      · rfl
  phases := by
    intro actor hactor
    rcases mem_modify hactor with hactor | ⟨old, hold, rfl⟩
    · exact hi.phases actor hactor
    · exact hphase old hold

/-- What is left when no assertion of `applyAdvanced` fails. -/
def State.advance (s : State tenantScope resourceKey) (request : Request tenantScope resourceKey) :
    State tenantScope resourceKey :=
  { s with appliedByToken := s.appliedByToken.set request.token 1, watermark := some request }

@[simp] theorem State.advance_actors (s : State tenantScope resourceKey)
    (request : Request tenantScope resourceKey) : (s.advance request).actors = s.actors := rfl

/-- A write that advances finds its slot empty and becomes the last one. -/
theorem Inv.advance (hi : Inv slots requests writes s) {r : Request tenantScope resourceKey}
    (hslot : r.token < slots) (h : classify s.watermark r = some .advanced) :
    Inv slots requests (writes ++ [r]) (s.advance r) ∧
      applyAdvanced s r = some (s.advance r) := by
  rw [hi.watermark] at h
  have hnewer : ∀ w ∈ writes, w.token < r.token := by
    intro w hw
    obtain ⟨mark, hlast⟩ := Option.isSome_iff_exists.mp
      (List.getLast?_isSome.mpr (List.ne_nil_of_mem hw))
    rw [hlast] at h
    exact (hi.token_le_last hlast hw).trans_lt (newer_of_classify h)
  have hnew : r.token ∉ writes.map Request.token := by
    intro hmem
    obtain ⟨w, hw, htoken⟩ := List.mem_map.mp hmem
    exact (hnewer w hw).ne htoken
  refine ⟨{
    increasing := ?_
    inSlots := ?_
    watermark := List.getLast?_concat.symm
    applied := ?_
    requests := hi.requests
    phases := fun actor hactor => (hi.phases actor hactor).append }, ?_⟩
  · rw [List.pairwise_append]
    refine ⟨hi.increasing, List.pairwise_singleton _ _, ?_⟩
    intro w hw r' hr'
    rw [List.mem_singleton.mp hr']
    exact hnewer w hw
  · intro w hw
    rcases List.mem_append.mp hw with hw | hw
    · exact hi.inSlots w hw
    · rw [List.mem_singleton.mp hw]
      exact hslot
  · rw [counts_concat hnew, ← hi.applied]
    rfl
  · have hguard : (s.watermark.all fun current => decide (current.token < r.token)) = true := by
      rw [hi.watermark, Option.all_eq_true]
      intro w hw
      exact decide_eq_true (hnewer w (List.mem_of_getLast? hw))
    have hempty : s.appliedByToken[r.token]? = some 0 := by
      rw [hi.applied, getElem?_counts writes hslot, List.count_eq_zero.mpr hnew]
    unfold applyAdvanced
    rw [hguard, hempty]
    rfl

/-- A step of one holder adds the write of its label and keeps the rest. -/
theorem Inv.move (hi : Inv slots requests writes s) (hslots : ∀ r ∈ requests, r.token < slots)
    (hactor : s.actors[index]? = some actor) (hm : Move s index actor s') :
    Inv slots requests (writes ++ (s.written s').toList) s' := by
  have hidle : ∀ t, t.appliedByToken = s.appliedByToken →
      writes ++ (s.written t).toList = writes := by
    intro t ht
    unfold State.written
    rw [if_pos ht]
    exact List.append_nil writes
  cases hm with
  | classify decision =>
    rw [hidle (s.setPhase index (.classified decision)) rfl]
    exact hi.modify (fun _ => rfl) fun _ _ => trivial
  | crash =>
    rw [hidle (s.crash index) rfl]
    exact hi.modify (fun _ => rfl) fun _ _ => trivial
  | keep decision h hne =>
    rw [hidle (s.setPhase index (.afterAtomic decision)) rfl]
    refine hi.modify (fun _ => rfl) ?_
    intro old hold
    rw [hactor, Option.some.injEq] at hold
    subst hold
    rw [hi.watermark] at h
    exact explains_of_classify h hne
  | apply applied h happly =>
    obtain ⟨hi', happly'⟩ := hi.advance (hslots _ (hi.request_mem hactor)) h
    rw [happly', Option.some.injEq] at happly
    subst happly
    have hchanged : s.appliedByToken.set actor.request.token 1 ≠ s.appliedByToken := by
      intro hsame
      have hslot := hslots _ (hi.request_mem hactor)
      have hbefore := getElem?_counts writes hslot
      have hafter := getElem?_counts (writes ++ [actor.request]) hslot
      have happlied : (s.advance actor.request).appliedByToken = s.appliedByToken := hsame
      rw [← hi'.applied, happlied, hi.applied, hbefore, List.map_append,
        List.count_append] at hafter
      simp at hafter
    have hwritten : s.written ((s.advance actor.request).setPhase index (.afterAtomic .advanced)) =
        some actor.request := if_neg hchanged
    rw [hwritten]
    refine hi'.modify (fun _ => rfl) ?_
    intro old hold
    rw [State.advance_actors, hactor, Option.some.injEq] at hold
    subst hold
    exact ⟨actor.request, List.mem_append_right _ (List.mem_singleton_self _), rfl, rfl, rfl⟩
  | done decision hphase =>
    rw [hidle (s.setPhase index .done) rfl]
    refine hi.modify (fun _ => rfl) ?_
    intro old hold
    rw [hactor, Option.some.injEq] at hold
    subst hold
    have hexplained := hi.phases actor (List.mem_of_getElem? hactor)
    unfold PhaseHolds at hexplained
    rw [hphase] at hexplained
    exact ⟨decision, hexplained⟩

/-- A write is applied for the holder that steps. -/
theorem Move.request_of_written (hm : Move s index actor s') {w : Request tenantScope resourceKey}
    (hw : s.written s' = some w) : w = actor.request := by
  unfold State.written at hw
  split at hw
  · cases hw
  rename_i hchanged
  cases hm with
  | classify | crash | keep | done => exact absurd rfl hchanged
  | apply applied h happly =>
    unfold applyAdvanced at happly
    obtain ⟨_, _, happly⟩ := Option.bind_eq_some_iff.mp happly
    obtain ⟨_, _, happly⟩ := Option.bind_eq_some_iff.mp happly
    obtain ⟨_, _, happly⟩ := Option.bind_eq_some_iff.mp happly
    cases happly
    cases hw
    rfl

end Invariant

section Assertions

variable {slots index : Nat} {requests writes more : List (Request tenantScope resourceKey)}
  {s s' : State tenantScope resourceKey} {actor : Actor tenantScope resourceKey}

theorem Inv.applied_le_one (hi : Inv slots requests writes s) :
    ∀ count ∈ s.appliedByToken, count ≤ 1 := by
  intro count hcount
  rw [hi.applied] at hcount
  obtain ⟨token, _, rfl⟩ := List.mem_map.mp hcount
  exact List.nodup_iff_count_le_one.mp hi.nodup token

theorem Inv.assertState_holds (hi : Inv slots requests writes s) : assertState s = true := by
  unfold assertState
  rw [Bool.and_eq_true]
  constructor
  · rw [List.all_eq_true]
    intro count hcount
    exact decide_eq_true (hi.applied_le_one count hcount)
  rw [hi.watermark]
  cases hlast : writes.getLast? with
  | none =>
    rw [List.getLast?_eq_none_iff] at hlast
    subst hlast
    simp only [List.all_eq_true, beq_iff_eq]
    intro count hcount
    rw [hi.applied] at hcount
    obtain ⟨token, _, rfl⟩ := List.mem_map.mp hcount
    rfl
  | some mark =>
    have hmark := List.mem_of_getLast? hlast
    simp only [Bool.and_eq_true, List.all_eq_true, beq_iff_eq]
    constructor
    · intro count hcount
      obtain ⟨j, hj⟩ := List.mem_iff_getElem?.mp hcount
      rw [List.getElem?_drop, hi.applied] at hj
      unfold counts at hj
      rw [List.getElem?_map] at hj
      obtain ⟨token, htoken, rfl⟩ := Option.map_eq_some_iff.mp hj
      obtain ⟨hlt, rfl⟩ := List.getElem?_eq_some_iff.mp htoken
      rw [List.count_eq_zero, List.getElem_range]
      intro hmem
      obtain ⟨w, hw, heq⟩ := List.mem_map.mp hmem
      have hle := hi.token_le_last hlast hw
      omega
    · rw [hi.applied, getElem?_counts writes (hi.inSlots mark hmark),
        List.count_eq_one_of_mem hi.nodup (List.mem_map_of_mem hmark)]

theorem Inv.assertTransition_holds (hi : Inv slots requests writes s)
    (hi' : Inv slots requests (writes ++ more) s') : assertTransition s s' = true := by
  unfold assertTransition
  rw [hi'.assertState_holds, Bool.and_true, Bool.and_eq_true]
  constructor
  · split
    · rename_i old new hold hnew
      rw [hi.watermark] at hold
      rw [hi'.watermark] at hnew
      exact decide_eq_true (hi'.token_le_last hnew
        (List.mem_append_left more (List.mem_of_getLast? hold)))
    · rfl
  · rw [hi.applied, hi'.applied]
    unfold counts
    rw [List.zip_map', List.all_map, List.all_eq_true]
    intro token _
    have hone := List.nodup_iff_count_le_one.mp hi'.nodup token
    rw [List.map_append, List.count_append] at hone
    simp only [Function.comp_apply, List.map_append, List.count_append, Bool.and_eq_true,
      decide_eq_true_eq]
    omega

theorem Inv.atomic_total (hi : Inv slots requests writes s)
    (hslots : ∀ r ∈ requests, r.token < slots) (hactor : s.actors[index]? = some actor) :
    ∃ decision s', atomic s index actor.request = some s' ∧
      s'.actors = (s.setPhase index (.afterAtomic decision)).actors := by
  obtain ⟨decision, hdecision⟩ := classify_total (r := actor.request) s.watermark
  unfold atomic
  by_cases hadvanced : decision = .advanced
  · subst hadvanced
    obtain ⟨_, happly⟩ := hi.advance (hslots _ (hi.request_mem hactor)) hdecision
    refine ⟨.advanced, (s.advance actor.request).setPhase index (.afterAtomic .advanced), ?_, rfl⟩
    rw [hdecision, Option.bind_eq_bind, Option.bind_some, if_pos rfl, happly]
    rfl
  · refine ⟨decision, _, ?_, rfl⟩
    rw [hdecision, Option.bind_eq_bind, Option.bind_some, if_neg hadvanced]
    rfl

section Candidates

variable {decision cached : FenceDecisionKind} {after : State tenantScope resourceKey}

theorem candidates_start (hactor : s.actors[index]? = some actor) (hphase : actor.phase = .start)
    (hdecision : classify s.watermark actor.request = some decision) :
    candidates s index = some [s.setPhase index (.classified decision)] := by
  unfold candidates
  rw [hactor, Option.bind_eq_bind, Option.bind_some]
  simp only [hphase, hdecision]
  rfl

theorem candidates_classified (hactor : s.actors[index]? = some actor)
    (hphase : actor.phase = .classified cached)
    (hatomic : atomic s index actor.request = some after) :
    candidates s index = some
      ((if 0 < actor.crashesLeft then [s.crash index] else []) ++ [after]) := by
  unfold candidates
  rw [hactor, Option.bind_eq_bind, Option.bind_some]
  simp only [hphase, hatomic]
  rfl

theorem candidates_afterAtomic (hactor : s.actors[index]? = some actor)
    (hphase : actor.phase = .afterAtomic decision) :
    candidates s index = some
      (s.setPhase index .done :: (if 0 < actor.crashesLeft then [s.crash index] else [])) := by
  unfold candidates
  rw [hactor, Option.bind_eq_bind, Option.bind_some]
  simp only [hphase]
  rfl

theorem candidates_done (hactor : s.actors[index]? = some actor) (hphase : actor.phase = .done) :
    candidates s index = some [] := by
  unfold candidates
  rw [hactor, Option.bind_eq_bind, Option.bind_some]
  simp only [hphase]
  rfl

end Candidates

theorem Inv.candidates_total (hi : Inv slots requests writes s)
    (hslots : ∀ r ∈ requests, r.token < slots) (hactor : s.actors[index]? = some actor) :
    ∃ next, candidates s index = some next := by
  cases hphase : actor.phase with
  | start =>
    obtain ⟨decision, hdecision⟩ := classify_total (r := actor.request) s.watermark
    exact ⟨_, candidates_start hactor hphase hdecision⟩
  | classified cached =>
    obtain ⟨_, after, hatomic, _⟩ := hi.atomic_total hslots hactor
    exact ⟨_, candidates_classified hactor hphase hatomic⟩
  | afterAtomic decision => exact ⟨_, candidates_afterAtomic hactor hphase⟩
  | done => exact ⟨_, candidates_done hactor hphase⟩

/-- No assertion fails and no error is unwrapped in a step. -/
theorem Inv.successors_of_candidates (hi : Inv slots requests writes s)
    (hslots : ∀ r ∈ requests, r.token < slots) {next : List (State tenantScope resourceKey)}
    (h : candidates s index = some next) : successors s index = some next := by
  have hall : next.all (assertTransition s) = true := by
    rw [List.all_eq_true]
    intro s' hs'
    obtain ⟨actor, hactor, hm⟩ := candidates_move h hs'
    exact hi.assertTransition_holds (hi.move hslots hactor hm)
  unfold successors
  rw [h, Option.bind_eq_bind, Option.bind_some, hall]
  rfl

end Assertions

end OresLocks.Formal.Fencing
