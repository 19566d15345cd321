import OresLocks.AuthorityRuns
import OresLocks.FencedWriteTokens

/-!
# Fencing from the authority to the protected value

The authority for one key and the script for one pair of Redis keys run side by
side. A client may send a write with any token the authority ever returned, at any
later time and any number of times. A run of the whole system projects to a run of
the authority and to a run of the script; the two are linked by the tokens that
have been returned.
-/

namespace OresLocks.EndToEnd

set_option autoImplicit false

open Shared.Numeral Shared.Runs Redis FencedWrite

/-- One execution of the script, with its reply. -/
structure Write where
  now : Int
  argv : List Bytes
  reply : Reply

def WriteStep (watermarkKey stateKey : Bytes) (store : Store) (w : Write) (store' : Store) : Prop :=
  fencedWrite w.now [watermarkKey, stateKey] w.argv store = (w.reply, store')

/-- The token and the payload of a write that was answered `advanced`. -/
def Write.applied (w : Write) : Option (Bytes × Bytes) :=
  match w.reply.isAdvanced, w.argv with
  | true, incoming :: _ :: _ :: serializedValue :: _ => some (incoming, serializedValue)
  | _, _ => none

def appliedWrites (ws : List Write) : List (Bytes × Bytes) := ws.filterMap Write.applied

/-- The pair of keys holds the last applied write, or nothing. -/
def Latest (watermarkKey stateKey : Bytes) (store : Store) : Option (Bytes × Bytes) → Prop
  | none => store watermarkKey = none ∧ store stateKey = none
  | some (token, value) =>
    (∃ w : Watermark, store watermarkKey = some ⟨.hash w.hash, none⟩ ∧ w.fencingToken = token) ∧
      store stateKey = some ⟨.string value, none⟩

section Writes

variable {watermarkKey stateKey : Bytes} {store store' : Store} {w : Write}

/-- A write changes nothing, or it is applied over an older token. -/
theorem WriteStep.cases (h : WriteStep watermarkKey stateKey store w store') (hp : Persistent store)
    {last : Option (Bytes × Bytes)} (hl : Latest watermarkKey stateKey store last) :
    (w.applied = none ∧ store' = store) ∨
    (∃ token value, w.applied = some (token, value) ∧ canonicalToken token = true ∧
      Latest watermarkKey stateKey store' (some (token, value)) ∧
      ∀ previous ∈ last, natOf previous.1 < natOf token) := by
  unfold WriteStep at h
  rcases fencedWrite_cases w.now [watermarkKey, stateKey] w.argv store with
    ⟨reply, hnot, hq⟩ | ⟨r, expiresAt, previous, ha⟩
  · rw [hq, Prod.mk.injEq] at h
    left
    refine ⟨?_, h.2.symm⟩
    unfold Write.applied
    rw [← h.1, hnot]
  · right
    obtain ⟨optional, hread⟩ := ha.readFrom
    have hkeys := hread.keys
    simp only [List.cons.injEq, and_true] at hkeys
    obtain ⟨rfl, rfl⟩ := hkeys
    have hexpiry := ha.persistent hp
    subst hexpiry
    rw [ha.result, Prod.mk.injEq] at h
    obtain ⟨hreply, rfl⟩ := h
    refine ⟨r.incoming, r.serializedValue, ?_, ha.accepted.incoming, ⟨⟨r.watermark, ?_, rfl⟩, ?_⟩, ?_⟩
    · unfold Write.applied
      rw [← hreply, hread.argv]
      rfl
    · exact apply_watermarkKey r none store ha.accepted.distinct
    · exact apply_stateKey r none store
    · intro prior hprior
      cases last with
      | none => simp at hprior
      | some last =>
        simp only [Option.mem_def, Option.some.injEq] at hprior
        subst hprior
        obtain ⟨⟨stored, hstored, htoken⟩, _⟩ := hl
        cases ha.ahead with
        | first hnone =>
          rw [hp.lookup, hstored] at hnone
          cases hnone
        | newer hf hgt =>
          have hfound := hf.watermark
          rw [hp.lookup, hstored] at hfound
          simp only [Option.some.injEq, Entry.mk.injEq, Value.hash.injEq, and_true] at hfound
          have heq := hash_injective hfound
          subst heq
          rw [← htoken]
          exact natOf_lt_of_compareDecimal ha.accepted.incoming hf.valid.fencingToken hgt

/-- What a run of writes from an empty store has left. -/
structure WriteInvariant (watermarkKey stateKey : Bytes) (ws : List Write) (store : Store) :
    Prop where
  persistent : Persistent store
  latest : Latest watermarkKey stateKey store (appliedWrites ws).getLast?
  increasing : (appliedWrites ws).Pairwise fun a b => natOf a.1 < natOf b.1

theorem pairwise_concat {α : Type} {R : α → α → Prop} (trans : ∀ {a b c}, R a b → R b c → R a c)
    {l : List α} {a : α} (h : l.Pairwise R) (hlast : ∀ b ∈ l.getLast?, R b a) :
    (l ++ [a]).Pairwise R := by
  rw [List.pairwise_append]
  refine ⟨h, by simp, ?_⟩
  intro b hb c hc
  rw [List.mem_singleton] at hc
  subst hc
  induction l using List.reverseRecOn with
  | nil => simp at hb
  | append_singleton l last _ =>
    have hl : R last c := hlast last (by simp)
    rcases List.mem_append.mp hb with hb | hb
    · exact trans ((List.pairwise_append.mp h).2.2 b hb last (by simp)) hl
    · rw [List.mem_singleton] at hb
      subst hb
      exact hl

theorem writeInvariant_of_exec {ws : List Write}
    (h : Exec (WriteStep watermarkKey stateKey) Redis.empty ws store) :
    WriteInvariant watermarkKey stateKey ws store := by
  refine h.invariant (I := WriteInvariant watermarkKey stateKey)
    ⟨persistent_empty, ⟨rfl, rfl⟩, .nil⟩ ?_
  intro ws store w store' _ hi hstep
  have hp := persistent_fencedWrite hstep hi.persistent
  have happ : appliedWrites (ws ++ [w]) = appliedWrites ws ++ w.applied.toList := by
    unfold appliedWrites
    rw [List.filterMap_append]
    cases hw : w.applied <;> simp [hw]
  rcases hstep.cases hi.persistent hi.latest with ⟨hnone, rfl⟩ | ⟨token, value, hsome, _, hl, hlt⟩
  · rw [hnone, Option.toList_none, List.append_nil] at happ
    exact ⟨hp, happ ▸ hi.latest, happ ▸ hi.increasing⟩
  · rw [hsome, Option.toList_some] at happ
    refine ⟨hp, ?_, ?_⟩
    · rw [happ, List.getLast?_concat]
      exact hl
    · rw [happ]
      exact pairwise_concat (R := fun a b : Bytes × Bytes => natOf a.1 < natOf b.1)
        (fun hab hbc => Nat.lt_trans hab hbc) hi.increasing hlt

end Writes

/-- The authority, the protected store and the tokens clients have been given. -/
structure System where
  authority : Authority.Storage
  store : Store
  issued : List JsString

def start : System := ⟨Authority.fresh, Redis.empty, []⟩

/-- One call of the authority, or one write some client sends with a token. -/
inductive Event where
  | authority (e : Authority.Event)
  | write (token : JsString) (now : Int) (rest : List Bytes) (reply : Reply)

/-- The argument list of a write: the token in UTF-8, then anything. -/
def argv (token : JsString) (rest : List Bytes) : List Bytes := JsString.encode token :: rest

inductive Step (watermarkKey stateKey : Bytes) (s : System) : Event → System → Prop where
  | authority {e : Authority.Event} {authority : Authority.Storage} :
      Authority.Step s.authority e authority →
      Step watermarkKey stateKey s (.authority e)
        ⟨authority, s.store, s.issued ++ e.returnedToken.toList⟩
  | write {token : JsString} {now : Int} {rest : List Bytes} {reply : Reply} {store : Store} :
      token ∈ s.issued →
      fencedWrite now [watermarkKey, stateKey] (argv token rest) s.store = (reply, store) →
      Step watermarkKey stateKey s (.write token now rest reply) ⟨s.authority, store, s.issued⟩

def Event.authority? : Event → Option Authority.Event
  | .authority e => some e
  | .write .. => none

def Event.write? : Event → Option Write
  | .authority _ => none
  | .write token now rest reply => some ⟨now, argv token rest, reply⟩

/-- The token and the payload of a write that was answered `advanced`. -/
def Event.applied : Event → Option (JsString × Bytes)
  | .write token _ (_ :: _ :: serializedValue :: _) reply =>
    if reply.isAdvanced then some (token, serializedValue) else none
  | _ => none

def applied (es : List Event) : List (JsString × Bytes) := es.filterMap Event.applied

/-- The fresh grants of the run, oldest first. -/
def grants (es : List Event) : List JsString :=
  Authority.grants (es.filterMap Event.authority?)

def GrantedBefore (es : List Event) (token token' : JsString) : Prop :=
  ∃ earlier between later, grants es = earlier ++ token :: between ++ token' :: later

section Projections

variable {watermarkKey stateKey : Bytes} {es : List Event} {s : System}

theorem authority_of_exec (h : Exec (Step watermarkKey stateKey) start es s) :
    Exec Authority.Step Authority.fresh (es.filterMap Event.authority?) s.authority := by
  induction h with
  | nil => exact .nil
  | snoc _ hstep ih =>
    rw [List.filterMap_append]
    cases hstep with
    | authority hs => exact ih.snoc hs
    | write =>
      rw [List.filterMap_cons_none rfl, List.filterMap_nil, List.append_nil]
      exact ih

theorem writes_of_exec (h : Exec (Step watermarkKey stateKey) start es s) :
    Exec (WriteStep watermarkKey stateKey) Redis.empty (es.filterMap Event.write?) s.store := by
  induction h with
  | nil => exact .nil
  | snoc _ hstep ih =>
    rw [List.filterMap_append]
    cases hstep with
    | authority =>
      rw [List.filterMap_cons_none rfl, List.filterMap_nil, List.append_nil]
      exact ih
    | write _ hrun => exact ih.snoc hrun

theorem issued_of_exec (h : Exec (Step watermarkKey stateKey) start es s) :
    s.issued = (es.filterMap Event.authority?).filterMap Authority.Event.returnedToken := by
  induction h with
  | nil => rfl
  | snoc _ hstep ih =>
    rw [List.filterMap_append, List.filterMap_append, ← ih]
    cases hstep with
    | authority =>
      rename_i e _ _
      cases he : e.returnedToken <;> simp [Event.authority?, he]
    | write => simp [Event.authority?]

/-- Tokens of writes are numerals, so their UTF-8 text is the same numeral. -/
theorem issued_numeral (h : Exec (Step watermarkKey stateKey) start es s) {token : JsString}
    (ht : token ∈ s.issued) : JsString.encode token = numeral (natOf token) := by
  rw [issued_of_exec h] at ht
  obtain ⟨e, he, hr⟩ := List.mem_filterMap.mp ht
  obtain ⟨hn, _⟩ := Authority.returnedToken_le_of_exec (authority_of_exec h) e he token hr
  rw [hn, JsString.encode_numeral, natOf_numeral]

theorem applied_write {token : JsString} {now : Int} {rest : List Bytes} {reply : Reply}
    (hn : JsString.encode token = numeral (natOf token)) :
    Write.applied ⟨now, argv token rest, reply⟩ =
      (Event.applied (.write token now rest reply)).map fun a => (numeral (natOf a.1), a.2) := by
  unfold Write.applied Event.applied argv
  rcases rest with _ | ⟨operationId, _ | ⟨payloadSha256, _ | ⟨serializedValue, optional⟩⟩⟩
  · cases reply.isAdvanced <;> rfl
  · cases reply.isAdvanced <;> rfl
  · cases reply.isAdvanced <;> rfl
  · cases hr : reply.isAdvanced with
    | false => simp [hr]
    | true => simp [hr, hn]

/-- The applied writes of the run are those of the script. -/
theorem applied_of_exec (h : Exec (Step watermarkKey stateKey) start es s) :
    appliedWrites (es.filterMap Event.write?) =
      (applied es).map fun a => (numeral (natOf a.1), a.2) := by
  induction h with
  | nil => rfl
  | snoc hrun hstep ih =>
    unfold applied appliedWrites at ih ⊢
    rw [List.filterMap_append, List.filterMap_append, List.filterMap_append, List.map_append, ih]
    congr 1
    cases hstep with
    | authority => rfl
    | write ht =>
      rename_i token now rest reply _ _
      have happ : Write.applied ⟨now, argv token rest, reply⟩ = _ :=
        applied_write (issued_numeral hrun ht)
      have hw : Event.write? (.write token now rest reply) = some ⟨now, argv token rest, reply⟩ := rfl
      rw [List.filterMap_cons_some hw, List.filterMap_nil]
      cases ha : Event.applied (.write token now rest reply) with
      | none => simp [ha, happ]
      | some a => simp [ha, happ]

end Projections

section Safety

variable {watermarkKey stateKey : Bytes} {es : List Event} {s : System}

theorem applied_increasing (h : Exec (Step watermarkKey stateKey) start es s) :
    (applied es).Pairwise fun a b => natOf a.1 < natOf b.1 := by
  have hi := (writeInvariant_of_exec (writes_of_exec h)).increasing
  rw [applied_of_exec h, List.pairwise_map] at hi
  simpa using hi

theorem Event.eq_write_of_applied {e : Event} {a : JsString × Bytes} (h : e.applied = some a) :
    ∃ now rest reply, e = .write a.1 now rest reply := by
  unfold Event.applied at h
  split at h
  · split at h
    · cases h
      exact ⟨_, _, _, rfl⟩
    · cases h
  · cases h

theorem applied_issued (h : Exec (Step watermarkKey stateKey) start es s) :
    ∀ a ∈ applied es, a.1 ∈ s.issued := by
  induction h with
  | nil => simp [applied]
  | snoc _ hstep ih =>
    intro a ha
    unfold applied at ha ih
    rw [List.filterMap_append, List.mem_append] at ha
    cases hstep with
    | authority =>
      rcases ha with ha | ha
      · exact List.mem_append_left _ (ih a ha)
      · simp [Event.applied] at ha
    | write ht =>
      rename_i token now rest reply _ _
      rcases ha with ha | ha
      · exact ih a ha
      · obtain ⟨e, he, hea⟩ := List.mem_filterMap.mp ha
        rw [List.mem_singleton] at he
        subst he
        obtain ⟨_, _, _, heq⟩ := Event.eq_write_of_applied hea
        cases heq
        exact ht

/-- Every applied write carries a token that was freshly granted. -/
theorem applied_granted (h : Exec (Step watermarkKey stateKey) start es s) :
    ∀ a ∈ applied es, a.1 ∈ grants es := by
  intro a ha
  have hi := applied_issued h a ha
  rw [issued_of_exec h] at hi
  obtain ⟨e, he, hr⟩ := List.mem_filterMap.mp hi
  exact (Authority.returnedToken_mem_grants (authority_of_exec h)).2 e he a.1 hr

/-- In a list ordered by its values, order of values is order of positions. -/
theorem positions_of_lt {l : List JsString} (hl : l.Pairwise fun a b => natOf a < natOf b)
    {t t' : JsString} (ht : t ∈ l) (ht' : t' ∈ l) (hlt : natOf t < natOf t') :
    ∃ earlier between later, l = earlier ++ t :: between ++ t' :: later := by
  obtain ⟨earlier, later, rfl⟩ := List.append_of_mem ht
  rw [List.pairwise_append, List.pairwise_cons] at hl
  rcases List.mem_append.mp ht' with hmem | hmem
  · have hgt := hl.2.2 t' hmem t List.mem_cons_self
    omega
  · rcases List.mem_cons.mp hmem with heq | hmem
    · subst heq
      omega
    · obtain ⟨between, later, rfl⟩ := List.append_of_mem hmem
      exact ⟨earlier, between, later, by simp⟩

theorem value_of_exec (h : Exec (Step watermarkKey stateKey) start es s) :
    s.store stateKey = (applied es).getLast?.map fun a => ⟨.string a.2, none⟩ := by
  have hl := (writeInvariant_of_exec (writes_of_exec h)).latest
  rw [applied_of_exec h, List.getLast?_map] at hl
  cases hlast : (applied es).getLast? with
  | none =>
    rw [hlast] at hl
    exact hl.2
  | some a =>
    rw [hlast] at hl
    exact hl.2

theorem exists_last_greatest {l : List (JsString × Bytes)}
    (hl : l.Pairwise fun a b => natOf a.1 < natOf b.1) {a : JsString × Bytes} (ha : a ∈ l)
    (hmax : ∀ b ∈ l, natOf b.1 ≤ natOf a.1) : l.getLast? = some a := by
  induction l using List.reverseRecOn with
  | nil => simp at ha
  | append_singleton l last _ =>
    rw [List.getLast?_concat]
    rcases List.mem_append.mp ha with hmem | hmem
    · have hlt := (List.pairwise_append.mp hl).2.2 a hmem last (by simp)
      have hle := hmax last (by simp)
      omega
    · rw [List.mem_singleton] at hmem
      rw [hmem]

end Safety

/-- Fencing over the whole system, for every interleaving from the empty authority
and the empty store: an applied token excludes every smaller one afterwards, no
token is applied twice, writes are applied in the order of the fresh grants, and
the protected value is the payload of the applied write with the greatest token. -/
theorem end_to_end_fencing (watermarkKey stateKey : Bytes) (es : List Event) (s : System)
    (h : Exec (Step watermarkKey stateKey) start es s) :
    (∀ pre e post token value, es = pre ++ e :: post → e.applied = some (token, value) →
      ∀ e' ∈ post, ∀ token' value', e'.applied = some (token', value') →
        ¬ natOf token' < natOf token) ∧
    ((applied es).map Prod.fst).Nodup ∧
    (grants es).Nodup ∧
    ((applied es).Pairwise fun a b => GrantedBefore es a.1 b.1) ∧
    (applied es = [] → ∀ now, Redis.get now s.store stateKey = .ok none) ∧
    (∀ token value, (token, value) ∈ applied es →
      (∀ a ∈ applied es, natOf a.1 ≤ natOf token) →
        ∀ now, Redis.get now s.store stateKey = .ok (some value)) := by
  have hinc := applied_increasing h
  have hgrants := Authority.grants_increasing (authority_of_exec h)
  have hvalue := value_of_exec h
  have hpersistent := (writeInvariant_of_exec (writes_of_exec h)).persistent
  refine ⟨?_, ?_, ?_, ?_, ?_, ?_⟩
  · intro pre e post token value hes he e' he' token' value' ha'
    subst hes
    unfold applied at hinc
    rw [List.filterMap_append, List.filterMap_cons_some he, List.pairwise_append,
      List.pairwise_cons] at hinc
    have hlt := hinc.2.1.1 (token', value') (List.mem_filterMap.mpr ⟨e', he', ha'⟩)
    exact Nat.lt_asymm hlt
  · unfold List.Nodup
    rw [List.pairwise_map]
    apply hinc.imp
    intro a b hab heq
    rw [heq] at hab
    exact Nat.lt_irrefl _ hab
  · apply hgrants.imp
    intro a b hab heq
    rw [heq] at hab
    exact Nat.lt_irrefl _ hab
  · apply hinc.imp_of_mem
    intro a b ha hb hab
    exact positions_of_lt hgrants (applied_granted h a ha) (applied_granted h b hb) hab
  · intro hnil now
    rw [hnil] at hvalue
    unfold Redis.get
    rw [hpersistent.lookup, hvalue]
    rfl
  · intro token value hmem hmax now
    rw [exists_last_greatest hinc hmem hmax] at hvalue
    unfold Redis.get
    rw [hpersistent.lookup, hvalue]
    rfl

def sampleWatermarkKey : Bytes := Shared.Utf8.utf8 "\x7bjobs\x7d:fence"

def sampleStateKey : Bytes := Shared.Utf8.utf8 "\x7bjobs\x7d:state"

/-- The arguments after the token: operation, payload hash and payload. -/
def sampleArguments : List Bytes :=
  [Shared.Utf8.utf8 "op-1", List.replicate 64 0x30, Shared.Utf8.utf8 "payload"]

def laterArguments : List Bytes :=
  [Shared.Utf8.utf8 "op-2", List.replicate 64 0x31, Shared.Utf8.utf8 "second payload"]

/-- A grant to the holder `a` and a write with its token, a grant to `b` after that lease and
a write with the second token, and a late write of `a`. -/
def sampleRun : List Event :=
  [.authority (.acquire Authority.sampleBody 5 (.granted (numeral 1) 1005 1000)),
    .write (numeral 1) 9 sampleArguments (.decision .advanced true (numeral 1) []),
    .authority (.acquire Authority.otherBody 2000 (.granted (numeral 2) 3000 1000)),
    .write (numeral 2) 2001 laterArguments (.decision .advanced true (numeral 2) (numeral 1)),
    .write (numeral 1) 2002 sampleArguments (.decision .stale false (numeral 2) (numeral 2))]

theorem late_write_changes_nothing :
    ∃ s, Exec (Step sampleWatermarkKey sampleStateKey) start sampleRun s ∧
      (applied sampleRun).length = 2 ∧
      ∀ now, Redis.get now s.store sampleStateKey =
        .ok (some (Shared.Utf8.utf8 "second payload")) := by
  have hfirst : (Authority.acquire Authority.sampleBody 5 Authority.fresh).1 =
      .granted (numeral 1) 1005 1000 := by decide
  have hsecond : (Authority.acquire Authority.otherBody 2000
      (Authority.acquire Authority.sampleBody 5 Authority.fresh).2).1 =
      .granted (numeral 2) 3000 1000 := by decide
  have hacquire := Authority.Step.acquire (s := Authority.fresh) Authority.sampleBody 5
  have hreacquire := Authority.Step.acquire
    (s := (Authority.acquire Authority.sampleBody 5 Authority.fresh).2) Authority.otherBody 2000
  rw [hfirst] at hacquire
  rw [hsecond] at hreacquire
  have hwrite : (fencedWrite 9 [sampleWatermarkKey, sampleStateKey]
      (argv (numeral 1) sampleArguments) Redis.empty).1 =
      .decision .advanced true (numeral 1) [] := by decide
  have hrewrite : (fencedWrite 2001 [sampleWatermarkKey, sampleStateKey]
      (argv (numeral 2) laterArguments) (fencedWrite 9 [sampleWatermarkKey, sampleStateKey]
        (argv (numeral 1) sampleArguments) Redis.empty).2).1 =
      .decision .advanced true (numeral 2) (numeral 1) := by decide +kernel
  have hlate : (fencedWrite 2002 [sampleWatermarkKey, sampleStateKey]
      (argv (numeral 1) sampleArguments) (fencedWrite 2001 [sampleWatermarkKey, sampleStateKey]
        (argv (numeral 2) laterArguments) (fencedWrite 9 [sampleWatermarkKey, sampleStateKey]
          (argv (numeral 1) sampleArguments) Redis.empty).2).2).1 =
      .decision .stale false (numeral 2) (numeral 2) := by decide +kernel
  have hrun : Exec (Step sampleWatermarkKey sampleStateKey) start sampleRun _ :=
    ((((Exec.single (.authority hacquire)).snoc (.write (by decide) (Prod.ext hwrite rfl))).snoc
      (.authority hreacquire)).snoc (.write (by decide) (Prod.ext hrewrite rfl))).snoc
      (.write (by decide) (Prod.ext hlate rfl))
  refine ⟨_, hrun, by decide, ?_⟩
  exact (end_to_end_fencing _ _ _ _ hrun).2.2.2.2.2 (numeral 2) _ (by decide) (by decide)

end OresLocks.EndToEnd
