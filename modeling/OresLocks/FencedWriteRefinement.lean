import OresLocks.FencedWriteTokens
import OresLocks.Shared.Runs

/-!
# The script refines `evaluate_fence`

A hash of the five fields stands for a `FenceWatermark`; an absent holder or
lease identity is stored as the empty text. Over every sequence of calls that
send valid requests, each reply is the decision of `evaluate_fence` for the
watermark left by the calls before it.
-/

namespace OresLocks.FencedWrite

set_option autoImplicit false

open Shared.Numeral Shared.Utf8 Shared.Runs Redis Fence

section Validation

variable {field : Field} {value : String} {max : Nat}

theorem validateSha256_iff : validateSha256 value = .ok () ↔ validSha256 (utf8 value) = true := by
  unfold validateSha256 validSha256
  constructor
  · intro h
    split at h
    · simp at h
    rename_i hok
    push Not at hok
    simp [hok.1, hok.2]
  · intro h
    simp only [Bool.and_eq_true, beq_iff_eq] at h
    rw [if_neg (by simp [h.1, h.2])]

/-- The stored form of an optional text. -/
def optionalText (value : Option String) : Bytes := (value.map utf8).getD []

theorem validOptional_of_validate {value : Option String}
    (h : validateOptional field value max = .ok ()) :
    validOptional (optionalText value) max = true := by
  cases value with
  | none => rfl
  | some value =>
    have hlen := validateNonEmpty_iff.mp h
    simp [validOptional, optionalText, hlen.1, hlen.2]

end Validation

def ofFence (w : FenceWatermark) : Watermark :=
  ⟨utf8 w.fencingToken.text, utf8 w.operationId, utf8 w.payloadSha256, optionalText w.holder,
    optionalText w.leaseId⟩

theorem canonicalToken_text (token : FencingTokenText) :
    canonicalToken (utf8 token.text) = true := by
  rw [token_text, canonicalToken_numeral_iff]
  exact token.inRange

theorem validate_parts {r : FencedWriteRequest} (h : r.validate = .ok ()) :
    (1 ≤ (utf8 r.operationId).length ∧ (utf8 r.operationId).length ≤ 128) ∧
      validSha256 (utf8 r.payloadSha256) = true ∧
      validOptional (optionalText r.holder) 256 = true ∧
      validOptional (optionalText r.leaseId) 256 = true := by
  obtain ⟨_, _, hop, hsha, hholder, hlease⟩ := checks_of_validate h
  exact ⟨validateNonEmpty_iff.mp hop, validateSha256_iff.mp hsha,
    validOptional_of_validate hholder, validOptional_of_validate hlease⟩

theorem ofFence_valid {w : FenceWatermark} (h : w.validate = .ok ()) : (ofFence w).Valid := by
  obtain ⟨hop, hsha, hholder, hlease⟩ := validate_parts h
  exact ⟨canonicalToken_text w.fencingToken, hop, hsha, hholder, hlease⟩

/-- One call of the script with its reply. The optional arguments may be left
out at the end of the argument list. -/
structure Call where
  now : Int
  watermarkKey : Bytes
  stateKey : Bytes
  request : FencedWriteRequest
  serializedValue : Bytes
  optional : List Bytes
  reply : Reply

namespace Call

def argv (c : Call) : List Bytes :=
  utf8 c.request.fencingToken.text :: utf8 c.request.operationId ::
    utf8 c.request.payloadSha256 :: c.serializedValue :: c.optional

/-- The script's request for this call. -/
def scriptRequest (c : Call) : Request :=
  ⟨c.watermarkKey, c.stateKey, utf8 c.request.fencingToken.text, utf8 c.request.operationId,
    utf8 c.request.payloadSha256, c.serializedValue, optionalText c.request.holder,
    optionalText c.request.leaseId⟩

/-- The arguments form a valid request and the keys are as the script documents. -/
structure Valid (c : Call) : Prop where
  distinct : c.watermarkKey ≠ c.stateKey
  tagged : hashTag c.watermarkKey ≠ none
  sameTag : hashTag c.watermarkKey = hashTag c.stateKey
  request : c.request.validate = .ok ()
  optionalCount : c.optional.length ≤ 2
  holder : c.optional.getD 0 [] = optionalText c.request.holder
  leaseId : c.optional.getD 1 [] = optionalText c.request.leaseId

/-- Two calls address one protected resource by one pair of keys, or two resources
by disjoint pairs. -/
def Compatible (c d : Call) : Prop :=
  (c.request.tenantScope = d.request.tenantScope ∧ c.request.resourceKey = d.request.resourceKey ∧
    c.watermarkKey = d.watermarkKey ∧ c.stateKey = d.stateKey) ∨
  (¬ (c.request.tenantScope = d.request.tenantScope ∧
      c.request.resourceKey = d.request.resourceKey) ∧
    c.watermarkKey ≠ d.watermarkKey ∧ c.watermarkKey ≠ d.stateKey ∧
    c.stateKey ≠ d.watermarkKey ∧ c.stateKey ≠ d.stateKey)

end Call

/-- One execution of the script on the store, for a valid call. -/
def CallStep (store : Store) (c : Call) (store' : Store) : Prop :=
  c.Valid ∧ fencedWrite c.now [c.watermarkKey, c.stateKey] c.argv store = (c.reply, store')

theorem arguments_of_valid {c : Call} (h : c.Valid) :
    arguments [c.watermarkKey, c.stateKey] c.argv = .ok c.scriptRequest := by
  obtain ⟨hop, hsha, hholder, hlease⟩ := validate_parts h.request
  apply arguments_iff.mpr
  refine ⟨?_, c.optional, rfl, rfl, h.optionalCount, h.holder.symm, h.leaseId.symm⟩
  exact ⟨h.distinct, h.tagged, h.sameTag, canonicalToken_text _, hop, hsha, hholder, hlease⟩

/-- The pair of keys stands for this watermark. -/
def Represents (store : Store) (watermarkKey stateKey : Bytes) : Option FenceWatermark → Prop
  | none => store watermarkKey = none ∧ store stateKey = none
  | some w => store watermarkKey = some ⟨.hash (ofFence w).hash, none⟩ ∧
      (∃ value, store stateKey = some ⟨.string value, none⟩) ∧ w.validate = .ok ()

def Reply.ofDecision (decision : FenceDecision) : Reply :=
  .decision decision.kind decision.shouldApply (utf8 decision.currentToken.text)
    ((decision.previousToken.map fun token => utf8 token.text).getD [])

theorem lookup_of_some {now : Int} {store : Store} {key : Bytes} {value : Value}
    (h : store key = some ⟨value, none⟩) : lookup now store key = some ⟨value, none⟩ := by
  simp [lookup, h]

theorem lookup_of_none {now : Int} {store : Store} {key : Bytes} (h : store key = none) :
    lookup now store key = none := by
  simp [lookup, h]

theorem found_of_represents {store : Store} {c : Call} {w : FenceWatermark}
    (h : Represents store c.watermarkKey c.stateKey (some w)) :
    Found c.now store c.scriptRequest (ofFence w) none := by
  obtain ⟨hw, ⟨value, hs⟩, hv⟩ := h
  exact ⟨lookup_of_some hw, ⟨value, none, lookup_of_some hs⟩, ofFence_valid hv⟩

theorem represents_apply {store : Store} {c : Call} (h : c.Valid) :
    Represents (c.scriptRequest.apply none store) c.watermarkKey c.stateKey
      (some (.fromRequest c.request)) :=
  ⟨apply_watermarkKey c.scriptRequest none store h.distinct,
    ⟨c.serializedValue, apply_stateKey c.scriptRequest none store⟩, h.request⟩

/-- The identity a watermark is kept for. -/
def KeptFor (current : Option FenceWatermark) (r : FencedWriteRequest) : Prop :=
  ∀ w, current = some w → w.tenantScope = r.tenantScope ∧ w.resourceKey = r.resourceKey

/-- One valid call decides as `evaluate_fence` does and leaves the advanced watermark. -/
theorem CallStep.refines {store store' : Store} {c : Call} {current : Option FenceWatermark}
    (h : CallStep store c store') (hr : Represents store c.watermarkKey c.stateKey current)
    (hid : KeptFor current c.request) :
    (∃ d, evaluateFence current c.request = .ok d ∧ c.reply = .ofDecision d) ∧
      Represents store' c.watermarkKey c.stateKey (advance current c.request) := by
  obtain ⟨hvalid, hrun⟩ := h
  unfold fencedWrite at hrun
  rw [arguments_of_valid hvalid] at hrun
  dsimp only at hrun
  cases current with
  | none =>
    have hd := evaluateFence_first hvalid.request
    rw [execute_first (lookup_of_none hr.1) (lookup_of_none hr.2), Prod.mk.injEq] at hrun
    obtain ⟨hreply, rfl⟩ := hrun
    refine ⟨⟨_, hd, hreply.symm⟩, ?_⟩
    rw [advance, hd]
    exact represents_apply hvalid
  | some w =>
    obtain ⟨htenant, hresource⟩ := hid w rfl
    have hd := evaluateFence_found hvalid.request hr.2.2 htenant hresource
    have hcmp : compareDecimal c.scriptRequest.incoming (ofFence w).fencingToken =
        compare c.request.fencingToken.value w.fencingToken.value := by
      unfold Call.scriptRequest ofFence
      rw [token_text, token_text, compareDecimal_numeral]
    have hsame : ((ofFence w).operationId = c.scriptRequest.operationId ∧
        (ofFence w).payloadSha256 = c.scriptRequest.payloadSha256) ↔
        (w.operationId = c.request.operationId ∧ w.payloadSha256 = c.request.payloadSha256) := by
      unfold Call.scriptRequest ofFence
      rw [utf8_inj, utf8_inj]
    rw [execute_found (found_of_represents hr), hcmp] at hrun
    rw [advance, hd]
    cases hc : compare c.request.fencingToken.value w.fencingToken.value with
    | gt =>
      rw [hc, Prod.mk.injEq] at hrun
      obtain ⟨hreply, rfl⟩ := hrun
      exact ⟨⟨_, rfl, hreply.symm⟩, represents_apply hvalid⟩
    | lt =>
      rw [hc, Prod.mk.injEq] at hrun
      obtain ⟨hreply, rfl⟩ := hrun
      exact ⟨⟨_, rfl, hreply.symm⟩, hr⟩
    | eq =>
      rw [hc] at hrun
      dsimp only at hrun ⊢
      by_cases hop : w.operationId = c.request.operationId ∧
          w.payloadSha256 = c.request.payloadSha256
      · rw [if_pos (hsame.mpr hop), Prod.mk.injEq] at hrun
        obtain ⟨hreply, rfl⟩ := hrun
        rw [if_pos hop]
        exact ⟨⟨_, rfl, hreply.symm⟩, hr⟩
      · rw [if_neg (fun h => hop (hsame.mp h)), Prod.mk.injEq] at hrun
        obtain ⟨hreply, rfl⟩ := hrun
        rw [if_neg hop]
        exact ⟨⟨_, rfl, hreply.symm⟩, hr⟩

theorem CallStep.frame {store store' : Store} {c : Call} {key : Bytes}
    (h : CallStep store c store') (hw : key ≠ c.watermarkKey) (hs : key ≠ c.stateKey) :
    store' key = store key := by
  have hrun := h.2
  rcases fencedWrite_cases c.now [c.watermarkKey, c.stateKey] c.argv store with
    ⟨reply, _, hq⟩ | ⟨r, expiresAt, previous, ha⟩
  · rw [hq, Prod.mk.injEq] at hrun
    rw [← hrun.2]
  · rw [ha.result, Prod.mk.injEq] at hrun
    obtain ⟨optional, hread⟩ := ha.readFrom
    have hkeys := hread.keys
    simp only [List.cons.injEq, and_true] at hkeys
    rw [← hrun.2]
    exact apply_of_ne _ _ _ (hkeys.1 ▸ hw) (hkeys.2 ▸ hs)

theorem CallStep.storedToken_mono {store store' : Store} {c : Call} (h : CallStep store c store')
    (hp : Persistent store) {key : Bytes} {m : Nat} (hm : storedToken store key = some m) :
    ∃ n, storedToken store' key = some n ∧ m ≤ n :=
  storedToken_fencedWrite h.2 hp hm

/-- The watermark the calls so far have left for one protected resource. -/
def watermarkAfter (calls : List Call) (tenantScope : String) (resourceKey : LockKey) :
    Option FenceWatermark :=
  calls.foldl (fun current c =>
    if c.request.tenantScope = tenantScope ∧ c.request.resourceKey = resourceKey then
      advance current c.request
    else current) none

theorem watermarkAfter_concat (calls : List Call) (c : Call) (tenantScope : String)
    (resourceKey : LockKey) :
    watermarkAfter (calls ++ [c]) tenantScope resourceKey =
      if c.request.tenantScope = tenantScope ∧ c.request.resourceKey = resourceKey then
        advance (watermarkAfter calls tenantScope resourceKey) c.request
      else watermarkAfter calls tenantScope resourceKey := by
  simp [watermarkAfter]

theorem advance_keptFor {current : Option FenceWatermark} {r : FencedWriteRequest}
    (h : KeptFor current r) : KeptFor (advance current r) r := by
  unfold advance
  split
  · split
    · intro w hw
      cases hw
      exact ⟨rfl, rfl⟩
    · exact h
  · exact h

theorem watermarkAfter_keptFor (calls : List Call) (r : FencedWriteRequest) :
    KeptFor (watermarkAfter calls r.tenantScope r.resourceKey) r := by
  induction calls using List.reverseRecOn with
  | nil =>
    intro w hw
    simp [watermarkAfter] at hw
  | append_singleton calls c ih =>
    rw [watermarkAfter_concat]
    split
    · rename_i hid
      have hkept : KeptFor (watermarkAfter calls r.tenantScope r.resourceKey) c.request := by
        intro w hw
        rw [hid.1, hid.2]
        exact ih w hw
      intro w hw
      rw [← hid.1, ← hid.2]
      exact advance_keptFor hkept w hw
    · exact ih

/-- The keys of a resource stand for the watermark its calls have left. -/
theorem represents_of_exec {calls : List Call} {store : Store}
    (h : Exec CallStep Redis.empty calls store) (c : Call)
    (hc : ∀ e ∈ calls, Call.Compatible e c) :
    Represents store c.watermarkKey c.stateKey
      (watermarkAfter calls c.request.tenantScope c.request.resourceKey) := by
  induction h with
  | nil => exact ⟨rfl, rfl⟩
  | snoc hrun hstep ih =>
    rename_i calls store e store'
    have hold := ih (fun d hd => hc d (List.mem_append_left _ hd))
    rw [watermarkAfter_concat]
    rcases hc e (List.mem_append_right _ List.mem_cons_self) with
      ⟨ht, hr, hw, hs⟩ | ⟨hne, h1, h2, h3, h4⟩
    · rw [if_pos ⟨ht, hr⟩]
      rw [← ht, ← hr, ← hw, ← hs] at hold ⊢
      exact (hstep.refines hold (watermarkAfter_keptFor calls e.request)).2
    · rw [if_neg hne]
      have hwk := hstep.frame (Ne.symm h1) (Ne.symm h3)
      have hsk := hstep.frame (Ne.symm h2) (Ne.symm h4)
      unfold Represents at hold ⊢
      rw [hwk, hsk]
      exact hold

theorem persistent_of_exec {calls : List Call} {store : Store}
    (h : Exec CallStep Redis.empty calls store) : Persistent store := by
  apply h.stateInvariant persistent_empty
  intro t c u hp hstep
  exact persistent_fencedWrite hstep.2 hp

/-- The two keys hold exactly what the argument list carries; nothing else changed. -/
def Written (keys argv : List Bytes) (store store' : Store) : Prop :=
  ∃ watermarkKey stateKey incoming operationId payloadSha256 serializedValue optional expiresAt,
    keys = [watermarkKey, stateKey] ∧
    argv = incoming :: operationId :: payloadSha256 :: serializedValue :: optional ∧
    store' watermarkKey = some ⟨.hash (Watermark.hash
      ⟨incoming, operationId, payloadSha256, optional.getD 0 [], optional.getD 1 []⟩), expiresAt⟩ ∧
    store' stateKey = some ⟨.string serializedValue, none⟩ ∧
    ∀ key, key ≠ watermarkKey → key ≠ stateKey → store' key = store key

theorem Advanced.written {now : Int} {keys argv : List Bytes} {store : Store} {r : Request}
    {expiresAt : Option Int} {previous : Bytes}
    (h : Advanced now keys argv store r expiresAt previous) :
    Written keys argv store (r.apply expiresAt store) := by
  obtain ⟨optional, hread⟩ := h.readFrom
  refine ⟨r.watermarkKey, r.stateKey, r.incoming, r.operationId, r.payloadSha256,
    r.serializedValue, optional, expiresAt, hread.keys, hread.argv, ?_, apply_stateKey r _ store, ?_⟩
  · rw [apply_watermarkKey r _ store h.accepted.distinct, ← hread.holder, ← hread.leaseId]
    rfl
  · intro key hw hs
    exact apply_of_ne r _ store hw hs

theorem fencedWrite_atomic {now : Int} {keys argv : List Bytes} {store store' : Store}
    {reply : Reply} (h : fencedWrite now keys argv store = (reply, store')) :
    (reply.isAdvanced = false → store' = store) ∧
      (reply.isAdvanced = true → Written keys argv store store') := by
  rcases fencedWrite_cases now keys argv store with ⟨_, hnot, hq⟩ | ⟨r, expiresAt, previous, hw⟩
  · rw [hq, Prod.mk.injEq] at h
    obtain ⟨rfl, rfl⟩ := h
    exact ⟨fun _ => rfl, fun hadv => by simp [hnot] at hadv⟩
  · have hresult := hw.result
    rw [h, Prod.mk.injEq] at hresult
    obtain ⟨rfl, rfl⟩ := hresult
    exact ⟨fun hadv => by simp [Reply.isAdvanced] at hadv, fun _ => hw.written⟩

/-- The script is atomic on every store, and over every sequence of valid calls it
answers what `evaluate_fence` decides for the watermark left so far. -/
theorem fencedWrite_refines_evaluateFence :
    (∀ (now : Int) (keys argv : List Bytes) (store store' : Store) (reply : Reply),
      fencedWrite now keys argv store = (reply, store') →
        (reply.isAdvanced = false → store' = store) ∧
        (reply.isAdvanced = true → Written keys argv store store')) ∧
    (∀ (calls : List Call) (store : Store), Exec CallStep Redis.empty calls store →
      (∀ c ∈ calls, ∀ d ∈ calls, Call.Compatible c d) →
        (∀ pre c post, calls = pre ++ c :: post →
          ∃ before decision, Exec CallStep Redis.empty pre before ∧
            Represents before c.watermarkKey c.stateKey
              (watermarkAfter pre c.request.tenantScope c.request.resourceKey) ∧
            evaluateFence (watermarkAfter pre c.request.tenantScope c.request.resourceKey)
              c.request = .ok decision ∧
            c.reply = .ofDecision decision) ∧
        (∀ pre post before, calls = pre ++ post → Exec CallStep Redis.empty pre before →
          Exec CallStep before post store → ∀ key m, storedToken before key = some m →
            ∃ n, storedToken store key = some n ∧ m ≤ n)) := by
  constructor
  · intro now keys argv store store' reply h
    exact fencedWrite_atomic h
  · intro calls store hrun hcompatible
    constructor
    · intro pre c post hcalls
      subst hcalls
      obtain ⟨before, after, hpre, hstep, _⟩ := hrun.split_at
      have hc : ∀ e ∈ pre, Call.Compatible e c := fun e he =>
        hcompatible e (List.mem_append_left _ he) c (by simp)
      have hrep := represents_of_exec hpre c hc
      obtain ⟨⟨d, hd, hreply⟩, _⟩ := hstep.refines hrep (watermarkAfter_keptFor pre c.request)
      exact ⟨before, d, hpre, hrep, hd, hreply⟩
    · intro pre post before _ hpre hpost key m hm
      have hinv : Persistent store ∧ ∃ n, storedToken store key = some n ∧ m ≤ n := by
        apply hpost.stateInvariant
          (I := fun s => Persistent s ∧ ∃ n, storedToken s key = some n ∧ m ≤ n)
        · exact ⟨persistent_of_exec hpre, m, hm, Nat.le_refl m⟩
        · intro t c u ht hstep
          obtain ⟨hp, n, hn, hle⟩ := ht
          obtain ⟨n', hn', hle'⟩ := hstep.storedToken_mono hp hn
          exact ⟨persistent_fencedWrite hstep.2 hp, n', hn', Nat.le_trans hle hle'⟩
      exact hinv.2

def sampleRequest : FencedWriteRequest where
  tenantScope := "acme"
  resourceKey := ⟨"jobs/rebuild", jobsRebuild_admitted⟩
  fencingToken := .fromU64 7 (by decide)
  operationId := "op-1"
  payloadSha256 := "0123456789abcdef0123456789abcdef0123456789abcdef0123456789abcdef"
  holder := some "worker"
  leaseId := none

/-- The first call of a run, with its two keys under one hash tag. -/
def sampleCall : Call where
  now := 0
  watermarkKey := utf8 "ores-locks:\x7bjobs\x7d:fence"
  stateKey := utf8 "ores-locks:\x7bjobs\x7d:state"
  request := sampleRequest
  serializedValue := utf8 "payload"
  optional := [utf8 "worker"]
  reply := .decision .advanced true (utf8 "7") []

theorem sampleCall_valid : sampleCall.Valid where
  distinct := by decide
  tagged := by decide
  sameTag := by decide
  request := by decide
  optionalCount := by decide
  holder := by decide
  leaseId := by decide

/-- The same call again. -/
def replayCall : Call := { sampleCall with
  now := 1
  reply := .decision .replay false (utf8 "7") (utf8 "7") }

/-- Another operation with an older token. -/
def staleCall : Call := { sampleCall with
  now := 2
  request := { sampleRequest with fencingToken := .fromU64 6 (by decide), operationId := "op-0" }
  reply := .decision .stale false (utf8 "7") (utf8 "7") }

/-- The script after a call. -/
def Call.execute (c : Call) (store : Store) : Reply × Store :=
  fencedWrite c.now [c.watermarkKey, c.stateKey] c.argv store

def sampleCalls : List Call := [sampleCall, replayCall, staleCall]

theorem sampleCalls_run : ∃ store, Exec CallStep Redis.empty sampleCalls store := by
  have hfirst : (sampleCall.execute Redis.empty).1 = sampleCall.reply := by decide +kernel
  have hreplay : (replayCall.execute (sampleCall.execute Redis.empty).2).1 = replayCall.reply := by
    decide +kernel
  have hstale : (staleCall.execute (replayCall.execute (sampleCall.execute Redis.empty).2).2).1 =
      staleCall.reply := by decide +kernel
  have hreplayValid : replayCall.Valid :=
    ⟨by decide, by decide, by decide, by decide, by decide, by decide, by decide⟩
  have hstaleValid : staleCall.Valid :=
    ⟨by decide, by decide, by decide, by decide, by decide, by decide, by decide⟩
  exact ⟨_, ((Exec.single ⟨sampleCall_valid, Prod.ext hfirst rfl⟩).snoc
    ⟨hreplayValid, Prod.ext hreplay rfl⟩).snoc ⟨hstaleValid, Prod.ext hstale rfl⟩⟩

/-- The last two decisions are made against the watermark that the first call left. -/
theorem replay_and_stale_refine :
    (∃ decision, evaluateFence (watermarkAfter [sampleCall] "acme" sampleRequest.resourceKey)
        replayCall.request = .ok decision ∧ replayCall.reply = .ofDecision decision) ∧
    ∃ decision, evaluateFence
        (watermarkAfter [sampleCall, replayCall] "acme" sampleRequest.resourceKey)
        staleCall.request = .ok decision ∧ staleCall.reply = .ofDecision decision := by
  obtain ⟨store, hrun⟩ := sampleCalls_run
  have hcompatible : ∀ c ∈ sampleCalls, ∀ d ∈ sampleCalls, Call.Compatible c d := by
    have hsame : ∀ c ∈ sampleCalls, c.watermarkKey = sampleCall.watermarkKey ∧
        c.stateKey = sampleCall.stateKey ∧ c.request.tenantScope = "acme" ∧
        c.request.resourceKey = sampleRequest.resourceKey := by
      intro c hc
      simp only [sampleCalls, List.mem_cons, List.not_mem_nil, or_false] at hc
      rcases hc with rfl | rfl | rfl <;> exact ⟨rfl, rfl, rfl, rfl⟩
    intro c hc d hd
    obtain ⟨hcw, hcs, hct, hcr⟩ := hsame c hc
    obtain ⟨hdw, hds, hdt, hdr⟩ := hsame d hd
    exact Or.inl ⟨hct.trans hdt.symm, hcr.trans hdr.symm, hcw.trans hdw.symm, hcs.trans hds.symm⟩
  obtain ⟨hdecide, _⟩ := fencedWrite_refines_evaluateFence.2 _ _ hrun hcompatible
  obtain ⟨_, d, _, _, hd, hreply⟩ := hdecide [sampleCall] replayCall [staleCall] rfl
  obtain ⟨_, d', _, _, hd', hreply'⟩ := hdecide [sampleCall, replayCall] staleCall [] rfl
  exact ⟨⟨d, hd, hreply⟩, d', hd', hreply'⟩

end OresLocks.FencedWrite
