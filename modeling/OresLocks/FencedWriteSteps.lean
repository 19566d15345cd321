import OresLocks.FencedWrite

/-!
# What one fenced-write execution can do

A stored watermark is a hash of exactly the five fields. An execution fails, or
finds no watermark and no value, or finds a valid watermark with a value and
decides by the decimal comparison. Only the deciding branches for a missing or an
older watermark write, and they write both keys.
-/

namespace OresLocks.FencedWrite

set_option autoImplicit false

open Shared.Numeral Shared.Utf8 Redis Fence

structure Watermark where
  fencingToken : Bytes
  operationId : Bytes
  payloadSha256 : Bytes
  holder : Bytes
  leaseId : Bytes
  deriving DecidableEq

def Watermark.pairs (w : Watermark) : List (Bytes × Bytes) :=
  [(fencingTokenField, w.fencingToken), (operationIdField, w.operationId),
    (payloadSha256Field, w.payloadSha256), (holderField, w.holder), (leaseIdField, w.leaseId)]

/-- The hash with exactly the five fields of a watermark. -/
def Watermark.hash (w : Watermark) : Hash := insertAll ∅ w.pairs

def Request.watermark (r : Request) : Watermark :=
  ⟨r.incoming, r.operationId, r.payloadSha256, r.holder, r.leaseId⟩

def fieldNames : Finset Bytes :=
  {fencingTokenField, operationIdField, payloadSha256Field, holderField, leaseIdField}

theorem fieldNames_card : fieldNames.card = 5 := by decide

theorem lookup_insert_eq (fields : Hash) (a b x : Bytes) :
    (fields.insert a b).lookup x = if x = a then some b else fields.lookup x := by
  by_cases h : x = a
  · subst x
    rw [if_pos rfl, Finmap.lookup_insert]
  · rw [if_neg h, Finmap.lookup_insert_of_ne _ h]

theorem lookup_insertAll_pairs (fields : Hash) (w : Watermark) (x : Bytes) :
    (insertAll fields w.pairs).lookup x =
      if x = leaseIdField then some w.leaseId
      else if x = holderField then some w.holder
      else if x = payloadSha256Field then some w.payloadSha256
      else if x = operationIdField then some w.operationId
      else if x = fencingTokenField then some w.fencingToken
      else fields.lookup x := by
  simp only [insertAll, Watermark.pairs, List.foldl_cons, List.foldl_nil, lookup_insert_eq]

section Lookups

variable (fields : Hash) (w : Watermark)

@[simp] theorem lookup_fencingToken :
    (insertAll fields w.pairs).lookup fencingTokenField = some w.fencingToken := by
  rw [lookup_insertAll_pairs, if_neg (by decide), if_neg (by decide), if_neg (by decide),
    if_neg (by decide), if_pos rfl]

@[simp] theorem lookup_operationId :
    (insertAll fields w.pairs).lookup operationIdField = some w.operationId := by
  rw [lookup_insertAll_pairs, if_neg (by decide), if_neg (by decide), if_neg (by decide), if_pos rfl]

@[simp] theorem lookup_payloadSha256 :
    (insertAll fields w.pairs).lookup payloadSha256Field = some w.payloadSha256 := by
  rw [lookup_insertAll_pairs, if_neg (by decide), if_neg (by decide), if_pos rfl]

@[simp] theorem lookup_holder :
    (insertAll fields w.pairs).lookup holderField = some w.holder := by
  rw [lookup_insertAll_pairs, if_neg (by decide), if_pos rfl]

@[simp] theorem lookup_leaseId :
    (insertAll fields w.pairs).lookup leaseIdField = some w.leaseId := by
  rw [lookup_insertAll_pairs, if_pos rfl]

end Lookups

theorem mem_fieldNames {x : Bytes} : x ∈ fieldNames ↔ x = fencingTokenField ∨
    x = operationIdField ∨ x = payloadSha256Field ∨ x = holderField ∨ x = leaseIdField := by
  simp [fieldNames]

theorem lookup_other {x : Bytes} (fields : Hash) (w : Watermark) (h : x ∉ fieldNames) :
    (insertAll fields w.pairs).lookup x = fields.lookup x := by
  rw [mem_fieldNames] at h
  push Not at h
  obtain ⟨h1, h2, h3, h4, h5⟩ := h
  rw [lookup_insertAll_pairs, if_neg h5, if_neg h4, if_neg h3, if_neg h2, if_neg h1]

theorem lookup_known {x : Bytes} (fields fields' : Hash) (w : Watermark) (h : x ∈ fieldNames) :
    (insertAll fields w.pairs).lookup x = (insertAll fields' w.pairs).lookup x := by
  rcases mem_fieldNames.mp h with rfl | rfl | rfl | rfl | rfl <;> simp

theorem keys_hash (w : Watermark) : w.hash.keys = fieldNames := by
  ext x
  rw [Finmap.mem_keys, Finmap.mem_iff]
  constructor
  · rintro ⟨b, hb⟩
    by_contra hx
    rw [Watermark.hash, lookup_other ∅ w hx, Finmap.lookup_empty] at hb
    cases hb
  · intro hx
    unfold Watermark.hash
    rcases mem_fieldNames.mp hx with rfl | rfl | rfl | rfl | rfl <;> simp

/-- Five fields that include the five known names are exactly those. -/
theorem lookup_eq_none_of_card {fields : Hash} (hcard : fields.keys.card = 5)
    (hsub : ∀ x ∈ fieldNames, x ∈ fields.keys) {x : Bytes} (hx : x ∉ fieldNames) :
    fields.lookup x = none := by
  have heq : fieldNames = fields.keys :=
    Finset.eq_of_subset_of_card_le hsub (by rw [hcard, fieldNames_card])
  rw [Finmap.lookup_eq_none, ← Finmap.mem_keys, ← heq]
  exact hx

/-- Writing the five fields over a hash of exactly these fields leaves nothing else. -/
theorem insertAll_eq_hash {fields : Hash} (w : Watermark)
    (hother : ∀ x, x ∉ fieldNames → fields.lookup x = none) :
    insertAll fields w.pairs = w.hash := by
  apply Finmap.ext_lookup
  intro x
  by_cases hx : x ∈ fieldNames
  · exact lookup_known _ _ w hx
  · rw [Watermark.hash, lookup_other _ w hx, lookup_other _ w hx, hother x hx,
      Finmap.lookup_empty]

theorem hash_lookup_other (w : Watermark) (x : Bytes) (hx : x ∉ fieldNames) :
    w.hash.lookup x = none := by
  rw [Watermark.hash, lookup_other _ w hx, Finmap.lookup_empty]

theorem hash_injective : Function.Injective Watermark.hash := by
  intro w w' h
  have h1 := congrArg (Finmap.lookup fencingTokenField) h
  have h2 := congrArg (Finmap.lookup operationIdField) h
  have h3 := congrArg (Finmap.lookup payloadSha256Field) h
  have h4 := congrArg (Finmap.lookup holderField) h
  have h5 := congrArg (Finmap.lookup leaseIdField) h
  simp only [Watermark.hash, lookup_fencingToken, lookup_operationId, lookup_payloadSha256,
    lookup_holder, lookup_leaseId, Option.some.injEq] at h1 h2 h3 h4 h5
  cases w
  cases w'
  simp_all

/-- The request passes the checks made before any Redis command. -/
structure Request.Accepted (r : Request) : Prop where
  distinct : r.watermarkKey ≠ r.stateKey
  tagged : hashTag r.watermarkKey ≠ none
  sameTag : hashTag r.watermarkKey = hashTag r.stateKey
  incoming : canonicalToken r.incoming = true
  operationId : 1 ≤ r.operationId.length ∧ r.operationId.length ≤ 128
  payloadSha256 : validSha256 r.payloadSha256 = true
  holder : validOptional r.holder 256 = true
  leaseId : validOptional r.leaseId 256 = true

theorem Request.check_iff (r : Request) : r.check = .ok () ↔ r.Accepted := by
  unfold Request.check
  constructor
  · intro h
    split at h
    · simp at h
    rename_i hkeys
    split at h
    · simp at h
    rename_i htags
    split at h
    · simp at h
    rename_i htoken
    split at h
    · simp at h
    rename_i hop
    split at h
    · simp at h
    rename_i hsha
    split at h
    · simp at h
    rename_i hholder
    split at h
    · simp at h
    rename_i hlease
    push Not at htags hop
    exact ⟨hkeys, by simpa using htags.1, htags.2.2, by simpa using htoken, ⟨by omega, by omega⟩,
      by simpa using hsha, by simpa using hholder, by simpa using hlease⟩
  · intro h
    have htags : ¬ ((hashTag r.watermarkKey).isNone = true ∨ (hashTag r.stateKey).isNone = true ∨
        hashTag r.watermarkKey ≠ hashTag r.stateKey) := by
      have htagged := h.tagged
      rw [← h.sameTag]
      simp [htagged]
    have hop := h.operationId
    rw [if_neg h.distinct, if_neg htags, h.incoming, if_neg (by simp), if_neg (by omega),
      h.payloadSha256, if_neg (by simp), h.holder, if_neg (by simp), h.leaseId, if_neg (by simp)]

/-- The lists the script reads a request from. -/
structure Request.ReadFrom (r : Request) (keys argv optional : List Bytes) : Prop where
  keys : keys = [r.watermarkKey, r.stateKey]
  argv : argv = r.incoming :: r.operationId :: r.payloadSha256 :: r.serializedValue :: optional
  optionalCount : optional.length ≤ 2
  holder : r.holder = optional.getD 0 []
  leaseId : r.leaseId = optional.getD 1 []

theorem arguments_iff {keys argv : List Bytes} {r : Request} :
    arguments keys argv = .ok r ↔ r.Accepted ∧ ∃ optional, r.ReadFrom keys argv optional := by
  constructor
  · intro h
    unfold arguments at h
    split at h
    · split at h
      · split at h
        · simp at h
        rename_i hcount
        dsimp only at h
        split at h
        · rename_i hcheck
          cases h
          exact ⟨(Request.check_iff _).mp hcheck, _, rfl, rfl, by omega, rfl, rfl⟩
        · simp at h
      · simp at h
    · simp at h
  · intro h
    obtain ⟨haccepted, optional, hread⟩ := h
    have hcheck := (Request.check_iff r).mpr haccepted
    have hcount := hread.optionalCount
    rw [hread.keys, hread.argv]
    unfold arguments
    dsimp only
    rw [if_neg (by omega), ← hread.holder, ← hread.leaseId]
    simp only [hcheck]

/-- The stored fields pass the checks the script makes before it compares. -/
structure Watermark.Valid (w : Watermark) : Prop where
  fencingToken : canonicalToken w.fencingToken = true
  operationId : 1 ≤ w.operationId.length ∧ w.operationId.length ≤ 128
  payloadSha256 : validSha256 w.payloadSha256 = true
  holder : validStoredOptional (some w.holder) 256 = true
  leaseId : validStoredOptional (some w.leaseId) 256 = true

/-- The script finds this watermark and a protected value. -/
structure Found (now : Int) (store : Store) (r : Request) (w : Watermark)
    (expiresAt : Option Int) : Prop where
  watermark : lookup now store r.watermarkKey = some ⟨.hash w.hash, expiresAt⟩
  state : ∃ value e, lookup now store r.stateKey = some ⟨.string value, e⟩
  valid : w.Valid

/-- The store after both writes; `HSET` keeps the expiry of the hash, `SET` drops
that of the value. -/
def Request.apply (r : Request) (expiresAt : Option Int) (store : Store) : Store :=
  put (put store r.watermarkKey ⟨.hash r.watermark.hash, expiresAt⟩) r.stateKey
    ⟨.string r.serializedValue, none⟩

section Apply

variable (r : Request) (expiresAt : Option Int) (store : Store)

theorem apply_watermarkKey (h : r.watermarkKey ≠ r.stateKey) :
    r.apply expiresAt store r.watermarkKey = some ⟨.hash r.watermark.hash, expiresAt⟩ := by
  unfold Request.apply
  rw [put_of_ne _ _ h, put_same]

theorem apply_stateKey :
    r.apply expiresAt store r.stateKey = some ⟨.string r.serializedValue, none⟩ := by
  unfold Request.apply
  rw [put_same]

theorem apply_of_ne {key : Bytes} (hw : key ≠ r.watermarkKey) (hs : key ≠ r.stateKey) :
    r.apply expiresAt store key = store key := by
  unfold Request.apply
  rw [put_of_ne _ _ hs, put_of_ne _ _ hw]

end Apply

theorem storedFields_ok {operation payload holder leaseId : Option Bytes} {o p : Bytes}
    (h : storedFields [operation, payload, holder, leaseId] = .ok (o, p)) :
    operation = some o ∧ payload = some p ∧ (1 ≤ o.length ∧ o.length ≤ 128) ∧
      validSha256 p = true ∧ validStoredOptional holder 256 = true ∧
      validStoredOptional leaseId 256 = true := by
  cases operation with
  | none => simp [storedFields] at h
  | some operation =>
    cases payload with
    | none =>
      simp only [storedFields] at h
      split at h <;> simp at h
    | some payload =>
      simp only [storedFields] at h
      split at h
      · simp at h
      rename_i hop
      split at h
      · simp at h
      rename_i hpay
      split at h
      · simp at h
      rename_i hhold
      split at h
      · simp at h
      rename_i hlease
      simp only [Except.ok.injEq, Prod.mk.injEq] at h
      obtain ⟨rfl, rfl⟩ := h
      exact ⟨rfl, rfl, ⟨by omega, by omega⟩, by simpa using hpay, by simpa using hhold,
        by simpa using hlease⟩

theorem storedFields_of_valid {w : Watermark} (h : w.Valid) :
    storedFields [some w.operationId, some w.payloadSha256, some w.holder, some w.leaseId] =
      .ok (w.operationId, w.payloadSha256) := by
  have hop : ¬ (w.operationId.length < 1 ∨ 128 < w.operationId.length) := by
    have := h.operationId
    omega
  simp only [storedFields, if_neg hop, h.payloadSha256, h.holder, h.leaseId, Bool.not_true,
    Bool.false_eq_true, if_false]

theorem isSome_of_validStoredOptional {value : Option Bytes} {n : Nat}
    (h : validStoredOptional value n = true) : ∃ v, value = some v := by
  cases value with
  | none => simp [validStoredOptional] at h
  | some v => exact ⟨v, rfl⟩

/-- Lookups of the five names and a count of five determine the hash. -/
theorem eq_hash {fields : Hash} {w : Watermark} (hcard : fields.keys.card = 5)
    (h1 : fields.lookup fencingTokenField = some w.fencingToken)
    (h2 : fields.lookup operationIdField = some w.operationId)
    (h3 : fields.lookup payloadSha256Field = some w.payloadSha256)
    (h4 : fields.lookup holderField = some w.holder)
    (h5 : fields.lookup leaseIdField = some w.leaseId) : fields = w.hash := by
  have hsub : ∀ x ∈ fieldNames, x ∈ fields.keys := by
    intro x hx
    rw [Finmap.mem_keys, Finmap.mem_iff]
    rcases mem_fieldNames.mp hx with rfl | rfl | rfl | rfl | rfl
    · exact ⟨_, h1⟩
    · exact ⟨_, h2⟩
    · exact ⟨_, h3⟩
    · exact ⟨_, h4⟩
    · exact ⟨_, h5⟩
  apply Finmap.ext_lookup
  intro x
  by_cases hx : x ∈ fieldNames
  · unfold Watermark.hash
    rcases mem_fieldNames.mp hx with rfl | rfl | rfl | rfl | rfl
    · rw [h1, lookup_fencingToken]
    · rw [h2, lookup_operationId]
    · rw [h3, lookup_payloadSha256]
    · rw [h4, lookup_holder]
    · rw [h5, lookup_leaseId]
  · rw [lookup_eq_none_of_card hcard hsub hx, hash_lookup_other w x hx]

theorem write_first {now : Int} {r : Request} {store : Store} {previous : Bytes}
    (h : lookup now store r.watermarkKey = none) :
    write now r store previous = (.decision .advanced true r.incoming previous, r.apply none store) := by
  simp only [write, hset, h]
  rfl

theorem write_found {now : Int} {r : Request} {store : Store} {previous : Bytes} {w : Watermark}
    {expiresAt : Option Int}
    (h : lookup now store r.watermarkKey = some ⟨.hash w.hash, expiresAt⟩) :
    write now r store previous =
      (.decision .advanced true r.incoming previous, r.apply expiresAt store) := by
  have heq : insertAll w.hash r.fields = r.watermark.hash :=
    insertAll_eq_hash r.watermark (hash_lookup_other w)
  simp only [write, hset, h, heq]
  rfl

theorem execute_first {now : Int} {r : Request} {store : Store}
    (hw : lookup now store r.watermarkKey = none) (hs : lookup now store r.stateKey = none) :
    execute now r store = (.decision .advanced true r.incoming [], r.apply none store) := by
  simp only [execute, hget, Redis.get, exists?, hw, hs, Option.isSome_none, Bool.false_eq_true, if_false]
  exact write_first hw

/-- Against a found watermark the script decides by the decimal comparison. -/
theorem execute_found {now : Int} {r : Request} {store : Store} {w : Watermark}
    {expiresAt : Option Int} (h : Found now store r w expiresAt) :
    execute now r store =
      match compareDecimal r.incoming w.fencingToken with
      | .gt => (.decision .advanced true r.incoming w.fencingToken, r.apply expiresAt store)
      | .lt => (.decision .stale false w.fencingToken w.fencingToken, store)
      | .eq =>
        if w.operationId = r.operationId ∧ w.payloadSha256 = r.payloadSha256 then
          (.decision .replay false w.fencingToken w.fencingToken, store)
        else (.decision .tokenReuse false w.fencingToken w.fencingToken, store) := by
  obtain ⟨value, e, hs⟩ := h.state
  have hcard : w.hash.keys.card = 5 := by rw [keys_hash, fieldNames_card]
  have hl : w.hash.lookup fencingTokenField = some w.fencingToken := lookup_fencingToken ∅ w
  have hl2 : w.hash.lookup operationIdField = some w.operationId := lookup_operationId ∅ w
  have hl3 : w.hash.lookup payloadSha256Field = some w.payloadSha256 := lookup_payloadSha256 ∅ w
  have hl4 : w.hash.lookup holderField = some w.holder := lookup_holder ∅ w
  have hl5 : w.hash.lookup leaseIdField = some w.leaseId := lookup_leaseId ∅ w
  simp only [execute, hget, Redis.get, h.watermark, hs, hl, Option.isNone_some, Bool.false_eq_true,
    if_false, h.valid.fencingToken, Bool.not_true, decideStored, hmget, hlen, List.map_cons,
    List.map_nil, hl2, hl3, hl4, hl5, storedFields_of_valid h.valid, hcard, ne_eq, not_true]
  rewrite [write_found h.watermark]
  cases compareDecimal r.incoming w.fencingToken <;> rfl

/-- A decision against a stored token fails, or the hash is exactly a valid watermark. -/
theorem decideStored_cases {now : Int} {r : Request} {store : Store} {token : Bytes}
    (htoken : hget now store r.watermarkKey fencingTokenField = .ok (some token))
    (hstate : ∃ value e, lookup now store r.stateKey = some ⟨.string value, e⟩)
    (hcanonical : canonicalToken token = true) :
    (∃ message, decideStored now r store token = (.error message, store)) ∨
    (∃ w expiresAt, Found now store r w expiresAt) := by
  unfold decideStored
  split
  · exact Or.inl ⟨_, rfl⟩
  rename_i stored hstored
  split
  · exact Or.inl ⟨_, rfl⟩
  rename_i operation payload hfields
  split
  · exact Or.inl ⟨_, rfl⟩
  rename_i count hcount
  split
  · exact Or.inl ⟨_, rfl⟩
  rename_i hfive
  right
  unfold hget at htoken
  unfold hmget at hstored
  unfold hlen at hcount
  split at htoken
  · simp at htoken
  · rename_i fields expiresAt hlookup
    simp only [hlookup, Except.ok.injEq, List.map_cons, List.map_nil] at hstored hcount htoken
    subst hstored
    obtain ⟨ho, hp, hlen, hsha, hh, hl⟩ := storedFields_ok hfields
    obtain ⟨holder, hholder⟩ := isSome_of_validStoredOptional hh
    obtain ⟨leaseId, hleaseId⟩ := isSome_of_validStoredOptional hl
    have heq : fields = Watermark.hash ⟨token, operation, payload, holder, leaseId⟩ :=
      eq_hash (by omega) htoken ho hp hholder hleaseId
    refine ⟨⟨token, operation, payload, holder, leaseId⟩, expiresAt, ?_, hstate, ?_⟩
    · rw [hlookup, heq]
    · exact ⟨hcanonical, hlen, hsha, hholder ▸ hh, hleaseId ▸ hl⟩
  · simp at htoken

/-- Every execution that does not fail found nothing at all or a valid watermark. -/
theorem execute_cases (now : Int) (r : Request) (store : Store) :
    (∃ message, execute now r store = (.error message, store)) ∨
    (lookup now store r.watermarkKey = none ∧ lookup now store r.stateKey = none) ∨
    (∃ w expiresAt, Found now store r w expiresAt) := by
  unfold execute
  split
  · exact Or.inl ⟨_, rfl⟩
  rename_i current hcurrent
  split
  · exact Or.inl ⟨_, rfl⟩
  rename_i protectedState hstate
  split
  · split
    · exact Or.inl ⟨_, rfl⟩
    rename_i hexists
    split
    · exact Or.inl ⟨_, rfl⟩
    rename_i horphan
    have hnone : protectedState = none := by simpa using horphan
    subst hnone
    exact Or.inr (Or.inl ⟨by simpa [exists?] using hexists, lookup_of_get_none hstate⟩)
  · rename_i token
    split
    · exact Or.inl ⟨_, rfl⟩
    rename_i hpresent
    split
    · exact Or.inl ⟨_, rfl⟩
    rename_i hcanonical
    obtain ⟨value, rfl⟩ : ∃ value, protectedState = some value :=
      Option.ne_none_iff_exists'.mp (by simpa using hpresent)
    obtain ⟨e, hvalue⟩ := lookup_of_get_some hstate
    rcases decideStored_cases hcurrent ⟨value, e, hvalue⟩ (by simpa using hcanonical) with
      hfailed | hfound
    · exact Or.inl hfailed
    · exact Or.inr (Or.inr hfound)

def Reply.isAdvanced : Reply → Bool
  | .decision .advanced _ _ _ => true
  | _ => false

/-- What the script has found when it answers `advanced`. -/
inductive Ahead (now : Int) (store : Store) (r : Request) (expiresAt : Option Int) : Bytes → Prop
  | first : lookup now store r.watermarkKey = none → lookup now store r.stateKey = none →
      expiresAt = none → Ahead now store r expiresAt []
  | newer {w : Watermark} : Found now store r w expiresAt →
      compareDecimal r.incoming w.fencingToken = .gt → Ahead now store r expiresAt w.fencingToken

/-- An `advanced` reply: the request that was read, and the two writes. -/
structure Advanced (now : Int) (keys argv : List Bytes) (store : Store) (r : Request)
    (expiresAt : Option Int) (previous : Bytes) : Prop where
  accepted : r.Accepted
  readFrom : ∃ optional, r.ReadFrom keys argv optional
  ahead : Ahead now store r expiresAt previous
  result : fencedWrite now keys argv store =
    (.decision .advanced true r.incoming previous, r.apply expiresAt store)

/-- A call that does not answer `advanced` writes nothing. -/
theorem fencedWrite_cases (now : Int) (keys argv : List Bytes) (store : Store) :
    (∃ reply, reply.isAdvanced = false ∧ fencedWrite now keys argv store = (reply, store)) ∨
    (∃ r expiresAt previous, Advanced now keys argv store r expiresAt previous) := by
  cases ha : arguments keys argv with
  | error message =>
    left
    refine ⟨fail message, rfl, ?_⟩
    rw [fencedWrite, ha]
  | ok r =>
    have hrun : fencedWrite now keys argv store = execute now r store := by
      rw [fencedWrite, ha]
    obtain ⟨haccepted, hread⟩ := arguments_iff.mp ha
    rw [hrun]
    rcases execute_cases now r store with ⟨message, hm⟩ | ⟨hw, hs⟩ | ⟨w, expiresAt, hf⟩
    · exact Or.inl ⟨_, rfl, hm⟩
    · right
      refine ⟨r, none, [], haccepted, hread, .first hw hs rfl, ?_⟩
      rw [hrun, execute_first hw hs]
    · have he := execute_found hf
      cases hc : compareDecimal r.incoming w.fencingToken with
      | gt =>
        right
        rw [hc] at he
        exact ⟨r, expiresAt, _, haccepted, hread, .newer hf hc, by rw [hrun, he]⟩
      | lt =>
        left
        rw [hc] at he
        exact ⟨_, rfl, he⟩
      | eq =>
        left
        rw [hc] at he
        dsimp only at he
        split at he
        · exact ⟨_, rfl, he⟩
        · exact ⟨_, rfl, he⟩

end OresLocks.FencedWrite
