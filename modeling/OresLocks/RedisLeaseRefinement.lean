import OresLocks.AuthorityRuns
import OresLocks.JsText
import OresLocks.RedisLeaseTokens

/-!
# The Redis lease scripts refine the Durable Object authority

Both authorities are driven by the same operations at the same times. A holder is a
text: the authority gets it in UTF-16 and Redis in UTF-8. The two states agree when
both store the same lease with the same expiry, or the authority has cleared its
lease and Redis has none that has not expired.
-/

namespace OresLocks.RedisLease

set_option autoImplicit false

open Shared.Numeral Shared.Utf8 Shared.Runs Redis Ts

inductive Operation where
  | acquire (holder : String) (ttlMs : Nat)
  | renew (holder : String) (token ttlMs : Nat)
  | release (holder : String) (token : Nat)
  deriving DecidableEq

/-- What a caller learns from either authority. -/
inductive Answer where
  | acquired (token : Bytes) (replayed : Bool) (expiresMs : Int)
  | contended (expiresMs : Int)
  | exhausted
  | renewed (expiresMs : Int)
  | notRenewed
  | released
  | notReleased
  deriving DecidableEq

def body (holder : String) (ttlMs : Nat) (token : JsValue) : Authority.LeaseBody :=
  ⟨.string (js holder), .undefined, .number (.ofInt ttlMs), token⟩

/-- `none` for an answer the operation does not have: a rejected argument or a fault. -/
def ofAcquire : Authority.AcquireOutcome → Option Answer
  | .granted token expires _ => some (.acquired (JsString.encode token) false expires)
  | .replayed (some token) expires => some (.acquired (JsString.encode token) true expires)
  | .refused _ expires => some (.contended expires)
  | .error .fencingTokenExhausted => some .exhausted
  | _ => none

def ofRenew : Authority.RenewOutcome → Option Answer
  | .renewed expires _ => some (.renewed expires)
  | .refused _ => some .notRenewed
  | .error _ => none

def ofRelease : Authority.ReleaseOutcome → Option Answer
  | .released => some .released
  | .refused _ => some .notReleased
  | .error _ => none

/-- The operation at the Durable Object. -/
def onAuthority (now : Int) (s : Authority.Storage) : Operation → Option Answer × Authority.Storage
  | .acquire holder ttlMs =>
    let (outcome, t) := Authority.acquire (body holder ttlMs .undefined) now s
    (ofAcquire outcome, t)
  | .renew holder token ttlMs =>
    let (outcome, t) := Authority.renew (body holder ttlMs (.string (numeral token))) now s
    (ofRenew outcome, t)
  | .release holder token =>
    let (outcome, t) := Authority.release (body holder 0 (.string (numeral token))) now s
    (ofRelease outcome, t)

def ofAcquireReply (now : Int) : AcquireReply → Option Answer
  | .reply true token pttl replayed => some (.acquired token replayed (now + pttl))
  | .reply false _ pttl _ => some (.contended (now + pttl))
  | .error message => if message = exhausted then some .exhausted else none

def ofRenewReply (now : Int) : RenewReply → Option Answer
  | .reply true pttl => some (.renewed (now + pttl))
  | .reply false _ => some .notRenewed
  | .error _ => none

def ofReleaseReply : ReleaseReply → Option Answer
  | .deleted count => some (if count = 1 then .released else .notReleased)
  | .error _ => none

/-- The operation at Redis. -/
def onRedis (lockKey fenceKey : Bytes) (now : Int) (store : Store) :
    Operation → Option Answer × Store
  | .acquire holder ttlMs =>
    let (reply, t) := acquire now lockKey fenceKey (utf8 holder) (numeral ttlMs) store
    (ofAcquireReply now reply, t)
  | .renew holder token ttlMs =>
    let (reply, t) := renew now lockKey (utf8 holder) (numeral token) (numeral ttlMs) store
    (ofRenewReply now reply, t)
  | .release holder token =>
    let (reply, t) := release now lockKey (utf8 holder) (numeral token) store
    (ofReleaseReply reply, t)

/-- A valid holder, a positive TTL of at most a day and a canonical token. -/
def Operation.Valid : Operation → Prop
  | .acquire holder ttlMs => Authority.validHolder (.string (js holder)) = true ∧
      1 ≤ ttlMs ∧ ttlMs ≤ 86400000
  | .renew holder token ttlMs => Authority.validHolder (.string (js holder)) = true ∧
      (1 ≤ token ∧ token ≤ 18446744073709551615) ∧ 1 ≤ ttlMs ∧ ttlMs ≤ 86400000
  | .release holder token => Authority.validHolder (.string (js holder)) = true ∧
      1 ≤ token ∧ token ≤ 18446744073709551615

structure State where
  storage : Authority.Storage
  store : Store

/-- One operation at both authorities, with the two answers. -/
structure Label where
  operation : Operation
  now : Int
  authority : Option Answer
  redis : Option Answer

/-- A valid operation at a time that is not the expiry of the current lease. -/
inductive Step (lockKey fenceKey : Bytes) (s : State) : Label → State → Prop where
  | run (operation : Operation) (now : Int) : operation.Valid →
      s.storage.row.expiresMs ≠ some now →
      Step lockKey fenceKey s
        ⟨operation, now, (onAuthority now s.storage operation).1,
          (onRedis lockKey fenceKey now s.store operation).1⟩
        ⟨(onAuthority now s.storage operation).2,
          (onRedis lockKey fenceKey now s.store operation).2⟩

section AuthorityCalls

variable {holder : String} {ttlMs token : Nat} {now : Int} {s : Authority.Storage}

theorem validTtl_of_range (hlow : 1 ≤ ttlMs) (hhigh : ttlMs ≤ 86400000) :
    Authority.validTtl (.number (.ofInt ttlMs)) = true := by
  have hnum : (Rat.ofInt ttlMs).num.natAbs = ttlMs := rfl
  have hsafe : (JsNumber.ofInt ttlMs).isSafeInteger = true := by
    unfold JsNumber.ofInt JsNumber.isSafeInteger
    rw [Bool.and_eq_true, decide_eq_true_eq, hnum, JsNumber.maxSafeInteger]
    exact ⟨rfl, by omega⟩
  unfold Authority.validTtl
  rw [Bool.and_eq_true, Bool.and_eq_true, decide_eq_true_eq, decide_eq_true_eq,
    JsNumber.toInt_ofInt, Authority.maxTtlMs]
  exact ⟨⟨hsafe, by omega⟩, by omega⟩

theorem canonicalToken_numeral (hlow : 1 ≤ token) (hhigh : token ≤ 18446744073709551615) :
    Authority.canonicalToken (.string (numeral token)) = some (numeral token) := by
  have hmatch : JsString.matchesPositiveDecimal (numeral token) = true := by
    rw [JsString.matchesPositiveDecimal_iff, natOf_numeral]
    exact ⟨isNumeral_numeral token, by omega⟩
  have hmax : ¬ Authority.maxPersistedFencingToken < token := by
    unfold Authority.maxPersistedFencingToken
    omega
  simp [Authority.canonicalToken, hmatch, hmax]

/-- `acquire` of a free row with a counter below the limit. -/
theorem authority_grants {n : Nat} (hvalid : (Operation.acquire holder ttlMs).Valid)
    (hfree : Authority.Free s.row now) (hcounter : s.row.nextToken = numeral n)
    (hn : n < 9007199254740991) :
    Authority.acquire (body holder ttlMs .undefined) now s =
      (.granted (numeral (n + 1)) (now + ttlMs) ttlMs,
        ⟨⟨some (js holder), some (numeral (n + 1)), some (now + ttlMs), numeral (n + 1), none⟩,
          some (now + ttlMs)⟩) := by
  obtain ⟨hholder, hlow, hhigh⟩ := hvalid
  have hnext : Authority.nextToken s.row.nextToken = .ok (numeral (n + 1)) := by
    have hmax : ¬ Authority.maxMintedFencingToken < n + 1 := by
      unfold Authority.maxMintedFencingToken
      omega
    simp [Authority.nextToken, hcounter, hmax]
  have httl := validTtl_of_range hlow hhigh
  have hreq : Authority.validRequestId .undefined = true := rfl
  have hstored : Authority.stored (.string (js holder)) = some (js holder) :=
    congrArg some (Ts.toWellFormed_js holder)
  have hnone : Authority.stored .undefined = none := rfl
  unfold Authority.acquire
  simp only [body, hholder, hreq, httl, Bool.not_true, Bool.false_eq_true, if_false,
    Authority.transactionSync, Authority.acquireTransaction_free hfree, Authority.acquireFresh,
    hnext, hstored, hnone, Authority.int, JsNumber.toInt_ofInt, Authority.AcquireOutcome.setAlarm]

/-- `acquire` of a row with an unexpired lease. -/
theorem authority_held {owner current : JsString} {expires : Int}
    (hvalid : (Operation.acquire holder ttlMs).Valid) (hh : s.row.holder = some owner)
    (ht : s.row.token = some current) (he : s.row.expiresMs = some expires)
    (hreq : s.row.requestId = none) (hlt : now < expires) :
    (Authority.acquire (body holder ttlMs .undefined) now s).1 =
      (if owner = js holder then .replayed (some current) expires
        else .refused .contention expires) ∧
    (Authority.acquire (body holder ttlMs .undefined) now s).2.row = s.row := by
  obtain ⟨hholder, hlow, hhigh⟩ := hvalid
  have httl := validTtl_of_range hlow hhigh
  have hundef : Authority.validRequestId .undefined = true := rfl
  unfold Authority.acquire
  simp only [body, hholder, hundef, httl, Bool.not_true, Bool.false_eq_true, if_false,
    Authority.transactionSync, Authority.acquireTransaction_active hh he hlt,
    Authority.acquireActive, Authority.text, Authority.truthy, hreq, hh, ht]
  by_cases hsame : owner = js holder
  · simp [hsame]
  · simp [hsame]

/-- A valid `renew` is its transaction. -/
theorem authority_renew (now : Int) (s : Authority.Storage)
    (hvalid : (Operation.renew holder token ttlMs).Valid) :
    let body := body holder ttlMs (.string (numeral token))
    (Authority.renew body now s).1 =
      (Authority.renewTransaction body (numeral token) now s.row).1 ∧
    (Authority.renew body now s).2.row =
      (Authority.renewTransaction body (numeral token) now s.row).2 := by
  obtain ⟨hholder, htoken, hlow, hhigh⟩ := hvalid
  have httl := validTtl_of_range hlow hhigh
  have hcanonical := canonicalToken_numeral htoken.1 htoken.2
  unfold Authority.renew
  simp only [body, hholder, httl, hcanonical, Bool.not_true, Bool.false_eq_true, if_false]
  split
  · rename_i hrun
    rw [hrun]
    exact ⟨rfl, rfl⟩
  · rename_i hrun
    rw [hrun]
    exact ⟨rfl, rfl⟩

/-- A valid `release` is its transaction. -/
theorem authority_release (now : Int) (s : Authority.Storage)
    (hvalid : (Operation.release holder token).Valid) :
    let body := body holder 0 (.string (numeral token))
    (Authority.release body now s).1 =
      (Authority.releaseTransaction body (numeral token) now s.row).1 ∧
    (Authority.release body now s).2.row =
      (Authority.releaseTransaction body (numeral token) now s.row).2 := by
  obtain ⟨hholder, htoken⟩ := hvalid
  have hcanonical := canonicalToken_numeral htoken.1 htoken.2
  unfold Authority.release
  simp only [body, hholder, hcanonical, Bool.not_true, Bool.false_eq_true, if_false]
  split
  · rename_i hrun
    rw [hrun]
    exact ⟨rfl, rfl⟩
  · rename_i hrun
    rw [hrun]
    exact ⟨rfl, rfl⟩
  · rename_i hrun
    rw [hrun]
    exact ⟨rfl, rfl⟩

end AuthorityCalls

/-- The hash `acquire.lua` writes for a lease. -/
def leaseEntry (holder : String) (token : Nat) (expires : Int) : Entry :=
  ⟨.hash (insertAll ∅ [(holderField, utf8 holder), (tokenField, numeral token)]), some expires⟩

section Commands

variable {holder owner : String} {ttlMs token current n : Nat} {now expires : Int}
  {lockKey fenceKey : Bytes} {store : Store}

theorem hget_absent (h : lookup now store lockKey = none) (field : Bytes) :
    hget now store lockKey field = .ok none := by
  simp only [hget, h]

theorem hget_holder (h : lookup now store lockKey = some (leaseEntry owner current expires)) :
    hget now store lockKey holderField = .ok (some (utf8 owner)) := by
  simp only [hget, h, leaseEntry, insertAll, List.foldl_cons, List.foldl_nil]
  rw [Finmap.lookup_insert_of_ne _ holderField_ne_tokenField, Finmap.lookup_insert]

theorem hget_token (h : lookup now store lockKey = some (leaseEntry owner current expires)) :
    hget now store lockKey tokenField = .ok (some (numeral current)) := by
  simp only [hget, h, leaseEntry, insertAll, List.foldl_cons, List.foldl_nil]
  rw [Finmap.lookup_insert]

theorem lookup_put_lease (hle : now ≤ expires) :
    lookup now (put store lockKey (leaseEntry owner current expires)) lockKey =
      some (leaseEntry owner current expires) := by
  have hfresh : ¬ expires < now := by omega
  simp [lookup, leaseEntry, hfresh]

theorem pttl_lease (h : lookup now store lockKey = some (leaseEntry owner current expires)) :
    pttl now store lockKey = expires - now := by
  simp only [pttl, h, leaseEntry]

/-- The part of `acquire.lua` for an existing lease. -/
theorem redis_held (holder : String) (ttlMs : Nat) (fenceKey : Bytes)
    (h : lookup now store lockKey = some (leaseEntry owner current expires))
    (hlt : now < expires) :
    acquire now lockKey fenceKey (utf8 holder) (numeral ttlMs) store =
      (if owner = holder then .reply true (numeral current) (expires - now) true
        else .reply false [] (expires - now) false, store) := by
  have hexists : exists? now store lockKey = true := by simp [exists?, h]
  have hpositive : ¬ expires - now ≤ 0 := by omega
  unfold acquire acquireBy
  rw [if_pos hexists]
  simp only [acquireExisting, pttl_lease h, if_neg hpositive, hget_holder h, hget_token h, utf8_inj]

theorem counter_text (n : Nat) :
    (if n = 0 then none else some (numeral n)).getD [0x30] = (numeral n : Bytes) := by
  split
  · rename_i hzero
    rw [hzero]
    decide
  · rfl

theorem counter_accepted (n : Nat) :
    ((numeral n : Bytes).isEmpty || !isDigits (numeral n : Bytes)) = false := by
  rw [isDigits_numeral, Bool.not_true, Bool.or_false, List.isEmpty_eq_false_iff]
  exact numeral_ne_nil n

/-- `acquire.lua` without a lease, with its counter below the limit. -/
theorem redis_grants (holder : String) (hkeys : lockKey ≠ fenceKey) (hlow : 1 ≤ ttlMs)
    (hhigh : ttlMs ≤ 86400000) (h : lookup now store lockKey = none)
    (hcounter : get now store fenceKey = .ok (if n = 0 then none else some (numeral n)))
    (hn : n < 9007199254740991) :
    acquire now lockKey fenceKey (utf8 holder) (numeral ttlMs) store =
      (.reply true (numeral (n + 1)) ttlMs false,
        put (set store fenceKey (numeral (n + 1))) lockKey
          (leaseEntry holder (n + 1) (now + ttlMs))) := by
  have hexists : exists? now store lockKey = false := by simp [exists?, h]
  have hbelow : isExhausted (numeral (n + 1)) = false := by
    rw [← Bool.not_eq_true, isExhausted_numeral]
    omega
  have habsent : lookup now (set store fenceKey (numeral (n + 1))) lockKey = none := by
    unfold Redis.set
    rw [lookup_put_of_ne now store _ hkeys, h]
  have hlive : lookup now (put (set store fenceKey (numeral (n + 1))) lockKey
      (leaseEntry holder (n + 1) (now + ttlMs))) lockKey =
        some (leaseEntry holder (n + 1) (now + ttlMs)) := lookup_put_lease (by omega)
  have hpttl : now + (ttlMs : Int) - now = ttlMs := by omega
  have hpositive : ¬ (ttlMs : Int) ≤ 0 := by omega
  have hwrite : acquireWriteBy (expireUnbounded now lockKey (numeral ttlMs)) now lockKey fenceKey
      (utf8 holder) (numeral (n + 1)) store = (.reply true (numeral (n + 1)) ttlMs false,
        put (set store fenceKey (numeral (n + 1))) lockKey
          (leaseEntry holder (n + 1) (now + ttlMs))) := by
    simp only [leaseEntry] at hlive
    simp only [acquireWriteBy, hset, habsent, expireUnbounded, pexpire, integer_numeral (show ttlMs < 2 ^ 63 by omega), lookup_put_same,
      if_neg hpositive, leaseEntry, put_put, pttl, hlive, hpttl]
  unfold acquire acquireBy
  simp only [hexists, Bool.false_eq_true, if_false, hcounter, counter_text, counter_accepted,
    nextToken_numeral, hbelow, hwrite]

theorem redis_exhausted (holder : String) (ttlMs : Nat) (h : lookup now store lockKey = none)
    (hcounter : get now store fenceKey = .ok (if n = 0 then none else some (numeral n)))
    (hn : 9007199254740991 ≤ n) :
    acquire now lockKey fenceKey (utf8 holder) (numeral ttlMs) store =
      (.error exhausted, store) := by
  have hexists : exists? now store lockKey = false := by simp [exists?, h]
  have hlimit : isExhausted (numeral (n + 1)) = true := by
    rw [isExhausted_numeral]
    omega
  unfold acquire acquireBy
  simp only [hexists, Bool.false_eq_true, if_false, hcounter, counter_text, counter_accepted,
    nextToken_numeral, hlimit, if_true]

theorem redis_renew_absent (holder : String) (token ttlMs : Nat)
    (h : lookup now store lockKey = none) :
    renew now lockKey (utf8 holder) (numeral token) (numeral ttlMs) store =
      (.reply false (-2), store) := by
  simp only [renew, hget_absent h]
  rw [if_pos (by simp)]

theorem redis_renew (holder : String) (token : Nat) (hlow : 1 ≤ ttlMs) (hhigh : ttlMs ≤ 86400000)
    (h : lookup now store lockKey = some (leaseEntry owner current expires)) :
    renew now lockKey (utf8 holder) (numeral token) (numeral ttlMs) store =
      if owner = holder ∧ current = token then
        (.reply true ttlMs, put store lockKey (leaseEntry owner current (now + ttlMs)))
      else (.reply false (-2), store) := by
  have hlive : lookup now (put store lockKey (leaseEntry owner current (now + ttlMs))) lockKey =
      some (leaseEntry owner current (now + ttlMs)) := lookup_put_lease (by omega)
  have hpexpire : pexpire now store lockKey (numeral ttlMs) =
      some (put store lockKey (leaseEntry owner current (now + ttlMs))) := by
    have hpositive : ¬ (ttlMs : Int) ≤ 0 := by omega
    simp only [pexpire, integer_numeral (show ttlMs < 2 ^ 63 by omega), h, if_neg hpositive, leaseEntry]
  have hpttl : now + (ttlMs : Int) - now = ttlMs := by omega
  simp only [renew, hget_holder h, hget_token h, hpexpire, pttl_lease hlive, hpttl]
  by_cases hsame : owner = holder
  · by_cases htoken : current = token
    · simp [hsame, htoken]
    · simp [hsame, htoken, numeral_inj]
  · simp [hsame]

theorem redis_release_absent (holder : String) (token : Nat)
    (h : lookup now store lockKey = none) :
    release now lockKey (utf8 holder) (numeral token) store = (.deleted 0, store) := by
  simp only [release, hget_absent h]
  rw [if_pos (by simp)]

theorem redis_release (holder : String) (token : Nat)
    (h : lookup now store lockKey = some (leaseEntry owner current expires)) :
    release now lockKey (utf8 holder) (numeral token) store =
      if owner = holder ∧ current = token then (.deleted 1, del store lockKey)
      else (.deleted 0, store) := by
  have hexists : exists? now store lockKey = true := by simp [exists?, h]
  simp only [release, hget_holder h, hget_token h, hexists]
  by_cases hsame : owner = holder
  · by_cases htoken : current = token
    · simp [hsame, htoken]
    · simp [hsame, htoken, numeral_inj]
  · simp [hsame]

end Commands

/-- Both counters have minted the same number of tokens. -/
structure SameCounter (n : Nat) (row : Authority.Row) (entry : Option Entry) : Prop where
  authority : row.nextToken = numeral n
  redis : entry = if n = 0 then none else some ⟨.string (numeral n), none⟩
  bound : n ≤ 9007199254740991

/-- The two leases after operations at `times`. A lease both authorities store may have
expired on either; one the authority has cleared has expired in Redis. -/
inductive SameLease (times : List Int) (row : Authority.Row) (entry : Option Entry) : Prop where
  | stored (holder : String) (token : Nat) (expires : Int) :
      row.holder = some (js holder) → row.token = some (numeral token) →
      row.expiresMs = some expires → row.requestId = none →
      entry = some (leaseEntry holder token expires) → SameLease times row entry
  | cleared : row.holder = none → row.token = none → row.expiresMs = none → row.requestId = none →
      (∀ stale, entry = some stale →
        ∃ expires, stale.expiresAt = some expires ∧ ∃ time ∈ times, expires < time) →
      SameLease times row entry

structure Agree (lockKey fenceKey : Bytes) (times : List Int) (s : State) : Prop where
  counter : ∃ n, SameCounter n s.storage.row (s.store fenceKey)
  lease : SameLease times s.storage.row (s.store lockKey)

/-- A row without an unexpired lease at `now`. -/
inductive NoLease (now : Int) (row : Authority.Row) : Prop where
  | expired (expires : Int) : row.expiresMs = some expires → expires < now → NoLease now row
  | cleared : row.holder = none → row.expiresMs = none → NoLease now row

/-- What an operation at `now` finds. -/
inductive Found (lockKey : Bytes) (now : Int) (s : State) : Prop where
  | live (holder : String) (token : Nat) (expires : Int) :
      s.storage.row.holder = some (js holder) → s.storage.row.token = some (numeral token) →
      s.storage.row.expiresMs = some expires → s.storage.row.requestId = none →
      lookup now s.store lockKey = some (leaseEntry holder token expires) → now < expires →
      Found lockKey now s
  | absent : NoLease now s.storage.row → lookup now s.store lockKey = none → Found lockKey now s

section Simulation

variable {lockKey fenceKey : Bytes} {now : Int} {times : List Int} {s : State}

theorem lookup_stale {entry : Entry} {expires : Int} (h : s.store lockKey = some entry)
    (hat : entry.expiresAt = some expires) (hlt : expires < now) :
    lookup now s.store lockKey = none := by
  simp [lookup, h, hat, hlt]

theorem stale_of_lookup {entry : Entry} (h : lookup now s.store lockKey = none)
    (hentry : s.store lockKey = some entry) :
    ∃ expires, entry.expiresAt = some expires ∧ expires < now := by
  unfold lookup at h
  rw [hentry] at h
  simp only at h
  split at h
  · rename_i hany
    cases hat : entry.expiresAt with
    | none => simp [hat] at hany
    | some expires => exact ⟨expires, rfl, by simpa [hat] using hany⟩
  · cases h

theorem Agree.found (h : Agree lockKey fenceKey times s) (hlater : ∀ time ∈ times, time ≤ now)
    (hnow : s.storage.row.expiresMs ≠ some now) : Found lockKey now s := by
  cases h.lease with
  | stored holder token expires hholder htoken hexpires hrequest hstore =>
    rcases lt_trichotomy now expires with hlt | heq | hgt
    · refine .live holder token expires hholder htoken hexpires hrequest ?_ hlt
      have hfresh : ¬ expires < now := by omega
      simp [lookup, hstore, leaseEntry, hfresh]
    · rw [heq] at hnow
      exact absurd hexpires hnow
    · exact .absent (.expired expires hexpires hgt) (lookup_stale hstore rfl hgt)
  | cleared hholder htoken hexpires hrequest hstale =>
    cases hentry : s.store lockKey with
    | none => exact .absent (.cleared hholder hexpires) (by simp only [lookup, hentry])
    | some stale =>
      obtain ⟨expires, hat, time, htime, hlt⟩ := hstale stale hentry
      have hle := hlater time htime
      exact .absent (.cleared hholder hexpires) (lookup_stale hentry hat (by omega))

theorem SameCounter.get {n : Nat} {row : Authority.Row}
    (h : SameCounter n row (s.store fenceKey)) :
    Redis.get now s.store fenceKey = .ok (if n = 0 then none else some (numeral n)) := by
  unfold Redis.get lookup
  rw [h.redis]
  by_cases hzero : n = 0
  · simp [hzero]
  · simp [hzero]

theorem SameLease.later {row : Authority.Row} {entry : Option Entry}
    (h : SameLease times row entry) : SameLease (times ++ [now]) row entry := by
  cases h with
  | stored holder token expires hholder htoken hexpires hrequest hentry =>
    exact .stored holder token expires hholder htoken hexpires hrequest hentry
  | cleared hholder htoken hexpires hrequest hstale =>
    refine .cleared hholder htoken hexpires hrequest ?_
    intro stale hentry
    obtain ⟨expires, hat, time, htime, hlt⟩ := hstale stale hentry
    exact ⟨expires, hat, time, List.mem_append_left _ htime, hlt⟩

/-- An operation that changes neither row nor store. -/
theorem Agree.unchanged (h : Agree lockKey fenceKey times s) {storage : Authority.Storage}
    (hrow : storage.row = s.storage.row) :
    Agree lockKey fenceKey (times ++ [now]) ⟨storage, s.store⟩ := by
  obtain ⟨n, hcounter⟩ := h.counter
  constructor
  · refine ⟨n, ?_⟩
    rw [hrow]
    exact hcounter
  · change SameLease _ storage.row _
    rw [hrow]
    exact h.lease.later

/-- The authority clears a row whose lease Redis no longer sees. -/
theorem Agree.clearRow (h : Agree lockKey fenceKey times s) {storage : Authority.Storage}
    (hrow : storage.row = Authority.clearLease s.storage.row)
    (habsent : lookup now s.store lockKey = none) :
    Agree lockKey fenceKey (times ++ [now]) ⟨storage, s.store⟩ := by
  obtain ⟨n, hcounter⟩ := h.counter
  constructor
  · refine ⟨n, ?_, hcounter.redis, hcounter.bound⟩
    rw [hrow]
    exact hcounter.authority
  · change SameLease _ storage.row _
    rw [hrow]
    refine .cleared rfl rfl rfl rfl ?_
    intro stale hentry
    obtain ⟨expires, hat, hlt⟩ := stale_of_lookup habsent hentry
    exact ⟨expires, hat, now, by simp, hlt⟩

/-- Both authorities answer the same and stay in agreement. -/
def Simulates (lockKey fenceKey : Bytes) (times : List Int) (now : Int) (s : State)
    (operation : Operation) : Prop :=
  ∃ answer, (onAuthority now s.storage operation).1 = some answer ∧
    (onRedis lockKey fenceKey now s.store operation).1 = some answer ∧
    Agree lockKey fenceKey (times ++ [now]) ⟨(onAuthority now s.storage operation).2,
      (onRedis lockKey fenceKey now s.store operation).2⟩

theorem NoLease.free {row : Authority.Row} (h : NoLease now row) : Authority.Free row now := by
  intro holder expires hholder hexpires
  cases h with
  | expired e he hlt =>
    rw [he] at hexpires
    cases hexpires
    omega
  | cleared hnone _ =>
    rw [hnone] at hholder
    cases hholder

theorem acquire_absent {holder : String} {ttlMs : Nat} (hkeys : lockKey ≠ fenceKey)
    (h : Agree lockKey fenceKey times s) (hvalid : (Operation.acquire holder ttlMs).Valid)
    (hnone : NoLease now s.storage.row) (habsent : lookup now s.store lockKey = none) :
    Simulates lockKey fenceKey times now s (.acquire holder ttlMs) := by
  obtain ⟨n, hcounter⟩ := h.counter
  rcases Nat.lt_or_ge n 9007199254740991 with hn | hn
  · have ha := authority_grants hvalid hnone.free hcounter.authority hn
    have hr := redis_grants holder hkeys hvalid.2.1 hvalid.2.2 habsent hcounter.get hn
    refine ⟨.acquired (numeral (n + 1)) false (now + ttlMs), ?_, ?_, ?_⟩
    · simp only [onAuthority, ha, ofAcquire, JsString.encode_numeral]
    · simp only [onRedis, hr, ofAcquireReply]
    · simp only [onAuthority, onRedis, ha, hr]
      constructor
      · refine ⟨n + 1, rfl, ?_, by omega⟩
        simp [Redis.set, hkeys.symm]
      · exact .stored holder (n + 1) (now + ttlMs) rfl rfl rfl rfl (by simp)
  · have hmax : s.storage.row.nextToken = numeral Authority.maxMintedFencingToken := by
      rw [hcounter.authority, numeral_inj, Authority.maxMintedFencingToken]
      have hbound := hcounter.bound
      omega
    have httl := validTtl_of_range hvalid.2.1 hvalid.2.2
    have ha : Authority.acquire (body holder ttlMs .undefined) now s.storage =
        (.error .fencingTokenExhausted, s.storage) :=
      Authority.acquire_exhausted hvalid.1 rfl httl hnone.free hmax
    have hr := redis_exhausted holder ttlMs habsent hcounter.get hn
    refine ⟨.exhausted, ?_, ?_, ?_⟩
    · simp only [onAuthority, ha, ofAcquire]
    · simp only [onRedis, hr, ofAcquireReply, if_true]
    · simp only [onAuthority, onRedis, ha, hr]
      exact h.unchanged rfl

theorem acquire_live {holder owner : String} {ttlMs token : Nat} {expires : Int}
    (h : Agree lockKey fenceKey times s) (hvalid : (Operation.acquire holder ttlMs).Valid)
    (hh : s.storage.row.holder = some (js owner)) (ht : s.storage.row.token = some (numeral token))
    (he : s.storage.row.expiresMs = some expires) (hreq : s.storage.row.requestId = none)
    (hstore : lookup now s.store lockKey = some (leaseEntry owner token expires))
    (hlt : now < expires) :
    Simulates lockKey fenceKey times now s (.acquire holder ttlMs) := by
  obtain ⟨ha, hrow⟩ := authority_held hvalid hh ht he hreq hlt
  have hr := redis_held holder ttlMs fenceKey hstore hlt
  have hnow : now + (expires - now) = expires := by omega
  have hagree : Agree lockKey fenceKey (times ++ [now])
      ⟨(onAuthority now s.storage (.acquire holder ttlMs)).2,
        (onRedis lockKey fenceKey now s.store (.acquire holder ttlMs)).2⟩ := by
    simp only [onAuthority, onRedis, hr]
    exact h.unchanged hrow
  by_cases hsame : owner = holder
  · refine ⟨.acquired (numeral token) true expires, ?_, ?_, hagree⟩
    · simp only [onAuthority, ha, if_pos (congrArg js hsame), ofAcquire, JsString.encode_numeral]
    · simp only [onRedis, hr, if_pos hsame, ofAcquireReply, hnow]
  · have hjs : js owner ≠ js holder := fun hjs => hsame (js_injective hjs)
    refine ⟨.contended expires, ?_, ?_, hagree⟩
    · simp only [onAuthority, ha, if_neg hjs, ofAcquire]
    · simp only [onRedis, hr, if_neg hsame, ofAcquireReply, hnow]

/-- The row a refused `renew` or `release` leaves, when Redis has no lease. -/
theorem Agree.refused (h : Agree lockKey fenceKey times s) {storage : Authority.Storage}
    (habsent : lookup now s.store lockKey = none)
    (hrow : storage.row = s.storage.row ∨ storage.row = Authority.clearLease s.storage.row) :
    Agree lockKey fenceKey (times ++ [now]) ⟨storage, s.store⟩ := by
  rcases hrow with hrow | hrow
  · exact h.unchanged hrow
  · exact h.clearRow hrow habsent

theorem renewTransaction_absent {row : Authority.Row} (request : Authority.LeaseBody)
    (token : JsString) (h : NoLease now row) :
    (∃ reason, (Authority.renewTransaction request token now row).1 = .refused reason) ∧
    ((Authority.renewTransaction request token now row).2 = row ∨
      (Authority.renewTransaction request token now row).2 = Authority.clearLease row) := by
  have hrefuse : row.holder ≠ Authority.text request.holder ∨ row.token ≠ some token ∨
      row.expiresMs = none ∨ row.expiresMs.any (· ≤ now) = true := by
    cases h with
    | expired expires he hlt =>
      refine Or.inr (Or.inr (Or.inr ?_))
      rw [he, Option.any_some, decide_eq_true_eq]
      omega
    | cleared _ he => exact Or.inr (Or.inr (Or.inl he))
  unfold Authority.renewTransaction
  rw [if_pos hrefuse]
  split
  · exact ⟨⟨_, rfl⟩, Or.inr rfl⟩
  · exact ⟨⟨_, rfl⟩, Or.inl rfl⟩

theorem releaseTransaction_absent {row : Authority.Row} {request : Authority.LeaseBody}
    {holder : JsString} (token : JsString) (hbody : request.holder = .string holder)
    (h : NoLease now row) :
    (∃ reason, (Authority.releaseTransaction request token now row).1 = .refused reason) ∧
    ((Authority.releaseTransaction request token now row).2 = row ∨
      (Authority.releaseTransaction request token now row).2 = Authority.clearLease row) := by
  unfold Authority.releaseTransaction
  split
  · exact ⟨⟨_, rfl⟩, Or.inr rfl⟩
  · rename_i hunexpired
    have hother : row.holder ≠ Authority.text request.holder := by
      cases h with
      | expired expires he hlt =>
        rw [he, Option.any_some, decide_eq_true_eq] at hunexpired
        omega
      | cleared hh _ =>
        rw [hh, hbody]
        exact Option.some_ne_none holder |>.symm
    rw [if_pos (Or.inl hother)]
    exact ⟨⟨_, rfl⟩, Or.inl rfl⟩

theorem renew_absent {holder : String} {token ttlMs : Nat} (h : Agree lockKey fenceKey times s)
    (hvalid : (Operation.renew holder token ttlMs).Valid) (hnone : NoLease now s.storage.row)
    (habsent : lookup now s.store lockKey = none) :
    Simulates lockKey fenceKey times now s (.renew holder token ttlMs) := by
  obtain ⟨ha, hrow⟩ := authority_renew now s.storage hvalid
  obtain ⟨⟨reason, hrefused⟩, hleft⟩ := renewTransaction_absent
    (body holder ttlMs (.string (numeral token))) (numeral token) hnone
  have hr := redis_renew_absent holder token ttlMs habsent
  refine ⟨.notRenewed, ?_, ?_, ?_⟩
  · simp only [onAuthority, ha, hrefused, ofRenew]
  · simp only [onRedis, hr, ofRenewReply]
  · simp only [onAuthority, onRedis, hr]
    exact h.refused habsent (by rwa [hrow])

theorem release_absent {holder : String} {token : Nat} (h : Agree lockKey fenceKey times s)
    (hvalid : (Operation.release holder token).Valid) (hnone : NoLease now s.storage.row)
    (habsent : lookup now s.store lockKey = none) :
    Simulates lockKey fenceKey times now s (.release holder token) := by
  obtain ⟨ha, hrow⟩ := authority_release now s.storage hvalid
  obtain ⟨⟨reason, hrefused⟩, hleft⟩ := releaseTransaction_absent (numeral token)
    (rfl : (body holder 0 (.string (numeral token))).holder = _) hnone
  have hr := redis_release_absent holder token habsent
  refine ⟨.notReleased, ?_, ?_, ?_⟩
  · simp only [onAuthority, ha, hrefused, ofRelease]
  · simp only [onRedis, hr, ofReleaseReply, Nat.zero_ne_one, if_false]
  · simp only [onAuthority, onRedis, hr]
    exact h.refused habsent (by rwa [hrow])

/-- The transaction of `renew` on an unexpired lease. -/
theorem renewTransaction_live {row : Authority.Row} {holder owner : String}
    {token current ttlMs : Nat} {expires : Int} (hh : row.holder = some (js owner))
    (ht : row.token = some (numeral current)) (he : row.expiresMs = some expires)
    (hlt : now < expires) :
    Authority.renewTransaction (body holder ttlMs (.string (numeral token))) (numeral token) now row =
      if owner = holder ∧ current = token then
        (.renewed (now + ttlMs) ttlMs, { row with expiresMs := some (now + ttlMs) })
      else (.refused .notOwner, row) := by
  have hunexpired : row.expiresMs.any (· ≤ now) = false := by
    simpa [he] using hlt
  have hset : row.expiresMs ≠ none := by simp [he]
  have hguard : (row.holder ≠ some (js holder) ∨ row.token ≠ some (numeral token)) ↔
      ¬ (owner = holder ∧ current = token) := by
    rw [hh, ht, Ne, Ne, Option.some_inj, Option.some_inj, js_injective.eq_iff, numeral_inj]
    tauto
  simp only [Authority.renewTransaction, body, Authority.text, Authority.int, JsNumber.toInt_ofInt,
    hunexpired, hset, Bool.false_eq_true, or_false, if_false, hguard]
  by_cases hsame : owner = holder ∧ current = token
  · rw [if_neg (not_not.mpr hsame), if_pos hsame]
  · rw [if_pos hsame, if_neg hsame]

/-- The transaction of `release` on an unexpired lease. -/
theorem releaseTransaction_live {row : Authority.Row} {holder owner : String}
    {token current : Nat} {expires : Int} (hh : row.holder = some (js owner))
    (ht : row.token = some (numeral current)) (he : row.expiresMs = some expires)
    (hlt : now < expires) :
    Authority.releaseTransaction (body holder 0 (.string (numeral token))) (numeral token) now row =
      if owner = holder ∧ current = token then (.released, Authority.clearLease row)
      else (.refused .notOwner, row) := by
  have hunexpired : row.expiresMs.any (· ≤ now) = false := by
    simpa [he] using hlt
  have hguard : (row.holder ≠ some (js holder) ∨ row.token ≠ some (numeral token)) ↔
      ¬ (owner = holder ∧ current = token) := by
    rw [hh, ht, Ne, Ne, Option.some_inj, Option.some_inj, js_injective.eq_iff, numeral_inj]
    tauto
  simp only [Authority.releaseTransaction, body, Authority.text, hunexpired, Bool.false_eq_true,
    if_false, hguard]
  by_cases hsame : owner = holder ∧ current = token
  · rw [if_neg (not_not.mpr hsame), if_pos hsame]
  · rw [if_pos hsame, if_neg hsame]

theorem renew_live {holder owner : String} {token current ttlMs : Nat} {expires : Int}
    (hkeys : lockKey ≠ fenceKey) (h : Agree lockKey fenceKey times s)
    (hvalid : (Operation.renew holder token ttlMs).Valid)
    (hh : s.storage.row.holder = some (js owner))
    (ht : s.storage.row.token = some (numeral current))
    (he : s.storage.row.expiresMs = some expires) (hreq : s.storage.row.requestId = none)
    (hstore : lookup now s.store lockKey = some (leaseEntry owner current expires))
    (hlt : now < expires) :
    Simulates lockKey fenceKey times now s (.renew holder token ttlMs) := by
  obtain ⟨ha, hrow⟩ := authority_renew now s.storage hvalid
  rw [renewTransaction_live hh ht he hlt] at ha hrow
  have hr := redis_renew holder token hvalid.2.2.1 hvalid.2.2.2 hstore
  by_cases hsame : owner = holder ∧ current = token
  · rw [if_pos hsame] at ha hrow hr
    refine ⟨.renewed (now + ttlMs), ?_, ?_, ?_⟩
    · simp only [onAuthority, ha, ofRenew]
    · simp only [onRedis, hr, ofRenewReply]
    · simp only [onAuthority, onRedis, hr]
      obtain ⟨n, hcounter⟩ := h.counter
      constructor
      · refine ⟨n, ?_, ?_, hcounter.bound⟩
        · rw [hrow]
          exact hcounter.authority
        · change put s.store lockKey _ fenceKey = _
          rw [put_of_ne _ _ hkeys.symm, hcounter.redis]
      · change SameLease _ (Authority.renew _ now s.storage).2.row _
        rw [hrow]
        exact .stored owner current (now + ttlMs) hh ht rfl hreq (put_same _ _ _)
  · rw [if_neg hsame] at ha hrow hr
    refine ⟨.notRenewed, ?_, ?_, ?_⟩
    · simp only [onAuthority, ha, ofRenew]
    · simp only [onRedis, hr, ofRenewReply]
    · simp only [onAuthority, onRedis, hr]
      exact h.unchanged hrow

theorem release_live {holder owner : String} {token current : Nat} {expires : Int}
    (hkeys : lockKey ≠ fenceKey) (h : Agree lockKey fenceKey times s)
    (hvalid : (Operation.release holder token).Valid)
    (hh : s.storage.row.holder = some (js owner))
    (ht : s.storage.row.token = some (numeral current))
    (he : s.storage.row.expiresMs = some expires)
    (hstore : lookup now s.store lockKey = some (leaseEntry owner current expires))
    (hlt : now < expires) :
    Simulates lockKey fenceKey times now s (.release holder token) := by
  obtain ⟨ha, hrow⟩ := authority_release now s.storage hvalid
  rw [releaseTransaction_live hh ht he hlt] at ha hrow
  have hr := redis_release holder token hstore
  by_cases hsame : owner = holder ∧ current = token
  · rw [if_pos hsame] at ha hrow hr
    refine ⟨.released, ?_, ?_, ?_⟩
    · simp only [onAuthority, ha, ofRelease]
    · simp only [onRedis, hr, ofReleaseReply, if_true]
    · simp only [onAuthority, onRedis, hr]
      obtain ⟨n, hcounter⟩ := h.counter
      constructor
      · refine ⟨n, ?_, ?_, hcounter.bound⟩
        · rw [hrow]
          exact hcounter.authority
        · change del s.store lockKey fenceKey = _
          rw [del, Function.update_of_ne hkeys.symm, hcounter.redis]
      · change SameLease _ (Authority.release _ now s.storage).2.row _
        rw [hrow]
        refine .cleared rfl rfl rfl rfl ?_
        intro stale hentry
        change del s.store lockKey lockKey = some stale at hentry
        rw [del, Function.update_self] at hentry
        cases hentry
  · rw [if_neg hsame] at ha hrow hr
    refine ⟨.notReleased, ?_, ?_, ?_⟩
    · simp only [onAuthority, ha, ofRelease]
    · simp only [onRedis, hr, ofReleaseReply, Nat.zero_ne_one, if_false]
    · simp only [onAuthority, onRedis, hr]
      exact h.unchanged hrow

/-- One operation at a time no lease expires. -/
theorem Agree.simulates (hkeys : lockKey ≠ fenceKey) (h : Agree lockKey fenceKey times s)
    {operation : Operation} (hvalid : operation.Valid) (hfound : Found lockKey now s) :
    Simulates lockKey fenceKey times now s operation := by
  cases hfound with
  | live owner current expires hh ht he hreq hstore hlt =>
    cases operation with
    | acquire holder ttlMs => exact acquire_live h hvalid hh ht he hreq hstore hlt
    | renew holder token ttlMs => exact renew_live hkeys h hvalid hh ht he hreq hstore hlt
    | release holder token => exact release_live hkeys h hvalid hh ht he hstore hlt
  | absent hnone habsent =>
    cases operation with
    | acquire holder ttlMs => exact acquire_absent hkeys h hvalid hnone habsent
    | renew holder token ttlMs => exact renew_absent h hvalid hnone habsent
    | release holder token => exact release_absent h hvalid hnone habsent

theorem agree_fresh (lockKey fenceKey : Bytes) :
    Agree lockKey fenceKey [] ⟨Authority.fresh, Redis.empty⟩ := by
  refine ⟨⟨0, rfl, rfl, by decide⟩, .cleared rfl rfl rfl rfl ?_⟩
  intro stale hentry
  cases hentry

end Simulation

/-- Both authorities give every operation of a run the same answer: the same kind, the
same token and the same expiry. -/
theorem redis_refines_authority (lockKey fenceKey : Bytes) (hkeys : lockKey ≠ fenceKey)
    (ls : List Label) (s : State)
    (h : Exec (Step lockKey fenceKey) ⟨Authority.fresh, Redis.empty⟩ ls s)
    (hordered : ls.Pairwise fun a b => a.now ≤ b.now) :
    ∀ l ∈ ls, ∃ answer, l.authority = some answer ∧ l.redis = some answer := by
  have hrun : ls.Pairwise (fun a b => a.now ≤ b.now) →
      Agree lockKey fenceKey (ls.map Label.now) s ∧
      ∀ l ∈ ls, ∃ answer, l.authority = some answer ∧ l.redis = some answer := by
    refine h.invariant (I := fun ls s => ls.Pairwise (fun a b => a.now ≤ b.now) →
      Agree lockKey fenceKey (ls.map Label.now) s ∧
      ∀ l ∈ ls, ∃ answer, l.authority = some answer ∧ l.redis = some answer) ?_ ?_
    · intro _
      exact ⟨agree_fresh lockKey fenceKey, by simp⟩
    · intro ls t l u _ hi hstep hpairwise
      rw [List.pairwise_append] at hpairwise
      obtain ⟨hpast, _, hlast⟩ := hpairwise
      obtain ⟨hagree, hanswers⟩ := hi hpast
      cases hstep with
      | run operation now hvalid hnow =>
        have hlater : ∀ time ∈ ls.map Label.now, time ≤ now := by
          intro time htime
          obtain ⟨l, hl, rfl⟩ := List.mem_map.mp htime
          exact hlast l hl _ (List.mem_singleton.mpr rfl)
        obtain ⟨answer, ha, hr, hafter⟩ :=
          hagree.simulates hkeys hvalid (hagree.found hlater hnow)
        refine ⟨by simpa using hafter, ?_⟩
        intro l hl
        rcases List.mem_append.mp hl with hl | hl
        · exact hanswers l hl
        · rw [List.mem_singleton] at hl
          subst hl
          exact ⟨answer, ha, hr⟩
  exact (hrun hordered).2

theorem Step.answered {lockKey fenceKey : Bytes} {s : State} {operation : Operation} {now : Int}
    {authority redis : Option Answer} (hvalid : operation.Valid)
    (hnow : s.storage.row.expiresMs ≠ some now)
    (ha : (onAuthority now s.storage operation).1 = authority)
    (hr : (onRedis lockKey fenceKey now s.store operation).1 = redis) :
    Step lockKey fenceKey s ⟨operation, now, authority, redis⟩
      ⟨(onAuthority now s.storage operation).2,
        (onRedis lockKey fenceKey now s.store operation).2⟩ := by
  subst ha hr
  exact .run operation now hvalid hnow

def sampleKeys : Bytes × Bytes := redisKeys (utf8 "ores-locks") (js "k")

def sampleRun : List Label :=
  [⟨.acquire "a" 1000, 5, some (.acquired (numeral 1) false 1005),
      some (.acquired (numeral 1) false 1005)⟩,
    ⟨.acquire "b" 10, 6, some (.contended 1005), some (.contended 1005)⟩,
    ⟨.release "a" 1, 7, some .released, some .released⟩]

theorem sampleRun_agrees :
    (∃ s, Exec (Step sampleKeys.1 sampleKeys.2) ⟨Authority.fresh, Redis.empty⟩ sampleRun s) ∧
    ∀ l ∈ sampleRun, ∃ answer, l.authority = some answer ∧ l.redis = some answer := by
  have hrun : ∃ s, Exec (Step sampleKeys.1 sampleKeys.2) ⟨Authority.fresh, Redis.empty⟩
      sampleRun s := by
    have hvalid : ∀ holder ∈ ["a", "b"], Authority.validHolder (.string (js holder)) = true := by
      decide
    have h₁ : Exec (Step sampleKeys.1 sampleKeys.2) ⟨Authority.fresh, Redis.empty⟩
        (sampleRun.take 1) _ :=
      .single (.answered ⟨hvalid "a" (by simp), by omega, by omega⟩ (by decide) rfl rfl)
    have h₂ : Exec _ _ (sampleRun.take 2) _ :=
      h₁.snoc (.answered ⟨hvalid "b" (by simp), by omega, by omega⟩ (by decide) rfl rfl)
    have h₃ : Exec _ _ (sampleRun.take 3) _ :=
      h₂.snoc (.answered ⟨hvalid "a" (by simp), by omega, by omega⟩ (by decide) rfl rfl)
    exact ⟨_, h₃⟩
  obtain ⟨s, h⟩ := hrun
  exact ⟨⟨s, h⟩, redis_refines_authority _ _ (redisKeys_ne _ _) sampleRun s h (by decide)⟩

end OresLocks.RedisLease
