import OresLocks.RedisLease

/-!
# What a failed acquire script leaves in Redis

`acquire.lua` with the overflow check of `PEXPIRE`, on any contents of its two keys and
any arguments. A command that fails ends the script and undoes nothing.
-/

namespace OresLocks.RedisLease

set_option autoImplicit false

open Shared.Numeral Shared.Utf8 Redis

/-- Expiry times are signed 64-bit milliseconds. -/
def maxExpiry : Int := 2 ^ 63 - 1

def invalidExpire : String := "ERR invalid expire time in 'pexpire' command"

/-- `PEXPIRE`; the time is checked before the key is looked up. -/
def expireChecked (now : Int) (lockKey ttlMs : Bytes) (written : Store) : Except String Store :=
  match integer ttlMs with
  | none => .error notInteger
  | some ms =>
    if maxExpiry < now + ms then .error invalidExpire
    else expireUnbounded now lockKey ttlMs written

/-- `acquire.lua`. -/
def acquireScript (now : Int) (lockKey fenceKey holder ttlMs : Bytes) (store : Store) :
    AcquireReply × Store :=
  acquireBy (expireChecked now lockKey ttlMs) now lockKey fenceKey holder store

/-- Within the range of expiry times the script does what it does without the check. -/
theorem acquireScript_in_range {now ms : Int} {ttlMs : Bytes} (lockKey fenceKey holder : Bytes)
    (store : Store) (hms : integer ttlMs = some ms) (hrange : now + ms ≤ maxExpiry) :
    acquireScript now lockKey fenceKey holder ttlMs store =
      acquire now lockKey fenceKey holder ttlMs store := by
  have hexpire : expireChecked now lockKey ttlMs = expireUnbounded now lockKey ttlMs := by
    funext written
    simp only [expireChecked, hms, if_neg (Int.not_lt.mpr hrange)]
  rw [acquireScript, acquire, hexpire]

/-- What ends the script before its writes. -/
inductive Refuses (now : Int) (lockKey fenceKey : Bytes) (store : Store) : Prop where
  | held (h : exists? now store lockKey = true)
  | wrongType (error : WrongType) (h : get now store fenceKey = .error error)
  | corrupt (stored : Option Bytes) (h : get now store fenceKey = .ok stored)
      (hcorrupt : ((stored.getD [0x30]).isEmpty || !isDigits (stored.getD [0x30])) = true)
  | exhausted (stored : Option Bytes) (h : get now store fenceKey = .ok stored)
      (hexhausted : isExhausted (nextToken (stored.getD [0x30])) = true)

/-- The text is a positive time to live that ends within the range of expiry times. -/
def Expires (now : Int) (ttlMs : Bytes) : Prop :=
  ∃ ms, integer ttlMs = some ms ∧ 0 < ms ∧ now + ms ≤ maxExpiry

/-- The lease hash has this holder and token and a positive time to live. -/
structure Leased (now : Int) (lockKey holder token : Bytes) (pttl : Int) (store : Store) : Prop where
  holder : hget now store lockKey holderField = .ok (some holder)
  token : hget now store lockKey tokenField = .ok (some token)
  expiry : Redis.pttl now store lockKey = pttl
  positive : 0 < pttl

/-- An error leaves both keys as they were, and a fresh grant is a lease that expires. -/
structure FailureAtomic (now : Int) (lockKey fenceKey holder : Bytes) (store : Store)
    (result : AcquireReply × Store) : Prop where
  error : ∀ message, result.1 = .error message →
    result.2 lockKey = store lockKey ∧ result.2 fenceKey = store fenceKey
  granted : ∀ token pttl, result.1 = .reply true token pttl false →
    Leased now lockKey holder token pttl result.2

section Script

variable {now : Int} {lockKey fenceKey holder token ttlMs : Bytes} {store written : Store}

theorem acquireExisting_not_fresh (pttl : Int) :
    acquireExisting now lockKey holder store ≠ .reply true token pttl false := by
  unfold acquireExisting
  intro h
  repeat' split at h
  all_goals cases h

/-- Either the script is refused and writes nothing, or it goes on to its writes. -/
theorem acquireBy_cases (expire : Store → Except String Store) (now : Int)
    (lockKey fenceKey holder : Bytes) (store : Store) :
    (Refuses now lockKey fenceKey store ∧
      (acquireBy expire now lockKey fenceKey holder store).2 = store ∧
      ∀ token pttl, (acquireBy expire now lockKey fenceKey holder store).1 ≠
        .reply true token pttl false) ∨
    (¬ Refuses now lockKey fenceKey store ∧ lookup now store lockKey = none ∧
      ∃ token, acquireBy expire now lockKey fenceKey holder store =
        acquireWriteBy expire now lockKey fenceKey holder token store) := by
  unfold acquireBy
  split
  · rename_i hexists
    exact .inl ⟨.held hexists, rfl, fun token pttl => acquireExisting_not_fresh pttl⟩
  rename_i hfree
  split
  · rename_i error hget
    exact .inl ⟨.wrongType error hget, rfl, fun _ _ h => by cases h⟩
  rename_i stored hget
  dsimp only
  split
  · rename_i hcorrupt
    exact .inl ⟨.corrupt stored hget hcorrupt, rfl, fun _ _ h => by cases h⟩
  rename_i hdecimal
  split
  · rename_i hexhausted
    exact .inl ⟨.exhausted stored hget hexhausted, rfl, fun _ _ h => by cases h⟩
  rename_i hbelow
  refine .inr ⟨?_, ?_, _, rfl⟩
  · intro hrefuses
    cases hrefuses with
    | held h => exact hfree h
    | wrongType error h =>
      rw [hget] at h
      cases h
    | corrupt stored' h hcorrupt =>
      rw [hget] at h
      cases h
      exact hdecimal hcorrupt
    | exhausted stored' h hexhausted =>
      rw [hget] at h
      cases h
      exact hbelow hexhausted
  · simpa [exists?] using hfree

/-- The new lease before it has an expiry. -/
def unexpiring (holder token : Bytes) : Entry :=
  ⟨.hash (insertAll ∅ [(holderField, holder), (tokenField, token)]), none⟩

theorem hset_free (hne : lockKey ≠ fenceKey) (hfree : lookup now store lockKey = none) :
    hset now (Redis.set store fenceKey token) lockKey [(holderField, holder), (tokenField, token)] =
      .ok (put (Redis.set store fenceKey token) lockKey (unexpiring holder token)) := by
  have hlookup : lookup now (Redis.set store fenceKey token) lockKey = none :=
    (lookup_put_of_ne now store _ hne).trans hfree
  simp only [hset, hlookup]
  rfl

theorem hset_same : hset now (Redis.set store lockKey token) lockKey
    [(holderField, holder), (tokenField, token)] = .error .wrongType := by
  simp [hset, Redis.set]

/-- Nothing that was absent has become an entry without an expiry. -/
theorem put_changes {value : Value} (hfree : lookup now store lockKey = none) :
    put written lockKey ⟨value, none⟩ lockKey ≠ store lockKey := by
  intro hsame
  rw [put_same] at hsame
  unfold lookup at hfree
  rw [← hsame] at hfree
  cases hfree

/-- The lease with its expiry. -/
def leasedEntry (holder token : Bytes) (expires : Int) : Entry :=
  { unexpiring holder token with expiresAt := some expires }

theorem leased_put (now : Int) (lockKey holder token : Bytes) (store : Store) {ms : Int}
    (hpositive : 0 < ms) :
    Leased now lockKey holder token ms
      (put store lockKey (leasedEntry holder token (now + ms))) := by
  have hlive : lookup now (put store lockKey (leasedEntry holder token (now + ms))) lockKey =
      some (leasedEntry holder token (now + ms)) := by
    have hlater : ¬ now + ms < now := by omega
    simp [lookup, leasedEntry, hlater]
  refine ⟨?_, ?_, ?_, hpositive⟩
  · simp only [hget, hlive]
    simp only [leasedEntry, unexpiring, insertAll, List.foldl_cons, List.foldl_nil]
    rw [Finmap.lookup_insert_of_ne _ holderField_ne_tokenField, Finmap.lookup_insert]
  · simp only [hget, hlive]
    simp only [leasedEntry, unexpiring, insertAll, List.foldl_cons, List.foldl_nil]
    rw [Finmap.lookup_insert]
  · simp only [pttl, hlive]
    simp only [leasedEntry]
    omega

/-- The writes of a free lease that has a key of its own and a time to live in range. -/
theorem write_expires (hne : lockKey ≠ fenceKey) (hfree : lookup now store lockKey = none)
    (hexpires : Expires now ttlMs) :
    FailureAtomic now lockKey fenceKey holder store
      (acquireWriteBy (expireChecked now lockKey ttlMs) now lockKey fenceKey holder token store) := by
  obtain ⟨ms, hms, hpositive, hrange⟩ := hexpires
  have hexpire : expireChecked now lockKey ttlMs
      (put (Redis.set store fenceKey token) lockKey (unexpiring holder token)) =
        .ok (put (Redis.set store fenceKey token) lockKey
          (leasedEntry holder token (now + ms))) := by
    simp [expireChecked, expireUnbounded, pexpire, hms, Int.not_lt.mpr hrange,
      Int.not_le.mpr hpositive, unexpiring, leasedEntry]
  have hleased := leased_put now lockKey holder token (Redis.set store fenceKey token) hpositive
  simp only [acquireWriteBy, hset_free hne hfree, hexpire, hleased.expiry]
  refine ⟨?_, ?_⟩
  · intro message herror
    cases herror
  · intro token' pttl hreply
    cases hreply
    exact hleased

/-- On the new lease, `PEXPIRE` fails or deletes it when the text is no time to live in range. -/
theorem expireChecked_unexpiring (store : Store) (lockKey holder token : Bytes)
    (hexpires : ¬ Expires now ttlMs) :
    (∃ message, expireChecked now lockKey ttlMs (put store lockKey (unexpiring holder token)) =
      .error message) ∨
    expireChecked now lockKey ttlMs (put store lockKey (unexpiring holder token)) =
      .ok (del (put store lockKey (unexpiring holder token)) lockKey) := by
  unfold expireChecked
  cases hms : integer ttlMs with
  | none => exact .inl ⟨_, rfl⟩
  | some ms =>
    dsimp only
    split
    · exact .inl ⟨_, rfl⟩
    · rename_i hrange
      have hdeletes : ms ≤ 0 := by
        by_contra hpositive
        exact hexpires ⟨ms, hms, by omega, by omega⟩
      refine .inr ?_
      simp [expireUnbounded, pexpire, hms, hdeletes, unexpiring]

/-- Then an error leaves the lease without an expiry, or the reply grants a lease that is
already gone. -/
theorem write_unexpiring (hne : lockKey ≠ fenceKey) (hfree : lookup now store lockKey = none)
    (hexpires : ¬ Expires now ttlMs) :
    ¬ FailureAtomic now lockKey fenceKey holder store
      (acquireWriteBy (expireChecked now lockKey ttlMs) now lockKey fenceKey holder token store) := by
  intro hatomic
  obtain ⟨message, hfails⟩ | hdeletes :=
    expireChecked_unexpiring (Redis.set store fenceKey token) lockKey holder token hexpires
  · simp only [acquireWriteBy, hset_free hne hfree, hfails] at hatomic
    exact put_changes hfree (hatomic.error message rfl).1
  · simp only [acquireWriteBy, hset_free hne hfree, hdeletes] at hatomic
    have hgone := (hatomic.granted _ _ rfl).positive
    simp [pttl, lookup, del] at hgone

/-- With one key for both, `HSET` fails on the counter that was just set. -/
theorem write_same_key (hfree : lookup now store lockKey = none)
    (expire : Store → Except String Store) :
    ¬ FailureAtomic now lockKey lockKey holder store
      (acquireWriteBy expire now lockKey lockKey holder token store) := by
  intro hatomic
  simp only [acquireWriteBy, hset_same] at hatomic
  exact put_changes hfree (hatomic.error wrongType rfl).1

end Script

/-- The acquire script leaves both keys alone when it fails, and grants a lease that
expires, exactly when it is refused before its writes, or has two keys and a positive
time to live in range. -/
theorem acquire_failure_atomic_iff (now : Int) (lockKey fenceKey holder ttlMs : Bytes)
    (store : Store) :
    FailureAtomic now lockKey fenceKey holder store
      (acquireScript now lockKey fenceKey holder ttlMs store) ↔
    Refuses now lockKey fenceKey store ∨ lockKey ≠ fenceKey ∧ Expires now ttlMs := by
  obtain ⟨hrefuses, hsame, hfresh⟩ | ⟨hwrites, hfree, token, hwrite⟩ :=
    acquireBy_cases (expireChecked now lockKey ttlMs) now lockKey fenceKey holder store
  · constructor
    · exact fun _ => .inl hrefuses
    · refine fun _ => ⟨fun message _ => ?_, fun token pttl hreply => ?_⟩
      · exact ⟨congrFun hsame lockKey, congrFun hsame fenceKey⟩
      · exact absurd hreply (hfresh token pttl)
  · rw [acquireScript, hwrite]
    constructor
    · intro hatomic
      have hne : lockKey ≠ fenceKey := by
        rintro rfl
        exact write_same_key hfree _ hatomic
      refine .inr ⟨hne, ?_⟩
      by_contra hexpires
      exact write_unexpiring hne hfree hexpires hatomic
    · rintro (hrefuses | ⟨hne, hexpires⟩)
      · exact absurd hrefuses hwrites
      · exact write_expires hne hfree hexpires

section Sample

/-- A time to live of 2^63 milliseconds. -/
def unboundedTtl : Bytes := utf8 "9223372036854775808"

theorem acquire_error_leaves_lease :
    ¬ ∀ (now : Int) (lockKey fenceKey holder ttlMs : Bytes) (store : Store),
      FailureAtomic now lockKey fenceKey holder store
        (acquireScript now lockKey fenceKey holder ttlMs store) := by
  intro h
  have hatomic := h 0 [0x61] [0x62] [0x78] unboundedTtl Redis.empty
  have herror : (acquireScript 0 [0x61] [0x62] [0x78] unboundedTtl Redis.empty).1 =
      .error notInteger := by rfl
  have hkeys := (hatomic.error notInteger herror).1
  cases hkeys

end Sample

end OresLocks.RedisLease
