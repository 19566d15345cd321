import OresLocks.RedisLeaseAtomicity
import OresLocks.RedisLeaseRefinement

/-!
# What histories of the lease scripts report as corruption

Any sequence of the three scripts on two keys that were absent at first. A key still
exists in the millisecond in which its time to live ends, and `PTTL` is 0 there.
-/

namespace OresLocks.RedisLease.Histories

set_option autoImplicit false

open Shared.Numeral Shared.Utf8 Shared.Runs Redis

inductive Call where
  | acquire (holder ttlMs : Bytes)
  | renew (holder token ttlMs : Bytes)
  | release (holder token : Bytes)
  deriving DecidableEq

/-- A time to live ends within the range of expiry times. -/
def Call.Valid (now : Int) : Call → Prop
  | .acquire _ ttlMs => Expires now ttlMs
  | .renew _ _ ttlMs => Expires now ttlMs
  | .release _ _ => True

inductive Reply where
  | acquired (reply : AcquireReply)
  | renewed (reply : RenewReply)
  | released (reply : ReleaseReply)
  deriving DecidableEq

def missingTtl : String := "ores-locks: active lease is missing a positive TTL"

def corruptLease : String := "ores-locks: corrupt active lease"

def corruptCounter : String := "ores-locks: corrupt decimal fencing counter"

/-- The answer of `acquire.lua` to keys it takes for corrupt. -/
def Reply.ReportsCorruption : Reply → Prop
  | .acquired (.error message) => message ∈ [missingTtl, corruptLease, corruptCounter]
  | _ => False

def execute (lockKey fenceKey : Bytes) (now : Int) (store : Store) : Call → Reply × Store
  | .acquire holder ttlMs =>
    let (reply, t) := acquireScript now lockKey fenceKey holder ttlMs store
    (.acquired reply, t)
  | .renew holder token ttlMs =>
    let (reply, t) := renew now lockKey holder token ttlMs store
    (.renewed reply, t)
  | .release holder token =>
    let (reply, t) := release now lockKey holder token store
    (.released reply, t)

/-- One call with its time and its reply. -/
structure Label where
  call : Call
  now : Int
  reply : Reply

inductive Step (lockKey fenceKey : Bytes) (s : Store) : Label → Store → Prop where
  | run (call : Call) (now : Int) : call.Valid now →
      Step lockKey fenceKey s ⟨call, now, (execute lockKey fenceKey now s call).1⟩
        (execute lockKey fenceKey now s call).2

/-- An acquisition in the very millisecond in which the stored lease expires. -/
def AtExpiry (lockKey : Bytes) (s : Store) (label : Label) : Prop :=
  (∃ holder ttlMs, label.call = .acquire holder ttlMs) ∧
    ∃ entry, s lockKey = some entry ∧ entry.expiresAt = some label.now

/-- What the scripts leave: no lease or one with all its fields, and a decimal counter. -/
structure Sound (lockKey fenceKey : Bytes) (s : Store) : Prop where
  lease : s lockKey = none ∨
    ∃ holder token expires, s lockKey = some (leasedEntry holder token expires)
  counter : ∃ n, s fenceKey = if n = 0 then none else some ⟨.string (numeral n), none⟩

section Calls

variable {lockKey fenceKey holder token owner current ttlMs : Bytes} {now expires : Int}
  {s : Store}

theorem hget_leased (h : lookup now s lockKey = some (leasedEntry owner current expires)) :
    hget now s lockKey holderField = .ok (some owner) ∧
      hget now s lockKey tokenField = .ok (some current) := by
  constructor
  · simp only [hget, h, leasedEntry, unexpiring, insertAll, List.foldl_cons, List.foldl_nil]
    rw [Finmap.lookup_insert_of_ne _ holderField_ne_tokenField, Finmap.lookup_insert]
  · simp only [hget, h, leasedEntry, unexpiring, insertAll, List.foldl_cons, List.foldl_nil]
    rw [Finmap.lookup_insert]

/-- A stored lease is gone after its expiry, and there up to it. -/
theorem lookup_leased (now : Int) (h : s lockKey = some (leasedEntry owner current expires)) :
    expires < now ∧ lookup now s lockKey = none ∨
      now ≤ expires ∧ lookup now s lockKey = some (leasedEntry owner current expires) := by
  rcases Int.lt_or_le expires now with hlt | hle
  · exact .inl ⟨hlt, by simp [lookup, h, leasedEntry, hlt]⟩
  · exact .inr ⟨hle, by simp [lookup, h, leasedEntry, Int.not_lt.mpr hle]⟩

theorem Sound.lookup_cases (h : Sound lockKey fenceKey s) (now : Int) :
    lookup now s lockKey = none ∧ (∀ entry, s lockKey = some entry → entry.expiresAt ≠ some now) ∨
    ∃ owner current expires, s lockKey = some (leasedEntry owner current expires) ∧
      now ≤ expires ∧ lookup now s lockKey = some (leasedEntry owner current expires) := by
  obtain hnone | ⟨owner, current, expires, hstored⟩ := h.lease
  · refine .inl ⟨by simp [lookup, hnone], ?_⟩
    intro entry hentry
    rw [hnone] at hentry
    cases hentry
  obtain ⟨hlt, hgone⟩ | ⟨hle, hlive⟩ := lookup_leased now hstored
  · refine .inl ⟨hgone, ?_⟩
    intro entry hentry hnow
    rw [hstored] at hentry
    cases hentry
    cases hnow
    omega
  · exact .inr ⟨owner, current, expires, hstored, hle, hlive⟩

theorem Sound.get_counter (h : Sound lockKey fenceKey s) (now : Int) :
    ∃ n, Redis.get now s fenceKey = .ok (if n = 0 then none else some (numeral n)) := by
  obtain ⟨n, hn⟩ := h.counter
  refine ⟨n, ?_⟩
  unfold Redis.get lookup
  rw [hn]
  by_cases hzero : n = 0
  · simp [hzero]
  · simp [hzero]

theorem Sound.putLease (h : Sound lockKey fenceKey s) (hkeys : lockKey ≠ fenceKey) :
    Sound lockKey fenceKey (put s lockKey (leasedEntry holder token expires)) := by
  refine ⟨.inr ⟨holder, token, expires, put_same _ _ _⟩, ?_⟩
  rw [put_of_ne _ _ hkeys.symm]
  exact h.counter

theorem Sound.setCounter (h : Sound lockKey fenceKey s) (hkeys : lockKey ≠ fenceKey) (n : Nat) :
    Sound lockKey fenceKey (Redis.set s fenceKey (numeral (n + 1))) := by
  refine ⟨?_, n + 1, ?_⟩
  · rw [Redis.set, put_of_ne _ _ hkeys]
    exact h.lease
  · rw [Redis.set, put_same, if_neg (Nat.succ_ne_zero n)]

theorem Sound.delLease (h : Sound lockKey fenceKey s) (hkeys : lockKey ≠ fenceKey) :
    Sound lockKey fenceKey (del s lockKey) := by
  refine ⟨.inl (Function.update_self _ _ _), ?_⟩
  rw [del, Function.update_of_ne hkeys.symm]
  exact h.counter

/-- Without a lease the script grants one, unless the counter is exhausted. -/
theorem acquire_free (hkeys : lockKey ≠ fenceKey) (h : Sound lockKey fenceKey s)
    (hexpires : Expires now ttlMs) (hfree : lookup now s lockKey = none) :
    Sound lockKey fenceKey (acquireScript now lockKey fenceKey holder ttlMs s).2 ∧
      ¬ (Reply.acquired (acquireScript now lockKey fenceKey holder ttlMs s).1).ReportsCorruption := by
  obtain ⟨n, hget⟩ := h.get_counter now
  have hexists : exists? now s lockKey = false := by simp [exists?, hfree]
  by_cases hlimit : isExhausted (numeral (n + 1)) = true
  · have hreply : acquireScript now lockKey fenceKey holder ttlMs s = (.error exhausted, s) := by
      unfold acquireScript acquireBy
      simp only [hexists, Bool.false_eq_true, if_false, hget, counter_text, counter_accepted,
        nextToken_numeral, hlimit, if_true]
    rw [hreply]
    exact ⟨h, by simp [Reply.ReportsCorruption, exhausted, missingTtl, corruptLease, corruptCounter]⟩
  · obtain ⟨ms, hms, hpositive, hrange⟩ := hexpires
    have hexpire : expireChecked now lockKey ttlMs
        (put (Redis.set s fenceKey (numeral (n + 1))) lockKey
          (unexpiring holder (numeral (n + 1)))) =
        .ok (put (Redis.set s fenceKey (numeral (n + 1))) lockKey
          (leasedEntry holder (numeral (n + 1)) (now + ms))) := by
      simp [expireChecked, expireUnbounded, pexpire, hms, Int.not_lt.mpr hrange,
        Int.not_le.mpr hpositive, unexpiring, leasedEntry]
    have hreply : acquireScript now lockKey fenceKey holder ttlMs s =
        (.reply true (numeral (n + 1)) (pttl now (put (Redis.set s fenceKey (numeral (n + 1))) lockKey
            (leasedEntry holder (numeral (n + 1)) (now + ms))) lockKey) false,
          put (Redis.set s fenceKey (numeral (n + 1))) lockKey
            (leasedEntry holder (numeral (n + 1)) (now + ms))) := by
      unfold acquireScript acquireBy
      simp only [hexists, Bool.false_eq_true, if_false, hget, counter_text, counter_accepted,
        nextToken_numeral, if_neg hlimit, acquireWriteBy, hset_free hkeys hfree, hexpire]
    rw [hreply]
    exact ⟨(h.setCounter hkeys n).putLease hkeys, not_false⟩

/-- With a lease the script changes nothing, and takes one that expires now for corrupt. -/
theorem acquire_held (fenceKey holder ttlMs : Bytes)
    (h : lookup now s lockKey = some (leasedEntry owner current expires)) (hle : now ≤ expires) :
    (acquireScript now lockKey fenceKey holder ttlMs s).2 = s ∧
      ((Reply.acquired (acquireScript now lockKey fenceKey holder ttlMs s).1).ReportsCorruption ↔
        expires = now) := by
  have hexists : exists? now s lockKey = true := by simp [exists?, h]
  have hpttl : pttl now s lockKey = expires - now := by simp only [pttl, h, leasedEntry]
  obtain ⟨hholder, htoken⟩ := hget_leased h
  have hreply : acquireScript now lockKey fenceKey holder ttlMs s =
      (acquireExisting now lockKey holder s, s) := by
    unfold acquireScript acquireBy
    rw [if_pos hexists]
  rw [hreply]
  refine ⟨rfl, ?_⟩
  unfold acquireExisting
  rw [hpttl]
  split
  · rename_i hends
    exact ⟨fun _ => by omega, fun _ => List.mem_cons_self⟩
  · rename_i hlater
    simp only [hholder, htoken]
    split
    · exact ⟨False.elim, fun heq => absurd heq (by omega)⟩
    · exact ⟨False.elim, fun heq => absurd heq (by omega)⟩

/-- A renewal leaves the store, or the lease with a later expiry. -/
theorem renew_sound (hkeys : lockKey ≠ fenceKey) (h : Sound lockKey fenceKey s)
    (hexpires : Expires now ttlMs) :
    Sound lockKey fenceKey (renew now lockKey holder token ttlMs s).2 := by
  obtain ⟨hnone, _⟩ | ⟨owner, current, expires, _, _, hlive⟩ := h.lookup_cases now
  · simp only [renew, hget_absent hnone]
    rw [if_pos (by simp)]
    exact h
  obtain ⟨hholder, htoken⟩ := hget_leased hlive
  obtain ⟨ms, hms, hpositive, _⟩ := hexpires
  simp only [renew, hholder, htoken]
  split
  · exact h
  split
  · exact h
  · simp only [pexpire, hms, hlive, if_neg (Int.not_le.mpr hpositive)]
    exact h.putLease hkeys

theorem release_sound (hkeys : lockKey ≠ fenceKey) (h : Sound lockKey fenceKey s) :
    Sound lockKey fenceKey (release now lockKey holder token s).2 := by
  obtain ⟨hnone, _⟩ | ⟨owner, current, expires, _, _, hlive⟩ := h.lookup_cases now
  · simp only [release, hget_absent hnone]
    rw [if_pos (by simp)]
    exact h
  obtain ⟨hholder, htoken⟩ := hget_leased hlive
  simp only [release, hholder, htoken]
  split
  · exact h
  split
  · exact h
  split
  · exact h.delLease hkeys
  · exact h

theorem Sound.step {t : Store} {label : Label} (hkeys : lockKey ≠ fenceKey)
    (h : Sound lockKey fenceKey s) (hs : Step lockKey fenceKey s label t) :
    Sound lockKey fenceKey t := by
  cases hs with
  | run call now hvalid =>
    cases call with
    | acquire holder ttlMs =>
      obtain ⟨hfree, _⟩ | ⟨_, _, _, _, hle, hlive⟩ := h.lookup_cases now
      · exact (acquire_free hkeys h hvalid hfree).1
      · have hsame := (acquire_held fenceKey holder ttlMs hlive hle).1
        change Sound lockKey fenceKey (acquireScript now lockKey fenceKey holder ttlMs s).2
        rw [hsame]
        exact h
    | renew holder token ttlMs => exact renew_sound hkeys h hvalid
    | release holder token => exact release_sound hkeys h

/-- A call reports corruption only in the millisecond the stored lease expires. -/
theorem Sound.reports_iff {t : Store} {label : Label} (hkeys : lockKey ≠ fenceKey)
    (h : Sound lockKey fenceKey s) (hs : Step lockKey fenceKey s label t) :
    label.reply.ReportsCorruption ↔ AtExpiry lockKey s label := by
  cases hs with
  | run call now hvalid =>
    cases call with
    | acquire holder ttlMs =>
      obtain ⟨hfree, hlater⟩ | ⟨_, _, expires, hstored, hle, hlive⟩ := h.lookup_cases now
      · constructor
        · exact fun hreports => absurd hreports (acquire_free hkeys h hvalid hfree).2
        · rintro ⟨_, entry, hentry, hnow⟩
          exact absurd hnow (hlater entry hentry)
      · refine (acquire_held fenceKey holder ttlMs hlive hle).2.trans ?_
        constructor
        · rintro rfl
          exact ⟨⟨holder, ttlMs, rfl⟩, _, hstored, rfl⟩
        · rintro ⟨_, entry, hentry, hnow⟩
          rw [hstored] at hentry
          cases hentry
          exact Option.some.inj hnow
    | renew holder token ttlMs =>
      refine ⟨False.elim, ?_⟩
      rintro ⟨⟨_, _, hcall⟩, _⟩
      cases hcall
    | release holder token =>
      refine ⟨False.elim, ?_⟩
      rintro ⟨⟨_, _, hcall⟩, _⟩
      cases hcall

theorem sound_of_exec {ls : List Label} {start t : Store} (hkeys : lockKey ≠ fenceKey)
    (hlease : start lockKey = none) (hcounter : start fenceKey = none)
    (h : Exec (Step lockKey fenceKey) start ls t) : Sound lockKey fenceKey t :=
  h.stateInvariant ⟨.inl hlease, 0, hcounter⟩ fun hsound hs => hsound.step hkeys hs

end Calls

/-- In a history of the scripts on keys that were absent at first, no acquisition answers
that the lease or the counter is corrupt, exactly when none is made in the millisecond in
which the stored lease expires. -/
theorem acquire_reports_no_corruption_iff (lockKey fenceKey : Bytes) (hkeys : lockKey ≠ fenceKey)
    (start t : Store) (hlease : start lockKey = none) (hcounter : start fenceKey = none)
    (ls : List Label) (h : Exec (Step lockKey fenceKey) start ls t) :
    (∀ label ∈ ls, ¬ label.reply.ReportsCorruption) ↔
    (∀ pre label post s, ls = pre ++ label :: post → Exec (Step lockKey fenceKey) start pre s →
      ¬ AtExpiry lockKey s label) := by
  constructor
  · intro hnone pre label post s hls hs hexpiry
    obtain ⟨s', u, hs', hstep, _⟩ := (hls ▸ h).split_at
    have hone : s' = s := by
      apply Exec.unique ?_ hs' hs
      rintro a e b b' ⟨call, now, _⟩ hb'
      cases hb'
      rfl
    subst hone
    have hsound := sound_of_exec hkeys hlease hcounter hs
    exact hnone label (by simp [hls]) ((hsound.reports_iff hkeys hstep).mpr hexpiry)
  · intro hall label hmem hreports
    obtain ⟨pre, post, hls⟩ := List.append_of_mem hmem
    obtain ⟨s, u, hs, hstep, _⟩ := (hls ▸ h).split_at
    have hsound := sound_of_exec hkeys hlease hcounter hs
    exact hall pre label post s hls hs ((hsound.reports_iff hkeys hstep).mp hreports)

section Sample

/-- A lease of ten milliseconds, and an acquisition by another holder after `wait`. -/
def contendedRun (wait : Int) (reply : AcquireReply) : List Label :=
  [⟨.acquire [0x78] [0x31, 0x30], 0, .acquired (.reply true [0x31] 10 false)⟩,
    ⟨.acquire [0x79] [0x31, 0x30], wait, .acquired reply⟩]

theorem contendedRun_exec (wait : Int) (reply : AcquireReply) (hwait : wait ≤ 10)
    (hreply : (execute [0x61] [0x62] wait (execute [0x61] [0x62] 0 Redis.empty
      (.acquire [0x78] [0x31, 0x30])).2 (.acquire [0x79] [0x31, 0x30])).1 = .acquired reply) :
    ∃ t, Exec (Step [0x61] [0x62]) Redis.empty (contendedRun wait reply) t := by
  have hexpires : ∀ now : Int, now ≤ 10 → Expires now [0x31, 0x30] := by
    intro now hnow
    exact ⟨10, by decide, by decide, by unfold maxExpiry; omega⟩
  have hfirst : Step [0x61] [0x62] Redis.empty
      ⟨.acquire [0x78] [0x31, 0x30], 0, .acquired (.reply true [0x31] 10 false)⟩ _ :=
    .run (.acquire [0x78] [0x31, 0x30]) 0 (hexpires 0 (by decide))
  have hsecond : Step [0x61] [0x62] (execute [0x61] [0x62] 0 Redis.empty
      (.acquire [0x78] [0x31, 0x30])).2 ⟨.acquire [0x79] [0x31, 0x30], wait, _⟩ _ :=
    .run (.acquire [0x79] [0x31, 0x30]) wait (hexpires wait hwait)
  rw [hreply] at hsecond
  exact ⟨_, (Exec.single hfirst).snoc hsecond⟩

theorem acquire_reports_expiring_lease :
    ¬ ∀ (lockKey fenceKey : Bytes) (start t : Store) (ls : List Label), lockKey ≠ fenceKey →
      start lockKey = none → start fenceKey = none →
      (ls.Pairwise fun a b => a.now ≤ b.now) → Exec (Step lockKey fenceKey) start ls t →
      ∀ label ∈ ls, ¬ label.reply.ReportsCorruption := by
  intro h
  obtain ⟨t, hrun⟩ := contendedRun_exec 10 (.error missingTtl) (by decide) rfl
  exact h [0x61] [0x62] Redis.empty t _ (by decide) rfl rfl (by decide) hrun
    ⟨.acquire [0x79] [0x31, 0x30], 10, .acquired (.error missingTtl)⟩ (by simp [contendedRun])
    List.mem_cons_self

theorem contendedRun_reports_nothing :
    ∃ t, Exec (Step [0x61] [0x62]) Redis.empty (contendedRun 3 (.reply false [] 7 false)) t ∧
    ((∀ label ∈ contendedRun 3 (.reply false [] 7 false), ¬ label.reply.ReportsCorruption) ↔
    (∀ pre label post s, contendedRun 3 (.reply false [] 7 false) = pre ++ label :: post →
      Exec (Step [0x61] [0x62]) Redis.empty pre s → ¬ AtExpiry [0x61] s label)) := by
  obtain ⟨t, hrun⟩ := contendedRun_exec 3 (.reply false [] 7 false) (by decide) rfl
  exact ⟨t, hrun, acquire_reports_no_corruption_iff [0x61] [0x62] (by decide) Redis.empty t rfl rfl
    _ hrun⟩

end Sample

end OresLocks.RedisLease.Histories
