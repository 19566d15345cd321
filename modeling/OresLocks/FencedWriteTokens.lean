import OresLocks.FencedWriteSteps

/-!
# Tokens as texts

The texts the script accepts are the numerals of the unsigned 64-bit numbers, and
its comparison of two such texts is the comparison of the numbers. The number of a
stored token therefore never falls, whatever the calls send.
-/

namespace OresLocks.FencedWrite

set_option autoImplicit false

open Shared.Numeral Shared.Utf8 Redis

/-- The script's test for a leading zero, together with the digit test. -/
theorem isNumeral_bytes (s : Bytes) : isNumeral s = true ↔
    s.length ≠ 0 ∧ ¬ (1 < s.length ∧ s.head? = some 0x30) ∧ isDigits s = true := by
  cases s with
  | nil => simp [isNumeral]
  | cons b s =>
    have hz := value_eq_zero_byte b
    simp only [isNumeral, Bool.and_eq_true, Bool.or_eq_true, List.isEmpty_iff, bne_iff_ne, ne_eq,
      hz, List.length_cons, List.head?_cons, Option.some.injEq]
    cases s with
    | nil => simp
    | cons c s =>
      simp only [List.length_cons, List.cons_ne_nil, false_or]
      constructor
      · intro h
        exact ⟨by omega, fun hb => h.2 hb.2, h.1⟩
      · intro h
        exact ⟨h.2.2, fun hb => h.2.1 ⟨by omega, hb⟩⟩

theorem maxToken_eq : maxToken = numeral (2 ^ 64 - 1) := by decide

theorem maxToken_lt {n : Nat} (h : (numeral n : Bytes).length = 20) :
    maxToken < numeral n ↔ 2 ^ 64 ≤ n := by
  have hl : (numeral (2 ^ 64 - 1) : Bytes).length = (numeral n : Bytes).length := by
    rw [h]
    decide
  rw [maxToken_eq, lex_iff_natOf_lt byte_lt_iff (isDigits_numeral _) (isDigits_numeral _) hl,
    natOf_numeral, natOf_numeral]
  omega

theorem canonicalToken_numeral_iff (n : Nat) :
    canonicalToken (numeral n) = true ↔ n < 2 ^ 64 := by
  have hn := (isNumeral_bytes (numeral n)).mp (isNumeral_numeral n)
  obtain ⟨hne, hzero, hdigits⟩ := hn
  rw [isDigits_bytes] at hdigits
  unfold canonicalToken
  constructor
  · intro h
    split at h
    · simp at h
    rename_i hlen
    simp only [hdigits, Bool.not_true, Bool.false_eq_true, if_false] at h
    split at h
    · simp at h
    rename_i hmax
    rcases Nat.lt_or_ge (numeral n : Bytes).length 20 with hlt | hge
    · have hv := natOf_lt (numeral n : Bytes)
      have hp : 10 ^ (numeral n : Bytes).length ≤ 10 ^ 19 :=
        Nat.pow_le_pow_right (by decide) (by omega)
      have h19 : 10 ^ 19 < 2 ^ 64 := by decide
      rw [natOf_numeral] at hv
      omega
    · have h20 : (numeral n : Bytes).length = 20 := by omega
      by_contra hn
      exact hmax ⟨h20, (maxToken_lt h20).mpr (by omega)⟩
  · intro h
    have hl : (numeral n : Bytes).length ≤ 20 := length_numeral_le (by decide) (by omega)
    have hmax : ¬ ((numeral n : Bytes).length = 20 ∧ maxToken < numeral n) := by
      intro hm
      have := (maxToken_lt hm.1).mp hm.2
      omega
    rw [if_neg (by omega), if_neg hzero, hdigits, if_neg hmax]
    rfl

/-- The accepted token texts are the numerals of unsigned 64-bit numbers. -/
theorem canonicalToken_iff (value : Bytes) :
    canonicalToken value = true ↔ ∃ n, n < 2 ^ 64 ∧ value = numeral n := by
  constructor
  · intro h
    have hn : isNumeral value = true := by
      rw [isNumeral_bytes, isDigits_bytes]
      unfold canonicalToken at h
      split at h
      · simp at h
      rename_i hlen
      split at h
      · simp at h
      rename_i hzero
      split at h
      · simp at h
      rename_i hdigits
      exact ⟨by omega, hzero, by simpa using hdigits⟩
    obtain ⟨n, rfl⟩ := (isNumeral_iff value).mp hn
    exact ⟨n, (canonicalToken_numeral_iff n).mp h, rfl⟩
  · intro h
    obtain ⟨n, hn, rfl⟩ := h
    exact (canonicalToken_numeral_iff n).mpr hn

theorem compareDecimal_numeral (m n : Nat) :
    compareDecimal (numeral m) (numeral n) = compare m n := by
  have hm := isNumeral_numeral (α := UInt8) m
  have hn := isNumeral_numeral (α := UInt8) n
  unfold compareDecimal
  split
  · rename_i hl
    have h := natOf_lt_of_length_lt hm hn hl
    simp only [natOf_numeral] at h
    exact (Nat.compare_eq_lt.mpr h).symm
  split
  · rename_i hl
    have h := natOf_lt_of_length_lt hn hm hl
    simp only [natOf_numeral] at h
    exact (Nat.compare_eq_gt.mpr h).symm
  rename_i h1 h2
  have hl : (numeral m : Bytes).length = (numeral n : Bytes).length := by omega
  have hd := isDigits_numeral (α := UInt8)
  have hlt := lex_iff_natOf_lt byte_lt_iff (hd m) (hd n) hl
  have hgt := lex_iff_natOf_lt byte_lt_iff (hd n) (hd m) hl.symm
  simp only [natOf_numeral] at hlt hgt
  split
  · rename_i h
    exact (Nat.compare_eq_lt.mpr (hlt.mp h)).symm
  split
  · rename_i h
    exact (Nat.compare_eq_gt.mpr (hgt.mp h)).symm
  rename_i h3 h4
  rw [hlt] at h3
  rw [hgt] at h4
  exact (Nat.compare_eq_eq.mpr (by omega)).symm

theorem natOf_lt_of_compareDecimal {left right : Bytes} (hl : canonicalToken left = true)
    (hr : canonicalToken right = true) (h : compareDecimal left right = .gt) :
    natOf right < natOf left := by
  obtain ⟨m, _, rfl⟩ := (canonicalToken_iff left).mp hl
  obtain ⟨n, _, rfl⟩ := (canonicalToken_iff right).mp hr
  rw [compareDecimal_numeral] at h
  rw [natOf_numeral, natOf_numeral]
  exact Nat.compare_eq_gt.mp h

/-- The number of the token stored under a key. -/
def storedToken (store : Store) (key : Bytes) : Option Nat :=
  match store key with
  | some ⟨.hash fields, _⟩ => (fields.lookup fencingTokenField).map natOf
  | _ => none

/-- No key carries an expiry, as in every store the script alone has written. -/
def Persistent (store : Store) : Prop := ∀ key entry, store key = some entry → entry.expiresAt = none

theorem persistent_empty : Persistent Redis.empty := by
  intro key entry h
  simp [Redis.empty] at h

theorem Persistent.lookup {store : Store} (h : Persistent store) (now : Int) (key : Bytes) :
    lookup now store key = store key := by
  unfold Redis.lookup
  cases hs : store key with
  | none => rfl
  | some entry => simp [h key entry hs]

theorem storedToken_hash {store : Store} {key : Bytes} {w : Watermark} {expiresAt : Option Int}
    (h : store key = some ⟨.hash w.hash, expiresAt⟩) :
    storedToken store key = some (natOf w.fencingToken) := by
  unfold storedToken
  rw [h]
  simp [Watermark.hash]

section Steps

variable {now : Int} {keys argv : List Bytes} {store store' : Store} {reply : Reply}

theorem Advanced.persistent {r : Request} {expiresAt : Option Int} {previous : Bytes}
    (h : Advanced now keys argv store r expiresAt previous) (hp : Persistent store) :
    expiresAt = none := by
  cases h.ahead with
  | first _ _ he => exact he
  | newer hf _ =>
    have hw := hf.watermark
    rw [hp.lookup] at hw
    exact hp _ _ hw

theorem persistent_fencedWrite (hrun : fencedWrite now keys argv store = (reply, store'))
    (hp : Persistent store) : Persistent store' := by
  rcases fencedWrite_cases now keys argv store with ⟨_, _, hq⟩ | ⟨r, expiresAt, previous, hw⟩
  · rw [hq, Prod.mk.injEq] at hrun
    obtain ⟨_, rfl⟩ := hrun
    exact hp
  · rw [hw.result, Prod.mk.injEq] at hrun
    obtain ⟨_, rfl⟩ := hrun
    intro key entry hentry
    by_cases hs : key = r.stateKey
    · subst hs
      rw [apply_stateKey] at hentry
      cases hentry
      rfl
    by_cases hk : key = r.watermarkKey
    · subst hk
      rw [apply_watermarkKey _ _ _ hw.accepted.distinct] at hentry
      cases hentry
      exact hw.persistent hp
    · rw [apply_of_ne _ _ _ hk hs] at hentry
      exact hp key entry hentry

/-- One execution never lowers a stored token. -/
theorem storedToken_fencedWrite (hrun : fencedWrite now keys argv store = (reply, store'))
    (hp : Persistent store) {key : Bytes} {m : Nat} (h : storedToken store key = some m) :
    ∃ n, storedToken store' key = some n ∧ m ≤ n := by
  rcases fencedWrite_cases now keys argv store with ⟨_, _, hq⟩ | ⟨r, expiresAt, previous, hw⟩
  · rw [hq, Prod.mk.injEq] at hrun
    obtain ⟨_, rfl⟩ := hrun
    exact ⟨m, h, Nat.le_refl m⟩
  · rw [hw.result, Prod.mk.injEq] at hrun
    obtain ⟨_, rfl⟩ := hrun
    have hahead := hw.ahead
    by_cases hs : key = r.stateKey
    · subst hs
      exfalso
      cases hahead with
      | first _ hnone _ =>
        rw [hp.lookup] at hnone
        simp [storedToken, hnone] at h
      | newer hf _ =>
        obtain ⟨value, e, hstate⟩ := hf.state
        rw [hp.lookup] at hstate
        simp [storedToken, hstate] at h
    by_cases hk : key = r.watermarkKey
    · subst hk
      refine ⟨natOf r.incoming,
        storedToken_hash (apply_watermarkKey _ _ _ hw.accepted.distinct), ?_⟩
      cases hahead with
      | first hnone _ _ =>
        rw [hp.lookup] at hnone
        simp [storedToken, hnone] at h
      | newer hf hgt =>
        have hfound := hf.watermark
        rw [hp.lookup] at hfound
        rw [storedToken_hash hfound] at h
        cases h
        exact Nat.le_of_lt
          (natOf_lt_of_compareDecimal hw.accepted.incoming hf.valid.fencingToken hgt)
    · refine ⟨m, ?_, Nat.le_refl m⟩
      unfold storedToken
      rw [apply_of_ne _ _ _ hk hs]
      exact h

end Steps

end OresLocks.FencedWrite
