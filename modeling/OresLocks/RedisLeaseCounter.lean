import OresLocks.RedisLeaseAtomicity
import OresLocks.RedisLeaseTokens

/-!
# The counter as any stored text

A stored counter may have any length and any number of leading zeros. The loops of the
acquire script make its successor without them; a text with another byte ends the script.
-/

namespace OresLocks.RedisLease

set_option autoImplicit false

open Shared.Numeral Shared.Utf8 Redis

section Zeros

variable {counter : Bytes}

theorem natOf_zero_cons (digits : Bytes) : natOf (0x30 :: digits) = natOf digits := by
  have hzero : DigitAlphabet.value (0x30 : UInt8) = some 0 := rfl
  rw [natOf_cons, hzero, Option.getD_some, Nat.zero_mul, Nat.zero_add]

/-- What is left after the leading zeros has the same value; it is a numeral unless
nothing is left. -/
theorem dropWhile_zeros (h : isDigits counter = true) :
    natOf (counter.dropWhile (· == 0x30)) = natOf counter ∧
      (counter.dropWhile (· == 0x30) = [] ∨
        isNumeral (counter.dropWhile (· == 0x30)) = true) := by
  induction counter with
  | nil => exact ⟨rfl, Or.inl rfl⟩
  | cons byte digits ih =>
    have hall := h
    rw [isDigits_cons, Bool.and_eq_true] at hall
    by_cases hzero : byte = 0x30
    · subst hzero
      obtain ⟨hvalue, hleft⟩ := ih hall.2
      rw [List.dropWhile_cons_of_pos (by rfl), natOf_zero_cons]
      exact ⟨hvalue, hleft⟩
    · have hhead : DigitAlphabet.value byte ≠ some 0 := by
        rw [Ne, value_eq_zero_byte]
        exact hzero
      rw [List.dropWhile_cons_of_neg (by simpa using hzero)]
      refine ⟨rfl, Or.inr ?_⟩
      simp [isNumeral, h, hhead]

theorem stripZeros_digits (h : isDigits counter = true) :
    stripZeros counter = numeral (natOf counter) := by
  obtain ⟨hvalue, hleft⟩ := dropWhile_zeros h
  unfold stripZeros
  dsimp only
  rcases hleft with hnone | hnumeral
  · have hzero : (numeral 0 : Bytes) = [0x30] := by rfl
    rw [hnone, natOf_nil] at hvalue
    rw [hnone, ← hvalue, hzero]
    rfl
  · have hne : counter.dropWhile (· == 0x30) ≠ [] := by
      intro hnone
      rw [hnone] at hnumeral
      cases hnumeral
    rw [if_neg (by simpa using hne), ← hvalue, numeral_natOf hnumeral]

theorem nextToken_digits (h : isDigits counter = true) :
    nextToken counter = numeral (natOf counter + 1) := by
  rw [nextToken, stripZeros_digits h, addCarry_one, List.reverse_reverse]

end Zeros

section Script

variable {now : Int} {lockKey fenceKey holder ttlMs token : Bytes} {store written expiring : Store}
  {stored : Option Bytes}

theorem expire_error {message : String}
    (h : expireChecked now lockKey ttlMs written = .error message) :
    message = notInteger ∨ message = invalidExpire := by
  unfold expireChecked expireUnbounded at h
  repeat' split at h
  all_goals cases h
  · exact Or.inl rfl
  · exact Or.inr rfl
  · exact Or.inl rfl

/-- `PEXPIRE` touches no key but its own. -/
theorem pexpire_frame (h : pexpire now written lockKey ttlMs = some expiring) {key : Bytes}
    (hne : key ≠ lockKey) : expiring key = written key := by
  unfold pexpire at h
  repeat' split at h
  all_goals cases h
  · rfl
  · exact Function.update_of_ne hne _ _
  · exact put_of_ne written _ hne

theorem expire_frame (h : expireChecked now lockKey ttlMs written = .ok expiring) {key : Bytes}
    (hne : key ≠ lockKey) : expiring key = written key := by
  unfold expireChecked expireUnbounded at h
  split at h
  · cases h
  split at h
  · cases h
  split at h
  · cases h
  · rename_i hexpiring
    cases h
    exact pexpire_frame hexpiring hne

/-- Once the writes have begun, no error says that the tokens are used up. -/
theorem acquireWrite_not_exhausted :
    (acquireWriteBy (expireChecked now lockKey ttlMs) now lockKey fenceKey holder token store).1 ≠
      .error exhausted := by
  intro h
  unfold acquireWriteBy at h
  split at h
  · exact absurd (AcquireReply.error.inj h) (by decide)
  split at h
  · rename_i message hexpire
    rw [AcquireReply.error.inj h] at hexpire
    rcases expire_error hexpire with hsame | hsame
    · exact absurd hsame (by decide)
    · exact absurd hsame (by decide)
  · cases h

/-- The counter is the first write, and no later command undoes it. -/
theorem acquireWrite_counter (hfree : lookup now store lockKey = none) :
    (acquireWriteBy (expireChecked now lockKey ttlMs) now lockKey fenceKey holder token store).2
      fenceKey = some ⟨.string token, none⟩ := by
  by_cases hne : lockKey = fenceKey
  · subst hne
    simp only [acquireWriteBy, hset_same]
    exact put_same store lockKey _
  have hcounter : put (Redis.set store fenceKey token) lockKey (unexpiring holder token) fenceKey =
      some ⟨.string token, none⟩ := by
    rw [put_of_ne _ _ (Ne.symm hne)]
    exact put_same store fenceKey _
  simp only [acquireWriteBy, hset_free hne hfree]
  split
  · exact hcounter
  · rename_i hexpire
    exact (expire_frame hexpire (Ne.symm hne)).trans hcounter

theorem acquireWrite_token {granted : Bytes} {pttl : Int} {replayed : Bool}
    (h : (acquireWriteBy (expireChecked now lockKey ttlMs) now lockKey fenceKey holder token
      store).1 = .reply true granted pttl replayed) : granted = token := by
  unfold acquireWriteBy at h
  split at h
  · cases h
  split at h
  · cases h
  · cases h
    rfl

/-- What `acquire.lua` does where no lease key exists. -/
theorem acquireScript_free (hfree : exists? now store lockKey = false)
    (hstored : get now store fenceKey = .ok stored) :
    acquireScript now lockKey fenceKey holder ttlMs store =
      if (stored.getD [0x30]).isEmpty || !isDigits (stored.getD [0x30]) then
        (.error "ores-locks: corrupt decimal fencing counter", store)
      else if isExhausted (nextToken (stored.getD [0x30])) then (.error exhausted, store)
      else acquireWriteBy (expireChecked now lockKey ttlMs) now lockKey fenceKey holder
        (nextToken (stored.getD [0x30])) store := by
  unfold acquireScript acquireBy
  rw [hfree, hstored]
  rfl

end Script

/-- Where no lease key exists, the script makes the successor of any decimal counter, as
its shortest numeral, and refuses it exactly when it is past the largest exact JSON
integer. Any other text is reported as corrupt. An absent counter is the text `0`. -/
theorem acquire_counts (now : Int) (lockKey fenceKey holder ttlMs : Bytes) (store : Store)
    {stored : Option Bytes} (hfree : exists? now store lockKey = false)
    (hstored : get now store fenceKey = .ok stored) :
    let counter := stored.getD [0x30]
    let answer := acquireScript now lockKey fenceKey holder ttlMs store
    (counter ≠ [] ∧ (∀ byte ∈ counter, 0x30 ≤ byte ∧ byte ≤ 0x39) →
      nextToken counter = numeral (natOf counter + 1) ∧
      (answer.1 = .error exhausted ↔ 9007199254740991 < natOf counter + 1) ∧
      (natOf counter + 1 ≤ 9007199254740991 →
        answer.2 fenceKey = some ⟨.string (numeral (natOf counter + 1)), none⟩) ∧
      ∀ token pttl replayed, answer.1 = .reply true token pttl replayed →
        token = numeral (natOf counter + 1)) ∧
    (¬ (counter ≠ [] ∧ (∀ byte ∈ counter, 0x30 ≤ byte ∧ byte ≤ 0x39)) →
      answer = (.error "ores-locks: corrupt decimal fencing counter", store)) := by
  intro counter answer
  have hanswer : answer = _ := acquireScript_free hfree hstored
  have hlookup : lookup now store lockKey = none := by simpa [exists?] using hfree
  have hdecimal : (counter.isEmpty || !isDigits counter) = false ↔
      counter ≠ [] ∧ ∀ byte ∈ counter, 0x30 ≤ byte ∧ byte ≤ 0x39 := by
    simp [isDigits_bytes]
  constructor
  · intro hcounter
    have hdigits : isDigits counter = true := by
      rw [isDigits_bytes]
      simpa using hcounter.2
    have hnext := nextToken_digits hdigits
    rw [if_neg (by rw [hdecimal.mpr hcounter]; simp)] at hanswer
    refine ⟨hnext, ?_⟩
    by_cases hover : 9007199254740991 < natOf counter + 1
    · have hfull : isExhausted (nextToken counter) = true := by
        rw [hnext]
        exact (isExhausted_numeral _).mpr hover
      rw [if_pos hfull] at hanswer
      rw [hanswer]
      refine ⟨iff_of_true rfl hover, fun hle => absurd hle (by omega), ?_⟩
      intro token pttl replayed hreply
      cases hreply
    · have hroom : ¬ isExhausted (nextToken counter) = true := by
        rw [hnext, isExhausted_numeral]
        exact hover
      rw [if_neg hroom] at hanswer
      change answer = acquireWriteBy _ _ _ _ _ (nextToken counter) _ at hanswer
      rw [hanswer, hnext]
      refine ⟨iff_of_false acquireWrite_not_exhausted hover, fun _ => ?_, ?_⟩
      · exact acquireWrite_counter hlookup
      · intro token pttl replayed hreply
        exact acquireWrite_token hreply
  · intro hcounter
    rw [← hdecimal, Bool.not_eq_false] at hcounter
    rw [hanswer, if_pos hcounter]

/-- A counter of nines with leading zeros. -/
def paddedStore : Store := Redis.set Redis.empty [0x62] (utf8 "000999")

theorem padded_counter_carries :
    (acquireScript 0 [0x61] [0x62] [0x78] (numeral 1000) paddedStore).2 [0x62] =
      some ⟨.string (numeral 1000), none⟩ := by
  have hstored : get 0 paddedStore [0x62] = .ok (some (utf8 "000999")) := rfl
  have hdigits : (utf8 "000999").all (fun byte => 0x30 ≤ byte && byte ≤ 0x39) = true := rfl
  have hcounts := (acquire_counts 0 [0x61] [0x62] [0x78] (numeral 1000) paddedStore (by decide)
    hstored).1 ⟨by decide, by simpa using hdigits⟩
  exact hcounts.2.2.1 (by decide)

end OresLocks.RedisLease
