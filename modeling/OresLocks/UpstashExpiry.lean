import OresLocks.RedisLeaseCounter
import OresLocks.UpstashLease

/-!
# When the Upstash adapter's deadline is honest

A script answers the time that the lease had left when it ran. The adapter adds this to
its clock when the answer arrives, so the deadline is late by the delay of the answer.
-/

namespace OresLocks.Upstash

set_option autoImplicit false

open Shared.Numeral Shared.Utf8 Shared.Runs Redis RedisLease Ts

variable {ns : Bytes} {s t u : State} {e : Label}

/-- The lease that a script left at `executedAt`, with `remaining` milliseconds, is there. -/
structure Left (ns : Bytes) (s : State) (key : JsString) (executedAt remaining : Int) : Prop where
  past : executedAt ≤ s.now
  positive : 0 < remaining
  safe : remaining ≤ JsNumber.maxSafeInteger
  entry : ∃ value, s.store (redisKeys ns key).1 = some ⟨value, some (executedAt + remaining)⟩

/-- A phase has a valid time to live, and a successful answer tells what its script left. -/
def Sound (ns : Bytes) (s : State) : Prop :=
  match s.phase with
  | .acquiring attempt answer => validTtl attempt.opts.ttlMs = true ∧
      ∀ executedAt token remaining, answer = some (executedAt, .reply true token remaining false) →
        Left ns s attempt.key executedAt remaining
  | .sleeping attempt => validTtl attempt.opts.ttlMs = true
  | .renewing grant ttlMs answer => validTtl ttlMs = true ∧
      ∀ executedAt remaining, answer = some (executedAt, .reply true remaining) →
        Left ns s grant.key executedAt remaining
  | .settled _ => True

/-! ## What a script leaves -/

theorem expiry_of_left {key : JsString} {executedAt remaining : Int}
    (h : Left ns s key executedAt remaining) :
    expiryAt s.now s.store (redisKeys ns key).1 =
      if executedAt + remaining < s.now then none else some (executedAt + remaining) := by
  obtain ⟨value, hentry⟩ := h.entry
  unfold expiryAt lookup
  rw [hentry]
  by_cases hover : executedAt + remaining < s.now
  · simp [hover]
  · simp [hover]

/-- The deadline computed from what a script left is honest only without a delay. -/
theorem deadline_honest_iff {key : JsString} {executedAt remaining : Int}
    (h : Left ns s key executedAt remaining) :
    (∃ expires, expiryAt s.now s.store (redisKeys ns key).1 = some expires ∧
      s.now + remaining ≤ expires) ↔ s.now = executedAt := by
  have hpast := h.past
  have hpositive := h.positive
  rw [expiry_of_left h]
  constructor
  · rintro ⟨expires, hexpires, hle⟩
    split at hexpires
    · cases hexpires
    · cases hexpires
      omega
  · intro hprompt
    refine ⟨executedAt + remaining, if_neg ?_, ?_⟩
    · omega
    · omega

theorem validTtl_iff {ttlMs : JsNumber} (h : validTtl ttlMs = true) :
    0 < ttlMs.toInt ∧ ttlMs.toInt ≤ JsNumber.maxSafeInteger := by
  unfold validTtl at h
  rw [Bool.and_eq_true, decide_eq_true_eq] at h
  refine ⟨h.2, ?_⟩
  cases ttlMs with
  | finite q =>
    have hsafe := h.1
    simp only [JsNumber.isSafeInteger, Bool.and_eq_true, decide_eq_true_eq] at hsafe
    have hle := hsafe.2
    simp only [JsNumber.toInt]
    omega
  | _ =>
    have hpositive := h.2
    simp only [JsNumber.toInt] at hpositive
    omega

theorem integer_ttlText {ttlMs : JsNumber} (h : validTtl ttlMs = true) :
    integer (ttlText ttlMs) = some ttlMs.toInt := by
  have hrange := validTtl_iff h
  have hmax : JsNumber.maxSafeInteger = 9007199254740991 := rfl
  unfold ttlText
  rw [integer_numeral (by omega)]
  congr
  omega

/-- `PEXPIRE` of an existing key with a valid time to live. -/
theorem expireChecked_valid {now : Int} {lockKey : Bytes} {ttlMs : JsNumber}
    {store expiring : Store} {entry : Entry} (hvalid : validTtl ttlMs = true)
    (hentry : lookup now store lockKey = some entry)
    (h : expireChecked now lockKey (ttlText ttlMs) store = .ok expiring) :
    expiring = put store lockKey { entry with expiresAt := some (now + ttlMs.toInt) } := by
  have hpositive := (validTtl_iff hvalid).1
  simp only [expireChecked, expireUnbounded, pexpire, integer_ttlText hvalid, hentry,
    if_neg (Int.not_le.mpr hpositive)] at h
  split at h
  · cases h
  · cases h
    rfl

theorem pttl_put {now remaining : Int} (store : Store) (lockKey : Bytes) (value : Value)
    (hpositive : 0 < remaining) :
    pttl now (put store lockKey ⟨value, some (now + remaining)⟩) lockKey = remaining := by
  have hlive : ¬ now + remaining < now := by omega
  simp only [pttl, lookup, put_same, Option.any_some, decide_eq_true_eq, if_neg hlive]
  omega

/-- A fresh grant leaves a lease with the whole time to live. -/
theorem acquireScript_fresh {now remaining : Int} {lockKey fenceKey holder token : Bytes}
    {ttlMs : JsNumber} {store : Store} (hne : lockKey ≠ fenceKey) (hvalid : validTtl ttlMs = true)
    (h : (acquireScript now lockKey fenceKey holder (ttlText ttlMs) store).1 =
      .reply true token remaining false) :
    remaining = ttlMs.toInt ∧
      ∃ value, (acquireScript now lockKey fenceKey holder (ttlText ttlMs) store).2 lockKey =
        some ⟨value, some (now + ttlMs.toInt)⟩ := by
  unfold acquireScript at h ⊢
  rcases acquireBy_cases (expireChecked now lockKey (ttlText ttlMs)) now lockKey fenceKey holder store
    with ⟨-, -, hfresh⟩ | ⟨-, hfree, written, hwrites⟩
  · exact absurd h (hfresh token remaining)
  · rw [hwrites] at h ⊢
    simp only [acquireWriteBy, hset_free hne hfree] at h ⊢
    split at h
    · cases h
    · rename_i expiring hexpire
      have hexpiring := expireChecked_valid hvalid (lookup_put_same now _ lockKey _) hexpire
      subst hexpiring
      rw [pttl_put _ lockKey _ (validTtl_iff hvalid).1] at h
      cases h
      exact ⟨rfl, _, put_same _ lockKey _⟩

/-- A renewal leaves a lease with the whole time to live. -/
theorem renewScript_renews {now remaining : Int} {lockKey holder token : Bytes}
    {ttlMs : JsNumber} {store : Store} (hvalid : validTtl ttlMs = true)
    (h : (renewScript now lockKey holder token (ttlText ttlMs) store).1 = .reply true remaining) :
    remaining = ttlMs.toInt ∧
      ∃ value, (renewScript now lockKey holder token (ttlText ttlMs) store).2 lockKey =
        some ⟨value, some (now + ttlMs.toInt)⟩ := by
  unfold renewScript at h ⊢
  split at h
  · rename_i currentHolder currentToken hholder htoken
    split at h
    · cases h
    rename_i hsame
    split at h
    · cases h
    rename_i hcurrent
    split at h
    · cases h
    rename_i expiring hexpire
    have hheld : ∃ entry, lookup now store lockKey = some entry := by
      cases hlookup : lookup now store lockKey with
      | some entry => exact ⟨entry, rfl⟩
      | none =>
        simp only [hget, hlookup] at hholder
        cases hholder
        exact absurd (by simp) hsame
    obtain ⟨entry, hentry⟩ := hheld
    have hexpiring := expireChecked_valid hvalid hentry hexpire
    subst hexpiring
    rw [pttl_put _ lockKey _ (validTtl_iff hvalid).1] at h
    cases h
    simp only [hsame, hcurrent, if_false]
    exact ⟨trivial, _, put_same _ lockKey _⟩
  · cases h

/-! ## Where a call goes on -/

@[simp] theorem asFlag_bit (flag : Bool) : asFlag (.number (.ofInt (if flag then 1 else 0))) = flag := by
  cases flag <;> decide

/-- A positive time that a script answered is read as it is. -/
theorem asNonNegativeMs_remaining {key : JsString} {executedAt remaining : Int}
    (h : Left ns s key executedAt remaining) :
    asNonNegativeMs (.number (.ofInt remaining)) = some remaining := by
  have hpositive := h.positive
  have hsafe := h.safe
  have hinteger : (JsNumber.ofInt remaining).isSafeInteger = true := by
    simp only [JsNumber.ofInt, JsNumber.isSafeInteger, Bool.and_eq_true, decide_eq_true_eq]
    refine ⟨beq_self_eq_true _, ?_⟩
    change remaining.natAbs ≤ _
    omega
  have hsign : 0 ≤ remaining := by omega
  simp only [asNonNegativeMs, hinteger, JsNumber.toInt_ofInt, hsign, decide_true, Bool.and_self,
    if_true]

/-- `acquire` ends, sleeps, or renews a replayed grant. -/
theorem afterAcquire_cases (attempt : Attempt) (now : Int) (result : Result) :
    (∃ outcome, afterAcquire attempt now result = .settled outcome) ∨
    afterAcquire attempt now result = .sleeping attempt ∨
    ∃ grant, afterAcquire attempt now result = renew grant attempt.opts.ttlMs := by
  unfold afterAcquire
  split
  · exact .inl ⟨_, rfl⟩
  split
  · split
    · split
      · exact .inl ⟨_, rfl⟩
      dsimp only
      split
      · exact .inr (.inr ⟨_, rfl⟩)
      · exact .inl ⟨_, rfl⟩
    split
    · exact .inl ⟨_, rfl⟩
    dsimp only
    split
    · exact .inl ⟨_, rfl⟩
    · exact .inr (.inl rfl)
  · exact .inl ⟨_, rfl⟩

theorem renew_sound (s : State) (grant : LeaseGrant) (ttlMs : JsNumber) :
    Sound ns { s with phase := renew grant ttlMs } := by
  unfold renew
  split
  · exact trivial
  · rename_i hvalid
    refine ⟨by simpa using hvalid, ?_⟩
    intro executedAt remaining hanswer
    cases hanswer

theorem acquire_sound (s : State) (key holder : JsString) (opts : AcquireOptions) (wait : Bool) :
    Sound ns { s with phase := acquire key holder opts wait s.now } := by
  unfold acquire
  split
  · exact trivial
  · rename_i hvalid
    refine ⟨by simpa using hvalid, ?_⟩
    intro executedAt token remaining hanswer
    cases hanswer

theorem afterAcquire_sound (s : State) {attempt : Attempt} (result : Result)
    (hvalid : validTtl attempt.opts.ttlMs = true) :
    Sound ns { s with phase := afterAcquire attempt s.now result } := by
  rcases afterAcquire_cases attempt s.now result with ⟨outcome, hphase⟩ | hphase | ⟨grant, hphase⟩
  · rw [hphase]
    exact trivial
  · rw [hphase]
    exact hvalid
  · rw [hphase]
    exact renew_sound s grant attempt.opts.ttlMs

theorem renew_not_returned {grant returned : LeaseGrant} {ttlMs : JsNumber} :
    renew grant ttlMs ≠ .settled (.ok returned) := by
  intro h
  unfold renew at h
  split at h
  · cases h
  · cases h

/-- The grant of `acquire` without a renewal comes from a fresh answer. -/
theorem afterAcquire_returns {attempt : Attempt} {now : Int} {reply : AcquireReply}
    {grant : LeaseGrant}
    (h : afterAcquire attempt now (acquireResult attempt.key reply) = .settled (.ok grant)) :
    ∃ token remaining, reply = .reply true token remaining false ∧ grant.key = attempt.key ∧
      grant.leaseExpiresMs = (asNonNegativeMs (.number (.ofInt remaining))).map (now + ·) := by
  cases reply with
  | error message => cases h
  | reply acquired token remaining replayed =>
    simp only [acquireResult, afterAcquire, List.getD_cons_zero, List.getD_cons_succ,
      asFlag_bit] at h
    split at h
    · rename_i hacquired
      split at h
      · cases h
      split at h
      · exact absurd h renew_not_returned
      · rename_i hfresh
        cases h
        rw [hacquired, Bool.eq_false_iff.mpr hfresh]
        exact ⟨token, remaining, rfl, rfl, rfl⟩
    split at h
    · cases h
    split at h
    · cases h
    · cases h

theorem afterRenew_settled (grant : LeaseGrant) (ttlMs : JsNumber) (now : Int) (result : Result) :
    ∃ outcome, afterRenew grant ttlMs now result = .settled outcome := by
  unfold afterRenew
  split
  · exact ⟨_, rfl⟩
  split
  · split
    · exact ⟨_, rfl⟩
    split
    · exact ⟨_, rfl⟩
    · exact ⟨_, rfl⟩
  · exact ⟨_, rfl⟩

theorem afterRenew_returns {grant returned : LeaseGrant} {ttlMs : JsNumber} {now : Int}
    {reply : RenewReply}
    (h : afterRenew grant ttlMs now (renewResult grant.key reply) = .settled (.ok returned)) :
    ∃ remaining, reply = .reply true remaining ∧ returned.key = grant.key ∧
      ∀ left, asNonNegativeMs (.number (.ofInt remaining)) = some left →
        returned.leaseExpiresMs = some (now + left) := by
  cases reply with
  | error message => cases h
  | reply renewed remaining =>
    simp only [renewResult, afterRenew, List.getD_cons_zero, asFlag_bit] at h
    split at h
    · cases h
    rename_i hrenewed
    have hok : renewed = true := by simpa using hrenewed
    subst hok
    refine ⟨remaining, rfl, ?_⟩
    split at h
    · rename_i hnone
      cases h
      refine ⟨rfl, ?_⟩
      intro left hleft
      rw [hnone] at hleft
      cases hleft
    · rename_i pttl hsome
      cases h
      refine ⟨rfl, ?_⟩
      intro left hleft
      rw [hsome] at hleft
      cases hleft
      rfl

/-! ## Steps and runs -/

/-- A returned grant whose deadline counts from what its script left. -/
theorem returned_honest_iff {grant : LeaseGrant} {executedAt remaining : Int}
    (h : Left ns s grant.key executedAt remaining)
    (hdeadline : grant.leaseExpiresMs = some (s.now + remaining)) :
    (receipt ns executedAt s (.settled (.ok grant))).Honest ↔
      (receipt ns executedAt s (.settled (.ok grant))).Prompt := by
  rw [show (receipt ns executedAt s (.settled (.ok grant))).Prompt ↔ s.now = executedAt from Iff.rfl,
    ← deadline_honest_iff h]
  constructor
  · intro hhonest
    exact hhonest _ hdeadline
  · intro hexpiry deadline hsome
    rw [hdeadline] at hsome
    cases hsome
    exact hexpiry

/-- A receipt that returns no grant promises nothing. -/
theorem receipt_quiet {executedAt : Int} {phase : Phase} (h : ∀ grant, phase ≠ .settled (.ok grant)) :
    receipt ns executedAt s phase = .received := by
  unfold receipt
  split
  · exact absurd rfl (h _)
  · rfl

theorem receiveAcquire_honest_iff {attempt : Attempt} {executedAt : Int} {reply : AcquireReply}
    (hsound : Sound ns s) (hphase : s.phase = .acquiring attempt (some (executedAt, reply))) :
    (receipt ns executedAt s (afterAcquire attempt s.now (acquireResult attempt.key reply))).Honest ↔
    (receipt ns executedAt s (afterAcquire attempt s.now (acquireResult attempt.key reply))).Prompt := by
  unfold Sound at hsound
  rw [hphase] at hsound
  by_cases hreturns : ∃ grant, afterAcquire attempt s.now (acquireResult attempt.key reply) =
      .settled (.ok grant)
  · obtain ⟨grant, hgrant⟩ := hreturns
    obtain ⟨token, remaining, hreply, hkey, hdeadline⟩ := afterAcquire_returns hgrant
    subst hreply
    have hleft := hsound.2 executedAt token remaining rfl
    rw [asNonNegativeMs_remaining hleft] at hdeadline
    rw [hgrant]
    exact returned_honest_iff (hkey ▸ hleft) hdeadline
  · rw [receipt_quiet fun grant hgrant => hreturns ⟨grant, hgrant⟩]
    exact Iff.rfl

theorem receiveRenew_honest_iff {grant : LeaseGrant} {ttlMs : JsNumber} {executedAt : Int}
    {reply : RenewReply} (hsound : Sound ns s)
    (hphase : s.phase = .renewing grant ttlMs (some (executedAt, reply))) :
    (receipt ns executedAt s (afterRenew grant ttlMs s.now (renewResult grant.key reply))).Honest ↔
    (receipt ns executedAt s (afterRenew grant ttlMs s.now (renewResult grant.key reply))).Prompt := by
  unfold Sound at hsound
  rw [hphase] at hsound
  by_cases hreturns : ∃ returned, afterRenew grant ttlMs s.now (renewResult grant.key reply) =
      .settled (.ok returned)
  · obtain ⟨returned, hreturned⟩ := hreturns
    obtain ⟨remaining, hreply, hkey, hdeadline⟩ := afterRenew_returns hreturned
    subst hreply
    have hleft := hsound.2 executedAt remaining rfl
    rw [hreturned]
    exact returned_honest_iff (hkey ▸ hleft) (hdeadline remaining (asNonNegativeMs_remaining hleft))
  · rw [receipt_quiet fun returned hreturned => hreturns ⟨returned, hreturned⟩]
    exact Iff.rfl

theorem Left.frame {key : JsString} {executedAt remaining : Int}
    (h : Left ns s key executedAt remaining) (hlater : s.now ≤ t.now)
    (hsame : t.store (redisKeys ns key).1 = s.store (redisKeys ns key).1) :
    Left ns t key executedAt remaining :=
  ⟨le_trans h.past hlater, h.positive, h.safe, h.entry.imp fun _ hentry => hsame.trans hentry⟩

theorem Sound.later {later : Int} (h : Sound ns s) (hlater : s.now ≤ later) :
    Sound ns { s with now := later } := by
  unfold Sound at h ⊢
  cases hphase : s.phase with
  | acquiring attempt answer =>
    rw [hphase] at h
    exact ⟨h.1, fun executedAt token remaining hanswer =>
      (h.2 executedAt token remaining hanswer).frame hlater rfl⟩
  | sleeping attempt => simpa only [hphase] using h
  | renewing grant ttlMs answer =>
    rw [hphase] at h
    exact ⟨h.1, fun executedAt remaining hanswer =>
      (h.2 executedAt remaining hanswer).frame hlater rfl⟩
  | settled result => exact trivial

theorem Sound.others {store : Store} (h : Sound ns s)
    (hsame : ∀ key, s.phase.answering = some key →
      store (redisKeys ns key).1 = s.store (redisKeys ns key).1) :
    Sound ns { s with store } := by
  unfold Sound at h ⊢
  cases hphase : s.phase with
  | acquiring attempt answer =>
    rw [hphase] at h hsame
    refine ⟨h.1, ?_⟩
    intro executedAt token remaining hanswer
    subst hanswer
    exact (h.2 executedAt token remaining rfl).frame (le_refl _) (hsame attempt.key rfl)
  | sleeping attempt => simpa only [hphase] using h
  | renewing grant ttlMs answer =>
    rw [hphase] at h hsame
    refine ⟨h.1, ?_⟩
    intro executedAt remaining hanswer
    subst hanswer
    exact (h.2 executedAt remaining rfl).frame (le_refl _) (hsame grant.key rfl)
  | settled result => exact trivial

theorem executeAcquire_sound {attempt : Attempt} (h : Sound ns s)
    (hphase : s.phase = .acquiring attempt none) :
    Sound ns { s with
      store := (executeAcquire ns attempt s.now s.store).2
      phase := .acquiring attempt (some (s.now, (executeAcquire ns attempt s.now s.store).1)) } := by
  unfold Sound at h
  rw [hphase] at h
  refine ⟨h.1, ?_⟩
  intro executedAt token remaining hanswer
  obtain ⟨rfl, hreply⟩ := Prod.ext_iff.mp (Option.some.inj hanswer)
  obtain ⟨rfl, hentry⟩ := acquireScript_fresh (redisKeys_ne ns attempt.key) h.1 hreply
  exact ⟨le_refl _, (validTtl_iff h.1).1, (validTtl_iff h.1).2, hentry⟩

theorem executeRenew_sound {grant : LeaseGrant} {ttlMs : JsNumber} (h : Sound ns s)
    (hphase : s.phase = .renewing grant ttlMs none) :
    Sound ns { s with
      store := (executeRenew ns grant ttlMs s.now s.store).2
      phase := .renewing grant ttlMs
        (some (s.now, (executeRenew ns grant ttlMs s.now s.store).1)) } := by
  unfold Sound at h
  rw [hphase] at h
  refine ⟨h.1, ?_⟩
  intro executedAt remaining hanswer
  obtain ⟨rfl, hreply⟩ := Prod.ext_iff.mp (Option.some.inj hanswer)
  obtain ⟨rfl, hentry⟩ := renewScript_renews h.1 hreply
  exact ⟨le_refl _, (validTtl_iff h.1).1, (validTtl_iff h.1).2, hentry⟩

theorem step_sound (h : Sound ns s) (hstep : Step ns s e t) : Sound ns t := by
  cases hstep with
  | passed later hlater => exact h.later hlater
  | others store hsame => exact h.others hsame
  | acquire result key holder opts wait hphase => exact acquire_sound s key holder opts wait
  | renew result grant ttlMs hphase => exact renew_sound s grant ttlMs
  | executeAcquire attempt hphase => exact executeAcquire_sound h hphase
  | executeRenew grant ttlMs hphase => exact executeRenew_sound h hphase
  | failAcquire attempt answer thrown hphase => exact trivial
  | failRenew grant ttlMs answer thrown hphase => exact trivial
  | receiveAcquire attempt executedAt reply phase hphase hafter =>
    subst hafter
    unfold Sound at h
    rw [hphase] at h
    exact afterAcquire_sound s _ h.1
  | receiveRenew grant ttlMs executedAt reply phase hphase hafter =>
    obtain ⟨outcome, hsettled⟩ := afterRenew_settled grant ttlMs s.now (renewResult grant.key reply)
    rw [hafter, hsettled]
    exact trivial
  | wake attempt hphase =>
    unfold Sound at h
    rw [hphase] at h
    refine ⟨h, ?_⟩
    intro executedAt token remaining hanswer
    cases hanswer

/-- A step is honest exactly when it is prompt. -/
theorem step_honest_iff (h : Sound ns s) (hstep : Step ns s e t) : e.Honest ↔ e.Prompt := by
  cases hstep with
  | receiveAcquire attempt executedAt reply phase hphase hafter =>
    subst hafter
    exact receiveAcquire_honest_iff h hphase
  | receiveRenew grant ttlMs executedAt reply phase hphase hafter =>
    subst hafter
    exact receiveRenew_honest_iff h hphase
  | _ => exact Iff.rfl

/-- In every run of the adapter, the returned deadlines are all honest exactly when the
answers that grants are made of all arrive in the millisecond of their scripts. -/
theorem deadlines_honest_iff (ns : Bytes) (s t : State) (result : Except Thrown LeaseGrant)
    (es : List Label) (hstart : s.phase = .settled result) (hrun : Exec (Step ns) s es t) :
    (∀ e ∈ es, e.Honest) ↔ ∀ e ∈ es, e.Prompt := by
  have hsound : Sound ns s := by
    unfold Sound
    rw [hstart]
    exact trivial
  have hkept := hrun.invariant (I := fun es t => Sound ns t ∧ ∀ e ∈ es, e.Honest ↔ e.Prompt)
    ⟨hsound, by simp⟩
    (fun _ hi hstep => ⟨step_sound hi.1 hstep, by
      intro e he
      rcases List.mem_append.mp he with he | he
      · exact hi.2 e he
      · rw [List.mem_singleton.mp he]
        exact step_honest_iff hi.1 hstep⟩)
  constructor
  · intro hhonest e he
    exact (hkept.2 e he).mp (hhonest e he)
  · intro hprompt e he
    exact (hkept.2 e he).mpr (hprompt e he)

/-- The first acquisition in an empty Redis. -/
theorem acquireScript_empty {now : Int} {lockKey fenceKey holder : Bytes} {ttlMs : JsNumber}
    (hne : lockKey ≠ fenceKey) (hvalid : validTtl ttlMs = true)
    (hrange : now + ttlMs.toInt ≤ maxExpiry) :
    (acquireScript now lockKey fenceKey holder (ttlText ttlMs) Redis.empty).1 =
      .reply true (numeral 1) ttlMs.toInt false := by
  have hpositive := (validTtl_iff hvalid).1
  have hfree : lookup now Redis.empty lockKey = none := rfl
  have hzero : ((none : Option Bytes).getD [0x30]) = numeral 0 := by decide
  have hnext : isExhausted (nextToken (numeral 0)) = false := by
    rw [nextToken_numeral, Bool.eq_false_iff, Ne, isExhausted_numeral]
    decide
  have hdigits : ((numeral 0 : Bytes).isEmpty || !isDigits (numeral 0 : Bytes)) = false := by decide
  have hexpire : expireChecked now lockKey (ttlText ttlMs)
      (put (Redis.set Redis.empty fenceKey (numeral 1)) lockKey (unexpiring holder (numeral 1))) =
        .ok (put (Redis.set Redis.empty fenceKey (numeral 1)) lockKey
          (leasedEntry holder (numeral 1) (now + ttlMs.toInt))) := by
    simp [expireChecked, expireUnbounded, pexpire, integer_ttlText hvalid, Int.not_lt.mpr hrange,
      Int.not_le.mpr hpositive, unexpiring, leasedEntry]
  rw [acquireScript_free rfl rfl, hzero, hdigits, hnext, nextToken_numeral]
  simp only [Bool.false_eq_true, if_false, acquireWriteBy, hset_free hne hfree, Nat.zero_add, hexpire]
  rw [leasedEntry, pttl_put _ lockKey _ hpositive]

def sampleAttempt : Attempt := ⟨js "k", js "h", ⟨.ofInt 1000, 0, 0⟩, false, 0⟩

def sampleGrant (received : Int) : LeaseGrant :=
  ⟨js "k", js "h", 1, .ofInt 1000, some (received + 1000)⟩

/-- A key without a lease, before and after an acquisition for one second at time 0. -/
def sampleStart : State := ⟨0, Redis.empty, .settled (.error (invalidTtl (js "k")))⟩

def sampleWaiting (now : Int) (answer : Option (Int × AcquireReply)) (store : Store) : State :=
  ⟨now, store, .acquiring sampleAttempt answer⟩

def sampleLeased : Store := (executeAcquire [] sampleAttempt 0 Redis.empty).2

def sampleEnd (received : Int) : State := ⟨received, sampleLeased, .settled (.ok (sampleGrant received))⟩

def sampleRun (received : Int) : List Label :=
  [.called, .executed, .passed, .returned (sampleGrant received) 0 received
    (expiryAt received sampleLeased (redisKeys [] (js "k")).1)]

theorem sample_answer : (executeAcquire [] sampleAttempt 0 Redis.empty).1 =
    .reply true (numeral 1) 1000 false :=
  acquireScript_empty (redisKeys_ne [] (js "k")) (by decide) (by decide)

theorem sample_left {received : Int} (h : 0 ≤ received) :
    Left [] (sampleEnd received) (sampleGrant received).key 0 1000 :=
  ⟨h, by decide, by decide,
    (acquireScript_fresh (redisKeys_ne [] (js "k")) (by decide) sample_answer).2⟩

theorem sampleRun_exec {received : Int} (h : 0 ≤ received) :
    Exec (Step []) sampleStart (sampleRun received) (sampleEnd received) := by
  have hcalled : Step [] sampleStart .called (sampleWaiting 0 none Redis.empty) :=
    .acquire _ (js "k") (js "h") ⟨.ofInt 1000, 0, 0⟩ false rfl
  have hexecuted : Step [] (sampleWaiting 0 none Redis.empty) .executed
      (sampleWaiting 0 (some (0, .reply true (numeral 1) 1000 false)) sampleLeased) := by
    rw [← sample_answer]
    exact .executeAcquire sampleAttempt rfl
  have hpassed : Step []
      (sampleWaiting 0 (some (0, .reply true (numeral 1) 1000 false)) sampleLeased) .passed
      (sampleWaiting received (some (0, .reply true (numeral 1) 1000 false)) sampleLeased) :=
    .passed received h
  have hreceived : Step []
      (sampleWaiting received (some (0, .reply true (numeral 1) 1000 false)) sampleLeased)
      (receipt [] 0 (sampleWaiting received (some (0, .reply true (numeral 1) 1000 false)) sampleLeased)
        (.settled (.ok (sampleGrant received)))) (sampleEnd received) :=
    .receiveAcquire sampleAttempt 0 _ _ rfl rfl
  exact (((Exec.single hcalled).snoc hexecuted).snoc hpassed).snoc hreceived

/-- An answer without a delay carries an honest deadline. -/
theorem prompt_answer_honest :
    Exec (Step []) sampleStart (sampleRun 0) (sampleEnd 0) ∧ ∀ e ∈ sampleRun 0, e.Honest := by
  have hrun : Exec (Step []) sampleStart (sampleRun 0) (sampleEnd 0) := sampleRun_exec (le_refl 0)
  refine ⟨hrun, (deadlines_honest_iff [] sampleStart (sampleEnd 0) _ (sampleRun 0) rfl hrun).mpr ?_⟩
  simp [sampleRun, Label.Prompt]

/-- An answer on its way for five milliseconds makes the deadline five milliseconds late. -/
theorem delayed_answer_overstates :
    ¬ ∀ (ns : Bytes) (s t : State) (result : Except Thrown LeaseGrant) (es : List Label),
      s.phase = .settled result → Exec (Step ns) s es t → ∀ e ∈ es, e.Honest := by
  intro hclaim
  have hhonest := hclaim [] sampleStart (sampleEnd 5) _ (sampleRun 5) rfl (sampleRun_exec (by decide))
    _ (List.mem_cons_of_mem _ (List.mem_cons_of_mem _ (List.mem_cons_of_mem _
      (List.mem_singleton.mpr rfl))))
  have hdeadline := hhonest 1005 rfl
  have hprompt : (5 : Int) = 0 := (deadline_honest_iff (sample_left (by decide))).mp hdeadline
  exact absurd hprompt (by decide)

end OresLocks.Upstash
