import OresLocks.Authority

/-!
# What one authority call can do to the row

`AcquireSpec`, `RenewSpec` and `ReleaseSpec` list the possible answers of each
operation with the row it leaves. Everything about runs is read off these cases;
no later proof unfolds an operation.
-/

namespace OresLocks.Authority

set_option autoImplicit false

open Shared.Numeral Shared.Runs

/-- A row that `acquire` treats as free: no lease, or one that has expired. -/
def Free (row : Row) (now : Int) : Prop :=
  ∀ holder expires, row.holder = some holder → row.expiresMs = some expires → expires ≤ now

inductive AcquireSpec (body : LeaseBody) (now : Int) (row : Row) : AcquireOutcome → Row → Prop where
  | invalid (error : AcquireError) (h : error ≠ .fencingTokenExhausted) :
      AcquireSpec body now row (.error error) row
  | refused (reason : AcquireRefusal) (expires : Int) :
      row.expiresMs = some expires → now < expires →
      AcquireSpec body now row (.refused reason expires) row
  | replayed (holder : JsString) (expires : Int) (requestId : Option JsString) :
      body.holder = .string holder → row.holder = some holder →
      row.expiresMs = some expires → now < expires →
      ¬ (truthy (text body.requestId) && truthy row.requestId &&
        text body.requestId != row.requestId) →
      requestId = (if truthy (text body.requestId) && !truthy row.requestId
        then stored body.requestId else row.requestId) →
      AcquireSpec body now row (.replayed row.token expires) { row with requestId }
  | exhausted : Free row now → nextToken row.nextToken = .error .fencingTokenExhausted →
      AcquireSpec body now row (.error .fencingTokenExhausted) row
  | corrupt : Free row now → nextToken row.nextToken = .error .corruptFencingCounter →
      AcquireSpec body now row (.threw .corruptFencingCounter) row
  | granted (holder token : JsString) :
      body.holder = .string holder → Free row now → nextToken row.nextToken = .ok token →
      AcquireSpec body now row (.granted token (now + int body.ttlMs) (int body.ttlMs))
        ⟨some holder.toWellFormed, some token, some (now + int body.ttlMs), token,
          stored body.requestId⟩

theorem validIdentity_string {value : JsValue} {maxBytes : Nat}
    (h : validIdentity value maxBytes = true) : ∃ s, value = .string s := by
  cases value with
  | string s => exact ⟨s, rfl⟩
  | _ => simp [validIdentity] at h

theorem validHolder_string {holder : JsValue} (h : validHolder holder = true) :
    ∃ s, holder = .string s := validIdentity_string h

theorem acquireTransaction_free {body : LeaseBody} {now : Int} {row : Row} (h : Free row now) :
    acquireTransaction body now row = acquireFresh body now row := by
  unfold acquireTransaction
  split
  · rename_i holder expires hh he
    have hle := h holder expires hh he
    rw [if_neg (by omega)]
  · rfl

theorem acquireTransaction_active {body : LeaseBody} {now expires : Int} {row : Row}
    {holder : JsString} (hh : row.holder = some holder) (he : row.expiresMs = some expires)
    (hlt : now < expires) :
    acquireTransaction body now row =
      (.ok (acquireActive body expires row).1, (acquireActive body expires row).2) := by
  unfold acquireTransaction
  rw [hh, he]
  simp only [if_pos hlt]

theorem free_or_active (row : Row) (now : Int) : Free row now ∨
    ∃ holder expires, row.holder = some holder ∧ row.expiresMs = some expires ∧ now < expires := by
  by_cases h : Free row now
  · exact Or.inl h
  · right
    unfold Free at h
    push Not at h
    obtain ⟨holder, expires, hh, he, hlt⟩ := h
    exact ⟨holder, expires, hh, he, hlt⟩

theorem acquireActive_spec {body : LeaseBody} {now expires : Int} {row : Row} {holder : JsString}
    (hbody : body.holder = .string holder) (he : row.expiresMs = some expires)
    (hlt : now < expires) :
    AcquireSpec body now row (acquireActive body expires row).1
      (acquireActive body expires row).2 := by
  unfold acquireActive
  split
  · exact .refused _ expires he hlt
  rename_i hsame
  split
  · exact .refused _ expires he hlt
  rename_i hreq
  have hrow : row.holder = some holder := by
    rw [not_not.mp hsame, hbody]
    rfl
  split
  · rename_i hadopt
    exact .replayed holder expires _ hbody hrow he hlt hreq (by rw [if_pos hadopt])
  · rename_i hadopt
    exact .replayed holder expires row.requestId hbody hrow he hlt hreq (by rw [if_neg hadopt])

theorem acquire_spec (body : LeaseBody) (now : Int) (s : Storage) :
    AcquireSpec body now s.row (acquire body now s).1 (acquire body now s).2.row := by
  unfold acquire
  split
  · exact .invalid _ (by decide)
  rename_i hholder
  split
  · exact .invalid _ (by decide)
  split
  · exact .invalid _ (by decide)
  obtain ⟨holder, hbody⟩ := validHolder_string (by simpa using hholder)
  rcases free_or_active s.row now with hfree | ⟨owner, expires, hh, he, hlt⟩
  · simp only [transactionSync, acquireTransaction_free hfree, acquireFresh]
    cases hn : nextToken s.row.nextToken with
    | error fault =>
      cases fault with
      | corruptFencingCounter => exact .corrupt hfree hn
      | fencingTokenExhausted => exact .exhausted hfree hn
    | ok token =>
      have hspec : AcquireSpec body now s.row _ _ := .granted holder token hbody hfree hn
      have htext : stored body.holder = some (JsString.toWellFormed holder) := by rw [hbody]; rfl
      by_cases hc : s.row.expiresMs.any (· ≤ now) = true <;>
        simpa [hc, htext, clearLease] using hspec
  · simp only [transactionSync, acquireTransaction_active hh he hlt]
    exact acquireActive_spec hbody he hlt

inductive RenewSpec (body : LeaseBody) (now : Int) (row : Row) : RenewOutcome → Row → Prop where
  | invalid (error : RenewError) :
      (validHolder body.holder && validTtl body.ttlMs &&
        (canonicalToken body.fencingToken).isSome) = false →
      RenewSpec body now row (.error error) row
  | expired (expires : Int) : row.expiresMs = some expires → expires ≤ now →
      RenewSpec body now row (.refused .expired) (clearLease row)
  | notOwner : (∀ expires, row.expiresMs = some expires → now < expires) →
      (row.holder ≠ text body.holder ∨ row.token ≠ canonicalToken body.fencingToken ∨
        row.expiresMs = none) →
      RenewSpec body now row (.refused .notOwner) row
  | renewed (holder token : JsString) (expires : Int) :
      body.holder = .string holder → canonicalToken body.fencingToken = some token →
      row.holder = some holder → row.token = some token → row.expiresMs = some expires →
      now < expires →
      RenewSpec body now row (.renewed (now + int body.ttlMs) (int body.ttlMs))
        { row with expiresMs := some (now + int body.ttlMs) }

theorem any_le_iff {expiresMs : Option Int} {now : Int} :
    expiresMs.any (· ≤ now) = true ↔ ∃ expires, expiresMs = some expires ∧ expires ≤ now := by
  cases expiresMs <;> simp

theorem renewTransaction_spec {body : LeaseBody} {now : Int} {row : Row} {holder token : JsString}
    (hbody : body.holder = .string holder) (htoken : canonicalToken body.fencingToken = some token) :
    RenewSpec body now row (renewTransaction body token now row).1
      (renewTransaction body token now row).2 := by
  unfold renewTransaction
  split
  · rename_i hrefuse
    split
    · rename_i hexp
      obtain ⟨expires, he, hle⟩ := any_le_iff.mp hexp
      exact .expired expires he hle
    · rename_i hexp
      refine .notOwner ?_ ?_
      · intro expires he
        by_contra hge
        exact hexp (any_le_iff.mpr ⟨expires, he, by omega⟩)
      · rcases hrefuse with hr | hr | hr | hr
        · exact Or.inl hr
        · exact Or.inr (Or.inl (by rwa [htoken]))
        · exact Or.inr (Or.inr hr)
        · exact absurd hr hexp
  · rename_i hkeep
    push Not at hkeep
    obtain ⟨hh, ht, hne, hexp⟩ := hkeep
    obtain ⟨expires, he⟩ := Option.ne_none_iff_exists'.mp hne
    refine .renewed holder token expires hbody htoken ?_ ht he ?_
    · rw [hh, hbody]
      rfl
    · by_contra hge
      exact hexp (any_le_iff.mpr ⟨expires, he, by omega⟩)

theorem renew_spec (body : LeaseBody) (now : Int) (s : Storage) :
    RenewSpec body now s.row (renew body now s).1 (renew body now s).2.row := by
  unfold renew
  split
  · exact .invalid _ (by simp_all)
  rename_i hholder
  split
  · exact .invalid _ (by simp_all)
  obtain ⟨holder, hbody⟩ := validHolder_string (by simpa using hholder)
  split
  · exact .invalid _ (by simp_all)
  rename_i token htoken
  have h : RenewSpec body now s.row _ _ := renewTransaction_spec hbody htoken
  split
  · rename_i expires ttl row heq
    rwa [heq] at h
  · rename_i outcome row hne heq
    rwa [heq] at h

inductive ReleaseSpec (body : LeaseBody) (now : Int) (row : Row) : ReleaseOutcome → Row → Prop where
  | invalid (error : ReleaseError) :
      (validHolder body.holder && (canonicalToken body.fencingToken).isSome) = false →
      ReleaseSpec body now row (.error error) row
  | expired (expires : Int) : row.expiresMs = some expires → expires ≤ now →
      ReleaseSpec body now row (.refused .expired) (clearLease row)
  | notOwner : (∀ expires, row.expiresMs = some expires → now < expires) →
      (row.holder ≠ text body.holder ∨ row.token ≠ canonicalToken body.fencingToken) →
      ReleaseSpec body now row (.refused .notOwner) row
  | released (holder token : JsString) :
      body.holder = .string holder → canonicalToken body.fencingToken = some token →
      row.holder = some holder → row.token = some token →
      (∀ expires, row.expiresMs = some expires → now < expires) →
      ReleaseSpec body now row .released (clearLease row)

theorem releaseTransaction_spec {body : LeaseBody} {now : Int} {row : Row}
    {holder token : JsString} (hbody : body.holder = .string holder)
    (htoken : canonicalToken body.fencingToken = some token) :
    ReleaseSpec body now row (releaseTransaction body token now row).1
      (releaseTransaction body token now row).2 := by
  unfold releaseTransaction
  split
  · rename_i hexp
    obtain ⟨expires, he, hle⟩ := any_le_iff.mp hexp
    exact .expired expires he hle
  rename_i hexp
  have hlive : ∀ expires, row.expiresMs = some expires → now < expires := by
    intro expires he
    by_contra hge
    exact hexp (any_le_iff.mpr ⟨expires, he, by omega⟩)
  split
  · rename_i hrefuse
    refine .notOwner hlive ?_
    rwa [htoken]
  · rename_i hkeep
    push Not at hkeep
    exact .released holder token hbody htoken (by rw [hkeep.1, hbody]; rfl) hkeep.2 hlive

theorem release_spec (body : LeaseBody) (now : Int) (s : Storage) :
    ReleaseSpec body now s.row (release body now s).1 (release body now s).2.row := by
  unfold release
  split
  · exact .invalid _ (by simp_all)
  rename_i hholder
  obtain ⟨holder, hbody⟩ := validHolder_string (by simpa using hholder)
  split
  · exact .invalid _ (by simp_all)
  rename_i token htoken
  have h : ReleaseSpec body now s.row _ _ := releaseTransaction_spec hbody htoken
  split
  all_goals
    rename_i heq
    rwa [heq] at h

theorem alarm_row (now : Int) (s : Storage) : (alarm now s).row = s.row ∨
    (∃ expires, s.row.expiresMs = some expires ∧ expires ≤ now ∧
      (alarm now s).row = clearLease s.row) := by
  unfold alarm
  split
  · exact Or.inl rfl
  · rename_i expires he
    split
    · rename_i hle
      exact Or.inr ⟨expires, he, hle, rfl⟩
    · exact Or.inl rfl

/-- One observed call as a step of the row alone. -/
inductive Change (row : Row) : Event → Row → Prop where
  | acquire {body : LeaseBody} {now : Int} {outcome : AcquireOutcome} {row' : Row} :
      AcquireSpec body now row outcome row' → Change row (.acquire body now outcome) row'
  | renew {body : LeaseBody} {now : Int} {outcome : RenewOutcome} {row' : Row} :
      RenewSpec body now row outcome row' → Change row (.renew body now outcome) row'
  | release {body : LeaseBody} {now : Int} {outcome : ReleaseOutcome} {row' : Row} :
      ReleaseSpec body now row outcome row' → Change row (.release body now outcome) row'
  | alarmIdle (now : Int) : Change row (.alarm now) row
  | alarmExpired (now expires : Int) : row.expiresMs = some expires → expires ≤ now →
      Change row (.alarm now) (clearLease row)

theorem Step.change {s s' : Storage} {e : Event} (h : Step s e s') : Change s.row e s'.row := by
  cases h with
  | acquire body now => exact .acquire (acquire_spec body now s)
  | renew body now => exact .renew (renew_spec body now s)
  | release body now => exact .release (release_spec body now s)
  | alarm now =>
    rcases alarm_row now s with hr | ⟨expires, he, hle, hr⟩
    · rw [hr]
      exact .alarmIdle now
    · rw [hr]
      exact .alarmExpired now expires he hle

theorem change_of_exec {es : List Event} {s s' : Storage} (h : Exec Step s es s') :
    Exec Change s.row es s'.row := h.project Storage.row Step.change

end OresLocks.Authority
