import OresLocks.AuthorityExclusion

/-!
# Alarms are unobservable

An alarm clears a lease that has expired, and so does every other operation when
it meets one. `settle` is that lazy clearing. Each call answers alike on a row
and on the settled row, up to the reason of a refusal, and leaves rows that
settle alike; a run with alarms can therefore be replayed without them.
-/

namespace OresLocks.Authority

set_option autoImplicit false

open Shared.Numeral Shared.Runs

/-- A call of a client with its clock reading, before it is answered. -/
inductive Request where
  | acquire (body : LeaseBody) (now : Int)
  | renew (body : LeaseBody) (now : Int)
  | release (body : LeaseBody) (now : Int)
  deriving DecidableEq

def Event.request : Event → Option Request
  | .acquire body now _ => some (.acquire body now)
  | .renew body now _ => some (.renew body now)
  | .release body now _ => some (.release body now)
  | .alarm _ => none

/-- The answer without the textual reason of a refusal. -/
def RenewOutcome.withoutReason : RenewOutcome → RenewOutcome
  | .refused _ => .refused .notOwner
  | outcome => outcome

def ReleaseOutcome.withoutReason : ReleaseOutcome → ReleaseOutcome
  | .refused _ => .refused .notOwner
  | outcome => outcome

/-- What the clients see of an event: nothing of an alarm. -/
def Event.observed : Event → Option Event
  | .acquire body now outcome => some (.acquire body now outcome)
  | .renew body now outcome => some (.renew body now outcome.withoutReason)
  | .release body now outcome => some (.release body now outcome.withoutReason)
  | .alarm _ => none

def requests (es : List Event) : List Request := es.filterMap Event.request

def observations (es : List Event) : List Event := es.filterMap Event.observed

/-- The row with an expired lease cleared. -/
def settle (now : Int) (row : Row) : Row :=
  if row.expiresMs.any (· ≤ now) then clearLease row else row

theorem settle_expired {now expires : Int} {row : Row} (he : row.expiresMs = some expires)
    (hle : expires ≤ now) : settle now row = clearLease row := by
  unfold settle
  rw [if_pos (any_le_iff.mpr ⟨expires, he, hle⟩)]

theorem settle_live {now : Int} {row : Row}
    (h : ∀ expires, row.expiresMs = some expires → now < expires) : settle now row = row := by
  unfold settle
  rw [if_neg]
  intro hexp
  obtain ⟨expires, he, hle⟩ := any_le_iff.mp hexp
  have hlt := h expires he
  omega

@[simp] theorem settle_clearLease (now : Int) (row : Row) :
    settle now (clearLease row) = clearLease row :=
  settle_live (by simp [clearLease])

theorem expired_or_live (row : Row) (now : Int) :
    (∃ expires, row.expiresMs = some expires ∧ expires ≤ now) ∨
    ∀ expires, row.expiresMs = some expires → now < expires := by
  cases he : row.expiresMs with
  | none => exact Or.inr (by simp)
  | some expires =>
    rcases lt_or_ge now expires with hlt | hle
    · exact Or.inr (by simpa using hlt)
    · exact Or.inl ⟨expires, rfl, hle⟩

theorem settle_settle {now later : Int} (h : now ≤ later) (row : Row) :
    settle later (settle now row) = settle later row := by
  rcases expired_or_live row now with ⟨expires, he, hle⟩ | hlive
  · rw [settle_expired he hle, settle_expired he (hle.trans h), settle_clearLease]
  · rw [settle_live hlive]

/-- Rows that settle alike keep doing so as the clock advances. -/
theorem settle_mono {now later : Int} (h : now ≤ later) {row row' : Row}
    (hs : settle now row = settle now row') : settle later row = settle later row' := by
  rw [← settle_settle h row, hs, settle_settle h row']

theorem alarm_settles (now : Int) (s : Storage) : (alarm now s).row = settle now s.row := by
  rcases expired_or_live s.row now with ⟨expires, he, hle⟩ | hlive
  · rw [settle_expired he hle]
    simp [alarm, he, hle]
  · rw [settle_live hlive]
    unfold alarm
    split
    · rfl
    · rename_i expires he
      rw [if_neg (not_le.mpr (hlive expires he))]

/-- The answer to a request and the storage it leaves. -/
def serve : Request → Storage → Event × Storage
  | .acquire body now, s => (.acquire body now (acquire body now s).1, (acquire body now s).2)
  | .renew body now, s => (.renew body now (renew body now s).1, (renew body now s).2)
  | .release body now, s => (.release body now (release body now s).1, (release body now s).2)

def Request.now : Request → Int
  | .acquire _ now => now
  | .renew _ now => now
  | .release _ now => now

section Settled

variable (body : LeaseBody) (now : Int)

/-- The scheduled alarm has no part in an answer. -/
theorem acquire_alarm (row : Row) (a b : Option Int) :
    (acquire body now ⟨row, a⟩).1 = (acquire body now ⟨row, b⟩).1 ∧
    (acquire body now ⟨row, a⟩).2.row = (acquire body now ⟨row, b⟩).2.row := by
  unfold acquire
  split
  · exact ⟨rfl, rfl⟩
  split
  · exact ⟨rfl, rfl⟩
  split
  · exact ⟨rfl, rfl⟩
  dsimp only
  split <;> exact ⟨rfl, rfl⟩

theorem renew_alarm (row : Row) (a b : Option Int) :
    (renew body now ⟨row, a⟩).1 = (renew body now ⟨row, b⟩).1 ∧
    (renew body now ⟨row, a⟩).2.row = (renew body now ⟨row, b⟩).2.row := by
  unfold renew
  split
  · exact ⟨rfl, rfl⟩
  split
  · exact ⟨rfl, rfl⟩
  split
  · exact ⟨rfl, rfl⟩
  dsimp only
  split <;> exact ⟨rfl, rfl⟩

theorem release_alarm (row : Row) (a b : Option Int) :
    (release body now ⟨row, a⟩).1 = (release body now ⟨row, b⟩).1 ∧
    (release body now ⟨row, a⟩).2.row = (release body now ⟨row, b⟩).2.row := by
  unfold release
  split
  · exact ⟨rfl, rfl⟩
  split
  · exact ⟨rfl, rfl⟩
  dsimp only
  split <;> exact ⟨rfl, rfl⟩

variable {row : Row} {expires : Int} (he : row.expiresMs = some expires)
  (hle : expires ≤ now) (a : Option Int)

include he hle

/-- An expired lease and a cleared one are equally free; an exhausted counter rolls
the clearing back, and the row left behind still settles to the cleared one. -/
theorem acquire_expired :
    (acquire body now ⟨row, a⟩).1 = (acquire body now ⟨clearLease row, a⟩).1 ∧
    settle now (acquire body now ⟨row, a⟩).2.row =
      settle now (acquire body now ⟨clearLease row, a⟩).2.row := by
  have hclear : settle now row = settle now (clearLease row) := by
    rw [settle_expired he hle, settle_clearLease]
  have hfree : Free row now := by
    intro holder expires' _ he'
    rw [he] at he'
    cases he'
    exact hle
  have hfree' : Free (clearLease row) now := by
    intro holder expires' hh
    cases hh
  have hany : row.expiresMs.any (· ≤ now) = true := any_le_iff.mpr ⟨expires, he, hle⟩
  unfold acquire
  split
  · exact ⟨rfl, hclear⟩
  split
  · exact ⟨rfl, hclear⟩
  split
  · exact ⟨rfl, hclear⟩
  simp only [transactionSync, acquireTransaction_free hfree, acquireTransaction_free hfree',
    acquireFresh, hany, if_true]
  have hcounter : (clearLease row).nextToken = row.nextToken := rfl
  rw [hcounter]
  cases nextToken row.nextToken with
  | error fault => cases fault <;> exact ⟨rfl, hclear⟩
  | ok token => exact ⟨rfl, by simp⟩

theorem renew_expired :
    (renew body now ⟨row, a⟩).1.withoutReason =
      (renew body now ⟨clearLease row, a⟩).1.withoutReason ∧
    settle now (renew body now ⟨row, a⟩).2.row =
      settle now (renew body now ⟨clearLease row, a⟩).2.row := by
  have hclear : settle now row = settle now (clearLease row) := by
    rw [settle_expired he hle, settle_clearLease]
  have hany : row.expiresMs.any (· ≤ now) = true := any_le_iff.mpr ⟨expires, he, hle⟩
  unfold renew
  split
  · exact ⟨rfl, hclear⟩
  split
  · exact ⟨rfl, hclear⟩
  split
  · exact ⟨rfl, hclear⟩
  simp [renewTransaction, hany, clearLease, RenewOutcome.withoutReason]

theorem release_expired :
    (release body now ⟨row, a⟩).1.withoutReason =
      (release body now ⟨clearLease row, a⟩).1.withoutReason ∧
    settle now (release body now ⟨row, a⟩).2.row =
      settle now (release body now ⟨clearLease row, a⟩).2.row := by
  have hclear : settle now row = settle now (clearLease row) := by
    rw [settle_expired he hle, settle_clearLease]
  have hany : row.expiresMs.any (· ≤ now) = true := any_le_iff.mpr ⟨expires, he, hle⟩
  unfold release
  split
  · exact ⟨rfl, hclear⟩
  rename_i hholder
  obtain ⟨holder, hbody⟩ := validHolder_string (by simpa using hholder)
  split
  · exact ⟨rfl, hclear⟩
  simp [releaseTransaction, hany, clearLease, hbody, text, ReleaseOutcome.withoutReason]

end Settled

/-- A request is answered alike on a row and on the settled row, whatever alarm is
scheduled, and the rows it leaves settle alike. -/
theorem serve_settle (r : Request) (s : Storage) (a : Option Int) :
    (serve r s).1.observed = (serve r ⟨settle r.now s.row, a⟩).1.observed ∧
    settle r.now (serve r s).2.row =
      settle r.now (serve r ⟨settle r.now s.row, a⟩).2.row := by
  obtain ⟨row, b⟩ := s
  rcases expired_or_live row r.now with ⟨expires, he, hle⟩ | hlive
  · rw [settle_expired he hle]
    cases r with
    | acquire body now =>
      obtain ⟨ho, hr⟩ := acquire_expired body now he hle b
      obtain ⟨ho', hr'⟩ := acquire_alarm body now (clearLease row) b a
      simp only [serve, Request.now, Event.observed, ho, ho', hr, hr', and_self]
    | renew body now =>
      obtain ⟨ho, hr⟩ := renew_expired body now he hle b
      obtain ⟨ho', hr'⟩ := renew_alarm body now (clearLease row) b a
      simp only [serve, Request.now, Event.observed, ho, ho', hr, hr', and_self]
    | release body now =>
      obtain ⟨ho, hr⟩ := release_expired body now he hle b
      obtain ⟨ho', hr'⟩ := release_alarm body now (clearLease row) b a
      simp only [serve, Request.now, Event.observed, ho, ho', hr, hr', and_self]
  · rw [settle_live hlive]
    cases r with
    | acquire body now =>
      obtain ⟨ho, hr⟩ := acquire_alarm body now row b a
      simp only [serve, Request.now, Event.observed, ho, hr, and_self]
    | renew body now =>
      obtain ⟨ho, hr⟩ := renew_alarm body now row b a
      simp only [serve, Request.now, Event.observed, ho, hr, and_self]
    | release body now =>
      obtain ⟨ho, hr⟩ := release_alarm body now row b a
      simp only [serve, Request.now, Event.observed, ho, hr, and_self]

/-- Requests on rows that settle alike. -/
theorem serve_alike {r : Request} {s t : Storage}
    (h : settle r.now s.row = settle r.now t.row) :
    (serve r s).1.observed = (serve r t).1.observed ∧
    settle r.now (serve r s).2.row = settle r.now (serve r t).2.row := by
  obtain ⟨ho, hr⟩ := serve_settle r s none
  obtain ⟨ho', hr'⟩ := serve_settle r t none
  rw [ho, hr, ho', hr', h]
  exact ⟨rfl, rfl⟩

/-- The run of the same requests with no alarm. -/
def withoutAlarms (s : Storage) : List Request → List Event × Storage
  | [] => ([], s)
  | r :: rs =>
    let (event, t) := serve r s
    let (events, u) := withoutAlarms t rs
    (event :: events, u)

theorem withoutAlarms_concat (s : Storage) (rs : List Request) (r : Request) :
    withoutAlarms s (rs ++ [r]) =
      ((withoutAlarms s rs).1 ++ [(serve r (withoutAlarms s rs).2).1],
        (serve r (withoutAlarms s rs).2).2) := by
  induction rs generalizing s with
  | nil => rfl
  | cons r' rs ih =>
    simp only [List.cons_append, withoutAlarms, ih]

/-- A step is an alarm or the answer to its request. -/
theorem alarm_or_request {s t : Storage} {e : Event} (h : Step s e t) :
    (∃ now, e = .alarm now ∧ t = alarm now s) ∨
    (∃ r : Request, e.request = some r ∧ e.now = r.now ∧ serve r s = (e, t)) := by
  cases h with
  | acquire body now => exact Or.inr ⟨.acquire body now, rfl, rfl, rfl⟩
  | renew body now => exact Or.inr ⟨.renew body now, rfl, rfl, rfl⟩
  | release body now => exact Or.inr ⟨.release body now, rfl, rfl, rfl⟩
  | alarm now => exact Or.inl ⟨now, rfl, rfl⟩

/-- Every run shows its clients what the same requests show without alarms. -/
theorem observations_eq_withoutAlarms {s t : Storage} {es : List Event} (h : Exec Step s es t)
    (hclock : es.Pairwise fun a b => a.now ≤ b.now) :
    observations es = observations (withoutAlarms s (requests es)).1 ∧
    ∀ now, (∀ e ∈ es, e.now ≤ now) →
      settle now t.row = settle now (withoutAlarms s (requests es)).2.row := by
  induction h with
  | nil => exact ⟨rfl, fun _ _ => rfl⟩
  | @snoc es t e u _ hs ih =>
    rw [List.pairwise_append] at hclock
    obtain ⟨hobs, hrow⟩ := ih hclock.1
    have hbefore : ∀ e' ∈ es, e'.now ≤ e.now := fun e' he' => hclock.2.2 e' he' e (by simp)
    rcases alarm_or_request hs with ⟨now, rfl, rfl⟩ | ⟨r, hreq, hnow, hperf⟩
    · have hr : requests (es ++ [.alarm now]) = requests es := by simp [requests, Event.request]
      have ho : observations (es ++ [.alarm now]) = observations es := by
        simp [observations, Event.observed]
      rw [hr, ho]
      refine ⟨hobs, ?_⟩
      intro later hlater
      have hle : now ≤ later := hlater (.alarm now) (by simp)
      rw [alarm_settles, settle_settle hle]
      exact hrow later fun e' he' => hlater e' (by simp [he'])
    · have hr : requests (es ++ [e]) = requests es ++ [r] := by simp [requests, hreq]
      have halike := hrow e.now hbefore
      rw [hnow] at halike
      obtain ⟨hout, hleft⟩ := serve_alike halike
      rw [hperf] at hout hleft
      rw [hr, withoutAlarms_concat]
      refine ⟨?_, ?_⟩
      · unfold observations at hobs ⊢
        rw [List.filterMap_append, List.filterMap_append, hobs]
        congr 1
        simp only [List.filterMap_cons, hout]
      · intro later hlater
        have hle : r.now ≤ later := by
          rw [← hnow]
          exact hlater e (by simp)
        exact settle_mono hle hleft

/-- Two runs from one storage with nondecreasing readings and the same requests of
the clients, with any alarms in between, answer every request alike except for the
textual reason of a refused renewal or release. -/
theorem alarms_unobservable (s t u : Storage) (es fs : List Event) (he : Exec Step s es t)
    (hf : Exec Step s fs u) (hclockE : es.Pairwise fun a b => a.now ≤ b.now)
    (hclockF : fs.Pairwise fun a b => a.now ≤ b.now) (hsame : requests es = requests fs) :
    observations es = observations fs := by
  rw [(observations_eq_withoutAlarms he hclockE).1, (observations_eq_withoutAlarms hf hclockF).1,
    hsame]

/-- The alarm turns the reason `expired` into `not_owner`, and nothing else. -/
theorem late_renewal_after_alarm :
    (renew sampleRenewal 2000 (acquire sampleBody 5 fresh).2).1 = .refused .expired ∧
    (renew sampleRenewal 2000 (alarm 1500 (acquire sampleBody 5 fresh).2)).1 =
      .refused .notOwner ∧
    observations [.acquire sampleBody 5 (.granted (numeral 1) 1005 1000),
        .renew sampleRenewal 2000 (.refused .expired)] =
      observations [.acquire sampleBody 5 (.granted (numeral 1) 1005 1000), .alarm 1500,
        .renew sampleRenewal 2000 (.refused .notOwner)] := by
  have hgrant : (acquire sampleBody 5 fresh).1 = .granted (numeral 1) 1005 1000 := by decide
  have hlate : (renew sampleRenewal 2000 (acquire sampleBody 5 fresh).2).1 = .refused .expired := by
    decide
  have hcleared : (renew sampleRenewal 2000 (alarm 1500 (acquire sampleBody 5 fresh).2)).1 =
      .refused .notOwner := by decide
  refine ⟨hlate, hcleared, ?_⟩
  rw [← hgrant, ← hlate, ← hcleared]
  exact alarms_unobservable fresh _ _ _ _
    (.snoc (.single (.acquire sampleBody 5)) (.renew sampleRenewal 2000))
    (.snoc (.snoc (.single (.acquire sampleBody 5)) (.alarm 1500)) (.renew sampleRenewal 2000))
    (by simp [Event.now]) (by simp [Event.now]) rfl

end OresLocks.Authority
