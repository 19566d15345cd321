import OresLocks.AuthorityRuns

/-!
# Mutual exclusion of the authority under a nondecreasing clock

Liveness is defined from the answers the callers saw, not from the row. The row
is then shown to track it: the grant in the row carries the latest expiry
returned for it, and every other returned grant has been released or has
reached its latest expiry at some clock reading of the run.
-/

namespace OresLocks.Authority

set_option autoImplicit false

open Shared.Numeral Shared.Runs

structure Grant where
  holder : JsString
  token : JsString
  deriving DecidableEq

def Event.now : Event → Int
  | .acquire _ now _ => now
  | .renew _ now _ => now
  | .release _ now _ => now
  | .alarm now => now

/-- The expiry an answer returned for a grant. -/
def Event.expiryFor (g : Grant) : Event → Option Int
  | .acquire body _ (.replayed token expires) =>
    if text body.holder = some g.holder ∧ token = some g.token then some expires else none
  | .acquire body _ (.granted token expires _) =>
    if text body.holder = some g.holder ∧ token = g.token then some expires else none
  | .renew body _ (.renewed expires _) =>
    if text body.holder = some g.holder ∧ canonicalToken body.fencingToken = some g.token
    then some expires else none
  | _ => none

def Event.isAcquire : Event → Bool
  | .acquire _ _ _ => true
  | _ => false

/-- An `acquire` answered with this holder and token. -/
def Event.Returns (g : Grant) (e : Event) : Prop :=
  e.isAcquire = true ∧ (e.expiryFor g).isSome = true

/-- A `release` of this grant answered `released: true`. -/
def Event.Releases (g : Grant) : Event → Prop
  | .release body _ .released =>
    text body.holder = some g.holder ∧ canonicalToken body.fencingToken = some g.token
  | _ => False

/-- The call renewed, released or (re)issued the grant. -/
def Event.ActsOn (g : Grant) (e : Event) : Prop := (e.expiryFor g).isSome = true ∨ e.Releases g

def latestExpiry (es : List Event) (g : Grant) : Option Int :=
  (es.filterMap (Event.expiryFor g)).getLast?

/-- A returned grant, not released, whose latest returned expiry is after `t`. -/
structure Live (es : List Event) (g : Grant) (t : Int) : Prop where
  returned : ∃ e ∈ es, e.Returns g
  unreleased : ∀ e ∈ es, ¬ e.Releases g
  unexpired : ∃ expires, latestExpiry es g = some expires ∧ t < expires

/-- The row stores this grant with this expiry. -/
structure Holds (row : Row) (g : Grant) (expires : Int) : Prop where
  holder : row.holder = some g.holder
  token : row.token = some g.token
  expiresMs : row.expiresMs = some expires

theorem latestExpiry_concat (es : List Event) (e : Event) (g : Grant) :
    latestExpiry (es ++ [e]) g = (e.expiryFor g).or (latestExpiry es g) := by
  unfold latestExpiry
  rw [List.filterMap_append, List.getLast?_append]
  cases h : e.expiryFor g <;> simp [h]

theorem isAcquire_of_freshToken {e : Event} {token : JsString} (h : e.freshToken = some token) :
    e.isAcquire = true := by
  cases e with
  | acquire => rfl
  | renew | release | alarm => simp [Event.freshToken] at h

theorem Holds.unique {row : Row} {g g' : Grant} {x x' : Int} (h : Holds row g x)
    (h' : Holds row g' x') : g = g' ∧ x = x' := by
  have hh := h.holder.symm.trans h'.holder
  have ht := h.token.symm.trans h'.token
  have he := h.expiresMs.symm.trans h'.expiresMs
  cases g
  cases g'
  simp_all

theorem not_holds_clearLease {row : Row} {g : Grant} {x : Int} : ¬ Holds (clearLease row) g x :=
  fun h => by simpa [clearLease] using h.holder

/-- The holder of an acquisition is stored as it was sent: it has no unpaired surrogate. -/
def Event.keepsHolder : Event → Bool
  | .acquire body _ _ => stored body.holder == text body.holder
  | _ => true

theorem toWellFormed_of_keepsHolder {body : LeaseBody} {now : Int} {outcome : AcquireOutcome}
    {holder : JsString} (h : (Event.acquire body now outcome).keepsHolder = true)
    (hbody : body.holder = .string holder) : holder.toWellFormed = holder := by
  simp only [Event.keepsHolder, hbody, beq_iff_eq] at h
  exact Option.some.inj h

section Facts

variable {row row' : Row} {e : Event} {g : Grant} {x : Int}

/-- An answer that returns an expiry is about the grant the row then stores; the
grant was stored unexpired before, or its token is freshly minted. -/
theorem Change.expiryFor_holds (hc : Change row e row') (hk : e.keepsHolder = true)
    (h : e.expiryFor g = some x) :
    Holds row' g x ∧ ((∃ y, Holds row g y ∧ e.now < y) ∨ e.freshToken = some g.token) := by
  cases hc with
  | acquire hs =>
    cases hs with
    | invalid | refused | exhausted | corrupt => simp [Event.expiryFor] at h
    | replayed holder expires requestId hbody hh he hlt =>
      simp only [Event.expiryFor, Option.ite_none_right_eq_some, Option.some.injEq] at h
      obtain ⟨⟨hg, ht⟩, rfl⟩ := h
      rw [hbody] at hg
      cases hg
      exact ⟨⟨hh, ht, he⟩, Or.inl ⟨expires, ⟨hh, ht, he⟩, hlt⟩⟩
    | granted holder token hbody hfree hn =>
      simp only [Event.expiryFor, Option.ite_none_right_eq_some, Option.some.injEq] at h
      obtain ⟨⟨hg, ht⟩, rfl⟩ := h
      rw [hbody] at hg
      cases hg
      have hsame := toWellFormed_of_keepsHolder hk hbody
      exact ⟨⟨by rw [hsame], by rw [ht], rfl⟩, Or.inr (by rw [← ht]; rfl)⟩
  | renew hs =>
    cases hs with
    | invalid | expired | notOwner => simp [Event.expiryFor] at h
    | renewed holder token expires hbody htoken hh ht he hlt =>
      simp only [Event.expiryFor, Option.ite_none_right_eq_some, Option.some.injEq] at h
      obtain ⟨⟨hg, ht'⟩, rfl⟩ := h
      rw [hbody] at hg
      rw [htoken] at ht'
      cases hg
      cases ht'
      exact ⟨⟨hh, ht, rfl⟩, Or.inl ⟨expires, ⟨hh, ht, he⟩, hlt⟩⟩
  | release | alarmIdle | alarmExpired => simp [Event.expiryFor] at h

/-- A grant in the row after a call was returned by it or was there before. -/
theorem Change.holds_after (hc : Change row e row') (hk : e.keepsHolder = true)
    (h : Holds row' g x) :
    e.expiryFor g = some x ∨ (e.expiryFor g = none ∧ Holds row g x) := by
  cases hc with
  | acquire hs =>
    cases hs with
    | invalid | refused | exhausted | corrupt => exact Or.inr ⟨rfl, h⟩
    | replayed holder expires requestId hbody hh he hlt =>
      left
      have hholder : holder = g.holder := Option.some.inj (hh.symm.trans h.holder)
      have hexp : expires = x := Option.some.inj (he.symm.trans h.expiresMs)
      have htok : row.token = some g.token := h.token
      simp [Event.expiryFor, hbody, text, hholder, hexp, htok]
    | granted holder token hbody hfree hn =>
      left
      have hsame := toWellFormed_of_keepsHolder hk hbody
      have hholder : holder = g.holder := hsame.symm.trans (Option.some.inj h.holder)
      have htoken : token = g.token := Option.some.inj h.token
      have hexp := Option.some.inj h.expiresMs
      simp [Event.expiryFor, hbody, text, hholder, htoken, hexp]
  | renew hs =>
    cases hs with
    | invalid | notOwner => exact Or.inr ⟨rfl, h⟩
    | expired => exact absurd h not_holds_clearLease
    | renewed holder token expires hbody htoken hh ht he hlt =>
      left
      have hholder : holder = g.holder := Option.some.inj (hh.symm.trans h.holder)
      have htok : token = g.token := Option.some.inj (ht.symm.trans h.token)
      have hexp := Option.some.inj h.expiresMs
      simp [Event.expiryFor, hbody, text, hholder, htoken, htok, hexp]
  | release hs =>
    cases hs with
    | invalid | notOwner => exact Or.inr ⟨rfl, h⟩
    | expired | released => exact absurd h not_holds_clearLease
  | alarmIdle => exact Or.inr ⟨rfl, h⟩
  | alarmExpired => exact absurd h not_holds_clearLease

/-- A grant leaves the row only by its release or after its expiry. -/
theorem Change.holds_before (hc : Change row e row') (h : Holds row g x) :
    (∃ y, Holds row' g y) ∨ e.Releases g ∨ x ≤ e.now := by
  cases hc with
  | acquire hs =>
    cases hs with
    | invalid | refused | exhausted | corrupt => exact Or.inl ⟨x, h⟩
    | replayed => exact Or.inl ⟨x, ⟨h.holder, h.token, h.expiresMs⟩⟩
    | granted holder token hbody hfree hn =>
      exact Or.inr (Or.inr (hfree _ _ h.holder h.expiresMs))
  | renew hs =>
    cases hs with
    | invalid | notOwner => exact Or.inl ⟨x, h⟩
    | expired expires he hle =>
      have hexp : expires = x := Option.some.inj (he.symm.trans h.expiresMs)
      exact Or.inr (Or.inr (hexp ▸ hle))
    | renewed => exact Or.inl ⟨_, ⟨h.holder, h.token, rfl⟩⟩
  | release hs =>
    cases hs with
    | invalid | notOwner => exact Or.inl ⟨x, h⟩
    | expired expires he hle =>
      have hexp : expires = x := Option.some.inj (he.symm.trans h.expiresMs)
      exact Or.inr (Or.inr (hexp ▸ hle))
    | released holder token hbody htoken hh ht hlive =>
      right
      left
      have hholder : holder = g.holder := Option.some.inj (hh.symm.trans h.holder)
      have htok : token = g.token := Option.some.inj (ht.symm.trans h.token)
      exact ⟨by rw [hbody, ← hholder]; rfl, by rw [htoken, ← htok]⟩
  | alarmIdle => exact Or.inl ⟨x, h⟩
  | alarmExpired now expires he hle =>
    have hexp : expires = x := Option.some.inj (he.symm.trans h.expiresMs)
    exact Or.inr (Or.inr (hexp ▸ hle))

/-- A release is answered `released: true` only for the unexpired grant in the row,
and empties the row. -/
theorem Change.releases_holds (hinv : RowInvariant row) (hc : Change row e row')
    (h : e.Releases g) :
    (∃ y, Holds row g y ∧ e.now < y) ∧ row' = clearLease row := by
  cases hc with
  | acquire | renew | alarmIdle | alarmExpired => exact False.elim h
  | release hs =>
    cases hs with
    | invalid | expired | notOwner => exact False.elim h
    | released holder token hbody htoken hh ht hlive =>
      obtain ⟨hg, hg'⟩ := h
      rw [hbody] at hg
      rw [htoken] at hg'
      cases hg
      cases hg'
      rcases hinv.lease with ⟨hn, _⟩ | ⟨_, y, _, _, hy⟩
      · rw [hh] at hn
        cases hn
      · exact ⟨⟨y, ⟨hh, ht, hy⟩, hlive y hy⟩, rfl⟩

end Facts

/-- The row tracks what the callers saw. -/
structure Tracks (es : List Event) (row : Row) : Prop where
  rowOk : RowInvariant row
  held : ∀ g x, Holds row g x → (∃ e ∈ es, e.Returns g) ∧ (∀ e ∈ es, ¬ e.Releases g) ∧
    latestExpiry es g = some x
  gone : ∀ g, (∃ e ∈ es, e.Returns g) → (∃ x, Holds row g x) ∨ (∃ e ∈ es, e.Releases g) ∨
    (∃ x, latestExpiry es g = some x ∧ ∃ e ∈ es, x ≤ e.now)
  known : ∀ g e, e ∈ es → e.ActsOn g → natOf g.token ≤ counterValue row

theorem Tracks.fresh : Tracks [] Authority.fresh.row where
  rowOk := rowInvariant_fresh
  held := fun g x h => by simpa [Authority.fresh] using h.holder
  gone := by simp
  known := by simp

theorem counterValue_of_holds {row : Row} {g : Grant} {x : Int} (hinv : RowInvariant row)
    (h : Holds row g x) : natOf g.token = counterValue row := by
  have ht := hinv.newest h.holder
  rw [h.token] at ht
  rw [counterValue, ← Option.some.inj ht]

section Step

variable {es : List Event} {row row' : Row} {e : Event} {g : Grant} {x : Int}

/-- A freshly minted token has never been acted on. -/
theorem Tracks.fresh_new (ht : Tracks es row) (hc : Change row e row')
    (hf : e.freshToken = some g.token) : ∀ e' ∈ es, ¬ e'.ActsOn g := by
  intro e' he' hact
  have hle := ht.known g e' he' hact
  rcases hc.counter with ⟨hn, _⟩ | ⟨hs, _, _⟩
  · rw [hf] at hn
    cases hn
  · rw [hf] at hs
    rw [Option.some.inj hs, natOf_numeral] at hle
    omega

theorem Tracks.known_step (ht : Tracks es row) (hc : Change row e row')
    (hk : e.keepsHolder = true) (hact : e.ActsOn g) :
    natOf g.token ≤ counterValue row' := by
  rcases hact with he | hr
  · obtain ⟨y, hy⟩ := Option.isSome_iff_exists.mp he
    have hh := (hc.expiryFor_holds hk hy).1
    exact (counterValue_of_holds (hc.rowInvariant ht.rowOk) hh).le
  · obtain ⟨⟨y, hy, _⟩, _⟩ := hc.releases_holds ht.rowOk hr
    rw [counterValue_of_holds ht.rowOk hy]
    exact hc.counter_le

theorem Tracks.held_step (ht : Tracks es row) (hc : Change row e row')
    (hk : e.keepsHolder = true) (h : Holds row' g x) :
    (∃ e' ∈ es ++ [e], e'.Returns g) ∧ (∀ e' ∈ es ++ [e], ¬ e'.Releases g) ∧
      latestExpiry (es ++ [e]) g = some x := by
  have hnot : ¬ e.Releases g := by
    intro hr
    rw [(hc.releases_holds ht.rowOk hr).2] at h
    exact not_holds_clearLease h
  have hprev : (∃ y, Holds row g y) → (∃ e' ∈ es ++ [e], e'.Returns g) ∧
      ∀ e' ∈ es ++ [e], ¬ e'.Releases g := by
    rintro ⟨y, hy⟩
    obtain ⟨⟨e', he', hret⟩, hrel, _⟩ := ht.held g y hy
    refine ⟨⟨e', List.mem_append_left _ he', hret⟩, ?_⟩
    intro e'' he''
    rcases List.mem_append.mp he'' with hold | hnew
    · exact hrel e'' hold
    · rw [List.mem_singleton] at hnew
      subst e''
      exact hnot
  rcases hc.holds_after hk h with he | ⟨he, hold⟩
  · have hlast : latestExpiry (es ++ [e]) g = some x := by
      rw [latestExpiry_concat, he]
      rfl
    rcases (hc.expiryFor_holds hk he).2 with ⟨y, hy, _⟩ | hf
    · obtain ⟨hret, hrel⟩ := hprev ⟨y, hy⟩
      exact ⟨hret, hrel, hlast⟩
    · refine ⟨⟨e, by simp, isAcquire_of_freshToken hf, by rw [he]; rfl⟩, ?_, hlast⟩
      intro e'' he'' hr
      rcases List.mem_append.mp he'' with hold | hnew
      · exact ht.fresh_new hc hf e'' hold (Or.inr hr)
      · rw [List.mem_singleton] at hnew
        subst e''
        exact hnot hr
  · obtain ⟨hret, hrel⟩ := hprev ⟨x, hold⟩
    refine ⟨hret, hrel, ?_⟩
    rw [latestExpiry_concat, he]
    exact (ht.held g x hold).2.2

theorem Tracks.gone_step (ht : Tracks es row) (hc : Change row e row')
    (hk : e.keepsHolder = true) (h : ∃ e' ∈ es ++ [e], e'.Returns g) : (∃ x, Holds row' g x) ∨
      (∃ e' ∈ es ++ [e], e'.Releases g) ∨
      (∃ x, latestExpiry (es ++ [e]) g = some x ∧ ∃ e' ∈ es ++ [e], x ≤ e'.now) := by
  cases he : e.expiryFor g with
  | some y => exact Or.inl ⟨y, (hc.expiryFor_holds hk he).1⟩
  | none =>
    have hlast : latestExpiry (es ++ [e]) g = latestExpiry es g := by
      rw [latestExpiry_concat, he]
      rfl
    obtain ⟨e', he', hret⟩ := h
    have hold : ∃ e' ∈ es, e'.Returns g := by
      rcases List.mem_append.mp he' with hold | hnew
      · exact ⟨e', hold, hret⟩
      · rw [List.mem_singleton] at hnew
        subst e'
        rw [Event.Returns, he] at hret
        simp at hret
    rcases ht.gone g hold with ⟨x, hx⟩ | ⟨e'', he'', hr⟩ | ⟨x, hx, e'', he'', hle⟩
    · rcases hc.holds_before hx with hafter | hr | hle
      · exact Or.inl hafter
      · exact Or.inr (Or.inl ⟨e, by simp, hr⟩)
      · exact Or.inr (Or.inr ⟨x, by rw [hlast, (ht.held g x hx).2.2], e, by simp, hle⟩)
    · exact Or.inr (Or.inl ⟨e'', List.mem_append_left _ he'', hr⟩)
    · exact Or.inr (Or.inr ⟨x, by rw [hlast, hx], e'', List.mem_append_left _ he'', hle⟩)

theorem Tracks.step (ht : Tracks es row) (hc : Change row e row') (hk : e.keepsHolder = true) :
    Tracks (es ++ [e]) row' where
  rowOk := hc.rowInvariant ht.rowOk
  held := fun _ _ h => ht.held_step hc hk h
  gone := fun _ h => ht.gone_step hc hk h
  known := by
    intro g e' he' hact
    rcases List.mem_append.mp he' with hold | hnew
    · exact (ht.known g e' hold hact).trans hc.counter_le
    · rw [List.mem_singleton] at hnew
      subst e'
      exact ht.known_step hc hk hact

end Step

theorem tracks_of_exec {es : List Event} {s : Storage} (h : Exec Step fresh es s)
    (hkeeps : ∀ e ∈ es, e.keepsHolder = true) : Tracks es s.row := by
  induction h with
  | nil => exact Tracks.fresh
  | snoc _ hstep ih =>
    exact (ih fun e he => hkeeps e (List.mem_append_left _ he)).step hstep.change
      (hkeeps _ (by simp))

section Live

variable {es : List Event} {row : Row} {g : Grant} {t : Int}

/-- At or after the last clock reading the live grants are exactly the unexpired
grant in the row. -/
theorem Tracks.live_iff (ht : Tracks es row) (hclock : ∀ e ∈ es, e.now ≤ t) :
    Live es g t ↔ ∃ x, Holds row g x ∧ t < x := by
  constructor
  · intro hl
    obtain ⟨x, hx, hlt⟩ := hl.unexpired
    rcases ht.gone g hl.returned with ⟨y, hy⟩ | ⟨e, he, hr⟩ | ⟨y, hy, e, he, hle⟩
    · have hxy := (ht.held g y hy).2.2
      rw [hx] at hxy
      cases hxy
      exact ⟨x, hy, hlt⟩
    · exact absurd hr (hl.unreleased e he)
    · rw [hx] at hy
      cases hy
      have := hclock e he
      omega
  · rintro ⟨x, hx, hlt⟩
    obtain ⟨hret, hrel, hlast⟩ := ht.held g x hx
    exact ⟨hret, hrel, x, hlast, hlt⟩

/-- The grant is not stored with an expiry after `t`, and its token is old. -/
def Dead (g : Grant) (t : Int) (row : Row) : Prop :=
  (∀ x, Holds row g x → x ≤ t) ∧ natOf g.token ≤ counterValue row

/-- A returned grant that is not live at `t` is dead for the rest of a run whose
readings are not before `t`. -/
theorem Tracks.dead (ht : Tracks es row) (hret : ∃ e ∈ es, e.Returns g) (hl : ¬ Live es g t) :
    Dead g t row := by
  refine ⟨?_, ?_⟩
  · intro x hx
    by_contra hlt
    obtain ⟨hr, hrel, hlast⟩ := ht.held g x hx
    exact hl ⟨hr, hrel, x, hlast, by omega⟩
  · obtain ⟨e, he, hr⟩ := hret
    exact ht.known g e he (Or.inl hr.2)

theorem Dead.not_actsOn {row' : Row} {e : Event} (hd : Dead g t row) (hinv : RowInvariant row)
    (hc : Change row e row') (hk : e.keepsHolder = true) (hle : t ≤ e.now) : ¬ e.ActsOn g := by
  have hstored : ¬ ∃ y, Holds row g y ∧ e.now < y := by
    rintro ⟨y, hy, hlt⟩
    have := hd.1 y hy
    omega
  rintro (he | hr)
  · obtain ⟨x, hx⟩ := Option.isSome_iff_exists.mp he
    rcases (hc.expiryFor_holds hk hx).2 with hy | hf
    · exact hstored hy
    · rcases hc.counter with ⟨hn, _⟩ | ⟨hs, _, _⟩
      · rw [hf] at hn
        cases hn
      · have hold := hd.2
        rw [hf] at hs
        rw [Option.some.inj hs, natOf_numeral] at hold
        omega
  · exact hstored (hc.releases_holds hinv hr).1

theorem Dead.step {row' : Row} {e : Event} (hd : Dead g t row) (hinv : RowInvariant row)
    (hc : Change row e row') (hk : e.keepsHolder = true) (hle : t ≤ e.now) : Dead g t row' := by
  refine ⟨?_, hd.2.trans hc.counter_le⟩
  intro x hx
  rcases hc.holds_after hk hx with he | ⟨_, hold⟩
  · exact absurd (Or.inl (by rw [he]; rfl)) (hd.not_actsOn hinv hc hk hle)
  · exact hd.1 x hold

theorem Dead.run {row' : Row} {fs : List Event} (hd : Dead g t row) (hinv : RowInvariant row)
    (h : Exec Change row fs row') (hkeeps : ∀ e ∈ fs, e.keepsHolder = true)
    (hle : ∀ e ∈ fs, t ≤ e.now) : Dead g t row' ∧ RowInvariant row' := by
  induction h with
  | nil => exact ⟨hd, hinv⟩
  | snoc _ hc ih =>
    obtain ⟨hd', hinv'⟩ := ih (fun e he => hkeeps e (List.mem_append_left _ he))
      (fun e he => hle e (List.mem_append_left _ he))
    exact ⟨hd'.step hinv' hc (hkeeps _ (by simp)) (hle _ (by simp)), hc.rowInvariant hinv'⟩

/-- A grant that is live at the end of a run was live at every call after it was returned. -/
theorem live_of_later {pre post : List Event} {e : Event} {s : Storage}
    (h : Exec Step fresh (pre ++ e :: post) s)
    (hkeeps : ∀ e' ∈ pre ++ e :: post, e'.keepsHolder = true)
    (hclock : (pre ++ e :: post).Pairwise fun a b => a.now ≤ b.now)
    (hret : ∃ e' ∈ pre, e'.Returns g) (hlast : ∀ e' ∈ pre ++ e :: post, e'.now ≤ t)
    (hlive : Live (pre ++ e :: post) g t) : Live pre g e.now := by
  by_contra hdead
  obtain ⟨u, hpre, hrest⟩ := h.split
  rw [List.pairwise_append, List.pairwise_cons] at hclock
  have hlater : ∀ e' ∈ e :: post, e.now ≤ e'.now := by
    intro e' he'
    rcases List.mem_cons.mp he' with rfl | hmem
    · exact le_refl _
    · exact hclock.2.1.1 e' hmem
  have hkept := tracks_of_exec hpre fun e' he' => hkeeps e' (List.mem_append_left _ he')
  have hend := ((hkept.dead hret hdead).run (rowInvariant_of_exec hpre) (change_of_exec hrest)
    (fun e' he' => hkeeps e' (List.mem_append_right _ he')) hlater).1
  obtain ⟨x, hx, hlt⟩ := ((tracks_of_exec h hkeeps).live_iff hlast).mp hlive
  have hle := hend.1 x hx
  have hnow := hlast e (by simp)
  omega

end Live

section Calls

variable {es : List Event} {row row' : Row} {body : LeaseBody} {now : Int}
  {holder token : JsString}

/-- With a valid body, `renew` succeeds exactly for the live grant. -/
theorem Tracks.renewed_iff (ht : Tracks es row) (hclock : ∀ e ∈ es, e.now ≤ now)
    {outcome : RenewOutcome} (hs : RenewSpec body now row outcome row')
    (hbody : body.holder = .string holder) (hvalid : validHolder body.holder = true)
    (httl : validTtl body.ttlMs = true) (htoken : canonicalToken body.fencingToken = some token) :
    (∃ expires ttl, outcome = .renewed expires ttl) ↔ Live es ⟨holder, token⟩ now := by
  rw [ht.live_iff hclock]
  cases hs with
  | invalid error hbad => simp [hvalid, httl, htoken] at hbad
  | expired expires he hle =>
    simp only [reduceCtorEq, exists_false, false_iff, not_exists, not_and]
    intro x hx
    have hxe := hx.expiresMs
    rw [he] at hxe
    cases hxe
    omega
  | notOwner hlive hmiss =>
    simp only [reduceCtorEq, exists_false, false_iff, not_exists, not_and]
    intro x hx
    rw [hbody, htoken] at hmiss
    rcases hmiss with hm | hm | hm
    · exact absurd hx.holder hm
    · exact absurd hx.token hm
    · rw [hx.expiresMs] at hm
      cases hm
  | renewed holder' token' expires hbody' htoken' hh htok he hlt =>
    rw [hbody] at hbody'
    rw [htoken] at htoken'
    cases hbody'
    cases htoken'
    exact ⟨fun _ => ⟨expires, ⟨hh, htok, he⟩, hlt⟩, fun _ => ⟨_, _, rfl⟩⟩

/-- With a valid body, `release` succeeds exactly for the live grant. -/
theorem Tracks.released_iff (ht : Tracks es row) (hclock : ∀ e ∈ es, e.now ≤ now)
    {outcome : ReleaseOutcome} (hs : ReleaseSpec body now row outcome row')
    (hbody : body.holder = .string holder) (hvalid : validHolder body.holder = true)
    (htoken : canonicalToken body.fencingToken = some token) :
    outcome = .released ↔ Live es ⟨holder, token⟩ now := by
  rw [ht.live_iff hclock]
  cases hs with
  | invalid error hbad => simp [hvalid, htoken] at hbad
  | expired expires he hle =>
    simp only [reduceCtorEq, false_iff, not_exists, not_and]
    intro x hx
    have hxe := hx.expiresMs
    rw [he] at hxe
    cases hxe
    omega
  | notOwner hlive hmiss =>
    simp only [reduceCtorEq, false_iff, not_exists, not_and]
    intro x hx
    rw [hbody, htoken] at hmiss
    rcases hmiss with hm | hm
    · exact absurd hx.holder hm
    · exact absurd hx.token hm
  | released holder' token' hbody' htoken' hh htok hlive =>
    rw [hbody] at hbody'
    rw [htoken] at htoken'
    cases hbody'
    cases htoken'
    rcases ht.rowOk.lease with ⟨hn, _⟩ | ⟨_, x, _, _, hx⟩
    · rw [hh] at hn
      cases hn
    · exact ⟨fun _ => ⟨x, ⟨hh, htok, hx⟩, hlive x hx⟩, fun _ => rfl⟩

end Calls

/-- Mutual exclusion over every run with nondecreasing readings whose holders are stored
as they were sent: at any moment at most one returned grant is live, `renew` and
`release` succeed exactly for the live one, and a returned grant that is not live at some
moment is never renewed, released or returned by a later call. -/
theorem mutual_exclusion_of_run (es : List Event) (s : Storage) (h : Exec Step fresh es s)
    (hkeeps : ∀ e ∈ es, e.keepsHolder = true)
    (hclock : es.Pairwise fun a b => a.now ≤ b.now) :
    (∀ t, (∀ e ∈ es, e.now ≤ t) → ∀ g g', Live es g t → Live es g' t → g = g') ∧
    (∀ pre post body now outcome holder token,
      es = pre ++ .renew body now outcome :: post → body.holder = .string holder →
      validHolder body.holder = true → validTtl body.ttlMs = true →
      canonicalToken body.fencingToken = some token →
      ((∃ expires ttl, outcome = .renewed expires ttl) ↔ Live pre ⟨holder, token⟩ now)) ∧
    (∀ pre post body now outcome holder token,
      es = pre ++ .release body now outcome :: post → body.holder = .string holder →
      validHolder body.holder = true → canonicalToken body.fencingToken = some token →
      (outcome = .released ↔ Live pre ⟨holder, token⟩ now)) ∧
    (∀ pre mid post e g t, es = pre ++ mid ++ e :: post → (∃ e' ∈ pre, e'.Returns g) →
      ¬ Live pre g t → (∀ e' ∈ mid ++ [e], t ≤ e'.now) → ¬ e.ActsOn g) := by
  have before : ∀ {pre post e}, es = pre ++ e :: post → ∀ e' ∈ pre, e'.now ≤ e.now := by
    intro pre post e hes e' he'
    rw [hes, List.pairwise_append] at hclock
    exact hclock.2.2 e' he' e List.mem_cons_self
  have tracks : ∀ {pre post e u}, es = pre ++ e :: post → Exec Step fresh pre u →
      Tracks pre u.row := by
    intro pre post e u hes hpre
    exact tracks_of_exec hpre fun e' he' => hkeeps e' (hes ▸ List.mem_append_left _ he')
  refine ⟨?_, ?_, ?_, ?_⟩
  · intro t hle g g' hg hg'
    obtain ⟨x, hx, _⟩ := ((tracks_of_exec h hkeeps).live_iff hle).mp hg
    obtain ⟨x', hx', _⟩ := ((tracks_of_exec h hkeeps).live_iff hle).mp hg'
    exact (hx.unique hx').1
  · intro pre post body now outcome holder token hes hbody hvalid httl htoken
    have hbefore := before hes
    have hrun := hes ▸ h
    obtain ⟨t, t', hpre, hstep, _⟩ := hrun.split_at
    cases hstep.change with
    | renew hs => exact (tracks hes hpre).renewed_iff hbefore hs hbody hvalid httl htoken
  · intro pre post body now outcome holder token hes hbody hvalid htoken
    have hbefore := before hes
    have hrun := hes ▸ h
    obtain ⟨t, t', hpre, hstep, _⟩ := hrun.split_at
    cases hstep.change with
    | release hs => exact (tracks hes hpre).released_iff hbefore hs hbody hvalid htoken
  · intro pre mid post e g t hes hret hlive hle
    rw [hes] at h hkeeps
    obtain ⟨u, u', hmid, hstep, _⟩ := h.split_at
    obtain ⟨v, hpre, hmid'⟩ := hmid.split
    have hkept := tracks_of_exec hpre fun e' he' => hkeeps e' (by simp [he'])
    obtain ⟨hd, hinv⟩ := (hkept.dead hret hlive).run (rowInvariant_of_exec hpre)
      (change_of_exec hmid') (fun e' he' => hkeeps e' (by simp [he']))
      (fun e' he' => hle e' (List.mem_append_left _ he'))
    exact hd.not_actsOn hinv hstep.change (hkeeps e (by simp)) (hle e (by simp))

/-- The body with which the first holder of `sampleBody` renews. -/
def sampleRenewal : LeaseBody :=
  ⟨.string [0x61], .undefined, .number (.ofInt 1000), .string (numeral 1)⟩

theorem renewal_of_first_grant_live :
    (renew sampleRenewal 7 (acquire sampleBody 5 fresh).2).1 = .renewed 1007 1000 ∧
    Live [.acquire sampleBody 5 (acquire sampleBody 5 fresh).1] ⟨[0x61], numeral 1⟩ 7 := by
  have hrun : Exec Step fresh
      ([.acquire sampleBody 5 (acquire sampleBody 5 fresh).1] ++
        [.renew sampleRenewal 7 (renew sampleRenewal 7 (acquire sampleBody 5 fresh).2).1])
      (renew sampleRenewal 7 (acquire sampleBody 5 fresh).2).2 :=
    .snoc (.single (.acquire sampleBody 5)) (.renew sampleRenewal 7)
  have hres : (renew sampleRenewal 7 (acquire sampleBody 5 fresh).2).1 = .renewed 1007 1000 := by
    decide
  refine ⟨hres, ?_⟩
  have h := (mutual_exclusion_of_run _ _ hrun (by simp; decide) (by simp [Event.now])).2.1 _ []
    sampleRenewal 7 _ [0x61] (numeral 1) rfl rfl (by decide) (by decide) (by decide)
  exact h.mp ⟨1007, 1000, hres⟩

/-- A body of the given holder that carries the first token. -/
def holderBody (holder : JsString) : LeaseBody :=
  ⟨.string holder, .undefined, .number (.ofInt 1000), .string (numeral 1)⟩

/-- Three calls: the holder U+D800 acquires and renews, and the holder U+FFFD acquires. -/
def sampleStrangers : List Event :=
  [.acquire (holderBody [0xd800]) 5 (.granted (numeral 1) 1005 1000),
    .renew (holderBody [0xd800]) 6 (.refused .notOwner),
    .acquire (holderBody [0xfffd]) 7 (.replayed (some (numeral 1)) 1005)]

/-- The holder U+D800 is stored as U+FFFD: its live grant cannot be renewed, and the
holder U+FFFD is given the same token, so that two grants are live at once. -/
theorem strangers_share_lease :
    (∃ s, Exec Step fresh sampleStrangers s) ∧
    (sampleStrangers.Pairwise fun a b => a.now ≤ b.now) ∧
    Live (sampleStrangers.take 1) ⟨[0xd800], numeral 1⟩ 6 ∧
    Live sampleStrangers ⟨[0xd800], numeral 1⟩ 7 ∧
    Live sampleStrangers ⟨[0xfffd], numeral 1⟩ 7 := by
  have hgranted : (acquire (holderBody [0xd800]) 5 fresh).1 = .granted (numeral 1) 1005 1000 := by
    decide
  have hrefused : (renew (holderBody [0xd800]) 6 (acquire (holderBody [0xd800]) 5 fresh).2).1 =
      .refused .notOwner := by decide
  have hreplayed : (acquire (holderBody [0xfffd]) 7
      (renew (holderBody [0xd800]) 6 (acquire (holderBody [0xd800]) 5 fresh).2).2).1 =
      .replayed (some (numeral 1)) 1005 := by decide
  have hrun := Exec.snoc (Exec.snoc (Exec.single (Step.acquire (s := fresh)
    (holderBody [0xd800]) 5)) (.renew (holderBody [0xd800]) 6)) (.acquire (holderBody [0xfffd]) 7)
  rw [hgranted, hrefused, hreplayed] at hrun
  have hunreleased : ∀ g, ∀ e ∈ sampleStrangers, ¬ e.Releases g := by
    intro g e he
    simp only [sampleStrangers, List.mem_cons, List.not_mem_nil, or_false] at he
    rcases he with rfl | rfl | rfl <;> exact not_false
  refine ⟨⟨_, hrun⟩, by decide, ?_, ?_, ?_⟩
  · refine ⟨⟨_, List.mem_cons_self, rfl, by decide⟩, ?_, 1005, by decide, by decide⟩
    intro e he
    exact hunreleased _ e (List.mem_of_mem_take he)
  · exact ⟨⟨_, List.mem_cons_self, rfl, by decide⟩, hunreleased _, 1005, by decide, by decide⟩
  · exact ⟨⟨_, List.mem_of_getElem? (i := 2) rfl, rfl, by decide⟩, hunreleased _, 1005,
      by decide, by decide⟩

end OresLocks.Authority
