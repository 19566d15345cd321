import OresLocks.AuthorityRuns

/-!
# Request identities of the authority

The request id of a lease is bound late: it can be absent at the grant, adopted
by a later call of the same holder, and dropped when the lease is cleared. It is
compared as it was sent with what the column gives back. Over every run, with any
clock readings, two request ids are given one token only when one of them is the
stored form of the other.
-/

namespace OresLocks.Authority

set_option autoImplicit false

open Shared.Numeral Shared.Runs

/-- The answer has `acquired: true`. -/
def AcquireOutcome.acquired : AcquireOutcome → Bool
  | .replayed _ _ => true
  | .granted _ _ _ => true
  | _ => false

/-- The request id of a call that was answered `acquired: true`. -/
def Event.servedRequest : Event → Option JsString
  | .acquire body _ (.replayed _ _) => text body.requestId
  | .acquire body _ (.granted _ _ _) => text body.requestId
  | _ => none

theorem Event.acquired_of_returnedToken {body : LeaseBody} {now : Int} {outcome : AcquireOutcome}
    {token : JsString} (h : (Event.acquire body now outcome).returnedToken = some token) :
    outcome.acquired = true ∧
      (Event.acquire body now outcome).servedRequest = text body.requestId := by
  cases outcome with
  | error | refused | threw => cases h
  | replayed | granted => exact ⟨rfl, rfl⟩

theorem acquire_valid {body : LeaseBody} {now : Int} {s : Storage}
    (h : (acquire body now s).1.acquired = true) :
    validHolder body.holder = true ∧ validRequestId body.requestId = true ∧
      validTtl body.ttlMs = true := by
  unfold acquire at h
  split at h
  · cases h
  rename_i hholder
  split at h
  · cases h
  rename_i hreq
  split at h
  · cases h
  rename_i httl
  exact ⟨by simpa using hholder, by simpa using hreq, by simpa using httl⟩

/-- A request id that passes the check is a string that JavaScript takes for true. -/
theorem truthy_of_validRequestId {requestId : JsValue} {r : JsString}
    (h : validRequestId requestId = true) (ht : text requestId = some r) :
    truthy (some r) = true := by
  cases requestId with
  | string s =>
    cases ht
    simp only [validRequestId, validIdentity, Bool.or_eq_true, Bool.and_eq_true, beq_iff_eq,
      reduceCtorEq, false_or, decide_eq_true_eq] at h
    cases r with
    | nil => simp at h
    | cons => rfl
  | _ => cases ht

theorem truthy_servedRequest {s t : Storage} {e : Event} (h : Step s e t) {r : JsString}
    (hr : e.servedRequest = some r) : truthy (some r) = true := by
  cases h with
  | acquire body now =>
    have hacq : (acquire body now s).1.acquired = true ∧ text body.requestId = some r := by
      cases ho : (acquire body now s).1 <;>
        simp_all [Event.servedRequest, AcquireOutcome.acquired]
    exact truthy_of_validRequestId (acquire_valid hacq.1).2.1 hacq.2
  | renew | release | alarm => cases hr

/-- The form in which the column keeps the request id of a served call. -/
def Event.storedRequest (e : Event) : Option JsString :=
  e.servedRequest.map JsString.toWellFormed

theorem truthy_toWellFormed (requestId : Option JsString) :
    truthy (requestId.map JsString.toWellFormed) = truthy requestId := by
  cases requestId with
  | none => rfl
  | some s =>
    rw [Bool.eq_iff_iff]
    simp [truthy]

/-- What one call does to the pair of stored token and stored request. -/
theorem Change.requestId_cases {row row' : Row} {e : Event} (hc : Change row e row') :
    (row'.token = none ∧ row'.requestId = none ∧ e.servedRequest = none) ∨
    (row'.token = row.token ∧ row'.requestId = row.requestId ∧ e.servedRequest = none) ∨
    (row'.token = row.token ∧ e.returnedToken = row.token ∧
      ¬ (truthy e.servedRequest && truthy row.requestId && e.servedRequest != row.requestId) ∧
      row'.requestId = (if truthy e.servedRequest && !truthy row.requestId
        then e.storedRequest else row.requestId)) ∨
    (row'.token = e.freshToken ∧ e.returnedToken = e.freshToken ∧ e.freshToken.isSome ∧
      row'.requestId = e.storedRequest) := by
  cases hc with
  | acquire hs =>
    cases hs with
    | invalid | refused | exhausted | corrupt => exact Or.inr (Or.inl ⟨rfl, rfl, rfl⟩)
    | replayed holder expires requestId _ _ _ _ hreq hid =>
      exact Or.inr (Or.inr (Or.inl ⟨rfl, rfl, hreq, hid⟩))
    | granted => exact Or.inr (Or.inr (Or.inr ⟨rfl, rfl, rfl, rfl⟩))
  | renew hs =>
    cases hs with
    | invalid | notOwner | renewed => exact Or.inr (Or.inl ⟨rfl, rfl, rfl⟩)
    | expired => exact Or.inl ⟨rfl, rfl, rfl⟩
  | release hs =>
    cases hs with
    | invalid | notOwner => exact Or.inr (Or.inl ⟨rfl, rfl, rfl⟩)
    | expired | released => exact Or.inl ⟨rfl, rfl, rfl⟩
  | alarmIdle => exact Or.inr (Or.inl ⟨rfl, rfl, rfl⟩)
  | alarmExpired => exact Or.inl ⟨rfl, rfl, rfl⟩

/-- One of the two request ids is the other, or is what a `TEXT` column makes of it. -/
def Confused (r r' : JsString) : Prop :=
  r = r' ∨ r = JsString.toWellFormed r' ∨ r' = JsString.toWellFormed r

/-- The stored request is that of every earlier call served with the stored token, and
calls that were served one token carry request ids that the column confuses. -/
structure OneRequest (es : List Event) (row : Row) : Prop where
  wellFormed : ∀ r, row.requestId = some r → JsString.toWellFormed r = r
  nonempty : ∀ e ∈ es, ∀ r, e.servedRequest = some r → truthy (some r) = true
  stored : ∀ e ∈ es, ∀ r token, e.servedRequest = some r → e.returnedToken = some token →
    row.token = some token → row.requestId = some r.toWellFormed
  single : ∀ e ∈ es, ∀ e' ∈ es, ∀ r r' token, e.servedRequest = some r →
    e'.servedRequest = some r' → e.returnedToken = some token → e'.returnedToken = some token →
    Confused r r'

theorem wellFormed_storedRequest {e : Event} {r : JsString} (h : e.storedRequest = some r) :
    JsString.toWellFormed r = r := by
  obtain ⟨sent, _, rfl⟩ := Option.map_eq_some_iff.mp h
  exact JsString.toWellFormed_idem sent

section Step

variable {es : List Event} {row row' : Row} {e : Event}

theorem OneRequest.wellFormed_step (h : OneRequest es row) (hc : Change row e row') {r : JsString}
    (hr : row'.requestId = some r) : JsString.toWellFormed r = r := by
  rcases hc.requestId_cases with ⟨_, hid, _⟩ | ⟨_, hid, _⟩ | ⟨_, _, _, hid⟩ | ⟨_, _, _, hid⟩
  · rw [hid] at hr
    cases hr
  · exact h.wellFormed r (hid ▸ hr)
  · rw [hid] at hr
    split at hr
    · exact wellFormed_storedRequest hr
    · exact h.wellFormed r hr
  · exact wellFormed_storedRequest (hid ▸ hr)

/-- The request stored after a call that returned a token is the request of the
call, and of every earlier call served with that token. -/
theorem OneRequest.stored_step (h : OneRequest es row) (hc : Change row e row')
    (htruthy : ∀ r, e.servedRequest = some r → truthy (some r) = true)
    (hfresh : ∀ e' ∈ es, ∀ token, e.freshToken = some token → e'.returnedToken ≠ some token) :
    ∀ e' ∈ es ++ [e], ∀ r token, e'.servedRequest = some r → e'.returnedToken = some token →
      row'.token = some token → row'.requestId = some r.toWellFormed := by
  intro e' he' r token hr ht hrow
  rcases hc.requestId_cases with ⟨htok, _, _⟩ | ⟨htok, hid, hserved⟩ |
    ⟨htok, hret, hreq, hid⟩ | ⟨htok, hret, hsome, hid⟩
  · rw [htok] at hrow
    cases hrow
  · rw [hid]
    rcases List.mem_append.mp he' with hmem | hmem
    · exact h.stored e' hmem r token hr ht (htok ▸ hrow)
    · rw [List.mem_singleton.mp hmem, hserved] at hr
      cases hr
  · rcases List.mem_append.mp he' with hmem | hmem
    · have hold := h.stored e' hmem r token hr ht (htok ▸ hrow)
      have htr := h.nonempty e' hmem r hr
      rw [← truthy_toWellFormed, Option.map_some, ← hold] at htr
      rw [hid, htr, hold]
      simp
    · rw [List.mem_singleton] at hmem
      subst hmem
      have htr := htruthy r hr
      rw [hr] at hreq
      rw [hid, Event.storedRequest, hr]
      cases hrow : truthy row.requestId with
      | false => simp [htr]
      | true =>
        -- the call repeats the stored request, which storing leaves as it is
        simp only [htr, hrow, Bool.true_and, bne_iff_ne, ne_eq, not_not] at hreq
        rw [h.wellFormed r hreq.symm, ← hreq]
        simp
  · rcases List.mem_append.mp he' with hmem | hmem
    · exact absurd ht (hfresh e' hmem token (htok ▸ hrow))
    · rw [List.mem_singleton] at hmem
      subst hmem
      rw [hid, Event.storedRequest, hr]
      rfl

/-- A call served with the token of an earlier one repeats its request as stored. -/
theorem OneRequest.repeats (h : OneRequest es row) (hc : Change row e row')
    (htruthy : ∀ r, e.servedRequest = some r → truthy (some r) = true)
    (hfresh : ∀ e' ∈ es, ∀ token, e.freshToken = some token → e'.returnedToken ≠ some token)
    {e' : Event} (he' : e' ∈ es) {r r' token : JsString} (hr : e.servedRequest = some r)
    (hr' : e'.servedRequest = some r') (ht : e.returnedToken = some token)
    (ht' : e'.returnedToken = some token) : r = r'.toWellFormed := by
  rcases hc.requestId_cases with ⟨_, _, hserved⟩ | ⟨_, _, hserved⟩ | ⟨_, hret, hreq, _⟩ |
    ⟨_, hret, _, _⟩
  · rw [hr] at hserved
    cases hserved
  · rw [hr] at hserved
    cases hserved
  · have hold := h.stored e' he' r' token hr' ht' (hret ▸ ht)
    have htr' := h.nonempty e' he' r' hr'
    rw [← truthy_toWellFormed, Option.map_some] at htr'
    rw [hr, hold, htruthy r hr, htr'] at hreq
    simpa using hreq
  · exact absurd ht' (hfresh e' he' token (hret ▸ ht))

end Step

theorem oneRequest_of_exec {es : List Event} {s : Storage} (h : Exec Step fresh es s) :
    OneRequest es s.row := by
  refine h.invariant (I := fun es s => OneRequest es s.row)
    ⟨by simp [fresh], by simp, by simp, by simp⟩ ?_
  intro es s e t hexec hi hstep
  have htruthy : ∀ r, e.servedRequest = some r → truthy (some r) = true :=
    fun r hr => truthy_servedRequest hstep hr
  have hfresh : ∀ e' ∈ es, ∀ token, e.freshToken = some token → e'.returnedToken ≠ some token := by
    intro e' he' token hf ht
    have hrun : Exec Step fresh (es ++ e :: []) t := hexec.snoc hstep
    obtain ⟨_, _, hlt⟩ := freshToken_gt hrun hf
    have hself := (hlt e' he' token ht).2
    omega
  have hrepeats : ∀ {e'}, e' ∈ es → ∀ {r r' token}, e.servedRequest = some r →
      e'.servedRequest = some r' → e.returnedToken = some token →
      e'.returnedToken = some token → r = r'.toWellFormed :=
    fun he' => hi.repeats hstep.change htruthy hfresh he'
  refine ⟨fun r hr => hi.wellFormed_step hstep.change hr, ?_,
    hi.stored_step hstep.change htruthy hfresh, ?_⟩
  · intro e' he' r hr
    rcases List.mem_append.mp he' with hmem | hmem
    · exact hi.nonempty e' hmem r hr
    · rw [List.mem_singleton] at hmem
      subst hmem
      exact htruthy r hr
  · intro e₁ h₁ e₂ h₂ r₁ r₂ token hr₁ hr₂ ht₁ ht₂
    rcases List.mem_append.mp h₁ with hm₁ | hm₁
    · rcases List.mem_append.mp h₂ with hm₂ | hm₂
      · exact hi.single e₁ hm₁ e₂ hm₂ r₁ r₂ token hr₁ hr₂ ht₁ ht₂
      · rw [List.mem_singleton] at hm₂
        subst hm₂
        exact Or.inr (Or.inr (hrepeats hm₁ hr₂ hr₁ ht₂ ht₁))
    · rw [List.mem_singleton] at hm₁
      subst hm₁
      rcases List.mem_append.mp h₂ with hm₂ | hm₂
      · exact Or.inr (Or.inl (hrepeats hm₂ hr₁ hr₂ ht₁ ht₂))
      · rw [List.mem_singleton] at hm₂
        subst hm₂
        exact Or.inl (Option.some.inj (hr₁.symm.trans hr₂))

theorem Change.acquired_token {row row' : Row} {body : LeaseBody} {now : Int}
    {outcome : AcquireOutcome} (hc : Change row (.acquire body now outcome) row')
    (h : RowInvariant row) (ha : outcome.acquired = true) :
    ∃ token, (Event.acquire body now outcome).returnedToken = some token := by
  cases hc with
  | acquire hs =>
    cases hs with
    | invalid | refused | exhausted | corrupt => cases ha
    | replayed holder expires requestId _ hh => exact ⟨row.nextToken, h.newest hh⟩
    | granted holder token => exact ⟨token, rfl⟩

theorem Change.replayed_row {row row' : Row} {body : LeaseBody} {now expires : Int}
    {token : Option JsString} (hc : Change row (.acquire body now (.replayed token expires)) row') :
    row'.holder = row.holder ∧ row'.token = row.token ∧ row'.expiresMs = row.expiresMs ∧
      row'.nextToken = row.nextToken := by
  cases hc with
  | acquire hs =>
    cases hs with
    | replayed => exact ⟨rfl, rfl, rfl, rfl⟩

/-- An answer with `acquired: true` names a token, and its request id, when there
is one, is a string. -/
theorem acquired_of_exec {es : List Event} {s : Storage} (h : Exec Step fresh es s)
    {body : LeaseBody} {now : Int} {outcome : AcquireOutcome}
    (he : .acquire body now outcome ∈ es) (ha : outcome.acquired = true) :
    (∃ token, (Event.acquire body now outcome).returnedToken = some token) ∧
    (body.requestId ≠ .undefined → body.requestId ≠ .null →
      ∃ r, body.requestId = .string r ∧
        (Event.acquire body now outcome).servedRequest = some r) := by
  obtain ⟨pre, post, rfl⟩ := List.append_of_mem he
  obtain ⟨t, t', hpre, hstep, _⟩ := h.split_at
  refine ⟨?_, ?_⟩
  · exact hstep.change.acquired_token (rowInvariant_of_exec hpre) ha
  · intro hundef hnull
    have hvalid : validRequestId body.requestId = true := by
      cases hstep
      exact (acquire_valid ha).2.1
    simp only [validRequestId, Bool.or_eq_true, beq_iff_eq, hundef, hnull, false_or] at hvalid
    obtain ⟨r, hr⟩ := validIdentity_string hvalid
    refine ⟨r, hr, ?_⟩
    cases outcome with
    | error | refused | threw => cases ha
    | replayed | granted => simp [Event.servedRequest, hr, text]

/-- Two calls with different request ids, neither of which is the stored form of the
other, get different tokens when both are answered `acquired: true`, over every run and
under any clock; and a replayed answer leaves the lease and the counter as they were. -/
theorem request_ids_never_share_token (es : List Event) (s : Storage)
    (h : Exec Step fresh es s) :
    (∀ body₁ now₁ outcome₁ body₂ now₂ outcome₂,
      .acquire body₁ now₁ outcome₁ ∈ es → .acquire body₂ now₂ outcome₂ ∈ es →
      outcome₁.acquired = true → outcome₂.acquired = true →
      body₁.requestId ≠ .undefined → body₁.requestId ≠ .null →
      body₂.requestId ≠ .undefined → body₂.requestId ≠ .null →
      body₁.requestId ≠ body₂.requestId →
      text body₁.requestId ≠ stored body₂.requestId →
      text body₂.requestId ≠ stored body₁.requestId →
      ∃ token₁ token₂, (Event.acquire body₁ now₁ outcome₁).returnedToken = some token₁ ∧
        (Event.acquire body₂ now₂ outcome₂).returnedToken = some token₂ ∧ token₁ ≠ token₂) ∧
    (∀ body now token expires t, Step s (.acquire body now (.replayed token expires)) t →
      t.row.holder = s.row.holder ∧ t.row.token = s.row.token ∧
      t.row.expiresMs = s.row.expiresMs ∧ t.row.nextToken = s.row.nextToken) := by
  refine ⟨?_, ?_⟩
  · intro body₁ now₁ outcome₁ body₂ now₂ outcome₂ h₁ h₂ ha₁ ha₂ hu₁ hn₁ hu₂ hn₂ hne hne₁ hne₂
    obtain ⟨⟨token₁, ht₁⟩, hid₁⟩ := acquired_of_exec h h₁ ha₁
    obtain ⟨⟨token₂, ht₂⟩, hid₂⟩ := acquired_of_exec h h₂ ha₂
    obtain ⟨r₁, hr₁, hs₁⟩ := hid₁ hu₁ hn₁
    obtain ⟨r₂, hr₂, hs₂⟩ := hid₂ hu₂ hn₂
    refine ⟨token₁, token₂, ht₁, ht₂, ?_⟩
    intro heq
    subst heq
    rw [hr₁, hr₂] at hne hne₁ hne₂
    rcases (oneRequest_of_exec h).single _ h₁ _ h₂ r₁ r₂ token₁ hs₁ hs₂ ht₁ ht₂ with
      hsame | hsame | hsame
    · exact hne (congrArg JsValue.string hsame)
    · exact hne₁ (congrArg some hsame)
    · exact hne₂ (congrArg some hsame)
  · intro body now token expires t hstep
    exact hstep.change.replayed_row

/-- A body of the holder `a` with the request id `r`. -/
def requestBody (r : JsString) : LeaseBody :=
  ⟨.string [0x61], .string r, .number (.ofInt 1000), .undefined⟩

/-- The lease is taken without a request id, adopts `x`, expires, and is granted
again for `y`. -/
theorem adopted_request_keeps_token :
    ∃ token₁ token₂, token₁ ≠ token₂ ∧
      (acquire (requestBody [0x78]) 6 (acquire sampleBody 5 fresh).2).1 =
        .replayed (some token₁) 1005 ∧
      (acquire (requestBody [0x79]) 1005
        (acquire (requestBody [0x78]) 6 (acquire sampleBody 5 fresh).2).2).1 =
        .granted token₂ 2005 1000 := by
  have hadopt : (acquire (requestBody [0x78]) 6 (acquire sampleBody 5 fresh).2).1 =
      .replayed (some (numeral 1)) 1005 := by decide
  have hregrant : (acquire (requestBody [0x79]) 1005
      (acquire (requestBody [0x78]) 6 (acquire sampleBody 5 fresh).2).2).1 =
      .granted (numeral 2) 2005 1000 := by decide
  have hrun := Exec.snoc (Exec.snoc (Exec.single (Step.acquire (s := fresh) sampleBody 5))
    (.acquire (requestBody [0x78]) 6)) (.acquire (requestBody [0x79]) 1005)
  rw [hadopt, hregrant] at hrun
  obtain ⟨token₁, token₂, ht₁, ht₂, hne⟩ := (request_ids_never_share_token _ _ hrun).1
    (requestBody [0x78]) 6 (.replayed (some (numeral 1)) 1005) (requestBody [0x79]) 1005
    (.granted (numeral 2) 2005 1000) (by simp) (by simp) rfl rfl (by decide) (by decide)
    (by decide) (by decide) (by decide) (by decide) (by decide)
  cases ht₁
  cases ht₂
  exact ⟨_, _, hne, hadopt, hregrant⟩

/-- The request id U+D800 is stored as U+FFFD, so the request id U+FFFD of the same
holder is answered with its token. -/
theorem confused_requests_share_token :
    Exec Step fresh
      [.acquire (requestBody [0xd800]) 5 (.granted (numeral 1) 1005 1000),
        .acquire (requestBody [0xfffd]) 6 (.replayed (some (numeral 1)) 1005)]
      (acquire (requestBody [0xfffd]) 6 (acquire (requestBody [0xd800]) 5 fresh).2).2 ∧
    (requestBody [0xd800]).requestId ≠ (requestBody [0xfffd]).requestId ∧
    ¬ ∃ token₁ token₂,
      (Event.acquire (requestBody [0xd800]) 5 (.granted (numeral 1) 1005 1000)).returnedToken =
        some token₁ ∧
      (Event.acquire (requestBody [0xfffd]) 6
        (.replayed (some (numeral 1)) 1005)).returnedToken = some token₂ ∧ token₁ ≠ token₂ := by
  have hgrant : (acquire (requestBody [0xd800]) 5 fresh).1 = .granted (numeral 1) 1005 1000 := by
    decide
  have hreplay : (acquire (requestBody [0xfffd]) 6
      (acquire (requestBody [0xd800]) 5 fresh).2).1 = .replayed (some (numeral 1)) 1005 := by
    decide
  have hrun := Exec.snoc (Exec.single (Step.acquire (s := fresh) (requestBody [0xd800]) 5))
    (.acquire (requestBody [0xfffd]) 6)
  rw [hgrant, hreplay] at hrun
  refine ⟨hrun, by decide, ?_⟩
  rintro ⟨token₁, token₂, h₁, h₂, hne⟩
  cases h₁
  cases h₂
  exact hne rfl

end OresLocks.Authority
