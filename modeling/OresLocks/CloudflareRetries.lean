import OresLocks.CloudflareLease

/-!
# Retried acquisitions through the Cloudflare adapter

The answers served for one call determine what it returns: a fresh grant, or a
replayed one after a successful renewal of its token. What the authority can do
to the lease while it is live then fixes the token of every retry.
-/

namespace OresLocks.Cloudflare

set_option autoImplicit false

open Shared.Numeral Shared.Runs Authority Ts

/-- The served events behind each phase of a call. -/
inductive Served (client : Client) (opts : AcquireOptions) :
    Phase → Option (Except Thrown LeaseResponse) → List Event → Prop where
  | posting (es : List Event) : Served client opts .acquiring none es
  | sleeping (es : List Event) : Served client opts .sleeping none es
  | acquired (es : List Event) (now : Int) (outcome : AcquireOutcome) :
      Served client opts .acquiring (some (acquireAnswer client.key outcome))
        (es ++ [.acquire (client.acquireBody opts) now outcome])
  | renewing (es : List Event) (grant : LeaseGrant) (now expires : Int) :
      grant.holder = client.holder →
      Served client opts (.renewing grant) none
        (es ++ [.acquire (client.acquireBody opts) now
          (.replayed (some (numeral grant.fencingToken)) expires)])
  | renewed (es : List Event) (grant : LeaseGrant) (now expires later : Int)
      (outcome : RenewOutcome) :
      grant.holder = client.holder →
      Served client opts (.renewing grant) (some (renewAnswer client.key outcome))
        (es ++ [.acquire (client.acquireBody opts) now
          (.replayed (some (numeral grant.fencingToken)) expires),
          .renew (renewBody grant opts.ttlMs) later outcome])
  | failed (thrown : Thrown) (es : List Event) : Served client opts (.settled (.error thrown)) none es
  | granted (es : List Event) (grant : LeaseGrant) (now expires ttl : Int) :
      Served client opts (.settled (.ok grant)) none
        (es ++ [.acquire (client.acquireBody opts) now
          (.granted (numeral grant.fencingToken) expires ttl)])
  | replayed (es : List Event) (grant : LeaseGrant) (body : LeaseBody)
      (now expires later expires' ttl : Int) :
      body.holder = .string client.holder →
      body.fencingToken = .string (numeral grant.fencingToken) →
      Served client opts (.settled (.ok grant)) none
        (es ++ [.acquire (client.acquireBody opts) now
          (.replayed (some (numeral grant.fencingToken)) expires),
          .renew body later (.renewed expires' ttl)])

theorem asBigInt_string {value : JsString} {token : Nat}
    (h : asBigInt (.string value) = some token) : value = numeral token := by
  simp only [asBigInt] at h
  split at h
  · rename_i hvalid
    rw [Bool.and_eq_true] at hvalid
    cases h
    exact (numeral_natOf ((JsString.matchesPositiveDecimal_iff value).mp hvalid.1).1).symm
  · cases h

/-- The loop body of `acquire` keeps the picture of the served events. -/
theorem served_afterAcquire (client : Client) (opts : AcquireOptions) (started now later : Int)
    (outcome : AcquireOutcome) (es : List Event) :
    Served client opts
      (afterAcquire client opts started later (acquireAnswer client.key outcome)) none
      (es ++ [.acquire (client.acquireBody opts) now outcome]) := by
  cases outcome with
  | error | threw => exact .failed _ _
  | refused reason expires =>
    simp only [acquireAnswer, afterAcquire]
    rw [if_neg (by decide)]
    split
    · exact .failed _ _
    split
    · exact .failed _ _
    · exact .sleeping _
  | replayed token expires =>
    simp only [acquireAnswer, afterAcquire, if_true]
    split
    · exact .failed _ _
    · rename_i n hn
      cases token with
      | none => cases hn
      | some token =>
        rw [asBigInt_string hn]
        exact .renewing es _ now expires rfl
  | granted token expires ttl =>
    simp only [acquireAnswer, afterAcquire, if_true]
    split
    · exact .failed _ _
    · rename_i n hn
      rw [if_neg (by decide), asBigInt_string hn]
      exact .granted es _ now expires ttl

theorem served_afterRenew {client : Client} {opts : AcquireOptions} {grant : LeaseGrant}
    {now expires later : Int} {outcome : RenewOutcome} {es : List Event}
    (hholder : grant.holder = client.holder) :
    Served client opts (afterRenew grant opts.ttlMs (renewAnswer client.key outcome)) none
      (es ++ [.acquire (client.acquireBody opts) now
        (.replayed (some (numeral grant.fencingToken)) expires),
        .renew (renewBody grant opts.ttlMs) later outcome]) := by
  have hbody : (renewBody grant opts.ttlMs).holder = .string client.holder := by
    rw [← hholder]
    rfl
  cases outcome with
  | error => exact .failed _ _
  | refused =>
    simp only [renewAnswer, afterRenew]
    rw [if_pos (by decide)]
    exact .failed _ _
  | renewed expires' ttl =>
    simp only [renewAnswer, afterRenew]
    rw [if_neg (by decide)]
    split
    · exact .replayed es { grant with ttlMs := opts.ttlMs } _ now expires later expires' ttl
        hbody rfl
    · rename_i leaseExpiresMs _
      exact .replayed es { grant with ttlMs := opts.ttlMs, leaseExpiresMs } _ now expires later
        expires' ttl hbody rfl

section Runs

variable {client : Client} {s t : State} {l : Label} {ls : List Label}

theorem served_concat (i : Nat) (ls : List Label) (l : Label) :
    served i (ls ++ [l]) = served i ls ++ (l.servedFor i).toList := by
  unfold served
  rw [List.filterMap_append]
  cases h : l.servedFor i <;> simp [h]

theorem history_concat (ls : List Label) (l : Label) :
    history (ls ++ [l]) = history ls ++ l.event.toList := by
  unfold history
  rw [List.filterMap_append]
  cases h : l.event <;> simp [h]

/-- The picture of one call after a step that gave it a new record. -/
theorem served_put {i : Nat} {call : Call} {storage : Storage}
    (hs : ∀ j c, s.calls j = some c → Served client c.opts c.phase c.answer (served j ls))
    (hi : Served client call.opts call.phase call.answer (served i (ls ++ [l])))
    (hothers : ∀ j, j ≠ i → l.servedFor j = none) (j : Nat) (c : Call)
    (hc : ({ s with storage }.put i call).calls j = some c) :
    Served client c.opts c.phase c.answer (served j (ls ++ [l])) := by
  simp only [State.put] at hc
  split at hc
  · rename_i hj
    subst hj
    cases hc
    exact hi
  · rename_i hj
    rw [served_concat, hothers j hj]
    simpa using hs j c hc

theorem Step.served (h : Step client s l t)
    (hs : ∀ j c, s.calls j = some c → Served client c.opts c.phase c.answer (served j ls)) :
    ∀ j c, t.calls j = some c → Served client c.opts c.phase c.answer (served j (ls ++ [l])) := by
  cases h with
  | start i opts started hnone =>
    apply served_put hs (.posting _)
    intro j _
    rfl
  | serveAcquire i call now storage outcome hcall hphase hanswer hacq =>
    apply served_put hs
    · rw [served_concat]
      simp only [Label.servedFor, if_true, Option.toList_some, hphase]
      exact .acquired _ now outcome
    · intro j hj
      simp [Label.servedFor, Ne.symm hj]
  | serveRenew i call grant now storage outcome hcall hphase hanswer hrenew =>
    apply served_put hs
    · have hold := hs i call hcall
      rw [served_concat]
      simp only [Label.servedFor, if_true, Option.toList_some, hphase]
      rw [hphase, hanswer] at hold
      generalize Cloudflare.served i ls = es at hold ⊢
      cases hold with
      | renewing es grant now' expires hholder =>
        simpa using Served.renewed es grant now' expires now outcome hholder
    · intro j hj
      simp [Label.servedFor, Ne.symm hj]
  | other event storage hstep =>
    intro j c hc
    rw [served_concat]
    simpa [Label.servedFor] using hs j c hc
  | lost i call cause hcall hposted =>
    apply served_put hs (.failed _ _)
    intro j _
    rfl
  | receiveAcquire i call answer now hcall hphase hanswer =>
    apply served_put hs
    · have hold := hs i call hcall
      rw [served_concat]
      simp only [Label.servedFor, Option.toList_none, List.append_nil]
      rw [hphase, hanswer] at hold
      generalize Cloudflare.served i ls = es at hold ⊢
      cases hold with
      | acquired es now' outcome => exact served_afterAcquire client _ _ now' now outcome es
    · intro j _
      rfl
  | receiveRenew i call grant answer now hcall hphase hanswer =>
    apply served_put hs
    · have hold := hs i call hcall
      rw [served_concat]
      simp only [Label.servedFor, Option.toList_none, List.append_nil]
      rw [hphase, hanswer] at hold
      generalize Cloudflare.served i ls = es at hold ⊢
      cases hold with
      | renewed es grant now' expires later outcome hholder => exact served_afterRenew hholder
    · intro j _
      rfl
  | wake i call hcall hphase =>
    have hold := hs i call hcall
    rw [hphase] at hold
    have hanswer : call.answer = none := by
      generalize call.answer = answer at hold ⊢
      generalize Cloudflare.served i ls = es at hold
      cases hold
      rfl
    apply served_put hs
    · rw [hanswer]
      exact .posting _
    · intro j _
      rfl

theorem served_of_exec (h : Exec (Step client) init ls s) :
    ∀ j c, s.calls j = some c → Served client c.opts c.phase c.answer (served j ls) :=
  h.invariant
    (I := fun ls s => ∀ j c, s.calls j = some c →
      Served client c.opts c.phase c.answer (served j ls))
    (by intro j c hc; cases hc) (fun _ hi hs => hs.served hi)

theorem Step.storage (h : Step client s l t) : Exec Authority.Step s.storage l.event.toList t.storage := by
  cases h with
  | serveAcquire i call now storage outcome _ _ _ hacq =>
    have hstep := Authority.Step.acquire (s := s.storage) (client.acquireBody call.opts) now
    rw [hacq] at hstep
    exact .single hstep
  | serveRenew i call grant now storage outcome _ _ _ hrenew =>
    have hstep := Authority.Step.renew (s := s.storage) (renewBody grant call.opts.ttlMs) now
    rw [hrenew] at hstep
    exact .single hstep
  | other event storage hstep => exact .single hstep
  | start | lost | receiveAcquire | receiveRenew | wake => exact .nil

/-- A run of the client and the authority is a run of the authority. -/
theorem storage_of_exec (h : Exec (Step client) s ls t) :
    Exec Authority.Step s.storage (history ls) t.storage := by
  induction h with
  | nil => exact .nil
  | snoc _ hs ih =>
    rw [history_concat]
    exact ih.append hs.storage

end Runs

/-- The event is the client's acquisition with its holder and its request id,
however it reached the authority. -/
def Client.Requests (client : Client) : Event → Prop
  | .acquire body _ _ =>
    body.holder = .string client.holder ∧ body.requestId = .string client.requestId
  | _ => False

theorem expiryFor_of_returnedToken {client : Client} {e : Event} {token : JsString}
    (hreq : client.Requests e) (ht : e.returnedToken = some token) :
    e.Returns ⟨client.holder, token⟩ := by
  cases e with
  | acquire body now outcome =>
    have hholder : text body.holder = some client.holder := by
      rw [hreq.1]
      rfl
    cases outcome with
    | error | refused | threw => cases ht
    | replayed token' expires =>
      cases ht
      exact ⟨rfl, by simp [Event.expiryFor, hholder]⟩
    | granted token' expires ttl =>
      cases ht
      exact ⟨rfl, by simp [Event.expiryFor, hholder]⟩
  | renew | release | alarm => cases hreq

/-- While a lease is stored unexpired, an `acquire` mints nothing, and what it returns
is the token of that lease. -/
theorem acquire_while_held {row row' : Row} {g : Grant} {x now : Int} {body : LeaseBody}
    {outcome : AcquireOutcome} (hc : Change row (.acquire body now outcome) row')
    (hx : Holds row g x) (hlt : now < x) :
    row'.nextToken = row.nextToken ∧
    ∀ token, (Event.acquire body now outcome).returnedToken = some token → token = g.token := by
  cases hc with
  | acquire hs =>
    cases hs with
    | invalid | refused | exhausted | corrupt => exact ⟨rfl, by simp [Event.returnedToken]⟩
    | replayed =>
      refine ⟨rfl, ?_⟩
      intro token ht
      exact Option.some.inj (ht.symm.trans hx.token)
    | granted holder token _ hfree =>
      have hle := hfree _ _ hx.holder hx.expiresMs
      omega

/-- The events end in a fresh grant of the token to the client. -/
def FreshGrant (client : Client) (token : Nat) (es : List Event) : Prop :=
  ∃ before body now expires ttl,
    es = before ++ [.acquire body now (.granted (numeral token) expires ttl)] ∧
    body.holder = .string client.holder ∧ body.requestId = .string client.requestId

/-- The events end in a replay of the token to the client and a successful renewal
bound to that token. -/
def RenewedReplay (client : Client) (token : Nat) (es : List Event) : Prop :=
  ∃ before body now expires renewal later expires' ttl,
    es = before ++ [.acquire body now (.replayed (some (numeral token)) expires),
      .renew renewal later (.renewed expires' ttl)] ∧
    body.holder = .string client.holder ∧ body.requestId = .string client.requestId ∧
    renewal.holder = .string client.holder ∧ renewal.fencingToken = .string (numeral token)

section Retry

variable {client : Client} {ls : List Label} {s : State}

theorem put_calls_self (s : State) (i : Nat) (call : Call) : (s.put i call).calls i = some call := by
  simp [State.put]

theorem calls_of_receive {t : State} {i : Nat} {now : Int} {phase : Phase}
    (h : Step client s (.receive i now phase) t) :
    ∃ call, t.calls i = some call ∧ call.phase = phase := by
  cases h with
  | receiveAcquire i call answer now => exact ⟨_, put_calls_self _ _ _, rfl⟩
  | receiveRenew i call grant answer now => exact ⟨_, put_calls_self _ _ _, rfl⟩

/-- A call returns a grant only after a fresh grant or a renewed replay of its token. -/
theorem served_of_returned {a b : List Label} {i : Nat} {now : Int} {grant : LeaseGrant}
    (h : Exec (Step client) init (a ++ .receive i now (.settled (.ok grant)) :: b) s) :
    FreshGrant client grant.fencingToken (served i a) ∨
    RenewedReplay client grant.fencingToken (served i a) := by
  obtain ⟨u, v, hpre, hstep, _⟩ := h.split_at
  obtain ⟨call, hcall, hphase⟩ := calls_of_receive hstep
  have hserved := served_of_exec (hpre.snoc hstep) i call hcall
  rw [hphase, served_concat] at hserved
  simp only [Label.servedFor, Option.toList_none, List.append_nil] at hserved
  generalize served i a = es at hserved ⊢
  generalize call.answer = answer at hserved
  cases hserved with
  | granted es grant now expires ttl => exact Or.inl ⟨es, _, now, expires, ttl, rfl, rfl, rfl⟩
  | replayed es grant body now expires later expires' ttl hholder htoken =>
    exact Or.inr ⟨es, _, now, expires, body, later, expires', ttl, rfl, rfl, rfl, hholder, htoken⟩

theorem served_subset_history (i : Nat) (ls : List Label) : ∀ e ∈ served i ls, e ∈ history ls := by
  intro e he
  obtain ⟨l, hl, hserved⟩ := List.mem_filterMap.mp he
  refine List.mem_filterMap.mpr ⟨l, hl, ?_⟩
  cases l with
  | serve j event =>
    simp only [Label.servedFor] at hserved
    split at hserved
    · exact hserved
    · cases hserved
  | start | other | lost | receive | wake => cases hserved

/-- The acquisition behind a returned grant is in the authority's history. -/
theorem request_of_returned {i : Nat} {now : Int} {grant : LeaseGrant}
    (h : Exec (Step client) init ls s) (hl : .receive i now (.settled (.ok grant)) ∈ ls) :
    ∃ e ∈ history ls, client.Requests e ∧
      e.returnedToken = some (numeral grant.fencingToken) := by
  obtain ⟨a, b, rfl⟩ := List.append_of_mem hl
  have hsub : ∀ e ∈ served i a, e ∈ history (a ++ .receive i now (.settled (.ok grant)) :: b) := by
    intro e he
    unfold history
    rw [List.filterMap_append]
    exact List.mem_append_left _ (served_subset_history i a e he)
  rcases served_of_returned h with ⟨before, body, at', expires, ttl, hes, hholder, hreq⟩ |
    ⟨before, body, at', expires, _, _, _, _, hes, hholder, hreq, _⟩
  · refine ⟨.acquire body at' (.granted (numeral grant.fencingToken) expires ttl), ?_,
      ⟨hholder, hreq⟩, rfl⟩
    apply hsub
    simp [hes]
  · refine ⟨.acquire body at' (.replayed (some (numeral grant.fencingToken)) expires), ?_,
      ⟨hholder, hreq⟩, rfl⟩
    apply hsub
    simp [hes]

/-- A request of the client that the authority serves while the first lease is live. -/
theorem retry_while_live {pre mid rest : List Event} {first e : Event} {u v w : Storage}
    {token : JsString} {t : Int}
    (hpre : Exec Authority.Step fresh (pre ++ first :: mid) u) (hstep : Authority.Step u e v)
    (hrest : Exec Authority.Step v rest w)
    (hkeeps : ∀ e' ∈ pre ++ first :: mid ++ e :: rest, e'.keepsHolder = true)
    (hclock : (pre ++ first :: mid ++ e :: rest).Pairwise fun a b => a.now ≤ b.now)
    (hfirst : client.Requests first) (htoken : first.returnedToken = some token)
    (hlast : ∀ e' ∈ pre ++ first :: mid ++ e :: rest, e'.now ≤ t)
    (hlive : Live (pre ++ first :: mid ++ e :: rest) ⟨client.holder, token⟩ t)
    (hreq : client.Requests e) :
    v.row.nextToken = u.row.nextToken ∧ ∀ token', e.returnedToken = some token' → token' = token := by
  have hrun : Exec Authority.Step fresh (pre ++ first :: mid ++ e :: rest) w := by
    simpa using (hpre.snoc hstep).append hrest
  have hret : ∃ e' ∈ pre ++ first :: mid, e'.Returns ⟨client.holder, token⟩ :=
    ⟨first, by simp, expiryFor_of_returnedToken hfirst htoken⟩
  have hnow := live_of_later hrun hkeeps hclock hret hlast hlive
  rw [List.pairwise_append] at hclock
  have hbefore : ∀ e' ∈ pre ++ first :: mid, e'.now ≤ e.now :=
    fun e' he' => hclock.2.2 e' he' e (by simp)
  have hkept := tracks_of_exec hpre fun e' he' => hkeeps e' (List.mem_append_left _ he')
  obtain ⟨x, hx, hlt⟩ := (hkept.live_iff hbefore).mp hnow
  cases e with
  | acquire body now outcome => exact acquire_while_held hstep.change hx hlt
  | renew | release | alarm => cases hreq

/-- Every request of the client in the history of a run that keeps the first lease
live gets its token or none. -/
theorem token_of_request {es pre post : List Event} {first e : Event} {w : Storage}
    {token token' : JsString} {t : Int} (h : Exec Authority.Step fresh es w)
    (hkeeps : ∀ e' ∈ es, e'.keepsHolder = true) (hclock : es.Pairwise fun a b => a.now ≤ b.now) (hes : es = pre ++ first :: post)
    (hfirst : client.Requests first) (htoken : first.returnedToken = some token)
    (hnone : ∀ e ∈ pre, client.Requests e → e.returnedToken = none)
    (hlast : ∀ e ∈ es, e.now ≤ t) (hlive : Live es ⟨client.holder, token⟩ t)
    (he : e ∈ es) (hreq : client.Requests e) (ht : e.returnedToken = some token') :
    token' = token := by
  rw [hes] at he
  rcases List.mem_append.mp he with hmem | hmem
  · rw [hnone e hmem hreq] at ht
    cases ht
  rcases List.mem_cons.mp hmem with rfl | hmem
  · exact Option.some.inj (ht.symm.trans htoken)
  · obtain ⟨mid, rest, rfl⟩ := List.append_of_mem hmem
    have hsplit : es = pre ++ first :: mid ++ e :: rest := by rw [hes]; simp
    rw [hsplit] at h hkeeps hclock hlast hlive
    obtain ⟨u, v, hpre, hstep, hrest⟩ := h.split_at
    exact (retry_while_live hpre hstep hrest hkeeps hclock hfirst htoken hlast hlive hreq).2
      token' ht

end Retry

/-- Ambiguous retries, where the holders are stored as they were sent. `first` is the
first request of the client that the authority answered with a grant. While that lease is
neither expired nor released, no retry moves the counter and every grant the adapter
returns carries the one token. A grant is returned after a fresh grant or after a replay
that was renewed under its token, and another request id of the holder, which storing
does not confuse with the client's, never gets a token of the client. -/
theorem retries_keep_token (client : Client) (ls : List Label) (s : State)
    (h : Exec (Step client) init ls s)
    (hkeeps : ∀ e ∈ history ls, e.keepsHolder = true)
    (hclock : (history ls).Pairwise fun a b => a.now ≤ b.now) :
    (∀ pre first post token t, history ls = pre ++ first :: post → client.Requests first →
      first.returnedToken = some token →
      (∀ e ∈ pre, client.Requests e → e.returnedToken = none) →
      (∀ e ∈ history ls, e.now ≤ t) → Live (history ls) ⟨client.holder, token⟩ t →
      (∀ a l b e u v, ls = a ++ l :: b → Exec (Step client) init a u → Step client u l v →
        Exec (Step client) v b s → l.event = some e → client.Requests e →
        (pre ++ [first]).IsPrefix (history a) →
        v.storage.row.nextToken = u.storage.row.nextToken) ∧
      (∀ i now grant, .receive i now (.settled (.ok grant)) ∈ ls →
        numeral grant.fencingToken = token)) ∧
    (∀ a i now grant b, ls = a ++ .receive i now (.settled (.ok grant)) :: b →
      FreshGrant client grant.fencingToken (served i a) ∨
      RenewedReplay client grant.fencingToken (served i a)) ∧
    (∀ e body now outcome token, e ∈ history ls → client.Requests e →
      e.returnedToken = some token → .acquire body now outcome ∈ history ls →
      body.requestId ≠ .undefined → body.requestId ≠ .null →
      body.requestId ≠ .string client.requestId →
      text body.requestId ≠ stored (.string client.requestId) →
      some client.requestId ≠ stored body.requestId →
      (Event.acquire body now outcome).returnedToken ≠ some token) := by
  have hrun := storage_of_exec h
  refine ⟨?_, ?_, ?_⟩
  · intro pre first post token t hes hfirst htoken hnone hlast hlive
    refine ⟨?_, ?_⟩
    · intro a l b e u v hls ha hstep hb hevent hreq hbegins
      obtain ⟨mid, hmid⟩ := hbegins
      have hpre : history a = pre ++ first :: mid := by rw [← hmid]; simp
      have hsplit : history ls = pre ++ first :: mid ++ e :: history b := by
        rw [← hpre, hls]
        simp [history, hevent]
      have hu := storage_of_exec ha
      have hv := hstep.storage
      rw [hpre] at hu
      rw [hevent, Option.toList_some] at hv
      rw [hsplit] at hkeeps hclock hlast hlive
      exact (retry_while_live hu hv.single_inv (storage_of_exec hb) hkeeps hclock hfirst htoken
        hlast hlive hreq).1
    · intro i now grant hl
      obtain ⟨e, he, hreq, ht⟩ := request_of_returned h hl
      exact token_of_request hrun hkeeps hclock hes hfirst htoken hnone hlast hlive he hreq ht
  · intro a i now grant b hls
    rw [hls] at h
    exact served_of_returned h
  · intro e body now outcome token he hreq ht hother hundef hnull hne hne₁ hne₂ htoken
    have hserved : e.servedRequest = some client.requestId := by
      cases e with
      | acquire body' now' outcome' =>
        rw [(Event.acquired_of_returnedToken ht).2, hreq.2]
        rfl
      | renew | release | alarm => cases hreq
    obtain ⟨r, hr, hs⟩ := (acquired_of_exec hrun hother
      (Event.acquired_of_returnedToken htoken).1).2 hundef hnull
    rw [hr] at hne hne₁ hne₂
    rcases (oneRequest_of_exec hrun).single _ hother e he r client.requestId token hs hserved
      htoken ht with hsame | hsame | hsame
    · exact hne (congrArg JsValue.string hsame)
    · exact hne₁ (congrArg some hsame)
    · exact hne₂ (congrArg some hsame)

def sampleClient : Client := ⟨js "k", js "a", js "r"⟩

def sampleOptions : AcquireOptions := ⟨.ofInt 1000, false, 0, 0⟩

def sampleReplay : LeaseGrant := ⟨js "k", js "a", 1, .ofInt 1000, some 1005⟩

/-- The answer to the first call is lost; the second call replays and renews. -/
def sampleRun : List Label :=
  [.start 0 sampleOptions 0,
    .serve 0 (.acquire (sampleClient.acquireBody sampleOptions) 5
      (.granted (numeral 1) 1005 1000)),
    .lost 0 .undefined,
    .start 1 sampleOptions 0,
    .serve 1 (.acquire (sampleClient.acquireBody sampleOptions) 6
      (.replayed (some (numeral 1)) 1005)),
    .receive 1 0 (.renewing sampleReplay),
    .serve 1 (.renew (renewBody sampleReplay (.ofInt 1000)) 7 (.renewed 1007 1000)),
    .receive 1 0 (.settled (.ok { sampleReplay with leaseExpiresMs := some 1007 }))]

theorem sampleRun_exec : ∃ s, Exec (Step sampleClient) init sampleRun s := by
  have hgranted : acquire (sampleClient.acquireBody sampleOptions) 5 fresh =
      (.granted (numeral 1) 1005 1000, (acquire (sampleClient.acquireBody sampleOptions) 5 fresh).2) :=
    Prod.ext (by decide) rfl
  generalize hs : (acquire (sampleClient.acquireBody sampleOptions) 5 fresh).2 = s₁ at hgranted
  have hreplayed : acquire (sampleClient.acquireBody sampleOptions) 6 s₁ =
      (.replayed (some (numeral 1)) 1005, (acquire (sampleClient.acquireBody sampleOptions) 6 s₁).2) := by
    rw [← hs]
    exact Prod.ext (by decide) rfl
  generalize hs' : (acquire (sampleClient.acquireBody sampleOptions) 6 s₁).2 = s₂ at hreplayed
  have hrenewed : renew (renewBody sampleReplay (.ofInt 1000)) 7 s₂ =
      (.renewed 1007 1000, (renew (renewBody sampleReplay (.ofInt 1000)) 7 s₂).2) := by
    rw [← hs', ← hs]
    exact Prod.ext (by decide) rfl
  have hreplay : afterAcquire sampleClient sampleOptions 0 0
      (acquireAnswer sampleClient.key (.replayed (some (numeral 1)) 1005)) =
      .renewing sampleReplay := by decide
  have hreturn : afterRenew sampleReplay (.ofInt 1000)
      (renewAnswer sampleClient.key (.renewed 1007 1000)) =
      .settled (.ok { sampleReplay with leaseExpiresMs := some 1007 }) := by decide
  have h₁ : Exec (Step sampleClient) init [.start 0 sampleOptions 0] _ :=
    .single (.start 0 sampleOptions 0 rfl)
  have h₂ := h₁.snoc (.serveAcquire 0 _ 5 _ _ rfl rfl rfl hgranted)
  have h₃ := h₂.snoc (.lost 0 _ .undefined rfl rfl)
  have h₄ := h₃.snoc (.start 1 sampleOptions 0 rfl)
  have h₅ := h₄.snoc (.serveAcquire 1 _ 6 _ _ rfl rfl rfl hreplayed)
  have h₆ := h₅.snoc (.receiveAcquire 1 _ _ 0 rfl rfl rfl)
  have h₇ := h₆.snoc (.serveRenew 1 _ sampleReplay 7 _ _ rfl hreplay rfl hrenewed)
  have h₈ := h₇.snoc (.receiveRenew 1 _ sampleReplay _ 0 rfl hreplay rfl)
  exact ⟨_, h₈⟩

/-- The one returned grant carries the token that was granted first, and it was
renewed before it was returned. -/
theorem sampleRun_keeps_token :
    history sampleRun ≠ [] ∧
    (∀ i now grant, .receive i now (.settled (.ok grant)) ∈ sampleRun →
      numeral grant.fencingToken = (numeral 1 : JsString)) := by
  obtain ⟨s, hs⟩ := sampleRun_exec
  have hhistory : history sampleRun =
      [.acquire (sampleClient.acquireBody sampleOptions) 5 (.granted (numeral 1) 1005 1000),
        .acquire (sampleClient.acquireBody sampleOptions) 6 (.replayed (some (numeral 1)) 1005),
        .renew (renewBody sampleReplay (.ofInt 1000)) 7 (.renewed 1007 1000)] := rfl
  have hunreleased : ∀ e ∈ history sampleRun, ¬ e.Releases ⟨sampleClient.holder, numeral 1⟩ := by
    intro e he
    simp only [hhistory, List.mem_cons, List.not_mem_nil, or_false] at he
    rcases he with rfl | rfl | rfl <;> exact not_false
  have hlive : Live (history sampleRun) ⟨sampleClient.holder, numeral 1⟩ 7 :=
    ⟨⟨_, List.mem_cons_self, rfl, by decide⟩, hunreleased, 1007, by decide, by decide⟩
  refine ⟨by simp [hhistory], ?_⟩
  exact ((retries_keep_token sampleClient sampleRun s hs (by rw [hhistory]; decide)
    (by rw [hhistory]; decide)).1 [] _ _
    (numeral 1) 7 hhistory ⟨rfl, rfl⟩ rfl (by simp) (by rw [hhistory]; decide) hlive).2

/-- A client whose request id is U+D800. -/
def surrogateClient : Client := ⟨js "k", js "a", [0xd800]⟩

/-- What another client of the same holder asks, with the request id U+FFFD. -/
def replacementBody : LeaseBody :=
  { surrogateClient.acquireBody sampleOptions with requestId := .string [0xfffd] }

/-- The answer to the first call is lost, the retry is refused, and then the other
request id asks. -/
def confusedRun : List Label :=
  [.start 0 sampleOptions 0,
    .serve 0 (.acquire (surrogateClient.acquireBody sampleOptions) 5
      (.granted (numeral 1) 1005 1000)),
    .lost 0 .undefined,
    .start 1 sampleOptions 0,
    .serve 1 (.acquire (surrogateClient.acquireBody sampleOptions) 6
      (.refused .holderActiveDifferentRequest 1005)),
    .other (.acquire replacementBody 7 (.replayed (some (numeral 1)) 1005))]

/-- While the client's lease is live, its retry is refused and the request id U+FFFD of
the same holder is answered with its token. -/
theorem confused_request_takes_token :
    (∃ s, Exec (Step surrogateClient) init confusedRun s) ∧
    ((history confusedRun).Pairwise fun a b => a.now ≤ b.now) ∧
    Live (history confusedRun) ⟨surrogateClient.holder, numeral 1⟩ 7 ∧
    replacementBody.requestId ≠ .string surrogateClient.requestId ∧
    (Event.acquire replacementBody 7 (.replayed (some (numeral 1)) 1005)).returnedToken =
      some (numeral 1) := by
  have hgranted : acquire (surrogateClient.acquireBody sampleOptions) 5 fresh =
      (.granted (numeral 1) 1005 1000,
        (acquire (surrogateClient.acquireBody sampleOptions) 5 fresh).2) :=
    Prod.ext (by decide) rfl
  generalize hs : (acquire (surrogateClient.acquireBody sampleOptions) 5 fresh).2 = s₁ at hgranted
  have hrefused : acquire (surrogateClient.acquireBody sampleOptions) 6 s₁ =
      (.refused .holderActiveDifferentRequest 1005, s₁) := by
    rw [← hs]
    exact Prod.ext (by decide) (by decide)
  have hreplayed : (acquire replacementBody 7 s₁).1 = .replayed (some (numeral 1)) 1005 := by
    rw [← hs]
    decide
  have hother := Authority.Step.acquire (s := s₁) replacementBody 7
  rw [hreplayed] at hother
  have h₁ : Exec (Step surrogateClient) init [.start 0 sampleOptions 0] _ :=
    .single (.start 0 sampleOptions 0 rfl)
  have h₂ := h₁.snoc (.serveAcquire 0 _ 5 _ _ rfl rfl rfl hgranted)
  have h₃ := h₂.snoc (.lost 0 _ .undefined rfl rfl)
  have h₄ := h₃.snoc (.start 1 sampleOptions 0 rfl)
  have h₅ := h₄.snoc (.serveAcquire 1 _ 6 _ _ rfl rfl rfl hrefused)
  have h₆ := h₅.snoc (.other _ _ hother)
  have hhistory : history confusedRun =
      [.acquire (surrogateClient.acquireBody sampleOptions) 5 (.granted (numeral 1) 1005 1000),
        .acquire (surrogateClient.acquireBody sampleOptions) 6
          (.refused .holderActiveDifferentRequest 1005),
        .acquire replacementBody 7 (.replayed (some (numeral 1)) 1005)] := rfl
  have hunreleased : ∀ e ∈ history confusedRun,
      ¬ e.Releases ⟨surrogateClient.holder, numeral 1⟩ := by
    intro e he
    simp only [hhistory, List.mem_cons, List.not_mem_nil, or_false] at he
    rcases he with rfl | rfl | rfl <;> exact not_false
  refine ⟨⟨_, h₆⟩, by rw [hhistory]; decide, ?_, by decide, rfl⟩
  exact ⟨⟨_, List.mem_cons_self, rfl, by decide⟩, hunreleased, 1005, by decide, by decide⟩

end OresLocks.Cloudflare
