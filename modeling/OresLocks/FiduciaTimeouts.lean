import OresLocks.FiduciaLease

/-!
# A timeout of the Fiducia adapter leaves nothing behind

While a call cancels, its request can only lose authority, and each answer the adapter
accepts as final says that none is left.
-/

namespace OresLocks.Ts.Fiducia

set_option autoImplicit false

open Shared.Runs

section Service

variable {S : LockService} {r : Request} {σ σ' : S.State} {fencingToken : Nat}

/-- The request holds nothing but possibly the grant with one token. -/
def AtMost (S : LockService) (r : Request) (fencingToken : Nat) (σ : S.State) : Prop :=
  S.standing σ r = .absent ∨ S.standing σ r = .granted fencingToken

theorem others_absent (h : S.others r σ σ') (ha : S.standing σ r = .absent) :
    S.standing σ' r = .absent := by
  rcases S.others_law h with hsame | habsent | ⟨hqueued, _⟩
  · rw [hsame, ha]
  · exact habsent
  · rw [ha] at hqueued
    cases hqueued

theorem others_atMost (h : S.others r σ σ') (ha : AtMost S r fencingToken σ) :
    AtMost S r fencingToken σ' := by
  rcases ha with ha | hg
  · exact Or.inl (others_absent h ha)
  · rcases S.others_law h with hsame | habsent | ⟨hqueued, _⟩
    · exact Or.inr (by rw [hsame, hg])
    · exact Or.inl habsent
    · rw [hg] at hqueued
      cases hqueued

/-- What the answer to a cancel says about a service state. -/
structure CancelSays (S : LockService) (r : Request) (out : Json) (σ : S.State) : Prop where
  nothing : readCancel r.holder out = .ok none → S.standing σ r = .absent
  raced : ∀ fencingToken, readCancel r.holder out = .ok (some fencingToken) →
    AtMost S r fencingToken σ

theorem CancelSays.others {out : Json} (h : CancelSays S r out σ) (ho : S.others r σ σ') :
    CancelSays S r out σ' :=
  ⟨fun hn => others_absent ho (h.nothing hn), fun t ht => others_atMost ho (h.raced t ht)⟩

theorem racedToken_eq {holder : JsString} {grant : Json}
    (h : racedToken holder grant = .ok fencingToken) :
    asUint (grant.member "fencing_token") = some fencingToken := by
  unfold racedToken at h
  split at h
  · cases h
  rename_i named hnamed
  split at h
  · cases h
  · cases h
    exact hnamed

theorem readCancel_none {holder : JsString} {out : Json} (h : readCancel holder out = .ok none) :
    Json.isTrue (out.member "cancelled") = true ∧ Json.isTrue (out.member "acquired") = false := by
  unfold readCancel at h
  split at h
  · rename_i hc
    simpa using hc
  split at h
  · cases h
  split at h
  · cases hr : racedToken holder (.object ‹_›) <;> rw [hr] at h <;> cases h
  · cases hr : racedToken holder .array <;> rw [hr] at h <;> cases h
  · cases h

theorem readCancel_some {holder : JsString} {out : Json}
    (h : readCancel holder out = .ok (some fencingToken)) :
    Json.isTrue (out.member "acquired") = true ∧ ∃ grant, out.member "grant" = some grant ∧
      asUint (grant.member "fencing_token") = some fencingToken := by
  have hmap : ∀ grant, (racedToken holder grant).map some = .ok (some fencingToken) →
      asUint (grant.member "fencing_token") = some fencingToken := by
    intro grant hgrant
    cases hr : racedToken holder grant with
    | error message =>
      rw [hr] at hgrant
      cases hgrant
    | ok named =>
      rw [hr] at hgrant
      cases hgrant
      exact racedToken_eq hr
  unfold readCancel at h
  split at h
  · cases h
  split at h
  · cases h
  rename_i hacquired
  refine ⟨by simpa using hacquired, ?_⟩
  split at h
  · rename_i members hgrant
    exact ⟨_, hgrant, hmap _ h⟩
  · rename_i hgrant
    exact ⟨_, hgrant, hmap _ h⟩
  · cases h

theorem cancelSays_of_serve {response : Response} {out : Json}
    (h : S.serve σ (.cancel r) σ' response) (ho : readResponse response = .ok out) :
    CancelSays S r out σ' := by
  constructor
  · intro hnone
    obtain ⟨hcancelled, hacquired⟩ := readCancel_none hnone
    exact (S.cancelled_law h ho hcancelled hacquired).2
  · intro fencingToken hsome
    obtain ⟨hacquired, grant, hgrant, hnamed⟩ := readCancel_some hsome
    obtain ⟨token, _, hstanding, heq⟩ := S.raced_law h ho hacquired
    rw [heq grant fencingToken hgrant hnamed]
    exact Or.inr hstanding

theorem absent_of_release {response : Response} {out : Json}
    (h : S.serve σ (.release r.key r.holder fencingToken) σ' response)
    (ho : readResponse response = .ok out) (hr : Json.isTrue (out.member "released") = true)
    (ha : AtMost S r fencingToken σ) : S.standing σ' r = .absent := by
  obtain ⟨hdeleted, hkept⟩ := S.released_law h ho hr
  rcases ha with ha | hg
  · rw [hkept (by rw [ha]; simp), ha]
  · exact hdeleted hg

end Service

section Calls

variable {S : LockService} {inputs : Inputs} {s t : State S} {call : Call} {σ : S.State}

/-- From the start of a cancellation to the end of the call: the post under way and what
its answer says about the service; after a timeout, that nothing is left. -/
def Settles (S : LockService) (inputs : Inputs) (s : State S) : Prop :=
  match s.call.pc, s.call.wire with
  | .cancelling _, .sent post => post = .cancel inputs.request
  | .cancelling _, .answered _ response =>
    ∀ out, readResponse response = .ok out → CancelSays S inputs.request out s.service
  | .releasing _ fencingToken, .sent post =>
    post = .release inputs.request.key inputs.request.holder fencingToken ∧
      AtMost S inputs.request fencingToken s.service
  | .releasing _ _, .answered _ response =>
    ∀ out, readResponse response = .ok out → Json.isTrue (out.member "released") = true →
      S.standing s.service inputs.request = .absent
  | .settled result, wire =>
    wire = .idle ∧ ∀ e, result = .error (.lockError e) → e.kind = .timeout →
      S.standing s.service inputs.request = .absent
  | _, _ => True

/-- A call that has failed, and not by a timeout. -/
def FailedOtherwise (call : Call) : Prop :=
  call.wire = .idle ∧ ∃ thrown, call.pc = .settled (.error thrown) ∧
    ∀ e, thrown = .lockError e → e.kind ≠ .timeout

theorem FailedOtherwise.settles (h : FailedOtherwise call) : Settles S inputs ⟨call, σ⟩ := by
  obtain ⟨hwire, thrown, hpc, hkind⟩ := h
  unfold Settles
  rw [hpc]
  refine ⟨hwire, ?_⟩
  intro e he htimeout
  cases he
  exact absurd htimeout (hkind e rfl)

theorem fromCause_kind {key : JsString} {step : Option LockStep} {cause : Thrown} {e : LockError}
    (h : LockError.fromCause .transport key step cause = .ok e) : e.kind = .transport := by
  unfold LockError.fromCause at h
  split at h
  · cases h
    rfl
  · cases h

theorem ofBuilt_kind {key : JsString} {step : Option LockStep} {cause : Thrown} {e : LockError}
    (h : Thrown.ofBuilt (LockError.fromCause .transport key step cause) = .lockError e) :
    e.kind ≠ .timeout := by
  cases hb : LockError.fromCause .transport key step cause with
  | ok built =>
    rw [hb] at h
    cases h
    rw [fromCause_kind hb]
    decide
  | error thrown =>
    rw [hb, fromCause_error hb] at h
    cases h

theorem fail_transport (cause : Thrown) : FailedOtherwise (call.fail (inputs.transport cause)) :=
  ⟨rfl, _, rfl, fun _ he => ofBuilt_kind he⟩

theorem fail_transportAt (cause : Thrown) :
    FailedOtherwise (call.fail (.ofBuilt (inputs.transportAt cause))) :=
  ⟨rfl, _, rfl, fun _ he => ofBuilt_kind he⟩

theorem fail_unprintable {cause thrown : Thrown} (h : inputs.transportAt cause = .error thrown) :
    FailedOtherwise (call.fail thrown) := by
  refine ⟨rfl, _, rfl, ?_⟩
  rintro e rfl
  have := fromCause_error h
  cases this

theorem prepare_eq {post post' : Post} (h : prepare inputs post = .ok post') : post' = post := by
  unfold prepare at h
  split at h
  · cases h
  split at h
  · split at h
    · cases h
    · cases h
      rfl
  · cases h
    rfl

theorem settles_cancelBeforeTerminal (terminal : LockError) :
    Settles S inputs ⟨call.cancelBeforeTerminal inputs terminal, σ⟩ := by
  unfold Call.cancelBeforeTerminal
  split
  · exact (fail_transportAt _).settles
  · rename_i post hpost
    exact prepare_eq hpost

theorem settles_cancelAborted : Settles S inputs ⟨call.cancelAborted inputs, σ⟩ := by
  unfold Call.cancelAborted
  split
  · rename_i thrown hthrown
    exact (fail_unprintable hthrown).settles
  · exact settles_cancelBeforeTerminal _

theorem settles_poll : Settles S inputs ⟨call.poll inputs, σ⟩ := by
  unfold Call.poll
  split
  · exact (fail_transport _).settles
  · trivial

theorem settles_loop : Settles S inputs ⟨call.loop inputs, σ⟩ := by
  unfold Call.loop
  split
  · split
    · exact (fail_transportAt _).settles
    · exact settles_cancelAborted
  · exact settles_poll

theorem settles_polled (now : Int) (out : Json) :
    Settles S inputs ⟨call.polled inputs now out, σ⟩ := by
  unfold Call.polled
  split
  · split
    · exact (fail_transport _).settles
    split
    · exact (fail_transport _).settles
    · exact ⟨rfl, fun _ he => by cases he⟩
  split
  · have hcontention : FailedOtherwise (call.fail
        (.lockError (LockError.contention inputs.request.key .fiduciaTryAcquire))) := by
      refine ⟨rfl, _, rfl, ?_⟩
      intro e he
      cases he
      exact LockErrorKind.noConfusion
    exact hcontention.settles
  split
  · exact settles_cancelAborted
  dsimp only
  split
  · exact settles_cancelBeforeTerminal _
  · trivial

/-- A terminal error is thrown only where nothing is left with the service. -/
theorem settles_terminal {terminal : LockError} (h : S.standing σ inputs.request = .absent) :
    Settles S inputs ⟨call.fail (.lockError terminal), σ⟩ :=
  ⟨rfl, fun _ _ _ => h⟩

theorem settles_cancelAnswered {terminal : LockError} {out : Json}
    (h : CancelSays S inputs.request out σ) :
    Settles S inputs ⟨call.cancelAnswered inputs terminal out, σ⟩ := by
  unfold Call.cancelAnswered
  split
  · exact (fail_transportAt _).settles
  · rename_i hnone
    exact settles_terminal (h.nothing hnone)
  · rename_i fencingToken hraced
    split
    · exact (fail_transportAt _).settles
    · rename_i post hpost
      exact ⟨prepare_eq hpost, h.raced fencingToken hraced⟩

theorem settles_releaseAnswered {terminal : LockError} {out : Json}
    (h : Json.isTrue (out.member "released") = true → S.standing σ inputs.request = .absent) :
    Settles S inputs ⟨call.releaseAnswered inputs terminal out, σ⟩ := by
  unfold Call.releaseAnswered
  split
  · rename_i hreleased
    exact settles_terminal (h hreleased)
  · exact (fail_transportAt _).settles

/-- A post that fails ends the call, and not by a timeout. -/
theorem settles_lost (h : Settles S inputs s) (cause : Thrown) (now : Int) :
    Settles S inputs ⟨s.call.receive inputs now (.error cause), s.service⟩ := by
  unfold Call.receive
  split
  · exact (fail_transport _).settles
  · exact (fail_transportAt _).settles
  · exact (fail_transportAt _).settles
  · exact h

theorem settles_received {post : Post} {response : Response} (h : Settles S inputs s)
    (hwire : s.call.wire = .answered post response) (now : Int) :
    Settles S inputs ⟨s.call.receive inputs now (readResponse response), s.service⟩ := by
  cases hread : readResponse response with
  | error cause => exact settles_lost h cause now
  | ok out =>
    have hs := h
    unfold Settles at hs
    rw [hwire] at hs
    unfold Call.receive
    split
    · exact settles_polled now out
    · rename_i terminal hpc
      rw [hpc] at hs
      exact settles_cancelAnswered (hs out hread)
    · rename_i terminal fencingToken hpc
      rw [hpc] at hs
      exact settles_releaseAnswered (hs out hread)
    · exact h

theorem settles_others (h : Settles S inputs s) (ho : S.others inputs.request s.service σ) :
    Settles S inputs ⟨s.call, σ⟩ := by
  unfold Settles at h ⊢
  split at h
  · rename_i hpc hwire
    simp only [hpc, hwire]
    exact h
  · rename_i hpc hwire
    simp only [hpc, hwire]
    exact fun out hread => (h out hread).others ho
  · rename_i hpc hwire
    simp only [hpc, hwire]
    exact ⟨h.1, others_atMost ho h.2⟩
  · rename_i hpc hwire
    simp only [hpc, hwire]
    exact fun out hread hreleased => others_absent ho (h out hread hreleased)
  · rename_i hpc
    simp only [hpc]
    exact ⟨h.1, fun e he hk => others_absent ho (h.2 e he hk)⟩
  · trivial

theorem settles_step {e : Event} (h : Settles S inputs s) (hstep : Step S inputs s e t) :
    Settles S inputs t := by
  cases hstep with
  | others ho => exact settles_others h ho
  | progressed hwire ha =>
    unfold Settles at h ⊢
    rw [hwire] at h
    dsimp only
    rw [hwire]
    cases hpc : s.call.pc with
    | polling => trivial
    | sleeping => trivial
    | cancelling terminal =>
      rw [hpc] at h
      cases h
    | releasing terminal fencingToken =>
      rw [hpc] at h
      cases h.1
    | settled result =>
      rw [hpc] at h
      cases h.1
  | served hwire hserve =>
    unfold Settles at h ⊢
    rw [hwire] at h
    dsimp only
    cases hpc : s.call.pc with
    | polling => trivial
    | sleeping => trivial
    | cancelling terminal =>
      rw [hpc] at h
      subst h
      exact fun out hread => cancelSays_of_serve hserve hread
    | releasing terminal fencingToken =>
      rw [hpc] at h
      obtain ⟨rfl, hmost⟩ := h
      exact fun out hread hreleased => absent_of_release hserve hread hreleased hmost
    | settled result =>
      rw [hpc] at h
      cases h.1
  | received now hwire => exact settles_received h hwire now
  | lost cause now hwire => exact settles_lost h cause now
  | elapsed hpc => exact settles_loop
  | aborted hsignal => exact h
  | abortHeard hpc haborted => exact settles_cancelAborted

/-- In every run, from any state of the service, a call that has rejected with a timeout
has neither a queued request nor a live grant. -/
theorem timeout_leaves_nothing (S : LockService) (inputs : Inputs) (aborted : Bool) (σ : S.State)
    {es : List Event} {s : State S} {e : LockError}
    (hrun : Exec (Step S inputs) ⟨start inputs aborted, σ⟩ es s)
    (hrejected : s.call.pc = .settled (.error (.lockError e))) (hkind : e.kind = .timeout) :
    S.standing s.service inputs.request ≠ .queued ∧
      ∀ fencingToken, S.standing s.service inputs.request ≠ .granted fencingToken := by
  have hsettles : Settles S inputs s := hrun.stateInvariant settles_loop settles_step
  unfold Settles at hsettles
  rw [hrejected] at hsettles
  have habsent := hsettles.2 e rfl hkind
  rw [habsent]
  exact ⟨Standing.noConfusion, fun _ => Standing.noConfusion⟩

end Calls

section Desk

/-- The response of a service that answers with the given members. -/
def answer (members : List (JsString × Json)) : Response where
  status := 200
  text := js "answer"
  parsed := .ok (.object [(js "result", .object [(js "output", .object members)])])

def grantOf (holder : JsString) (fencingToken : Nat) : Json :=
  .object [(js "holder", .string holder), (js "fencing_token", .number (.ofInt fencingToken))]

/-- A service that keeps the standing of every request and answers from it. -/
inductive Serves (σ : Request → Standing) : Post → (Request → Standing) → Response → Prop where
  | held (r : Request) (ttlMs : JsNumber) (waitMs : Option JsNumber) (fencingToken : Nat) :
      σ r = .granted fencingToken →
      Serves σ (.acquire r ttlMs waitMs) σ
        (answer [(js "acquired", .boolean true), (js "fencing_token", .number (.ofInt fencingToken))])
  | waits (r : Request) (ttlMs : JsNumber) (waitMs : Option JsNumber) :
      Serves σ (.acquire r ttlMs waitMs) (Function.update σ r .queued)
        (answer [(js "acquired", .boolean false)])
  | cancelled (r : Request) : (∀ fencingToken, σ r ≠ .granted fencingToken) →
      Serves σ (.cancel r) (Function.update σ r .absent)
        (answer [(js "cancelled", .boolean true), (js "acquired", .boolean false)])
  | raced (r : Request) (fencingToken : Nat) : σ r = .granted fencingToken →
      Serves σ (.cancel r) σ
        (answer [(js "cancelled", .boolean false), (js "acquired", .boolean true),
          (js "grant", grantOf r.holder fencingToken)])
  | released (key holder : JsString) (fencingToken : Nat) (σ' : Request → Standing) :
      (∀ r, σ' r = if r.key = key ∧ r.holder = holder ∧ σ r = .granted fencingToken then .absent
        else σ r) →
      Serves σ (.release key holder fencingToken) σ' (answer [(js "released", .boolean true)])
  | noop (key holder : JsString) (fencingToken : Nat) :
      Serves σ (.release key holder fencingToken) σ (answer [(js "released", .boolean false)])

theorem eq_of_asUint {n named : Nat} (h : asUint (some (.number (.ofInt n))) = some named) :
    named = n := by
  simp only [asUint] at h
  split at h
  · rw [JsNumber.toInt_ofInt, Int.toNat_natCast, Option.some.injEq] at h
    exact h.symm
  · cases h

def desk : LockService where
  State := Request → Standing
  standing σ r := σ r
  others r σ σ' := σ' r = σ r ∨ σ' r = .absent ∨
    σ r = .queued ∧ ∃ fencingToken, σ' r = .granted fencingToken
  progress _ _ _ := True
  serve := Serves
  others_law h := h
  cancelled_law := by
    intro r σ σ' response out h hread hcancelled hacquired
    cases h with
    | cancelled _ hnone =>
      refine ⟨?_, by simp⟩
      cases hr : σ r with
      | absent => exact Or.inr rfl
      | queued => exact Or.inl rfl
      | granted t => exact absurd hr (hnone t)
    | raced t hr =>
      cases hread
      exact absurd (show false = true from hcancelled) Bool.false_ne_true
  raced_law := by
    intro r σ σ' response out h hread hacquired
    cases h with
    | cancelled _ hnone =>
      cases hread
      exact absurd (show false = true from hacquired) Bool.false_ne_true
    | raced _ t hr =>
      refine ⟨t, hr, hr, ?_⟩
      intro grant named hgrant hnamed
      cases hread
      obtain rfl : grantOf r.holder t = grant := Option.some.inj hgrant
      exact eq_of_asUint hnamed
  released_law := by
    intro r fencingToken σ σ' response out h hread hreleased
    cases h with
    | released _ _ _ _ hall =>
      constructor
      · intro hg
        rw [hall r, if_pos ⟨rfl, rfl, hg⟩]
      · intro hg
        rw [hall r, if_neg (fun hc => hg hc.2.2)]
    | noop =>
      cases hread
      exact absurd (show false = true from hreleased) Bool.false_ne_true

def trialInputs : Inputs :=
  ⟨none, ⟨js "tenant/acme/jobs/rebuild", js "worker-a", js "attempt-42"⟩, .ofInt 60000, .ofInt 5,
    .ofInt 10, true, none, 0⟩

/-- The poll has waited long enough for the next one to come too late. -/
theorem trial_polled (wire : Wire) :
    Call.polled trialInputs ⟨.polling, wire, true, false⟩ 0
      (.object [(js "acquired", .boolean false)]) =
    ⟨.cancelling (trialInputs.timeout 0), .sent (.cancel trialInputs.request), true, false⟩ := by
  have hlate : Redlock.gt (add (.ofInt (0 - trialInputs.started)) trialInputs.retryIntervalMs)
      trialInputs.waitTimeoutMs = true := by decide +kernel
  have hacquired : Json.isTrue
      ((Json.object [(js "acquired", .boolean false)]).member "acquired") = false := rfl
  unfold Call.polled
  rw [hacquired]
  simp only [Bool.false_eq_true, if_false]
  rw [if_neg (by decide), if_pos hlate]
  rfl

/-- The grant is promoted after the poll and raced by the cancel. -/
theorem raced_timeout_leaves_nothing : ∃ (es : List Event) (s : State desk),
    Exec (Step desk trialInputs) ⟨start trialInputs false, fun _ => .absent⟩ es s ∧
    s.call.pc = .settled (.error (.lockError (trialInputs.timeout 0))) ∧
    desk.standing s.service trialInputs.request ≠ .queued ∧
    ∀ fencingToken, desk.standing s.service trialInputs.request ≠ .granted fencingToken := by
  let r := trialInputs.request
  let waiting : Request → Standing := Function.update (fun _ => .absent) r .queued
  let held : Request → Standing := Function.update waiting r (.granted 41)
  let freed : Request → Standing := fun r' =>
    if r'.key = r.key ∧ r'.holder = r.holder ∧ held r' = .granted 41 then .absent else held r'
  have hpromoted : desk.others r waiting held :=
    Or.inr (Or.inr ⟨Function.update_self .., 41, Function.update_self ..⟩)
  have hraced : Serves held (.cancel r) held _ := .raced r 41 (Function.update_self ..)
  have hreleased : Serves held (.release r.key r.holder 41) freed _ :=
    .released r.key r.holder 41 freed fun _ => rfl
  let waits := answer [(js "acquired", .boolean false)]
  let polled : State desk :=
    ⟨⟨.polling, .answered trialInputs.acquirePost waits, true, false⟩, waiting⟩
  have hserved : Step desk trialInputs ⟨start trialInputs false, fun _ => .absent⟩ (.served waits)
      polled := .served rfl (.waits r (.ofInt 60000) (some (.ofInt 5)))
  have hpolled : Step desk trialInputs polled (.received 0)
      ⟨⟨.cancelling (trialInputs.timeout 0), .sent (.cancel r), true, false⟩, waiting⟩ := by
    rw [← trial_polled polled.call.wire]
    exact Step.received (S := desk) (s := polled) 0 rfl
  have hpoll := (Exec.single hserved).snoc hpolled
  have hrun := ((((hpoll.snoc (.others hpromoted)).snoc (.served rfl hraced)).snoc
    (.received 1 rfl)).snoc (.served rfl hreleased)).snoc (.received 2 rfl)
  have hpc : _ = Pc.settled (.error (.lockError (trialInputs.timeout 0))) := rfl
  exact ⟨_, _, hrun, hpc, timeout_leaves_nothing desk trialInputs false _ hrun hpc rfl⟩

end Desk

end OresLocks.Ts.Fiducia
