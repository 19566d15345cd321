import OresLocks.FiduciaTimeouts

/-!
# The requests of the Fiducia adapter

A post is encoded by `JSON.stringify`. Its replacer writes a bigint as a number, and
refuses one that a number does not hold exactly; then nothing is sent. The decoder
reads a decimal string of any size as a token.
-/

namespace OresLocks.Ts.Fiducia

set_option autoImplicit false

open Shared.Numeral

/-- `JSON.stringify` writes a number that is not finite as `null`. -/
def jsonNumber : JsNumber → Json
  | .finite q => .number (.finite q)
  | _ => .null

def encodeWireInteger (value : Nat) : Except Thrown JsNumber :=
  if JsNumber.maxSafeInteger < value then
    let message := js "fiducia: fencing token " ++ numeral value ++
      js " cannot be represented exactly by the current numeric JSON wire format"
    .error (.named "RangeError" message)
  else .ok (.ofInt value)

/-- What `fetch` is called with. -/
structure WireRequest where
  path : String
  body : Json

/-- The request says that it is about this token. -/
def WireRequest.CarriesToken (request : WireRequest) (fencingToken : Nat) : Prop :=
  request.body.member "fencing_token" = some (.number (.ofInt fencingToken))

def releaseRequest (key holder : JsString) (fencingToken : Nat) : Except Thrown WireRequest :=
  (encodeWireInteger fencingToken).map fun token =>
    ⟨"/v1/locks/release", .object
      [(js "key", .string key), (js "holder", .string holder), (js "fencing_token", .number token)]⟩

def renewRequest (grant : LeaseGrant) (ttlMs : JsNumber) : Except Thrown WireRequest :=
  (encodeWireInteger grant.fencingToken).map fun token =>
    ⟨"/v1/locks/renew", .object
      [(js "key", .string grant.key), (js "holder", .string grant.holder),
        (js "fencing_token", .number token), (js "ttl_ms", jsonNumber ttlMs)]⟩

/-- The request of a post of `acquire`. -/
def Post.request : Post → Except Thrown WireRequest
  | .acquire request ttlMs waitTimeoutMs => .ok ⟨"/v1/locks/acquire", .object
      ([(js "key", .string request.key), (js "holder", .string request.holder),
        (js "ttl_ms", jsonNumber ttlMs), (js "request_id", .string request.requestId)] ++
        (waitTimeoutMs.map fun ms => (js "wait_timeout_ms", jsonNumber ms)).toList)⟩
  | .cancel request => .ok ⟨"/v1/locks/cancel", .object
      [(js "keys", .array), (js "holder", .string request.holder),
        (js "request_id", .string request.requestId)]⟩
  | .release key holder fencingToken => releaseRequest key holder fencingToken

/-- `#post`: the requests handed to `fetch`, and the outcome once `answer` has arrived. -/
def post (refusal : Option JsString) (request : Except Thrown WireRequest)
    (answer : Except Thrown Response) : List WireRequest × Except Thrown Json :=
  match refusal with
  | some message => ([], .error (error message))
  | none =>
    match request with
    | .error thrown => ([], .error thrown)
    | .ok request =>
      match answer with
      | .error thrown => ([request], .error thrown)
      | .ok response => ([request], readResponse response)

def lostAuthority (grant : LeaseGrant) : LockError :=
  ⟨.lostLease, grant.key, none, js "fiducia: lock renewal lost fenced authority"⟩

def renewed (grant : LeaseGrant) (ttlMs : JsNumber) : Except Thrown Json → Except Thrown LeaseGrant
  | .error cause => .error (.ofBuilt (LockError.transport grant.key cause))
  | .ok out =>
    if !Json.isTrue (out.member "renewed") then .error (.lockError (lostAuthority grant))
    else
      match asUint (out.member "lease_expires_ms") with
      | none => .ok { grant with ttlMs }
      | some expires => .ok { grant with ttlMs, leaseExpiresMs := some expires }

def renew (refusal : Option JsString) (grant : LeaseGrant) (ttlMs : JsNumber)
    (answer : Except Thrown Response) : List WireRequest × Except Thrown LeaseGrant :=
  let (sent, out) := post refusal (renewRequest grant ttlMs) answer
  (sent, renewed grant ttlMs out)

def released (grant : LeaseGrant) : Except Thrown Json → Except Thrown Bool
  | .error cause =>
    .error (.ofBuilt (LockError.fromCause .transport grant.key (some .fiduciaRelease) cause))
  | .ok out => .ok (Json.isTrue (out.member "released"))

def release (refusal : Option JsString) (grant : LeaseGrant) (answer : Except Thrown Response) :
    List WireRequest × Except Thrown Bool :=
  let (sent, out) := post refusal (releaseRequest grant.key grant.holder grant.fencingToken) answer
  (sent, released grant out)

/-- One request was sent, to this path and about this token. -/
def Sends (sent : List WireRequest) (path : String) (fencingToken : Nat) : Prop :=
  ∃ request, sent = [request] ∧ request.path = path ∧ request.CarriesToken fencingToken

/-- `acquire` returns the grant when this response answers one of its polls. -/
def Grants (inputs : Inputs) (response : Response) (grant : LeaseGrant) : Prop :=
  ∃ (call : Call) (now : Int), prepare inputs inputs.acquirePost = .ok inputs.acquirePost ∧
    call.pc = .polling ∧
      (call.receive inputs now (readResponse response)).pc = .settled (.ok grant)

/-- `#cancelQueuedAcquire` asks for the release of a raced grant when this response
answers its cancellation. -/
def Races (inputs : Inputs) (response : Response) (fencingToken : Nat) : Prop :=
  prepare inputs (.cancel inputs.request) = .ok (.cancel inputs.request) ∧
    ∃ out, readResponse response = .ok out ∧
      readCancel inputs.request.holder out = .ok (some fencingToken)

/-- The `fencing_token` of an answer to `acquire`. -/
def Response.grantedField (response : Response) : Option Json :=
  match readResponse response with
  | .error _ => none
  | .ok out => out.member "fencing_token"

/-- The `fencing_token` of the grant that an answer to `cancel` reports. -/
def Response.racedField (response : Response) : Option Json :=
  match readResponse response with
  | .error _ => none
  | .ok out => (out.member "grant").bind fun grant => grant.member "fencing_token"

/-- A decimal string above the integers that a number holds exactly. -/
def Oversized (field : Option Json) : Prop :=
  ∃ text, field = some (.string text) ∧ JsNumber.maxSafeInteger < natOf text

/-- The call goes on with one release of the raced grant. -/
def SendsRaced (call : Call) (fencingToken : Nat) : Prop :=
  ∃ post request, call.wire = .sent post ∧ post.request = .ok request ∧
    request.path = "/v1/locks/release" ∧ request.CarriesToken fencingToken

section Requests

variable {inputs : Inputs} {grant : LeaseGrant} {fencingToken : Nat} {refusal : Option JsString}

theorem encodeWireInteger_exact (h : fencingToken ≤ JsNumber.maxSafeInteger) :
    encodeWireInteger fencingToken = .ok (.ofInt fencingToken) :=
  if_neg (Nat.not_lt.mpr h)

theorem encodeWireInteger_refused (h : ¬ fencingToken ≤ JsNumber.maxSafeInteger) :
    ∃ thrown, encodeWireInteger fencingToken = .error thrown :=
  ⟨_, if_pos (Nat.not_le.mp h)⟩

/-- `prepare` refuses the posts that `#post` does not send. -/
theorem prepare_map (post : Post) : prepare inputs post =
    match inputs.refusal with
    | some message => .error (error message)
    | none => post.request.map fun _ => post := by
  unfold prepare
  cases inputs.refusal with
  | some message => rfl
  | none =>
    cases post with
    | acquire request ttlMs waitTimeoutMs => rfl
    | cancel request => rfl
    | release key holder fencingToken =>
      simp only [Post.request, releaseRequest]
      by_cases h : fencingToken ≤ JsNumber.maxSafeInteger
      · rw [encodeWireInteger_exact h, if_neg (Nat.not_lt.mpr h)]
        rfl
      · have hlarge := Nat.not_le.mp h
        rw [encodeWireInteger, if_pos hlarge, if_pos hlarge]
        rfl

theorem unrefused_of_prepare {post post' : Post} (h : prepare inputs post = .ok post') :
    inputs.refusal = none := by
  rw [prepare_map] at h
  cases hrefusal : inputs.refusal with
  | none => rfl
  | some message =>
    rw [hrefusal] at h
    cases h

/-- A post is sent exactly when its token is encoded. -/
theorem post_sends_iff (path : String) (body : JsNumber → Json)
    (hbody : ∀ token, (body token).member "fencing_token" = some (.number token))
    (answer : Except Thrown Response) :
    Sends (post none ((encodeWireInteger fencingToken).map fun token => ⟨path, body token⟩)
      answer).1 path fencingToken ↔ fencingToken ≤ JsNumber.maxSafeInteger := by
  by_cases h : fencingToken ≤ JsNumber.maxSafeInteger
  · rw [encodeWireInteger_exact h]
    refine ⟨fun _ => h, fun _ => ⟨⟨path, body (.ofInt fencingToken)⟩, ?_, rfl, hbody _⟩⟩
    cases answer with
    | error thrown => rfl
    | ok response => rfl
  · obtain ⟨thrown, hrefused⟩ := encodeWireInteger_refused h
    rw [hrefused]
    refine ⟨?_, fun hsmall => absurd hsmall h⟩
    rintro ⟨request, hsent, _⟩
    cases hsent

/-- Only a string is decoded to a token that is not encoded again. -/
theorem asUint_le_iff {field : Option Json} (h : asUint field = some fencingToken) :
    fencingToken ≤ JsNumber.maxSafeInteger ↔ ¬ Oversized field := by
  unfold asUint at h
  split at h
  · rename_i n
    split at h
    · rename_i hsafe
      have hbound : n.toInt.toNat ≤ JsNumber.maxSafeInteger := by
        cases n with
        | nan => cases hsafe
        | infinity negative => cases hsafe
        | finite q =>
          simp only [JsNumber.isSafeInteger, Bool.and_eq_true, decide_eq_true_eq] at hsafe
          simp only [JsNumber.toInt]
          omega
      cases h
      refine ⟨?_, fun _ => hbound⟩
      rintro _ ⟨text, hfield, _⟩
      cases hfield
    · cases h
  · rename_i text
    split at h
    · cases h
      constructor
      · rintro hsmall ⟨_, hfield, hlarge⟩
        cases hfield
        omega
      · intro hsmall
        by_contra hlarge
        exact hsmall ⟨text, rfl, Nat.not_le.mp hlarge⟩
    · cases h
  · cases h

theorem fail_not_granted (call : Call) (thrown : Thrown) :
    (call.fail thrown).pc ≠ .settled (.ok grant) := by
  intro h
  cases h

theorem cancelBeforeTerminal_not_granted (call : Call) (terminal : LockError) :
    (call.cancelBeforeTerminal inputs terminal).pc ≠ .settled (.ok grant) := by
  intro h
  unfold Call.cancelBeforeTerminal at h
  split at h
  · cases h
  · cases h

theorem cancelAborted_not_granted (call : Call) :
    (call.cancelAborted inputs).pc ≠ .settled (.ok grant) := by
  unfold Call.cancelAborted
  split
  · exact fail_not_granted call _
  · exact cancelBeforeTerminal_not_granted call _

/-- The token of a grant is the one of the answer. -/
theorem asUint_of_polled {call : Call} {now : Int} {out : Json}
    (h : (call.polled inputs now out).pc = .settled (.ok grant)) :
    asUint (out.member "fencing_token") = some grant.fencingToken := by
  unfold Call.polled at h
  split at h
  · split at h
    · cases h
    rename_i fencingToken htoken
    split at h
    · cases h
    · cases h
      exact htoken
  split at h
  · cases h
  split at h
  · exact absurd h (cancelAborted_not_granted call)
  simp only at h
  split at h
  · exact absurd h (cancelBeforeTerminal_not_granted call _)
  · cases h

theorem Grants.asUint_eq {response : Response} (h : Grants inputs response grant) :
    asUint response.grantedField = some grant.fencingToken := by
  obtain ⟨call, now, _, hpc, hsettled⟩ := h
  unfold Call.receive at hsettled
  rw [hpc] at hsettled
  simp only at hsettled
  unfold Response.grantedField
  cases hread : readResponse response with
  | error cause =>
    rw [hread] at hsettled
    exact absurd hsettled (fail_not_granted call _)
  | ok out =>
    rw [hread] at hsettled
    exact asUint_of_polled hsettled

theorem asUint_of_readCancel {holder : JsString} {out : Json}
    (h : readCancel holder out = .ok (some fencingToken)) :
    ∃ grant, out.member "grant" = some grant ∧
      asUint (grant.member "fencing_token") = some fencingToken := by
  unfold readCancel at h
  split at h
  · cases h
  split at h
  · cases h
  have hnamed : ∀ grant, (racedToken holder grant).map some = .ok (some fencingToken) →
      asUint (grant.member "fencing_token") = some fencingToken := by
    intro grant hgrant
    unfold racedToken at hgrant
    split at hgrant
    · cases hgrant
    rename_i named htoken
    split at hgrant
    · cases hgrant
    · cases hgrant
      exact htoken
  split at h
  · rename_i members hgrant
    exact ⟨_, hgrant, hnamed _ h⟩
  · rename_i hgrant
    exact ⟨_, hgrant, hnamed _ h⟩
  · cases h

theorem Races.asUint_eq {response : Response} (h : Races inputs response fencingToken) :
    asUint response.racedField = some fencingToken := by
  obtain ⟨_, out, hread, hraced⟩ := h
  obtain ⟨grant, hgrant, htoken⟩ := asUint_of_readCancel hraced
  unfold Response.racedField
  rw [hread]
  simp only
  rw [hgrant]
  exact htoken

theorem renew_sends_iff (ttlMs : JsNumber) (answer : Except Thrown Response) :
    Sends (renew none grant ttlMs answer).1 "/v1/locks/renew" grant.fencingToken ↔
      grant.fencingToken ≤ JsNumber.maxSafeInteger :=
  post_sends_iff _ (fun token => .object
    [(js "key", .string grant.key), (js "holder", .string grant.holder),
      (js "fencing_token", .number token), (js "ttl_ms", jsonNumber ttlMs)]) (fun _ => rfl) answer

theorem release_sends_iff (answer : Except Thrown Response) :
    Sends (release none grant answer).1 "/v1/locks/release" grant.fencingToken ↔
      grant.fencingToken ≤ JsNumber.maxSafeInteger :=
  post_sends_iff _ (fun token => .object
    [(js "key", .string grant.key), (js "holder", .string grant.holder),
      (js "fencing_token", .number token)]) (fun _ => rfl) answer

theorem releaseRequest_carries (key holder : JsString)
    (h : fencingToken ≤ JsNumber.maxSafeInteger) :
    ∃ request, releaseRequest key holder fencingToken = .ok request ∧
      request.path = "/v1/locks/release" ∧ request.CarriesToken fencingToken := by
  refine ⟨⟨_, .object [(js "key", .string key), (js "holder", .string holder),
    (js "fencing_token", .number (.ofInt fencingToken))]⟩, ?_, rfl, rfl⟩
  unfold releaseRequest
  rw [encodeWireInteger_exact h]
  rfl

theorem raced_sends_iff {response : Response} {call : Call} {terminal : LockError} (now : Int)
    (h : Races inputs response fencingToken) (hpc : call.pc = .cancelling terminal) :
    SendsRaced (call.receive inputs now (readResponse response)) fencingToken ↔
      fencingToken ≤ JsNumber.maxSafeInteger := by
  obtain ⟨hprepared, out, hread, hraced⟩ := h
  have hunrefused := unrefused_of_prepare hprepared
  have hanswered : call.receive inputs now (readResponse response) =
      call.cancelAnswered inputs terminal out := by
    unfold Call.receive
    rw [hpc, hread]
  rw [hanswered]
  unfold Call.cancelAnswered
  rw [hraced]
  simp only
  rw [prepare_map, hunrefused]
  simp only [Post.request, releaseRequest]
  by_cases hsmall : fencingToken ≤ JsNumber.maxSafeInteger
  · rw [encodeWireInteger_exact hsmall]
    refine ⟨fun _ => hsmall, fun _ => ?_⟩
    obtain ⟨request, hrequest, hpath, hcarries⟩ :=
      releaseRequest_carries inputs.request.key inputs.request.holder hsmall
    exact ⟨_, request, rfl, hrequest, hpath, hcarries⟩
  · obtain ⟨thrown, hrefused⟩ := encodeWireInteger_refused hsmall
    rw [hrefused]
    refine ⟨?_, fun h => absurd h hsmall⟩
    rintro ⟨post, request, hwire, _⟩
    cases hwire

/-- A grant is renewed and released under its token, and a raced grant is released under
its, unless the service wrote the token as a decimal string above 2⁵³ − 1. -/
theorem grants_usable_iff (inputs : Inputs) (response : Response) :
    (∀ grant, Grants inputs response grant → ∀ ttlMs answer,
      (Sends (renew inputs.refusal grant ttlMs answer).1 "/v1/locks/renew" grant.fencingToken ↔
        ¬ Oversized response.grantedField) ∧
      (Sends (release inputs.refusal grant answer).1 "/v1/locks/release" grant.fencingToken ↔
        ¬ Oversized response.grantedField)) ∧
    ∀ fencingToken, Races inputs response fencingToken →
      ∀ (call : Call) (terminal : LockError) (now : Int), call.pc = .cancelling terminal →
        (SendsRaced (call.receive inputs now (readResponse response)) fencingToken ↔
          ¬ Oversized response.racedField) := by
  constructor
  · intro grant hgrant ttlMs answer
    have hexact := asUint_le_iff hgrant.asUint_eq
    obtain ⟨call, now, hprepared, _⟩ := hgrant
    rw [unrefused_of_prepare hprepared, ← hexact]
    exact ⟨renew_sends_iff ttlMs answer, release_sends_iff answer⟩
  · intro fencingToken hraces call terminal now hpc
    rw [← asUint_le_iff hraces.asUint_eq]
    exact raced_sends_iff now hraces hpc

end Requests

section Strings

def granting (fencingToken : JsString) : Response :=
  answer [(js "acquired", .boolean true), (js "fencing_token", .string fencingToken)]

def racing (holder fencingToken : JsString) : Response :=
  answer [(js "cancelled", .boolean false), (js "acquired", .boolean true),
    (js "grant", .object
      [(js "holder", .string holder), (js "fencing_token", .string fencingToken)])]

def granted (fencingToken : Nat) : LeaseGrant :=
  ⟨trialInputs.request.key, trialInputs.request.holder, fencingToken, trialInputs.ttlMs, none⟩

def polling : Call := ⟨.polling, .idle, true, false⟩

def cancelling : Call := ⟨.cancelling (trialInputs.timeout 0), .idle, true, false⟩

theorem grants_small : Grants trialInputs (granting (js "41")) (granted 41) :=
  ⟨polling, 0, rfl, rfl, rfl⟩

theorem races_small : Races trialInputs (racing trialInputs.request.holder (js "41")) 41 :=
  ⟨rfl, _, rfl, rfl⟩

theorem not_oversized_small : ¬ Oversized (some (.string (js "41"))) := by
  rintro ⟨text, htext, hlarge⟩
  cases htext
  exact absurd hlarge (by decide)

/-- The grant with token 41, and a raced one. -/
theorem small_grants_usable :
    (Sends (renew none (granted 41) (.ofInt 60000) (.ok (answer []))).1 "/v1/locks/renew" 41 ∧
      Sends (release none (granted 41) (.ok (answer []))).1 "/v1/locks/release" 41) ∧
    SendsRaced (cancelling.receive trialInputs 0
      (readResponse (racing trialInputs.request.holder (js "41")))) 41 := by
  have hgrants := (grants_usable_iff trialInputs (granting (js "41"))).1 (granted 41)
    grants_small (.ofInt 60000) (.ok (answer []))
  have hraces := (grants_usable_iff trialInputs (racing trialInputs.request.holder (js "41"))).2 41
    races_small cancelling _ 0 rfl
  exact ⟨⟨hgrants.1.mpr not_oversized_small, hgrants.2.mpr not_oversized_small⟩,
    hraces.mpr not_oversized_small⟩

/-- The token 2⁵³ + 1 is granted and can be neither renewed nor released. -/
theorem large_grant_unusable : Grants trialInputs (granting (js "9007199254740993"))
      (granted 9007199254740993) ∧
    (renew none (granted 9007199254740993) (.ofInt 60000) (.ok (answer []))).1 = [] ∧
    (release none (granted 9007199254740993) (.ok (answer []))).1 = [] ∧
    Races trialInputs (racing trialInputs.request.holder (js "9007199254740993"))
      9007199254740993 ∧
    ¬ SendsRaced (cancelling.receive trialInputs 0
      (readResponse (racing trialInputs.request.holder (js "9007199254740993"))))
      9007199254740993 := by
  have hraces : Races trialInputs (racing trialInputs.request.holder (js "9007199254740993"))
      9007199254740993 := ⟨rfl, _, rfl, rfl⟩
  refine ⟨⟨polling, 0, rfl, rfl, rfl⟩, rfl, rfl, hraces, ?_⟩
  rw [raced_sends_iff 0 hraces rfl]
  decide

end Strings

end OresLocks.Ts.Fiducia
