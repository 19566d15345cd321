import OresLocks.AuthorityExclusion
import OresLocks.Worker.Fetch

/-!
# What a run of the Worker does to the leases

Seen from one key, a run of the whole Worker is a run of that key's authority. Public
requests take part in it only when they are admitted.
-/

namespace OresLocks.Worker

set_option autoImplicit false

open Shared.Numeral Shared.Runs OresLocks.Authority Ts

variable {p : Platform} {env : Env} {w : Namespace} {key : JsString}

theorem Namespace.put_same (w : Namespace) (key : JsString) (storage : Storage) :
    w.put key storage key = storage := if_pos rfl

theorem Namespace.put_other (w : Namespace) {key other : JsString} (storage : Storage)
    (h : key ≠ other) : w.put other storage key = w key := if_neg h

theorem step_serve (request : Authority.Request) (s : Storage) :
    Authority.Step s (serve request s).1 (serve request s).2 := by
  cases request with
  | acquire body now => exact .acquire body now
  | renew body now => exact .renew body now
  | release body now => exact .release body now

/-- What one event can do: nothing to any lease, or one step of one authority. -/
inductive Served (w : Namespace) (o : Outcome) : Prop where
  | nothing (namespaces : o.namespaces = w) (served : o.served = none)
  | one (key : JsString) (e : Authority.Event) (storage : Storage)
      (step : Authority.Step (w key) e storage) (namespaces : o.namespaces = w.put key storage)
      (served : o.served = some (key, e))

theorem served_next (p : Platform) (env : Env) (w : Namespace) (e : Event) :
    Served w (next p env w e) := by
  cases e with
  | request request delivery =>
    change Served w (deliver w (fetch p env request) delivery)
    cases fetch p env request with
    | respond response => exact .nothing rfl rfl
    | call path key body =>
      cases delivery with
      | served now => exact .one key _ _ (step_serve (rpcRequest path body now) (w key)) rfl rfl
      | lost => exact .nothing rfl rfl
      | unanswered now => exact .one key _ _ (step_serve (rpcRequest path body now) (w key)) rfl rfl
  | object key request now =>
    change Served w (deliverObject w now (fetchObject p key request))
    cases fetchObject p key request with
    | respond response => exact .nothing rfl rfl
    | call path key body =>
      exact .one key _ _ (step_serve (rpcRequest path body now) (w key)) rfl rfl
  | rpc key request => exact .one key _ _ (step_serve request (w key)) rfl rfl
  | alarm key now => exact .one key (.alarm now) _ (.alarm now) rfl rfl

/-- Seen from one key, a run is a run of its authority. -/
theorem history_exec (p : Platform) (env : Env) (key : JsString) (w : Namespace)
    (events : List Event) :
    Exec Authority.Step (w key) (history p env key w events) (run p env w events key) := by
  induction events generalizing w with
  | nil => exact .nil
  | cons e events ih =>
    unfold history run
    have hrest := ih (next p env w e).namespaces
    cases served_next p env w e with
    | nothing hsame hserved =>
      rw [hserved]
      rw [hsame] at hrest ⊢
      exact hrest
    | one other event storage hstep hput hserved =>
      rw [hserved]
      dsimp only
      split
      · rename_i hkey
        subst hkey
        rw [hput, Namespace.put_same] at hrest
        rw [hput]
        exact (Exec.single hstep).append hrest
      · rename_i hkey
        rw [hput, Namespace.put_other w storage (Ne.symm hkey)] at hrest
        rw [hput]
        exact hrest

theorem run_append (p : Platform) (env : Env) (w : Namespace) (pre post : List Event) :
    run p env w (pre ++ post) = run p env (run p env w pre) post := by
  induction pre generalizing w with
  | nil => rfl
  | cons e pre ih => exact ih _

/-! ## Admission -/

/-- Everything a public request has to be for its key's authority to be called. -/
structure Admits (p : Platform) (env : Env) (request : Request) (path : Path) (members : Members)
    (key : JsString) : Prop where
  known : leasePath request.pathname = some path
  method : request.method = js "POST"
  production : productionMode env = true → env.allowUnauthenticated ≠ some (js "true") ∧
    ∃ policy, parsePublicScopePolicy p env.policyJson = .configured policy
  authenticated : env.allowUnauthenticated = some (js "true") ∨
    env.apiToken.getD [] ≠ [] ∧
      bearerMatches p request.authorization (env.apiToken.getD []) = true
  body : readBoundedJson p request = .ok (.object members)
  closed : ∀ member ∈ members, member.1 ∈ publicFields path
  keyed : field members (js "key") = .string key ∧
    validIdentity (.string key) maxLockKeyBytes = true
  holder : validHolder (field members (js "holder")) = true
  scope : ∀ policy, parsePublicScopePolicy p env.policyJson = .configured policy →
    path.operation ∈ policy.operations ∧ (∃ start ∈ policy.keyPrefixes, start <+: key) ∧
      (path ≠ .release → int (field members (js "ttl_ms")) ≤ policy.maxTtlMs)

/-- What a body that public validation accepts is. -/
theorem validatePublic_ok {path : Path} {body : Json}
    (h : validatePublicOperation path body = none) :
    ∃ members key, body = .object members ∧
      (∀ member ∈ members, member.1 ∈ publicFields path) ∧
      field members (js "key") = .string key ∧
      validIdentity (.string key) maxLockKeyBytes = true ∧
      validHolder (field members (js "holder")) = true ∧
      (path = .acquire → validRequestId (field members (js "request_id")) = true) ∧
      (path ≠ .release → validTtl (field members (js "ttl_ms")) = true) ∧
      (path ≠ .acquire → canonicalToken (field members (js "fencing_token")) ≠ none) := by
  unfold validatePublicOperation validateOperation at h
  split at h
  · rename_i members
    split at h
    · cases h
    rename_i hclosed
    split at h
    · cases h
    rename_i hkey
    split at h
    · cases h
    rename_i hholder
    split at h
    · cases h
    rename_i hrequest
    split at h
    · cases h
    rename_i httl
    split at h
    · cases h
    rename_i htoken
    rw [Bool.true_and, Bool.not_eq_true', Bool.not_eq_false] at hkey
    rw [Bool.not_eq_true', Bool.not_eq_false] at hclosed hholder
    obtain ⟨key, hstring⟩ := validIdentity_string hkey
    refine ⟨members, key, rfl, ?_, hstring, hstring ▸ hkey, hholder, ?_, ?_, ?_⟩
    · intro member hmember
      exact List.contains_iff_mem.mp (List.all_eq_true.mp hclosed member hmember)
    · intro hpath
      cases hvalid : validRequestId (field members (js "request_id")) with
      | true => rfl
      | false => exact absurd ⟨hpath, hvalid⟩ hrequest
    · intro hpath
      cases hvalid : validTtl (field members (js "ttl_ms")) with
      | true => rfl
      | false => exact absurd ⟨hpath, hvalid⟩ httl
    · intro hpath hnone
      exact htoken ⟨hpath, hnone⟩
  · cases h

theorem authorize_ok {policy : ScopePolicy} {path : Path} {members : Members}
    (hkey : field members (js "key") = .string key)
    (h : authorizePublicOperation policy path members = none) :
    path.operation ∈ policy.operations ∧ (∃ start ∈ policy.keyPrefixes, start <+: key) ∧
      (path ≠ .release → int (field members (js "ttl_ms")) ≤ policy.maxTtlMs) := by
  unfold authorizePublicOperation at h
  split at h
  · cases h
  rename_i hoperation
  split at h
  · cases h
  rename_i hprefix
  split at h
  · cases h
  rename_i httl
  refine ⟨List.contains_iff_mem.mp (Decidable.not_not.mp hoperation), ?_, ?_⟩
  · obtain ⟨start, hstart, hstarts⟩ := List.any_eq_true.mp (Decidable.not_not.mp hprefix)
    rw [hkey] at hstarts
    exact ⟨start, hstart, List.isPrefixOf_iff_prefix.mp hstarts⟩
  · intro hpath
    by_contra hlt
    exact httl ⟨hpath, by omega⟩

theorem handle_call {policy : Option ScopePolicy} {path called : Path} {request : Request}
    {body : LeaseBody} (h : handle p policy path request = .call called key body) :
    ∃ members, called = path ∧ readBoundedJson p request = .ok (.object members) ∧
      validatePublicOperation path (.object members) = none ∧
      field members (js "key") = .string key ∧ body = internalBody path members ∧
      ∀ granted, policy = some granted → authorizePublicOperation granted path members = none := by
  unfold handle at h
  split at h
  · cases h
  rename_i parsed hread
  split at h
  · cases h
  rename_i hvalid
  obtain ⟨members, key', rfl, _, hkey, _⟩ := validatePublic_ok hvalid
  dsimp only at h
  split at h
  · cases h
  rename_i hscope
  rw [hkey] at h
  cases h
  refine ⟨members, rfl, hread, hvalid, hkey, rfl, ?_⟩
  intro granted hgranted
  rw [hgranted, Option.bind_some, Option.isSome_iff_ne_none, not_not] at hscope
  exact hscope

/-- A public request that reaches an authority is admitted for that authority's key. -/
theorem fetch_call {request : Request} {path : Path} {body : LeaseBody}
    (h : fetch p env request = .call path key body) :
    ∃ members, Admits p env request path members key ∧
      validatePublicOperation path (.object members) = none ∧ body = internalBody path members := by
  unfold fetch at h
  split at h
  · cases h
  split at h
  · cases h
  rename_i known hpath
  split at h
  · cases h
  rename_i hmethod
  split at h
  · cases h
  rename_i hsafe
  split at h
  · cases h
  rename_i hconfigured
  split at h
  · cases h
  rename_i hbearer
  obtain ⟨members, rfl, hread, hvalid, hkey, hbody, hscope⟩ := handle_call h
  obtain ⟨_, _, hmembers, hclosed, hkey', hidentity, hholder, _⟩ := validatePublic_ok hvalid
  cases hmembers
  cases hkey.symm.trans hkey'
  have hsafe' : ¬ (parsePublicScopePolicy p env.policyJson = .invalid) ∧
      (productionMode env = true → parsePublicScopePolicy p env.policyJson ≠ .unconfigured ∧
        env.allowUnauthenticated ≠ some (js "true")) := by
    unfold unsafeConfiguration at hsafe
    simp only [Bool.or_eq_true, Bool.and_eq_true, beq_iff_eq, not_or, not_and] at hsafe
    exact hsafe
  refine ⟨members, ⟨hpath, Decidable.not_not.mp hmethod, ?_, ?_, hread, hclosed, ⟨hkey, hidentity⟩,
    hholder, ?_⟩, hvalid, hbody⟩
  · intro hproduction
    obtain ⟨hset, hclosed'⟩ := hsafe'.2 hproduction
    refine ⟨hclosed', ?_⟩
    cases hparsed : parsePublicScopePolicy p env.policyJson with
    | unconfigured => exact absurd hparsed hset
    | invalid => exact absurd hparsed hsafe'.1
    | configured policy => exact ⟨policy, rfl⟩
  · by_cases hopen : env.allowUnauthenticated = some (js "true")
    · exact Or.inl hopen
    · right
      constructor
      · intro hnone
        exact hconfigured ⟨hnone, hopen⟩
      · cases hmatches : bearerMatches p request.authorization (env.apiToken.getD []) with
        | true => rfl
        | false => exact absurd ⟨hopen, hmatches⟩ hbearer
  · intro policy hpolicy
    apply authorize_ok hkey
    apply hscope
    rw [hpolicy]
    rfl

/-- A public request changes the lease of no other key than the one it is admitted for. -/
theorem request_changes {request : Request} {delivery : Delivery}
    (h : (next p env w (.request request delivery)).namespaces key ≠ w key) :
    ∃ path members, Admits p env request path members key := by
  change (deliver w (fetch p env request) delivery).namespaces key ≠ w key at h
  cases hfetch : fetch p env request with
  | respond response =>
    rw [hfetch] at h
    exact absurd rfl h
  | call path called body =>
    rw [hfetch] at h
    obtain ⟨members, hadmits, _, _⟩ := fetch_call hfetch
    have hkey : key = called := by
      by_contra hne
      cases delivery with
      | lost => exact h rfl
      | served now => exact h (Namespace.put_other w _ hne)
      | unanswered now => exact h (Namespace.put_other w _ hne)
    subst hkey
    exact ⟨path, members, hadmits⟩

/-! ## Tokens -/

/-- The token that an event's HTTP answer grants for a key. -/
def grantedToken (o : Outcome) (key : JsString) : Option JsString :=
  match o.served, o.response with
  | some (served, _), some ⟨200, .acquired (.granted token _ _)⟩ =>
    if served = key then some token else none
  | _, _ => none

/-- The tokens that the HTTP answers of a run grant for a key, oldest first. -/
def grantedTokens (p : Platform) (env : Env) (key : JsString) (w : Namespace) :
    List Event → List JsString
  | [] => []
  | e :: es =>
    (grantedToken (next p env w e) key).toList ++
      grantedTokens p env key (next p env w e).namespaces es

/-- An answer that grants a token is the answer of an authority that granted it. -/
theorem rpcAnswer_granted {e : Authority.Event} {status : Nat} {token : JsString}
    {expires ttl : Int} (h : rpcAnswer e = some ⟨status, .acquired (.granted token expires ttl)⟩) :
    e.freshToken = some token := by
  unfold rpcAnswer at h
  split at h
  · cases h
  · cases h
  · cases h
  · cases h
    rfl
  all_goals cases h

/-- The answers that an event can have for what an authority did. -/
def Relays (response : Option Response) (e : Authority.Event) : Prop :=
  response = none ∨ response = some rpcFailed ∨ response = rpcAnswer e

theorem relays_next {e : Event} {served : JsString} {event : Authority.Event}
    (h : (next p env w e).served = some (served, event)) :
    Relays (next p env w e).response event := by
  cases e with
  | request request delivery =>
    change (deliver w (fetch p env request) delivery).served = _ at h
    change Relays (deliver w (fetch p env request) delivery).response event
    cases hfetch : fetch p env request with
    | respond response =>
      rw [hfetch] at h
      cases h
    | call path key body =>
      rw [hfetch] at h
      cases delivery with
      | lost => cases h
      | unanswered now => exact Or.inr (Or.inl rfl)
      | served now =>
        have hevent := (Prod.mk.inj (Option.some.inj h)).2
        subst hevent
        change Relays (some ((rpcAnswer _).getD rpcFailed)) _
        cases hanswer : rpcAnswer (serve (rpcRequest path body now) (w key)).1 with
        | none => exact Or.inr (Or.inl rfl)
        | some response => exact Or.inr (Or.inr hanswer.symm)
  | object key request now =>
    change (deliverObject w now (fetchObject p key request)).served = _ at h
    change Relays (deliverObject w now (fetchObject p key request)).response event
    cases hfetch : fetchObject p key request with
    | respond response =>
      rw [hfetch] at h
      cases h
    | call path key body =>
      rw [hfetch] at h
      cases h
      exact Or.inr (Or.inr rfl)
  | rpc key request => exact Or.inl rfl
  | alarm key now => exact Or.inl rfl

/-- A token granted over HTTP was granted by the authority of the key. -/
theorem grantedToken_fresh {e : Event} {token : JsString}
    (h : grantedToken (next p env w e) key = some token) :
    ∃ event, (next p env w e).served = some (key, event) ∧ event.freshToken = some token := by
  unfold grantedToken at h
  split at h
  · rename_i served event granted expires ttl hserved hresponse
    split at h
    · rename_i hkey
      cases h
      subst hkey
      refine ⟨event, hserved, ?_⟩
      rcases relays_next hserved with hnone | hfailed | hanswer
      · rw [hresponse] at hnone
        cases hnone
      · rw [hresponse] at hfailed
        cases hfailed
      · rw [hresponse] at hanswer
        exact rpcAnswer_granted hanswer.symm
    · cases h
  · cases h

theorem grantedTokens_sublist (p : Platform) (env : Env) (key : JsString) (w : Namespace)
    (events : List Event) :
    List.Sublist (grantedTokens p env key w events) (grants (history p env key w events)) := by
  induction events generalizing w with
  | nil => exact List.Sublist.refl _
  | cons e events ih =>
    have hrest := ih (next p env w e).namespaces
    unfold grantedTokens history
    cases htoken : grantedToken (next p env w e) key with
    | some token =>
      obtain ⟨event, hserved, hfresh⟩ := grantedToken_fresh htoken
      rw [hserved]
      dsimp only
      rw [if_pos rfl, grants, List.filterMap_cons_some hfresh]
      exact hrest.cons_cons token
    | none =>
      rw [Option.toList_none, List.nil_append]
      split
      · rename_i served event hserved
        split
        · apply hrest.trans
          unfold grants
          cases hfresh : event.freshToken with
          | none =>
            simp only [List.filterMap_cons_none hfresh, List.Sublist.refl]
          | some token =>
            rw [List.filterMap_cons_some hfresh]
            exact List.sublist_cons_self _ _
        · exact hrest
      · exact hrest

/-- Over every run of the Worker, whatever public requests, internal calls, failures and
alarms it is made of: each key's lease is the result of a run of that key's authority
alone, a public request changes a lease only when it is admitted for its key, and the
tokens granted over HTTP for one key increase. -/
theorem worker_isolates_keys (p : Platform) (env : Env) (events : List Event) (key : JsString) :
    Exec Authority.Step fresh (history p env key initial events) (run p env initial events key) ∧
      (∀ pre request delivery post, events = pre ++ .request request delivery :: post →
        run p env initial (pre ++ [.request request delivery]) key ≠ run p env initial pre key →
        ∃ path members, Admits p env request path members key) ∧
      (grantedTokens p env key initial events).Pairwise fun a b => natOf a < natOf b := by
  have hexec := history_exec p env key initial events
  refine ⟨hexec, ?_, ?_⟩
  · intro pre request delivery post _ hchanged
    rw [run_append] at hchanged
    exact request_changes hchanged
  · exact (grants_increasing hexec).sublist (grantedTokens_sublist p env key initial events)

section Samples

def sampleText : String := "\x7b\"key\":\"a\",\"holder\":\"h\",\"ttl_ms\":1000\x7d"

/-- A platform that parses this one text and decodes ASCII. -/
def samplePlatform : Platform where
  parse text :=
    if text = js sampleText then
      some (.object [(js "key", .string (js "a")), (js "holder", .string (js "h")),
        (js "ttl_ms", .number (.ofInt 1000))])
    else none
  decode bytes := bytes.map fun b => UInt16.ofNat b.toNat
  number _ := .nan
  sha256 bytes := bytes

def sampleEnv : Env := ⟨none, some (js "true"), .undefined, none⟩

def sampleRequest : Request :=
  ⟨js "/v1/leases/acquire", js "POST", none, none,
    some ⟨[.chunk (Shared.Utf8.utf8 sampleText)], false⟩⟩

end Samples

/-- Two acquisitions of one key, the second after the first has expired. -/
theorem two_acquisitions_increase :
    grantedTokens samplePlatform sampleEnv (js "a") initial
        [.request sampleRequest (.served 0), .request sampleRequest (.served 5000)] =
      [numeral 1, numeral 2] ∧
    ([numeral 1, numeral 2] : List JsString).Pairwise fun a b => natOf a < natOf b := by
  have h := worker_isolates_keys samplePlatform sampleEnv
    [.request sampleRequest (.served 0), .request sampleRequest (.served 5000)] (js "a")
  have htokens : grantedTokens samplePlatform sampleEnv (js "a") initial
      [.request sampleRequest (.served 0), .request sampleRequest (.served 5000)] =
      [numeral 1, numeral 2] := by decide +kernel
  have hincrease := h.2.2
  rw [htokens] at hincrease
  exact ⟨htokens, hincrease⟩

end OresLocks.Worker
