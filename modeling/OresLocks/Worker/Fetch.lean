import OresLocks.Worker.Boundary

/-!
# The Worker and its namespace of authorities

`fetch` decides on a request without the storage of any lease and then calls the
authority of the request's key. The namespace gives every key an authority of its own.
A call of an authority can fail before it is served and after it was served; callers
inside the deployment reach an authority directly or through its own `fetch`.
-/

namespace OresLocks.Worker

set_option autoImplicit false

open OresLocks.Authority Ts

structure Env where
  environment : Option JsString
  allowUnauthenticated : Option JsString
  policyJson : JsValue
  apiToken : Option JsString

def productionMode (env : Env) : Bool :=
  let mode := (env.environment.getD []).map lower
  mode == js "production" || mode == js "prod"

inductive Payload where
  | health
  | error (code : String)
  | acquired (outcome : AcquireOutcome)
  | renewed (outcome : RenewOutcome)
  | released (outcome : ReleaseOutcome)
  deriving DecidableEq

structure Response where
  status : Nat
  payload : Payload
  deriving DecidableEq

def failure (status : Nat) (code : String) : Response := ⟨status, .error code⟩

/-- The request for an authority, at the reading of its clock. -/
def rpcRequest (path : Path) (body : LeaseBody) (now : Int) : Authority.Request :=
  match path with
  | .acquire => .acquire body now
  | .renew => .renew body now
  | .release => .release body now

/-- The answer of an authority with its `rpcStatus`, or none when the call rejects. -/
def rpcAnswer : Authority.Event → Option Response
  | .acquire _ _ (.threw _) => none
  | .acquire _ _ (.error .fencingTokenExhausted) =>
    some ⟨503, .acquired (.error .fencingTokenExhausted)⟩
  | .acquire _ _ (.error error) => some ⟨400, .acquired (.error error)⟩
  | .acquire _ _ outcome => some ⟨200, .acquired outcome⟩
  | .renew _ _ (.error error) => some ⟨400, .renewed (.error error)⟩
  | .renew _ _ outcome => some ⟨200, .renewed outcome⟩
  | .release _ _ (.error error) => some ⟨400, .released (.error error)⟩
  | .release _ _ outcome => some ⟨200, .released outcome⟩
  | .alarm _ => none

/-- The answer for a call of an authority that rejected. -/
def rpcFailed : Response := failure 503 "authority_rpc_failed"

inductive Decision where
  | respond (response : Response)
  | call (path : Path) (key : JsString) (body : LeaseBody)
  deriving DecidableEq

/-- From the body on. -/
def handle (p : Platform) (policy : Option ScopePolicy) (path : Path) (request : Request) :
    Decision :=
  match readBoundedJson p request with
  | .error error => .respond (failure error.status error.code)
  | .ok body =>
    match validatePublicOperation path body with
    | some code => .respond (failure 400 code)
    | none =>
      match body with
      | .object members =>
        if (policy.bind fun policy => authorizePublicOperation policy path members).isSome then
          .respond (failure 403 "forbidden")
        else .call path ((text (field members (js "key"))).getD []) (internalBody path members)
      | _ => .respond (failure 400 "invalid_body")

/-- The policy a request is held to, or none. -/
def Scope.policy : Scope → Option ScopePolicy
  | .configured policy => some policy
  | _ => none

/-- What the configuration refuses outright. -/
def unsafeConfiguration (env : Env) (scope : Scope) : Bool :=
  scope == .invalid ||
    productionMode env && (scope == .unconfigured || env.allowUnauthenticated == some (js "true"))

/-- The public `fetch`, up to the call of the authority. -/
def fetch (p : Platform) (env : Env) (request : Request) : Decision :=
  if request.pathname = js "/healthz" then .respond ⟨200, .health⟩
  else
    match leasePath request.pathname with
    | none => .respond (failure 404 "not_found")
    | some path =>
      if request.method ≠ js "POST" then .respond (failure 405 "method_not_allowed")
      else if unsafeConfiguration env (parsePublicScopePolicy p env.policyJson) then
        .respond (failure 503 "unsafe_configuration")
      else if env.apiToken.getD [] = [] ∧ env.allowUnauthenticated ≠ some (js "true") then
        .respond (failure 503 "authority_not_configured")
      else if env.allowUnauthenticated ≠ some (js "true") ∧
          bearerMatches p request.authorization (env.apiToken.getD []) = false then
        .respond (failure 401 "unauthorized")
      else handle p (parsePublicScopePolicy p env.policyJson).policy path request

/-- The `fetch` of an authority itself. -/
def fetchObject (p : Platform) (key : JsString) (request : Request) : Decision :=
  if request.method ≠ js "POST" then .respond (failure 405 "method_not_allowed")
  else
    match leasePath request.pathname with
    | none => .respond (failure 404 "not_found")
    | some path =>
      match readBoundedJson p request with
      | .error error => .respond (failure error.status error.code)
      | .ok body =>
        match validateInternalOperation path body with
        | some code => .respond (failure 400 code)
        | none =>
          match body with
          | .object members => .call path key (internalBody path members)
          | _ => .respond (failure 400 "invalid_body")

/-! ## The namespace -/

/-- One authority for each key. -/
abbrev Namespace := JsString → Storage

/-- What becomes of the call of an authority. -/
inductive Delivery where
  | served (now : Int)
  | lost
  | unanswered (now : Int)

inductive Event where
  | request (request : Request) (delivery : Delivery)
  | object (key : JsString) (request : Request) (now : Int)
  | rpc (key : JsString) (request : Authority.Request)
  | alarm (key : JsString) (now : Int)

/-- What one event leads to: the namespace, the HTTP answer, and what an authority did. -/
structure Outcome where
  namespaces : Namespace
  response : Option Response
  served : Option (JsString × Authority.Event)

def Namespace.put (w : Namespace) (key : JsString) (storage : Storage) : Namespace :=
  fun k => if k = key then storage else w k

def untouched (w : Namespace) (response : Response) : Outcome := ⟨w, some response, none⟩

/-- The authority of a key serves a request. -/
def serveKey (w : Namespace) (key : JsString) (request : Authority.Request)
    (response : Authority.Event → Option Response) : Outcome :=
  let answered := serve request (w key)
  ⟨w.put key answered.2, response answered.1, some (key, answered.1)⟩

/-- A public request from its decision on. -/
def deliver (w : Namespace) : Decision → Delivery → Outcome
  | .respond response, _ => untouched w response
  | .call _ _ _, .lost => untouched w rpcFailed
  | .call path key body, .served now =>
    serveKey w key (rpcRequest path body now) fun e => some ((rpcAnswer e).getD rpcFailed)
  | .call path key body, .unanswered now =>
    serveKey w key (rpcRequest path body now) fun _ => some rpcFailed

/-- A request to an authority's own `fetch` from its decision on. -/
def deliverObject (w : Namespace) (now : Int) : Decision → Outcome
  | .respond response => untouched w response
  | .call path key body => serveKey w key (rpcRequest path body now) rpcAnswer

def next (p : Platform) (env : Env) (w : Namespace) : Event → Outcome
  | .request request delivery => deliver w (fetch p env request) delivery
  | .object key request now => deliverObject w now (fetchObject p key request)
  | .rpc key request => serveKey w key request fun _ => none
  | .alarm key now => ⟨w.put key (alarm now (w key)), none, some (key, .alarm now)⟩

def run (p : Platform) (env : Env) (w : Namespace) : List Event → Namespace
  | [] => w
  | e :: es => run p env (next p env w e).namespaces es

/-- What the authority of a key does in a run, oldest first. -/
def history (p : Platform) (env : Env) (key : JsString) (w : Namespace) :
    List Event → List Authority.Event
  | [] => []
  | e :: es =>
    match (next p env w e).served with
    | some (served, event) =>
      if served = key then event :: history p env key (next p env w e).namespaces es
      else history p env key (next p env w e).namespaces es
    | none => history p env key (next p env w e).namespaces es

/-- Before any request no authority has been called. -/
def initial : Namespace := fun _ => fresh

end OresLocks.Worker
