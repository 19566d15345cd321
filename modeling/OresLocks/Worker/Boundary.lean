import OresLocks.AuthorityAlarms
import OresLocks.JsErrors

/-!
# The HTTP boundary of the Cloudflare Worker

What a request has to pass before the authority of its key sees it: the bearer token,
a body of bounded size, closed fields with valid values, and the scope policy of the
token. `JSON.parse`, the text decoder, `Number` and SHA-256 are given by the platform.
-/

namespace OresLocks.Worker

set_option autoImplicit false

open OresLocks.Authority Ts

/-- What `JSON.parse` returns. The members of an object are its own properties. -/
inductive Json where
  | null
  | boolean (b : Bool)
  | number (n : JsNumber)
  | string (s : JsString)
  | array (items : List Json)
  | object (members : List (JsString × Json))

structure Platform where
  parse : JsString → Option Json
  decode : Bytes → JsString
  number : JsString → JsNumber
  sha256 : Bytes → Bytes

def maxLockKeyBytes : Nat := 512

def maxBodyBytes : Nat := 8 * 1024

inductive Path where
  | acquire
  | renew
  | release
  deriving DecidableEq

/-- `knownLeasePath`, with the path it knows. -/
def leasePath (pathname : JsString) : Option Path :=
  if pathname = js "/v1/leases/acquire" then some .acquire
  else if pathname = js "/v1/leases/renew" then some .renew
  else if pathname = js "/v1/leases/release" then some .release
  else none

def publicFields : Path → List JsString
  | .acquire => [js "key", js "holder", js "ttl_ms", js "request_id"]
  | .renew => [js "key", js "holder", js "ttl_ms", js "fencing_token"]
  | .release => [js "key", js "holder", js "fencing_token"]

def internalFields : Path → List JsString
  | .acquire => [js "holder", js "ttl_ms", js "request_id"]
  | .renew => [js "holder", js "ttl_ms", js "fencing_token"]
  | .release => [js "holder", js "fencing_token"]

abbrev Members := List (JsString × Json)

def hasOnlyFields (members : Members) (allowed : List JsString) : Bool :=
  members.all fun member => allowed.contains member.1

/-- A parsed value as the validations read it. -/
def Json.value : Json → JsValue
  | .null => .null
  | .boolean b => .boolean b
  | .number n => .number n
  | .string s => .string s
  | .array _ => .object
  | .object _ => .object

def field (members : Members) (name : JsString) : JsValue :=
  match members.find? fun member => member.1 == name with
  | some member => member.2.value
  | none => .undefined

/-- The error code of an operation that is not valid. -/
def validateOperation (path : Path) (body : Json) (allowed : List JsString) (requireKey : Bool) :
    Option String :=
  match body with
  | .object members =>
    if !hasOnlyFields members allowed then some "unknown_field"
    else if requireKey && !validIdentity (field members (js "key")) maxLockKeyBytes then
      some "invalid_key"
    else if !validHolder (field members (js "holder")) then some "invalid_holder"
    else if path = .acquire ∧ validRequestId (field members (js "request_id")) = false then
      some "invalid_request_id"
    else if path ≠ .release ∧ validTtl (field members (js "ttl_ms")) = false then some "invalid_ttl"
    else if path ≠ .acquire ∧ canonicalToken (field members (js "fencing_token")) = none then
      some "invalid_fencing_token"
    else none
  | _ => some "invalid_body"

def validatePublicOperation (path : Path) (body : Json) : Option String :=
  validateOperation path body (publicFields path) true

def validateInternalOperation (path : Path) (body : Json) : Option String :=
  validateOperation path body (internalFields path) false

/-- `null` for a token that is not canonical. -/
def tokenValue (token : JsValue) : JsValue :=
  match canonicalToken token with
  | some text => .string text
  | none => .null

/-- What the authority of the key is called with. -/
def internalBody (path : Path) (members : Members) : LeaseBody :=
  match path with
  | .acquire => ⟨field members (js "holder"), field members (js "request_id"),
      field members (js "ttl_ms"), .undefined⟩
  | .renew => ⟨field members (js "holder"), .undefined, field members (js "ttl_ms"),
      tokenValue (field members (js "fencing_token"))⟩
  | .release => ⟨field members (js "holder"), .undefined, .undefined,
      tokenValue (field members (js "fencing_token"))⟩

/-! ## The scope policy -/

structure ScopePolicy where
  keyPrefixes : List JsString
  operations : List JsString
  maxTtlMs : Int
  deriving DecidableEq

/-- An unset policy, a malformed one, or the policy of the token. -/
inductive Scope where
  | unconfigured
  | invalid
  | configured (policy : ScopePolicy)
  deriving DecidableEq

def scopePolicyFields : List JsString := [js "key_prefixes", js "operations", js "max_ttl_ms"]

def maxScopePrefixes : Nat := 32

def Path.operation : Path → JsString
  | .acquire => js "acquire"
  | .renew => js "renew"
  | .release => js "release"

def scopeOperations : List JsString := [js "acquire", js "renew", js "release"]

def slash : UInt16 := 0x2f

def backslash : UInt16 := 0x5c

def validScopePrefix (text : JsString) : Bool :=
  validIdentity (.string text) maxLockKeyBytes && text.getLast? == some slash &&
    !text.contains backslash &&
    (text.dropLast.splitOn slash).all fun component =>
      component != [] && component != js "." && component != js ".."

def Json.string? : Json → Option JsString
  | .string s => some s
  | _ => none

/-- The texts of an array of strings. -/
def texts (members : Members) (name : JsString) : Option (List JsString) :=
  match members.find? fun member => member.1 == name with
  | some (_, .array items) => items.mapM Json.string?
  | _ => none

def parsePublicScopePolicy (p : Platform) (raw : JsValue) : Scope :=
  match raw with
  | .undefined => .unconfigured
  | .null => .unconfigured
  | .string [] => .unconfigured
  | .string text =>
    match p.parse text with
    | some (.object members) =>
      match texts members (js "key_prefixes"), texts members (js "operations") with
      | some prefixes, some operations =>
        if hasOnlyFields members scopePolicyFields ∧ prefixes ≠ [] ∧
            prefixes.length ≤ maxScopePrefixes ∧ prefixes.all validScopePrefix ∧ prefixes.Nodup ∧
            operations ≠ [] ∧ (operations.all fun operation => scopeOperations.contains operation) ∧
            operations.Nodup ∧ validTtl (field members (js "max_ttl_ms")) then
          .configured ⟨prefixes, operations, int (field members (js "max_ttl_ms"))⟩
        else .invalid
      | _, _ => .invalid
    | _ => .invalid
  | _ => .invalid

/-- The denial code of an operation outside the policy. -/
def authorizePublicOperation (policy : ScopePolicy) (path : Path) (members : Members) :
    Option String :=
  if ¬ policy.operations.contains path.operation then some "operation_not_allowed"
  else if ¬ policy.keyPrefixes.any fun start =>
      start.isPrefixOf ((text (field members (js "key"))).getD []) then some "key_not_allowed"
  else if path ≠ .release ∧ policy.maxTtlMs < int (field members (js "ttl_ms")) then
    some "ttl_exceeds_scope"
  else none

/-! ## The bearer token -/

def space : UInt16 := 0x20

/-- Lower case of the ASCII letters; no other letter folds to one of them here. -/
def lower (u : UInt16) : UInt16 := if 0x41 ≤ u ∧ u ≤ 0x5a then u + 0x20 else u

/-- What `.` does not match. -/
def isLineTerminator (u : UInt16) : Bool := u == 0x0a || u == 0x0d || u == 0x2028 || u == 0x2029

/-- The group of `/^Bearer[ ]+(.+)$/i`; the spaces give one back when nothing follows. -/
def parseBearer (authorization : Option JsString) : JsString :=
  let auth := authorization.getD []
  if (auth.take 6).map lower = js "bearer" ∧ (auth.drop 6).head? = some space then
    let token := (auth.drop 6).dropWhile (· == space)
    if token = [] then
      if 2 ≤ (auth.drop 6).length then [space] else []
    else if token.any isLineTerminator then []
    else token
  else []

/-- The bits in which two digests differ. -/
def difference (actual expected : Bytes) : UInt8 :=
  (List.zipWith (· ^^^ ·) actual expected).foldl (· ||| ·) 0

def bearerMatches (p : Platform) (authorization : Option JsString) (expected : JsString) : Bool :=
  expected != [] && difference (p.sha256 (JsString.encode (parseBearer authorization)))
    (p.sha256 (JsString.encode expected)) == 0

/-! ## The body -/

/-- One `read` of the body: a chunk, or a rejection. -/
inductive Read where
  | chunk (bytes : Bytes)
  | failed

/-- The reads of a body up to its end. `cancelFails` says what `cancel` would do. -/
structure Stream where
  reads : List Read
  cancelFails : Bool

structure Request where
  pathname : JsString
  method : JsString
  contentLength : Option JsString
  authorization : Option JsString
  body : Option Stream

structure BodyError where
  code : String
  status : Nat
  deriving DecidableEq

def bodyTooLarge : BodyError := ⟨"body_too_large", 413⟩

def invalidJson : BodyError := ⟨"invalid_json", 400⟩

/-- The reading loop, with the chunks so far and their size. -/
def readChunks (cancelFails : Bool) : List Read → List Bytes → Nat → Except BodyError Bytes
  | [], chunks, _ => .ok chunks.flatten
  | .failed :: _, _, _ => .error invalidJson
  | .chunk value :: reads, chunks, total =>
    if maxBodyBytes < total + value.length then
      .error (if cancelFails then invalidJson else bodyTooLarge)
    else readChunks cancelFails reads (chunks ++ [value]) (total + value.length)

/-- The error for a declared length, if any. -/
def declaredLengthError (p : Platform) (declared : Option JsString) : Option BodyError :=
  match declared with
  | none => none
  | some text =>
    if (p.number text).isSafeInteger = false ∨ (p.number text).toInt < 0 then
      some ⟨"invalid_content_length", 400⟩
    else if maxBodyBytes < (p.number text).toInt then some bodyTooLarge
    else none

def readBoundedJson (p : Platform) (request : Request) : Except BodyError Json :=
  match declaredLengthError p request.contentLength with
  | some error => .error error
  | none =>
    match request.body with
    | none => .error invalidJson
    | some stream =>
      match readChunks stream.cancelFails stream.reads [] 0 with
      | .error error => .error error
      | .ok bytes =>
        match p.parse (p.decode bytes) with
        | none => .error invalidJson
        | some body => .ok body

end OresLocks.Worker
