import OresLocks.JsValue
import OresLocks.Shared.Runs

/-!
# The Durable Object lease authority

`LockLeaseAuthority` for one key: one SQL row, one alarm, four operations. Every
operation takes the `Date.now` reading it makes and the storage it finds, and
returns its answer with the storage it leaves. Nothing is assumed about the
order of the readings. `transactionSync` rolls the row back when its callback
throws; a callback is therefore a function that returns the row it had written
so far even when it throws.
-/

namespace OresLocks.Authority

set_option autoImplicit false

open Shared.Numeral Shared.Runs

def maxHolderBytes : Nat := 512

def maxRequestIdBytes : Nat := 256

def maxTtlMs : Int := 86400000

/-- New grants stay in the exact-integer domain of every runtime. -/
def maxMintedFencingToken : Nat := 9007199254740991

def maxPersistedFencingToken : Nat := 18446744073709551615

/-- The class `CONTROL`. -/
def isControl (u : UInt16) : Bool := u ≤ 0x001f || u == 0x007f

def validIdentity (value : JsValue) (maxBytes : Nat) : Bool :=
  match value with
  | .string s =>
    decide (0 < s.length) && decide (0 < (JsString.trim s).length) && !s.any isControl &&
      decide ((JsString.encode s).length ≤ maxBytes)
  | _ => false

def validHolder (holder : JsValue) : Bool := validIdentity holder maxHolderBytes

def validRequestId (requestId : JsValue) : Bool :=
  requestId == .undefined || requestId == .null || validIdentity requestId maxRequestIdBytes

def validTtl : JsValue → Bool
  | .number ttl => ttl.isSafeInteger && decide (0 < ttl.toInt) && decide (ttl.toInt ≤ maxTtlMs)
  | _ => false

def canonicalToken : JsValue → Option JsString
  | .number token =>
    if !token.isSafeInteger || decide (token.toInt ≤ 0) then none
    else some (numeral token.toInt.toNat)
  | .string token =>
    if !JsString.matchesPositiveDecimal token then none
    else if maxPersistedFencingToken < natOf token then none
    else some (numeral (natOf token))
  | _ => none

/-- What a transaction callback can throw. -/
inductive Fault where
  | corruptFencingCounter
  | fencingTokenExhausted
  deriving DecidableEq, Repr

def nextToken (current : JsString) : Except Fault JsString :=
  if !JsString.matchesDecimal current then .error .corruptFencingCounter
  else if maxMintedFencingToken < natOf current + 1 then .error .fencingTokenExhausted
  else .ok (numeral (natOf current + 1))

/-- The single row of `lease_state`, as a `SELECT` returns it. -/
structure Row where
  holder : Option JsString
  token : Option JsString
  expiresMs : Option Int
  nextToken : JsString
  requestId : Option JsString
  deriving DecidableEq

structure Storage where
  row : Row
  alarm : Option Int
  deriving DecidableEq

/-- The row inserted by the constructor into a new database. -/
def fresh : Storage := ⟨⟨none, none, none, numeral 0, none⟩, none⟩

/-- The fields the four operations read from `body`; `body?.field` is
`undefined` for an absent field and for an absent body. -/
structure LeaseBody where
  holder : JsValue
  requestId : JsValue
  ttlMs : JsValue
  fencingToken : JsValue
  deriving DecidableEq

/-- The text of a string value; `null` and `undefined` are the SQL `NULL`. -/
def text : JsValue → Option JsString
  | .string s => some s
  | _ => none

/-- What a `TEXT` column returns for a bound value: it keeps UTF-8, in which an
unpaired surrogate is U+FFFD. -/
def stored (value : JsValue) : Option JsString := (text value).map JsString.toWellFormed

def int : JsValue → Int
  | .number n => n.toInt
  | _ => 0

/-- Truth of a nullable text: neither `null` nor the empty string. -/
def truthy (s : Option JsString) : Bool := s.any fun t => !t.isEmpty

def transactionSync {A : Type} (callback : Row → Except Fault A × Row) (row : Row) :
    Except Fault A × Row :=
  match callback row with
  | (.ok outcome, written) => (.ok outcome, written)
  | (.error fault, _) => (.error fault, row)

def clearLease (row : Row) : Row :=
  { row with holder := none, token := none, expiresMs := none, requestId := none }

inductive AcquireError where
  | invalidHolder
  | invalidRequestId
  | invalidTtl
  | fencingTokenExhausted
  deriving DecidableEq, Repr

inductive AcquireRefusal where
  | contention
  | holderActiveDifferentRequest
  deriving DecidableEq, Repr

/-- The answers of `acquire`. The last two have `acquired: true`; `replayed`
tells them apart. `threw` is the rethrown fault. -/
inductive AcquireOutcome where
  | error (error : AcquireError)
  | refused (reason : AcquireRefusal) (leaseExpiresMs : Int)
  | threw (fault : Fault)
  | replayed (fencingToken : Option JsString) (leaseExpiresMs : Int)
  | granted (fencingToken : JsString) (leaseExpiresMs : Int) (ttlMs : Int)
  deriving DecidableEq

/-- The alarm after an answer: set to the expiry when `acquired` is true. -/
def AcquireOutcome.setAlarm (outcome : AcquireOutcome) (alarm : Option Int) : Option Int :=
  match outcome with
  | .replayed _ expires => some expires
  | .granted _ expires _ => some expires
  | _ => alarm

/-- The branch of `acquire` for an unexpired lease. -/
def acquireActive (body : LeaseBody) (expires : Int) (row : Row) : AcquireOutcome × Row :=
  if row.holder ≠ text body.holder then (.refused .contention expires, row)
  else if truthy (text body.requestId) && truthy row.requestId &&
      text body.requestId != row.requestId then
    (.refused .holderActiveDifferentRequest expires, row)
  else if truthy (text body.requestId) && !truthy row.requestId then
    (.replayed row.token expires, { row with requestId := stored body.requestId })
  else (.replayed row.token expires, row)

/-- The minting branch of `acquire`; an expired lease is cleared before the token
is minted, so a throwing `nextToken` leaves the cleared row behind. -/
def acquireFresh (body : LeaseBody) (now : Int) (row : Row) : Except Fault AcquireOutcome × Row :=
  let cleared := if row.expiresMs.any (· ≤ now) then clearLease row else row
  match nextToken row.nextToken with
  | .error fault => (.error fault, cleared)
  | .ok fencingToken =>
    (.ok (.granted fencingToken (now + int body.ttlMs) (int body.ttlMs)),
      { cleared with
        holder := stored body.holder, token := some fencingToken,
        expiresMs := some (now + int body.ttlMs), nextToken := fencingToken,
        requestId := stored body.requestId })

def acquireTransaction (body : LeaseBody) (now : Int) (row : Row) :
    Except Fault AcquireOutcome × Row :=
  match row.holder, row.expiresMs with
  | some _, some expires =>
    if now < expires then
      let (outcome, written) := acquireActive body expires row
      (.ok outcome, written)
    else acquireFresh body now row
  | _, _ => acquireFresh body now row

def acquire (body : LeaseBody) (now : Int) (s : Storage) : AcquireOutcome × Storage :=
  if !validHolder body.holder then (.error .invalidHolder, s)
  else if !validRequestId body.requestId then (.error .invalidRequestId, s)
  else if !validTtl body.ttlMs then (.error .invalidTtl, s)
  else
    match transactionSync (acquireTransaction body now) s.row with
    | (.error .fencingTokenExhausted, row) => (.error .fencingTokenExhausted, { s with row })
    | (.error fault, row) => (.threw fault, { s with row })
    | (.ok outcome, row) => (outcome, { row, alarm := outcome.setAlarm s.alarm })

inductive RenewError where
  | invalidHolder
  | invalidTtl
  | invalidFencingToken
  deriving DecidableEq, Repr

inductive RefusalReason where
  | expired
  | notOwner
  deriving DecidableEq, Repr

inductive RenewOutcome where
  | error (error : RenewError)
  | refused (reason : RefusalReason)
  | renewed (leaseExpiresMs : Int) (ttlMs : Int)
  deriving DecidableEq

def renewTransaction (body : LeaseBody) (token : JsString) (now : Int) (row : Row) :
    RenewOutcome × Row :=
  if row.holder ≠ text body.holder ∨ row.token ≠ some token ∨ row.expiresMs = none ∨
      row.expiresMs.any (· ≤ now) then
    if row.expiresMs.any (· ≤ now) then (.refused .expired, clearLease row)
    else (.refused .notOwner, row)
  else
    (.renewed (now + int body.ttlMs) (int body.ttlMs),
      { row with expiresMs := some (now + int body.ttlMs) })

def renew (body : LeaseBody) (now : Int) (s : Storage) : RenewOutcome × Storage :=
  if !validHolder body.holder then (.error .invalidHolder, s)
  else if !validTtl body.ttlMs then (.error .invalidTtl, s)
  else
    match canonicalToken body.fencingToken with
    | none => (.error .invalidFencingToken, s)
    | some token =>
      match renewTransaction body token now s.row with
      | (.renewed expires ttl, row) => (.renewed expires ttl, { s with row, alarm := some expires })
      | (outcome, row) => (outcome, { s with row })

inductive ReleaseError where
  | invalidHolder
  | invalidFencingToken
  deriving DecidableEq, Repr

inductive ReleaseOutcome where
  | error (error : ReleaseError)
  | refused (reason : RefusalReason)
  | released
  deriving DecidableEq, Repr

/-- The reason `expired` is the one that has cleared the row (`cleared_expired`). -/
def releaseTransaction (body : LeaseBody) (token : JsString) (now : Int) (row : Row) :
    ReleaseOutcome × Row :=
  if row.expiresMs.any (· ≤ now) then (.refused .expired, clearLease row)
  else if row.holder ≠ text body.holder ∨ row.token ≠ some token then (.refused .notOwner, row)
  else (.released, clearLease row)

def release (body : LeaseBody) (now : Int) (s : Storage) : ReleaseOutcome × Storage :=
  if !validHolder body.holder then (.error .invalidHolder, s)
  else
    match canonicalToken body.fencingToken with
    | none => (.error .invalidFencingToken, s)
    | some token =>
      match releaseTransaction body token now s.row with
      | (.released, row) => (.released, { row, alarm := none })
      | (.refused .expired, row) => (.refused .expired, { row, alarm := none })
      | (outcome, row) => (outcome, { s with row })

def alarm (now : Int) (s : Storage) : Storage :=
  match s.row.expiresMs with
  | none => s
  | some expires =>
    if expires ≤ now then { s with row := clearLease s.row }
    else { s with alarm := some expires }

/-- One finished call with its clock reading and its answer. -/
inductive Event where
  | acquire (body : LeaseBody) (now : Int) (outcome : AcquireOutcome)
  | renew (body : LeaseBody) (now : Int) (outcome : RenewOutcome)
  | release (body : LeaseBody) (now : Int) (outcome : ReleaseOutcome)
  | alarm (now : Int)
  deriving DecidableEq

inductive Step (s : Storage) : Event → Storage → Prop where
  | acquire (body : LeaseBody) (now : Int) :
      Step s (.acquire body now (acquire body now s).1) (acquire body now s).2
  | renew (body : LeaseBody) (now : Int) :
      Step s (.renew body now (renew body now s).1) (renew body now s).2
  | release (body : LeaseBody) (now : Int) :
      Step s (.release body now (release body now s).1) (release body now s).2
  | alarm (now : Int) : Step s (.alarm now) (alarm now s)

end OresLocks.Authority
