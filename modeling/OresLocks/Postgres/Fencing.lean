import OresLocks.Fence
import OresLocks.Postgres.TokenAuthority

/-!
# Application-side fencing for PostgreSQL

`try_advance_fence` for one watermark row, called once by each of any number of
concurrent transactions. The three statements of the function are separate steps;
a statement that waits for another transaction is not enabled. The column type
`numeric(20, 0)` has no fractional digits, so `scale` is always zero and its test is
left out; the two timestamps are never read and are left out too.
-/

namespace OresLocks.Postgres.Fencing

set_option autoImplicit false

open Shared.Numeral Shared.RowLocks Shared.Runs Shared.Utf8 Fence

universe u

/-- The text arguments; `none` is the SQL `NULL`. -/
structure Arguments where
  tenantScope : Option String
  resourceKey : Option String
  fencingToken : Option String
  operationId : Option String
  payloadSha256 : Option String
  holder : Option String
  leaseId : Option String
  deriving DecidableEq

structure Validated where
  tenantScope : String
  resourceKey : String
  fencingToken : String
  incoming : Nat
  operationId : String
  payloadSha256 : String
  holder : Option String
  leaseId : Option String
  deriving DecidableEq

def maxToken : Nat := 18446744073709551615

/-- The pattern `^(0|[1-9][0-9]{0,19})$`. -/
def matchesToken (value : String) : Bool :=
  isNumeral (utf8 value) && decide ((utf8 value).length ≤ 20)

/-- The pattern `^[0-9a-f]{64}$`. -/
def matchesSha256 (value : String) : Bool :=
  (utf8 value).length == 64 && (utf8 value).all isLowerHex

def requireToken (value : Option String) : Except SqlError (String × Nat) :=
  match value with
  | none => .error ⟨"22023", "fencingToken must be canonical unsigned-64 decimal text"⟩
  | some value =>
    if !matchesToken value then
      .error ⟨"22023", "fencingToken must be canonical unsigned-64 decimal text"⟩
    else if maxToken < natOf (utf8 value) then
      .error ⟨"22023", "fencingToken exceeds uint64 maximum"⟩
    else .ok (value, natOf (utf8 value))

def requireSha256 (value : Option String) : Except SqlError String :=
  match value.filter matchesSha256 with
  | none =>
    .error ⟨"22023", "payloadSha256 must be exactly 64 lowercase hexadecimal characters"⟩
  | some value => .ok value

def optionalText (field : String) (value : Option String) : Except SqlError (Option String) :=
  if value.all (octetsWithin 256) then .ok value
  else .error ⟨"22023", field ++ " must be null or contain 1..256 UTF-8 bytes"⟩

def validate (args : Arguments) : Except SqlError Validated := do
  let tenantScope ← requireText "tenantScope" 256 args.tenantScope
  let resourceKey ← requireText "resourceKey" 512 args.resourceKey
  let (fencingToken, incoming) ← requireToken args.fencingToken
  let operationId ← requireText "operationId" 128 args.operationId
  let payloadSha256 ← requireSha256 args.payloadSha256
  let holder ← optionalText "holder" args.holder
  let leaseId ← optionalText "leaseId" args.leaseId
  return ⟨tenantScope, resourceKey, fencingToken, incoming, operationId, payloadSha256, holder,
    leaseId⟩

/-- A row of `fencing_watermarks`, as untrusted as the function takes it. -/
structure Watermark where
  tenantScope : Option String
  resourceKey : Option String
  fencingToken : Option Int
  operationId : Option String
  payloadSha256 : Option String
  holder : Option String
  leaseId : Option String
  deriving DecidableEq

def inserted (args : Validated) : Watermark :=
  ⟨some args.tenantScope, some args.resourceKey, some args.incoming, some args.operationId,
    some args.payloadSha256, args.holder, args.leaseId⟩

def updated (args : Validated) (current : Watermark) : Watermark :=
  { current with
    fencingToken := some args.incoming, operationId := some args.operationId,
    payloadSha256 := some args.payloadSha256, holder := args.holder, leaseId := args.leaseId }

/-- The stored token of a row that passes the check of stored rows. -/
def wellFormed (current : Watermark) : Option Int :=
  match current.fencingToken with
  | none => none
  | some token =>
    if current.tenantScope.any (octetsWithin 256) && current.resourceKey.any (octetsWithin 512) &&
        decide (0 ≤ token) && decide (token ≤ maxToken) &&
        current.operationId.any (octetsWithin 128) && current.payloadSha256.any matchesSha256 &&
        current.holder.all (octetsWithin 256) && current.leaseId.all (octetsWithin 256) then
      some token
    else none

def malformed : SqlError := ⟨"22000", "stored fencing watermark is malformed; refusing mutation"⟩

/-- The row the function returns. -/
structure Decision where
  decision : String
  shouldApply : Bool
  incomingToken : String
  currentToken : String
  previousToken : Option String
  deriving DecidableEq

def advanced (args : Validated) (previousToken : Option String) : Decision :=
  ⟨"advanced", true, args.fencingToken, args.fencingToken, previousToken⟩

def kept (decision : String) (args : Validated) (token : Int) : Decision :=
  ⟨decision, false, args.fencingToken, toString token, some (toString token)⟩

/-- What follows the select: a raised error, the insert, the update, or the end. -/
inductive Continuation where
  | raise (raised : SqlError)
  | insert
  | update (current : Watermark) (token : Int)
  | finish (decision : Decision)
  deriving DecidableEq

def afterSelect (args : Validated) (found : Option Watermark) : Continuation :=
  match found with
  | none => .insert
  | some current =>
    match wellFormed current with
    | none => .raise malformed
    | some token =>
      if token < args.incoming then .update current token
      else if args.incoming < token then .finish (kept "stale" args token)
      else if current.operationId = some args.operationId ∧
          current.payloadSha256 = some args.payloadSha256 then
        .finish (kept "replay" args token)
      else .finish (kept "token_reuse" args token)

/-- Where a transaction stands in its one call. -/
inductive Txn where
  | ready
  | selecting (request : FencedWriteRequest) (args : Validated)
  | inserting (request : FencedWriteRequest) (args : Validated)
  | updating (request : FencedWriteRequest) (args : Validated) (current : Watermark) (token : Int)
  | returned (request : FencedWriteRequest) (decision : Decision)
  | failed
  | ended

def Txn.afterSelect (request : FencedWriteRequest) (args : Validated) : Continuation → Txn
  | .raise _ => .failed
  | .insert => .inserting request args
  | .update current token => .updating request args current token
  | .finish decision => .returned request decision

def argumentsOf (request : FencedWriteRequest) : Arguments :=
  ⟨some request.tenantScope, some request.resourceKey.text, some request.fencingToken.text,
    some request.operationId, some request.payloadSha256, request.holder, request.leaseId⟩

structure State (τ : Type u) where
  row : Row τ Watermark
  txns : τ → Txn

inductive Label (τ : Type u) where
  | call (t : τ) (request : FencedWriteRequest)
  | select (t : τ)
  | insert (t : τ)
  | update (t : τ)
  | commit (t : τ) (request : FencedWriteRequest) (decision : Decision)
  | rollback (t : τ)

section Steps

variable {τ : Type u} [DecidableEq τ]

def State.put (s : State τ) (t : τ) (txn : Txn) (row : Row τ Watermark) : State τ :=
  ⟨row, fun t' => if t' = t then txn else s.txns t'⟩

/-- No watermark, and every transaction before its call. -/
def start : State τ := ⟨.stored none, fun _ => .ready⟩

inductive Step (s : State τ) : Label τ → State τ → Prop where
  | call (t : τ) (request : FencedWriteRequest) (args : Validated) : s.txns t = .ready →
      validate (argumentsOf request) = .ok args →
      Step s (.call t request) (s.put t (.selecting request args) s.row)
  | callRaises (t : τ) (request : FencedWriteRequest) (raised : SqlError) : s.txns t = .ready →
      validate (argumentsOf request) = .error raised →
      Step s (.call t request) (s.put t .failed s.row)
  | select (t : τ) (request : FencedWriteRequest) (args : Validated) (found : Option Watermark)
      (row : Row τ Watermark) : s.txns t = .selecting request args →
      s.row.selectForUpdate t = some (found, row) →
      Step s (.select t) (s.put t (.afterSelect request args (afterSelect args found)) row)
  | inserts (t : τ) (request : FencedWriteRequest) (args : Validated) (row : Row τ Watermark) :
      s.txns t = .inserting request args →
      s.row.insertOrNothing t (inserted args) = some (true, row) →
      Step s (.insert t) (s.put t (.returned request (advanced args none)) row)
  | insertConflicts (t : τ) (request : FencedWriteRequest) (args : Validated)
      (row : Row τ Watermark) : s.txns t = .inserting request args →
      s.row.insertOrNothing t (inserted args) = some (false, row) →
      Step s (.insert t) (s.put t (.selecting request args) row)
  | update (t : τ) (request : FencedWriteRequest) (args : Validated) (current : Watermark)
      (token : Int) (row : Row τ Watermark) : s.txns t = .updating request args current token →
      s.row.update t (updated args current) = some row →
      Step s (.update t)
        (s.put t (.returned request (advanced args (some (toString token)))) row)
  | commit (t : τ) (request : FencedWriteRequest) (decision : Decision) :
      s.txns t = .returned request decision →
      Step s (.commit t request decision) (s.put t .ended (s.row.commit t))
  | rollback (t : τ) : s.txns t ≠ .ended →
      Step s (.rollback t) (s.put t .ended (s.row.rollback t))

/-- The request of a committed transaction and the decision it was given. -/
def Label.committed : Label τ → Option (FencedWriteRequest × Decision)
  | .commit _ request decision => some (request, decision)
  | _ => none

def commits (ls : List (Label τ)) : List (FencedWriteRequest × Decision) :=
  ls.filterMap Label.committed

end Steps

end OresLocks.Postgres.Fencing
