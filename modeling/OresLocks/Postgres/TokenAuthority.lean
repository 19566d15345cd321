import OresLocks.Shared.RowLocks
import OresLocks.Shared.Runs
import OresLocks.Shared.Utf8

/-!
# The fencing-token allocator for PostgreSQL

`next_fencing_token` for one counter row, called by any number of concurrent
transactions any number of times each. A call waits while another transaction owns
the row. A call that raises leaves its transaction to be rolled back.
-/

namespace OresLocks.Postgres

set_option autoImplicit false

open Shared.RowLocks Shared.Runs Shared.Utf8

universe u

structure SqlError where
  errcode : String
  message : String
  deriving DecidableEq

/-- `octet_length(value) BETWEEN 1 AND max`, for a value that is not null. -/
def octetsWithin (max : Nat) (value : String) : Bool :=
  decide (1 ≤ (utf8 value).length) && decide ((utf8 value).length ≤ max)

/-- The check of a required text argument. -/
def requireText (field : String) (max : Nat) (value : Option String) : Except SqlError String :=
  match value with
  | none => .error ⟨"22023", field ++ " must contain 1.." ++ toString max ++ " UTF-8 bytes"⟩
  | some value =>
    if octetsWithin max value then .ok value
    else .error ⟨"22023", field ++ " must contain 1.." ++ toString max ++ " UTF-8 bytes"⟩

namespace TokenAuthority

def maxToken : Nat := 18446744073709551615

def exhausted : SqlError := ⟨"22003", "uint64 fencing token exhausted"⟩

section Calls

variable {τ : Type u} [DecidableEq τ]

/-- `SET last_token = counters.last_token + 1 WHERE counters.last_token < max`. -/
def increment (lastToken : Nat) : Option Nat :=
  if lastToken < maxToken then some (lastToken + 1) else none

/-- `none` while the call waits; else what it returns or raises, and the row. -/
def nextFencingToken (tenantScope resourceKey : Option String) (t : τ) (row : Row τ Nat) :
    Option (Except SqlError String × Row τ Nat) :=
  match requireText "tenantScope" 256 tenantScope with
  | .error raised => some (.error raised, row)
  | .ok _ =>
    match requireText "resourceKey" 512 resourceKey with
    | .error raised => some (.error raised, row)
    | .ok _ =>
      match row.upsert t 1 increment with
      | none => none
      | some (none, row) => some (.error exhausted, row)
      | some (some next, row) => some (.ok (toString next), row)

end Calls

/-- A transaction with what its calls have returned, or one that has to be rolled
back, or one that has ended. -/
inductive Txn where
  | active (returned : List String)
  | failed
  | ended
  deriving DecidableEq

structure State (τ : Type u) where
  row : Row τ Nat
  txns : τ → Txn

inductive Label (τ : Type u) where
  | call (t : τ) (result : Except SqlError String)
  | commit (t : τ) (returned : List String)
  | rollback (t : τ)

section Steps

variable {τ : Type u} [DecidableEq τ]

def State.put (s : State τ) (t : τ) (txn : Txn) (row : Row τ Nat) : State τ :=
  ⟨row, fun t' => if t' = t then txn else s.txns t'⟩

/-- The counter row as it is found, and every transaction before its first call. -/
def start (lastToken : Option Nat) : State τ := ⟨.stored lastToken, fun _ => .active []⟩

inductive Step (tenantScope resourceKey : Option String) (s : State τ) :
    Label τ → State τ → Prop where
  | returns (t : τ) (returned : List String) (token : String) (row : Row τ Nat) :
      s.txns t = .active returned →
      nextFencingToken tenantScope resourceKey t s.row = some (.ok token, row) →
      Step tenantScope resourceKey s (.call t (.ok token))
        (s.put t (.active (returned ++ [token])) row)
  | raises (t : τ) (returned : List String) (raised : SqlError) (row : Row τ Nat) :
      s.txns t = .active returned →
      nextFencingToken tenantScope resourceKey t s.row = some (.error raised, row) →
      Step tenantScope resourceKey s (.call t (.error raised)) (s.put t .failed row)
  | commit (t : τ) (returned : List String) : s.txns t = .active returned →
      Step tenantScope resourceKey s (.commit t returned) (s.put t .ended (s.row.commit t))
  | rollback (t : τ) : s.txns t ≠ .ended →
      Step tenantScope resourceKey s (.rollback t) (s.put t .ended (s.row.rollback t))

/-- What one transaction's calls returned, if it committed. -/
def Label.committed : Label τ → List String
  | .commit _ returned => returned
  | _ => []

/-- The tokens of the committed transactions, in commit order and then in call order. -/
def committedTokens (ls : List (Label τ)) : List String := ls.flatMap Label.committed

end Steps

end TokenAuthority

end OresLocks.Postgres
