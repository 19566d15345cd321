import OresLocks.JsValue
import Mathlib.Data.Finmap

/-!
# The Redis keyspace and the commands the scripts use

A key with an expiry is absent once the clock has passed it; the clock is fixed
while a script runs. A command on a key of another type answers an error, which
`redis.pcall` hands to the script as a value.
-/

namespace OresLocks.Redis

set_option autoImplicit false

open Shared.Numeral

abbrev Hash := Finmap (fun _ : Bytes => Bytes)

/-- Types the scripts never create are one constructor. -/
inductive Value where
  | string (bytes : Bytes)
  | hash (fields : Hash)
  | other (payload : Bytes)

structure Entry where
  value : Value
  expiresAt : Option Int

abbrev Store := Bytes → Option Entry

def empty : Store := fun _ => none

inductive WrongType where
  | wrongType
  deriving DecidableEq, Repr

/-- The entry a command sees at `now`. -/
def lookup (now : Int) (store : Store) (key : Bytes) : Option Entry :=
  match store key with
  | some entry => if entry.expiresAt.any (· < now) then none else some entry
  | none => none

def exists? (now : Int) (store : Store) (key : Bytes) : Bool := (lookup now store key).isSome

def hget (now : Int) (store : Store) (key field : Bytes) : Except WrongType (Option Bytes) :=
  match lookup now store key with
  | none => .ok none
  | some ⟨.hash fields, _⟩ => .ok (fields.lookup field)
  | some _ => .error .wrongType

def hmget (now : Int) (store : Store) (key : Bytes) (fields : List Bytes) :
    Except WrongType (List (Option Bytes)) :=
  match lookup now store key with
  | none => .ok (fields.map fun _ => none)
  | some ⟨.hash stored, _⟩ => .ok (fields.map fun field => stored.lookup field)
  | some _ => .error .wrongType

def hlen (now : Int) (store : Store) (key : Bytes) : Except WrongType Nat :=
  match lookup now store key with
  | none => .ok 0
  | some ⟨.hash fields, _⟩ => .ok fields.keys.card
  | some _ => .error .wrongType

def get (now : Int) (store : Store) (key : Bytes) : Except WrongType (Option Bytes) :=
  match lookup now store key with
  | none => .ok none
  | some ⟨.string bytes, _⟩ => .ok (some bytes)
  | some _ => .error .wrongType

def put (store : Store) (key : Bytes) (entry : Entry) : Store := Function.update store key (some entry)

def insertAll (fields : Hash) (pairs : List (Bytes × Bytes)) : Hash :=
  pairs.foldl (fun fields pair => fields.insert pair.1 pair.2) fields

/-- `HSET` keeps the expiry of an existing hash. -/
def hset (now : Int) (store : Store) (key : Bytes) (pairs : List (Bytes × Bytes)) :
    Except WrongType Store :=
  match lookup now store key with
  | none => .ok (put store key ⟨.hash (insertAll ∅ pairs), none⟩)
  | some ⟨.hash fields, expiresAt⟩ => .ok (put store key ⟨.hash (insertAll fields pairs), expiresAt⟩)
  | some _ => .error .wrongType

/-- `SET` replaces a value of any type and drops its expiry. -/
def set (store : Store) (key bytes : Bytes) : Store := put store key ⟨.string bytes, none⟩

/-- `PTTL`: -2 for an absent key and -1 for one without an expiry. -/
def pttl (now : Int) (store : Store) (key : Bytes) : Int :=
  match lookup now store key with
  | none => -2
  | some ⟨_, none⟩ => -1
  | some ⟨_, some expiresAt⟩ => expiresAt - now

def del (store : Store) (key : Bytes) : Store := Function.update store key none

/-- The integer arguments Redis accepts: canonical signed 64-bit decimal text. -/
def integer (text : Bytes) : Option Int :=
  match text with
  | 0x2d :: digits =>
    if isNumeral digits && decide (0 < natOf digits) && decide (natOf digits ≤ 2 ^ 63) then
      some (-(natOf digits : Int))
    else none
  | _ =>
    if isNumeral text && decide (natOf text < 2 ^ 63) then some (natOf text : Int) else none

/-- `PEXPIRE` of an existing key; a time to live that is not positive deletes it. An
argument that is no integer is an error. -/
def pexpire (now : Int) (store : Store) (key ttlMs : Bytes) : Option Store :=
  match integer ttlMs with
  | none => none
  | some ttlMs =>
    match lookup now store key with
    | none => some store
    | some entry =>
      if ttlMs ≤ 0 then some (del store key)
      else some (put store key { entry with expiresAt := some (now + ttlMs) })

theorem integer_numeral {n : Nat} (h : n < 2 ^ 63) : integer (numeral n) = some (n : Int) := by
  unfold integer
  split
  · rename_i rest hminus
    have hdigits := isDigits_numeral (α := UInt8) n
    rw [hminus] at hdigits
    simp [isDigits] at hdigits
    exact absurd hdigits.1 (by decide)
  · rw [natOf_numeral, isNumeral_numeral, Bool.true_and, if_pos (by simpa using h)]

@[simp] theorem put_same (store : Store) (key : Bytes) (entry : Entry) :
    put store key entry key = some entry := by simp [put]

@[simp] theorem put_of_ne (store : Store) {key key' : Bytes} (entry : Entry) (h : key' ≠ key) :
    put store key entry key' = store key' := by simp [put, h]

@[simp] theorem put_put (store : Store) (key : Bytes) (entry entry' : Entry) :
    put (put store key entry) key entry' = put store key entry' := by
  simp [put]

@[simp] theorem lookup_put_same (now : Int) (store : Store) (key : Bytes) (value : Value) :
    lookup now (put store key ⟨value, none⟩) key = some ⟨value, none⟩ := by
  simp [lookup]

theorem lookup_put_of_ne (now : Int) (store : Store) {key key' : Bytes} (entry : Entry)
    (h : key' ≠ key) : lookup now (put store key entry) key' = lookup now store key' := by
  simp [lookup, h]

theorem lookup_of_get_none {now : Int} {store : Store} {key : Bytes} (h : get now store key = .ok none) :
    lookup now store key = none := by
  unfold get at h
  split at h
  · assumption
  · cases h
  · cases h

theorem lookup_of_get_some {now : Int} {store : Store} {key value : Bytes}
    (h : get now store key = .ok (some value)) :
    ∃ expiresAt, lookup now store key = some ⟨.string value, expiresAt⟩ := by
  unfold get at h
  split at h
  · cases h
  · rename_i bytes expiresAt hlookup
    cases h
    exact ⟨expiresAt, hlookup⟩
  · cases h

end OresLocks.Redis
