import OresLocks.Shared.Utf8

/-!
# Lock identities of the Rust crate
-/

namespace OresLocks

set_option autoImplicit false

open Shared.Utf8

/-- The characters `str::trim` strips: the Unicode White_Space property. -/
def isWhitespace (c : Char) : Bool :=
  let n := c.toNat
  (0x09 ≤ n && n ≤ 0x0d) || n == 0x20 || n == 0x85 || n == 0xa0 || n == 0x1680 ||
  (0x2000 ≤ n && n ≤ 0x200a) || n == 0x2028 || n == 0x2029 || n == 0x202f ||
  n == 0x205f || n == 0x3000

inductive InvalidLockKey where
  | empty
  | surroundingWhitespace
  | asciiControl
  | tooLong (bytes max : Nat)
  deriving DecidableEq, Repr

def maxLockKeyBytes : Nat := 512

/-- `str::trim`, on the characters of the text. -/
def trim (key : String) : List Char :=
  ((key.toList.dropWhile isWhitespace).reverse.dropWhile isWhitespace).reverse

def isAsciiControl (byte : UInt8) : Bool := byte ≤ 0x1f || byte == 0x7f

/-- The checks of `LockKey::new`. -/
def LockKey.check (key : String) : Except InvalidLockKey Unit :=
  if (utf8 key).isEmpty then .error .empty
  else if trim key ≠ key.toList then .error .surroundingWhitespace
  else if (utf8 key).any isAsciiControl then .error .asciiControl
  else if maxLockKeyBytes < (utf8 key).length then
    .error (.tooLong (utf8 key).length maxLockKeyBytes)
  else .ok ()

structure LockKey where
  text : String
  admitted : LockKey.check text = .ok ()
  deriving DecidableEq

def LockKey.new (key : String) : Except InvalidLockKey LockKey :=
  match h : LockKey.check key with
  | .ok () => .ok ⟨key, h⟩
  | .error invalid => .error invalid

theorem LockKey.text_of_new {key : String} {k : LockKey} (h : LockKey.new key = .ok k) :
    k.text = key := by
  unfold LockKey.new at h
  split at h
  · cases h
    rfl
  · cases h

theorem LockKey.text_inj {a b : LockKey} : a.text = b.text ↔ a = b := by
  cases a
  cases b
  simp

theorem LockKey.bytes (key : LockKey) :
    utf8 key.text ≠ [] ∧ (utf8 key.text).length ≤ maxLockKeyBytes := by
  have h := key.admitted
  unfold LockKey.check at h
  split at h
  · simp at h
  rename_i hne
  split at h
  · simp at h
  split at h
  · simp at h
  split at h
  · simp at h
  · rename_i hlen
    exact ⟨by simpa using hne, by omega⟩

theorem jobsRebuild_admitted : LockKey.check "jobs/rebuild" = .ok () := by decide

theorem orders_admitted : LockKey.check "orders" = .ok () := by decide

end OresLocks
