import OresLocks.JsErrors
import OresLocks.Renewal

/-!
# The maintained transaction routine of the TypeScript package

Two coroutines run: the routine itself and its lease maintainer. A step resumes one
of them, or lets a timer fire or a promise settle; between two awaits a coroutine
runs without interruption. `log` records every call that is issued and every answer
that arrives, oldest first.
-/

namespace OresLocks.Ts

set_option autoImplicit false

universe u

/-- An own property: its name, unless it is a symbol, and its value, unless it is
an accessor. -/
structure Property where
  name : Option JsString
  value : Option JsValue
  deriving DecidableEq

/-- What a promise typed as a lease grant resolves with. -/
inductive RawGrant where
  | notObject
  | uninspectable
  | object (properties : List Property)
  deriving DecidableEq

structure LeaseGrant where
  key : JsString
  holder : JsString
  fencingToken : Nat
  leaseExpiresMs : Option Nat
  ttlMs : Nat
  deriving DecidableEq

def maxFencingToken : Nat := 18446744073709551615

def grantFields : List JsString :=
  [js "key", js "holder", js "fencingToken", js "leaseExpiresMs", js "ttlMs"]

def requiredGrantFields : List JsString := [js "key", js "holder", js "fencingToken", js "ttlMs"]

def maxLockKeyBytes : Nat := 512

def isControl (u : UInt16) : Bool := u ≤ 0x001f || u == 0x007f

/-- The checks of `lockKey`. -/
def lockKey (value : JsValue) : Option JsString :=
  match value with
  | .string key =>
    if key.isEmpty || JsString.trim key != key || key.any isControl ||
        decide (maxLockKeyBytes < (JsString.encode key).length) then none
    else some key
  | _ => none

/-- A safe integer in the given range, as a natural number. -/
def boundedInteger (value : JsValue) (low high : Nat) : Option Nat :=
  match value with
  | .number n =>
    if n.isSafeInteger && decide ((low : Int) ≤ n.toInt) && decide (n.toInt ≤ (high : Int)) then
      some n.toInt.toNat
    else none
  | _ => none

/-- The own data properties of a raw grant, or the message of the failure. -/
def ownFields : List Property → Except String (List (JsString × JsValue))
  | [] => .ok []
  | property :: rest =>
    match property.name with
    | none => .error "Fiducia lease grant contains an unknown own property"
    | some name =>
      if !grantFields.contains name then
        .error "Fiducia lease grant contains an unknown own property"
      else
        match property.value with
        | none => .error "Fiducia lease-grant fields must be own data properties"
        | some value =>
          match ownFields rest with
          | .error message => .error message
          | .ok fields => .ok ((name, value) :: fields)

def field (fields : List (JsString × JsValue)) (name : String) : Option JsValue :=
  (fields.find? fun field => field.1 == js name).map Prod.snd

/-- The checks of the fields of a grant, in their order. -/
def snapshotFields (expectedKey : JsString) (fields : List (JsString × JsValue)) :
    Except JsString LeaseGrant :=
  match requiredGrantFields.find? fun name => !fields.any fun field => field.1 == name with
  | some missing => .error (js "Fiducia lease grant is missing " ++ missing)
  | none =>
    match lockKey ((field fields "key").getD .undefined) with
    | none => .error (js "Fiducia lease grant contains an invalid key")
    | some key =>
      if key ≠ expectedKey then .error (js "Fiducia lease grant changed the lock key")
      else
        match (field fields "holder").getD .undefined with
        | .string holder =>
          if holder.isEmpty then
            .error (js "Fiducia lease grant holder must be a non-empty string")
          else
            match (field fields "fencingToken").getD .undefined with
            | .bigint token =>
              if token < 0 ∨ (maxFencingToken : Int) < token then
                .error (js "Fiducia lease grant token must be an unsigned 64-bit bigint")
              else
                match boundedInteger ((field fields "ttlMs").getD .undefined) 1
                    Renewal.maxRenewalTtlMs with
                | none => .error (js "Fiducia lease grant TTL must be within 1..=" ++
                    Shared.Numeral.numeral Renewal.maxRenewalTtlMs ++ js " ms")
                | some ttlMs =>
                  match field fields "leaseExpiresMs" with
                  | none => .ok ⟨key, holder, token.toNat, none, ttlMs⟩
                  | some deadline =>
                    match boundedInteger deadline 1 Renewal.maxRenewalClockMs with
                    | none => .error (js
                        "Fiducia lease grant deadline must be omitted or a positive safe integer")
                    | some leaseExpiresMs =>
                      .ok ⟨key, holder, token.toNat, some leaseExpiresMs, ttlMs⟩
            | _ => .error (js "Fiducia lease grant token must be an unsigned 64-bit bigint")
        | _ => .error (js "Fiducia lease grant holder must be a non-empty string")

def snapshotAuthorityGrant (expectedKey : JsString) (value : RawGrant) (step : LockStep)
    (kind : LockErrorKind) : Except LockError LeaseGrant :=
  match value with
  | .notObject => .error ⟨kind, expectedKey, some step, js "Fiducia returned a non-object lease grant"⟩
  | .uninspectable => .error ⟨kind, expectedKey, some step,
      js "Fiducia lease-grant properties could not be inspected"⟩
  | .object properties =>
    match ownFields properties with
    | .error message => .error ⟨kind, expectedKey, some step, js message⟩
    | .ok fields =>
      match snapshotFields expectedKey fields with
      | .error message => .error ⟨kind, expectedKey, some step, message⟩
      | .ok grant => .ok grant

/-- The validated options of one call. -/
structure Inputs where
  key : JsString
  wait : Bool
  ttlMs : Nat
  waitTimeoutMs : Nat
  holder : Option JsString

def validateMaintainedAcquiredGrant (inputs : Inputs) (grant : LeaseGrant) (step : LockStep) :
    Except LockError Unit :=
  let changed :=
    if inputs.holder.any (· != grant.holder) then some "holder"
    else if grant.ttlMs ≠ inputs.ttlMs then some "TTL"
    else none
  match changed with
  | some field => .error ⟨.lostLease, inputs.key, some step,
      js ("fiducia acquisition returned an invalid grant " ++ field ++
        "; maintained authority cannot be proven")⟩
  | none => .ok ()

def renewalError (key : JsString) (cause : Thrown) : Except Thrown LockError :=
  match cause with
  | .lockError error => .ok (tagLockError error .fiduciaRenew)
  | other =>
    match LockError.transport key other with
    | .ok error => .ok (tagLockError error .fiduciaRenew)
    | .error thrown => .error thrown

def renewChecked (original : LeaseGrant) (ttlMs : Nat) (answer : Except Thrown RawGrant) :
    Except Thrown LeaseGrant :=
  match answer with
  | .error cause => .error (Thrown.ofBuilt (renewalError original.key cause))
  | .ok raw =>
    match snapshotAuthorityGrant original.key raw .fiduciaRenew .lostLease with
    | .error error => .error (.lockError error)
    | .ok renewed =>
      let changed :=
        if renewed.holder ≠ original.holder then some "holder"
        else if renewed.fencingToken ≠ original.fencingToken then some "fencing token"
        else if renewed.ttlMs ≠ ttlMs then some "TTL"
        else none
      match changed with
      | some field => .error (.lockError ⟨.lostLease, original.key, some .fiduciaRenew,
          js ("fiducia renewal changed the grant " ++ field ++
            "; fenced authority cannot be proven")⟩)
      | none => .ok renewed

end OresLocks.Ts
