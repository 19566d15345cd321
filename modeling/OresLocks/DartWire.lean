import OresLocks.JsValue
import OresLocks.Shared.Json
import OresLocks.Shared.Loops

/-!
# The duplicate-member scanner of the Dart package

Every loop makes at most `fuel` turns, and reading a code unit outside the source is a
failure of its own.
-/

namespace OresLocks.DartWire

set_option autoImplicit false

open Shared.Loops
open Shared.Json (decodeLiteral)
open JsString (isHighSurrogate isLowSurrogate)

structure FenceValidationException where
  code : String
  message : JsString
  field : Option JsString

/-- What ends the scanner other than a return. -/
inductive Stop where
  | thrown (exception : FenceValidationException)
  | outOfRange
  | outOfTurns

/-! ## The standard library -/

def codeUnitAt (source : JsString) (index : Nat) : Except Stop UInt16 :=
  match source[index]? with
  | some unit => .ok unit
  | none => .error .outOfRange

def substring (source : JsString) (start stop : Nat) : JsString :=
  (source.drop start).take (stop - start)

/-- The code units of an ASCII literal. -/
def units (text : String) : JsString := text.toList.map fun c => UInt16.ofNat c.toNat

def hexDigit (n : UInt16) : UInt16 := if n < 10 then 0x30 + n else 0x57 + n

/-- One unit in a string written by `jsonEncode`, between its two neighbours. -/
def encodeUnit (before : Option UInt16) (u : UInt16) (after : Option UInt16) : JsString :=
  if u == 0x08 then units "\\b"
  else if u == 0x09 then units "\\t"
  else if u == 0x0a then units "\\n"
  else if u == 0x0c then units "\\f"
  else if u == 0x0d then units "\\r"
  else if u < 0x20 then units "\\u00" ++ [hexDigit (u / 16), hexDigit (u % 16)]
  else if u == 0x22 || u == 0x5c then [0x5c, u]
  else if (isHighSurrogate u && !after.any isLowSurrogate) ||
      (isLowSurrogate u && !before.any isHighSurrogate) then
    units "\\ud" ++ [hexDigit (u / 256 % 16), hexDigit (u / 16 % 16), hexDigit (u % 16)]
  else [u]

def encodeUnits (before : Option UInt16) : JsString → JsString
  | [] => []
  | u :: rest => encodeUnit before u rest.head? ++ encodeUnits (some u) rest

def jsonEncode (value : JsString) : JsString := 0x22 :: (encodeUnits none value ++ [0x22])

/-- `jsonDecode(text) as String`, for a text that runs from a quotation mark to the next
one that is not escaped, or to the end of the source. -/
def jsonDecodeString (text : JsString) : Option JsString := decodeLiteral text

/-! ## The scanner -/

section Scanner

variable (fuel : Nat) (source : JsString)

def whitespaceTurn (index : Nat) : Except Stop (Turn Nat Nat) :=
  if index < source.length then do
    let unit ← codeUnitAt source index
    if unit != 0x20 && unit != 0x09 && unit != 0x0a && unit != 0x0d then .ok (.done index)
    else .ok (.again (index + 1))
  else .ok (.done index)

def skipWhitespace (index : Nat) : Except Stop Nat :=
  run .outOfTurns (whitespaceTurn source) fuel index

def stringTurn (index : Nat) : Except Stop (Turn Nat Nat) :=
  if index < source.length then do
    let unit ← codeUnitAt source index
    if unit == 0x5c then .ok (.again (index + 2))
    else if unit == 0x22 then .ok (.done (index + 1))
    else .ok (.again (index + 1))
  else .ok (.done index)

def skipJsonString (index : Nat) : Except Stop Nat :=
  if source.length ≤ index then .ok index
  else do
    let unit ← codeUnitAt source index
    if unit != 0x22 then .ok index
    else run .outOfTurns (stringTurn source) fuel (index + 1)

structure ValueState where
  index : Nat
  objectDepth : Int
  arrayDepth : Int

def ValueState.atTop (s : ValueState) : Bool := s.objectDepth == 0 && s.arrayDepth == 0

def ValueState.opened (s : ValueState) (unit : UInt16) : ValueState :=
  { s with
    objectDepth := if unit == 0x7b then s.objectDepth + 1 else s.objectDepth
    arrayDepth := if unit == 0x5b then s.arrayDepth + 1 else s.arrayDepth }

def ValueState.closed (s : ValueState) (unit : UInt16) : ValueState :=
  { s with
    objectDepth := if unit == 0x7d then s.objectDepth - 1 else s.objectDepth
    arrayDepth := if unit == 0x5d then s.arrayDepth - 1 else s.arrayDepth }

/-- A turn on a unit that is not a quotation mark. -/
def depthTurn (s : ValueState) (unit : UInt16) : Turn ValueState Nat :=
  let s := s.opened unit
  if unit == 0x7d && s.atTop then .done s.index
  else
    let s := s.closed unit
    if unit == 0x2c && s.atTop then .done s.index
    else .again { s with index := s.index + 1 }

def valueTurn (s : ValueState) : Except Stop (Turn ValueState Nat) :=
  if s.index < source.length then do
    let unit ← codeUnitAt source s.index
    if unit == 0x22 then do
      let index ← skipJsonString fuel source s.index
      .ok (.again { s with index := index })
    else .ok (depthTurn s unit)
  else .ok (.done s.index)

def skipJsonValue (index : Nat) : Except Stop Nat := do
  let index ← skipWhitespace fuel source index
  run .outOfTurns (valueTurn fuel source) fuel ⟨index, 0, 0⟩

def duplicateField (key : JsString) : FenceValidationException :=
  ⟨"unexpected_field",
    units "fenced write request contains duplicate field " ++ jsonEncode key, some key⟩

/-- The part of a turn after the name of the member. -/
def memberRest (index : Nat) (keys : List JsString) :
    Except Stop (Turn (Nat × List JsString) Unit) := do
  let index ← skipWhitespace fuel source index
  if source.length ≤ index then .ok (.done ())
  else do
    let unit ← codeUnitAt source index
    if unit != 0x3a then .ok (.done ())
    else do
      let index ← skipJsonValue fuel source (index + 1)
      let index ← skipWhitespace fuel source index
      if source.length ≤ index then .ok (.done ())
      else do
        let unit ← codeUnitAt source index
        if unit == 0x7d then .ok (.done ())
        else if unit != 0x2c then .ok (.done ())
        else .ok (.again (index + 1, keys))

/-- The part of a turn that reads the name of the member. -/
def memberName (keyStart : Nat) (keys : List JsString) :
    Except Stop (Turn (Nat × List JsString) Unit) := do
  let index ← skipJsonString fuel source keyStart
  if index ≤ keyStart || source.length < index then .ok (.done ())
  else
    match jsonDecodeString (substring source keyStart index) with
    | none => .ok (.done ())
    | some key =>
      if keys.contains key then .error (.thrown (duplicateField key))
      else memberRest fuel source index (key :: keys)

def memberTurn (s : Nat × List JsString) : Except Stop (Turn (Nat × List JsString) Unit) :=
  if s.1 < source.length then do
    let index ← skipWhitespace fuel source s.1
    if source.length ≤ index then .ok (.done ())
    else do
      let unit ← codeUnitAt source index
      if unit == 0x7d then .ok (.done ())
      else if unit != 0x22 then .ok (.done ())
      else memberName fuel source index s.2
  else .ok (.done ())

def rejectDuplicateTopLevelKeys : Except Stop Unit := do
  let index ← skipWhitespace fuel source 0
  if source.length ≤ index then .ok ()
  else do
    let unit ← codeUnitAt source index
    if unit != 0x7b then .ok ()
    else run .outOfTurns (memberTurn fuel source) fuel (index + 1, [])

end Scanner

end OresLocks.DartWire
