import OresLocks.DartWire

/-!
# The scanner ends without reading past its source

With more turns than the source has code units, no loop runs out of them and no code
unit outside the source is read, whatever the source is.
-/

namespace OresLocks.DartWire

set_option autoImplicit false

open Shared.Loops

/-- Neither out of range nor out of turns: the scanner has thrown. -/
def Thrown (stop : Stop) : Prop := ∃ exception, stop = .thrown exception

variable {fuel : Nat} {source : JsString} {index : Nat}

/-- Inside the source a read goes on with the unit that stands there. -/
theorem codeUnitAt_bind {α : Type} {next : UInt16 → Except Stop α} {good : α → Prop}
    {bad : Stop → Prop} (hlt : index < source.length)
    (hnext : ∀ unit, source[index]? = some unit → Meets good bad (next unit)) :
    Meets good bad (codeUnitAt source index >>= next) := by
  have hunit : source[index]? = some source[index] := List.getElem?_eq_getElem hlt
  have hread : codeUnitAt source index = .ok source[index] := by
    unfold codeUnitAt
    rw [hunit]
  rw [hread]
  exact hnext source[index] hunit

/-- When every turn that goes on advances, less of the source is left after it. -/
theorem left_of_again {σ ρ : Type} {turn : σ → Except Stop (Turn σ ρ)} {position : σ → Nat}
    {good : σ → ρ → Prop}
    (hturn : ∀ s, Meets (Turn.Keeps
      (fun next => position s < position next ∧ position s < source.length) (good s))
      (fun _ => False) (turn s)) (s next : σ) (h : turn s = .ok (.again next)) :
    source.length - position next < source.length - position s := by
  have hkeeps := (hturn s).of_ok h
  have hless := hkeeps.1
  have hlt := hkeeps.2
  omega

theorem whitespaceTurn_meets (index : Nat) :
    Meets (Turn.Keeps (fun next => index < next ∧ index < source.length) (· = index))
      (fun _ => False) (whitespaceTurn source index) := by
  unfold whitespaceTurn
  split
  case isTrue hlt =>
    refine codeUnitAt_bind hlt ?_
    intro unit _
    split
    case isTrue => exact rfl
    case isFalse => exact ⟨Nat.lt_succ_self index, hlt⟩
  case isFalse => exact rfl

theorem skipWhitespace_meets (hfuel : source.length < fuel) (index : Nat) :
    Meets (index ≤ ·) (fun _ => False) (skipWhitespace fuel source index) := by
  refine run_meets (index ≤ ·) (fun i => source.length - i) ?_ (le_refl index) (by omega)
  intro i hi
  refine (whitespaceTurn_meets i).mono ?_ (fun _ h => h)
  intro turn hturn
  cases turn with
  | again next =>
    obtain ⟨hless, hlt⟩ := hturn
    exact ⟨by omega, by omega⟩
  | done result =>
    cases hturn
    exact hi

theorem stringTurn_meets (index : Nat) :
    Meets (Turn.Keeps (fun next => index < next ∧ index < source.length) (index ≤ ·))
      (fun _ => False) (stringTurn source index) := by
  unfold stringTurn
  split
  case isTrue hlt =>
    refine codeUnitAt_bind hlt ?_
    intro unit _
    split
    case isTrue => exact ⟨by omega, hlt⟩
    case isFalse =>
      split
      case isTrue => exact Nat.le_succ index
      case isFalse => exact ⟨Nat.lt_succ_self index, hlt⟩
  case isFalse => exact le_refl index

/-- A string takes at least its quotation mark. -/
theorem skipJsonString_meets (hfuel : source.length < fuel) (index : Nat) :
    Meets (fun stop => index ≤ stop ∧ (source[index]? = some 0x22 → index < stop))
      (fun _ => False) (skipJsonString fuel source index) := by
  unfold skipJsonString
  split
  case isTrue hge =>
    refine ⟨le_refl index, ?_⟩
    intro hquote
    rw [List.getElem?_eq_none hge] at hquote
    cases hquote
  case isFalse hlt =>
    refine codeUnitAt_bind (not_le.mp hlt) ?_
    intro unit hunit
    split
    case isTrue hne =>
      refine ⟨le_refl index, ?_⟩
      intro hquote
      rw [hunit] at hquote
      cases hquote
      exact absurd hne (by decide)
    case isFalse =>
      have hrun : Meets (index < ·) (fun _ => False)
          (run Stop.outOfTurns (stringTurn source) fuel (index + 1)) := by
        refine run_meets (index < ·) (fun i => source.length - i) ?_ (Nat.lt_succ_self index)
          (by omega)
        intro i hi
        refine (stringTurn_meets i).mono ?_ (fun _ h => h)
        intro turn hturn
        cases turn with
        | again next =>
          obtain ⟨hless, hlt⟩ := hturn
          exact ⟨by omega, by omega⟩
        | done result => exact lt_of_lt_of_le hi hturn
      exact hrun.mono (fun stop hstop => ⟨le_of_lt hstop, fun _ => hstop⟩) (fun _ h => h)

theorem depthTurn_keeps (s : ValueState) (unit : UInt16) :
    (depthTurn s unit).Keeps (fun next => next.index = s.index + 1) (· = s.index) := by
  unfold depthTurn
  dsimp only
  split
  case isTrue => exact rfl
  case isFalse =>
    split
    case isTrue => exact rfl
    case isFalse => exact rfl

theorem valueTurn_meets (hfuel : source.length < fuel) (s : ValueState) :
    Meets (Turn.Keeps (fun next => s.index < next.index ∧ s.index < source.length) (· = s.index))
      (fun _ => False) (valueTurn fuel source s) := by
  unfold valueTurn
  split
  case isTrue hlt =>
    refine codeUnitAt_bind hlt ?_
    intro unit hunit
    split
    case isTrue hquote =>
      rw [eq_of_beq hquote] at hunit
      refine (skipJsonString_meets hfuel s.index).bind ?_
      intro stop hstop
      exact ⟨hstop.2 hunit, hlt⟩
    case isFalse =>
      have hkeeps := depthTurn_keeps s unit
      cases hturn : depthTurn s unit with
      | again next =>
        rw [hturn] at hkeeps
        cases next
        cases hkeeps
        exact ⟨Nat.lt_succ_self s.index, hlt⟩
      | done result =>
        rw [hturn] at hkeeps
        exact hkeeps
  case isFalse => exact rfl

theorem skipJsonValue_meets (hfuel : source.length < fuel) (index : Nat) :
    Meets (index ≤ ·) (fun _ => False) (skipJsonValue fuel source index) := by
  unfold skipJsonValue
  refine (skipWhitespace_meets hfuel index).bind ?_
  intro start hstart
  refine run_meets (fun s => index ≤ s.index) (fun s => source.length - s.index) ?_ hstart
    (by omega)
  intro s hs
  refine (valueTurn_meets hfuel s).mono ?_ (fun _ h => h)
  intro turn hturn
  cases turn with
  | again next =>
    obtain ⟨hless, hlt⟩ := hturn
    exact ⟨by omega, by omega⟩
  | done result =>
    cases hturn
    exact hs

/-! ## The members -/

/-- The rest of the source after the given index is shorter in the next turn. -/
def Advances (source : JsString) (index : Nat) : Turn (Nat × List JsString) Unit → Prop :=
  Turn.Keeps (fun next => index < next.1 ∧ index < source.length) (fun _ => True)

theorem memberRest_meets (hfuel : source.length < fuel) (index : Nat) (keys : List JsString) :
    Meets (Advances source index) Thrown (memberRest fuel source index keys) := by
  unfold memberRest
  refine (skipWhitespace_meets hfuel index).bind_sure ?_
  intro colon hcolon
  split
  case isTrue => exact trivial
  case isFalse hlt =>
    refine codeUnitAt_bind (not_le.mp hlt) ?_
    intro unit _
    split
    case isTrue => exact trivial
    case isFalse =>
      refine (skipJsonValue_meets hfuel (colon + 1)).bind_sure ?_
      intro value hvalue
      refine (skipWhitespace_meets hfuel value).bind_sure ?_
      intro comma hcomma
      split
      case isTrue => exact trivial
      case isFalse hlt' =>
        refine codeUnitAt_bind (not_le.mp hlt') ?_
        intro unit' _
        split
        case isTrue => exact trivial
        case isFalse =>
          split
          case isTrue => exact trivial
          case isFalse => exact ⟨by omega, by omega⟩

theorem memberName_meets (hfuel : source.length < fuel) (keyStart : Nat) (keys : List JsString) :
    Meets (Advances source keyStart) Thrown (memberName fuel source keyStart keys) := by
  unfold memberName
  refine (skipJsonString_meets hfuel keyStart).bind_sure ?_
  intro index hindex
  split
  case isTrue => exact trivial
  case isFalse =>
    split
    case h_1 => exact trivial
    case h_2 key _ =>
      split
      case isTrue => exact ⟨duplicateField key, rfl⟩
      case isFalse =>
        refine (memberRest_meets hfuel index (key :: keys)).mono ?_ (fun _ h => h)
        intro turn hturn
        cases turn with
        | again next => exact ⟨by have := hturn.1; omega, by have := hturn.2; omega⟩
        | done => exact trivial

theorem memberTurn_meets (hfuel : source.length < fuel) (s : Nat × List JsString) :
    Meets (Advances source s.1) Thrown (memberTurn fuel source s) := by
  unfold memberTurn
  split
  case isTrue hlt =>
    refine (skipWhitespace_meets hfuel s.1).bind_sure ?_
    intro index hindex
    split
    case isTrue => exact trivial
    case isFalse hlt' =>
      refine codeUnitAt_bind (not_le.mp hlt') ?_
      intro unit _
      split
      case isTrue => exact trivial
      case isFalse =>
        split
        case isTrue => exact trivial
        case isFalse =>
          refine (memberName_meets hfuel index s.2).mono ?_ (fun _ h => h)
          intro turn hturn
          cases turn with
          | again next => exact ⟨lt_of_le_of_lt hindex hturn.1, hlt⟩
          | done => exact trivial
  case isFalse => exact trivial

theorem run_memberTurn_meets (hfuel : source.length < fuel) (s : Nat × List JsString) :
    Meets (fun _ => True) Thrown (run Stop.outOfTurns (memberTurn fuel source) fuel s) := by
  refine run_meets (fun _ => True) (fun s => source.length - s.1) ?_ trivial (by omega)
  intro s _
  refine (memberTurn_meets hfuel s).mono ?_ (fun _ h => h)
  intro turn hturn
  cases turn with
  | again next =>
    obtain ⟨hless, hlt⟩ := hturn
    exact ⟨trivial, by omega⟩
  | done => exact trivial

/-- Whatever the source is, the scanner returns or throws. -/
theorem rejectDuplicateTopLevelKeys_meets (hfuel : source.length < fuel) :
    Meets (fun _ => True) Thrown (rejectDuplicateTopLevelKeys fuel source) := by
  unfold rejectDuplicateTopLevelKeys
  refine (skipWhitespace_meets hfuel 0).bind_sure ?_
  intro index _
  split
  case isTrue => exact trivial
  case isFalse hlt =>
    refine codeUnitAt_bind (not_le.mp hlt) ?_
    intro unit _
    split
    case isTrue => exact trivial
    case isFalse => exact run_memberTurn_meets hfuel (index + 1, [])

end OresLocks.DartWire
