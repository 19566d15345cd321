import OresLocks.DartWireTurns

/-!
# The scanner throws exactly on duplicate names

A position in the source is told by what is left of the source there.
-/

namespace OresLocks.DartWire

set_option autoImplicit false

open Shared.Loops
open Shared.Json

variable {fuel : Nat} {source : JsString}

section Positions

variable {index : Nat} {u : UInt16} {text rest : JsString}

theorem lt_of_drop (h : source.drop index = u :: rest) : index < source.length := by
  have hlen := congrArg List.length h
  rw [List.length_drop, List.length_cons] at hlen
  omega

theorem codeUnitAt_of_drop (h : source.drop index = u :: rest) :
    codeUnitAt source index = .ok u := by
  have hunit : source[index]? = some u := by
    rw [← List.head?_drop, h]
    rfl
  unfold codeUnitAt
  rw [hunit]

theorem drop_append (h : source.drop index = text ++ rest) :
    source.drop (index + text.length) = rest := by
  rw [← List.drop_drop, h, List.drop_left]

theorem drop_succ (h : source.drop index = u :: rest) : source.drop (index + 1) = rest := by
  rw [← List.drop_drop, h]
  rfl

theorem substring_of_drop (h : source.drop index = text ++ rest) :
    substring source index (index + text.length) = text := by
  unfold substring
  rw [h, Nat.add_sub_cancel_left, List.take_left]

end Positions

/-! ## White space -/

theorem not_isBlank (u : UInt16) :
    (u != 0x20 && u != 0x09 && u != 0x0a && u != 0x0d) = !isBlank u := by
  simp [isBlank, Bool.not_or, bne]

section Blanks

variable {index : Nat} {blank rest : JsString} {u : UInt16}

theorem whitespaceTurn_blank (h : source.drop index = u :: rest) (hu : isBlank u = true) :
    whitespaceTurn source index = .ok (.again (index + 1)) := by
  unfold whitespaceTurn
  rw [if_pos (lt_of_drop h), codeUnitAt_of_drop h]
  change (if _ then _ else _) = _
  rw [not_isBlank, hu, if_neg (by decide)]

theorem whitespaceTurn_stop (h : source.drop index = u :: rest) (hu : isBlank u = false) :
    whitespaceTurn source index = .ok (.done index) := by
  unfold whitespaceTurn
  rw [if_pos (lt_of_drop h), codeUnitAt_of_drop h]
  change (if _ then _ else _) = _
  rw [not_isBlank, hu, if_pos (by decide)]

theorem reaches_blank (hblank : Blank blank) (h : source.drop index = blank ++ rest) :
    Reaches (whitespaceTurn source) index (index + blank.length) := by
  induction blank generalizing index with
  | nil => exact .refl index
  | cons u blank ih =>
    have hturn := whitespaceTurn_blank h (hblank u List.mem_cons_self)
    have hrest := ih (fun v hv => hblank v (List.mem_cons_of_mem u hv)) (drop_succ h)
    rw [List.length_cons, Nat.add_comm blank.length, ← Nat.add_assoc]
    exact .step hturn hrest

theorem skipWhitespace_eq (hfuel : source.length < fuel) (hblank : Blank blank)
    (h : source.drop index = blank ++ u :: rest) (hu : isBlank u = false) :
    skipWhitespace fuel source index = .ok (index + blank.length) := by
  obtain ⟨left, hleft, hrun⟩ := run_of_reaches Stop.outOfTurns (fun i => source.length - i)
    (left_of_again whitespaceTurn_meets) (reaches_blank hblank h)
    (show source.length - index < fuel by omega)
  unfold skipWhitespace
  rw [hrun]
  exact run_done (whitespaceTurn_stop (drop_append h) hu) (by omega)

end Blanks

/-! ## Strings -/

section Strings

variable {index : Nat} {content value rest : JsString} {u : UInt16}

theorem stringTurn_unit (h : source.drop index = u :: rest) (hescape : u ≠ 0x5c)
    (hquote : u ≠ 0x22) : stringTurn source index = .ok (.again (index + 1)) := by
  unfold stringTurn
  rw [if_pos (lt_of_drop h), codeUnitAt_of_drop h]
  change (if _ then _ else if _ then _ else _) = _
  rw [if_neg (by simpa using hescape), if_neg (by simpa using hquote)]

theorem stringTurn_escape (h : source.drop index = 0x5c :: rest) :
    stringTurn source index = .ok (.again (index + 2)) := by
  unfold stringTurn
  rw [if_pos (lt_of_drop h), codeUnitAt_of_drop h]
  rfl

theorem stringTurn_quote (h : source.drop index = 0x22 :: rest) :
    stringTurn source index = .ok (.done (index + 1)) := by
  unfold stringTurn
  rw [if_pos (lt_of_drop h), codeUnitAt_of_drop h]
  rfl

theorem reaches_units (hunits : ∀ u ∈ content, u ≠ 0x5c ∧ u ≠ 0x22)
    (h : source.drop index = content ++ rest) :
    Reaches (stringTurn source) index (index + content.length) := by
  induction content generalizing index with
  | nil => exact .refl index
  | cons u content ih =>
    have hu := hunits u List.mem_cons_self
    have hrest := ih (fun v hv => hunits v (List.mem_cons_of_mem u hv)) (drop_succ h)
    rw [List.length_cons, Nat.add_comm content.length, ← Nat.add_assoc]
    exact .step (stringTurn_unit h hu.1 hu.2) hrest

theorem ne_of_hexValue? {a v : UInt16} (h : hexValue? a = some v) : a ≠ 0x5c ∧ a ≠ 0x22 := by
  constructor
  · rintro rfl
    cases h
  · rintro rfl
    cases h

theorem ne_of_fourDigits? {a b c d v : UInt16} (h : fourDigits? a b c d = some v) :
    ∀ u ∈ [a, b, c, d], u ≠ 0x5c ∧ u ≠ 0x22 := by
  simp only [fourDigits?, Option.bind_eq_bind, Option.bind_eq_some_iff] at h
  obtain ⟨_, ha, _, hb, _, hc, _, hd, _⟩ := h
  intro u hu
  simp only [List.mem_cons, List.not_mem_nil, or_false] at hu
  rcases hu with rfl | rfl | rfl | rfl
  · exact ne_of_hexValue? ha
  · exact ne_of_hexValue? hb
  · exact ne_of_hexValue? hc
  · exact ne_of_hexValue? hd

theorem reaches_content (hcontent : Content content value)
    (h : source.drop index = content ++ rest) :
    Reaches (stringTurn source) index (index + content.length) := by
  induction hcontent generalizing index with
  | nil => exact .refl index
  | @unit u content value hu _ ih =>
    have hne := ne_of_isUnescaped hu
    rw [List.length_cons, Nat.add_comm content.length, ← Nat.add_assoc]
    exact .step (stringTurn_unit h hne.2 hne.1) (ih (drop_succ h))
  | @escape e v content value _ _ ih =>
    have hlen : index + (0x5c :: e :: content).length = index + 2 + content.length := by
      simp only [List.length_cons]
      omega
    rw [hlen]
    exact .step (stringTurn_escape h) (ih (drop_succ (drop_succ h)))
  | @unicode a b c d v content value hv _ ih =>
    have hlen : index + (0x5c :: 0x75 :: a :: b :: c :: d :: content).length =
        index + 2 + [a, b, c, d].length + content.length := by
      simp only [List.length_cons, List.length_nil]
      omega
    have hdigits : source.drop (index + 2) = [a, b, c, d] ++ (content ++ rest) :=
      drop_succ (drop_succ h)
    rw [hlen]
    exact .step (stringTurn_escape h) ((reaches_units (ne_of_fourDigits? hv) hdigits).trans
      (ih (drop_append hdigits)))

theorem skipJsonString_eq (hfuel : source.length < fuel) {text : JsString}
    (hliteral : Literal text value) (h : source.drop index = text ++ rest) :
    skipJsonString fuel source index = .ok (index + text.length) := by
  obtain ⟨content, hcontent, rfl⟩ := hliteral
  have hopen : source.drop index = 0x22 :: (content ++ 0x22 :: rest) := by
    rw [h]
    simp
  have hbody := drop_succ hopen
  have hclose := drop_append hbody
  obtain ⟨left, hleft, hrun⟩ := run_of_reaches Stop.outOfTurns (fun i => source.length - i)
    (left_of_again stringTurn_meets) (reaches_content hcontent hbody)
    (show source.length - (index + 1) < fuel by omega)
  unfold skipJsonString
  rw [if_neg (not_le.mpr (lt_of_drop hopen)), codeUnitAt_of_drop hopen]
  change run _ _ _ _ = _
  rw [hrun, run_done (stringTurn_quote hclose) (by omega)]
  simp only [List.length_cons, List.length_append, List.length_nil]
  congr 1
  omega

end Strings

/-! ## Values -/

/-- Scanning the text leaves the depths as they are, wherever it stands inside at least
`least` brackets. -/
def Passes (fuel : Nat) (source : JsString) (least : Int) (text : JsString) : Prop :=
  ∀ index objectDepth arrayDepth rest, 0 ≤ objectDepth → 0 ≤ arrayDepth →
    least ≤ objectDepth + arrayDepth → source.drop index = text ++ rest →
    Reaches (valueTurn fuel source) ⟨index, objectDepth, arrayDepth⟩
      ⟨index + text.length, objectDepth, arrayDepth⟩

section Values

variable {least : Int} {text text' : JsString}

theorem Passes.mono {least' : Int} (h : Passes fuel source least text) (hle : least ≤ least') :
    Passes fuel source least' text := by
  intro index objectDepth arrayDepth rest hobject harray hleast hdrop
  exact h index objectDepth arrayDepth rest hobject harray (le_trans hle hleast) hdrop

theorem Passes.append (h : Passes fuel source least text) (h' : Passes fuel source least text') :
    Passes fuel source least (text ++ text') := by
  intro index objectDepth arrayDepth rest hobject harray hleast hdrop
  rw [List.append_assoc] at hdrop
  have hfirst := h index objectDepth arrayDepth (text' ++ rest) hobject harray hleast hdrop
  have hsecond := h' (index + text.length) objectDepth arrayDepth rest hobject harray hleast
    (drop_append hdrop)
  rw [List.length_append, ← Nat.add_assoc]
  exact hfirst.trans hsecond

theorem Passes.nil : Passes fuel source least [] := by
  intro index objectDepth arrayDepth rest _ _ _ _
  exact .refl _

/-- One unit, from what its turn does to the depths. -/
theorem valueTurn_unit {s : ValueState} {u : UInt16} {rest : JsString}
    (h : source.drop s.index = u :: rest) (hquote : u ≠ 0x22) :
    valueTurn fuel source s = .ok (depthTurn s u) := by
  unfold valueTurn
  rw [if_pos (lt_of_drop h), codeUnitAt_of_drop h]
  change (if _ then _ else _) = _
  rw [if_neg (by simpa using hquote)]

theorem depthTurn_of_not_isMark {s : ValueState} {u : UInt16} (h : isMark u = false) :
    depthTurn s u = .again { s with index := s.index + 1 } := by
  simp only [isMark, Bool.or_eq_false_iff] at h
  obtain ⟨⟨⟨⟨⟨_, hopen⟩, hclose⟩, hleft⟩, hright⟩, hcomma⟩ := h
  simp [depthTurn, ValueState.opened, ValueState.closed, hopen, hclose, hleft, hright, hcomma]

theorem ne_quote_of_not_isMark {u : UInt16} (h : isMark u = false) : u ≠ 0x22 := by
  rintro rfl
  cases h

theorem passes_unmarked (h : ∀ u ∈ text, isMark u = false) : Passes fuel source least text := by
  induction text with
  | nil => exact Passes.nil
  | cons u text ih =>
    have hu := h u List.mem_cons_self
    have hone : Passes fuel source least [u] := by
      intro index objectDepth arrayDepth rest _ _ _ hdrop
      apply Reaches.single
      rw [valueTurn_unit hdrop (ne_quote_of_not_isMark hu), depthTurn_of_not_isMark hu]
      rfl
    exact hone.append (ih (fun v hv => h v (List.mem_cons_of_mem u hv)))

theorem passes_blank (h : Blank text) : Passes fuel source least text :=
  passes_unmarked fun u hu => isMark_of_isBlank (h u hu)

theorem passes_plain (h : ∀ u ∈ text, isPlain u = true) : Passes fuel source least text := by
  apply passes_unmarked
  intro u hu
  have hplain := h u hu
  rw [isPlain, Bool.and_eq_true, Bool.not_eq_true'] at hplain
  exact hplain.1

theorem passes_literal (hfuel : source.length < fuel) {value : JsString}
    (h : Literal text value) : Passes fuel source least text := by
  intro index objectDepth arrayDepth rest _ _ _ hdrop
  have hskip := skipJsonString_eq hfuel h hdrop
  obtain ⟨content, _, rfl⟩ := h
  apply Reaches.single
  unfold valueTurn
  rw [if_pos (lt_of_drop hdrop), codeUnitAt_of_drop hdrop]
  change (skipJsonString fuel source index >>= fun _ => _) = _
  rw [hskip]
  rfl

theorem passes_comma : Passes fuel source 1 [0x2c] := by
  intro index objectDepth arrayDepth rest hobject harray hleast hdrop
  apply Reaches.single
  rw [valueTurn_unit hdrop (by decide)]
  have htop : (objectDepth == 0 && arrayDepth == 0) = false := by
    rw [Bool.and_eq_false_iff, beq_eq_false_iff_ne, beq_eq_false_iff_ne]
    omega
  simp [depthTurn, ValueState.opened, ValueState.closed, ValueState.atTop, htop]

/-- Between an opening and a closing unit one of the depths is one more. -/
theorem passes_enclosed {opening closing : UInt16} {p q : Int} (hopening : opening ≠ 0x22)
    (hclosing : closing ≠ 0x22) (hp : 0 ≤ p) (hq : 0 ≤ q) (hdeeper : p + q = 1)
    (hopen : ∀ i o a, depthTurn ⟨i, o, a⟩ opening = .again ⟨i + 1, o + p, a + q⟩)
    (hclose : ∀ i o a, 0 ≤ o → 0 ≤ a →
      depthTurn ⟨i, o + p, a + q⟩ closing = .again ⟨i + 1, o, a⟩)
    (h : Passes fuel source 1 text) : Passes fuel source 0 (opening :: (text ++ [closing])) := by
  intro index objectDepth arrayDepth rest hobject harray _ hdrop
  have hbody : source.drop (index + 1) = text ++ closing :: rest := by
    rw [drop_succ hdrop]
    simp
  have hfirst : valueTurn fuel source ⟨index, objectDepth, arrayDepth⟩ =
      .ok (.again ⟨index + 1, objectDepth + p, arrayDepth + q⟩) := by
    rw [valueTurn_unit hdrop hopening, hopen]
  have hinside := h (index + 1) (objectDepth + p) (arrayDepth + q) (closing :: rest) (by omega)
    (by omega) (by omega) hbody
  have hlast : valueTurn fuel source
      ⟨index + 1 + text.length, objectDepth + p, arrayDepth + q⟩ =
      .ok (.again ⟨index + 1 + text.length + 1, objectDepth, arrayDepth⟩) := by
    rw [valueTurn_unit (drop_append hbody) hclosing, hclose _ _ _ hobject harray]
  have hlen : index + (opening :: (text ++ [closing])).length = index + 1 + text.length + 1 := by
    simp only [List.length_cons, List.length_append, List.length_nil]
    omega
  rw [hlen]
  exact (Reaches.step hfirst hinside).trans (.single hlast)

theorem passes_brackets (h : Passes fuel source 1 text) :
    Passes fuel source 0 (0x5b :: (text ++ [0x5d])) := by
  refine passes_enclosed (p := 0) (q := 1) (by decide) (by decide) (by decide) (by decide) rfl
    ?_ ?_ h
  · intro i o a
    simp [depthTurn, ValueState.opened, ValueState.closed]
  · intro i o a _ _
    simp [depthTurn, ValueState.opened, ValueState.closed]

/-- The closing brace does not end the value, as its object is open. -/
theorem passes_braces (h : Passes fuel source 1 text) :
    Passes fuel source 0 (0x7b :: (text ++ [0x7d])) := by
  refine passes_enclosed (p := 1) (q := 0) (by decide) (by decide) (by decide) (by decide) rfl
    ?_ ?_ h
  · intro i o a
    simp [depthTurn, ValueState.opened, ValueState.closed]
  · intro i o a ho _
    have hdeep : (o + 1 == 0) = false := by
      rw [beq_eq_false_iff_ne]
      omega
    simp [depthTurn, ValueState.opened, ValueState.closed, ValueState.atTop, hdeep]

theorem passes_separated {texts : List JsString} (h : ∀ text ∈ texts, Passes fuel source 1 text) :
    Passes fuel source 1 (separated texts) := by
  induction texts with
  | nil => exact Passes.nil
  | cons text texts ih =>
    cases texts with
    | nil => exact h text List.mem_cons_self
    | cons next texts =>
      have hrest := ih (fun other hother => h other (List.mem_cons_of_mem text hother))
      exact (h text List.mem_cons_self).append (passes_comma.append hrest)

theorem passes_item {item : Item} (hspaced : item.Spaced) (h : Passes fuel source 0 item.value) :
    Passes fuel source 0 item.text :=
  ((passes_blank hspaced.1).append h).append (passes_blank hspaced.2)

theorem passes_member (hfuel : source.length < fuel) {member : Member} (hnamed : member.Named)
    (h : Passes fuel source 0 member.item.value) : Passes fuel source 0 member.text := by
  obtain ⟨hbefore, hliteral, hgap, hspaced⟩ := hnamed
  have hcolon : Passes fuel source 0 [0x3a] := passes_unmarked (by simp [isMark])
  have hname : Passes fuel source 0 (member.before ++ member.literal ++ member.gap) :=
    ((passes_blank hbefore).append (passes_literal hfuel hliteral)).append (passes_blank hgap)
  exact hname.append (hcolon.append (passes_item hspaced h))

theorem passes_value (hfuel : source.length < fuel) (h : Value text) :
    Passes fuel source 0 text := by
  induction h with
  | nullWord => exact passes_unmarked (by simp [isMark])
  | trueWord => exact passes_unmarked (by simp [isMark])
  | falseWord => exact passes_unmarked (by simp [isMark])
  | number hnumber => exact passes_plain (plain_of_number hnumber)
  | string hliteral => exact passes_literal hfuel hliteral
  | emptyArray hgap => exact passes_brackets (passes_blank hgap)
  | array items _ hspaced _ ih =>
    apply passes_brackets
    apply passes_separated
    intro text htext
    obtain ⟨item, hitem, rfl⟩ := List.mem_map.mp htext
    exact (passes_item (hspaced item hitem) (ih item hitem)).mono (by decide)
  | emptyObject hgap => exact passes_braces (passes_blank hgap)
  | object members _ hnamed _ ih =>
    apply passes_braces
    apply passes_separated
    intro text htext
    obtain ⟨member, hmember, rfl⟩ := List.mem_map.mp htext
    exact (passes_member hfuel (hnamed member hmember) (ih member hmember)).mono (by decide)

end Values

/-! ## Members -/

/-- What stands after the value of a member. -/
def Stops (u : UInt16) : Prop := u = 0x7d ∨ u = 0x2c

theorem not_isBlank_of_stops {u : UInt16} (h : Stops u) : isBlank u = false := by
  rcases h with rfl | rfl
  · rfl
  · rfl

section Members

variable {index : Nat} {stop : UInt16} {rest : JsString} (hfuel : source.length < fuel)
  (hstop : Stops stop)

include hfuel hstop

theorem skipJsonValue_eq {item : Item} (hspaced : item.Spaced) (hvalue : Value item.value)
    (h : source.drop index = item.text ++ stop :: rest) :
    skipJsonValue fuel source index = .ok (index + item.text.length) := by
  obtain ⟨u, tail, hhead, hu⟩ := hvalue.head
  have hvalueRest : source.drop index = item.before ++ (item.value ++ item.after ++ stop :: rest) := by
    rw [h, Item.text]
    simp
  have hskip : skipWhitespace fuel source index = .ok (index + item.before.length) := by
    rw [hhead] at hvalueRest
    exact skipWhitespace_eq hfuel hspaced.1 hvalueRest hu
  have hpasses : Passes fuel source 0 (item.value ++ item.after) :=
    (passes_value hfuel hvalue).append (passes_blank hspaced.2)
  have hdrop := drop_append hvalueRest
  have hreach := hpasses (index + item.before.length) 0 0 (stop :: rest) (le_refl 0) (le_refl 0)
    (le_refl 0) hdrop
  obtain ⟨left, hleft, hrun⟩ := run_of_reaches Stop.outOfTurns
    (fun s : ValueState => source.length - s.index) (left_of_again (valueTurn_meets hfuel)) hreach
    (show source.length - (index + item.before.length) < fuel by omega)
  have hdone : valueTurn fuel source
      ⟨index + item.before.length + (item.value ++ item.after).length, 0, 0⟩ =
      .ok (.done (index + item.before.length + (item.value ++ item.after).length)) := by
    rcases hstop with rfl | rfl
    · rw [valueTurn_unit (drop_append hdrop) (by decide)]
      rfl
    · rw [valueTurn_unit (drop_append hdrop) (by decide)]
      rfl
  unfold skipJsonValue
  rw [hskip]
  change run _ _ _ _ = _
  rw [hrun, run_done hdone (by omega), Item.text]
  simp only [List.length_append]
  congr 1
  omega

/-- Where a turn goes from the unit after the value of a member. -/
def afterMember (stop : UInt16) (index : Nat) (keys : List JsString) :
    Turn (Nat × List JsString) Unit :=
  if stop == 0x7d then .done () else .again (index + 1, keys)

theorem memberRest_eq {gap : JsString} {item : Item} {keys : List JsString} (hgap : Blank gap)
    (hspaced : item.Spaced) (hvalue : Value item.value)
    (h : source.drop index = gap ++ 0x3a :: (item.text ++ stop :: rest)) :
    memberRest fuel source index keys =
      .ok (afterMember stop (index + gap.length + 1 + item.text.length) keys) := by
  have hcolon := drop_append h
  have hitem := drop_succ hcolon
  have hlast := drop_append hitem
  have hnone : Blank [] := by simp [Blank]
  have hskip : skipWhitespace fuel source (index + gap.length + 1 + item.text.length) =
      .ok (index + gap.length + 1 + item.text.length) :=
    skipWhitespace_eq hfuel hnone hlast (not_isBlank_of_stops hstop)
  unfold memberRest
  rw [skipWhitespace_eq hfuel hgap h rfl]
  change (if _ then _ else _) = _
  rw [if_neg (not_le.mpr (lt_of_drop hcolon)), codeUnitAt_of_drop hcolon]
  change (skipJsonValue fuel source (index + gap.length + 1) >>= fun _ => _) = _
  rw [skipJsonValue_eq hfuel hstop hspaced hvalue hitem]
  change (skipWhitespace fuel source (index + gap.length + 1 + item.text.length) >>= fun _ => _) = _
  rw [hskip]
  change (if _ then _ else _) = _
  rw [if_neg (not_le.mpr (lt_of_drop hlast)), codeUnitAt_of_drop hlast]
  rcases hstop with rfl | rfl
  · rfl
  · rfl

theorem memberName_eq {member : Member} {keys : List JsString} (hnamed : member.Named)
    (hvalue : Value member.item.value)
    (h : source.drop index = member.literal ++ (member.gap ++ 0x3a :: (member.item.text ++
      stop :: rest))) :
    memberName fuel source index keys =
      if keys.contains member.name then .error (.thrown (duplicateField member.name))
      else .ok (afterMember stop
        (index + member.literal.length + member.gap.length + 1 + member.item.text.length)
        (member.name :: keys)) := by
  obtain ⟨_, hliteral, hgap, hspaced⟩ := hnamed
  have hbound : ¬ (decide (index + member.literal.length ≤ index) ||
      decide (source.length < index + member.literal.length)) = true := by
    obtain ⟨content, _, hquoted⟩ := hliteral
    have hlen := congrArg List.length h
    simp only [List.length_drop, List.length_append, List.length_cons, hquoted] at hlen ⊢
    simp
    omega
  unfold memberName
  rw [skipJsonString_eq hfuel hliteral h]
  change (if _ then _ else _) = _
  rw [if_neg hbound, substring_of_drop h, jsonDecodeString, decodeLiteral_of_literal hliteral]
  change (if _ then _ else _) = _
  rw [memberRest_eq hfuel hstop hgap hspaced hvalue (drop_append h)]

theorem memberTurn_eq (keys : List JsString) {member : Member} (hnamed : member.Named)
    (hvalue : Value member.item.value) (h : source.drop index = member.text ++ stop :: rest) :
    memberTurn fuel source (index, keys) =
      if keys.contains member.name then .error (.thrown (duplicateField member.name))
      else .ok (afterMember stop (index + member.text.length) (member.name :: keys)) := by
  have hbefore : source.drop index = member.before ++ (member.literal ++ (member.gap ++
      0x3a :: (member.item.text ++ stop :: rest))) := by
    rw [h, Member.text]
    simp
  have hliteral := drop_append hbefore
  obtain ⟨content, _, hquoted⟩ := hnamed.2.1
  have hquote : source.drop (index + member.before.length) = 0x22 :: (content ++ [0x22] ++
      (member.gap ++ 0x3a :: (member.item.text ++ stop :: rest))) := by
    rw [hliteral, hquoted]
    rfl
  have hskip : skipWhitespace fuel source index = .ok (index + member.before.length) := by
    rw [hquoted] at hbefore
    exact skipWhitespace_eq hfuel hnamed.1 hbefore rfl
  have hlt := lt_of_drop hquote
  have hlen : index + member.before.length + member.literal.length + member.gap.length + 1 +
      member.item.text.length = index + member.text.length := by
    simp only [Member.text, List.length_append, List.length_cons]
    omega
  unfold memberTurn
  rw [if_pos (show index < source.length by omega), hskip]
  change (if _ then _ else _) = _
  rw [if_neg (not_le.mpr hlt), codeUnitAt_of_drop hquote]
  change memberName fuel source (index + member.before.length) keys = _
  rw [memberName_eq hfuel hstop hnamed hvalue hliteral, hlen]

end Members

/-! ## Objects -/

/-- The names differ from each other and from those met before. -/
def Fresh (keys names : List JsString) : Prop := names.Nodup ∧ ∀ name ∈ names, name ∉ keys

theorem fresh_nil (keys : List JsString) : Fresh keys [] := by
  refine ⟨List.nodup_nil, ?_⟩
  intro name hname
  cases hname

theorem fresh_cons {keys names : List JsString} {name : JsString} :
    Fresh keys (name :: names) ↔ name ∉ keys ∧ Fresh (name :: keys) names := by
  constructor
  · rintro ⟨hnodup, hnew⟩
    obtain ⟨hname, hnames⟩ := List.nodup_cons.mp hnodup
    refine ⟨hnew name List.mem_cons_self, hnames, ?_⟩
    intro other hother hmem
    rcases List.mem_cons.mp hmem with rfl | hold
    · exact hname hother
    · exact hnew other (List.mem_cons_of_mem name hother) hold
  · rintro ⟨hname, hnames, hnew⟩
    constructor
    · refine List.nodup_cons.mpr ⟨?_, hnames⟩
      intro hmem
      exact hnew name hmem List.mem_cons_self
    · intro other hother
      rcases List.mem_cons.mp hother with rfl | hother
      · exact hname
      · intro hold
        exact hnew other hother (List.mem_cons_of_mem name hold)

/-- The scanner returns if the condition holds, and throws if it does not. -/
def Decides (fresh : Prop) (result : Except Stop Unit) : Prop :=
  (fresh ∧ result = .ok ()) ∨ (¬ fresh ∧ ∃ exception, result = .error (.thrown exception))

theorem Decides.throws_iff {fresh : Prop} {result : Except Stop Unit} (h : Decides fresh result) :
    (∃ exception, result = .error (.thrown exception)) ↔ ¬ fresh := by
  rcases h with ⟨hfresh, hok⟩ | ⟨hnot, hthrown⟩
  · constructor
    · rintro ⟨exception, herror⟩
      rw [hok] at herror
      cases herror
    · intro hnot
      exact absurd hfresh hnot
  · exact ⟨fun _ => hnot, fun _ => hthrown⟩

/-- What the scanner makes of the names of the members, in their order. -/
def scanNames (keys : List JsString) : List JsString → Except Stop Unit
  | [] => .ok ()
  | name :: names =>
    if keys.contains name then .error (.thrown (duplicateField name))
    else scanNames (name :: keys) names

theorem scanNames_decides (keys names : List JsString) :
    Decides (Fresh keys names) (scanNames keys names) := by
  induction names generalizing keys with
  | nil => exact Or.inl ⟨fresh_nil keys, rfl⟩
  | cons name names ih =>
    by_cases hmem : name ∈ keys
    · refine Or.inr ⟨?_, duplicateField name, ?_⟩
      · intro hfresh
        exact (fresh_cons.mp hfresh).1 hmem
      · rw [scanNames, List.contains_eq_mem, if_pos (by simpa using hmem)]
    · rw [scanNames, List.contains_eq_mem, if_neg (by simpa using hmem)]
      rcases ih (name :: keys) with ⟨hfresh, hok⟩ | ⟨hnot, hthrown⟩
      · exact Or.inl ⟨fresh_cons.mpr ⟨hmem, hfresh⟩, hok⟩
      · refine Or.inr ⟨?_, hthrown⟩
        intro hfresh
        exact hnot (fresh_cons.mp hfresh).2

theorem run_members (hfuel : source.length < fuel) {members : List Member} (hne : members ≠ [])
    (hnamed : ∀ member ∈ members, member.Named)
    (hvalues : ∀ member ∈ members, Value member.item.value) {index left : Nat}
    {keys : List JsString} {rest : JsString}
    (h : source.drop index = separated (members.map Member.text) ++ 0x7d :: rest)
    (hleft : source.length - index < left) :
    run Stop.outOfTurns (memberTurn fuel source) left (index, keys) =
      scanNames keys (members.map Member.name) := by
  induction members generalizing index left keys with
  | nil => exact absurd rfl hne
  | cons member members ih =>
    have hmember := hnamed member List.mem_cons_self
    have hvalue := hvalues member List.mem_cons_self
    rw [List.map_cons, scanNames]
    cases members with
    | nil =>
      have hturn := memberTurn_eq hfuel (Or.inl rfl) keys hmember hvalue h
      by_cases hmet : keys.contains member.name = true
      · rw [if_pos hmet] at hturn ⊢
        exact run_failed hturn (by omega)
      · rw [if_neg hmet] at hturn ⊢
        exact run_done hturn (by omega)
    | cons next members =>
      have hsplit : source.drop index = member.text ++ 0x2c ::
          (separated ((next :: members).map Member.text) ++ 0x7d :: rest) := by
        rw [h]
        simp [separated]
      have hturn := memberTurn_eq hfuel (Or.inr rfl) keys hmember hvalue hsplit
      by_cases hmet : keys.contains member.name = true
      · rw [if_pos hmet] at hturn ⊢
        exact run_failed hturn (by omega)
      · rw [if_neg hmet] at hturn ⊢
        have hcomma := drop_append hsplit
        have hlt := lt_of_drop hcomma
        obtain ⟨left, rfl⟩ : ∃ n, left = n + 1 := ⟨left - 1, by omega⟩
        rw [run_again hturn]
        have hleft' : source.length - (index + member.text.length + 1) < left := by omega
        exact ih (List.cons_ne_nil next members)
          (fun other hother => hnamed other (List.mem_cons_of_mem member hother))
          (fun other hother => hvalues other (List.mem_cons_of_mem member hother))
          (drop_succ hcomma) hleft'

theorem run_emptyObject (hfuel : source.length < fuel) {index left : Nat} {gap rest : JsString}
    (hgap : Blank gap) (h : source.drop index = gap ++ 0x7d :: rest) (hleft : 0 < left) :
    run Stop.outOfTurns (memberTurn fuel source) left (index, []) = .ok () := by
  have hclose := drop_append h
  have hlt := lt_of_drop hclose
  have hturn : memberTurn fuel source (index, []) = .ok (.done ()) := by
    unfold memberTurn
    rw [if_pos (show index < source.length by omega), skipWhitespace_eq hfuel hgap h rfl]
    change (if _ then _ else _) = _
    rw [if_neg (not_le.mpr hlt), codeUnitAt_of_drop hclose]
    rfl
  exact run_done hturn hleft

theorem run_body (hfuel : source.length < fuel) {index : Nat} {body rest : JsString}
    {names : List JsString} (hbody : ObjectBody body names)
    (h : source.drop index = body ++ 0x7d :: rest) :
    run Stop.outOfTurns (memberTurn fuel source) fuel (index, []) = scanNames [] names := by
  rcases hbody with ⟨hgap, rfl⟩ | ⟨members, hne, hnamed, hvalues, rfl, rfl⟩
  · exact run_emptyObject hfuel hgap h (by omega)
  · exact run_members hfuel hne hnamed hvalues h (by omega)

/-- On the text of an object the scanner compares the names of its members. -/
theorem rejectDuplicateTopLevelKeys_eq (hfuel : source.length < fuel)
    {names : List JsString} (h : ObjectText source names) :
    rejectDuplicateTopLevelKeys fuel source = scanNames [] names := by
  obtain ⟨before, body, after, hbefore, hbody, _, htext⟩ := h
  have hstart : source.drop 0 = before ++ 0x7b :: (body ++ 0x7d :: after) := htext
  have hopen := drop_append hstart
  unfold rejectDuplicateTopLevelKeys
  rw [skipWhitespace_eq hfuel hbefore hstart rfl]
  change (if _ then _ else _) = _
  rw [if_neg (not_le.mpr (lt_of_drop hopen)), codeUnitAt_of_drop hopen]
  exact run_body hfuel hbody (drop_succ hopen)

theorem duplicates_thrown (source : JsString) (fuel : Nat) (hfuel : source.length < fuel) :
    (∀ names, ObjectText source names →
      ((∃ exception, rejectDuplicateTopLevelKeys fuel source = .error (.thrown exception)) ↔
        ¬ names.Nodup)) ∧
    rejectDuplicateTopLevelKeys fuel source ≠ .error .outOfRange ∧
    rejectDuplicateTopLevelKeys fuel source ≠ .error .outOfTurns := by
  have hends := rejectDuplicateTopLevelKeys_meets hfuel
  refine ⟨?_, ?_, ?_⟩
  · intro names hnames
    rw [rejectDuplicateTopLevelKeys_eq hfuel hnames, (scanNames_decides [] names).throws_iff]
    simp [Fresh]
  · intro hrange
    rw [hrange] at hends
    obtain ⟨_, hthrown⟩ := hends
    cases hthrown
  · intro hturns
    rw [hturns] at hends
    obtain ⟨_, hthrown⟩ := hends
    cases hthrown

/-- The second name is the first one with its letter escaped, and a string in the value
of the first member holds the marks that end a member. -/
def sampleMembers : List Member := [
  ⟨[], units "\"a\"", [], ⟨[], units "[\"\x7d,\"]", []⟩, units "a"⟩,
  ⟨units " ", units "\"\\u0061\"", [], ⟨units " ", units "0", []⟩, units "a"⟩]

def sampleSource : JsString := units "\x7b\"a\":[\"\x7d,\"], \"\\u0061\": 0\x7d"

theorem sample_name : Literal (units "\"a\"") (units "a") :=
  ⟨units "a", .unit rfl .nil, rfl⟩

theorem sample_escaped : Literal (units "\"\\u0061\"") (units "a") :=
  ⟨units "\\u0061", .unicode rfl .nil, rfl⟩

theorem sample_array : Value (units "[\"\x7d,\"]") := by
  have hstring : Literal (units "\"\x7d,\"") (units "\x7d,") :=
    ⟨units "\x7d,", .unit rfl (.unit rfl .nil), rfl⟩
  exact .array [⟨[], units "\"\x7d,\"", []⟩] (by simp) (by simp [Item.Spaced, Blank])
    (by simpa using .string hstring)

theorem sample_object : ObjectText sampleSource [units "a", units "a"] := by
  have hzero : Value (units "0") := .number ⟨[], units "0", [], [], Or.inl rfl, Or.inl rfl,
    Or.inl rfl, Or.inl rfl, rfl⟩
  have hnone : Blank [] := by simp [Blank]
  have hspace : Blank (units " ") := by
    intro u hu
    rcases List.mem_singleton.mp hu with rfl
    rfl
  refine ⟨[], separated (sampleMembers.map Member.text), [], hnone, Or.inr ⟨sampleMembers, ?_, ?_,
    ?_, rfl, rfl⟩, hnone, rfl⟩
  · simp [sampleMembers]
  · exact List.forall_mem_cons.mpr ⟨⟨hnone, sample_name, hnone, hnone, hnone⟩,
      List.forall_mem_singleton.mpr ⟨hspace, sample_escaped, hnone, hspace, hnone⟩⟩
  · exact List.forall_mem_cons.mpr ⟨sample_array, List.forall_mem_singleton.mpr hzero⟩

theorem sample_duplicate_thrown :
    ∃ exception, rejectDuplicateTopLevelKeys 100 sampleSource = .error (.thrown exception) :=
  ((duplicates_thrown sampleSource 100 (by decide)).1 _ sample_object).mpr (by decide)

end OresLocks.DartWire
