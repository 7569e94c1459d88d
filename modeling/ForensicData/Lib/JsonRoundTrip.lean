/-
ForensicData.Lib.JsonRoundTrip — rendered values are read back.

The compact text of a value spells the tree of that value (`document_render`),
so a reader gives back what its hooks make of that tree.
-/
import ForensicData.Lib.IntegerText
import ForensicData.Lib.JsonReaderTheorems

namespace ForensicData.Lib.JsonText

/-! ## Tokens -/

theorem stringUnit_escapeChar (c : Char) (rest : Text) :
    stringUnit (Text.ofChars (Json.escapeChar c) ++ rest) = some (some (.scalar c), rest) := by
  unfold Json.escapeChar
  split_ifs with hquote hslash hcontrol
  · rw [hquote]
    rfl
  · rw [hslash]
    rfl
  · have hread : ∀ n < 32,
        stringUnit (Text.ofChars ('\\' :: Json.controlEscape n) ++ rest)
          = some (some (.scalar (Char.ofNat n)), rest) := by
      intro n hn
      interval_cases n <;> rfl
    rw [hread c.toNat hcontrol, Char.ofNat_toNat]
  · show stringUnit (.scalar c :: rest) = _
    rw [stringUnit]
    · simp [CodePoint.isControl, hcontrol]
    · intro h
      cases h
      exact hquote rfl
    · intro h
      cases h
      exact hslash rfl

theorem stringBody_escaped (cs : List Char) (rest : Text) :
    StringBody (Text.ofChars (Json.escaped cs) ++ rest) (Text.ofChars cs) rest := by
  induction cs with
  | nil => exact .close rfl
  | cons c cs ih =>
    have hsplit : Text.ofChars (Json.escaped (c :: cs)) ++ rest
        = Text.ofChars (Json.escapeChar c) ++ (Text.ofChars (Json.escaped cs) ++ rest) := by
      simp [Json.escaped]
    rw [hsplit]
    exact .unit (stringUnit_escapeChar c _) ih

theorem intPart_toDigits (n : ℕ) : IntPart (Nat.toDigits 10 n) := by
  cases hdigits : Nat.toDigits 10 n with
  | nil => exact absurd hdigits Nat.toDigits_ne_nil
  | cons c cs =>
    have hall : ∀ d ∈ c :: cs, isDigitOf 10 d = true := fun d hd =>
      isDigitOf_of_mem_toDigits (hdigits ▸ hd)
    by_cases hzero : n = 0
    · rw [hzero] at hdigits
      cases hdigits
      exact .zero
    · have hc := head_toDigits (Nat.pos_of_ne_zero hzero) hdigits
      exact .digits (hall c List.mem_cons_self) hc fun d hd => hall d (List.mem_cons_of_mem _ hd)

theorem intToken_renderInt (value : Int) : IntToken (Json.renderInt value) := by
  unfold Json.renderInt
  split
  · exact .negative (intPart_toDigits _)
  · exact .plain (intPart_toDigits _)

/-! ## Values -/

mutual

/-- The tree of a value. -/
def ofJson : Json → Tree
  | .null => .null
  | .bool value => .bool value
  | .int value => .int (Json.renderInt value)
  | .string value => .string (Text.ofString value)
  | .array items => .array (ofItems items)
  | .object members => .object (ofMembers members)

def ofItems : List Json → List Tree
  | [] => []
  | item :: items => ofJson item :: ofItems items

def ofMembers : List (String × Json) → List (Text × Tree)
  | [] => []
  | (name, value) :: members => (Text.ofString name, ofJson value) :: ofMembers members

end

theorem blanks_refl (text : Text) : Blanks text text := ⟨[], by simp, rfl⟩

mutual

theorem spells_render (v : Json) (rest : Text) :
    Spells (.value (ofJson v)) (Text.ofChars (Json.render v) ++ rest) rest := by
  match v with
  | .null =>
    rw [Json.render]
    exact .word (by simp [words, ofJson])
  | .bool true =>
    rw [Json.render]
    exact .word (by simp [words, ofJson])
  | .bool false =>
    rw [Json.render]
    exact .word (by simp [words, ofJson])
  | .int value => exact .number (.int (intToken_renderInt value))
  | .string value => exact .string (stringBody_escaped value.toList rest)
  | .array [] => exact .emptyArray (blanks_refl _)
  | .array (item :: items) =>
    rw [Json.render, Text.ofChars_cons, List.cons_append, Text.ofChars_append, List.append_assoc]
    exact .array (blanks_refl _) (spells_renderItems items rest (spells_render item _))
  | .object [] => exact .emptyObject (blanks_refl _)
  | .object ((name, value) :: members) =>
    rw [Json.render, Json.renderMember, Json.renderString, Text.ofChars_cons, List.cons_append,
      Text.ofChars_append, List.append_assoc, Text.ofChars_append, List.append_assoc,
      Text.ofChars_cons, Text.ofChars_cons, List.cons_append, List.cons_append]
    exact .object (blanks_refl _) (spells_renderMembers members rest
      (stringBody_escaped name.toList _) (spells_render value _))

/-- The items after one that is spelled. -/
theorem spells_renderItems (items : List Json) (rest : Text) {item : Tree} {text : Text}
    (h : Spells (.value item) text (Text.ofChars (Json.renderItems items) ++ rest)) :
    Spells (.items (item :: ofItems items)) text rest := by
  match items with
  | [] => exact .lastItem h (blanks_refl _)
  | next :: items =>
    rw [Json.renderItems, Text.ofChars_cons, List.cons_append, Text.ofChars_append,
      List.append_assoc] at h
    exact .item h (blanks_refl _) (blanks_refl _)
      (spells_renderItems items rest (spells_render next _))

/-- The members after one that is spelled. -/
theorem spells_renderMembers (members : List (String × Json)) (rest : Text) {name : Text}
    {value : Tree} {text inner : Text} (hname : StringBody text name (.scalar ':' :: inner))
    (hvalue : Spells (.value value) inner (Text.ofChars (Json.renderMembers members) ++ rest)) :
    Spells (.members ((name, value) :: ofMembers members)) (.scalar '"' :: text) rest := by
  match members with
  | [] => exact .lastMember hname (blanks_refl _) (blanks_refl _) hvalue (blanks_refl _)
  | (next, other) :: members =>
    rw [Json.renderMembers, Json.renderMember, Json.renderString, Text.ofChars_cons,
      List.cons_append, Text.ofChars_append, List.append_assoc, Text.ofChars_append,
      List.append_assoc, Text.ofChars_cons, Text.ofChars_cons, List.cons_append,
      List.cons_append] at hvalue
    exact .member hname (blanks_refl _) (blanks_refl _) hvalue (blanks_refl _) (blanks_refl _)
      (spells_renderMembers members rest (stringBody_escaped next.toList _)
        (spells_render other _))

end

/-- The text of a value spells the tree of that value. -/
theorem document_render (v : Json) : Document (Text.ofChars (Json.render v)) (ofJson v) := by
  refine ⟨Text.ofChars (Json.render v), [], blanks_refl _, ?_, blanks_refl _⟩
  simpa using spells_render v []

end ForensicData.Lib.JsonText
