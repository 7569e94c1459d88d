/-
ForensicData.Greenplum.PlanText — quoted text and sums in a Greenplum plan.

A plan is read as text: what stands in quotes is blanked, and in the rest the
limb sums are found by their balanced parentheses. Texts are lists of
characters, positions count from the left. `str.isalnum` is a parameter: no
result depends on which characters it takes for letters and digits.
-/
import Mathlib.Data.Nat.Notation
import ForensicData.Text

namespace ForensicData.Greenplum

/-- `GreenplumCatalogMetadataError`. -/
structure GreenplumCatalogMetadataError where
  message : String
  deriving DecidableEq, Repr

variable (isalnum : Char → Bool)

/-! ## Quoted text -/

/-- `character in {"'", '"'}`. -/
def isQuote (character : Char) : Bool := character = '\'' || character = '"'

/-- A character that continues an identifier. -/
def continuesIdentifier (character : Char) : Bool :=
  isalnum character || character = '_' || character = '$'

/-- No identifier ends before the position. -/
def startsWord (text : List Char) : ℕ → Bool
  | 0 => true
  | first + 1 => text[first]?.all fun character => !continuesIdentifier isalnum character

/-- The quote at a position opens an escape string: an `E` that is not the end
of a longer word stands before it. -/
def opensEscapeString (text : List Char) (position : ℕ) : Bool :=
  match text[position]?, position with
  | some '\'', before + 1 =>
    (text[before]? = some 'e' || text[before]? = some 'E') && startsWord isalnum text before
  | _, _ => false

/-- `masked.seek(start)`, `masked.write(" " * (stop - start))`. -/
def blank (masked : List Char) (start stop : ℕ) : List Char :=
  masked.take start ++ List.replicate (stop - start) ' ' ++ masked.drop stop

def unterminatedQuotedText (quote : Char) (quoteStart : ℕ) : GreenplumCatalogMetadataError where
  message :=
    let quoteKind := if quote = '\'' then "string literal" else "quoted identifier"
    "Greenplum canonical fingerprint plan contains unterminated quoted text: " ++
      s!"quote_kind='{quoteKind}', start_offset={quoteStart}"

/-- The loop of `_greenplum_plan_unquoted_text`. Inside quoted text, `quoted` is
the quote, where it stands and whether it opened an escape string. -/
def unquotedTextFrom (text : List Char) (position : ℕ) (quoted : Option (Char × ℕ × Bool))
    (masked : List Char) : Except GreenplumCatalogMetadataError (List Char) :=
  if h : position < text.length then
    let character := text[position]
    match quoted with
    | none =>
      if isQuote character = false then unquotedTextFrom text (position + 1) none masked
      else
        let escapeString := opensEscapeString isalnum text position
        unquotedTextFrom text (position + 1) (some (character, position, escapeString)) masked
    | some (quote, quoteStart, escapeString) =>
      if quote = '\'' ∧ escapeString = true ∧ character = '\\' then
        if position + 1 < text.length then unquotedTextFrom text (position + 2) quoted masked
        else unquotedTextFrom text (position + 1) quoted masked
      else if character = quote then
        if text[position + 1]? = some quote then
          unquotedTextFrom text (position + 2) quoted masked
        else unquotedTextFrom text (position + 1) none (blank masked quoteStart (position + 1))
      else unquotedTextFrom text (position + 1) quoted masked
  else
    match quoted with
    | none => .ok masked
    | some (quote, quoteStart, _) => .error (unterminatedQuotedText quote quoteStart)
termination_by text.length - position

/-- `_greenplum_plan_unquoted_text`. -/
def greenplumPlanUnquotedText (planText : List Char) :
    Except GreenplumCatalogMetadataError (List Char) :=
  unquotedTextFrom isalnum planText 0 none planText

/-! ## Limb sums -/

/-- `marker`. -/
def sumMarker : List Char := ['s', 'u', 'm', '(']

/-- `text.find(marker, start)`, with the text from `start` on. -/
def findMarker (start : ℕ) : List Char → Option ℕ
  | [] => none
  | character :: rest =>
    if sumMarker.isPrefixOf (character :: rest) = true then some start
    else findMarker (start + 1) rest

/-- The inner loop of `_greengage_limb_sum_expressions` over the text from
`position` on: where the parenthesis that closes the sum stands. -/
def closingPosition (position : ℕ) (depth : Int) : List Char → Option ℕ
  | [] => none
  | character :: rest =>
    if character = '(' then closingPosition (position + 1) (depth + 1) rest
    else if character = ')' then
      if depth - 1 = 0 then some position else closingPosition (position + 1) (depth - 1) rest
    else closingPosition (position + 1) depth rest

def unbalancedLimbSum (limbIndex startOffset : ℕ) : GreenplumCatalogMetadataError where
  message :=
    "Greengage canonical fingerprint plan contains an unbalanced lower-subtree " ++
      s!"limb sum expression: limb_index={limbIndex}, start_offset={startOffset}"

def limbSumCount (actual : ℕ) : GreenplumCatalogMetadataError where
  message :=
    "Greengage canonical fingerprint plan must contain exactly eight lower-subtree " ++
      s!"limb sum expressions: actual={actual}"

/-- The character before a position continues a word. -/
def followsWord (text : List Char) : ℕ → Bool
  | 0 => false
  | before + 1 => text[before]?.any fun preceding => isalnum preceding || preceding = '_'

theorem le_findMarker {text : List Char} {start found : ℕ} (h : findMarker start text = some found) :
    start ≤ found ∧ found < start + text.length := by
  induction text generalizing start with
  | nil => cases h
  | cons character rest ih =>
    rw [findMarker] at h
    split at h
    · rw [Option.some.injEq] at h
      simp only [List.length_cons]
      omega
    · have hrest := ih h
      simp only [List.length_cons]
      omega

theorem le_closingPosition {text : List Char} {position stop : ℕ} {depth : Int}
    (h : closingPosition position depth text = some stop) : position ≤ stop := by
  induction text generalizing position depth with
  | nil => cases h
  | cons character rest ih =>
    rw [closingPosition] at h
    split at h
    · exact Nat.le_of_succ_le (ih h)
    · split at h
      · split at h
        · rw [Option.some.injEq] at h
          exact Nat.le_of_eq h
        · exact Nat.le_of_succ_le (ih h)
      · exact Nat.le_of_succ_le (ih h)

/-- The outer loop of `_greengage_limb_sum_expressions`. -/
def limbSumExpressionsFrom (text : List Char) (searchStart : ℕ) (expressions : List (List Char)) :
    Except GreenplumCatalogMetadataError (List (List Char)) :=
  match _hfound : findMarker searchStart (text.drop searchStart) with
  | none => .ok expressions
  | some start =>
    if followsWord isalnum text start = true then
      limbSumExpressionsFrom text (start + sumMarker.length) expressions
    else
      match _hclosing : closingPosition (start + 3) 0 (text.drop (start + 3)) with
      | none => .error (unbalancedLimbSum expressions.length start)
      | some position =>
        limbSumExpressionsFrom text (position + 1)
          (expressions ++ [(text.drop start).take (position + 1 - start)])
termination_by text.length - searchStart
decreasing_by
  · have hle := le_findMarker _hfound
    rw [List.length_drop] at hle
    have hmarker : sumMarker.length = 4 := rfl
    omega
  · have hle := le_findMarker _hfound
    have hclose := le_closingPosition _hclosing
    rw [List.length_drop] at hle
    omega

/-- `_greengage_limb_sum_expressions`. -/
def greengageLimbSumExpressions (unquotedLowerAggregateSubtree : List Char) :
    Except GreenplumCatalogMetadataError (List (List Char)) := do
  let expressions ← limbSumExpressionsFrom isalnum unquotedLowerAggregateSubtree 0 []
  if expressions.length ≠ 8 then .error (limbSumCount expressions.length)
  else .ok expressions

end ForensicData.Greenplum
