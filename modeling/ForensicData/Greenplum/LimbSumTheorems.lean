/-
ForensicData.Greenplum.LimbSumTheorems — the limb sums of a plan.

The reference reader takes a balanced `sum(...)` where one begins outside of a
longer word and passes one character elsewhere. What `str.find` skips holds no
beginning, so the loop returns the same from every state the reader reaches
(`SumStep.keeps`); it raises where a sum that begins is not balanced. The claim
about both scans of a plan is `plan_scans`.
-/
import ForensicData.Greenplum.PlanTextTheorems

namespace ForensicData.Greenplum

open Relation

variable {isalnum : Char → Bool}

/-! ## The reference reader -/

/-- Text whose parentheses are balanced. -/
inductive Balanced : List Char → Prop
  | nil : Balanced []
  | plain {character : Char} {text : List Char} (hopen : character ≠ '(')
    (hclose : character ≠ ')') (h : Balanced text) : Balanced (character :: text)
  | group {inner text : List Char} (hinner : Balanced inner) (h : Balanced text) :
    Balanced ('(' :: (inner ++ ')' :: text))

/-- `sum(`, a balanced text and the closing parenthesis. -/
def sumExpression (inner : List Char) : List Char := sumMarker ++ (inner ++ [')'])

/-- No word goes on after the text. -/
def EndsWord (isalnum : Char → Bool) (before : List Char) : Prop :=
  ∀ character ∈ before.getLast?, (isalnum character || character = '_') = false

/-- A sum begins here. -/
def SumBegins (isalnum : Char → Bool) (before rest : List Char) : Prop :=
  sumMarker <+: rest ∧ EndsWord isalnum before

structure SumState where
  before : List Char
  rest : List Char
  expressions : List (List Char)

inductive SumStep (isalnum : Char → Bool) : SumState → SumState → Prop
  | skip {before rest : List Char} {character : Char} {expressions : List (List Char)}
    (h : ¬ SumBegins isalnum before (character :: rest)) :
    SumStep isalnum ⟨before, character :: rest, expressions⟩
      ⟨before ++ [character], rest, expressions⟩
  | sum {before inner rest : List Char} {expressions : List (List Char)}
    (hword : EndsWord isalnum before) (hinner : Balanced inner) :
    SumStep isalnum ⟨before, sumExpression inner ++ rest, expressions⟩
      ⟨before ++ sumExpression inner, rest, expressions ++ [sumExpression inner]⟩

/-- The reference reader reads a text up to a state. -/
def SumReads (isalnum : Char → Bool) (text : List Char) (state : SumState) : Prop :=
  ReflTransGen (SumStep isalnum) ⟨[], text, []⟩ state

/-! ## Closing parentheses -/

theorem closingPosition_balanced {inner : List Char} (h : Balanced inner) (position : ℕ)
    {depth : Int} (hdepth : 0 < depth) (tail : List Char) :
    closingPosition position depth (inner ++ tail) =
      closingPosition (position + inner.length) depth tail := by
  induction h generalizing position depth tail with
  | nil => rfl
  | @plain character text hopen hclose h ih =>
    rw [List.cons_append, closingPosition, if_neg hopen, if_neg hclose, ih _ hdepth,
      List.length_cons]
    congr 1
    omega
  | @group inner text hinner h ihinner ih =>
    have hsplit : '(' :: (inner ++ ')' :: text) ++ tail =
        '(' :: (inner ++ (')' :: (text ++ tail))) := by simp
    have hclosed : ¬ (depth + 1 - 1 = 0) := by omega
    rw [hsplit, closingPosition, if_pos rfl, ihinner _ (by omega), closingPosition,
      if_neg (by decide), if_pos rfl, if_neg hclosed, Int.add_sub_cancel, ih _ hdepth]
    congr 1
    simp only [List.length_cons, List.length_append]
    omega

/-- A parenthesis that is found closes a balanced text. -/
theorem closingPosition_eq_some {text : List Char} {position stop n : ℕ}
    (h : closingPosition position (n + 1 : ℕ) text = some stop) :
    ∃ inner tail, text = inner ++ ')' :: tail ∧ Balanced inner ∧
      if n = 0 then stop = position + inner.length
      else closingPosition (position + inner.length + 1) n tail = some stop := by
  induction hlength : text.length using Nat.strongRecOn generalizing text position n with
  | ind length ih =>
  cases text with
  | nil => cases h
  | cons character text =>
    rw [List.length_cons] at hlength
    rw [closingPosition] at h
    by_cases hopen : character = '('
    · subst hopen
      rw [if_pos rfl, show ((n + 1 : ℕ) : Int) + 1 = ((n + 1 + 1 : ℕ) : Int) by omega] at h
      obtain ⟨inner, tail, rfl, hinner, hafter⟩ := ih text.length (by omega) h rfl
      rw [if_neg (by omega)] at hafter
      rw [List.length_append, List.length_cons] at hlength
      obtain ⟨more, rest, rfl, hmore, hstop⟩ := ih tail.length (by omega) hafter rfl
      refine ⟨'(' :: (inner ++ ')' :: more), rest, by simp, .group hinner hmore, ?_⟩
      have hlen : ('(' :: (inner ++ ')' :: more)).length = inner.length + more.length + 2 := by
        simp only [List.length_cons, List.length_append]
        omega
      rw [hlen]
      split at hstop
      · rw [if_pos ‹_›, hstop]
        omega
      · rw [if_neg ‹_›, ← hstop]
        congr 1
        omega
    · rw [if_neg hopen] at h
      by_cases hclose : character = ')'
      · subst hclose
        rw [if_pos rfl] at h
        refine ⟨[], text, rfl, .nil, ?_⟩
        by_cases hn : n = 0
        · subst hn
          rw [if_pos (by simp)] at h
          rw [if_pos rfl]
          simpa using h.symm
        · rw [if_neg (by omega), show ((n + 1 : ℕ) : Int) - 1 = (n : Int) by omega] at h
          rw [if_neg hn]
          exact h
      · rw [if_neg hclose] at h
        obtain ⟨inner, tail, rfl, hinner, hstop⟩ := ih text.length (by omega) h rfl
        refine ⟨character :: inner, tail, rfl, .plain hopen hclose hinner, ?_⟩
        rw [List.length_cons, show position + (inner.length + 1) = position + 1 + inner.length by
          omega]
        exact hstop

/-! ## The search -/

theorem findMarker_begin {text : List Char} {start : ℕ} (h : sumMarker <+: text) :
    findMarker start text = some start := by
  cases text with
  | nil => exact absurd (List.prefix_nil.mp h) (by decide)
  | cons character rest => rw [findMarker, if_pos (List.isPrefixOf_iff_prefix.mpr h)]

theorem findMarker_next {character : Char} {rest : List Char} {start : ℕ}
    (h : ¬ sumMarker <+: character :: rest) :
    findMarker start (character :: rest) = findMarker (start + 1) rest := by
  rw [findMarker, if_neg fun hprefix => h (List.isPrefixOf_iff_prefix.mp hprefix)]

section Rounds

variable {text : List Char} {start found stop : ℕ} {expressions : List (List Char)}

theorem limbSumExpressionsFrom_none (h : findMarker start (text.drop start) = none) :
    limbSumExpressionsFrom isalnum text start expressions = .ok expressions := by
  rw [limbSumExpressionsFrom]
  split
  · rfl
  · simp_all

theorem limbSumExpressionsFrom_word (h : findMarker start (text.drop start) = some found)
    (hword : followsWord isalnum text found = true) :
    limbSumExpressionsFrom isalnum text start expressions =
      limbSumExpressionsFrom isalnum text (found + 4) expressions := by
  rw [limbSumExpressionsFrom]
  split
  · simp_all
  · rename_i other hother
    rw [h, Option.some.injEq] at hother
    subst hother
    rw [if_pos hword]
    rfl

theorem limbSumExpressionsFrom_unbalanced (h : findMarker start (text.drop start) = some found)
    (hword : followsWord isalnum text found = false)
    (hclosing : closingPosition (found + 3) 0 (text.drop (found + 3)) = none) :
    limbSumExpressionsFrom isalnum text start expressions =
      .error (unbalancedLimbSum expressions.length found) := by
  rw [limbSumExpressionsFrom]
  split
  · simp_all
  · rename_i other hother
    rw [h, Option.some.injEq] at hother
    subst hother
    rw [if_neg (by simp [hword])]
    split
    · rfl
    · simp_all

theorem limbSumExpressionsFrom_sum (h : findMarker start (text.drop start) = some found)
    (hword : followsWord isalnum text found = false)
    (hclosing : closingPosition (found + 3) 0 (text.drop (found + 3)) = some stop) :
    limbSumExpressionsFrom isalnum text start expressions =
      limbSumExpressionsFrom isalnum text (stop + 1)
        (expressions ++ [(text.drop found).take (stop + 1 - found)]) := by
  rw [limbSumExpressionsFrom]
  split
  · simp_all
  · rename_i other hother
    rw [h, Option.some.injEq] at hother
    subst hother
    rw [if_neg (by simp [hword])]
    split
    · simp_all
    · rename_i position hposition
      rw [hclosing, Option.some.injEq] at hposition
      rw [hposition]

/-- The search goes on alike from positions with the same next marker. -/
theorem limbSumExpressionsFrom_congr {start' : ℕ}
    (h : findMarker start (text.drop start) = findMarker start' (text.drop start')) :
    limbSumExpressionsFrom isalnum text start expressions =
      limbSumExpressionsFrom isalnum text start' expressions := by
  cases hfound : findMarker start' (text.drop start') with
  | none =>
    rw [limbSumExpressionsFrom_none hfound, limbSumExpressionsFrom_none (h.trans hfound)]
  | some found =>
    cases hword : followsWord isalnum text found with
    | true =>
      rw [limbSumExpressionsFrom_word hfound hword,
        limbSumExpressionsFrom_word (h.trans hfound) hword]
    | false =>
      cases hclosing : closingPosition (found + 3) 0 (text.drop (found + 3)) with
      | none =>
        rw [limbSumExpressionsFrom_unbalanced hfound hword hclosing,
          limbSumExpressionsFrom_unbalanced (h.trans hfound) hword hclosing]
      | some stop =>
        rw [limbSumExpressionsFrom_sum hfound hword hclosing,
          limbSumExpressionsFrom_sum (h.trans hfound) hword hclosing]

end Rounds

theorem followsWord_iff {before rest : List Char} :
    followsWord isalnum (before ++ rest) before.length = false ↔ EndsWord isalnum before := by
  rcases List.eq_nil_or_concat' before with rfl | ⟨front, last, rfl⟩
  · simp [followsWord, EndsWord]
  · have hlast : (front ++ [last] ++ rest)[front.length]? = some last := by
      rw [List.append_assoc, List.getElem?_append_right (Nat.le_refl _)]
      simp
    rw [List.length_append, List.length_singleton]
    simp only [followsWord, hlast]
    simp [EndsWord]

/-! ## Steps -/

/-- The state is one of the text. -/
def SumState.Of (text : List Char) (state : SumState) : Prop := text = state.before ++ state.rest

/-- What the loop returns from a state. -/
def SumState.value (isalnum : Char → Bool) (text : List Char) (state : SumState) :
    Except GreenplumCatalogMetadataError (List (List Char)) :=
  limbSumExpressionsFrom isalnum text state.before.length state.expressions

theorem drop_length_append {before rest : List Char} :
    (before ++ rest).drop before.length = rest := by simp

/-- The marker of a sum that continues a word holds no other marker. -/
theorem value_of_word {before rest : List Char} {expressions : List (List Char)} {text : List Char}
    (htext : text = before ++ sumMarker ++ rest) (hword : ¬ EndsWord isalnum before) :
    limbSumExpressionsFrom isalnum text before.length expressions =
      limbSumExpressionsFrom isalnum text (before.length + 1) expressions := by
  have hmarker : sumMarker = ['s', 'u', 'm', '('] := rfl
  have hbegin : findMarker before.length (text.drop before.length) = some before.length := by
    rw [htext, List.append_assoc, drop_length_append]
    exact findMarker_begin (List.prefix_append _ _)
  have hfollows : followsWord isalnum text before.length = true := by
    rw [htext, List.append_assoc]
    cases h : followsWord isalnum (before ++ (sumMarker ++ rest)) before.length with
    | true => rfl
    | false => exact absurd (followsWord_iff.mp h) hword
  rw [limbSumExpressionsFrom_word hbegin hfollows]
  apply limbSumExpressionsFrom_congr
  have hnext : text.drop (before.length + 1) = 'u' :: 'm' :: '(' :: rest := by
    rw [htext, hmarker, List.append_assoc, List.drop_length_add_append]
    rfl
  have hlast : text.drop (before.length + 4) = rest := by
    rw [htext, hmarker, List.append_assoc, List.drop_length_add_append]
    rfl
  have hnone : ∀ (character : Char) (more : List Char), character ≠ 's' →
      ¬ sumMarker <+: character :: more := by
    intro character more hne hprefix
    rw [hmarker, List.cons_prefix_cons] at hprefix
    exact hne hprefix.1.symm
  rw [hnext, hlast, findMarker_next (hnone _ _ (by decide)), findMarker_next (hnone _ _ (by decide)),
    findMarker_next (hnone _ _ (by decide))]

theorem closingPosition_sum {inner rest : List Char} (h : Balanced inner) (start : ℕ) :
    closingPosition (start + 3) 0 ((sumExpression inner ++ rest).drop 3) =
      some (start + 4 + inner.length) := by
  have hdrop : (sumExpression inner ++ rest).drop 3 = '(' :: (inner ++ ')' :: rest) := by
    simp [sumExpression, sumMarker]
  rw [hdrop, closingPosition, if_pos rfl, closingPosition_balanced h _ (by omega), closingPosition,
    if_neg (by decide), if_pos rfl, if_pos (by omega)]

theorem length_sumExpression (inner : List Char) :
    (sumExpression inner).length = inner.length + 5 := by
  simp [sumExpression, sumMarker]

theorem SumStep.keeps {text : List Char} {state next : SumState}
    (hstep : SumStep isalnum state next) (hof : state.Of text) :
    next.Of text ∧ state.value isalnum text = next.value isalnum text := by
  cases hstep with
  | @skip before rest character expressions h =>
    have htext : text = before ++ character :: rest := hof
    refine ⟨by simpa [SumState.Of] using htext, ?_⟩
    simp only [SumState.value, List.length_append, List.length_singleton]
    by_cases hmarker : sumMarker <+: character :: rest
    · obtain ⟨more, hmore⟩ := hmarker
      apply value_of_word (show text = before ++ sumMarker ++ more by
        rw [htext, ← hmore, List.append_assoc])
      exact fun hword => h ⟨⟨more, hmore⟩, hword⟩
    · apply limbSumExpressionsFrom_congr
      rw [htext, drop_length_append, findMarker_next hmarker, List.drop_length_add_append]
      rfl
  | @sum before inner rest expressions hword hinner =>
    have htext : text = before ++ (sumExpression inner ++ rest) := hof
    refine ⟨by simpa [SumState.Of] using htext, ?_⟩
    have hbegin : findMarker before.length (text.drop before.length) = some before.length := by
      rw [htext, drop_length_append]
      apply findMarker_begin
      rw [sumExpression, List.append_assoc]
      exact List.prefix_append _ _
    have hfollows : followsWord isalnum text before.length = false := by
      rw [htext]
      exact followsWord_iff.mpr hword
    have hclosing : closingPosition (before.length + 3) 0 (text.drop (before.length + 3)) =
        some (before.length + 4 + inner.length) := by
      rw [htext, List.drop_length_add_append]
      exact closingPosition_sum hinner _
    have htake : (text.drop before.length).take (before.length + 4 + inner.length + 1 -
        before.length) = sumExpression inner := by
      rw [htext, drop_length_append, show before.length + 4 + inner.length + 1 - before.length =
        (sumExpression inner).length by rw [length_sumExpression]; omega, List.take_left]
    simp only [SumState.value]
    rw [limbSumExpressionsFrom_sum hbegin hfollows hclosing, htake, List.length_append,
      length_sumExpression]
    congr 1
    omega

/-! ## The limb sums -/

theorem SumReads.keeps {text : List Char} {state : SumState} (h : SumReads isalnum text state) :
    state.Of text ∧ limbSumExpressionsFrom isalnum text 0 [] = state.value isalnum text := by
  induction h with
  | refl => exact ⟨rfl, rfl⟩
  | tail _ hstep ih =>
    obtain ⟨hof, hvalue⟩ := ih
    obtain ⟨hnext, hsame⟩ := hstep.keeps hof
    exact ⟨hnext, hvalue.trans hsame⟩

/-- A sum begins here and does not end. -/
def UnbalancedSum (isalnum : Char → Bool) (before rest : List Char) : Prop :=
  SumBegins isalnum before rest ∧
    ∀ inner tail, rest = sumExpression inner ++ tail → ¬ Balanced inner

/-- A text is read to its end, or to a sum that is not balanced. -/
theorem SumReads.ends {text : List Char} {state : SumState} (h : SumReads isalnum text state) :
    (∃ before expressions, SumReads isalnum text ⟨before, [], expressions⟩) ∨
    ∃ before rest expressions, SumReads isalnum text ⟨before, rest, expressions⟩ ∧
      UnbalancedSum isalnum before rest := by
  induction hlength : state.rest.length using Nat.strongRecOn generalizing state with
  | ind length ih =>
  obtain ⟨before, rest, expressions⟩ := state
  cases rest with
  | nil => exact .inl ⟨before, expressions, h⟩
  | cons character rest =>
    by_cases hbegins : SumBegins isalnum before (character :: rest)
    · by_cases hbalanced : ∀ inner tail, character :: rest = sumExpression inner ++ tail →
        ¬ Balanced inner
      · exact .inr ⟨before, character :: rest, expressions, h, hbegins, hbalanced⟩
      · simp only [not_forall, not_not] at hbalanced
        obtain ⟨inner, tail, hsplit, hinner⟩ := hbalanced
        have hstep := h.tail (show SumStep isalnum ⟨before, character :: rest, expressions⟩ _ from
          hsplit ▸ SumStep.sum hbegins.2 hinner)
        have hshorter : tail.length < length := by
          rw [← hlength]
          simp only [hsplit, List.length_append, length_sumExpression]
          omega
        exact ih tail.length hshorter hstep rfl
    · rw [List.length_cons] at hlength
      exact ih rest.length (by omega) (h.tail (.skip hbegins)) rfl

theorem value_unbalanced {text before rest : List Char} {expressions : List (List Char)}
    (h : SumReads isalnum text ⟨before, rest, expressions⟩)
    (hunbalanced : UnbalancedSum isalnum before rest) :
    limbSumExpressionsFrom isalnum text 0 [] =
      .error (unbalancedLimbSum expressions.length before.length) := by
  obtain ⟨hof, hvalue⟩ := h.keeps
  have htext : text = before ++ rest := hof
  obtain ⟨⟨hmarker, hword⟩, hnone⟩ := hunbalanced
  have hbegin : findMarker before.length (text.drop before.length) = some before.length := by
    rw [htext, drop_length_append]
    exact findMarker_begin hmarker
  have hfollows : followsWord isalnum text before.length = false := by
    rw [htext]
    exact followsWord_iff.mpr hword
  have hclosing : closingPosition (before.length + 3) 0 (text.drop (before.length + 3)) = none := by
    obtain ⟨more, rfl⟩ := hmarker
    have hdrop : text.drop (before.length + 3) = '(' :: more := by
      rw [htext, List.drop_length_add_append]
      rfl
    rw [hdrop, closingPosition, if_pos rfl]
    cases hstop : closingPosition (before.length + 3 + 1) (0 + 1) more with
    | none => rfl
    | some stop =>
      obtain ⟨inner, tail, rfl, hinner, -⟩ :=
        closingPosition_eq_some (show closingPosition _ ((0 + 1 : ℕ) : Int) more = some stop from
          hstop)
      exact absurd hinner (hnone inner tail (by simp [sumExpression]))
  rw [hvalue, SumState.value, limbSumExpressionsFrom_unbalanced hbegin hfollows hclosing]

theorem value_of_reads {text before : List Char} {expressions : List (List Char)}
    (h : SumReads isalnum text ⟨before, [], expressions⟩) :
    before = text ∧ limbSumExpressionsFrom isalnum text 0 [] = .ok expressions := by
  obtain ⟨hof, hvalue⟩ := h.keeps
  have htext : text = before ++ [] := hof
  rw [List.append_nil] at htext
  subst htext
  refine ⟨rfl, ?_⟩
  rw [hvalue, SumState.value, limbSumExpressionsFrom_none]
  rw [List.drop_length]
  rfl

theorem limbSumExpressionsFrom_eq_ok {text : List Char} {expressions : List (List Char)} :
    limbSumExpressionsFrom isalnum text 0 [] = .ok expressions ↔
      SumReads isalnum text ⟨text, [], expressions⟩ := by
  constructor
  · intro h
    have hstart : SumReads isalnum text ⟨[], text, []⟩ := .refl
    rcases hstart.ends with ⟨before, found, hreads⟩ | ⟨before, rest, found, hreads, hunbalanced⟩
    · obtain ⟨rfl, hvalue⟩ := value_of_reads hreads
      rw [hvalue, Except.ok.injEq] at h
      rw [← h]
      exact hreads
    · rw [value_unbalanced hreads hunbalanced] at h
      cases h
  · intro h
    exact (value_of_reads h).2

/-- The sums of a text are returned when there are eight of them. -/
theorem greengageLimbSumExpressions_eq_ok {text : List Char} {expressions : List (List Char)} :
    greengageLimbSumExpressions isalnum text = .ok expressions ↔
      expressions.length = 8 ∧ SumReads isalnum text ⟨text, [], expressions⟩ := by
  rw [← limbSumExpressionsFrom_eq_ok]
  unfold greengageLimbSumExpressions
  cases limbSumExpressionsFrom isalnum text 0 [] with
  | error error => simp [bind, Except.bind]
  | ok found =>
    simp only [bind, Except.bind, Except.ok.injEq]
    constructor
    · intro h
      split at h
      · cases h
      · rw [Except.ok.injEq] at h
        subst h
        exact ⟨not_not.mp ‹_›, rfl⟩
    · intro h
      obtain ⟨hcount, rfl⟩ := h
      rw [if_neg (not_not.mpr hcount)]

/-! ## Both scans of a plan -/

/-- The masker equals the reference lexer: it returns exactly what the lexer
writes, a text of the same length without a quote, and raises exactly where a
quoted region does not end. The second scan returns the eight balanced sums of
its text, in order, or raises. -/
theorem plan_scans (isalnum : Char → Bool) :
    (∀ planText masked : List Char,
      greenplumPlanUnquotedText isalnum planText = .ok masked ↔
        PlanReads isalnum planText ⟨planText, [], masked⟩) ∧
    (∀ planText masked : List Char, greenplumPlanUnquotedText isalnum planText = .ok masked →
      masked.length = planText.length ∧ ∀ character ∈ masked, isQuote character = false) ∧
    (∀ planText : List Char,
      (∃ error, greenplumPlanUnquotedText isalnum planText = .error error) ↔
        ∃ before quote tail masked, PlanReads isalnum planText ⟨before, quote :: tail, masked⟩ ∧
          isQuote quote = true ∧ OpenRegion quote (EscapePrefix isalnum before quote) tail) ∧
    ∀ (text : List Char) (expressions : List (List Char)),
      greengageLimbSumExpressions isalnum text = .ok expressions ↔
        expressions.length = 8 ∧ SumReads isalnum text ⟨text, [], expressions⟩ := by
  refine ⟨fun planText masked => greenplumPlanUnquotedText_eq_ok, ?_, ?_,
    fun text expressions => greengageLimbSumExpressions_eq_ok⟩
  · intro planText masked h
    have hreads := greenplumPlanUnquotedText_eq_ok.mp h
    exact ⟨hreads.keeps.1.length_eq, hreads.masked_plain⟩
  · intro planText
    constructor
    · intro h
      obtain ⟨error, h⟩ := h
      obtain ⟨before, quote, tail, masked, hreads, hquote, hopen, -⟩ :=
        greenplumPlanUnquotedText_eq_error.mp h
      exact ⟨before, quote, tail, masked, hreads, hquote, hopen⟩
    · intro h
      obtain ⟨before, quote, tail, masked, hreads, hquote, hopen⟩ := h
      exact ⟨_, value_open hreads hquote hopen⟩

end ForensicData.Greenplum
