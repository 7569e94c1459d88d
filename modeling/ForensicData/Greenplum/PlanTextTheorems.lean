/-
ForensicData.Greenplum.PlanTextTheorems — the masker and the sums of a plan.

The masker is compared with a reference lexer that reads a plan in steps: one
character outside of quotes, or one quoted region with its closing quote. The
value of the loop does not change along a step, and it is given away where no
step is left: at the end of the text, or at a quote whose region does not end
(`greenplumPlanUnquotedText_eq_ok`, `greenplumPlanUnquotedText_eq_error`).
The sums are compared with a second reader of the same kind.
-/
import ForensicData.Greenplum.PlanText
import Mathlib.Data.List.Basic
import Mathlib.Logic.Relation

namespace ForensicData.Greenplum

open Relation

variable {isalnum : Char → Bool}

/-! ## The reference lexer -/

/-- What follows an opening quote, its closing quote included: a quote is
doubled, and in an escape string any character may follow a backslash. -/
inductive QuotedRegion (quote : Char) (escapes : Prop) : List Char → Prop
  | close : QuotedRegion quote escapes [quote]
  | doubled {region : List Char} (h : QuotedRegion quote escapes region) :
    QuotedRegion quote escapes (quote :: quote :: region)
  | escaped (character : Char) {region : List Char} (hescapes : escapes)
    (h : QuotedRegion quote escapes region) :
    QuotedRegion quote escapes ('\\' :: character :: region)
  | plain {character : Char} {region : List Char} (hquote : character ≠ quote)
    (hescape : ¬ (escapes ∧ character = '\\')) (h : QuotedRegion quote escapes region) :
    QuotedRegion quote escapes (character :: region)

/-- A single quote after a lone `e` or `E` opens an escape string. -/
def EscapePrefix (isalnum : Char → Bool) (before : List Char) (quote : Char) : Prop :=
  quote = '\'' ∧ ∃ front, (before = front ++ ['e'] ∨ before = front ++ ['E']) ∧
    ∀ character ∈ front.getLast?, continuesIdentifier isalnum character = false

/-- How far a plan has been read: the text before, the text to come and the
mask of the text before. -/
structure PlanState where
  before : List Char
  rest : List Char
  masked : List Char

/-- One step of the reference lexer. A region ends where no second quote
follows its closing quote. -/
inductive PlanStep (isalnum : Char → Bool) : PlanState → PlanState → Prop
  | plain {before rest masked : List Char} {character : Char} (h : isQuote character = false) :
    PlanStep isalnum ⟨before, character :: rest, masked⟩
      ⟨before ++ [character], rest, masked ++ [character]⟩
  | quoted {before region rest masked : List Char} {quote : Char} (hquote : isQuote quote = true)
    (hregion : QuotedRegion quote (EscapePrefix isalnum before quote) region)
    (hend : rest.head? ≠ some quote) :
    PlanStep isalnum ⟨before, quote :: (region ++ rest), masked⟩
      ⟨before ++ quote :: region, rest, masked ++ List.replicate (region.length + 1) ' '⟩

/-- The reference lexer reads a plan up to a state. -/
def PlanReads (isalnum : Char → Bool) (planText : List Char) (state : PlanState) : Prop :=
  ReflTransGen (PlanStep isalnum) ⟨[], planText, []⟩ state

/-- No quoted region that begins here ends. -/
def OpenRegion (quote : Char) (escapes : Prop) (tail : List Char) : Prop :=
  ∀ region rest, tail = region ++ rest → QuotedRegion quote escapes region →
    rest.head? = some quote

/-! ## Single positions -/

section Positions

variable {text front rest masked : List Char} {character : Char}

theorem unquotedTextFrom_end (quoted : Option (Char × ℕ × Bool)) (h : text.length = front.length) :
    unquotedTextFrom isalnum text front.length quoted masked =
      match quoted with
      | none => .ok masked
      | some (quote, quoteStart, _) => .error (unterminatedQuotedText quote quoteStart) :=
  (unquotedTextFrom.eq_def isalnum text front.length quoted masked).trans (dif_neg (by omega))

theorem unquotedTextFrom_plain (htext : text = front ++ character :: rest)
    (h : isQuote character = false) :
    unquotedTextFrom isalnum text front.length none masked =
      unquotedTextFrom isalnum text (front.length + 1) none masked := by
  subst htext
  rw [unquotedTextFrom.eq_def isalnum _ front.length none masked, dif_pos (by simp)]
  simp [h]

theorem unquotedTextFrom_open (htext : text = front ++ character :: rest)
    (h : isQuote character = true) :
    unquotedTextFrom isalnum text front.length none masked =
      unquotedTextFrom isalnum text (front.length + 1)
        (some (character, front.length, opensEscapeString isalnum text front.length)) masked := by
  subst htext
  rw [unquotedTextFrom.eq_def isalnum _ front.length none masked, dif_pos (by simp)]
  simp [h]

variable {quote : Char} {quoteStart : ℕ} {escapeString : Bool}

/-- One character inside of quotes. -/
theorem unquotedTextFrom_inside (htext : text = front ++ character :: rest)
    (hescapes : escapeString = true → quote = '\'') :
    unquotedTextFrom isalnum text front.length (some (quote, quoteStart, escapeString)) masked =
      if escapeString = true ∧ character = '\\' then
        if rest = [] then
          unquotedTextFrom isalnum text (front.length + 1)
            (some (quote, quoteStart, escapeString)) masked
        else
          unquotedTextFrom isalnum text (front.length + 2)
            (some (quote, quoteStart, escapeString)) masked
      else if character = quote then
        if rest.head? = some quote then
          unquotedTextFrom isalnum text (front.length + 2)
            (some (quote, quoteStart, escapeString)) masked
        else
          unquotedTextFrom isalnum text (front.length + 1) none
            (blank masked quoteStart (front.length + 1))
      else
        unquotedTextFrom isalnum text (front.length + 1)
          (some (quote, quoteStart, escapeString)) masked := by
  subst htext
  have hnext : (front ++ character :: rest)[front.length + 1]? = rest.head? := by
    rw [List.getElem?_append_right (by omega)]
    simp [List.head?_eq_getElem?]
  have hmore : front.length + 1 < (front ++ character :: rest).length ↔ rest ≠ [] := by
    rw [List.length_append, List.length_cons, ne_eq, ← List.length_eq_zero_iff]
    omega
  have hquote : (quote = '\'' ∧ escapeString = true ∧ character = '\\') ↔
      (escapeString = true ∧ character = '\\') := by
    constructor
    · intro h
      exact h.2
    · intro h
      exact ⟨hescapes h.1, h⟩
  have hbound : front.length < (front ++ character :: rest).length := by simp
  have hcharacter : (front ++ character :: rest)[front.length] = character := by simp
  rw [unquotedTextFrom.eq_def isalnum _ front.length (some _) masked, dif_pos hbound]
  simp only [hcharacter, hnext, hquote, hmore, ne_eq, ite_not]

/-! ## Regions -/

/-- A region is read to its end, and blanked from its opening quote on. -/
theorem unquotedTextFrom_region {region : List Char}
    (hregion : QuotedRegion quote (escapeString = true) region)
    (htext : text = front ++ (region ++ rest)) (hend : rest.head? ≠ some quote)
    (hescapes : escapeString = true → quote = '\'') :
    unquotedTextFrom isalnum text front.length (some (quote, quoteStart, escapeString)) masked =
      unquotedTextFrom isalnum text (front.length + region.length) none
        (blank masked quoteStart (front.length + region.length)) := by
  induction hregion generalizing front with
  | close =>
    rw [unquotedTextFrom_inside htext hescapes]
    have hplain : ¬ (escapeString = true ∧ quote = '\\') := by
      intro h
      rw [hescapes h.1] at h
      exact absurd h.2 (by decide)
    simp [hplain, hend]
  | @doubled region h ih =>
    have hplain : ¬ (escapeString = true ∧ quote = '\\') := by
      intro h
      rw [hescapes h.1] at h
      exact absurd h.2 (by decide)
    have hnext := ih (show text = (front ++ [quote, quote]) ++ (region ++ rest) by
      simpa using htext)
    rw [show (front ++ [quote, quote]).length = front.length + 2 by simp,
      show front.length + 2 + region.length = front.length + (quote :: quote :: region).length by
        simp only [List.length_cons]; omega] at hnext
    rw [unquotedTextFrom_inside htext hescapes, if_neg hplain, if_pos rfl]
    exact (if_pos rfl).trans hnext
  | @escaped character region hescape h ih =>
    have hnext := ih (show text = (front ++ ['\\', character]) ++ (region ++ rest) by
      simpa using htext)
    rw [show (front ++ ['\\', character]).length = front.length + 2 by simp,
      show front.length + 2 + region.length = front.length + ('\\' :: character :: region).length by
        simp only [List.length_cons]; omega] at hnext
    rw [unquotedTextFrom_inside htext hescapes, if_pos ⟨hescape, rfl⟩, if_neg (by simp)]
    exact hnext
  | @plain character region hquote hescape h ih =>
    have hnext := ih (show text = (front ++ [character]) ++ (region ++ rest) by
      simpa using htext)
    rw [show (front ++ [character]).length = front.length + 1 by simp,
      show front.length + 1 + region.length = front.length + (character :: region).length by
        simp only [List.length_cons]; omega] at hnext
    rw [unquotedTextFrom_inside htext hescapes, if_neg hescape, if_neg hquote]
    exact hnext

/-- Where no region ends, the loop runs to the end of the text. -/
theorem unquotedTextFrom_openRegion {tail : List Char}
    (hopen : OpenRegion quote (escapeString = true) tail) (htext : text = front ++ tail)
    (hescapes : escapeString = true → quote = '\'') :
    unquotedTextFrom isalnum text front.length (some (quote, quoteStart, escapeString)) masked =
      .error (unterminatedQuotedText quote quoteStart) := by
  induction hlength : tail.length using Nat.strongRecOn generalizing front tail with
  | ind length ih =>
  cases tail with
  | nil => rw [unquotedTextFrom_end _ (by rw [htext, List.append_nil])]
  | cons character tail =>
    rw [List.length_cons] at hlength
    by_cases hescape : escapeString = true ∧ character = '\\'
    · obtain ⟨hflag, rfl⟩ := hescape
      rw [unquotedTextFrom_inside htext hescapes, if_pos ⟨hflag, rfl⟩]
      cases tail with
      | nil =>
        rw [if_pos rfl]
        have hnext : unquotedTextFrom isalnum text (front ++ ['\\']).length
            (some (quote, quoteStart, escapeString)) masked =
              .error (unterminatedQuotedText quote quoteStart) :=
          unquotedTextFrom_end _ (by rw [htext])
        simpa using hnext
      | cons next tail =>
        rw [if_neg (by simp)]
        have hrest : OpenRegion quote (escapeString = true) tail := by
          intro region rest hsplit hregion
          exact hopen _ rest (by rw [hsplit]; rfl) (.escaped next hflag hregion)
        have hnext := ih tail.length (by rw [← hlength, List.length_cons]; omega) hrest
          (show text = (front ++ ['\\', next]) ++ tail by simpa using htext) rfl
        rw [show (front ++ ['\\', next]).length = front.length + 2 by simp] at hnext
        exact hnext
    · rw [unquotedTextFrom_inside htext hescapes, if_neg hescape]
      by_cases hquote : character = quote
      · subst hquote
        rw [if_pos rfl, if_pos (hopen [character] tail rfl .close)]
        cases tail with
        | nil => exact absurd (hopen [character] [] rfl .close) (by simp)
        | cons next tail =>
          have hsame : next = character := by
            simpa using hopen [character] (next :: tail) rfl .close
          subst hsame
          have hrest : OpenRegion next (escapeString = true) tail := by
            intro region rest hsplit hregion
            exact hopen _ rest (by rw [hsplit]; rfl) (.doubled hregion)
          have hnext := ih tail.length (by rw [← hlength, List.length_cons]; omega) hrest
            (show text = (front ++ [next, next]) ++ tail by simpa using htext) rfl
          rw [show (front ++ [next, next]).length = front.length + 2 by simp] at hnext
          exact hnext
      · rw [if_neg hquote]
        have hrest : OpenRegion quote (escapeString = true) tail := by
          intro region rest hsplit hregion
          exact hopen _ rest (by rw [hsplit]; rfl) (.plain hquote hescape hregion)
        have hnext := ih tail.length (by omega) hrest
          (show text = (front ++ [character]) ++ tail by simpa using htext) rfl
        rw [show (front ++ [character]).length = front.length + 1 by simp] at hnext
        exact hnext

end Positions

/-- The flag of the loop is the condition of the reference lexer. -/
theorem opensEscapeString_iff {before rest : List Char} {quote : Char} :
    opensEscapeString isalnum (before ++ quote :: rest) before.length = true ↔
      EscapePrefix isalnum before quote := by
  rcases List.eq_nil_or_concat' before with rfl | ⟨front, last, rfl⟩
  · simp [opensEscapeString, EscapePrefix]
  · have hquote : (front ++ [last] ++ quote :: rest)[front.length + 1]? = some quote := by
      rw [List.getElem?_append_right (by simp)]
      simp
    have hlast : (front ++ [last] ++ quote :: rest)[front.length]? = some last := by
      rw [List.append_assoc, List.getElem?_append_right (Nat.le_refl _)]
      simp
    have hfront : startsWord isalnum (front ++ [last] ++ quote :: rest) front.length = true ↔
        ∀ character ∈ front.getLast?, continuesIdentifier isalnum character = false := by
      rcases List.eq_nil_or_concat' front with rfl | ⟨first, word, rfl⟩
      · simp [startsWord]
      · have hword : (first ++ [word] ++ [last] ++ quote :: rest)[first.length]? = some word := by
          rw [List.append_assoc, List.append_assoc, List.getElem?_append_right (Nat.le_refl _)]
          simp
        rw [List.length_append, List.length_singleton]
        simp only [startsWord, hword]
        simp
    unfold opensEscapeString EscapePrefix
    rw [List.length_append, List.length_singleton, hquote]
    constructor
    · intro h
      split at h
      case h_2 => cases h
      case h_1 before hcharacter hlength =>
        rw [Option.some.injEq] at hcharacter
        have hbefore : before = front.length := by omega
        subst hbefore
        rw [hlast, Bool.and_eq_true, hfront] at h
        refine ⟨hcharacter, front, ?_, h.2⟩
        simpa using h.1
    · intro h
      obtain ⟨rfl, front', hprefix, hword⟩ := h
      have hsame : front' = front ∧ (last = 'e' ∨ last = 'E') := by
        rcases hprefix with hprefix | hprefix
        · obtain ⟨hfront, hlast⟩ := List.append_inj' hprefix rfl
          exact ⟨hfront.symm, .inl (by simpa using hlast)⟩
        · obtain ⟨hfront, hlast⟩ := List.append_inj' hprefix rfl
          exact ⟨hfront.symm, .inr (by simpa using hlast)⟩
      obtain ⟨rfl, hletter⟩ := hsame
      simp only [hlast, Bool.and_eq_true, Bool.or_eq_true, decide_eq_true_eq, Option.some.injEq]
      exact ⟨hletter, hfront.mpr hword⟩

theorem blank_region {masked region rest : List Char} {quote : Char} :
    blank (masked ++ quote :: (region ++ rest)) masked.length
        (masked.length + 1 + region.length) =
      masked ++ List.replicate (region.length + 1) ' ' ++ rest := by
  unfold blank
  have htake : (masked ++ quote :: (region ++ rest)).take masked.length = masked := by simp
  have hdrop : (masked ++ quote :: (region ++ rest)).drop (masked.length + 1 + region.length) =
      rest := by
    rw [show masked.length + 1 + region.length = masked.length + (region.length + 1) by omega,
      List.drop_append, List.drop_of_length_le (by omega)]
    simp
  rw [htake, hdrop, show masked.length + 1 + region.length - masked.length = region.length + 1 by
    omega]

/-! ## Steps -/

/-- The state is one of the text, with a mask as long as what it masks. -/
structure PlanState.Of (text : List Char) (state : PlanState) : Prop where
  text_eq : text = state.before ++ state.rest
  length_eq : state.masked.length = state.before.length

/-- What the loop returns from a state. -/
def PlanState.value (isalnum : Char → Bool) (text : List Char) (state : PlanState) :
    Except GreenplumCatalogMetadataError (List Char) :=
  unquotedTextFrom isalnum text state.before.length none (state.masked ++ state.rest)

theorem PlanStep.keeps {text : List Char} {state next : PlanState}
    (hstep : PlanStep isalnum state next) (hof : state.Of text) :
    next.Of text ∧ state.value isalnum text = next.value isalnum text := by
  obtain ⟨htext, hlength⟩ := hof
  cases hstep with
  | @plain before rest masked character h =>
    refine ⟨⟨by simpa using htext, by simpa using hlength⟩, ?_⟩
    simp only [PlanState.value]
    rw [unquotedTextFrom_plain htext h]
    simp
  | @quoted before region rest masked quote hquote hregion hend =>
    simp only at htext hlength
    refine ⟨⟨by simpa using htext, by simp [hlength]⟩, ?_⟩
    simp only [PlanState.value]
    have hflag : opensEscapeString isalnum text before.length = true ↔
        EscapePrefix isalnum before quote := by
      rw [htext]
      exact opensEscapeString_iff
    have hescapes : opensEscapeString isalnum text before.length = true → quote = '\'' :=
      fun h => (hflag.mp h).1
    rw [← propext hflag] at hregion
    rw [unquotedTextFrom_open htext hquote]
    have hread : unquotedTextFrom isalnum text (before ++ [quote]).length
        (some (quote, before.length, opensEscapeString isalnum text before.length))
        (masked ++ quote :: (region ++ rest)) = _ :=
      unquotedTextFrom_region hregion
        (show text = (before ++ [quote]) ++ (region ++ rest) by simpa using htext) hend hescapes
    have hblank : blank (masked ++ quote :: (region ++ rest)) before.length
        (before.length + 1 + region.length) =
          masked ++ List.replicate (region.length + 1) ' ' ++ rest := by
      rw [← hlength]
      exact blank_region
    rw [show (before ++ [quote]).length = before.length + 1 by simp, hblank] at hread
    rw [hread, show (before ++ quote :: region).length = before.length + 1 + region.length by
      rw [List.length_append, List.length_cons]; omega]

/-! ## The masker -/

theorem PlanReads.keeps {planText : List Char} {state : PlanState}
    (h : PlanReads isalnum planText state) :
    state.Of planText ∧ greenplumPlanUnquotedText isalnum planText = state.value isalnum planText := by
  induction h with
  | refl => exact ⟨⟨rfl, rfl⟩, rfl⟩
  | tail _ hstep ih =>
    obtain ⟨hof, hvalue⟩ := ih
    obtain ⟨hnext, hsame⟩ := hstep.keeps hof
    exact ⟨hnext, hvalue.trans hsame⟩

/-- A plan is read to its end, or to a quote that is not closed. -/
theorem PlanReads.ends {planText : List Char} {state : PlanState}
    (h : PlanReads isalnum planText state) :
    (∃ before masked, PlanReads isalnum planText ⟨before, [], masked⟩) ∨
    ∃ before quote tail masked, PlanReads isalnum planText ⟨before, quote :: tail, masked⟩ ∧
      isQuote quote = true ∧ OpenRegion quote (EscapePrefix isalnum before quote) tail := by
  induction hlength : state.rest.length using Nat.strongRecOn generalizing state with
  | ind length ih =>
  obtain ⟨before, rest, masked⟩ := state
  cases rest with
  | nil => exact .inl ⟨before, masked, h⟩
  | cons character rest =>
    rw [List.length_cons] at hlength
    cases hquote : isQuote character with
    | false => exact ih rest.length (by omega) (h.tail (.plain hquote)) rfl
    | true =>
      by_cases hopen : OpenRegion character (EscapePrefix isalnum before character) rest
      · exact .inr ⟨before, character, rest, masked, h, hquote, hopen⟩
      · simp only [OpenRegion, not_forall] at hopen
        obtain ⟨region, later, rfl, hregion, hend⟩ := hopen
        rw [List.length_append] at hlength
        exact ih later.length (by omega) (h.tail (.quoted hquote hregion hend)) rfl

theorem value_end {planText before masked : List Char}
    (h : PlanReads isalnum planText ⟨before, [], masked⟩) :
    before = planText ∧ greenplumPlanUnquotedText isalnum planText = .ok masked := by
  obtain ⟨⟨htext, -⟩, hvalue⟩ := h.keeps
  simp only [List.append_nil] at htext
  rw [hvalue, PlanState.value, unquotedTextFrom_end _ (by rw [htext]), List.append_nil]
  exact ⟨htext.symm, rfl⟩

theorem value_open {planText before tail masked : List Char} {quote : Char}
    (h : PlanReads isalnum planText ⟨before, quote :: tail, masked⟩)
    (hquote : isQuote quote = true)
    (hopen : OpenRegion quote (EscapePrefix isalnum before quote) tail) :
    greenplumPlanUnquotedText isalnum planText =
      .error (unterminatedQuotedText quote before.length) := by
  obtain ⟨⟨htext, -⟩, hvalue⟩ := h.keeps
  simp only at htext
  have hflag : opensEscapeString isalnum planText before.length = true ↔
      EscapePrefix isalnum before quote := by
    rw [htext]
    exact opensEscapeString_iff
  rw [← propext hflag] at hopen
  rw [hvalue, PlanState.value, unquotedTextFrom_open htext hquote]
  have hread : unquotedTextFrom isalnum planText (before ++ [quote]).length
      (some (quote, before.length, opensEscapeString isalnum planText before.length))
      (masked ++ quote :: tail) = _ :=
    unquotedTextFrom_openRegion hopen (by simpa using htext) fun h => (hflag.mp h).1
  rw [show (before ++ [quote]).length = before.length + 1 by simp] at hread
  exact hread

/-- The masker returns what the reference lexer writes. -/
theorem greenplumPlanUnquotedText_eq_ok {planText masked : List Char} :
    greenplumPlanUnquotedText isalnum planText = .ok masked ↔
      PlanReads isalnum planText ⟨planText, [], masked⟩ := by
  constructor
  · intro h
    have hstart : PlanReads isalnum planText ⟨[], planText, []⟩ := .refl
    rcases hstart.ends with ⟨before, written, hreads⟩ | ⟨before, quote, tail, written, hreads,
      hquote, hopen⟩
    · obtain ⟨rfl, hvalue⟩ := value_end hreads
      rw [hvalue, Except.ok.injEq] at h
      rw [← h]
      exact hreads
    · rw [value_open hreads hquote hopen] at h
      cases h
  · intro h
    exact (value_end h).2

/-- The masker raises where a quoted region does not end. -/
theorem greenplumPlanUnquotedText_eq_error {planText : List Char}
    {error : GreenplumCatalogMetadataError} :
    greenplumPlanUnquotedText isalnum planText = .error error ↔
      ∃ before quote tail masked, PlanReads isalnum planText ⟨before, quote :: tail, masked⟩ ∧
        isQuote quote = true ∧ OpenRegion quote (EscapePrefix isalnum before quote) tail ∧
        error = unterminatedQuotedText quote before.length := by
  constructor
  · intro h
    have hstart : PlanReads isalnum planText ⟨[], planText, []⟩ := .refl
    rcases hstart.ends with ⟨before, written, hreads⟩ | ⟨before, quote, tail, written, hreads,
      hquote, hopen⟩
    · rw [(value_end hreads).2] at h
      cases h
    · rw [value_open hreads hquote hopen, Except.error.injEq] at h
      exact ⟨before, quote, tail, written, hreads, hquote, hopen, h.symm⟩
  · intro h
    obtain ⟨before, quote, tail, masked, hreads, hquote, hopen, rfl⟩ := h
    exact value_open hreads hquote hopen

theorem PlanReads.masked_plain {planText : List Char} {state : PlanState}
    (h : PlanReads isalnum planText state) : ∀ character ∈ state.masked,
      isQuote character = false := by
  induction h with
  | refl => simp
  | tail _ hstep ih =>
    cases hstep with
    | plain h =>
      intro character hcharacter
      rcases List.mem_append.mp hcharacter with hold | hnew
      · exact ih character hold
      · rw [List.mem_singleton.mp hnew]
        exact h
    | quoted hquote hregion hend =>
      intro character hcharacter
      rcases List.mem_append.mp hcharacter with hold | hnew
      · exact ih character hold
      · rw [List.eq_of_mem_replicate hnew]
        rfl

end ForensicData.Greenplum
