/-
ForensicData.ClickHouse.DdlTextTheorems — the quoting functions agree.

What the writers write is quoted text, the reader gets back the name that was
written, the skipper stops behind the quote that closes the text, and blanking
takes away the quoted texts and nothing else. The loops walk over positions: each lemma
splits the text at the position of the loop and says how the loop goes on.
-/
import ForensicData.ClickHouse.DdlText
import ForensicData.Lib.QuotedText

namespace ForensicData.ClickHouse

open ForensicData.Canonical
open ForensicData.Lib

/-- The body of a quoted text. -/
abbrev DdlBody (quote : Canonical.CodePoint) (body : PythonText) : Prop :=
  QuotedBody backslash quote body

/-- A part of a DDL text with well-formed quotes. -/
abbrev DdlPiece : Type := Piece backslash (fun character => isDdlQuote character = true)

theorem ne_backslash_of_isDdlQuote {quote : Canonical.CodePoint} (h : isDdlQuote quote = true) :
    quote ≠ backslash := by
  intro heq
  rw [heq] at h
  exact absurd h (by decide)

theorem getElem?_split {α : Type} (front : List α) (character : α) (rest : List α) :
    (front ++ character :: rest)[front.length]? = some character := by
  simp

theorem getElem?_split_next {α : Type} (front : List α) (character : α) (rest : List α) :
    (front ++ character :: rest)[front.length + 1]? = rest.head? := by
  cases rest <;> simp

/-! ## Skipping quoted text -/

section Skipping

variable {front body rest : PythonText} {character quote : Canonical.CodePoint} {label : String}

theorem quotedEndFrom_cons :
    quotedEndFrom (front ++ character :: rest) quote label front.length =
      if character = backslash then
        quotedEndFrom (front ++ character :: rest) quote label (front.length + 2)
      else if character ≠ quote then
        quotedEndFrom (front ++ character :: rest) quote label (front.length + 1)
      else if rest.head? = some quote then
        quotedEndFrom (front ++ character :: rest) quote label (front.length + 2)
      else .ok (front.length + 1) := by
  have hposition : front.length < (front ++ character :: rest).length := by simp
  rw [quotedEndFrom, dif_pos hposition, getElem?_split_next]
  simp

/-- The loop goes over a body in one piece. -/
theorem quotedEndFrom_body (hquote : quote ≠ backslash) (hbody : DdlBody quote body) :
    quotedEndFrom (front ++ (body ++ rest)) quote label front.length =
      quotedEndFrom (front ++ (body ++ rest)) quote label (front.length + body.length) := by
  induction hbody generalizing front with
  | nil => rfl
  | @escaped character body _ ih =>
    have h := @ih (front ++ [backslash, character])
    have hlength : front.length + (backslash :: character :: body).length
        = (front ++ [backslash, character]).length + body.length := by
      simp only [List.length_cons, List.length_append, List.length_nil]
      omega
    rw [hlength, List.cons_append, quotedEndFrom_cons, if_pos rfl]
    simpa using h
  | @doubled body _ ih =>
    have h := @ih (front ++ [quote, quote])
    have hlength : front.length + (quote :: quote :: body).length
        = (front ++ [quote, quote]).length + body.length := by
      simp only [List.length_cons, List.length_append, List.length_nil]
      omega
    have hdoubled : (quote :: body ++ rest).head? = some quote := rfl
    rw [hlength, List.cons_append, quotedEndFrom_cons, if_neg hquote, if_neg (by simp),
      if_pos hdoubled]
    simpa using h
  | @plain character body hescape hne _ ih =>
    have h := @ih (front ++ [character])
    have hlength : front.length + (character :: body).length
        = (front ++ [character]).length + body.length := by
      simp only [List.length_cons, List.length_append, List.length_nil]
      omega
    rw [hlength, List.cons_append, quotedEndFrom_cons, if_neg hescape, if_pos hne]
    simpa using h

/-- The loop stops behind the first quote that is neither escaped nor doubled. -/
theorem quotedEndFrom_closed (hquote : quote ≠ backslash) (hbody : DdlBody quote body)
    (hrest : rest.head? ≠ some quote) :
    quotedEndFrom (front ++ (body ++ quote :: rest)) quote label front.length
      = .ok (front.length + body.length + 1) := by
  rw [quotedEndFrom_body hquote hbody, ← List.append_assoc, ← List.length_append,
    quotedEndFrom_cons, if_neg hquote, if_neg (by simp), if_neg hrest]

theorem clickhouseQuotedEnd_cons (hquote : isDdlQuote quote = true) :
    clickhouseQuotedEnd (front ++ quote :: rest) front.length label =
      quotedEndFrom ((front ++ [quote]) ++ rest) quote label (front ++ [quote]).length := by
  rw [clickhouseQuotedEnd, getElem?_split]
  simp [hquote]

/-- The skipper stops behind the closing quote. -/
theorem clickhouseQuotedEnd_closed (hquote : isDdlQuote quote = true)
    (hbody : DdlBody quote body) (hrest : rest.head? ≠ some quote) :
    clickhouseQuotedEnd (front ++ quote :: (body ++ quote :: rest)) front.length label
      = .ok (front.length + body.length + 2) := by
  rw [clickhouseQuotedEnd_cons hquote,
    quotedEndFrom_closed (ne_backslash_of_isDdlQuote hquote) hbody hrest]
  simp only [List.length_append, List.length_cons, List.length_nil]
  congr 1
  omega

end Skipping

/-! ## What the writers write -/

/-- A table of escapes for texts between two quotes: the backslash, the quote and
what else it holds are written with a backslash. -/
structure Escapes (escapes : List (Canonical.CodePoint × PythonText))
    (quote : Canonical.CodePoint) : Prop where
  pairs : ∀ entry ∈ escapes, ∃ escaped, entry.2 = [backslash, escaped]
  backslash_mem : ∃ entry ∈ escapes, entry.1 = backslash
  quote_mem : ∃ entry ∈ escapes, entry.1 = quote

theorem escapes_backtick : Escapes ddlBacktickEscapes backtick where
  pairs := by simp [ddlBacktickEscapes, codePoints, backslash]
  backslash_mem := ⟨(backslash, [backslash, backslash]), by decide, rfl⟩
  quote_mem := ⟨(backtick, [backslash, backtick]), by decide, rfl⟩

theorem escapes_string : Escapes ddlStringEscapes singleQuote where
  pairs := by simp [ddlStringEscapes, codePoints, backslash]
  backslash_mem := ⟨(backslash, [backslash, backslash]), by decide, rfl⟩
  quote_mem := ⟨(singleQuote, [backslash, singleQuote]), by decide, rfl⟩

theorem escapeWith_cons (escapes : List (Canonical.CodePoint × PythonText))
    (character : Canonical.CodePoint) (value : PythonText) :
    escapeWith escapes (character :: value)
      = (escapes.lookup character).getD [character] ++ escapeWith escapes value := rfl

theorem Escapes.body {escapes : List (Canonical.CodePoint × PythonText)}
    {quote : Canonical.CodePoint} (h : Escapes escapes quote) (value : PythonText) :
    DdlBody quote (escapeWith escapes value) := by
  induction value with
  | nil => exact .nil
  | cons character value ih =>
    rw [escapeWith_cons]
    cases hlookup : escapes.lookup character with
    | some escaped =>
      rcases List.lookup_eq_some_iff.mp hlookup with ⟨before, after, hsplit, -⟩
      rcases h.pairs (character, escaped) (by simp [hsplit]) with ⟨last, hlast⟩
      dsimp only at hlast
      rw [Option.getD_some, hlast]
      exact .escaped last ih
    | none =>
      have hnone := List.lookup_eq_none_iff.mp hlookup
      refine .plain ?_ ?_ ih
      · rcases h.backslash_mem with ⟨entry, hentry, heq⟩
        simpa [heq] using hnone entry hentry
      · rcases h.quote_mem with ⟨entry, hentry, heq⟩
        simpa [heq] using hnone entry hentry

/-! ## Reading a name back -/

section Reading

variable {front rest : PythonText} {character : Canonical.CodePoint} {label : String}

/-- The table of escapes is the table of their values, read from right to left. -/
theorem ddlBacktickEscapes_eq :
    ddlBacktickEscapes = ddlBacktickEscapeValues.map fun entry =>
      (entry.2, [backslash, entry.1]) := rfl

theorem escapeValue_of_mem {entry : Canonical.CodePoint × Canonical.CodePoint}
    (h : entry ∈ ddlBacktickEscapeValues) :
    escapeValue entry.1 = entry.2 := by
  have hall : ddlBacktickEscapeValues.all (fun entry => escapeValue entry.1 == entry.2) = true := by
    decide
  exact beq_iff_eq.mp (List.all_eq_true.mp hall entry h)

/-- A character that is written as itself is read as itself, the others are
written with a backslash and a character that stands for them. -/
theorem lookup_ddlBacktickEscapes (character : Canonical.CodePoint) :
    (∃ escaped, ddlBacktickEscapes.lookup character = some [backslash, escaped] ∧
      escapeValue escaped = character) ∨
    ddlBacktickEscapes.lookup character = none ∧ character ≠ backslash ∧ character ≠ backtick := by
  cases hlookup : ddlBacktickEscapes.lookup character with
  | some escaped =>
    rcases List.lookup_eq_some_iff.mp hlookup with ⟨before, after, hsplit, -⟩
    have hmem : (character, escaped) ∈ ddlBacktickEscapes := by simp [hsplit]
    rw [ddlBacktickEscapes_eq, List.mem_map] at hmem
    rcases hmem with ⟨entry, hentry, heq⟩
    rw [Prod.mk.injEq] at heq
    exact .inl ⟨entry.1, by rw [heq.2], (escapeValue_of_mem hentry).trans heq.1⟩
  | none =>
    have hnone := List.lookup_eq_none_iff.mp hlookup
    refine .inr ⟨rfl, ?_, ?_⟩
    · simpa using hnone (backslash, [backslash, backslash]) (by decide)
    · simpa using hnone (backtick, [backslash, backtick]) (by decide)

theorem decodeIdentifierFrom_escaped {escaped : Canonical.CodePoint} {decoded : PythonText}
    (hrest : rest ≠ []) :
    decodeIdentifierFrom (front ++ backslash :: escaped :: rest) label front.length decoded =
      decodeIdentifierFrom (front ++ backslash :: escaped :: rest) label (front.length + 2)
        (decoded ++ [escapeValue escaped]) := by
  have hlength := List.length_pos_iff.mpr hrest
  have hposition : front.length + 1 < (front ++ backslash :: escaped :: rest).length - 1 := by
    simp only [List.length_append, List.length_cons]
    omega
  rw [decodeIdentifierFrom, dif_pos (Nat.lt_of_succ_lt hposition), dif_pos hposition]
  simp

theorem decodeIdentifierFrom_plain {decoded : PythonText} (hescape : character ≠ backslash)
    (hquote : character ≠ backtick) (hrest : rest ≠ []) :
    decodeIdentifierFrom (front ++ character :: rest) label front.length decoded =
      decodeIdentifierFrom (front ++ character :: rest) label (front.length + 1)
        (decoded ++ [character]) := by
  have hlength := List.length_pos_iff.mpr hrest
  rw [decodeIdentifierFrom, dif_pos (by simp only [List.length_append, List.length_cons]; omega)]
  simp [hescape, hquote]

theorem decodeIdentifierFrom_end {decoded : PythonText} :
    decodeIdentifierFrom (front ++ [character]) label front.length decoded = .ok decoded := by
  rw [decodeIdentifierFrom, dif_neg (by simp)]

theorem decodeIdentifierFrom_escapeWith (value decoded : PythonText) :
    decodeIdentifierFrom (front ++ (escapeWith ddlBacktickEscapes value ++ [backtick])) label
      front.length decoded = .ok (decoded ++ value) := by
  induction value generalizing front decoded with
  | nil =>
    rw [show escapeWith ddlBacktickEscapes [] = [] from rfl, List.nil_append,
      decodeIdentifierFrom_end, List.append_nil]
  | cons character value ih =>
    rw [escapeWith_cons]
    rcases lookup_ddlBacktickEscapes character with ⟨escaped, hlookup, hvalue⟩ | ⟨hlookup, hplain⟩
    · have h := @ih (front ++ [backslash, escaped]) (decoded ++ [character])
      rw [hlookup, Option.getD_some, List.append_assoc, List.cons_append, List.cons_append,
        List.nil_append, decodeIdentifierFrom_escaped (by simp), hvalue]
      simpa using h
    · have h := @ih (front ++ [character]) (decoded ++ [character])
      rw [hlookup, Option.getD_none, List.append_assoc, List.cons_append, List.nil_append,
        decodeIdentifierFrom_plain hplain.1 hplain.2 (by simp)]
      simpa using h

theorem decode_quote (name : PythonText) (label : String) :
    decodeClickhouseBacktickIdentifier (quoteClickhouseBacktickIdentifier name) label
      = .ok name := by
  have hend : clickhouseQuotedEnd (quoteClickhouseBacktickIdentifier name) 0 label
      = .ok (quoteClickhouseBacktickIdentifier name).length := by
    have h := @clickhouseQuotedEnd_closed [] (escapeWith ddlBacktickEscapes name) [] backtick label
      (by decide) (escapes_backtick.body name) (by simp)
    simpa [quoteClickhouseBacktickIdentifier, quoteWith] using h
  have hread := @decodeIdentifierFrom_escapeWith [backtick] label name []
  rw [decodeClickhouseBacktickIdentifier, hend]
  simpa [refuseIf, quoteClickhouseBacktickIdentifier, quoteWith, bind, Except.bind] using hread

end Reading

/-! ## Blanking quoted text -/

section Blanking

variable {before blanked rest : PythonText} {character : Canonical.CodePoint}

theorem blankRange_replace (front text rest : PythonText) :
    blankRange (front ++ (text ++ rest)) front.length (front.length + text.length)
      = front ++ (List.replicate text.length blankPoint ++ rest) := by
  unfold blankRange
  rw [Nat.add_sub_cancel_left]
  induction text generalizing front with
  | nil => rfl
  | cons character text ih =>
    have h := ih (front ++ [blankPoint])
    rw [List.length_cons, List.range'_succ, List.foldl_cons, List.cons_append,
      List.set_append_right _ _ (Nat.le_refl _), Nat.sub_self, List.set_cons_zero,
      List.replicate_succ]
    simpa using h

theorem unquotedDdlFrom_plain {value : PythonText} (h : isDdlQuote character = false) :
    unquotedDdlFrom value (blanked ++ character :: rest) blanked.length =
      unquotedDdlFrom value (blanked ++ character :: rest) (blanked.length + 1) := by
  rw [unquotedDdlFrom, dif_pos (by simp)]
  simp [h]

theorem unquotedDdlFrom_quoted {value : PythonText} {stop : ℕ}
    (h : isDdlQuote character = true)
    (hend : clickhouseQuotedEnd value blanked.length "table DDL" = .ok stop) :
    unquotedDdlFrom value (blanked ++ character :: rest) blanked.length =
      unquotedDdlFrom value (blankRange (blanked ++ character :: rest) blanked.length stop)
        stop := by
  rw [unquotedDdlFrom, dif_pos (by simp), if_neg (by simp [h])]
  split
  · rename_i hrefused
    rw [hend] at hrefused
    cases hrefused
  · rename_i quotedEnd hquotedEnd
    rw [hend, Except.ok.injEq] at hquotedEnd
    rw [hquotedEnd]

theorem unquotedDdlFrom_end {value : PythonText} :
    unquotedDdlFrom value blanked blanked.length = .ok blanked := by
  rw [unquotedDdlFrom, dif_neg (by omega)]

/-- Behind a blanked front the loop blanks the pieces that follow. -/
theorem unquotedDdlFrom_pieces (pieces : List DdlPiece) (hseparated : Piece.Separated pieces)
    (hlength : before.length = blanked.length) :
    unquotedDdlFrom (before ++ pieces.flatMap Piece.text) (blanked ++ pieces.flatMap Piece.text)
        blanked.length
      = .ok (blanked ++ pieces.flatMap (Piece.masked blankPoint)) := by
  induction pieces generalizing before blanked with
  | nil => simpa using unquotedDdlFrom_end
  | cons piece pieces ih =>
    cases piece with
    | plain character outside =>
      have h := @ih (before ++ [character]) (blanked ++ [character]) hseparated (by simp [hlength])
      rw [List.flatMap_cons, Piece.text_plain, List.cons_append, List.nil_append,
        unquotedDdlFrom_plain (Bool.eq_false_iff.mpr outside)]
      simpa using h
    | quoted quote body isQuote closed =>
      have hend := @clickhouseQuotedEnd_closed before body (pieces.flatMap Piece.text) quote
        "table DDL" isQuote closed hseparated.1
      have hblank := blankRange_replace blanked (quote :: (body ++ [quote]))
        (pieces.flatMap Piece.text)
      have h := @ih (before ++ quote :: (body ++ [quote]))
        (blanked ++ List.replicate (body.length + 2) blankPoint) hseparated.2 (by simp [hlength])
      rw [hlength] at hend
      simp only [List.length_cons, List.length_append, List.length_nil, List.cons_append,
        List.append_assoc, List.nil_append, List.length_replicate, ← Nat.add_assoc] at hend hblank h
      rw [List.flatMap_cons, Piece.text_quoted, List.flatMap_cons, Piece.masked_quoted,
        List.cons_append, List.append_assoc, List.singleton_append,
        unquotedDdlFrom_quoted isQuote hend, hblank, h]

/-- The pieces of a text keep what is outside quotes and blank the rest. -/
theorem unquotedClickhouseDdl_pieces (pieces : List DdlPiece) :
    unquotedClickhouseDdl (pieces.flatMap Piece.text)
      = .ok (pieces.flatMap (Piece.masked blankPoint)) := by
  rcases Piece.exists_separated blankPoint pieces with ⟨others, hseparated, htext, hmasked⟩
  rw [← htext, ← hmasked]
  exact @unquotedDdlFrom_pieces [] [] others hseparated rfl

end Blanking

/-! ## The law -/

/-- A quoted name is read back as the name; the skipper stops behind the quote that
closes a quoted text, which the writers' texts are; and of a text with
well-formed quotes the blanked text has the length, the characters outside
quotes, and blanks. -/
theorem ddl_quoting_law :
    (∀ (name : PythonText) (label : String),
      decodeClickhouseBacktickIdentifier (quoteClickhouseBacktickIdentifier name) label
        = .ok name) ∧
    (∀ value : PythonText,
      (∃ body, DdlBody backtick body ∧
        quoteClickhouseBacktickIdentifier value = backtick :: (body ++ [backtick])) ∧
      (∃ body, DdlBody singleQuote body ∧
        quoteClickhouseStringLiteral value = singleQuote :: (body ++ [singleQuote]))) ∧
    (∀ (front body suffix : PythonText) (quote : Canonical.CodePoint) (label : String),
      isDdlQuote quote = true → DdlBody quote body → suffix.head? ≠ some quote →
      clickhouseQuotedEnd (front ++ (quote :: (body ++ [quote])) ++ suffix) front.length label
        = .ok (front ++ (quote :: (body ++ [quote]))).length) ∧
    (∀ pieces : List DdlPiece,
      unquotedClickhouseDdl (pieces.flatMap Piece.text)
        = .ok (pieces.flatMap (Piece.masked blankPoint)) ∧
      (pieces.flatMap (Piece.masked blankPoint)).length
        = (pieces.flatMap Piece.text).length) := by
  refine ⟨decode_quote, ?writers, ?skipper, ?blanking⟩
  case writers =>
    intro value
    exact ⟨⟨_, escapes_backtick.body value, rfl⟩, ⟨_, escapes_string.body value, rfl⟩⟩
  case skipper =>
    intro front body suffix quote label hquote hbody hsuffix
    have h := @clickhouseQuotedEnd_closed front body suffix quote label hquote hbody hsuffix
    simpa [Nat.add_assoc] using h
  case blanking =>
    intro pieces
    exact ⟨unquotedClickhouseDdl_pieces pieces, Piece.length_flatMap_masked _ _⟩

end ForensicData.ClickHouse
