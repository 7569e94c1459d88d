/-
ForensicData.ClickHouse.DdlText — quoted text in the DDL of a ClickHouse table.

Names and literals are written with quotes, backslash escapes and doubled
quotes. One function writes them, one reads a name back, one skips quoted text
and one blanks it. Texts are Python's, lone surrogates included.
-/
import ForensicData.Canonical.Input
import ForensicData.Errors

namespace ForensicData.ClickHouse

open ForensicData.Canonical

def backslash : CodePoint := codePoint '\\'

def backtick : CodePoint := codePoint '\x60'

def singleQuote : CodePoint := codePoint '\''

def doubleQuote : CodePoint := codePoint '"'

/-- `" "`. -/
def blankPoint : CodePoint := codePoint ' '

/-- `character in ("'", '"', "[backtick]")`. -/
def isDdlQuote (character : CodePoint) : Bool :=
  character = singleQuote || character = doubleQuote || character = backtick

/-! ## Writing -/

/-- `_DDL_BACKTICK_ESCAPES`. -/
def ddlBacktickEscapes : List (CodePoint × PythonText) :=
  [(codePoint '\x00', codePoints ['\\', '0']), (codePoint '\x08', codePoints ['\\', 'b']),
    (codePoint '\x0c', codePoints ['\\', 'f']), (codePoint '\n', codePoints ['\\', 'n']),
    (codePoint '\r', codePoints ['\\', 'r']), (codePoint '\t', codePoints ['\\', 't']),
    (codePoint '\\', codePoints ['\\', '\\']), (codePoint '\x60', codePoints ['\\', '\x60'])]

/-- `_DDL_STRING_ESCAPES`. -/
def ddlStringEscapes : List (CodePoint × PythonText) :=
  [(codePoint '\x00', codePoints ['\\', '0']), (codePoint '\x08', codePoints ['\\', 'b']),
    (codePoint '\x0c', codePoints ['\\', 'f']), (codePoint '\n', codePoints ['\\', 'n']),
    (codePoint '\r', codePoints ['\\', 'r']), (codePoint '\t', codePoints ['\\', 't']),
    (codePoint '\\', codePoints ['\\', '\\']), (codePoint '\'', codePoints ['\\', '\''])]

/-- `"".join(escapes.get(character, character) for character in value)`. -/
def escapeWith (escapes : List (CodePoint × PythonText)) (value : PythonText) : PythonText :=
  value.flatMap fun character => (escapes.lookup character).getD [character]

/-- The escaped text between two quotes. -/
def quoteWith (escapes : List (CodePoint × PythonText)) (quote : CodePoint) (value : PythonText) :
    PythonText :=
  quote :: (escapeWith escapes value ++ [quote])

/-- `_quote_clickhouse_backtick_identifier`. -/
def quoteClickhouseBacktickIdentifier (value : PythonText) : PythonText :=
  quoteWith ddlBacktickEscapes backtick value

/-- `_quote_clickhouse_string_literal`. -/
def quoteClickhouseStringLiteral (value : PythonText) : PythonText :=
  quoteWith ddlStringEscapes singleQuote value

/-! ## Skipping -/

/-- `ClickHouseDataValidationError(message)`. -/
def ddlValidation (message : String) : Refusal :=
  { error := .clickHouseDataValidationError, message }

def notQuoted (label : String) : Refusal :=
  ddlValidation s!"ClickHouse canonical {label} must start with quoted text"

def unterminated (label : String) : Refusal :=
  ddlValidation s!"ClickHouse canonical {label} contains unterminated quoted text"

/-- The loop of `_clickhouse_quoted_end`. -/
def quotedEndFrom (value : PythonText) (quote : CodePoint) (label : String) (position : ℕ) :
    Except Refusal ℕ :=
  if h : position < value.length then
    let character := value[position]
    if character = backslash then quotedEndFrom value quote label (position + 2)
    else if character ≠ quote then quotedEndFrom value quote label (position + 1)
    else if value[position + 1]? = some quote then quotedEndFrom value quote label (position + 2)
    else .ok (position + 1)
  else .error (unterminated label)
termination_by value.length - position

/-- `_clickhouse_quoted_end`. -/
def clickhouseQuotedEnd (value : PythonText) (position : ℕ) (label : String) : Except Refusal ℕ :=
  match value[position]? with
  | none => .error (notQuoted label)
  | some quote =>
    if isDdlQuote quote = true then quotedEndFrom value quote label (position + 1)
    else .error (notQuoted label)

/-! ## Reading a name -/

/-- `_DDL_BACKTICK_ESCAPE_VALUES`. -/
def ddlBacktickEscapeValues : List (CodePoint × CodePoint) :=
  [(codePoint '0', codePoint '\x00'), (codePoint 'b', codePoint '\x08'),
    (codePoint 'f', codePoint '\x0c'), (codePoint 'n', codePoint '\n'),
    (codePoint 'r', codePoint '\r'), (codePoint 't', codePoint '\t'),
    (codePoint '\\', codePoint '\\'), (codePoint '\x60', codePoint '\x60')]

/-- `_DDL_BACKTICK_ESCAPE_VALUES.get(escaped, escaped)`. -/
def escapeValue (escaped : CodePoint) : CodePoint :=
  (ddlBacktickEscapeValues.lookup escaped).getD escaped

/-- The loop of `_decode_clickhouse_backtick_identifier`. -/
def decodeIdentifierFrom (value : PythonText) (label : String) (position : ℕ)
    (decoded : PythonText) : Except Refusal PythonText :=
  if h : position < value.length - 1 then
    let character := value[position]
    if character = backslash then
      if hescaped : position + 1 < value.length - 1 then
        decodeIdentifierFrom value label (position + 2)
          (decoded ++ [escapeValue value[position + 1]])
      else
        .error (ddlValidation
          s!"ClickHouse canonical {label} contains an incomplete identifier escape")
    else if character = backtick ∧ value[position + 1]? = some backtick then
      decodeIdentifierFrom value label (position + 2) (decoded ++ [backtick])
    else decodeIdentifierFrom value label (position + 1) (decoded ++ [character])
  else .ok decoded
termination_by value.length - position

def incompleteIdentifier (label : String) : Refusal :=
  ddlValidation s!"ClickHouse canonical {label} contains an incomplete quoted identifier"

/-- `_decode_clickhouse_backtick_identifier`. -/
def decodeClickhouseBacktickIdentifier (value : PythonText) (label : String) :
    Except Refusal PythonText := do
  refuseIf (value.head? ≠ some backtick) (incompleteIdentifier label)
  let quotedEnd ← clickhouseQuotedEnd value 0 label
  refuseIf (quotedEnd ≠ value.length) (incompleteIdentifier label)
  decodeIdentifierFrom value label 1 []

/-! ## Blanking -/

theorem lt_quotedEndFrom {value : PythonText} {quote : CodePoint} {label : String}
    {position stop : ℕ} (h : quotedEndFrom value quote label position = .ok stop) :
    position < stop := by
  fun_induction quotedEndFrom value quote label position with
  | case1 position hposition character hcharacter ih =>
    have := ih h
    omega
  | case2 position hposition character hcharacter hquote ih =>
    have := ih h
    omega
  | case3 position hposition character hcharacter hquote hdoubled ih =>
    have := ih h
    omega
  | case4 position hposition character hcharacter hquote hdoubled =>
    rw [Except.ok.injEq] at h
    omega
  | case5 => cases h

theorem lt_clickhouseQuotedEnd {value : PythonText} {position stop : ℕ} {label : String}
    (h : clickhouseQuotedEnd value position label = .ok stop) : position < stop := by
  unfold clickhouseQuotedEnd at h
  split at h
  · cases h
  · split at h
    · have := lt_quotedEndFrom h
      omega
    · cases h

/-- `for quoted_position in range(position, quoted_end)`: the assignments of a blank. -/
def blankRange (characters : PythonText) (position quotedEnd : ℕ) : PythonText :=
  (List.range' position (quotedEnd - position)).foldl
    (fun characters quotedPosition => characters.set quotedPosition blankPoint) characters

@[simp] theorem length_blankRange (characters : PythonText) (position quotedEnd : ℕ) :
    (blankRange characters position quotedEnd).length = characters.length := by
  unfold blankRange
  induction List.range' position (quotedEnd - position) generalizing characters with
  | nil => rfl
  | cons quotedPosition positions ih => rw [List.foldl_cons, ih, List.length_set]

/-- The loop of `_unquoted_clickhouse_ddl`. -/
def unquotedDdlFrom (value characters : PythonText) (position : ℕ) : Except Refusal PythonText :=
  if h : position < characters.length then
    if isDdlQuote characters[position] = false then
      unquotedDdlFrom value characters (position + 1)
    else
      match hend : clickhouseQuotedEnd value position "table DDL" with
      | .error refusal => .error refusal
      | .ok quotedEnd =>
        unquotedDdlFrom value (blankRange characters position quotedEnd) quotedEnd
  else .ok characters
termination_by characters.length - position
decreasing_by
  · omega
  · have := lt_clickhouseQuotedEnd hend
    rw [length_blankRange]
    omega

/-- `_unquoted_clickhouse_ddl`. -/
def unquotedClickhouseDdl (value : PythonText) : Except Refusal PythonText :=
  unquotedDdlFrom value value 0

end ForensicData.ClickHouse
