/-
ForensicData.Lib.JsonReader — a reader of JSON texts with hooks.

`loads` reads a text from the left and hands numbers, constants and the members
of objects to hooks, as `json.loads` does. It returns what the hooks make of the
tree that the text spells, and refuses a text that spells none
(`loads_eq_ok`); with the tree itself as the value, no text spells two trees
(`Document.unique`).

The fuel is twice the length of the text: a value or a list of items is read in
front of each rest, and one of two nested calls moves on.
-/
import ForensicData.Lib.JsonGrammar

namespace ForensicData.Lib.JsonText

/-! ## Numbers and strings -/

/-- The digits of an integer without its sign. -/
def readIntPart : Text → Option (List Char × Text)
  | .scalar c :: rest =>
    if c = '0' then some (['0'], rest)
    else if isDigitOf 10 c = true then some (c :: (spanDigits rest).1, (spanDigits rest).2)
    else none
  | _ => none

def readIntToken : Text → Option (List Char × Text)
  | .scalar '-' :: rest => (readIntPart rest).map fun read => ('-' :: read.1, read.2)
  | text => readIntPart text

/-- A fraction, when there is one. -/
def readFraction : Text → List Char × Text
  | .scalar '.' :: rest =>
    if (spanDigits rest).1 = [] then ([], .scalar '.' :: rest)
    else ('.' :: (spanDigits rest).1, (spanDigits rest).2)
  | text => ([], text)

def readSign : Text → List Char × Text
  | .scalar '+' :: rest => (['+'], rest)
  | .scalar '-' :: rest => (['-'], rest)
  | text => ([], text)

/-- An exponent, when there is one. -/
def readExponent : Text → List Char × Text
  | .scalar c :: rest =>
    if (c = 'e' ∨ c = 'E') ∧ (spanDigits (readSign rest).2).1 ≠ [] then
      (c :: ((readSign rest).1 ++ (spanDigits (readSign rest).2).1), (spanDigits (readSign rest).2).2)
    else ([], .scalar c :: rest)
  | text => ([], text)

/-- A number, integer or not, and the rest. -/
def readNumber (text : Text) : Option (Tree × Text) :=
  (readIntToken text).map fun integer =>
    let fraction := readFraction integer.2
    let exponent := readExponent fraction.2
    if fraction.1 = [] ∧ exponent.1 = [] then (.int integer.1, exponent.2)
    else (.float (integer.1 ++ (fraction.1 ++ exponent.1)), exponent.2)

/-- The text after a token. -/
def afterToken : List Char → Text → Option Text
  | [], text => some text
  | c :: cs, .scalar d :: rest => if c = d then afterToken cs rest else none
  | _ :: _, _ => none

/-- The word that a text begins with, and the rest. -/
def readWord (text : Text) : Option (Tree × Text) :=
  words.findSome? fun word => (afterToken word.1 text).map fun rest => (word.2, rest)

def readString : ℕ → Text → Option (Text × Text)
  | 0, _ => none
  | fuel + 1, text =>
    match stringUnit text with
    | none => none
    | some (none, rest) => some ([], rest)
    | some (some c, rest) => (readString fuel rest).map fun read => (c :: read.1, read.2)

/-! ## Values -/

/-- What is made of the parts of a text. -/
structure Hooks (ε β : Type) where
  malformed : ε
  null : β
  bool : Bool → β
  string : Text → β
  array : List β → β
  int : List Char → Except ε β
  float : List Char → Except ε β
  constant : List Char → Except ε β
  object : List (Text × β) → Except ε β

section Reader

variable {ε β : Type} (hooks : Hooks ε β)

mutual

def Tree.build : Tree → Except ε β
  | .null => .ok hooks.null
  | .bool value => .ok (hooks.bool value)
  | .int token => hooks.int token
  | .float token => hooks.float token
  | .constant token => hooks.constant token
  | .string value => .ok (hooks.string value)
  | .array items => (buildItems items).map hooks.array
  | .object members => do
    let members ← buildMembers members
    hooks.object members

def buildItems : List Tree → Except ε (List β)
  | [] => .ok []
  | item :: items => do
    let item ← Tree.build item
    (buildItems items).map fun items => item :: items

def buildMembers : List (Text × Tree) → Except ε (List (Text × β))
  | [] => .ok []
  | (name, value) :: members => do
    let value ← Tree.build value
    (buildMembers members).map fun members => (name, value) :: members

end

/-! ## Reading -/

/-- The name of a member up to its value. -/
def readName (fuel : ℕ) : Text → Except ε (Text × Text)
  | .scalar '"' :: text =>
    match readString fuel text with
    | none => .error hooks.malformed
    | some read =>
      match skipBlank read.2 with
      | .scalar ':' :: rest => .ok (read.1, skipBlank rest)
      | _ => .error hooks.malformed
  | _ => .error hooks.malformed

/-- A value without parts. -/
def readScalar (text : Text) : Except ε (β × Text) :=
  match (readWord text).or (readNumber text) with
  | none => .error hooks.malformed
  | some read => (read.1.build hooks).map fun value => (value, read.2)

mutual

/-- `scan_once`. -/
def readValue : ℕ → Text → Except ε (β × Text)
  | 0, _ => .error hooks.malformed
  | fuel + 1, text =>
    match text with
    | .scalar '"' :: rest =>
      match readString fuel rest with
      | none => .error hooks.malformed
      | some read => .ok (hooks.string read.1, read.2)
    | .scalar '[' :: rest =>
      match skipBlank rest with
      | .scalar ']' :: rest => .ok (hooks.array [], rest)
      | inner => (readItems fuel inner).map fun read => (hooks.array read.1, read.2)
    | .scalar '\x7b' :: rest =>
      match skipBlank rest with
      | .scalar '\x7d' :: rest => (hooks.object []).map fun value => (value, rest)
      | inner => do
        let read ← readMembers fuel inner
        (hooks.object read.1).map fun value => (value, read.2)
    | text => readScalar hooks text

/-- The items of an array from the first one on. -/
def readItems : ℕ → Text → Except ε (List β × Text)
  | 0, _ => .error hooks.malformed
  | fuel + 1, text => do
    let item ← readValue fuel text
    match skipBlank item.2 with
    | .scalar ']' :: rest => .ok ([item.1], rest)
    | .scalar ',' :: rest =>
      (readItems fuel (skipBlank rest)).map fun items => (item.1 :: items.1, items.2)
    | _ => .error hooks.malformed

/-- The members of an object from the first one on. -/
def readMembers : ℕ → Text → Except ε (List (Text × β) × Text)
  | 0, _ => .error hooks.malformed
  | fuel + 1, text => do
    let (name, text) ← readName hooks fuel text
    let value ← readValue fuel text
    match skipBlank value.2 with
    | .scalar '\x7d' :: rest => .ok ([(name, value.1)], rest)
    | .scalar ',' :: rest =>
      (readMembers fuel (skipBlank rest)).map fun members =>
        ((name, value.1) :: members.1, members.2)
    | _ => .error hooks.malformed

end

/-- `json.loads`, with the hooks of a caller. -/
def loads (text : Text) : Except ε β := do
  let read ← readValue hooks (2 * text.length) (skipBlank text)
  match skipBlank read.2 with
  | [] => .ok read.1
  | _ => .error hooks.malformed

end Reader

end ForensicData.Lib.JsonText
