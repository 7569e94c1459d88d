/-
ForensicData.Lib.JsonGrammar — texts and the JSON values that they spell.

A text is a sequence of code points, surrogates among them, as Python holds it.
`Spells` is the grammar: a value, the items of an array or the members of an
object stand at the front of a text, before a rest. What a text spells is a
`Tree`, which keeps numbers as they are written and members that repeat a name;
whether such a tree is a value is decided by who reads it.
-/
import ForensicData.Lib.Digits
import Mathlib.Data.List.Forall2

namespace ForensicData.Lib

/-! ## Code points -/

inductive CodePoint where
  | scalar (c : Char)
  | surrogate (index : Fin 2048)
  deriving DecidableEq, Repr

namespace CodePoint

/-- `chr(n)`. -/
def ofNat (n : ℕ) : CodePoint :=
  if h : 0xD800 ≤ n ∧ n < 0xE000 then .surrogate ⟨n - 0xD800, by omega⟩ else .scalar (Char.ofNat n)

def isControl : CodePoint → Bool
  | .scalar c => decide (c.toNat < 32)
  | .surrogate _ => false

def isSurrogate : CodePoint → Bool
  | .scalar _ => false
  | .surrogate _ => true

end CodePoint

abbrev Text := List CodePoint

instance : LawfulBEq Text := inferInstance

namespace Text

def ofChars (cs : List Char) : Text := cs.map .scalar

def ofString (value : String) : Text := ofChars value.toList

@[simp] theorem ofChars_nil : ofChars [] = [] := rfl

@[simp] theorem ofChars_cons (c : Char) (cs : List Char) :
    ofChars (c :: cs) = .scalar c :: ofChars cs := rfl

@[simp] theorem ofChars_append (cs ds : List Char) :
    ofChars (cs ++ ds) = ofChars cs ++ ofChars ds := List.map_append

theorem ofChars_injective : Function.Injective ofChars :=
  List.map_injective_iff.mpr fun _ _ h => CodePoint.scalar.inj h

theorem ofString_injective : Function.Injective ofString := fun _ _ h =>
  String.toList_inj.mp (ofChars_injective h)

/-- The characters of a text from `index` on, or the place of its first surrogate. -/
def scalars (index : ℕ) : Text → Except ℕ (List Char)
  | [] => .ok []
  | .scalar c :: rest => (scalars (index + 1) rest).map fun cs => c :: cs
  | .surrogate _ :: _ => .error index

/-- The string that a text is, or the place of its first surrogate. -/
def readString (text : Text) : Except ℕ String := (scalars 0 text).map String.ofList

theorem scalars_eq_ok {index : ℕ} {text : Text} {cs : List Char} :
    scalars index text = .ok cs ↔ text = ofChars cs := by
  induction text generalizing index cs with
  | nil => cases cs <;> simp [scalars]
  | cons first rest ih =>
    cases first with
    | surrogate n => cases cs <;> simp [scalars]
    | scalar c =>
      cases cs with
      | nil =>
        rw [scalars]
        cases scalars (index + 1) rest <;> simp [Except.map]
      | cons d cs =>
        have hrest := @ih (index + 1) cs
        rw [scalars]
        cases h : scalars (index + 1) rest with
        | error n => simp_all [Except.map]
        | ok more => simp_all [Except.map]

theorem readString_eq_ok {text : Text} {value : String} :
    readString text = .ok value ↔ text = ofString value := by
  have hscalars := @scalars_eq_ok 0 text
  unfold readString
  cases h : scalars 0 text with
  | error n =>
    have hnone := (@hscalars value.toList).not.mp (by simp [h])
    simp [Except.map, ofString, hnone]
  | ok cs =>
    rw [hscalars.mp h, ofString, ofChars_injective.eq_iff]
    simp only [Except.map, Except.ok.injEq]
    constructor
    · rintro rfl
      exact String.toList_ofList.symm
    · rintro rfl
      exact String.ofList_toList

end Text

/-! ## Words -/

namespace JsonText

/-- The blank characters: space, tab, line feed, carriage return. -/
def isBlank : CodePoint → Bool
  | .scalar c => c == ' ' || c == '\t' || c == '\n' || c == '\r'
  | .surrogate _ => false

def skipBlank (text : Text) : Text := text.dropWhile isBlank

/-- The digits at the front of a text, and the rest. -/
def spanDigits : Text → List Char × Text
  | .scalar c :: rest =>
    if isDigitOf 10 c = true then (c :: (spanDigits rest).1, (spanDigits rest).2)
    else ([], .scalar c :: rest)
  | text => ([], text)

/-- The value of a hexadecimal digit of either case. -/
def hexDigit : CodePoint → Option ℕ
  | .scalar c =>
    if digitValue c < 16 then some (digitValue c)
    else if 65 ≤ c.toNat ∧ c.toNat ≤ 70 then some (c.toNat - 55)
    else none
  | .surrogate _ => none

/-- Four hexadecimal digits. -/
def readHex : Text → Option (ℕ × Text)
  | a :: b :: c :: d :: rest => do
    let a ← hexDigit a
    let b ← hexDigit b
    let c ← hexDigit c
    let d ← hexDigit d
    return (((a * 16 + b) * 16 + c) * 16 + d, rest)
  | _ => none

def isHighSurrogate (n : ℕ) : Bool := decide (0xD800 ≤ n ∧ n < 0xDC00)

def isLowSurrogate (n : ℕ) : Bool := decide (0xDC00 ≤ n ∧ n < 0xE000)

/-- An escaped low surrogate. -/
def lowEscape : Text → Option (ℕ × Text)
  | .scalar '\\' :: .scalar 'u' :: rest =>
    (readHex rest).filter fun read => isLowSurrogate read.1
  | _ => none

def simpleEscape : Char → Option Char
  | '"' => some '"'
  | '\\' => some '\\'
  | '/' => some '/'
  | 'b' => some (Char.ofNat 8)
  | 'f' => some (Char.ofNat 12)
  | 'n' => some '\n'
  | 'r' => some '\r'
  | 't' => some '\t'
  | _ => none

/-- What stands behind a backslash; an escaped high surrogate joins with an
escaped low one. -/
def escape : Text → Option (CodePoint × Text)
  | .scalar 'u' :: rest =>
    (readHex rest).map fun (n, rest) =>
      match isHighSurrogate n, lowEscape rest with
      | true, some (low, rest) =>
        (.scalar (Char.ofNat (0x10000 + (n - 0xD800) * 0x400 + (low - 0xDC00))), rest)
      | _, _ => (CodePoint.ofNat n, rest)
  | .scalar c :: rest => (simpleEscape c).map fun c => (.scalar c, rest)
  | _ => none

/-- The next character of a string, or none at its closing quote. -/
def stringUnit : Text → Option (Option CodePoint × Text)
  | .scalar '"' :: rest => some (none, rest)
  | .scalar '\\' :: rest => (escape rest).map fun (c, rest) => (some c, rest)
  | c :: rest => if c.isControl = true then none else some (some c, rest)
  | [] => none

/-! ## Trees -/

/-- What a text spells. -/
inductive Tree where
  | null
  | bool (value : Bool)
  | int (token : List Char)
  | float (token : List Char)
  | constant (token : List Char)
  | string (value : Text)
  | array (items : List Tree)
  | object (members : List (Text × Tree))

/-- The part of a text that is spelled. -/
inductive Part where
  | value (tree : Tree)
  | items (items : List Tree)
  | members (members : List (Text × Tree))

/-! ## The grammar -/

/-- An integer without its sign. -/
inductive IntPart : List Char → Prop
  | zero : IntPart ['0']
  | digits {c : Char} {cs : List Char} : isDigitOf 10 c = true → c ≠ '0' →
      (∀ d ∈ cs, isDigitOf 10 d = true) → IntPart (c :: cs)

inductive IntToken : List Char → Prop
  | plain {cs : List Char} : IntPart cs → IntToken cs
  | negative {cs : List Char} : IntPart cs → IntToken ('-' :: cs)

inductive Fraction : List Char → Prop
  | digits {cs : List Char} : cs ≠ [] → (∀ c ∈ cs, isDigitOf 10 c = true) → Fraction ('.' :: cs)

inductive Exponent : List Char → Prop
  | digits {e : Char} {sign cs : List Char} : (e = 'e' ∨ e = 'E') →
      (sign = [] ∨ sign = ['+'] ∨ sign = ['-']) → cs ≠ [] →
      (∀ c ∈ cs, isDigitOf 10 c = true) → Exponent (e :: (sign ++ cs))

/-- A number with a fraction or an exponent. -/
inductive FloatToken : List Char → Prop
  | fraction {integer fraction : List Char} : IntToken integer → Fraction fraction →
      FloatToken (integer ++ fraction)
  | exponent {integer exponent : List Char} : IntToken integer → Exponent exponent →
      FloatToken (integer ++ exponent)
  | both {integer fraction exponent : List Char} : IntToken integer → Fraction fraction →
      Exponent exponent → FloatToken (integer ++ (fraction ++ exponent))

/-- A token spells a number. -/
inductive NumberToken : List Char → Tree → Prop
  | int {token : List Char} : IntToken token → NumberToken token (.int token)
  | float {token : List Char} : FloatToken token → NumberToken token (.float token)

/-- The names of values; the last three are constants that are no JSON. -/
def words : List (List Char × Tree) :=
  [(['n', 'u', 'l', 'l'], .null), (['t', 'r', 'u', 'e'], .bool true),
    (['f', 'a', 'l', 's', 'e'], .bool false),
    (['N', 'a', 'N'], .constant ['N', 'a', 'N']),
    (['I', 'n', 'f', 'i', 'n', 'i', 't', 'y'], .constant ['I', 'n', 'f', 'i', 'n', 'i', 't', 'y']),
    (['-', 'I', 'n', 'f', 'i', 'n', 'i', 't', 'y'],
      .constant ['-', 'I', 'n', 'f', 'i', 'n', 'i', 't', 'y'])]

/-- Blanks stand between the texts. -/
def Blanks (text rest : Text) : Prop := ∃ blanks, (∀ c ∈ blanks, isBlank c = true) ∧
  text = blanks ++ rest

/-- A string up to its closing quote. -/
inductive StringBody : Text → Text → Text → Prop
  | close {text rest : Text} : stringUnit text = some (none, rest) → StringBody text [] rest
  | unit {text next value rest : Text} {c : CodePoint} : stringUnit text = some (some c, next) →
      StringBody next value rest → StringBody text (c :: value) rest

/-- A text spells a part in front of a rest. -/
inductive Spells : Part → Text → Text → Prop
  | word {token : List Char} {tree : Tree} {rest : Text} : (token, tree) ∈ words →
      Spells (.value tree) (Text.ofChars token ++ rest) rest
  | number {token : List Char} {tree : Tree} {rest : Text} : NumberToken token tree →
      Spells (.value tree) (Text.ofChars token ++ rest) rest
  | string {value text rest : Text} : StringBody text value rest →
      Spells (.value (.string value)) (.scalar '"' :: text) rest
  | emptyArray {text rest : Text} : Blanks text (.scalar ']' :: rest) →
      Spells (.value (.array [])) (.scalar '[' :: text) rest
  | array {items : List Tree} {text inner rest : Text} : Blanks text inner →
      Spells (.items items) inner rest → Spells (.value (.array items)) (.scalar '[' :: text) rest
  | emptyObject {text rest : Text} : Blanks text (.scalar '\x7d' :: rest) →
      Spells (.value (.object [])) (.scalar '\x7b' :: text) rest
  | object {members : List (Text × Tree)} {text inner rest : Text} : Blanks text inner →
      Spells (.members members) inner rest →
      Spells (.value (.object members)) (.scalar '\x7b' :: text) rest
  | lastItem {item : Tree} {text next rest : Text} : Spells (.value item) text next →
      Blanks next (.scalar ']' :: rest) → Spells (.items [item]) text rest
  | item {item : Tree} {items : List Tree} {text next comma inner rest : Text} :
      Spells (.value item) text next → Blanks next (.scalar ',' :: comma) → Blanks comma inner →
      Spells (.items items) inner rest → Spells (.items (item :: items)) text rest
  | lastMember {name : Text} {value : Tree} {text afterName colon inner next rest : Text} :
      StringBody text name afterName → Blanks afterName (.scalar ':' :: colon) →
      Blanks colon inner → Spells (.value value) inner next →
      Blanks next (.scalar '\x7d' :: rest) →
      Spells (.members [(name, value)]) (.scalar '"' :: text) rest
  | member {name : Text} {value : Tree} {members : List (Text × Tree)}
      {text afterName colon inner next comma more rest : Text} :
      StringBody text name afterName → Blanks afterName (.scalar ':' :: colon) →
      Blanks colon inner → Spells (.value value) inner next →
      Blanks next (.scalar ',' :: comma) → Blanks comma more →
      Spells (.members members) more rest →
      Spells (.members ((name, value) :: members)) (.scalar '"' :: text) rest

/-- A whole text spells a tree. -/
def Document (text : Text) (tree : Tree) : Prop :=
  ∃ inner rest, Blanks text inner ∧ Spells (.value tree) inner rest ∧ Blanks rest []

end JsonText

end ForensicData.Lib
