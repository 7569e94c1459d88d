/-
ForensicData.Lib.QuotedText — texts with quoted parts.

Between two quotes an escape takes the character after it with it, whatever it
is, and the quote itself stands there doubled. A text with well-formed quotes
is a sequence of pieces: characters outside quotes and quoted texts. Two quoted
texts with the same quote next to each other read as one, with that quote
doubled in the middle; `Separated` sequences have no such neighbours.
-/
import Mathlib.Data.List.Basic

namespace ForensicData.Lib

variable {α : Type*}

/-- What stands between two quotes. -/
inductive QuotedBody (escape quote : α) : List α → Prop
  | nil : QuotedBody escape quote []
  | escaped (character : α) {body : List α} :
      QuotedBody escape quote body → QuotedBody escape quote (escape :: character :: body)
  | doubled {body : List α} :
      QuotedBody escape quote body → QuotedBody escape quote (quote :: quote :: body)
  | plain {character : α} {body : List α} : character ≠ escape → character ≠ quote →
      QuotedBody escape quote body → QuotedBody escape quote (character :: body)

theorem QuotedBody.append {escape quote : α} {body more : List α}
    (h : QuotedBody escape quote body) (hmore : QuotedBody escape quote more) :
    QuotedBody escape quote (body ++ more) := by
  induction h with
  | nil => simpa using hmore
  | escaped character _ ih => exact .escaped character ih
  | doubled _ ih => exact .doubled ih
  | plain hescape hquote _ ih => exact .plain hescape hquote ih

/-- A part of a text with well-formed quotes. -/
inductive Piece (escape : α) (IsQuote : α → Prop) where
  | plain (character : α) (outside : ¬ IsQuote character)
  | quoted (quote : α) (body : List α) (isQuote : IsQuote quote)
      (closed : QuotedBody escape quote body)

namespace Piece

variable {escape : α} {IsQuote : α → Prop}

/-- The characters of a piece. -/
def text : Piece escape IsQuote → List α
  | plain character _ => [character]
  | quoted quote body _ _ => quote :: (body ++ [quote])

/-- The piece with quoted text blanked. -/
def masked (blank : α) : Piece escape IsQuote → List α
  | plain character _ => [character]
  | quoted _ body _ _ => List.replicate (body.length + 2) blank

@[simp] theorem text_plain (character : α) (outside : ¬ IsQuote character) :
    (plain character outside : Piece escape IsQuote).text = [character] := rfl

@[simp] theorem text_quoted (quote : α) (body : List α) (isQuote : IsQuote quote)
    (closed : QuotedBody escape quote body) :
    (quoted quote body isQuote closed).text = quote :: (body ++ [quote]) := rfl

@[simp] theorem masked_plain (blank character : α) (outside : ¬ IsQuote character) :
    (plain character outside : Piece escape IsQuote).masked blank = [character] := rfl

@[simp] theorem masked_quoted (blank quote : α) (body : List α) (isQuote : IsQuote quote)
    (closed : QuotedBody escape quote body) :
    (quoted quote body isQuote closed).masked blank
      = List.replicate (body.length + 2) blank := rfl

theorem length_masked (blank : α) (piece : Piece escape IsQuote) :
    (piece.masked blank).length = piece.text.length := by
  cases piece <;> simp

theorem length_flatMap_masked (blank : α) (pieces : List (Piece escape IsQuote)) :
    (pieces.flatMap (masked blank)).length = (pieces.flatMap text).length := by
  induction pieces with
  | nil => rfl
  | cons piece pieces ih => simp [length_masked, ih]

/-- No quoted text is followed by its own quote. -/
def Separated : List (Piece escape IsQuote) → Prop
  | [] => True
  | plain _ _ :: pieces => Separated pieces
  | quoted quote _ _ _ :: pieces => (pieces.flatMap text).head? ≠ some quote ∧ Separated pieces

/-- Neighbouring quoted texts with the same quote are one quoted text, with the
same characters and the same blanks. -/
theorem exists_separated (blank : α) (pieces : List (Piece escape IsQuote)) :
    ∃ others : List (Piece escape IsQuote), Separated others ∧
      others.flatMap text = pieces.flatMap text ∧
      others.flatMap (masked blank) = pieces.flatMap (masked blank) := by
  induction pieces with
  | nil => exact ⟨[], trivial, rfl, rfl⟩
  | cons piece pieces ih =>
    rcases ih with ⟨others, hseparated, htext, hmasked⟩
    cases piece with
    | plain character outside =>
      exact ⟨plain character outside :: others, hseparated, by simp [htext], by simp [hmasked]⟩
    | quoted quote body isQuote closed =>
      by_cases hhead : (others.flatMap text).head? = some quote
      · -- The quote that follows belongs to a quoted text: the two become one.
        cases others with
        | nil => simp at hhead
        | cons next others =>
          cases next with
          | plain character outside =>
            have hcharacter : character = quote := by simpa using hhead
            exact absurd (hcharacter ▸ isQuote) outside
          | quoted quote' body' isQuote' closed' =>
            have hquote : quote' = quote := by simpa using hhead
            subst hquote
            simp only [List.flatMap_cons] at htext hmasked ⊢
            refine ⟨quoted quote' (body ++ quote' :: quote' :: body') isQuote
              (closed.append (.doubled closed')) :: others, hseparated, ?_, ?_⟩
            · rw [List.flatMap_cons, ← htext]
              simp
            · have hlength : (body ++ quote' :: quote' :: body').length + 2
                  = body.length + 2 + (body'.length + 2) := by
                simp only [List.length_append, List.length_cons]
                omega
              rw [List.flatMap_cons, ← hmasked, masked_quoted, masked_quoted, masked_quoted,
                hlength, List.replicate_add, List.append_assoc]
      · exact ⟨quoted quote body isQuote closed :: others, ⟨hhead, hseparated⟩,
          by simp [htext], by simp [hmasked]⟩

end Piece

end ForensicData.Lib
