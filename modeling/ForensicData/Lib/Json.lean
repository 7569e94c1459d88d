/-
ForensicData.Lib.Json — compact JSON text of integer JSON values.

`render` writes a value without spaces and without `\u` escapes for printable
characters; the members of an object stand in the order they are given. Equal
texts have equal values (`render_injective`): a rendered value tells where it
ends, as long as a number is not followed by a digit.
-/
import ForensicData.Lib.Digits

namespace ForensicData.Lib

inductive Json where
  | null
  | bool (value : Bool)
  | int (value : Int)
  | string (value : String)
  | array (items : List Json)
  | object (members : List (String × Json))

namespace Json

/-! ## Strings -/

/-- What follows the backslash of an escaped control character. -/
def controlEscape : ℕ → List Char
  | 8 => ['b']
  | 9 => ['t']
  | 10 => ['n']
  | 12 => ['f']
  | 13 => ['r']
  | n => 'u' :: fixedDigits 16 4 n

def escapeChar (c : Char) : List Char :=
  if c = '"' then ['\\', '"']
  else if c = '\\' then ['\\', '\\']
  else if c.toNat < 32 then '\\' :: controlEscape c.toNat
  else [c]

/-- The text of a string up to its closing quote, which is part of it. -/
def escaped (cs : List Char) : List Char := cs.flatMap escapeChar ++ ['"']

def renderString (value : String) : List Char := '"' :: escaped value.toList

/-- The character that is written first, and what follows it. -/
def readChar : List Char → Option (Char × List Char)
  | '\\' :: 'u' :: a :: b :: c :: d :: rest =>
    some (Char.ofNat (digitsValue 16 [a, b, c, d]), rest)
  | '\\' :: 'b' :: rest => some (Char.ofNat 8, rest)
  | '\\' :: 't' :: rest => some ('\t', rest)
  | '\\' :: 'n' :: rest => some ('\n', rest)
  | '\\' :: 'f' :: rest => some (Char.ofNat 12, rest)
  | '\\' :: 'r' :: rest => some ('\r', rest)
  | '\\' :: c :: rest => some (c, rest)
  | '"' :: _ => none
  | c :: rest => some (c, rest)
  | [] => none

theorem readChar_control {n : ℕ} (h : n < 32) (rest : List Char) :
    readChar ('\\' :: (controlEscape n ++ rest)) = some (Char.ofNat n, rest) := by
  interval_cases n <;> rfl

theorem readChar_escapeChar (c : Char) (rest : List Char) :
    readChar (escapeChar c ++ rest) = some (c, rest) := by
  unfold escapeChar
  split_ifs with hquote hslash hcontrol
  · subst hquote
    rfl
  · subst hslash
    rfl
  · rw [List.cons_append, readChar_control hcontrol, Char.ofNat_toNat]
  · rw [List.singleton_append]
    unfold readChar
    split <;> simp_all

theorem readChar_quote (rest : List Char) : readChar ('"' :: rest) = none := rfl

/-- An escaped string ends at its own closing quote. -/
theorem escaped_cancel {cs ds r s : List Char} (h : escaped cs ++ r = escaped ds ++ s) :
    cs = ds ∧ r = s := by
  induction cs generalizing ds with
  | nil =>
    cases ds with
    | nil => exact ⟨rfl, by simpa [escaped] using h⟩
    | cons d ds =>
      have hread := congrArg readChar h
      simp only [escaped, List.flatMap_cons, List.flatMap_nil, List.append_assoc,
        List.nil_append, List.singleton_append, readChar_quote, readChar_escapeChar] at hread
      exact absurd hread (by simp)
  | cons c cs ih =>
    cases ds with
    | nil =>
      have hread := congrArg readChar h
      simp only [escaped, List.flatMap_cons, List.flatMap_nil, List.append_assoc,
        List.nil_append, List.singleton_append, readChar_quote, readChar_escapeChar] at hread
      exact absurd hread (by simp)
    | cons d ds =>
      have hread := congrArg readChar h
      simp only [escaped, List.flatMap_cons, List.append_assoc, readChar_escapeChar,
        Option.some.injEq, Prod.mk.injEq] at hread
      obtain ⟨rfl, hrest⟩ := hread
      obtain ⟨rfl, rfl⟩ := ih (by simpa [escaped] using hrest)
      exact ⟨rfl, rfl⟩

/-! ## Values -/

/-- The decimal text of an integer. -/
def renderInt (value : Int) : List Char :=
  if value < 0 then '-' :: Nat.toDigits 10 value.natAbs else Nat.toDigits 10 value.natAbs

mutual

def render : Json → List Char
  | .null => ['n', 'u', 'l', 'l']
  | .bool true => ['t', 'r', 'u', 'e']
  | .bool false => ['f', 'a', 'l', 's', 'e']
  | .int value => renderInt value
  | .string value => renderString value
  | .array [] => ['[', ']']
  | .array (item :: items) => '[' :: (render item ++ renderItems items)
  | .object [] => ['\x7b', '\x7d']
  | .object (member :: members) => '\x7b' :: (renderMember member ++ renderMembers members)

/-- The items after the first one, and the closing bracket. -/
def renderItems : List Json → List Char
  | [] => [']']
  | item :: items => ',' :: (render item ++ renderItems items)

def renderMember : String × Json → List Char
  | (name, value) => renderString name ++ ':' :: render value

/-- The members after the first one, and the closing brace. -/
def renderMembers : List (String × Json) → List Char
  | [] => ['\x7d']
  | member :: members => ',' :: (renderMember member ++ renderMembers members)

end

/-! ## Where a value ends -/

/-- The text that follows a value does not continue a number. -/
def Ends (rest : List Char) : Prop := ∀ c, rest.head? = some c → isDigitOf 10 c = false

/-- The kind of value that a first character opens. -/
def opens (c : Char) : ℕ :=
  if c = 'n' then 0
  else if c = 't' then 1
  else if c = 'f' then 2
  else if c = '"' then 3
  else if c = '[' then 4
  else if c = '\x7b' then 5
  else if c = ']' ∨ c = '\x7d' then 7
  else 6

def kind : Json → ℕ
  | .null => 0
  | .bool true => 1
  | .bool false => 2
  | .string _ => 3
  | .array _ => 4
  | .object _ => 5
  | .int _ => 6

theorem opens_of_digit {c : Char} (h : isDigitOf 10 c = true ∨ c = '-') : opens c = 6 := by
  obtain h | rfl := h
  · have hvalue : digitValue c < 10 := by simpa [isDigitOf] using h
    rw [← digitChar_digitValue (show digitValue c < 16 by omega)]
    generalize digitValue c = n at hvalue
    interval_cases n <;> decide
  · decide

theorem exists_renderInt (value : Int) :
    ∃ c rest, renderInt value = c :: rest ∧ (isDigitOf 10 c = true ∨ c = '-') := by
  unfold renderInt
  split
  · exact ⟨_, _, rfl, .inr rfl⟩
  · cases hdigits : Nat.toDigits 10 value.natAbs with
    | nil => exact absurd hdigits Nat.toDigits_ne_nil
    | cons c rest =>
      exact ⟨c, rest, rfl, .inl (isDigitOf_of_mem_toDigits (hdigits ▸ List.mem_cons_self))⟩

/-- The first character of a value gives its kind away. -/
theorem exists_render (v : Json) : ∃ c rest, render v = c :: rest ∧ opens c = v.kind := by
  cases v with
  | null => exact ⟨_, _, rfl, by decide⟩
  | bool value => cases value <;> exact ⟨_, _, rfl, by decide⟩
  | int value =>
    obtain ⟨c, rest, hrender, hc⟩ := exists_renderInt value
    exact ⟨c, rest, hrender, opens_of_digit hc⟩
  | string value => exact ⟨_, _, rfl, rfl⟩
  | array items => cases items <;> exact ⟨_, _, rfl, rfl⟩
  | object members => cases members <;> exact ⟨_, _, rfl, rfl⟩

theorem kind_eq_of_render {v w : Json} {r s : List Char} (h : render v ++ r = render w ++ s) :
    v.kind = w.kind := by
  obtain ⟨c, rest, hv, hc⟩ := exists_render v
  obtain ⟨d, rest', hw, hd⟩ := exists_render w
  rw [hv, hw, List.cons_append, List.cons_append, List.cons.injEq] at h
  rw [← hc, ← hd, h.1]

theorem kind_lt (v : Json) : v.kind < 7 := by
  cases v with
  | bool value => cases value <;> decide
  | _ => simp [kind]

/-- A value does not begin with a closing bracket. -/
theorem render_ne_close {v : Json} {c : Char} (hc : opens c = 7) {r s : List Char} :
    render v ++ r ≠ c :: s := by
  intro h
  obtain ⟨d, rest, hv, hd⟩ := exists_render v
  rw [hv, List.cons_append, List.cons.injEq] at h
  have := v.kind_lt
  rw [← hd, h.1] at this
  omega

theorem renderString_cancel {x y : String} {r s : List Char}
    (h : renderString x ++ r = renderString y ++ s) : x = y ∧ r = s := by
  rw [renderString, renderString, List.cons_append, List.cons_append, List.cons.injEq] at h
  obtain ⟨htext, hrest⟩ := escaped_cancel h.2
  exact ⟨String.toList_inj.mp htext, hrest⟩

theorem takeWhile_digits {cs r : List Char} (hcs : ∀ c ∈ cs, isDigitOf 10 c = true) (hr : Ends r) :
    (cs ++ r).takeWhile (isDigitOf 10) = cs := by
  induction cs with
  | nil =>
    cases r with
    | nil => rfl
    | cons c r => simp [hr c rfl]
  | cons c cs ih =>
    rw [List.forall_mem_cons] at hcs
    rw [List.cons_append, List.takeWhile_cons_of_pos hcs.1, ih hcs.2]

theorem digits_cancel {n m : ℕ} {r s : List Char} (hr : Ends r) (hs : Ends s)
    (h : Nat.toDigits 10 n ++ r = Nat.toDigits 10 m ++ s) : n = m ∧ r = s := by
  have hdigits : Nat.toDigits 10 n = Nat.toDigits 10 m := by
    rw [← takeWhile_digits (fun _ => isDigitOf_of_mem_toDigits) hr, h,
      takeWhile_digits (fun _ => isDigitOf_of_mem_toDigits) hs]
  rw [hdigits] at h
  refine ⟨?_, List.append_cancel_left h⟩
  rw [← digitsValue_toDigits n, hdigits, digitsValue_toDigits]

theorem renderInt_cancel {x y : Int} {r s : List Char} (hr : Ends r) (hs : Ends s)
    (h : renderInt x ++ r = renderInt y ++ s) : x = y ∧ r = s := by
  have hsign : ∀ {n : ℕ} {t u : List Char}, Nat.toDigits 10 n ++ t ≠ '-' :: u := by
    intro n t u heq
    cases hdigits : Nat.toDigits 10 n with
    | nil => exact absurd hdigits Nat.toDigits_ne_nil
    | cons c rest =>
      rw [hdigits, List.cons_append, List.cons.injEq] at heq
      have hc : isDigitOf 10 c = true := isDigitOf_of_mem_toDigits (hdigits ▸ List.mem_cons_self)
      rw [heq.1] at hc
      exact absurd hc (by decide)
  unfold renderInt at h
  split_ifs at h with hx hy hy
  · rw [List.cons_append, List.cons_append, List.cons.injEq] at h
    obtain ⟨habs, hrest⟩ := digits_cancel hr hs h.2
    exact ⟨by omega, hrest⟩
  · exact absurd h.symm hsign
  · exact absurd h hsign
  · obtain ⟨habs, hrest⟩ := digits_cancel hr hs h
    exact ⟨by omega, hrest⟩

theorem ends_cons {c : Char} {rest : List Char} (h : isDigitOf 10 c = false) : Ends (c :: rest) := by
  intro d hd
  rw [List.head?_cons, Option.some.injEq] at hd
  rw [← hd, h]

theorem ends_renderItems (items : List Json) (r : List Char) : Ends (renderItems items ++ r) := by
  cases items with
  | nil => exact ends_cons (by decide)
  | cons item items => exact ends_cons (by decide)

theorem ends_renderMembers (members : List (String × Json)) (r : List Char) :
    Ends (renderMembers members ++ r) := by
  cases members with
  | nil => exact ends_cons (by decide)
  | cons member members => exact ends_cons (by decide)

mutual

/-- A rendered value tells where it ends. -/
theorem render_cancel (v w : Json) {r s : List Char} (hr : Ends r) (hs : Ends s)
    (h : render v ++ r = render w ++ s) : v = w ∧ r = s := by
  have hkind := kind_eq_of_render h
  match v, w with
  | .null, .null => exact ⟨rfl, List.append_cancel_left h⟩
  | .bool true, .bool true => exact ⟨rfl, List.append_cancel_left h⟩
  | .bool false, .bool false => exact ⟨rfl, List.append_cancel_left h⟩
  | .int x, .int y =>
    obtain ⟨rfl, hrest⟩ := renderInt_cancel hr hs h
    exact ⟨rfl, hrest⟩
  | .string x, .string y =>
    obtain ⟨rfl, hrest⟩ := renderString_cancel h
    exact ⟨rfl, hrest⟩
  | .array [], .array [] => exact ⟨rfl, List.append_cancel_left h⟩
  | .array [], .array (item :: items) =>
    simp only [render, List.cons_append, List.nil_append, List.cons.injEq, List.append_assoc,
      true_and] at h
    exact absurd h.symm (render_ne_close (by decide))
  | .array (item :: items), .array [] =>
    simp only [render, List.cons_append, List.nil_append, List.cons.injEq, List.append_assoc,
      true_and] at h
    exact absurd h (render_ne_close (by decide))
  | .array (item :: items), .array (item' :: items') =>
    simp only [render, List.cons_append, List.cons.injEq, List.append_assoc, true_and] at h
    obtain ⟨rfl, hitems⟩ := render_cancel item item' (ends_renderItems _ _) (ends_renderItems _ _) h
    obtain ⟨rfl, hrest⟩ := renderItems_cancel items items' hitems
    exact ⟨rfl, hrest⟩
  | .object [], .object [] => exact ⟨rfl, List.append_cancel_left h⟩
  | .object [], .object ((name, value) :: members) => simp [render, renderMember, renderString] at h
  | .object ((name, value) :: members), .object [] => simp [render, renderMember, renderString] at h
  | .object (member :: members), .object (member' :: members') =>
    simp only [render, List.cons_append, List.cons.injEq, List.append_assoc, true_and] at h
    obtain ⟨rfl, hmembers⟩ := renderMember_cancel member member' (ends_renderMembers _ _)
      (ends_renderMembers _ _) h
    obtain ⟨rfl, hrest⟩ := renderMembers_cancel members members' hmembers
    exact ⟨rfl, hrest⟩

theorem renderItems_cancel (items items' : List Json) {r s : List Char}
    (h : renderItems items ++ r = renderItems items' ++ s) : items = items' ∧ r = s := by
  match items, items' with
  | [], [] => exact ⟨rfl, List.append_cancel_left h⟩
  | [], item :: items => simp [renderItems] at h
  | item :: items, [] => simp [renderItems] at h
  | item :: items, item' :: items' =>
    simp only [renderItems, List.cons_append, List.cons.injEq, List.append_assoc, true_and] at h
    obtain ⟨rfl, hitems⟩ := render_cancel item item' (ends_renderItems _ _) (ends_renderItems _ _) h
    obtain ⟨rfl, hrest⟩ := renderItems_cancel items items' hitems
    exact ⟨rfl, hrest⟩

theorem renderMember_cancel (member member' : String × Json) {r s : List Char} (hr : Ends r)
    (hs : Ends s) (h : renderMember member ++ r = renderMember member' ++ s) :
    member = member' ∧ r = s := by
  match member, member' with
  | (name, value), (name', value') =>
    simp only [renderMember, List.append_assoc, List.cons_append] at h
    obtain ⟨rfl, hvalue⟩ := renderString_cancel h
    obtain ⟨rfl, hrest⟩ := render_cancel value value' hr hs (List.cons.inj hvalue).2
    exact ⟨rfl, hrest⟩

theorem renderMembers_cancel (members members' : List (String × Json)) {r s : List Char}
    (h : renderMembers members ++ r = renderMembers members' ++ s) :
    members = members' ∧ r = s := by
  match members, members' with
  | [], [] => exact ⟨rfl, List.append_cancel_left h⟩
  | [], member :: members => simp [renderMembers] at h
  | member :: members, [] => simp [renderMembers] at h
  | member :: members, member' :: members' =>
    simp only [renderMembers, List.cons_append, List.cons.injEq, List.append_assoc, true_and] at h
    obtain ⟨rfl, hmembers⟩ := renderMember_cancel member member' (ends_renderMembers _ _)
      (ends_renderMembers _ _) h
    obtain ⟨rfl, hrest⟩ := renderMembers_cancel members members' hmembers
    exact ⟨rfl, hrest⟩

end

/-- Values are told apart by their texts. -/
theorem render_injective : Function.Injective render := by
  intro v w h
  have hnil : Ends [] := by
    intro c hc
    simp at hc
  exact (render_cancel v w hnil hnil (by rw [h])).1

end Json

end ForensicData.Lib
