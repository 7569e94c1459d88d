/-
ForensicData.Lib.JsonTokens — the tokens of a JSON text, read in front of a rest.

For each kind of token two facts: the reader takes the token off the front of a
text, as long as what follows does not continue it, and what the reader takes is
a token of the grammar.
-/
import ForensicData.Lib.JsonReader

namespace ForensicData.Lib.JsonText

/-! ## Tokens in front of a rest -/

/-- No digit follows. -/
def NoDigit (rest : Text) : Prop :=
  ∀ c, rest.head? = some (.scalar c) → isDigitOf 10 c = false

/-- Nothing follows that continues a number. -/
def Ends (rest : Text) : Prop :=
  ∀ c, rest.head? = some (.scalar c) → isDigitOf 10 c = false ∧ c ≠ '.' ∧ c ≠ 'e' ∧ c ≠ 'E'

theorem Ends.noDigit {rest : Text} (h : Ends rest) : NoDigit rest := fun c hc => (h c hc).1

theorem noDigit_cons {c : Char} {rest : Text} (h : isDigitOf 10 c = false) :
    NoDigit (.scalar c :: rest) := by
  intro d hd
  cases hd
  exact h

theorem spanDigits_append {digits : List Char} {rest : Text}
    (hdigits : ∀ c ∈ digits, isDigitOf 10 c = true) (hrest : NoDigit rest) :
    spanDigits (Text.ofChars digits ++ rest) = (digits, rest) := by
  induction digits with
  | nil =>
    show spanDigits rest = ([], rest)
    unfold spanDigits
    split
    · rename_i c rest
      rw [if_neg (by simp [hrest c rfl])]
    · rfl
  | cons c digits ih =>
    rw [List.forall_mem_cons] at hdigits
    show spanDigits (.scalar c :: (Text.ofChars digits ++ rest)) = _
    rw [spanDigits, if_pos hdigits.1, ih hdigits.2]

theorem spanDigits_spec (text : Text) :
    text = Text.ofChars (spanDigits text).1 ++ (spanDigits text).2 ∧
      ∀ c ∈ (spanDigits text).1, isDigitOf 10 c = true := by
  induction text with
  | nil => simp [spanDigits]
  | cons first rest ih =>
    cases first with
    | surrogate index => simp [spanDigits]
    | scalar c =>
      rw [spanDigits]
      split
      · rename_i hdigit
        refine ⟨?_, ?_⟩
        · exact congrArg (CodePoint.scalar c :: ·) ih.1
        · intro d hd
          rcases List.mem_cons.mp hd with rfl | hd
          · exact hdigit
          · exact ih.2 d hd
      · simp

theorem readIntPart_append {cs : List Char} {rest : Text} (h : IntPart cs) (hrest : NoDigit rest) :
    readIntPart (Text.ofChars cs ++ rest) = some (cs, rest) := by
  cases h with
  | zero => rfl
  | digits hdigit hzero hdigits =>
    rename_i c cs
    show readIntPart (.scalar c :: (Text.ofChars cs ++ rest)) = _
    rw [readIntPart, if_neg hzero, if_pos hdigit, spanDigits_append hdigits hrest]

theorem readIntPart_eq_some {text rest : Text} {cs : List Char}
    (h : readIntPart text = some (cs, rest)) : IntPart cs ∧ text = Text.ofChars cs ++ rest := by
  unfold readIntPart at h
  split at h
  · rename_i c tail
    split_ifs at h with hzero hdigit
    · cases h
      exact ⟨.zero, by rw [hzero]; rfl⟩
    · cases h
      rcases spanDigits_spec tail with ⟨htail, hdigits⟩
      exact ⟨.digits hdigit hzero hdigits, congrArg (CodePoint.scalar c :: ·) htail⟩
  · cases h

theorem IntPart.head {cs : List Char} (h : IntPart cs) :
    ∃ c tail, cs = c :: tail ∧ isDigitOf 10 c = true := by
  cases h with
  | zero => exact ⟨'0', [], rfl, by decide⟩
  | digits hdigit _ _ => exact ⟨_, _, rfl, hdigit⟩

theorem readIntToken_append {cs : List Char} {rest : Text} (h : IntToken cs)
    (hrest : NoDigit rest) : readIntToken (Text.ofChars cs ++ rest) = some (cs, rest) := by
  cases h with
  | plain hpart =>
    rcases hpart.head with ⟨c, tail, rfl, hc⟩
    have hminus : c ≠ '-' := by
      rintro rfl
      exact absurd hc (by decide)
    have hread := readIntPart_append hpart hrest
    rw [Text.ofChars_cons, List.cons_append] at hread ⊢
    rw [readIntToken, hread]
    intro _ h
    cases h
    exact hminus rfl
  | negative hpart =>
    rename_i cs
    show readIntToken (.scalar '-' :: (Text.ofChars cs ++ rest)) = _
    rw [readIntToken, readIntPart_append hpart hrest]
    rfl

theorem readIntToken_eq_some {text rest : Text} {cs : List Char}
    (h : readIntToken text = some (cs, rest)) : IntToken cs ∧ text = Text.ofChars cs ++ rest := by
  unfold readIntToken at h
  split at h
  · rcases Option.map_eq_some_iff.mp h with ⟨⟨digits, tail⟩, hread, heq⟩
    cases heq
    rcases readIntPart_eq_some hread with ⟨hpart, rfl⟩
    exact ⟨.negative hpart, rfl⟩
  · rcases readIntPart_eq_some h with ⟨hpart, htext⟩
    exact ⟨.plain hpart, htext⟩

theorem readFraction_append {cs : List Char} {rest : Text} (h : Fraction cs)
    (hrest : NoDigit rest) : readFraction (Text.ofChars cs ++ rest) = (cs, rest) := by
  cases h with
  | digits hne hdigits =>
    rename_i cs
    show readFraction (.scalar '.' :: (Text.ofChars cs ++ rest)) = _
    rw [readFraction, spanDigits_append hdigits hrest, if_neg hne]

theorem readFraction_absent {rest : Text} (h : ∀ c, rest.head? = some (.scalar c) → c ≠ '.') :
    readFraction rest = ([], rest) := by
  unfold readFraction
  split
  · exact absurd rfl (h '.' rfl)
  · rfl

theorem readFraction_spec (text : Text) :
    text = Text.ofChars (readFraction text).1 ++ (readFraction text).2 ∧
      ((readFraction text).1 = [] ∨ Fraction (readFraction text).1) := by
  unfold readFraction
  split
  · rename_i tail
    split_ifs with hnone
    · simp
    · rcases spanDigits_spec tail with ⟨htail, hdigits⟩
      exact ⟨congrArg (CodePoint.scalar '.' :: ·) htail, .inr (.digits hnone hdigits)⟩
  · simp

theorem readSign_append {sign digits : List Char} {rest : Text}
    (hsign : sign = [] ∨ sign = ['+'] ∨ sign = ['-']) (hne : digits ≠ [])
    (hdigits : ∀ c ∈ digits, isDigitOf 10 c = true) :
    readSign (Text.ofChars (sign ++ digits) ++ rest) = (sign, Text.ofChars digits ++ rest) := by
  rcases hsign with rfl | rfl | rfl
  · cases digits with
    | nil => exact absurd rfl hne
    | cons c digits =>
      have hc := hdigits c List.mem_cons_self
      have hplus : c ≠ '+' := by
        rintro rfl
        exact absurd hc (by decide)
      have hminus : c ≠ '-' := by
        rintro rfl
        exact absurd hc (by decide)
      show readSign (.scalar c :: (Text.ofChars digits ++ rest)) = _
      rw [readSign]
      · rfl
      · intro _ h
        cases h
        exact hplus rfl
      · intro _ h
        cases h
        exact hminus rfl
  · rfl
  · rfl

theorem readSign_spec (text : Text) :
    text = Text.ofChars (readSign text).1 ++ (readSign text).2 ∧
      ((readSign text).1 = [] ∨ (readSign text).1 = ['+'] ∨ (readSign text).1 = ['-']) := by
  unfold readSign
  split <;> simp

theorem readExponent_append {cs : List Char} {rest : Text} (h : Exponent cs)
    (hrest : NoDigit rest) : readExponent (Text.ofChars cs ++ rest) = (cs, rest) := by
  cases h with
  | digits he hsign hne hdigits =>
    rename_i e sign cs
    show readExponent (.scalar e :: (Text.ofChars (sign ++ cs) ++ rest)) = _
    rw [readExponent, readSign_append hsign hne hdigits, spanDigits_append hdigits hrest,
      if_pos ⟨he, hne⟩]

theorem readExponent_absent {rest : Text}
    (h : ∀ c, rest.head? = some (.scalar c) → c ≠ 'e' ∧ c ≠ 'E') :
    readExponent rest = ([], rest) := by
  unfold readExponent
  split
  · rename_i c tail
    rw [if_neg]
    rintro ⟨he | he, -⟩
    · exact (h c rfl).1 he
    · exact (h c rfl).2 he
  · rfl

theorem readExponent_spec (text : Text) :
    text = Text.ofChars (readExponent text).1 ++ (readExponent text).2 ∧
      ((readExponent text).1 = [] ∨ Exponent (readExponent text).1) := by
  unfold readExponent
  split
  · rename_i c tail
    split_ifs with hdigits
    · rcases readSign_spec tail with ⟨htail, hsign⟩
      rcases spanDigits_spec (readSign tail).2 with ⟨hrest, hall⟩
      refine ⟨?_, .inr (.digits hdigits.1 hsign hdigits.2 hall)⟩
      rw [Text.ofChars_cons, Text.ofChars_append, List.cons_append, List.append_assoc, ← hrest,
        ← htail]
    · simp
  · simp

/-! ## Numbers -/

theorem Fraction.noDigit {cs : List Char} (h : Fraction cs) (rest : Text) :
    NoDigit (Text.ofChars cs ++ rest) := by
  cases h with
  | digits hne hdigits => exact noDigit_cons (by decide)

theorem Exponent.head {cs : List Char} (h : Exponent cs) (rest : Text) :
    ∃ c tail, Text.ofChars cs ++ rest = .scalar c :: tail ∧ (c = 'e' ∨ c = 'E') := by
  cases h with
  | digits he hsign hne hdigits => exact ⟨_, _, rfl, he⟩

theorem Exponent.noDigit {cs : List Char} (h : Exponent cs) (rest : Text) :
    NoDigit (Text.ofChars cs ++ rest) ∧
      ∀ c, (Text.ofChars cs ++ rest).head? = some (.scalar c) → c ≠ '.' := by
  rcases h.head rest with ⟨c, tail, htext, rfl | rfl⟩ <;> rw [htext]
  · refine ⟨noDigit_cons (by decide), fun d hd => ?_⟩
    cases hd
    decide
  · refine ⟨noDigit_cons (by decide), fun d hd => ?_⟩
    cases hd
    decide

theorem NumberToken.read {token : List Char} {tree : Tree} {rest : Text}
    (h : NumberToken token tree) (hrest : Ends rest) :
    readNumber (Text.ofChars token ++ rest) = some (tree, rest) := by
  have hfraction : readFraction rest = ([], rest) := readFraction_absent fun c hc => (hrest c hc).2.1
  have hexponent : readExponent rest = ([], rest) := readExponent_absent fun c hc => (hrest c hc).2.2
  unfold readNumber
  cases h with
  | int hint => simp [readIntToken_append hint hrest.noDigit, hfraction, hexponent]
  | float hfloat =>
    cases hfloat with
    | fraction hint hfrac =>
      have hne : ∀ cs, Fraction cs → cs ≠ [] := by
        rintro cs ⟨_, _⟩
        simp
      rw [Text.ofChars_append, List.append_assoc, readIntToken_append hint (hfrac.noDigit rest)]
      simp [readFraction_append hfrac hrest.noDigit, hexponent, hne _ hfrac]
    | exponent hint hexp =>
      rcases hexp.noDigit rest with ⟨hdigit, hpoint⟩
      have hne : ∀ cs, Exponent cs → cs ≠ [] := by
        rintro cs ⟨_, _⟩
        simp
      rw [Text.ofChars_append, List.append_assoc, readIntToken_append hint hdigit]
      simp [readFraction_absent hpoint, readExponent_append hexp hrest.noDigit, hne _ hexp]
    | both hint hfrac hexp =>
      have hne : ∀ cs, Fraction cs → cs ≠ [] := by
        rintro cs ⟨_, _⟩
        simp
      rw [Text.ofChars_append, Text.ofChars_append, List.append_assoc, List.append_assoc,
        readIntToken_append hint (hfrac.noDigit _)]
      simp [readFraction_append hfrac (hexp.noDigit rest).1, readExponent_append hexp hrest.noDigit,
        hne _ hfrac]

theorem readNumber_eq_some {text rest : Text} {tree : Tree}
    (h : readNumber text = some (tree, rest)) :
    ∃ token, NumberToken token tree ∧ text = Text.ofChars token ++ rest := by
  unfold readNumber at h
  rcases Option.map_eq_some_iff.mp h with ⟨⟨integer, tail⟩, hread, heq⟩
  rcases readIntToken_eq_some hread with ⟨hint, rfl⟩
  rcases readFraction_spec tail with ⟨htail, hfraction⟩
  rcases readExponent_spec (readFraction tail).2 with ⟨hrest, hexponent⟩
  dsimp only at heq
  split_ifs at heq with hplain
  · cases heq
    refine ⟨integer, .int hint, ?_⟩
    rw [hplain.1] at htail
    rw [hplain.2] at hrest
    exact congrArg (Text.ofChars integer ++ ·) (htail.trans hrest)
  · cases heq
    refine ⟨integer ++ ((readFraction tail).1 ++ (readExponent (readFraction tail).2).1),
      .float ?_, ?_⟩
    · rcases hfraction with hnone | hfraction
      · rcases hexponent with hnone' | hexponent
        · exact absurd ⟨hnone, hnone'⟩ hplain
        · rw [hnone]
          exact .exponent hint hexponent
      · rcases hexponent with hnone' | hexponent
        · rw [hnone', List.append_nil]
          exact .fraction hint hfraction
        · exact .both hint hfraction hexponent
    · rw [Text.ofChars_append, Text.ofChars_append, List.append_assoc, List.append_assoc, ← hrest,
        ← htail]

/-! ## Words -/

theorem afterToken_eq_some {token : List Char} {text rest : Text}
    (h : afterToken token text = some rest) : text = Text.ofChars token ++ rest := by
  induction token generalizing text with
  | nil =>
    cases h
    rfl
  | cons c token ih =>
    unfold afterToken at h
    split at h
    · rename_i heq
      cases heq
    · rename_i c' token' d tail heq
      cases heq
      split_ifs at h with hc
      rw [ih h, hc]
      rfl
    · cases h

theorem readWord_append {token : List Char} {tree : Tree} (h : (token, tree) ∈ words)
    (rest : Text) : readWord (Text.ofChars token ++ rest) = some (tree, rest) := by
  simp only [words, List.mem_cons, List.not_mem_nil, or_false, Prod.mk.injEq] at h
  rcases h with ⟨rfl, rfl⟩ | ⟨rfl, rfl⟩ | ⟨rfl, rfl⟩ | ⟨rfl, rfl⟩ | ⟨rfl, rfl⟩ | ⟨rfl, rfl⟩ <;> rfl

theorem readWord_eq_some {text rest : Text} {tree : Tree} (h : readWord text = some (tree, rest)) :
    ∃ token, (token, tree) ∈ words ∧ text = Text.ofChars token ++ rest := by
  rcases List.exists_of_findSome?_eq_some h with ⟨word, hword, hread⟩
  rcases Option.map_eq_some_iff.mp hread with ⟨tail, htail, heq⟩
  cases heq
  exact ⟨word.1, hword, afterToken_eq_some htail⟩

/-- No word begins like a number. -/
theorem readWord_number {token : List Char} {tree : Tree} (h : NumberToken token tree)
    (rest : Text) : readWord (Text.ofChars token ++ rest) = none := by
  have hpart : ∀ {cs : List Char} (more : Text), IntPart cs →
      readWord (Text.ofChars cs ++ more) = none ∧
        readWord (.scalar '-' :: (Text.ofChars cs ++ more)) = none := by
    intro cs more hcs
    rcases hcs.head with ⟨c, tail, rfl, hc⟩
    have hne : ∀ d, isDigitOf 10 d = false → d ≠ c := by
      rintro d hd rfl
      exact absurd hd (by simp [hc])
    simp [readWord, words, afterToken, hne 'n' (by decide), hne 't' (by decide),
      hne 'f' (by decide), hne 'N' (by decide), hne 'I' (by decide), hne '-' (by decide)]
  have htoken : ∀ {cs : List Char} (more : Text), IntToken cs →
      readWord (Text.ofChars cs ++ more) = none := by
    intro cs more hcs
    cases hcs with
    | plain hcs => exact (hpart more hcs).1
    | negative hcs => exact (hpart more hcs).2
  cases h with
  | int hint => exact htoken rest hint
  | float hfloat =>
    cases hfloat with
    | fraction hint _ =>
      rw [Text.ofChars_append, List.append_assoc]
      exact htoken _ hint
    | exponent hint _ =>
      rw [Text.ofChars_append, List.append_assoc]
      exact htoken _ hint
    | both hint _ _ =>
      rw [Text.ofChars_append, List.append_assoc]
      exact htoken _ hint

/-! ## Strings -/

theorem readHex_eq_some {text rest : Text} {n : ℕ} (h : readHex text = some (n, rest)) :
    rest.length < text.length := by
  unfold readHex at h
  split at h
  · simp only [Option.bind_eq_bind, Option.bind_eq_some_iff, Option.pure_def, Option.some.injEq,
      Prod.mk.injEq] at h
    rcases h with ⟨-, -, -, -, -, -, -, -, -, rfl⟩
    simp
    omega
  · cases h

theorem lowEscape_length {text rest : Text} {n : ℕ} (h : lowEscape text = some (n, rest)) :
    rest.length < text.length := by
  unfold lowEscape at h
  split at h
  · have := readHex_eq_some (Option.eq_some_of_filter_eq_some h)
    simp
    omega
  · cases h

theorem escape_length {text rest : Text} {c : CodePoint} (h : escape text = some (c, rest)) :
    rest.length < text.length := by
  unfold escape at h
  split at h
  · rcases Option.map_eq_some_iff.mp h with ⟨⟨n, tail⟩, hread, heq⟩
    have htail := readHex_eq_some hread
    dsimp only at heq
    split at heq
    · rename_i hlow
      cases heq
      have := lowEscape_length hlow
      simp
      omega
    · cases heq
      simp
      omega
  · rcases Option.map_eq_some_iff.mp h with ⟨d, -, heq⟩
    cases heq
    simp
  · cases h

theorem stringUnit_length {text rest : Text} {c : Option CodePoint}
    (h : stringUnit text = some (c, rest)) : rest.length < text.length := by
  unfold stringUnit at h
  split at h
  · cases h
    simp
  · rcases Option.map_eq_some_iff.mp h with ⟨⟨d, tail⟩, hread, heq⟩
    cases heq
    have := escape_length hread
    simp
    omega
  · split_ifs at h
    cases h
    simp
  · cases h

theorem StringBody.length {text value rest : Text} (h : StringBody text value rest) :
    rest.length < text.length := by
  induction h with
  | close hunit => exact stringUnit_length hunit
  | unit hunit _ ih =>
    have := stringUnit_length hunit
    omega

theorem StringBody.read {text value rest : Text} (h : StringBody text value rest) :
    ∀ fuel, text.length ≤ fuel + rest.length → readString fuel text = some (value, rest) := by
  induction h with
  | close hunit =>
    intro fuel hfuel
    have := stringUnit_length hunit
    cases fuel with
    | zero => omega
    | succ fuel => simp [readString, hunit]
  | unit hunit hbody ih =>
    intro fuel hfuel
    have := stringUnit_length hunit
    have := hbody.length
    cases fuel with
    | zero => omega
    | succ fuel => simp [readString, hunit, ih fuel (by omega)]

theorem readString_eq_some {fuel : ℕ} {text value rest : Text}
    (h : readString fuel text = some (value, rest)) : StringBody text value rest := by
  induction fuel generalizing text value with
  | zero => cases h
  | succ fuel ih =>
    rw [readString] at h
    split at h
    · cases h
    · rename_i hunit
      cases h
      exact .close hunit
    · rename_i hunit
      rcases Option.map_eq_some_iff.mp h with ⟨⟨more, tail⟩, hread, heq⟩
      cases heq
      exact .unit hunit (ih hread)

end ForensicData.Lib.JsonText
