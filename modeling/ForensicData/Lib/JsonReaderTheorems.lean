/-
ForensicData.Lib.JsonReaderTheorems — the reader against the grammar.

`Spells.read` runs the reader along a derivation of the grammar, and
`spells_of_read` finds a derivation for what the reader took; so `loads` returns
what the hooks make of the tree that the text spells, and only that
(`loads_eq_ok`).
-/
import ForensicData.Lib.JsonTokens

namespace ForensicData.Lib.JsonText

/-! ## Blanks -/

theorem Blanks.length {text rest : Text} (h : Blanks text rest) : rest.length ≤ text.length := by
  rcases h with ⟨blanks, -, rfl⟩
  simp

theorem blanks_skipBlank (text : Text) : Blanks text (skipBlank text) := by
  refine ⟨text.takeWhile isBlank, fun c hc => ?_, List.takeWhile_append_dropWhile.symm⟩
  exact List.all_eq_true.mp List.all_takeWhile c hc

/-- The blanks of a text end where something else begins. -/
theorem Blanks.skipBlank {text rest : Text} (h : Blanks text rest)
    (hrest : ∀ c, rest.head? = some c → isBlank c = false) : JsonText.skipBlank text = rest := by
  rcases h with ⟨blanks, hblanks, rfl⟩
  unfold JsonText.skipBlank
  rw [List.dropWhile_append_of_pos hblanks]
  cases rest with
  | nil => rfl
  | cons c rest => rw [List.dropWhile_cons_of_neg (by simp [hrest c rfl])]

theorem Blanks.skipBlank_cons {text rest : Text} {c : Char} (h : Blanks text (.scalar c :: rest))
    (hc : isBlank (.scalar c) = false) : JsonText.skipBlank text = .scalar c :: rest := by
  apply h.skipBlank
  intro d hd
  cases hd
  exact hc

/-- Neither blanks nor a delimiter continue a number. -/
theorem Blanks.ends {text rest : Text} (h : Blanks text rest) (hrest : Ends rest) : Ends text := by
  rcases h with ⟨blanks, hblanks, rfl⟩
  cases blanks with
  | nil => exact hrest
  | cons first blanks =>
    intro c hc
    cases hc
    have hblank := hblanks (.scalar c) List.mem_cons_self
    simp only [isBlank, Bool.or_eq_true, beq_iff_eq] at hblank
    rcases hblank with ((rfl | rfl) | rfl) | rfl <;> decide

theorem ends_cons {c : Char} {rest : Text}
    (h : isDigitOf 10 c = false ∧ c ≠ '.' ∧ c ≠ 'e' ∧ c ≠ 'E') : Ends (.scalar c :: rest) := by
  intro d hd
  cases hd
  exact h

theorem ends_nil : Ends [] := by
  intro c hc
  cases hc

/-! ## How a part begins -/

/-- The first character of a value that is a word or a number. -/
def OpensScalar (c : Char) : Prop :=
  isBlank (.scalar c) = false ∧ c ≠ '"' ∧ c ≠ '[' ∧ c ≠ '\x7b' ∧ c ≠ ']' ∧ c ≠ '\x7d'

theorem opensScalar_digit {c : Char} (h : isDigitOf 10 c = true) : OpensScalar c := by
  have hne : ∀ d, isDigitOf 10 d = false → c ≠ d := by
    rintro d hd rfl
    exact absurd hd (by simp [h])
  refine ⟨?_, hne _ (by decide), hne _ (by decide), hne _ (by decide), hne _ (by decide),
    hne _ (by decide)⟩
  simp [isBlank, hne ' ' (by decide), hne '\t' (by decide), hne '\n' (by decide),
    hne '\r' (by decide)]

theorem NumberToken.opens {token : List Char} {tree : Tree} (h : NumberToken token tree) :
    ∃ c tail, token = c :: tail ∧ OpensScalar c := by
  have hint : ∀ {cs : List Char}, IntToken cs → ∃ c tail, cs = c :: tail ∧ OpensScalar c := by
    intro cs hcs
    cases hcs with
    | plain hpart =>
      rcases hpart.head with ⟨c, tail, rfl, hc⟩
      exact ⟨c, tail, rfl, opensScalar_digit hc⟩
    | negative hpart =>
      refine ⟨'-', _, rfl, ?_⟩
      unfold OpensScalar
      decide
  have happend : ∀ {cs more : List Char}, IntToken cs →
      ∃ c tail, cs ++ more = c :: tail ∧ OpensScalar c := by
    intro cs more hcs
    rcases hint hcs with ⟨c, tail, rfl, hc⟩
    exact ⟨c, tail ++ more, rfl, hc⟩
  cases h with
  | int h => exact hint h
  | float h =>
    cases h with
    | fraction h _ => exact happend h
    | exponent h _ => exact happend h
    | both h _ _ => exact happend h

theorem words_opens {token : List Char} {tree : Tree} (h : (token, tree) ∈ words) :
    ∃ c tail, token = c :: tail ∧ OpensScalar c := by
  simp only [words, List.mem_cons, List.not_mem_nil, or_false, Prod.mk.injEq] at h
  rcases h with ⟨rfl, -⟩ | ⟨rfl, -⟩ | ⟨rfl, -⟩ | ⟨rfl, -⟩ | ⟨rfl, -⟩ | ⟨rfl, -⟩ <;>
    exact ⟨_, _, rfl, by unfold OpensScalar; decide⟩

/-- A part begins with a character that is neither a blank nor a closing bracket. -/
theorem Spells.opens {part : Part} {text rest : Text} (h : Spells part text rest) :
    ∃ c tail, text = .scalar c :: tail ∧ isBlank (.scalar c) = false ∧ c ≠ ']' ∧ c ≠ '\x7d' := by
  induction h with
  | word hword =>
    rcases words_opens hword with ⟨c, tail, rfl, hc⟩
    exact ⟨c, _, rfl, hc.1, hc.2.2.2.2.1, hc.2.2.2.2.2⟩
  | number hnumber =>
    rcases hnumber.opens with ⟨c, tail, rfl, hc⟩
    exact ⟨c, _, rfl, hc.1, hc.2.2.2.2.1, hc.2.2.2.2.2⟩
  | lastItem _ _ ih => exact ih
  | item _ _ _ _ ih _ => exact ih
  | _ => exact ⟨_, _, rfl, by decide, by decide, by decide⟩

theorem Blanks.skipBlank_spells {part : Part} {text inner rest : Text} (h : Blanks text inner)
    (hspells : Spells part inner rest) : JsonText.skipBlank text = inner := by
  rcases hspells.opens with ⟨c, tail, rfl, hc, -, -⟩
  exact h.skipBlank_cons hc

theorem Spells.length {part : Part} {text rest : Text} (h : Spells part text rest) :
    rest.length < text.length := by
  induction h with
  | word hword =>
    rcases words_opens hword with ⟨c, tail, rfl, -⟩
    simp only [Text.ofChars_cons, List.cons_append, List.length_cons, List.length_append]
    omega
  | number hnumber =>
    rcases hnumber.opens with ⟨c, tail, rfl, -⟩
    simp only [Text.ofChars_cons, List.cons_append, List.length_cons, List.length_append]
    omega
  | string hbody =>
    have := hbody.length
    simp
    omega
  | emptyArray hblanks =>
    have := hblanks.length
    simp at this ⊢
    omega
  | array hblanks _ ih =>
    have := hblanks.length
    simp
    omega
  | emptyObject hblanks =>
    have := hblanks.length
    simp at this ⊢
    omega
  | object hblanks _ ih =>
    have := hblanks.length
    simp
    omega
  | lastItem _ hblanks ih =>
    have := hblanks.length
    simp at this
    omega
  | item _ hcomma hblanks _ ih ih' =>
    have := hcomma.length
    have := hblanks.length
    simp at *
    omega
  | lastMember hname hcolon hinner _ hclose ih =>
    have := hname.length
    have := hcolon.length
    have := hinner.length
    have := hclose.length
    simp at *
    omega
  | member hname hcolon hinner _ hcomma hmore _ ih ih' =>
    have := hname.length
    have := hcolon.length
    have := hinner.length
    have := hcomma.length
    have := hmore.length
    simp at *
    omega

/-! ## Along a derivation -/

section Reading

variable {ε β : Type} (hooks : Hooks ε β)

/-- The reader takes a part off the front of a text. -/
def Part.Reads : Part → Text → Text → Prop
  | .value tree, text, rest => Ends rest → ∀ fuel, 2 * text.length ≤ fuel + 2 * rest.length →
      readValue hooks fuel text = (tree.build hooks).map fun value => (value, rest)
  | .items trees, text, rest => ∀ fuel, 2 * text.length ≤ fuel + 2 * rest.length →
      readItems hooks fuel text = (buildItems hooks trees).map fun values => (values, rest)
  | .members entries, text, rest => ∀ fuel, 2 * text.length ≤ fuel + 2 * rest.length →
      readMembers hooks fuel text = (buildMembers hooks entries).map fun values => (values, rest)

/-- A word or a number is no string, array or object. -/
theorem readValue_scalar {fuel : ℕ} {c : Char} {tail : Text} (hc : OpensScalar c) :
    readValue hooks (fuel + 1) (.scalar c :: tail) = readScalar hooks (.scalar c :: tail) := by
  rw [readValue]
  · intro rest h
    cases h
    exact hc.2.1 rfl
  · intro rest h
    cases h
    exact hc.2.2.1 rfl
  · intro rest h
    cases h
    exact hc.2.2.2.1 rfl

theorem readName_eq {text name afterName colon inner : Text} {fuel : ℕ}
    (hname : StringBody text name afterName) (hfuel : text.length ≤ fuel + afterName.length)
    (hcolon : Blanks afterName (.scalar ':' :: colon)) (hinner : skipBlank colon = inner) :
    readName hooks fuel (.scalar '"' :: text) = .ok (name, inner) := by
  rw [readName, hname.read fuel hfuel]
  simp only [hcolon.skipBlank_cons (by decide), hinner]

theorem Spells.read {part : Part} {text rest : Text} (h : Spells part text rest) :
    part.Reads hooks text rest := by
  induction h with
  | word hword =>
    intro _ fuel hfuel
    rcases words_opens hword with ⟨c, tail, rfl, hc⟩
    cases fuel with
    | zero =>
      simp only [Text.ofChars_cons, List.cons_append, List.length_cons, List.length_append] at hfuel
      omega
    | succ fuel =>
      rw [Text.ofChars_cons, List.cons_append, readValue_scalar hooks hc, readScalar,
        ← List.cons_append, ← Text.ofChars_cons, readWord_append hword]
      rfl
  | number hnumber =>
    intro hends fuel hfuel
    rcases hnumber.opens with ⟨c, tail, rfl, hc⟩
    cases fuel with
    | zero =>
      simp only [Text.ofChars_cons, List.cons_append, List.length_cons, List.length_append] at hfuel
      omega
    | succ fuel =>
      rw [Text.ofChars_cons, List.cons_append, readValue_scalar hooks hc, readScalar,
        ← List.cons_append, ← Text.ofChars_cons, readWord_number hnumber, hnumber.read hends]
      rfl
  | string hbody =>
    intro _ fuel hfuel
    have := hbody.length
    cases fuel with
    | zero => simp at hfuel; omega
    | succ fuel =>
      simp only [List.length_cons] at hfuel
      rw [readValue, hbody.read fuel (by omega)]
      rfl
  | emptyArray hblanks =>
    intro _ fuel hfuel
    have := hblanks.length
    cases fuel with
    | zero => simp at hfuel this; omega
    | succ fuel =>
      rw [readValue, hblanks.skipBlank_cons (by decide)]
      rfl
  | array hblanks hitems ih =>
    intro _ fuel hfuel
    have := hblanks.length
    have := hitems.length
    cases fuel with
    | zero => simp at hfuel; omega
    | succ fuel =>
      simp only [List.length_cons] at hfuel
      rcases hitems.opens with ⟨c, tail, rfl, -, hc, -⟩
      rw [readValue, hblanks.skipBlank_spells hitems]
      split
      · rename_i heq
        cases heq
        exact absurd rfl hc
      · rw [ih fuel (by omega), Tree.build]
        cases buildItems hooks _ <;> rfl
  | emptyObject hblanks =>
    intro _ fuel hfuel
    have := hblanks.length
    cases fuel with
    | zero => simp at hfuel this; omega
    | succ fuel =>
      rw [readValue, hblanks.skipBlank_cons (by decide)]
      rfl
  | object hblanks hmembers ih =>
    intro _ fuel hfuel
    have := hblanks.length
    have := hmembers.length
    cases fuel with
    | zero => simp at hfuel; omega
    | succ fuel =>
      simp only [List.length_cons] at hfuel
      rcases hmembers.opens with ⟨c, tail, rfl, -, -, hc⟩
      rw [readValue, hblanks.skipBlank_spells hmembers]
      split
      · rename_i heq
        cases heq
        exact absurd rfl hc
      · rw [ih fuel (by omega), Tree.build]
        cases buildMembers hooks _ <;> rfl
  | lastItem hvalue hclose ih =>
    intro fuel hfuel
    have := hvalue.length
    have := hclose.length
    simp only [List.length_cons] at this
    cases fuel with
    | zero => omega
    | succ fuel =>
      rw [readItems, ih (hclose.ends (ends_cons (by decide))) fuel (by omega), buildItems]
      cases Tree.build hooks _ with
      | error _ => rfl
      | ok value =>
        dsimp only [bind, Except.bind, Except.map]
        rw [hclose.skipBlank_cons (by decide)]
        rfl
  | item hvalue hcomma hblanks hitems ih ih' =>
    intro fuel hfuel
    have := hvalue.length
    have := hcomma.length
    have := hblanks.length
    have := hitems.length
    simp only [List.length_cons] at *
    cases fuel with
    | zero => omega
    | succ fuel =>
      rw [readItems, ih (hcomma.ends (ends_cons (by decide))) fuel (by omega), buildItems]
      cases Tree.build hooks _ with
      | error _ => rfl
      | ok value =>
        dsimp only [bind, Except.bind, Except.map]
        rw [hcomma.skipBlank_cons (by decide)]
        show (readItems hooks fuel (skipBlank _)).map _ = _
        rw [hblanks.skipBlank_spells hitems, ih' fuel (by omega)]
        cases buildItems hooks _ <;> rfl
  | lastMember hname hcolon hinner hvalue hclose ih =>
    intro fuel hfuel
    have := hname.length
    have := hcolon.length
    have := hinner.length
    have := hvalue.length
    have := hclose.length
    simp only [List.length_cons] at *
    cases fuel with
    | zero => omega
    | succ fuel =>
      rw [readMembers, readName_eq hooks hname (by omega) hcolon (hinner.skipBlank_spells hvalue)]
      show (readValue hooks fuel _ >>= fun value => _) = _
      rw [ih (hclose.ends (ends_cons (by decide))) fuel (by omega), buildMembers]
      cases Tree.build hooks _ with
      | error _ => rfl
      | ok value =>
        dsimp only [bind, Except.bind, Except.map]
        rw [hclose.skipBlank_cons (by decide)]
        rfl
  | member hname hcolon hinner hvalue hcomma hmore hmembers ih ih' =>
    intro fuel hfuel
    have := hname.length
    have := hcolon.length
    have := hinner.length
    have := hvalue.length
    have := hcomma.length
    have := hmore.length
    have := hmembers.length
    simp only [List.length_cons] at *
    cases fuel with
    | zero => omega
    | succ fuel =>
      rw [readMembers, readName_eq hooks hname (by omega) hcolon (hinner.skipBlank_spells hvalue)]
      show (readValue hooks fuel _ >>= fun value => _) = _
      rw [ih (hcomma.ends (ends_cons (by decide))) fuel (by omega), buildMembers]
      cases Tree.build hooks _ with
      | error _ => rfl
      | ok value =>
        dsimp only [bind, Except.bind, Except.map]
        rw [hcomma.skipBlank_cons (by decide)]
        show (readMembers hooks fuel (skipBlank _)).map _ = _
        rw [hmore.skipBlank_spells hmembers, ih' fuel (by omega)]
        cases buildMembers hooks _ <;> rfl

/-! ## A derivation for what was read -/

theorem map_eq_ok {α γ : Type} {x : Except ε α} {f : α → γ} {c : γ} :
    x.map f = .ok c ↔ ∃ a, x = .ok a ∧ f a = c := by
  cases x <;> simp [Except.map]

theorem exceptBind_eq_ok {α γ : Type} {x : Except ε α} {f : α → Except ε γ} {c : γ} :
    (x >>= f) = .ok c ↔ ∃ a, x = .ok a ∧ f a = .ok c := by
  cases x <;> simp [bind, Except.bind]

theorem readScalar_eq_ok {text rest : Text} {value : β}
    (h : readScalar hooks text = .ok (value, rest)) :
    ∃ tree, Spells (.value tree) text rest ∧ tree.build hooks = .ok value := by
  unfold readScalar at h
  split at h
  · cases h
  · rename_i read hread
    rcases read with ⟨tree, tail⟩
    rcases map_eq_ok.mp h with ⟨built, hbuild, heq⟩
    cases heq
    refine ⟨tree, ?_, hbuild⟩
    rcases Option.or_eq_some_iff.mp hread with hword | ⟨-, hnumber⟩
    · rcases readWord_eq_some hword with ⟨token, hmem, rfl⟩
      exact .word hmem
    · rcases readNumber_eq_some hnumber with ⟨token, htoken, rfl⟩
      exact .number htoken

theorem readName_eq_ok {fuel : ℕ} {text name inner : Text}
    (h : readName hooks fuel text = .ok (name, inner)) :
    ∃ body afterName colon, text = .scalar '"' :: body ∧ StringBody body name afterName ∧
      Blanks afterName (.scalar ':' :: colon) ∧ Blanks colon inner := by
  unfold readName at h
  split at h
  · rename_i body
    split at h
    · cases h
    · rename_i read hread
      split at h
      · rename_i colon hcolon
        cases h
        refine ⟨body, read.2, colon, rfl, readString_eq_some hread, ?_, blanks_skipBlank colon⟩
        rw [← hcolon]
        exact blanks_skipBlank read.2
      · cases h
  · cases h

theorem spells_of_read (fuel : ℕ) :
    (∀ text value rest, readValue hooks fuel text = .ok (value, rest) →
      ∃ tree, Spells (.value tree) text rest ∧ tree.build hooks = .ok value) ∧
    (∀ text values rest, readItems hooks fuel text = .ok (values, rest) →
      ∃ items, Spells (.items items) text rest ∧ buildItems hooks items = .ok values) ∧
    ∀ text values rest, readMembers hooks fuel text = .ok (values, rest) →
      ∃ members, Spells (.members members) text rest ∧ buildMembers hooks members = .ok values := by
  induction fuel with
  | zero =>
    refine ⟨?_, ?_, ?_⟩ <;> intro text value rest h <;> cases h
  | succ fuel ih =>
    rcases ih with ⟨ihValue, ihItems, ihMembers⟩
    refine ⟨?_, ?_, ?_⟩
    · intro text value rest h
      rw [readValue.eq_def] at h
      dsimp only at h
      split at h
      · split at h
        · cases h
        · rename_i read hread
          cases h
          exact ⟨.string read.1, .string (readString_eq_some hread), rfl⟩
      · rename_i tail
        split at h
        · rename_i hclose
          cases h
          refine ⟨.array [], .emptyArray ?_, rfl⟩
          rw [← hclose]
          exact blanks_skipBlank tail
        · rcases map_eq_ok.mp h with ⟨⟨values, after⟩, hread, heq⟩
          cases heq
          rcases ihItems _ _ _ hread with ⟨items, hspells, hbuild⟩
          refine ⟨.array items, .array (blanks_skipBlank tail) hspells, ?_⟩
          rw [Tree.build, hbuild]
          rfl
      · rename_i tail
        split at h
        · rename_i hclose
          rcases map_eq_ok.mp h with ⟨built, hbuild, heq⟩
          cases heq
          refine ⟨.object [], .emptyObject ?_, ?_⟩
          · rw [← hclose]
            exact blanks_skipBlank tail
          · rw [Tree.build]
            exact hbuild
        · rcases exceptBind_eq_ok.mp h with ⟨⟨values, after⟩, hread, h⟩
          rcases map_eq_ok.mp h with ⟨built, hbuild, heq⟩
          cases heq
          rcases ihMembers _ _ _ hread with ⟨members, hspells, hmembers⟩
          refine ⟨.object members, .object (blanks_skipBlank tail) hspells, ?_⟩
          rw [Tree.build, hmembers]
          exact hbuild
      · exact readScalar_eq_ok hooks h
    · intro text values rest h
      rw [readItems] at h
      rcases exceptBind_eq_ok.mp h with ⟨⟨value, after⟩, hread, h⟩
      rcases ihValue _ _ _ hread with ⟨tree, hspells, hbuild⟩
      dsimp only at h
      split at h
      · rename_i hclose
        cases h
        refine ⟨[tree], .lastItem hspells ?_, ?_⟩
        · rw [← hclose]
          exact blanks_skipBlank after
        · rw [buildItems, hbuild]
          rfl
      · rename_i comma hcomma
        rcases map_eq_ok.mp h with ⟨⟨more, tail⟩, hmore, heq⟩
        cases heq
        rcases ihItems _ _ _ hmore with ⟨items, hitems, hbuilds⟩
        refine ⟨tree :: items, .item hspells ?_ (blanks_skipBlank comma) hitems, ?_⟩
        · rw [← hcomma]
          exact blanks_skipBlank after
        · rw [buildItems, hbuild, hbuilds]
          rfl
      · cases h
    · intro text values rest h
      rw [readMembers] at h
      rcases exceptBind_eq_ok.mp h with ⟨⟨name, inner⟩, hname, hvalue⟩
      rcases readName_eq_ok hooks hname with
        ⟨body, afterName, colon, rfl, hbody, hcolon, hinner⟩
      clear h
      rcases exceptBind_eq_ok.mp hvalue with ⟨⟨value, after⟩, hread, h⟩
      rcases ihValue _ _ _ hread with ⟨tree, hspells, hbuild⟩
      dsimp only at h
      split at h
      · rename_i hclose
        cases h
        refine ⟨[(name, tree)], .lastMember hbody hcolon hinner hspells ?_, ?_⟩
        · rw [← hclose]
          exact blanks_skipBlank after
        · rw [buildMembers, hbuild]
          rfl
      · rename_i comma hcomma
        rcases map_eq_ok.mp h with ⟨⟨more, tail⟩, hmore, heq⟩
        cases heq
        rcases ihMembers _ _ _ hmore with ⟨members, hmembers, hbuilds⟩
        refine ⟨(name, tree) :: members,
          .member hbody hcolon hinner hspells ?_ (blanks_skipBlank comma) hmembers, ?_⟩
        · rw [← hcomma]
          exact blanks_skipBlank after
        · rw [buildMembers, hbuild, hbuilds]
          rfl
      · cases h

/-! ## Whole texts -/

/-- A document is read as the hooks build its tree. -/
theorem Document.loads {text : Text} {tree : Tree} (h : Document text tree) :
    JsonText.loads hooks text = tree.build hooks := by
  rcases h with ⟨inner, rest, hinner, hspells, hrest⟩
  have hlength := hinner.length
  have hends : Ends rest := hrest.ends ends_nil
  rw [JsonText.loads, hinner.skipBlank_spells hspells, hspells.read hooks hends _ (by omega)]
  cases tree.build hooks with
  | error _ => rfl
  | ok value =>
    have hnone : skipBlank rest = [] := hrest.skipBlank (by simp)
    simp [bind, Except.bind, Except.map, hnone]

/-- A text is read exactly when it spells a tree that the hooks take. -/
theorem loads_eq_ok {text : Text} {value : β} :
    loads hooks text = .ok value ↔ ∃ tree, Document text tree ∧ tree.build hooks = .ok value := by
  constructor
  · intro h
    rcases exceptBind_eq_ok.mp h with ⟨⟨read, rest⟩, hread, h⟩
    rcases (spells_of_read hooks _).1 _ _ _ hread with ⟨tree, hspells, hbuild⟩
    dsimp only at h
    split at h
    · rename_i hend
      cases h
      refine ⟨tree, ⟨skipBlank text, rest, blanks_skipBlank text, hspells, ?_⟩, hbuild⟩
      rw [← hend]
      exact blanks_skipBlank rest
    · cases h
  · rintro ⟨tree, hdocument, hbuild⟩
    rw [hdocument.loads hooks, hbuild]

end Reading

/-! ## One tree -/

/-- The tree as its own value. -/
def treeHooks : Hooks Unit Tree where
  malformed := ()
  null := .null
  bool := .bool
  string := .string
  array := .array
  int token := .ok (.int token)
  float token := .ok (.float token)
  constant token := .ok (.constant token)
  object members := .ok (.object members)

mutual

theorem Tree.build_treeHooks (tree : Tree) : tree.build treeHooks = .ok tree := by
  match tree with
  | .null => rfl
  | .bool _ => rfl
  | .int _ => rfl
  | .float _ => rfl
  | .constant _ => rfl
  | .string _ => rfl
  | .array items =>
    rw [Tree.build, buildItems_treeHooks items]
    rfl
  | .object members =>
    rw [Tree.build, buildMembers_treeHooks members]
    rfl

theorem buildItems_treeHooks (items : List Tree) : buildItems treeHooks items = .ok items := by
  match items with
  | [] => rfl
  | item :: items =>
    rw [buildItems, Tree.build_treeHooks item, buildItems_treeHooks items]
    rfl

theorem buildMembers_treeHooks (members : List (Text × Tree)) :
    buildMembers treeHooks members = .ok members := by
  match members with
  | [] => rfl
  | (name, value) :: members =>
    rw [buildMembers, Tree.build_treeHooks value, buildMembers_treeHooks members]
    rfl

end

/-- The tree of a text is what it is read as. -/
theorem document_iff_loads {text : Text} {tree : Tree} :
    Document text tree ↔ loads treeHooks text = .ok tree := by
  simp only [loads_eq_ok, Tree.build_treeHooks, Except.ok.injEq, exists_eq_right]

/-- No text spells two trees. -/
theorem Document.unique {text : Text} {tree other : Tree} (h : Document text tree)
    (hother : Document text other) : tree = other := by
  have hread := document_iff_loads.mp h
  rw [document_iff_loads.mp hother] at hread
  exact (Except.ok.inj hread).symm

end ForensicData.Lib.JsonText
