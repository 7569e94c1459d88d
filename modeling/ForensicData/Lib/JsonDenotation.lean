/-
ForensicData.Lib.JsonDenotation — trees and loaded values that denote a JSON value.

A tree denotes a value in any order of its members and any spelling of its
strings and integers. What is loaded from a text denotes a value exactly when the
tree of the text does (`loads_denotes`). A loaded object is read by its keys:
`denotes_dict_iff` says which keys it has and what stands under each.
-/
import ForensicData.Lib.PyValue

namespace ForensicData.Lib

open JsonText

/-! ## Denotation -/

namespace JsonText

mutual

/-- The tree is that of the value, up to the order of members and to spelling. -/
def Denotes : Tree → Json → Prop
  | .null, .null => True
  | .bool b, .bool c => b = c
  | .int token, .int n => readPythonInt token = some n
  | .string text, .string s => text = Text.ofString s
  | .array items, .array values => DenotesItems items values
  | .object members, .object values => ∃ rearranged, members.Perm rearranged ∧
      DenotesMembers rearranged values
  | _, _ => False
termination_by structural _ json => json

def DenotesItems : List Tree → List Json → Prop
  | [], [] => True
  | item :: items, value :: values => Denotes item value ∧ DenotesItems items values
  | _, _ => False
termination_by structural _ values => values

def DenotesMembers : List (Text × Tree) → List (String × Json) → Prop
  | [], [] => True
  | (key, item) :: members, (name, value) :: values =>
    key = Text.ofString name ∧ Denotes item value ∧ DenotesMembers members values
  | _, _ => False
termination_by structural _ values => values

end

theorem denotesItems_iff {items : List Tree} {values : List Json} :
    DenotesItems items values ↔ List.Forall₂ Denotes items values := by
  induction values generalizing items with
  | nil => cases items <;> simp [DenotesItems]
  | cons value values ih => cases items <;> simp [DenotesItems, ih]

theorem denotesMembers_iff {members : List (Text × Tree)} {values : List (String × Json)} :
    DenotesMembers members values ↔
      List.Forall₂ (fun member value => member.1 = Text.ofString value.1 ∧
        Denotes member.2 value.2) members values := by
  induction values generalizing members with
  | nil => cases members <;> simp [DenotesMembers]
  | cons value values ih => cases members <;> simp [DenotesMembers, ih, and_assoc]

end JsonText

namespace PyValue

mutual

/-- The loaded value is the JSON value, up to the order of members. -/
def Denotes : PyValue → Json → Prop
  | .none, .null => True
  | .bool b, .bool c => b = c
  | .int n, .int m => n = m
  | .str text, .string s => text = Text.ofString s
  | .list items, .array values => DenotesItems items values
  | .dict members, .object values => ∃ rearranged, members.Perm rearranged ∧
      DenotesMembers rearranged values
  | _, _ => False
termination_by structural _ json => json

def DenotesItems : List PyValue → List Json → Prop
  | [], [] => True
  | item :: items, value :: values => Denotes item value ∧ DenotesItems items values
  | _, _ => False
termination_by structural _ values => values

def DenotesMembers : List (Text × PyValue) → List (String × Json) → Prop
  | [], [] => True
  | (key, item) :: members, (name, value) :: values =>
    key = Text.ofString name ∧ Denotes item value ∧ DenotesMembers members values
  | _, _ => False
termination_by structural _ values => values

end

theorem denotesItems_iff {items : List PyValue} {values : List Json} :
    DenotesItems items values ↔ List.Forall₂ Denotes items values := by
  induction values generalizing items with
  | nil => cases items <;> simp [DenotesItems]
  | cons value values ih => cases items <;> simp [DenotesItems, ih]

theorem denotesMembers_iff {members : List (Text × PyValue)} {values : List (String × Json)} :
    DenotesMembers members values ↔
      List.Forall₂ (fun member value => member.1 = Text.ofString value.1 ∧
        Denotes member.2 value.2) members values := by
  induction values generalizing members with
  | nil => cases members <;> simp [DenotesMembers]
  | cons value values ih => cases members <;> simp [DenotesMembers, ih, and_assoc]

end PyValue

/-! ## Loading -/

section Loading

variable {ε : Type} {faults : JsonFaults ε}

/-- An item or a member is built on its own. -/
theorem buildItems_eq_ok {items : List Tree} {values : List PyValue} :
    buildItems (loadHooks faults) items = .ok values ↔
      List.Forall₂ (fun item value => item.build (loadHooks faults) = .ok value) items values := by
  induction items generalizing values with
  | nil => simp [buildItems, eq_comm]
  | cons item items ih =>
    rw [buildItems, exceptBind_eq_ok]
    simp only [map_eq_ok, ih]
    constructor
    · rintro ⟨value, hvalue, more, hmore, rfl⟩
      exact .cons hvalue hmore
    · rintro (_ | ⟨hvalue, hmore⟩)
      exact ⟨_, hvalue, _, hmore, rfl⟩

theorem buildMembers_eq_ok {members : List (Text × Tree)} {values : List (Text × PyValue)} :
    buildMembers (loadHooks faults) members = .ok values ↔
      List.Forall₂ (fun member value => member.1 = value.1 ∧
        member.2.build (loadHooks faults) = .ok value.2) members values := by
  induction members generalizing values with
  | nil => simp [buildMembers, eq_comm]
  | cons member members ih =>
    rcases member with ⟨key, tree⟩
    rw [buildMembers, exceptBind_eq_ok]
    simp only [map_eq_ok, ih]
    constructor
    · rintro ⟨value, hvalue, more, hmore, rfl⟩
      exact .cons ⟨rfl, hvalue⟩ hmore
    · intro h
      cases h with
      | cons hfirst hmore =>
        rename_i first more
        rcases first with ⟨key', value⟩
        rcases hfirst with ⟨rfl, hvalue⟩
        exact ⟨value, hvalue, more, hmore, rfl⟩

/-- A loaded object holds the members of its tree, each key once. -/
theorem build_object_eq_ok {members : List (Text × Tree)} {value : PyValue} :
    (Tree.object members).build (loadHooks faults) = .ok value ↔
      ∃ values, value = .dict values ∧ (values.map Prod.fst).Nodup ∧
        List.Forall₂ (fun member value => member.1 = value.1 ∧
          member.2.build (loadHooks faults) = .ok value.2) members values := by
  rw [Tree.build, exceptBind_eq_ok]
  simp only [loadHooks_object_eq_ok, buildMembers_eq_ok]
  constructor
  · rintro ⟨values, hvalues, rfl, hnodup⟩
    exact ⟨values, rfl, hnodup, hvalues⟩
  · rintro ⟨values, rfl, hnodup, hvalues⟩
    exact ⟨values, hvalues, rfl, hnodup⟩

mutual

/-- What is loaded denotes what its tree denotes. -/
theorem denotes_of_build (json : Json) {tree : Tree} {value : PyValue}
    (h : tree.build (loadHooks faults) = .ok value) :
    value.Denotes json ↔ JsonText.Denotes tree json := by
  cases tree with
  | null =>
    obtain rfl : value = .none := (Except.ok.inj h).symm
    cases json <;> simp [PyValue.Denotes, JsonText.Denotes]
  | bool b =>
    obtain rfl : value = .bool b := (Except.ok.inj h).symm
    cases json <;> simp [PyValue.Denotes, JsonText.Denotes]
  | int token =>
    have hread : readPythonInt token = none ∨
        ∃ n, readPythonInt token = some n ∧ value = .int n := by
      cases hint : readPythonInt token with
      | none => exact .inl rfl
      | some n =>
        simp only [Tree.build, loadHooks, hint, Option.elim_some, Except.ok.injEq] at h
        exact .inr ⟨n, rfl, h.symm⟩
    rcases hread with hnone | ⟨n, hsome, rfl⟩
    · simp [Tree.build, loadHooks, hnone] at h
    · cases json <;> simp [PyValue.Denotes, JsonText.Denotes, hsome]
  | float token => cases h
  | constant token => cases h
  | string text =>
    obtain rfl : value = .str text := (Except.ok.inj h).symm
    cases json <;> simp [PyValue.Denotes, JsonText.Denotes]
  | array items =>
    rw [Tree.build] at h
    rcases map_eq_ok.mp h with ⟨values, hvalues, hvalue⟩
    obtain rfl : value = .list values := hvalue.symm
    match json with
    | .array own =>
      show PyValue.DenotesItems values own ↔ JsonText.DenotesItems items own
      exact denotesItems_of_build own (buildItems_eq_ok.mp hvalues)
    | .null => simp [PyValue.Denotes, JsonText.Denotes]
    | .bool _ => simp [PyValue.Denotes, JsonText.Denotes]
    | .int _ => simp [PyValue.Denotes, JsonText.Denotes]
    | .string _ => simp [PyValue.Denotes, JsonText.Denotes]
    | .object _ => simp [PyValue.Denotes, JsonText.Denotes]
  | object members =>
    rcases build_object_eq_ok.mp h with ⟨values, rfl, -, hvalues⟩
    match json with
    | .object own =>
      constructor
      · rintro ⟨rearranged, hperm, hdenotes⟩
        rcases List.perm_comp_forall₂ hperm.symm hvalues.flip with ⟨other, hother, hmembers⟩
        exact ⟨other, hmembers.symm, (denotesMembers_of_build own hother.flip).mp hdenotes⟩
      · rintro ⟨rearranged, hperm, hdenotes⟩
        rcases List.perm_comp_forall₂ hperm.symm hvalues with ⟨other, hother, hmembers⟩
        exact ⟨other, hmembers.symm, (denotesMembers_of_build own hother).mpr hdenotes⟩
    | .null => simp [PyValue.Denotes, JsonText.Denotes]
    | .bool _ => simp [PyValue.Denotes, JsonText.Denotes]
    | .int _ => simp [PyValue.Denotes, JsonText.Denotes]
    | .string _ => simp [PyValue.Denotes, JsonText.Denotes]
    | .array _ => simp [PyValue.Denotes, JsonText.Denotes]

theorem denotesItems_of_build (own : List Json) {items : List Tree} {values : List PyValue}
    (h : List.Forall₂ (fun item value => item.build (loadHooks faults) = .ok value) items values) :
    PyValue.DenotesItems values own ↔ JsonText.DenotesItems items own := by
  match own with
  | [] => cases h <;> simp [PyValue.DenotesItems, JsonText.DenotesItems]
  | json :: own =>
    cases h with
    | nil => simp [PyValue.DenotesItems, JsonText.DenotesItems]
    | cons hfirst hmore =>
      rw [PyValue.DenotesItems, JsonText.DenotesItems, denotes_of_build json hfirst,
        denotesItems_of_build own hmore]

theorem denotesMembers_of_build (own : List (String × Json)) {members : List (Text × Tree)}
    {values : List (Text × PyValue)}
    (h : List.Forall₂ (fun member value => member.1 = value.1 ∧
      member.2.build (loadHooks faults) = .ok value.2) members values) :
    PyValue.DenotesMembers values own ↔ JsonText.DenotesMembers members own := by
  match own with
  | [] => cases h <;> simp [PyValue.DenotesMembers, JsonText.DenotesMembers]
  | (name, json) :: own =>
    cases h with
    | nil => simp [PyValue.DenotesMembers, JsonText.DenotesMembers]
    | cons hfirst hmore =>
      rename_i member value members values
      rcases member with ⟨key, tree⟩
      rcases value with ⟨key', value⟩
      rcases hfirst with ⟨rfl, hbuild⟩
      rw [PyValue.DenotesMembers, JsonText.DenotesMembers, denotes_of_build json hbuild,
        denotesMembers_of_build own hmore]

end

mutual

/-- A tree that denotes a value without repeated names is loaded. -/
theorem build_of_denotes (json : Json) {tree : Tree} (hnames : json.NamesOnce)
    (h : JsonText.Denotes tree json) :
    ∃ value, tree.build (loadHooks faults) = .ok value := by
  match json, tree with
  | .null, .null => exact ⟨_, rfl⟩
  | .bool _, .bool _ => exact ⟨_, rfl⟩
  | .int n, .int token =>
    have hread : readPythonInt token = some n := h
    exact ⟨.int n, by simp [Tree.build, loadHooks, hread]⟩
  | .string _, .string _ => exact ⟨_, rfl⟩
  | .array own, .array items =>
    rcases buildItems_of_denotes own hnames h with ⟨values, hvalues⟩
    exact ⟨.list values, by rw [Tree.build, hvalues]; rfl⟩
  | .object own, .object members =>
    rcases h with ⟨rearranged, hperm, hdenotes⟩
    rcases buildMembers_of_denotes own hnames.2 hdenotes with ⟨values, hvalues, hkeys⟩
    rcases List.perm_comp_forall₂ hperm (buildMembers_eq_ok.mp hvalues) with
      ⟨other, hother, hvalues'⟩
    refine ⟨.dict other, build_object_eq_ok.mpr ⟨other, rfl, ?_, hother⟩⟩
    rw [(hvalues'.map Prod.fst).nodup_iff, hkeys]
    exact hnames.1.map Text.ofString_injective

theorem buildItems_of_denotes (own : List Json) {items : List Tree}
    (hnames : Json.NamesOnceItems own) (h : JsonText.DenotesItems items own) :
    ∃ values, buildItems (loadHooks faults) items = .ok values := by
  match own, items with
  | [], [] => exact ⟨[], rfl⟩
  | json :: own, item :: items =>
    rcases build_of_denotes json hnames.1 h.1 with ⟨value, hvalue⟩
    rcases buildItems_of_denotes own hnames.2 h.2 with ⟨values, hvalues⟩
    exact ⟨value :: values, by rw [buildItems, hvalue, hvalues]; rfl⟩

theorem buildMembers_of_denotes (own : List (String × Json)) {members : List (Text × Tree)}
    (hnames : Json.NamesOnceMembers own) (h : JsonText.DenotesMembers members own) :
    ∃ values, buildMembers (loadHooks faults) members = .ok values ∧
      values.map Prod.fst = (own.map Prod.fst).map Text.ofString := by
  match own, members with
  | [], [] => exact ⟨[], rfl, rfl⟩
  | (name, json) :: own, (key, item) :: members =>
    rcases h with ⟨rfl, hfirst, hmore⟩
    rcases build_of_denotes json hnames.1 hfirst with ⟨value, hvalue⟩
    rcases buildMembers_of_denotes own hnames.2 hmore with ⟨values, hvalues, hkeys⟩
    refine ⟨(Text.ofString name, value) :: values, ?_, ?_⟩
    · rw [buildMembers, hvalue, hvalues]
      rfl
    · rw [List.map_cons, hkeys]
      rfl

end

/-- A text is loaded as a value without repeated names exactly when its tree denotes
that value. -/
theorem loads_denotes {text : Text} {json : Json} (hnames : json.NamesOnce) :
    (∃ value, loads (loadHooks faults) text = .ok value ∧ value.Denotes json) ↔
      ∃ tree, Document text tree ∧ JsonText.Denotes tree json := by
  constructor
  · rintro ⟨value, hloads, hdenotes⟩
    rcases (loads_eq_ok (loadHooks faults)).mp hloads with ⟨tree, hdocument, hbuild⟩
    exact ⟨tree, hdocument, (denotes_of_build json hbuild).mp hdenotes⟩
  · rintro ⟨tree, hdocument, hdenotes⟩
    rcases build_of_denotes json hnames hdenotes with ⟨value, hbuild⟩
    exact ⟨value, (loads_eq_ok (loadHooks faults)).mpr ⟨tree, hdocument, hbuild⟩,
      (denotes_of_build json hbuild).mpr hdenotes⟩

end Loading

/-! ## Own trees and faulty trees -/

mutual

/-- The tree of a value denotes it. -/
theorem denotes_ofJson (v : Json) (h : v.withinDigits = true) :
    JsonText.Denotes (JsonText.ofJson v) v := by
  match v with
  | .null => trivial
  | .bool _ => rfl
  | .int value => exact readPythonInt_renderInt (by simpa [Json.withinDigits] using h)
  | .string _ => rfl
  | .array items => exact denotesItems_ofItems items h
  | .object members => exact ⟨_, .refl _, denotesMembers_ofMembers members h⟩

theorem denotesItems_ofItems (items : List Json) (h : Json.withinDigitsItems items = true) :
    JsonText.DenotesItems (ofItems items) items := by
  match items with
  | [] => trivial
  | item :: items =>
    rw [Json.withinDigitsItems, Bool.and_eq_true] at h
    exact ⟨denotes_ofJson item h.1, denotesItems_ofItems items h.2⟩

theorem denotesMembers_ofMembers (members : List (String × Json))
    (h : Json.withinDigitsMembers members = true) :
    JsonText.DenotesMembers (ofMembers members) members := by
  match members with
  | [] => trivial
  | (name, value) :: members =>
    rw [Json.withinDigitsMembers, Bool.and_eq_true] at h
    exact ⟨rfl, denotes_ofJson value h.1, denotesMembers_ofMembers members h.2⟩

end

namespace JsonText

theorem denotesItems_mem {items : List Tree} {values : List Json} (h : DenotesItems items values)
    {item : Tree} (hitem : item ∈ items) : ∃ value ∈ values, Denotes item value := by
  induction values generalizing items with
  | nil =>
    cases items with
    | nil => cases hitem
    | cons _ _ => exact h.elim
  | cons value values ih =>
    cases items with
    | nil => cases hitem
    | cons first items =>
      rcases List.mem_cons.mp hitem with rfl | hitem
      · exact ⟨value, List.mem_cons_self, h.1⟩
      · rcases ih h.2 hitem with ⟨own, hown, hdenotes⟩
        exact ⟨own, List.mem_cons_of_mem _ hown, hdenotes⟩

theorem denotesMembers_mem {members : List (Text × Tree)} {values : List (String × Json)}
    (h : DenotesMembers members values) :
    members.map Prod.fst = (values.map Prod.fst).map Text.ofString ∧ ∀ member ∈ members,
      ∃ value ∈ values, Denotes member.2 value.2 := by
  induction values generalizing members with
  | nil => cases members <;> simp_all [DenotesMembers]
  | cons value values ih =>
    cases members with
    | nil => exact h.elim
    | cons first members =>
      rcases h with ⟨hkey, hdenotes, hmore⟩
      rcases ih hmore with ⟨hkeys, hall⟩
      refine ⟨by rw [List.map_cons, List.map_cons, List.map_cons, hkeys, hkey], ?_⟩
      intro member hmember
      rcases List.mem_cons.mp hmember with rfl | hmember
      · exact ⟨value, List.mem_cons_self, hdenotes⟩
      · rcases hall member hmember with ⟨own, hown, hdenotes⟩
        exact ⟨own, List.mem_cons_of_mem _ hown, hdenotes⟩

end JsonText

/-- The keys of an object that denotes a value are the names of that value. -/
theorem denotes_object_keys {members : List (Text × Tree)} {values : List (String × Json)}
    (h : JsonText.Denotes (.object members) (.object values)) :
    (members.map Prod.fst).Perm ((values.map Prod.fst).map Text.ofString) ∧
      ∀ member ∈ members, ∃ value ∈ values, JsonText.Denotes member.2 value.2 := by
  rcases h with ⟨rearranged, hperm, hdenotes⟩
  rcases denotesMembers_mem hdenotes with ⟨hkeys, hall⟩
  refine ⟨?_, fun member hmember => hall member (hperm.mem_iff.mp hmember)⟩
  rw [← hkeys]
  exact hperm.map _

/-- A faulty tree denotes no value. -/
theorem Faulty.not_denotes {tree : Tree} (h : Faulty tree) (json : Json)
    (hnames : json.NamesOnce) : ¬ JsonText.Denotes tree json := by
  induction h generalizing json with
  | float => cases json <;> simp [JsonText.Denotes]
  | constant => cases json <;> simp [JsonText.Denotes]
  | surrogate hmem hsurrogate =>
    cases json with
    | string s =>
      rintro rfl
      exact absurd hsurrogate (by simp [ofString_scalar hmem])
    | _ => simp [JsonText.Denotes]
  | key hkey hmem hsurrogate =>
    cases json with
    | object values =>
      intro hdenotes
      have hname := (denotes_object_keys hdenotes).1.mem_iff.mp hkey
      rcases List.mem_map.mp hname with ⟨name, -, rfl⟩
      exact absurd hsurrogate (by simp [ofString_scalar hmem])
    | _ => simp [JsonText.Denotes]
  | duplicate hnodup =>
    cases json with
    | object values =>
      intro hdenotes
      apply hnodup
      rw [(denotes_object_keys hdenotes).1.nodup_iff]
      exact hnames.1.map Text.ofString_injective
    | _ => simp [JsonText.Denotes]
  | item hitem _ ih =>
    cases json with
    | array values =>
      intro hdenotes
      rcases denotesItems_mem hdenotes hitem with ⟨value, hvalue, hown⟩
      exact ih value (Json.namesOnceItems_iff.mp hnames value hvalue) hown
    | _ => simp [JsonText.Denotes]
  | member hmember _ ih =>
    cases json with
    | object values =>
      intro hdenotes
      rcases (denotes_object_keys hdenotes).2 _ hmember with ⟨value, hvalue, hown⟩
      exact ih value.2 (Json.namesOnceMembers_iff.mp hnames.2 value hvalue) hown
    | _ => simp [JsonText.Denotes]

/-! ## Objects by their keys -/

namespace PyValue

/-- `members[name]`, for a key that is there. -/
def item (members : List (Text × PyValue)) (name : String) : PyValue :=
  ((members.find? fun member => decide (member.1 = Text.ofString name)).map Prod.snd).getD .none

/-- The keys are these names. -/
def HasKeys (members : List (Text × PyValue)) (names : List String) : Prop :=
  (∀ key ∈ members.map Prod.fst, key ∈ names.map Text.ofString) ∧
    ∀ name ∈ names, Text.ofString name ∈ members.map Prod.fst

instance (members : List (Text × PyValue)) (names : List String) :
    Decidable (HasKeys members names) := inferInstanceAs (Decidable (_ ∧ _))

theorem item_eq {members : List (Text × PyValue)} (honce : (members.map Prod.fst).Nodup)
    {name : String} {value : PyValue} (h : (Text.ofString name, value) ∈ members) :
    item members name = value := by
  have hfound := (find?_key_eq_some honce).mpr ⟨h, rfl⟩
  rw [item, hfound]
  rfl

theorem item_mem {members : List (Text × PyValue)} (honce : (members.map Prod.fst).Nodup)
    {name : String} (h : Text.ofString name ∈ members.map Prod.fst) :
    (Text.ofString name, item members name) ∈ members := by
  rcases List.mem_map.mp h with ⟨⟨key, value⟩, hmem, rfl⟩
  rw [item_eq honce hmem]
  exact hmem

theorem denotesMembers_mem {members : List (Text × PyValue)} {values : List (String × Json)}
    (h : DenotesMembers members values) :
    members.map Prod.fst = (values.map Prod.fst).map Text.ofString ∧ ∀ value ∈ values,
      ∃ own, (Text.ofString value.1, own) ∈ members ∧ own.Denotes value.2 := by
  induction values generalizing members with
  | nil => cases members <;> simp_all [DenotesMembers]
  | cons first values ih =>
    cases members with
    | nil => exact h.elim
    | cons member members =>
      rcases h with ⟨hkey, hdenotes, hmore⟩
      rcases ih hmore with ⟨hkeys, hall⟩
      refine ⟨by rw [List.map_cons, List.map_cons, List.map_cons, hkeys, hkey], ?_⟩
      intro value hvalue
      rcases List.mem_cons.mp hvalue with rfl | hvalue
      · exact ⟨member.2, by rw [← hkey]; exact List.mem_cons_self, hdenotes⟩
      · rcases hall value hvalue with ⟨own, hown, hdenotes⟩
        exact ⟨own, List.mem_cons_of_mem _ hown, hdenotes⟩

theorem denotesMembers_map {values : List (String × Json)} {f : String → PyValue} :
    DenotesMembers (values.map fun value => (Text.ofString value.1, f value.1)) values ↔
      ∀ value ∈ values, (f value.1).Denotes value.2 := by
  induction values with
  | nil => simp [DenotesMembers]
  | cons value values ih =>
    rw [List.map_cons, DenotesMembers, ih, List.forall_mem_cons]
    simp

/-- An object denotes a value when it has the names of that value and each stands
for the value under it. -/
theorem denotes_dict_iff {members : List (Text × PyValue)} {values : List (String × Json)}
    (honce : (members.map Prod.fst).Nodup) (hnames : (values.map Prod.fst).Nodup) :
    (PyValue.dict members).Denotes (.object values) ↔ HasKeys members (values.map Prod.fst) ∧
      ∀ value ∈ values, (item members value.1).Denotes value.2 := by
  constructor
  · rintro ⟨rearranged, hperm, hdenotes⟩
    rcases denotesMembers_mem hdenotes with ⟨hkeys, hall⟩
    have hmem : ∀ key, key ∈ members.map Prod.fst ↔
        key ∈ (values.map Prod.fst).map Text.ofString := by
      intro key
      rw [(hperm.map Prod.fst).mem_iff, hkeys]
    refine ⟨⟨fun key => (hmem key).mp, fun name hname => (hmem _).mpr ?_⟩, fun value hvalue => ?_⟩
    · exact List.mem_map_of_mem hname
    · rcases hall value hvalue with ⟨own, hown, hdenotes⟩
      rw [item_eq honce (hperm.mem_iff.mpr hown)]
      exact hdenotes
  · rintro ⟨⟨hkeys, hnamed⟩, hdenotes⟩
    refine ⟨values.map fun value => (Text.ofString value.1, item members value.1), ?_,
      denotesMembers_map.mpr hdenotes⟩
    have hnodup : (values.map fun value =>
        (Text.ofString value.1, item members value.1)).Nodup := by
      have hfirst := hnames.map Text.ofString_injective
      rw [List.map_map] at hfirst
      refine List.Nodup.of_map Prod.fst ?_
      rw [List.map_map]
      exact hfirst
    rw [List.perm_ext_iff_of_nodup (List.Nodup.of_map _ honce) hnodup]
    rintro ⟨key, own⟩
    constructor
    · intro hmember
      rcases List.mem_map.mp (hkeys key (List.mem_map_of_mem hmember)) with ⟨name, hname, rfl⟩
      rcases List.mem_map.mp hname with ⟨value, hvalue, rfl⟩
      exact List.mem_map.mpr ⟨value, hvalue, by rw [item_eq honce hmember]⟩
    · intro hmember
      rcases List.mem_map.mp hmember with ⟨value, hvalue, heq⟩
      cases heq
      exact item_mem honce (hnamed value.1 (List.mem_map_of_mem hvalue))

theorem keysOnceMembers_iff {members : List (Text × PyValue)} :
    KeysOnceMembers members ↔ ∀ member ∈ members, KeysOnce member.2 := by
  induction members with
  | nil => simp [KeysOnceMembers]
  | cons member members ih => simp [KeysOnceMembers, ih]

theorem keysOnceItems_iff {items : List PyValue} :
    KeysOnceItems items ↔ ∀ item ∈ items, KeysOnce item := by
  induction items with
  | nil => simp [KeysOnceItems]
  | cons item items ih => simp [KeysOnceItems, ih]

theorem keysOnce_item {members : List (Text × PyValue)} (h : KeysOnceMembers members)
    (name : String) : (item members name).KeysOnce := by
  unfold item
  cases hfound : members.find? fun member => decide (member.1 = Text.ofString name) with
  | none => trivial
  | some member => exact keysOnceMembers_iff.mp h member (List.mem_of_find?_eq_some hfound)

section Kinds

variable {value : PyValue}

theorem denotes_null_iff : value.Denotes .null ↔ value = .none := by
  cases value <;> simp [Denotes]

theorem denotes_string_iff {text : String} :
    value.Denotes (.string text) ↔ value = .str (Text.ofString text) := by
  cases value <;> simp [Denotes]

theorem denotes_int_iff {n : Int} : value.Denotes (.int n) ↔ value = .int n := by
  cases value <;> simp [Denotes]

theorem denotes_bool_iff {b : Bool} : value.Denotes (.bool b) ↔ value = .bool b := by
  cases value <;> simp [Denotes]

theorem denotes_array_iff {values : List Json} :
    value.Denotes (.array values) ↔
      ∃ items, value = .list items ∧ DenotesItems items values := by
  cases value <;> simp [Denotes]

theorem not_denotes_object {values : List (String × Json)} (h : ∀ members, value ≠ .dict members) :
    ¬ value.Denotes (.object values) := by
  cases value <;> simp_all [Denotes]

end Kinds

mutual

/-- A sorted value denotes the value. -/
theorem denotes_sorted (v : Json) : (ofJson v.sorted).Denotes v := by
  match v with
  | .null => trivial
  | .bool _ => rfl
  | .int _ => rfl
  | .string _ => rfl
  | .array items => exact denotesItems_sorted items
  | .object members =>
    refine ⟨ofJsonMembers (Json.sortedMembers members), ?_, denotesMembers_sorted members⟩
    rw [ofJsonMembers_eq, ofJsonMembers_eq]
    exact (List.perm_insertionSort _ _).map _

theorem denotesItems_sorted (items : List Json) :
    DenotesItems (ofJsonItems (Json.sortedItems items)) items := by
  match items with
  | [] => trivial
  | item :: items => exact ⟨denotes_sorted item, denotesItems_sorted items⟩

theorem denotesMembers_sorted (members : List (String × Json)) :
    DenotesMembers (ofJsonMembers (Json.sortedMembers members)) members := by
  match members with
  | [] => trivial
  | (name, value) :: members =>
    exact ⟨rfl, denotes_sorted value, denotesMembers_sorted members⟩

end

end PyValue

section Loading

variable {ε : Type} {faults : JsonFaults ε}

mutual

/-- The keys of what is loaded stand once. -/
theorem build_keysOnce (tree : Tree) {value : PyValue}
    (h : tree.build (loadHooks faults) = .ok value) : value.KeysOnce := by
  match tree with
  | .null =>
    cases h
    trivial
  | .bool _ =>
    cases h
    trivial
  | .int token =>
    rw [Tree.build] at h
    show value.KeysOnce
    cases hint : readPythonInt token with
    | none => simp [loadHooks, hint] at h
    | some n =>
      simp only [loadHooks, hint, Option.elim_some, Except.ok.injEq] at h
      rw [← h]
      trivial
  | .float _ => cases h
  | .constant _ => cases h
  | .string _ =>
    cases h
    trivial
  | .array items =>
    rw [Tree.build] at h
    rcases map_eq_ok.mp h with ⟨values, hvalues, rfl⟩
    exact buildItems_keysOnce items hvalues
  | .object members =>
    rw [Tree.build] at h
    rcases exceptBind_eq_ok.mp h with ⟨values, hvalues, hobject⟩
    rcases loadHooks_object_eq_ok.mp hobject with ⟨rfl, hnodup⟩
    exact ⟨hnodup, buildMembers_keysOnce members hvalues⟩

theorem buildItems_keysOnce (items : List Tree) {values : List PyValue}
    (h : buildItems (loadHooks faults) items = .ok values) : PyValue.KeysOnceItems values := by
  match items with
  | [] =>
    cases h
    trivial
  | item :: items =>
    rw [buildItems] at h
    rcases exceptBind_eq_ok.mp h with ⟨value, hvalue, hrest⟩
    rcases map_eq_ok.mp hrest with ⟨more, hmore, rfl⟩
    exact ⟨build_keysOnce item hvalue, buildItems_keysOnce items hmore⟩

theorem buildMembers_keysOnce (members : List (Text × Tree)) {values : List (Text × PyValue)}
    (h : buildMembers (loadHooks faults) members = .ok values) :
    PyValue.KeysOnceMembers values := by
  match members with
  | [] =>
    cases h
    trivial
  | (key, tree) :: members =>
    rw [buildMembers] at h
    rcases exceptBind_eq_ok.mp h with ⟨value, hvalue, hrest⟩
    rcases map_eq_ok.mp hrest with ⟨more, hmore, rfl⟩
    exact ⟨build_keysOnce tree hvalue, buildMembers_keysOnce members hmore⟩

end

theorem loads_keysOnce {text : Text} {value : PyValue}
    (h : loads (loadHooks faults) text = .ok value) : value.KeysOnce := by
  rcases (loads_eq_ok (loadHooks faults)).mp h with ⟨tree, -, hbuild⟩
  exact build_keysOnce tree hbuild

end Loading

end ForensicData.Lib
