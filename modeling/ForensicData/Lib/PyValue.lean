/-
ForensicData.Lib.PyValue — the values that Python's `json` reads and writes.

`loadHooks` are the hooks of a reader that accepts exact integers and objects
without a repeated key only. It reads the text of a JSON value back
(`loads_render`), and whatever it reads spells no fraction, exponent or constant
and repeats no key anywhere (`Faulty.refused`).
-/
import ForensicData.Lib.JsonRoundTrip
import ForensicData.Lib.JsonSorted
import ForensicData.Lib.PythonInt

namespace ForensicData.Lib

open JsonText

/-! ## Values -/

inductive PyValue where
  | none
  | bool (value : Bool)
  | int (value : Int)
  | str (value : Text)
  | tuple (items : List PyValue)
  | list (items : List PyValue)
  | dict (members : List (Text × PyValue))

namespace PyValue

mutual

/-- Tuples as lists. -/
def listed : PyValue → PyValue
  | .tuple items => .list (listedItems items)
  | .list items => .list (listedItems items)
  | .dict members => .dict (listedMembers members)
  | v => v

def listedItems : List PyValue → List PyValue
  | [] => []
  | item :: items => listed item :: listedItems items

def listedMembers : List (Text × PyValue) → List (Text × PyValue)
  | [] => []
  | (key, value) :: members => (key, listed value) :: listedMembers members

end

mutual

/-- A JSON value as Python holds it. -/
def ofJson : Json → PyValue
  | .null => .none
  | .bool value => .bool value
  | .int value => .int value
  | .string value => .str (Text.ofString value)
  | .array items => .list (ofJsonItems items)
  | .object members => .dict (ofJsonMembers members)

def ofJsonItems : List Json → List PyValue
  | [] => []
  | item :: items => ofJson item :: ofJsonItems items

def ofJsonMembers : List (String × Json) → List (Text × PyValue)
  | [] => []
  | (name, value) :: members => (Text.ofString name, ofJson value) :: ofJsonMembers members

end

mutual

/-- Each key of a dictionary stands once. -/
def KeysOnce : PyValue → Prop
  | .tuple items => KeysOnceItems items
  | .list items => KeysOnceItems items
  | .dict members => (members.map Prod.fst).Nodup ∧ KeysOnceMembers members
  | _ => True

def KeysOnceItems : List PyValue → Prop
  | [] => True
  | item :: items => KeysOnce item ∧ KeysOnceItems items

def KeysOnceMembers : List (Text × PyValue) → Prop
  | [] => True
  | (_, value) :: members => KeysOnce value ∧ KeysOnceMembers members

end

end PyValue

namespace Json

mutual

/-- `str` writes the integers of the value. -/
def withinDigits : Json → Bool
  | .int value => decide ((Nat.toDigits 10 value.natAbs).length ≤ intMaxStrDigits)
  | .array items => withinDigitsItems items
  | .object members => withinDigitsMembers members
  | _ => true

def withinDigitsItems : List Json → Bool
  | [] => true
  | item :: items => withinDigits item && withinDigitsItems items

def withinDigitsMembers : List (String × Json) → Bool
  | [] => true
  | (_, value) :: members => withinDigits value && withinDigitsMembers members

end

end Json

namespace Json

theorem withinDigitsItems_iff {items : List Json} :
    withinDigitsItems items = true ↔ ∀ item ∈ items, item.withinDigits = true := by
  induction items with
  | nil => simp [withinDigitsItems]
  | cons item items ih => simp [withinDigitsItems, ih]

theorem withinDigitsMembers_iff {members : List (String × Json)} :
    withinDigitsMembers members = true ↔ ∀ member ∈ members, member.2.withinDigits = true := by
  induction members with
  | nil => simp [withinDigitsMembers]
  | cons member members ih => simp [withinDigitsMembers, ih]

mutual

theorem withinDigits_sorted (v : Json) (h : v.withinDigits = true) :
    v.sorted.withinDigits = true := by
  match v with
  | .null => rfl
  | .bool _ => rfl
  | .int _ => exact h
  | .string _ => rfl
  | .array items => exact withinDigitsItems_sorted items h
  | .object members =>
    have hperm : (sortByName (sortedMembers members)).Perm (sortedMembers members) :=
      List.perm_insertionSort _ _
    show withinDigitsMembers (sortByName (sortedMembers members)) = true
    rw [withinDigitsMembers_iff]
    intro member hmember
    exact withinDigitsMembers_iff.mp (withinDigitsMembers_sorted members h) member
      (hperm.mem_iff.mp hmember)

theorem withinDigitsItems_sorted (items : List Json) (h : withinDigitsItems items = true) :
    withinDigitsItems (sortedItems items) = true := by
  match items with
  | [] => rfl
  | item :: items =>
    rw [withinDigitsItems, Bool.and_eq_true] at h
    rw [sortedItems, withinDigitsItems, withinDigits_sorted item h.1,
      withinDigitsItems_sorted items h.2]
    rfl

theorem withinDigitsMembers_sorted (members : List (String × Json))
    (h : withinDigitsMembers members = true) :
    withinDigitsMembers (sortedMembers members) = true := by
  match members with
  | [] => rfl
  | (name, value) :: members =>
    rw [withinDigitsMembers, Bool.and_eq_true] at h
    rw [sortedMembers, withinDigitsMembers, withinDigits_sorted value h.1,
      withinDigitsMembers_sorted members h.2]
    rfl

end

end Json

namespace PyValue

theorem names_ofJsonMembers (members : List (String × Json)) :
    (ofJsonMembers members).map Prod.fst = (members.map Prod.fst).map Text.ofString := by
  induction members with
  | nil => rfl
  | cons member members ih =>
    rcases member with ⟨name, value⟩
    rw [ofJsonMembers, List.map_cons, List.map_cons, List.map_cons, ih]

theorem keys_listedMembers (members : List (Text × PyValue)) :
    (listedMembers members).map Prod.fst = members.map Prod.fst := by
  induction members with
  | nil => rfl
  | cons member members ih =>
    rcases member with ⟨key, value⟩
    rw [listedMembers, List.map_cons, List.map_cons, ih]

mutual

/-- A JSON value holds no tuple. -/
theorem listed_ofJson (v : Json) : (ofJson v).listed = ofJson v := by
  match v with
  | .null => rfl
  | .bool _ => rfl
  | .int _ => rfl
  | .string _ => rfl
  | .array items => rw [ofJson, listed, listedItems_ofJson items]
  | .object members => rw [ofJson, listed, listedMembers_ofJson members]

theorem listedItems_ofJson (items : List Json) :
    listedItems (ofJsonItems items) = ofJsonItems items := by
  match items with
  | [] => rfl
  | item :: items => rw [ofJsonItems, listedItems, listed_ofJson item, listedItems_ofJson items]

theorem listedMembers_ofJson (members : List (String × Json)) :
    listedMembers (ofJsonMembers members) = ofJsonMembers members := by
  match members with
  | [] => rfl
  | (name, value) :: members =>
    rw [ofJsonMembers, listedMembers, listed_ofJson value, listedMembers_ofJson members]

end

mutual

theorem ofJson_inj (v w : Json) (h : ofJson v = ofJson w) : v = w := by
  match v with
  | .null => cases w <;> simp_all [ofJson]
  | .bool _ => cases w <;> simp_all [ofJson]
  | .int _ => cases w <;> simp_all [ofJson]
  | .string _ =>
    cases w with
    | string other => rw [Text.ofString_injective (str.inj h)]
    | _ => cases h
  | .array items =>
    cases w with
    | array others => rw [ofJsonItems_inj items others (list.inj h)]
    | _ => cases h
  | .object members =>
    cases w with
    | object others => rw [ofJsonMembers_inj members others (dict.inj h)]
    | _ => cases h

theorem ofJsonItems_inj (items others : List Json) (h : ofJsonItems items = ofJsonItems others) :
    items = others := by
  match items, others with
  | [], [] => rfl
  | [], _ :: _ => cases h
  | _ :: _, [] => cases h
  | item :: items, other :: others =>
    rw [ofJsonItems, ofJsonItems, List.cons.injEq] at h
    rw [ofJson_inj item other h.1, ofJsonItems_inj items others h.2]

theorem ofJsonMembers_inj (members others : List (String × Json))
    (h : ofJsonMembers members = ofJsonMembers others) : members = others := by
  match members, others with
  | [], [] => rfl
  | [], _ :: _ => cases h
  | _ :: _, [] => cases h
  | (name, value) :: members, (name', value') :: others =>
    rw [ofJsonMembers, ofJsonMembers, List.cons.injEq, Prod.mk.injEq] at h
    rw [Text.ofString_injective h.1.1, ofJson_inj value value' h.1.2,
      ofJsonMembers_inj members others h.2]

end

mutual

/-- The JSON value of dictionaries repeats no name. -/
theorem namesOnce_of_listed (value : PyValue) (json : Json) (h : value.KeysOnce)
    (hjson : value.listed = ofJson json) : json.NamesOnce := by
  match json with
  | .null => trivial
  | .bool _ => trivial
  | .int _ => trivial
  | .string _ => trivial
  | .array items =>
    match value with
    | .tuple own => exact namesOnceItems_of_listed own items h (list.inj hjson)
    | .list own => exact namesOnceItems_of_listed own items h (list.inj hjson)
  | .object members =>
    match value with
    | .dict own =>
      have hown := dict.inj hjson
      refine ⟨?_, namesOnceMembers_of_listed own members h.2 hown⟩
      have hkeys := h.1
      rw [← keys_listedMembers, hown, names_ofJsonMembers] at hkeys
      exact hkeys.of_map

theorem namesOnceItems_of_listed (items : List PyValue) (values : List Json)
    (h : KeysOnceItems items) (hjson : listedItems items = ofJsonItems values) :
    Json.NamesOnceItems values := by
  match items, values with
  | _, [] => trivial
  | item :: items, value :: values =>
    rw [listedItems, ofJsonItems, List.cons.injEq] at hjson
    exact ⟨namesOnce_of_listed item value h.1 hjson.1,
      namesOnceItems_of_listed items values h.2 hjson.2⟩

theorem namesOnceMembers_of_listed (members : List (Text × PyValue)) (values : List (String × Json))
    (h : KeysOnceMembers members) (hjson : listedMembers members = ofJsonMembers values) :
    Json.NamesOnceMembers values := by
  match members, values with
  | _, [] => trivial
  | (key, item) :: members, (name, value) :: values =>
    rw [listedMembers, ofJsonMembers, List.cons.injEq, Prod.mk.injEq] at hjson
    exact ⟨namesOnce_of_listed item value h.1 hjson.1.2,
      namesOnceMembers_of_listed members values h.2 hjson.2⟩

end

/-- The same JSON value, up to the order of members and to tuples for lists. -/
def SameJson (value other : PyValue) : Prop :=
  ∃ json json', value.listed = ofJson json ∧ other.listed = ofJson json' ∧ json.Same json'

end PyValue

/-! ## Loading -/

/-- What a reader raises. -/
structure JsonFaults (ε : Type) where
  malformed : ε
  duplicate : Text → ε
  float : List Char → ε
  integer : List Char → ε
  constant : List Char → ε

/-- The loop over the pairs of an object, which refuses a key that it holds. -/
def withoutDuplicateKeys {ε β : Type} (duplicate : Text → ε) (result : List (Text × β)) :
    List (Text × β) → Except ε (List (Text × β))
  | [] => .ok result
  | (key, value) :: pairs =>
    if key ∈ result.map Prod.fst then .error (duplicate key)
    else withoutDuplicateKeys duplicate (result ++ [(key, value)]) pairs

/-- Exact integers and objects without a repeated key. -/
def loadHooks {ε : Type} (faults : JsonFaults ε) : Hooks ε PyValue where
  malformed := faults.malformed
  null := .none
  bool := .bool
  string := .str
  array := .list
  int token := (readPythonInt token).elim (.error (faults.integer token)) fun n => .ok (.int n)
  float token := .error (faults.float token)
  constant token := .error (faults.constant token)
  object members := (withoutDuplicateKeys faults.duplicate [] members).map .dict

section Loading

variable {ε : Type} {faults : JsonFaults ε}

theorem withoutDuplicateKeys_eq_ok {β : Type} {duplicate : Text → ε}
    {result pairs next : List (Text × β)} :
    withoutDuplicateKeys duplicate result pairs = .ok next ↔
      next = result ++ pairs ∧ (pairs.map Prod.fst).Nodup ∧
        ∀ key ∈ pairs.map Prod.fst, key ∉ result.map Prod.fst := by
  induction pairs generalizing result with
  | nil => simp [withoutDuplicateKeys, eq_comm]
  | cons pair pairs ih =>
    rcases pair with ⟨key, value⟩
    rw [withoutDuplicateKeys]
    split
    · rename_i hheld
      simp only [reduceCtorEq, false_iff, not_and, not_forall]
      intro _ _
      exact ⟨key, by simp, fun habsent => habsent hheld⟩
    · rename_i habsent
      rw [ih, List.append_assoc, List.singleton_append, List.map_cons, List.nodup_cons,
        List.forall_mem_cons, List.map_append]
      have hsplit : (∀ other ∈ pairs.map Prod.fst,
            other ∉ result.map Prod.fst ++ [(key, value)].map Prod.fst) ↔
          (∀ other ∈ pairs.map Prod.fst, other ∉ result.map Prod.fst) ∧
            key ∉ pairs.map Prod.fst := by
        simp only [List.mem_append, List.map_cons, List.map_nil, List.mem_singleton, not_or]
        constructor
        · intro h
          exact ⟨fun other hother => (h other hother).1, fun hkey => (h key hkey).2 rfl⟩
        · rintro ⟨hout, hkey⟩ other hother
          refine ⟨hout other hother, ?_⟩
          rintro rfl
          exact hkey hother
      rw [hsplit]
      constructor
      · rintro ⟨hnext, hnodup, hout, hkey⟩
        exact ⟨hnext, ⟨hkey, hnodup⟩, habsent, hout⟩
      · rintro ⟨hnext, ⟨hkey, hnodup⟩, -, hout⟩
        exact ⟨hnext, hnodup, hout, hkey⟩

theorem loadHooks_object_eq_ok {members : List (Text × PyValue)} {value : PyValue} :
    (loadHooks faults).object members = .ok value ↔
      value = .dict members ∧ (members.map Prod.fst).Nodup := by
  show (withoutDuplicateKeys faults.duplicate [] members).map PyValue.dict = .ok value ↔ _
  rw [map_eq_ok]
  constructor
  · rintro ⟨next, hnext, rfl⟩
    rcases withoutDuplicateKeys_eq_ok.mp hnext with ⟨rfl, hnodup, -⟩
    exact ⟨rfl, hnodup⟩
  · rintro ⟨rfl, hnodup⟩
    exact ⟨members, withoutDuplicateKeys_eq_ok.mpr ⟨rfl, hnodup, by simp⟩, rfl⟩

/-! ## What is written is loaded -/

mutual

theorem build_ofJson (v : Json) (hnames : v.NamesOnce) (hdigits : v.withinDigits = true) :
    (JsonText.ofJson v).build (loadHooks faults) = .ok (PyValue.ofJson v) := by
  match v with
  | .null => rfl
  | .bool _ => rfl
  | .int value =>
    show (readPythonInt (Json.renderInt value)).elim _ _ = _
    rw [readPythonInt_renderInt (by simpa [Json.withinDigits] using hdigits)]
    rfl
  | .string _ => rfl
  | .array items =>
    rw [JsonText.ofJson, Tree.build, buildItems_ofJson items hnames hdigits]
    rfl
  | .object members =>
    rw [JsonText.ofJson, Tree.build, buildMembers_ofJson members hnames.2 hdigits]
    show (loadHooks faults).object _ = _
    rw [loadHooks_object_eq_ok, PyValue.names_ofJsonMembers]
    exact ⟨rfl, hnames.1.map Text.ofString_injective⟩

theorem buildItems_ofJson (items : List Json) (hnames : Json.NamesOnceItems items)
    (hdigits : Json.withinDigitsItems items = true) :
    buildItems (loadHooks faults) (ofItems items) = .ok (PyValue.ofJsonItems items) := by
  match items with
  | [] => rfl
  | item :: items =>
    rw [Json.withinDigitsItems, Bool.and_eq_true] at hdigits
    rw [ofItems, buildItems, build_ofJson item hnames.1 hdigits.1,
      buildItems_ofJson items hnames.2 hdigits.2]
    rfl

theorem buildMembers_ofJson (members : List (String × Json))
    (hnames : Json.NamesOnceMembers members) (hdigits : Json.withinDigitsMembers members = true) :
    buildMembers (loadHooks faults) (ofMembers members) = .ok (PyValue.ofJsonMembers members) := by
  match members with
  | [] => rfl
  | (name, value) :: members =>
    rw [Json.withinDigitsMembers, Bool.and_eq_true] at hdigits
    rw [ofMembers, buildMembers, build_ofJson value hnames.1 hdigits.1,
      buildMembers_ofJson members hnames.2 hdigits.2]
    rfl

end

/-- The text of a value is read back. -/
theorem loads_render (v : Json) (hnames : v.NamesOnce) (hdigits : v.withinDigits = true) :
    loads (loadHooks faults) (Text.ofChars (Json.render v)) = .ok (PyValue.ofJson v) := by
  rw [(document_render v).loads (loadHooks faults), build_ofJson v hnames hdigits]

/-! ## What is never loaded -/

theorem buildItems_mem {items : List Tree} {values : List PyValue}
    (h : buildItems (loadHooks faults) items = .ok values) {item : Tree} (hitem : item ∈ items) :
    ∃ value ∈ values, item.build (loadHooks faults) = .ok value := by
  induction items generalizing values with
  | nil => cases hitem
  | cons first items ih =>
    rw [buildItems] at h
    rcases exceptBind_eq_ok.mp h with ⟨value, hvalue, hrest⟩
    rcases map_eq_ok.mp hrest with ⟨more, hmore, rfl⟩
    rcases List.mem_cons.mp hitem with rfl | hitem
    · exact ⟨value, List.mem_cons_self, hvalue⟩
    · rcases ih hmore hitem with ⟨other, hother, hbuild⟩
      exact ⟨other, List.mem_cons_of_mem _ hother, hbuild⟩

theorem buildMembers_mem {members : List (Text × Tree)} {values : List (Text × PyValue)}
    (h : buildMembers (loadHooks faults) members = .ok values) :
    values.map Prod.fst = members.map Prod.fst ∧ ∀ member ∈ members,
      ∃ value, (member.1, value) ∈ values ∧ member.2.build (loadHooks faults) = .ok value := by
  induction members generalizing values with
  | nil =>
    cases h
    simp
  | cons first members ih =>
    rcases first with ⟨name, tree⟩
    rw [buildMembers] at h
    rcases exceptBind_eq_ok.mp h with ⟨value, hvalue, hrest⟩
    rcases map_eq_ok.mp hrest with ⟨more, hmore, rfl⟩
    rcases ih hmore with ⟨hnames, hmembers⟩
    refine ⟨by rw [List.map_cons, List.map_cons, hnames], fun member hmember => ?_⟩
    rcases List.mem_cons.mp hmember with rfl | hmember
    · exact ⟨value, List.mem_cons_self, hvalue⟩
    · rcases hmembers member hmember with ⟨other, hother, hbuild⟩
      exact ⟨other, List.mem_cons_of_mem _ hother, hbuild⟩

/-- A tree with a fraction, an exponent, a constant, a lone surrogate or a repeated
key, anywhere. -/
inductive Faulty : Tree → Prop
  | float {token : List Char} : Faulty (.float token)
  | constant {token : List Char} : Faulty (.constant token)
  | surrogate {value : Text} {c : CodePoint} : c ∈ value → c.isSurrogate = true →
      Faulty (.string value)
  | key {members : List (Text × Tree)} {key : Text} {c : CodePoint} :
      key ∈ members.map Prod.fst → c ∈ key → c.isSurrogate = true → Faulty (.object members)
  | duplicate {members : List (Text × Tree)} : ¬ (members.map Prod.fst).Nodup →
      Faulty (.object members)
  | item {items : List Tree} {item : Tree} : item ∈ items → Faulty item → Faulty (.array items)
  | member {members : List (Text × Tree)} {key : Text} {value : Tree} :
      (key, value) ∈ members → Faulty value → Faulty (.object members)

theorem ofString_scalar {value : String} {c : CodePoint} (h : c ∈ Text.ofString value) :
    c.isSurrogate = false := by
  rcases List.mem_map.mp h with ⟨d, -, rfl⟩
  rfl

theorem listedItems_eq (items : List PyValue) :
    PyValue.listedItems items = items.map PyValue.listed := by
  induction items with
  | nil => rfl
  | cons item items ih => rw [PyValue.listedItems, ih, List.map_cons]

theorem listedMembers_eq (members : List (Text × PyValue)) :
    PyValue.listedMembers members = members.map fun member => (member.1, member.2.listed) := by
  induction members with
  | nil => rfl
  | cons member members ih => rw [PyValue.listedMembers, ih, List.map_cons]

theorem ofJsonItems_eq (items : List Json) :
    PyValue.ofJsonItems items = items.map PyValue.ofJson := by
  induction items with
  | nil => rfl
  | cons item items ih => rw [PyValue.ofJsonItems, ih, List.map_cons]

theorem ofJsonMembers_eq (members : List (String × Json)) :
    PyValue.ofJsonMembers members
      = members.map fun member => (Text.ofString member.1, PyValue.ofJson member.2) := by
  induction members with
  | nil => rfl
  | cons member members ih => rw [PyValue.ofJsonMembers, ih, List.map_cons]

/-- A faulty tree is refused, or read as what is no JSON value. -/
theorem Faulty.refused {tree : Tree} (h : Faulty tree) {value : PyValue}
    (hbuild : tree.build (loadHooks faults) = .ok value) (v : Json) :
    value.listed ≠ PyValue.ofJson v := by
  induction h generalizing value v with
  | float => cases hbuild
  | constant => cases hbuild
  | surrogate hmem hsurrogate =>
    cases hbuild
    intro heq
    cases v with
    | string s =>
      cases heq
      exact absurd hsurrogate (by simp [ofString_scalar hmem])
    | _ => cases heq
  | key hkey hmem hsurrogate =>
    rw [Tree.build] at hbuild
    rcases exceptBind_eq_ok.mp hbuild with ⟨values, hvalues, hobject⟩
    rcases loadHooks_object_eq_ok.mp hobject with ⟨rfl, -⟩
    intro heq
    cases v with
    | object members =>
      rw [PyValue.listed, PyValue.ofJson, PyValue.dict.injEq, listedMembers_eq,
        ofJsonMembers_eq] at heq
      have hnames := congrArg (List.map Prod.fst) heq
      rw [List.map_map, List.map_map] at hnames
      have hfirst : values.map Prod.fst = members.map fun member => Text.ofString member.1 :=
        hnames
      rw [← (buildMembers_mem hvalues).1, hfirst] at hkey
      rcases List.mem_map.mp hkey with ⟨member, -, rfl⟩
      exact absurd hsurrogate (by simp [ofString_scalar hmem])
    | _ => cases heq
  | duplicate hnodup =>
    rw [Tree.build] at hbuild
    rcases exceptBind_eq_ok.mp hbuild with ⟨values, hvalues, hobject⟩
    have honce := (loadHooks_object_eq_ok.mp hobject).2
    rw [(buildMembers_mem hvalues).1] at honce
    exact absurd honce hnodup
  | item hitem _ ih =>
    rw [Tree.build] at hbuild
    rcases map_eq_ok.mp hbuild with ⟨values, hvalues, rfl⟩
    rcases buildItems_mem hvalues hitem with ⟨value, hvalue, hown⟩
    intro heq
    cases v with
    | array items =>
      have hlist : values.map PyValue.listed = items.map PyValue.ofJson := by
        rw [← listedItems_eq, ← ofJsonItems_eq]
        exact PyValue.list.inj heq
      have hmem : value.listed ∈ items.map PyValue.ofJson := hlist ▸ List.mem_map_of_mem hvalue
      rcases List.mem_map.mp hmem with ⟨own, -, hown'⟩
      exact ih hown own hown'.symm
    | _ => cases heq
  | member hmember _ ih =>
    rw [Tree.build] at hbuild
    rcases exceptBind_eq_ok.mp hbuild with ⟨values, hvalues, hobject⟩
    rcases loadHooks_object_eq_ok.mp hobject with ⟨rfl, -⟩
    rcases (buildMembers_mem hvalues).2 _ hmember with ⟨value, hvalue, hown⟩
    intro heq
    cases v with
    | object members =>
      rw [PyValue.listed, PyValue.ofJson, PyValue.dict.injEq, listedMembers_eq,
        ofJsonMembers_eq] at heq
      have hlisted : (_, value.listed) ∈ values.map fun own => (own.1, own.2.listed) :=
        List.mem_map.mpr ⟨_, hvalue, rfl⟩
      have hmem := heq ▸ hlisted
      rcases List.mem_map.mp hmem with ⟨own, -, hown'⟩
      exact ih hown own.2 (Prod.mk.inj hown').2.symm
    | _ => cases heq

end Loading

end ForensicData.Lib
