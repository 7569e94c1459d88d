/-
ForensicData.Planning.ScopeTheorems — what the digest of a scope identifies.

A mapping is accepted exactly when its keys are the declared names and every
value denotes a value of its field (`resolveScopeValues_isOk`). The preimages of
two resolved scopes are equal exactly when both checks declare the same
parameters and the mappings give them values that denote the same
(`scope_resolution`).
-/
import ForensicData.Planning.ScopeValues

namespace ForensicData.Planning

open ForensicData.Canonical
open ForensicData.Contracts
open ForensicData.Lib

variable {sha256 : Sha256} {mapping mapping' : ScopeMapping}

/-! ## Names -/

theorem sortedNames_eq_iff {left right : List PythonText} :
    sortedNames left = sortedNames right ↔ left.Perm right := by
  have hperm : ∀ names : List PythonText, (sortedNames names).Perm names :=
    fun names => List.perm_insertionSort _ names
  constructor
  · intro h
    have hleft := hperm left
    rw [h] at hleft
    exact hleft.symm.trans (hperm right)
  · intro h
    exact ((hperm left).trans (h.trans (hperm right).symm)).eq_of_pairwise'
      (List.pairwise_insertionSort _ left) (List.pairwise_insertionSort _ right)

theorem toList_injective : Function.Injective String.toList := by
  intro a b h
  exact String.ext h

theorem nameKey_injective : Function.Injective nameKey := by
  intro a b h
  rw [nameKey, nameKey, ScopeKey.text.injEq] at h
  exact toList_injective (codePoints_injective h)

theorem ScopeMapping.item_eq_some {name : String} {object : ScopeObject} :
    mapping.item name = some object ↔ (nameKey name, object) ∈ mapping.entries := by
  simp only [ScopeMapping.item, Option.map_eq_some_iff, find?_key_eq_some mapping.distinct]
  constructor
  · rintro ⟨⟨key, own⟩, ⟨hmem, rfl⟩, rfl⟩
    exact hmem
  · intro hmem
    exact ⟨_, ⟨hmem, rfl⟩, rfl⟩

theorem ScopeMapping.mem_names {name : PythonText} :
    name ∈ mapping.names ↔ .text name ∈ mapping.entries.map Prod.fst := by
  simp only [ScopeMapping.names, List.mem_filterMap, List.mem_map]
  constructor
  · rintro ⟨⟨key, object⟩, hmem, hname⟩
    cases key with
    | text own =>
      simp only [ScopeKey.name, Option.some.injEq] at hname
      exact ⟨_, hmem, by rw [hname]⟩
    | other identity => simp [ScopeKey.name] at hname
  · rintro ⟨⟨key, object⟩, hmem, hkey⟩
    exact ⟨_, hmem, by rw [show key = .text name from hkey, ScopeKey.name]⟩

theorem ScopeMapping.nodup_names (mapping : ScopeMapping) : mapping.names.Nodup := by
  have hkeys : (mapping.entries.map Prod.fst).filterMap ScopeKey.name = mapping.names := by
    rw [List.filterMap_map]
    rfl
  rw [← hkeys]
  apply List.Nodup.filterMap _ mapping.distinct
  intro a b name ha hb
  cases a <;> cases b <;> simp_all [ScopeKey.name]

/-! ## Accepted mappings -/

/-- The keys of the mapping are the names of the parameters, and every value is of
an accepted type and denotes a value of the field of its parameter. -/
structure ScopeMapping.Fits (mapping : ScopeMapping) (parameters : List ScopeParameterDefinition) :
    Prop where
  keys : ∀ entry ∈ mapping.entries, ∃ parameter ∈ parameters, entry.1 = nameKey parameter.name
  values : ∀ parameter ∈ parameters, ∃ value logical payload,
    mapping.item parameter.name = some (.value value) ∧
      denotes parameter.field value.input = some logical ∧
      Renders parameter.field logical payload

/-- The names checks pass exactly when the keys are the declared names. -/
theorem names_match_iff {parameters : List ScopeParameterDefinition}
    (hdistinct : (parameters.map ScopeParameterDefinition.name).Nodup) :
    ((¬ ∃ entry ∈ mapping.entries, entry.1.name = none) ∧
        sortedNames mapping.names
          = sortedNames (parameters.map fun parameter => codePoints parameter.name.toList)) ↔
      (∀ entry ∈ mapping.entries, ∃ parameter ∈ parameters, entry.1 = nameKey parameter.name) ∧
        ∀ parameter ∈ parameters, ∃ object, mapping.item parameter.name = some object := by
  have hnodup : (parameters.map fun parameter => codePoints parameter.name.toList).Nodup := by
    have hmap := hdistinct.map (codePoints_injective.comp toList_injective)
    rwa [List.map_map] at hmap
  rw [sortedNames_eq_iff, List.perm_ext_iff_of_nodup mapping.nodup_names hnodup]
  constructor
  · rintro ⟨htext, hnames⟩
    constructor
    · intro entry hentry
      cases hkey : entry.1 with
      | other identity => exact absurd ⟨entry, hentry, by rw [hkey, ScopeKey.name]⟩ htext
      | text name =>
        have hmem : name ∈ mapping.names :=
          ScopeMapping.mem_names.mpr (hkey ▸ List.mem_map_of_mem hentry)
        rcases List.mem_map.mp ((hnames name).mp hmem) with ⟨parameter, hparameter, rfl⟩
        exact ⟨parameter, hparameter, rfl⟩
    · intro parameter hparameter
      have hmem := (hnames _).mpr (List.mem_map_of_mem hparameter)
      rcases List.mem_map.mp (ScopeMapping.mem_names.mp hmem) with ⟨⟨key, object⟩, hentry, hkey⟩
      refine ⟨object, ScopeMapping.item_eq_some.mpr ?_⟩
      rwa [nameKey, ← show key = _ from hkey]
  · rintro ⟨hkeys, hitems⟩
    constructor
    · rintro ⟨entry, hentry, hname⟩
      rcases hkeys entry hentry with ⟨parameter, -, hkey⟩
      rw [hkey, nameKey, ScopeKey.name] at hname
      cases hname
    · intro name
      rw [ScopeMapping.mem_names, List.mem_map, List.mem_map]
      constructor
      · rintro ⟨entry, hentry, hkey⟩
        rcases hkeys entry hentry with ⟨parameter, hparameter, hown⟩
        rw [hkey, nameKey, ScopeKey.text.injEq] at hown
        exact ⟨parameter, hparameter, hown.symm⟩
      · rintro ⟨parameter, hparameter, rfl⟩
        rcases hitems parameter hparameter with ⟨object, hitem⟩
        exact ⟨_, ScopeMapping.item_eq_some.mp hitem, rfl⟩

/-- What one round of the loop gives for a compiled parameter. -/
theorem resolveParameter_eq_ok {parameter : ScopeParameterDefinition}
    {resolved : ResolvedScopeParameter} :
    resolveParameter mapping parameter = .ok resolved ↔
      mapping.item parameter.name = some (.value resolved.value) ∧
        resolved.name = parameter.name ∧ resolved.field = parameter.field := by
  unfold resolveParameter
  split
  case h_1 hnone => simp [hnone]
  case h_2 hother => simp [hother]
  case h_3 value hvalue =>
    rw [bind_eq_ok, hvalue, Option.some.injEq, ScopeObject.value.injEq]
    simp only [mapError_eq_ok, ResolvedScopeParameter.make_eq_ok]
    constructor
    · rintro ⟨payload, -, hname, hfield, hown, -⟩
      exact ⟨hown.symm, hname, hfield⟩
    · rintro ⟨rfl, hname, hfield⟩
      exact ⟨_, hfield ▸ resolved.encoded, hname, hfield, rfl, rfl⟩

/-- A compiled parameter is resolved exactly when its value denotes one. -/
theorem resolveParameter_isOk {parameter : ScopeParameterDefinition}
    (hfield : IsParameterField parameter.name parameter.field)
    (hname : isBlank parameter.name = false) :
    (∃ resolved, resolveParameter mapping parameter = .ok resolved) ↔
      ∃ value logical payload, mapping.item parameter.name = some (.value value) ∧
        denotes parameter.field value.input = some logical ∧
        Renders parameter.field logical payload := by
  constructor
  · rintro ⟨resolved, h⟩
    rcases resolveParameter_eq_ok.mp h with ⟨hvalue, -, hown⟩
    rcases encodePayload_eq_ok.mp (hown ▸ resolved.encoded) with ⟨logical, hdenotes, hrenders⟩
    exact ⟨resolved.value, logical, _, hvalue, hdenotes, hrenders⟩
  · rintro ⟨value, logical, payload, hvalue, hdenotes, hrenders⟩
    have hencoded := encodePayload_eq_ok.mpr ⟨logical, hdenotes, hrenders⟩
    exact ⟨⟨parameter.name, parameter.field, value, payload, hname, hfield.1, hfield.2, hencoded⟩,
      resolveParameter_eq_ok.mpr ⟨hvalue, rfl, rfl⟩⟩

/-- A resolved scope holds one resolved parameter for each declared one. -/
theorem resolveScopeValues_eq_ok {check : RowCheckDefinition} {scope : ResolvedScope sha256}
    (h : resolveScopeValues sha256 check mapping = .ok scope) :
    List.Forall₂ (fun parameter resolved => resolveParameter mapping parameter = .ok resolved)
      check.scope.parameters scope.parameters := by
  simp only [resolveScopeValues, bind_eq_ok, refuseIf_eq_ok] at h
  rcases h with ⟨-, -, -, -, parameters, hparameters, h⟩
  unfold ResolvedScope.make at h
  split_ifs at h
  rw [Except.ok.injEq] at h
  subst h
  exact mapM_eq_ok.mp hparameters

/-- A mapping is accepted for a compiled check exactly when it fits. -/
theorem resolveScopeValues_isOk {check : RowCheckDefinition} (hcompiled : check.Compiled)
    (hdeclared : check.Declared) :
    (∃ scope, resolveScopeValues sha256 check mapping = .ok scope) ↔
      mapping.Fits check.scope.parameters := by
  have hblank : ∀ parameter ∈ check.scope.parameters, isBlank parameter.name = false :=
    fun parameter hparameter =>
      (hcompiled.scope.each _ (List.mem_map_of_mem hparameter)).nonblank
  constructor
  · rintro ⟨scope, h⟩
    have hrounds := resolveScopeValues_eq_ok h
    simp only [resolveScopeValues, bind_eq_ok, refuseIf_eq_ok, not_not] at h
    rcases h with ⟨-, htext, -, hnames, -⟩
    have hkeys := (names_match_iff hcompiled.scope.distinct).mp ⟨htext, hnames⟩
    refine ⟨hkeys.1, ?_⟩
    intro parameter hparameter
    rcases forall₂_mem_left hrounds hparameter with ⟨resolved, -, hround⟩
    exact (resolveParameter_isOk (hdeclared.scope parameter hparameter)
      (hblank parameter hparameter)).mp ⟨resolved, hround⟩
  · rintro ⟨hkeys, hvalues⟩
    have hitems : ∀ parameter ∈ check.scope.parameters, ∃ object,
        mapping.item parameter.name = some object := by
      intro parameter hparameter
      rcases hvalues parameter hparameter with ⟨value, -, -, hitem, -⟩
      exact ⟨_, hitem⟩
    have hnames := (names_match_iff hcompiled.scope.distinct).mpr ⟨hkeys, hitems⟩
    have hrounds : ∀ parameter ∈ check.scope.parameters, ∃ resolved,
        resolveParameter mapping parameter = .ok resolved ∧
          parameter.name = resolved.name := by
      intro parameter hparameter
      rcases (resolveParameter_isOk (hdeclared.scope parameter hparameter)
        (hblank parameter hparameter)).mpr (hvalues parameter hparameter) with ⟨resolved, h⟩
      exact ⟨resolved, h, (resolveParameter_eq_ok.mp h).2.1.symm⟩
    rcases exists_mapM_eq_ok hrounds with ⟨parameters, hloop, hnamed⟩
    have hdistinct : (parameters.map ResolvedScopeParameter.name).Nodup := by
      have hsame : check.scope.parameters.map ScopeParameterDefinition.name
          = parameters.map ResolvedScopeParameter.name :=
        map_eq_of_forall₂ (fun _ _ hname => hname) hnamed
      rw [← hsame]
      exact hcompiled.scope.distinct
    refine ⟨⟨parameters, _, hdistinct, rfl⟩, ?_⟩
    simp only [resolveScopeValues, bind_eq_ok, refuseIf_eq_ok, not_not]
    refine ⟨(), hnames.1, (), hnames.2, parameters, hloop, ?_⟩
    rw [ResolvedScope.make, dif_pos hdistinct, dif_pos rfl]

/-! ## Preimages -/

/-- The type of a parameter is told apart from every other one. -/
theorem scopeTypeSemantics_inj {left right : FieldSchema} (hname : left.name = right.name)
    (hnullable : left.nullable = right.nullable)
    (h : scopeTypeSemantics left = scopeTypeSemantics right) : left = right := by
  rcases left with ⟨name, logicalType, nullable, parameters, normalization, fits⟩
  rcases right with ⟨name', logicalType', nullable', parameters', normalization', fits'⟩
  simp only [scopeTypeSemantics, Json.object.injEq, List.cons_append, List.nil_append,
    List.cons.injEq, Prod.mk.injEq, Json.string.injEq, true_and] at h hname hnullable
  rcases h with ⟨hkind, hrest⟩
  have htype := LogicalType.value_injective hkind
  subst hname hnullable htype
  cases normalization
  cases normalization'
  cases parameters with
  | none => cases parameters' <;> simp_all
  | decimal own =>
    cases parameters' with
    | decimal own' => cases own; cases own'; simp_all
    | _ => simp_all
  | timestamp own =>
    cases parameters' with
    | timestamp own' => cases own; cases own'; simp_all
    | _ => simp_all

theorem resolvedParameterSemantics_eq_iff {left right : ResolvedScopeParameter} :
    resolvedParameterSemantics left = resolvedParameterSemantics right ↔
      left.field = right.field ∧ left.canonicalPayload = right.canonicalPayload := by
  constructor
  · intro h
    simp only [resolvedParameterSemantics, Json.object.injEq, List.cons.injEq, Prod.mk.injEq,
      Json.string.injEq, String.ofList_inj, true_and, and_true] at h
    rcases h with ⟨hname, hpayload, htype⟩
    have hnamed : left.field.name = right.field.name := by
      rw [left.named, right.named, hname]
    have hrequired : left.field.nullable = right.field.nullable := by
      rw [left.required, right.required]
    exact ⟨scopeTypeSemantics_inj hnamed hrequired htype, hexText_injective hpayload⟩
  · rintro ⟨hfield, hpayload⟩
    rw [resolvedParameterSemantics, resolvedParameterSemantics, ← left.named, ← right.named,
      hfield, hpayload]

theorem forall₂_of_map_eq {α β γ : Type} {f : α → γ} {g : β → γ} {as : List α} {bs : List β}
    (h : as.map f = bs.map g) : List.Forall₂ (fun a b => f a = g b) as bs := by
  induction as generalizing bs with
  | nil =>
    rw [List.map_eq_nil_iff.mp h.symm]
    exact .nil
  | cons a as ih =>
    rcases List.map_eq_cons_iff.mp h.symm with ⟨b, bs', rfl, hab, hrest⟩
    exact .cons hab.symm (ih hrest.symm)

theorem scopePreimage_eq_iff {left right : List ResolvedScopeParameter} :
    scopePreimage left = scopePreimage right ↔
      List.Forall₂ (fun a b => a.field = b.field ∧ a.canonicalPayload = b.canonicalPayload)
        left right := by
  have hrender : Function.Injective canonicalSemanticJson := by
    intro a b h
    exact Json.render_injective (String.ofList_injective h)
  rw [scopePreimage, scopePreimage, hrender.eq_iff]
  simp only [resolvedScopeSemantics, Json.object.injEq, List.cons.injEq, Prod.mk.injEq,
    Json.array.injEq, true_and, and_true]
  constructor
  · intro h
    exact (forall₂_of_map_eq h).imp fun a b hab => resolvedParameterSemantics_eq_iff.mp hab
  · intro h
    exact map_eq_of_forall₂ (fun a b hab => resolvedParameterSemantics_eq_iff.mpr hab) h

/-! ## Resolution -/

/-- Both mappings give every parameter a value, and the two values denote the same. -/
def SameScopeValues (parameters : List ScopeParameterDefinition) (left right : ScopeMapping) :
    Prop :=
  ∀ parameter ∈ parameters, ∃ value value' logical,
    left.item parameter.name = some (.value value) ∧
      right.item parameter.name = some (.value value') ∧
      denotes parameter.field value.input = some logical ∧
      denotes parameter.field value'.input = some logical

section TwoChecks

variable {check check' : RowCheckDefinition} {scope scope' : ResolvedScope sha256}
  (hscope : resolveScopeValues sha256 check mapping = .ok scope)
  (hscope' : resolveScopeValues sha256 check' mapping' = .ok scope')

include hscope in
/-- The fields of the resolved parameters are the declared ones. -/
theorem resolved_fields :
    check.scope.parameters.map (fun parameter => (parameter.name, parameter.field))
      = scope.parameters.map fun resolved => (resolved.name, resolved.field) :=
  map_eq_of_forall₂ (fun _ _ hround => by
    rcases resolveParameter_eq_ok.mp hround with ⟨-, hname, hfield⟩
    rw [hname, hfield]) (resolveScopeValues_eq_ok hscope)

/-- A resolved parameter denotes the value that its payload renders. -/
theorem ResolvedScopeParameter.denotes (resolved : ResolvedScopeParameter) :
    ∃ logical, Canonical.denotes resolved.field resolved.value.input = some logical ∧
      Renders resolved.field logical resolved.canonicalPayload :=
  encodePayload_eq_ok.mp resolved.encoded

/-- Under one field, payloads are equal exactly when the values denote the same. -/
theorem payload_eq_iff {left right : ResolvedScopeParameter} (hfield : left.field = right.field) :
    left.canonicalPayload = right.canonicalPayload ↔
      Canonical.denotes left.field left.value.input
        = Canonical.denotes right.field right.value.input := by
  rcases left.denotes with ⟨logical, hdenotes, hrenders⟩
  rcases right.denotes with ⟨logical', hdenotes', hrenders'⟩
  rw [hdenotes, hdenotes', Option.some.injEq]
  rw [← hfield] at hrenders'
  constructor
  · intro h
    exact Renders.injective hrenders (h ▸ hrenders')
  · rintro rfl
    exact Renders.functional hrenders hrenders'

/-- One parameter of both scopes. -/
theorem round_eq_iff {parameter parameter' : ScopeParameterDefinition}
    {resolved resolved' : ResolvedScopeParameter}
    (hround : resolveParameter mapping parameter = .ok resolved)
    (hround' : resolveParameter mapping' parameter' = .ok resolved') :
    (resolved.field = resolved'.field ∧ resolved.canonicalPayload = resolved'.canonicalPayload) ↔
      parameter = parameter' ∧ ∃ value value' logical,
        mapping.item parameter.name = some (.value value) ∧
          mapping'.item parameter.name = some (.value value') ∧
          denotes parameter.field value.input = some logical ∧
          denotes parameter.field value'.input = some logical := by
  rcases resolveParameter_eq_ok.mp hround with ⟨hitem, hname, hfield⟩
  rcases resolveParameter_eq_ok.mp hround' with ⟨hitem', hname', hfield'⟩
  rcases resolved.denotes with ⟨logical, hdenotes, -⟩
  constructor
  · rintro ⟨hsame, hpayload⟩
    have hnames : parameter.name = parameter'.name := by
      rw [← hname, ← hname', ← resolved.named, ← resolved'.named, hsame]
    have hfields : parameter.field = parameter'.field := by rw [← hfield, ← hfield', hsame]
    have hdenotes' := (payload_eq_iff hsame).mp hpayload
    have hparameters : parameter = parameter' := by
      cases parameter
      cases parameter'
      simp only at hnames hfields
      rw [hnames, hfields]
    subst hparameters
    refine ⟨rfl, resolved.value, resolved'.value, logical, hitem, hitem', hfield ▸ hdenotes, ?_⟩
    rw [← hfield', ← hdenotes', hdenotes]
  · rintro ⟨rfl, value, value', own, hvalue, hvalue', hown, hown'⟩
    have hsame : resolved.field = resolved'.field := by rw [hfield, hfield']
    rw [hitem, Option.some.injEq, ScopeObject.value.injEq] at hvalue
    rw [hitem', Option.some.injEq, ScopeObject.value.injEq] at hvalue'
    refine ⟨hsame, (payload_eq_iff hsame).mpr ?_⟩
    rw [hfield, hfield', hvalue, hvalue', hown, hown']

include hscope hscope' in
/-- The preimages are equal exactly when the parameters are, and the values of the
mappings denote the same. -/
theorem preimage_eq_iff_same :
    scopePreimage scope.parameters = scopePreimage scope'.parameters ↔
      check.scope.parameters = check'.scope.parameters ∧
        SameScopeValues check.scope.parameters mapping mapping' := by
  have hrounds := resolveScopeValues_eq_ok hscope
  have hrounds' := resolveScopeValues_eq_ok hscope'
  rw [scopePreimage_eq_iff]
  generalize check.scope.parameters = declared at hrounds
  generalize check'.scope.parameters = declared' at hrounds'
  generalize scope.parameters = resolved at hrounds
  generalize scope'.parameters = resolved' at hrounds'
  induction hrounds generalizing declared' resolved' with
  | nil => cases hrounds' <;> simp [SameScopeValues]
  | cons hround _ ih =>
    cases hrounds' with
    | nil => simp
    | cons hround' hrest' =>
      have hrest := ih _ _ hrest'
      have hhead := round_eq_iff hround hround'
      constructor
      · intro h
        rcases List.forall₂_cons.mp h with ⟨hpair, htail⟩
        rcases hhead.mp hpair with ⟨rfl, hvalues⟩
        rcases hrest.mp htail with ⟨rfl, hsame⟩
        exact ⟨rfl, List.forall_mem_cons.mpr ⟨hvalues, hsame⟩⟩
      · rintro ⟨heq, hsame⟩
        rcases List.cons.inj heq with ⟨hparameter, hparameters⟩
        rcases List.forall_mem_cons.mp hsame with ⟨hvalues, hothers⟩
        exact .cons (hhead.mpr ⟨hparameter, hvalues⟩) (hrest.mpr ⟨hparameters, hothers⟩)


end TwoChecks

/-- The preimages of two resolved scopes are equal exactly when their checks declare
the same parameters, name by name and type by type, and the mappings give them
values that denote the same; and a mapping is rejected for a compiled check exactly
when its keys are not the declared names or a value denotes none of its field. -/
theorem scope_resolution (sha256 : Sha256) :
    (∀ (check check' : RowCheckDefinition) (mapping mapping' : ScopeMapping)
      (scope scope' : ResolvedScope sha256),
      resolveScopeValues sha256 check mapping = .ok scope →
      resolveScopeValues sha256 check' mapping' = .ok scope' →
      (scopePreimage scope.parameters = scopePreimage scope'.parameters ↔
        check.scope.parameters = check'.scope.parameters ∧
          SameScopeValues check.scope.parameters mapping mapping')) ∧
    (∀ (source : LoadedContractSource) (config : LoadedContractConfig),
      compileContract sha256 source = .ok config → ∀ check ∈ config.checks,
      ∀ mapping : ScopeMapping, ¬ mapping.Fits check.scope.parameters ↔
        ∃ refusal, resolveScopeValues sha256 check mapping = .error refusal) := by
  constructor
  · intro check check' mapping mapping' scope scope' hscope hscope'
    exact preimage_eq_iff_same hscope hscope'
  · intro source config h check hcheck mapping
    rcases compileContract_check h hcheck with ⟨hcompiled, hdeclared⟩
    rw [← resolveScopeValues_isOk hcompiled hdeclared]
    cases resolveScopeValues sha256 check mapping <;> simp

/-- `ordersContract` with a scope of one exact amount. -/
def amountContract : LoadedContractSource :=
  let binding := fun datasetRef : String =>
    ({ datasetRef, column := "amount", operator := "eq", parameterRef := "amount" } :
      ScopeBindingSource)
  { ordersContract "id" with
    namedScopes :=
      [("all",
        { parameters :=
            [{ name := "amount"
               logicalType := { kind := "decimal", precision := some 4, scale := some 2 } }]
          bindings := [binding "orders_warehouse", binding "orders_mart"]
          nullPartition := "reject" })] }

/-- One amount as a string. -/
def amountMapping (text : String) : ScopeMapping where
  entries := [(nameKey "amount", .value (.text (codePoints text.toList)))]
  distinct := by simp [KeysOnce]

/-- Two spellings of an amount are resolved to the same payloads. -/
def sameAmount (check : RowCheckDefinition) (left right : String) : Bool :=
  match resolveScopeValues constantDigest check (amountMapping left),
    resolveScopeValues constantDigest check (amountMapping right) with
  | .ok scope, .ok scope' =>
    decide (scope.parameters.map (fun p => (p.field, p.canonicalPayload))
      = scope'.parameters.map fun p => (p.field, p.canonicalPayload))
  | _, _ => false

/-- Two spellings of an amount are resolved to one scope. -/
theorem scope_resolution_spellings :
    ∃ config, compileContract constantDigest amountContract = .ok config ∧
      ∃ check ∈ config.checks,
        SameScopeValues check.scope.parameters (amountMapping "1.5") (amountMapping "15e-1") := by
  have h : (match compileContract constantDigest amountContract with
      | .ok config => config.checks.any fun check => sameAmount check "1.5" "15e-1"
      | .error _ => false) = true := by
    decide +kernel
  generalize compileContract constantDigest amountContract = compiled at h
  cases compiled with
  | error refusal => cases h
  | ok config =>
    rcases List.any_eq_true.mp h with ⟨check, hcheck, hsame⟩
    refine ⟨config, rfl, check, hcheck, ?_⟩
    unfold sameAmount at hsame
    split at hsame
    case h_1 scope scope' hscope hscope' =>
      have hpreimage : scopePreimage scope.parameters = scopePreimage scope'.parameters := by
        rw [scopePreimage_eq_iff]
        exact (forall₂_of_map_eq (of_decide_eq_true hsame)).imp fun _ _ hpair =>
          Prod.mk.injEq .. ▸ hpair
      exact ((scope_resolution constantDigest).1 check check _ _ scope scope' hscope hscope').mp
        hpreimage |>.2
    case h_2 => cases hsame

end ForensicData.Planning
