/-
ForensicData.ClickHouse.LoweringTheorems — the row expressions are exact.

A row of cells is spelled by inputs that denote what its values mean
(`SpelledBy`); the reference envelope of the row is the one `encodeRow` makes of
such inputs. A cell is framed as its payload frames it (`fieldLowering_exact`),
and from the frames of the fields the whole row follows (`lowerRowEnvelope_law`).
-/
import ForensicData.Canonical.RowTheorems
import ForensicData.ClickHouse.PayloadLoweringTheorems

namespace ForensicData.ClickHouse

open ForensicData.Canonical
open ForensicData.Lib
open Json (renderInt)

/-! ## Lengths -/

/-- The hexadecimal length of a frame. -/
theorem leftPadZero_lowerHexNumber {n : ℕ} (h : n ≤ uint64Max) :
    leftPadZero (lowerHexNumber n) 16 = fixedDigits 16 16 n := by
  have hlength : (Nat.toDigits 16 n).length ≤ 16 :=
    (Nat.length_toDigits_le_iff (by omega) (by omega)).mpr (uint64Max_lt.mp h)
  -- whole bytes are the digits, with a zero before them where their number is odd
  obtain ⟨zeros, hzeros, hsum⟩ : ∃ zeros, lowerHexNumber n =
      List.replicate zeros '0' ++ Nat.toDigits 16 n ∧
        zeros + (Nat.toDigits 16 n).length ≤ 16 := by
    unfold lowerHexNumber
    dsimp only
    split
    · exact ⟨1, rfl, by omega⟩
    · exact ⟨0, rfl, by omega⟩
  have hpad : leftPadZero (lowerHexNumber n) 16 =
      List.replicate (16 - (Nat.toDigits 16 n).length) '0' ++ Nat.toDigits 16 n := by
    unfold leftPadZero
    rw [hzeros, List.length_append, List.length_replicate]
    split
    · rename_i hfull
      rw [List.take_of_length_le (by rw [List.length_append, List.length_replicate]; omega)]
      congr 2
      omega
    · rw [← List.append_assoc, List.replicate_append_replicate]
      congr 2
      omega
  have hall : ∀ c ∈ List.replicate (16 - (Nat.toDigits 16 n).length) '0' ++ Nat.toDigits 16 n,
      isDigitOf 16 c = true := by
    intro c hc
    rcases List.mem_append.mp hc with hc | hc
    · rw [List.eq_of_mem_replicate hc]
      decide
    · exact isDigitOf_of_mem_toDigits_base (by omega) (by omega) hc
  have htext := fixedDigits_digitsValue (show 16 ≤ 16 by omega) hall
  rw [digitsValue_append, digitsValue_toDigits_base (by omega) (by omega),
    (digitsValue_eq_zero (by omega)).mpr fun _ hc => List.eq_of_mem_replicate hc, Nat.zero_mul,
    Nat.zero_add, List.length_append, List.length_replicate, Nat.sub_add_cancel hlength] at htext
  rw [hpad, htext]

theorem length_text_le (moment : Moment) {precision : ℕ} (h : precision ≤ 9) :
    (moment.text precision).length ≤ 29 := by
  rw [Moment.text, Stamp.text, List.length_append, List.length_cons, List.length_append,
    length_fractionText]
  simp only [dateDigits, clockDigits, Moment.stamp, length_fraction, List.length_append,
    List.length_cons, length_fixedDigits]
  split <;> omega

/-- Every payload but a text is short. -/
theorem length_payload_le {field : FieldSchema} {logical : LogicalValue} {payload : Bytes}
    (h : Renders field logical payload) :
    payload.length ≤ 40 ∨ ∃ points, logical = .text points := by
  obtain ⟨name, logicalType, nullable, parameters, normalization, fits⟩ := field
  cases logicalType with
  | int64 =>
    cases logical with
    | integer n =>
      obtain ⟨hn, rfl⟩ := h
      have hlt : n.natAbs < 10 ^ 19 := by
        unfold IsInt64 int64Min int64Max at hn
        omega
      have := length_renderInt_le (show 0 < 19 by omega) hlt
      rw [length_asciiBytes]
      exact .inl (by omega)
    | _ => exact h.elim
  | decimal =>
    cases parameters with
    | decimal parameters =>
      cases logical with
      | decimal q =>
        obtain ⟨unscaled, hunscaled, rfl⟩ := h
        have := length_renderInt_le parameters.precision_pos hunscaled.2
        have := parameters.precision_le
        rw [length_asciiBytes]
        exact .inl (by omega)
      | _ => exact h.elim
    | _ => cases fits
  | boolean =>
    cases logical with
    | boolean b =>
      obtain rfl : payload = asciiBytes (if b then ['1'] else ['0']) := h
      cases b <;> exact .inl (by decide)
    | _ => exact h.elim
  | string =>
    cases logical with
    | text points => exact .inr ⟨points, rfl⟩
    | _ => exact h.elim
  | date =>
    cases logical with
    | date d =>
      obtain rfl : payload = asciiBytes (formatDate d) := h
      rw [length_asciiBytes, length_formatDate]
      exact .inl (by omega)
    | _ => exact h.elim
  | timestampLocal =>
    cases parameters with
    | timestamp parameters =>
      cases logical with
      | localTime moment =>
        obtain ⟨-, rfl⟩ := h
        have := length_text_le moment parameters.precision_le
        rw [length_asciiBytes]
        exact .inl (by omega)
      | _ => exact h.elim
    | _ => cases fits
  | timestampInstant =>
    cases parameters with
    | timestamp parameters =>
      cases logical with
      | instant nanos =>
        obtain ⟨moment, -, rfl⟩ := h
        have := length_text_le moment parameters.precision_le
        rw [length_asciiBytes, List.length_append, List.length_singleton]
        exact .inl (by omega)
      | _ => exact h.elim
    | _ => cases fits

/-- The payload of a text is its UTF-8 encoding. -/
theorem renders_text {field : FieldSchema} {text : String} {payload : Bytes}
    (h : Renders field (.text (codePoints text.toList)) payload) : payload = utf8Encode text := by
  obtain ⟨name, logicalType, nullable, parameters, normalization, fits⟩ := field
  cases logicalType with
  | string =>
    obtain ⟨other, hother, -, rfl⟩ := h
    rw [String.toList_injective (codePoints_injective hother)]
  | _ => cases parameters <;> exact h.elim

variable {functions : ClickHouseFunctions} {field : FieldSchema}
  {binding : ClickHouseCanonicalFieldBinding} {value : ClickHouseValue} {cell : ClickHouseCell}
  {index : ℕ} {runtimeProfile : ClickHouseRuntimeProfile}

/-- The payload of a stored value has a length a frame can declare. -/
theorem frameFits_of_denotes {logical : LogicalValue} {payload : Bytes}
    (hstores : Stores binding.baseType value)
    (hdenotes : CellDenotes binding.baseType value logical)
    (hrenders : Renders field logical payload) : FrameFits (some payload) := by
  show payload.length ≤ uint64Max
  rcases length_payload_le hrenders with h | ⟨points, rfl⟩
  · unfold uint64Max
    omega
  · cases value with
    | string bytes =>
      obtain ⟨text, rfl, rfl⟩ := hdenotes
      rw [renders_text hrenders]
      exact hstores.2
    | _ => exact hdenotes.elim

/-! ## Frames -/

/-- A column stores the cell. -/
def CellStored (binding : ClickHouseCanonicalFieldBinding) : ClickHouseCell → Prop
  | none => binding.nullable = true
  | some value => Stores binding.baseType value

/-- The payload that frames a cell. -/
def CellEntry (field : FieldSchema) (binding : ClickHouseCanonicalFieldBinding) :
    ClickHouseCell → Option Bytes → Prop
  | none, none => field.nullable = true
  | some value, some payload => ∃ logical,
      CellDenotes binding.baseType value logical ∧ Renders field logical payload
  | _, _ => False

/-- The lowering of a field is valid for the cells that can be framed, and then
is their frame. -/
def FieldLowering.Exact (lowering : FieldLowering) (field : FieldSchema)
    (binding : ClickHouseCanonicalFieldBinding) (cell : ClickHouseCell) : Prop :=
  (fieldValidity field lowering = true ↔ ∃ parsed, CellEntry field binding cell parsed) ∧
    ∀ parsed, CellEntry field binding cell parsed →
      FrameFits parsed ∧ lowering.frame = frameText field parsed

theorem presentFrame_exact {payload : PayloadLowering} (hstores : Stores binding.baseType value)
    (hexact : payload.Exact field binding.baseType value) {isNull : Option Bool}
    (hnull : isNull = none ∨ isNull = some false) :
    (FieldLowering.mk (typeTag field.logicalType ++ '1' ::
        (leftPadZero (lowerHexNumber payload.payload.length) 16 ++ hexText payload.payload))
      payload.isValid isNull).Exact field binding (some value) := by
  have hvalidity : ∀ frame, fieldValidity field ⟨frame, payload.isValid, isNull⟩ =
      payload.isValid := by
    intro frame
    unfold fieldValidity
    rcases hnull with rfl | rfl <;> simp
  constructor
  · rw [hvalidity]
    constructor
    · intro h
      exact ⟨some payload.payload, (hexact payload.payload).mp ⟨h, rfl⟩⟩
    · intro h
      obtain ⟨parsed, hparsed⟩ := h
      cases parsed with
      | none => exact hparsed.elim
      | some bytes => exact ((hexact bytes).mpr hparsed).1
  · intro parsed hparsed
    cases parsed with
    | none => exact hparsed.elim
    | some bytes =>
      obtain ⟨-, rfl⟩ := (hexact bytes).mpr hparsed
      obtain ⟨logical, hdenotes, hrenders⟩ := hparsed
      have hfits := frameFits_of_denotes hstores hdenotes hrenders
      rw [leftPadZero_lowerHexNumber hfits]
      exact ⟨hfits, rfl⟩

theorem nullFrame_exact {payload : PayloadLowering} :
    (FieldLowering.mk (typeTag field.logicalType ++ List.replicate 17 '0') payload.isValid
      (some true)).Exact field binding none := by
  have hvalidity : ∀ frame, fieldValidity field ⟨frame, payload.isValid, some true⟩ =
      field.nullable := by
    intro frame
    unfold fieldValidity
    cases field.nullable <;> simp
  constructor
  · rw [hvalidity]
    constructor
    · intro h
      exact ⟨none, h⟩
    · intro h
      obtain ⟨parsed, hparsed⟩ := h
      cases parsed with
      | none => exact hparsed
      | some payload => exact hparsed.elim
  · intro parsed hparsed
    cases parsed with
    | none => exact ⟨trivial, rfl⟩
    | some payload => exact hparsed.elim

/-- A mapped field is lowered, exactly. What is made of a NULL value does not matter. -/
theorem fieldLowering_exact
    (hmapped : validatePhysicalMapping field binding index runtimeProfile = .ok ())
    (hstored : CellStored binding cell) :
    ∃ lowering, fieldLowering functions field binding cell = .ok lowering ∧
      lowering.Exact field binding cell := by
  cases cell with
  | none =>
    have hnullable : binding.nullable = true := hstored
    obtain ⟨payload, hpayload⟩ : ∃ payload, payloadLowering functions field binding
        (functions.assumedOfNull binding.baseType) = .ok payload :=
      payloadLowering_total hmapped _
    refine ⟨_, ?_, @nullFrame_exact field binding payload⟩
    unfold fieldLowering
    simp only [Option.getD_none, hpayload, hnullable]
    rfl
  | some value =>
    obtain ⟨payload, hpayload, hexact⟩ : ∃ payload,
        payloadLowering functions field binding value = .ok payload ∧
          payload.Exact field binding.baseType value := payloadLowering_exact hmapped hstored
    cases hnullable : binding.nullable with
    | false =>
      refine ⟨_, ?_, presentFrame_exact hstored hexact (.inl rfl)⟩
      unfold fieldLowering
      simp only [Option.getD_some, hpayload, hnullable]
      rfl
    | true =>
      refine ⟨_, ?_, presentFrame_exact hstored hexact (.inr rfl)⟩
      unfold fieldLowering
      simp only [Option.getD_some, hpayload, hnullable]
      rfl

/-! ## Rows -/

/-- The lowerings of fields that are mapped, with their validity and their frames. -/
theorem fieldLowerings_exact {fields : List FieldSchema}
    {bindings : List ClickHouseCanonicalFieldBinding} {cells : List ClickHouseCell} {start : ℕ}
    (hmapped : List.Forall₂ (fun (field : FieldSchema × ℕ) binding =>
      binding.fieldName = field.1.name ∧
        validatePhysicalMapping field.1 binding field.2 runtimeProfile = .ok ())
      (fields.zipIdx start) bindings)
    (hstored : List.Forall₂ CellStored bindings cells) :
    ∃ lowerings, fieldLowerings functions fields bindings cells = .ok lowerings ∧
      ((lowerings.map fun (field, lowering) => fieldValidity field lowering).all id = true ↔
        ∃ parsed, Forall₃ (fun (field, binding) cell payload => CellEntry field binding cell payload)
          (fields.zip bindings) cells parsed) ∧
      ∀ parsed, Forall₃ (fun (field, binding) cell payload => CellEntry field binding cell payload)
          (fields.zip bindings) cells parsed →
        List.Forall₂ (fun _ payload => FrameFits payload) fields parsed ∧
          (lowerings.map (·.2)).flatMap (·.frame) = framesText fields parsed := by
  induction fields generalizing bindings cells start with
  | nil =>
    rw [List.zipIdx_nil] at hmapped
    cases hmapped
    cases hstored
    refine ⟨[], rfl, ?_, ?_⟩
    · exact iff_of_true rfl ⟨[], .nil⟩
    · intro parsed hparsed
      cases hparsed
      exact ⟨.nil, rfl⟩
  | cons field fields ih =>
    rw [List.zipIdx_cons] at hmapped
    cases hmapped with
    | cons hfirst hrest =>
      cases hstored with
      | cons hcell hcells =>
        obtain ⟨first, hfirst, hvalid, hframe⟩ : ∃ lowering,
            fieldLowering functions field _ _ = .ok lowering ∧ lowering.Exact field _ _ :=
          fieldLowering_exact hfirst.2 hcell
        obtain ⟨rest, hlowered, hvalids, hframes⟩ := ih hrest hcells
        refine ⟨(field, first) :: rest, ?_, ?_, ?_⟩
        · simp only [fieldLowerings, hfirst, hlowered]
          rfl
        · rw [List.map_cons, List.all_cons, Bool.and_eq_true, hvalids]
          simp only [id_eq, hvalid, List.zip_cons_cons]
          constructor
          · intro h
            obtain ⟨⟨parsed, hparsed⟩, others, hothers⟩ := h
            exact ⟨parsed :: others, .cons hparsed hothers⟩
          · intro h
            obtain ⟨parsed, hparsed⟩ := h
            cases hparsed with
            | cons hitem hitems => exact ⟨⟨_, hitem⟩, _, hitems⟩
        · intro parsed hparsed
          rw [List.zip_cons_cons] at hparsed
          cases hparsed with
          | cons hitem hitems =>
            obtain ⟨hfits, htext⟩ := hframe _ hitem
            obtain ⟨hfitses, htexts⟩ := hframes _ hitems
            refine ⟨.cons hfits hfitses, ?_⟩
            rw [List.map_cons, List.flatMap_cons, htexts, htext]
            rfl

/-! ## Inputs -/

/-- The input denotes what the value of the cell means; NULL is no input. -/
def SpelledBy (field : FieldSchema) (binding : ClickHouseCanonicalFieldBinding) :
    ClickHouseCell → Option CanonicalInput → Prop
  | none, none => True
  | some value, some input => ∃ logical,
      CellDenotes binding.baseType value logical ∧ denotes field input = some logical
  | _, _ => False

/-- The inputs of a row, in order. -/
def RowSpelledBy (relation : ClickHouseCanonicalRelation) (cells : List ClickHouseCell)
    (inputs : List (Option CanonicalInput)) : Prop :=
  Forall₃ (fun (field, binding) cell input => SpelledBy field binding cell input)
    (relation.schema.fields.zip relation.bindings) cells inputs

/-- A local time and an instant are values of different fields. -/
theorem localTime_instant {moment : Moment} {nanos : Int} {input : CanonicalInput}
    {payload : Bytes} :
    ¬ (denotes field input = some (.localTime moment) ∧ Renders field (.instant nanos) payload) ∧
      ¬ (denotes field input = some (.instant nanos) ∧
        Renders field (.localTime moment) payload) := by
  unfold denotes Renders
  constructor <;> intro h <;> cases hlogical : field.logicalType <;> simp [hlogical] at h

/-- Under one field a value has one meaning. -/
theorem CellDenotes.unique {baseType : String} {v w : LogicalValue} {input : CanonicalInput}
    {payload : Bytes} (hv : CellDenotes baseType value v) (hw : CellDenotes baseType value w)
    (hdenotes : denotes field input = some v) (hrenders : Renders field w payload) : v = w := by
  cases value with
  | int64 n =>
    cases v with
    | integer a =>
      cases w with
      | integer b => rw [show a = n from hv, show b = n from hw]
      | _ => exact hw.elim
    | _ => exact hv.elim
  | decimal n =>
    cases v with
    | decimal a =>
      cases w with
      | decimal b =>
        obtain ⟨physical, hparse, ha⟩ := hv
        obtain ⟨other, hother, hb⟩ := hw
        obtain rfl := Except.ok.inj (hparse.symm.trans hother)
        rw [mul_right_cancel₀ (pow_ne_zero _ (by norm_num)) (ha.trans hb.symm)]
      | _ => exact hw.elim
    | _ => exact hv.elim
  | bool c =>
    cases v with
    | boolean a =>
      cases w with
      | boolean b => rw [show a = c from hv, show b = c from hw]
      | _ => exact hw.elim
    | _ => exact hv.elim
  | string bytes =>
    cases v with
    | text a =>
      cases w with
      | text b =>
        obtain ⟨text, rfl, rfl⟩ := hv
        obtain ⟨other, rfl, hbytes⟩ := hw
        rw [utf8Encode_injective hbytes]
      | _ => exact hw.elim
    | _ => exact hv.elim
  | date day =>
    cases v with
    | date a =>
      cases w with
      | date b =>
        have hday : (a.toOrdinal : Int) = b.toOrdinal := Eq.trans hv (Eq.symm hw)
        rw [Date.toOrdinal_injective (Int.ofNat.inj hday)]
      | _ => exact hw.elim
    | _ => exact hv.elim
  | dateTime64 ticks =>
    cases v with
    | localTime a =>
      cases w with
      | localTime b =>
        obtain ⟨declaration, hparse, ha⟩ := hv
        obtain ⟨other, hother, hb⟩ := hw
        obtain rfl := Except.ok.inj (hparse.symm.trans hother)
        rw [Moment.nanos_injective (ha.trans hb.symm)]
      | instant b => exact absurd ⟨hdenotes, hrenders⟩ localTime_instant.1
      | _ => exact hw.elim
    | instant a =>
      cases w with
      | instant b =>
        obtain ⟨declaration, hparse, ha⟩ := hv
        obtain ⟨other, hother, hb⟩ := hw
        obtain rfl := Except.ok.inj (hparse.symm.trans hother)
        rw [ha, hb]
      | localTime b => exact absurd ⟨hdenotes, hrenders⟩ localTime_instant.2
      | _ => exact hw.elim
    | _ => exact hv.elim

/-- A cell that can be framed is spelled by an input, and its frame is the input's. -/
theorem CellEntry.exists_input {payload : Option Bytes}
    (h : CellEntry field binding cell payload) :
    ∃ input, SpelledBy field binding cell input ∧ RowEntry field input payload := by
  cases cell with
  | none =>
    cases payload with
    | none => exact ⟨none, trivial, h⟩
    | some bytes => exact h.elim
  | some value =>
    cases payload with
    | none => exact h.elim
    | some bytes =>
      obtain ⟨logical, hdenotes, hrenders⟩ := h
      obtain ⟨decoded, hdecodes⟩ := hrenders.exists_decodes
      have hinput := denotes_toInput hrenders hdecodes
      exact ⟨some decoded.toInput, ⟨logical, hdenotes, hinput⟩,
        encodePayload_eq_ok.mpr ⟨logical, hinput, hrenders⟩⟩

/-- The frame of an input that spells a cell is the frame of the cell. -/
theorem SpelledBy.rowEntry_iff {input : Option CanonicalInput} {payload : Option Bytes}
    (h : SpelledBy field binding cell input) :
    RowEntry field input payload ↔ CellEntry field binding cell payload := by
  cases cell with
  | none =>
    cases input with
    | none => cases payload <;> exact Iff.rfl
    | some input => exact h.elim
  | some value =>
    cases input with
    | none => exact h.elim
    | some input =>
      obtain ⟨logical, hcell, hinput⟩ := h
      cases payload with
      | none => exact Iff.rfl
      | some bytes =>
        refine Iff.trans encodePayload_eq_ok ?_
        constructor
        · intro hencoded
          obtain ⟨other, hother, hrenders⟩ := hencoded
          obtain rfl := Option.some.inj (hother.symm.trans hinput)
          exact ⟨other, hcell, hrenders⟩
        · intro hentry
          obtain ⟨other, hother, hrenders⟩ := hentry
          obtain rfl := hcell.unique hother hinput hrenders
          exact ⟨logical, hinput, hrenders⟩

theorem forall₃_exists_input {pairs : List (FieldSchema × ClickHouseCanonicalFieldBinding)}
    {cells : List ClickHouseCell} {parsed : List (Option Bytes)}
    (h : Forall₃ (fun (field, binding) cell payload => CellEntry field binding cell payload) pairs
      cells parsed) :
    ∃ inputs, Forall₃ (fun (field, binding) cell input => SpelledBy field binding cell input) pairs
      cells inputs := by
  induction h with
  | nil => exact ⟨[], .nil⟩
  | cons hitem _ ih =>
    obtain ⟨input, hinput, -⟩ := CellEntry.exists_input hitem
    obtain ⟨inputs, hinputs⟩ := ih
    exact ⟨input :: inputs, .cons hinput hinputs⟩

theorem forall₃_rowEntry_iff {pairs : List (FieldSchema × ClickHouseCanonicalFieldBinding)}
    {cells : List ClickHouseCell} {inputs : List (Option CanonicalInput)}
    {parsed : List (Option Bytes)}
    (h : Forall₃ (fun (field, binding) cell input => SpelledBy field binding cell input) pairs
      cells inputs) :
    Forall₃ RowEntry (pairs.map (·.1)) inputs parsed ↔
      Forall₃ (fun (field, binding) cell payload => CellEntry field binding cell payload) pairs
        cells parsed := by
  induction h generalizing parsed with
  | nil => rw [List.map_nil, Forall₃.nil_iff, Forall₃.nil_iff]
  | cons hitem _ ih =>
    rw [List.map_cons, Forall₃.cons_iff, Forall₃.cons_iff]
    simp only [hitem.rowEntry_iff, ih]

/-! ## The row law -/

/-- What the lowering of a row yields agrees with what the reference encoder returns. -/
def EnvelopeLowering.Agrees (lowering : EnvelopeLowering) (limits : ClickHouseCanonicalLimits) :
    Except Refusal Bytes → Prop
  | .error _ => lowering.invalidValue = true ∧ lowering.oversizedValue = false ∧
      lowering.acceptedEnvelope = none
  | .ok envelope =>
    lowering.invalidValue = false ∧ lowering.encodedEnvelope = envelope ∧
      (lowering.oversizedValue = true ↔ limits.maxEncodedEnvelopeBytes < envelope.length) ∧
        lowering.acceptedEnvelope =
          if limits.maxEncodedEnvelopeBytes < envelope.length then none else some envelope

variable {header : List Char} {limits : ClickHouseCanonicalLimits} {fields : List FieldLowering}
  {validities : List Bool}

theorem assembleEnvelope_invalid (h : ¬ validities.all id = true) :
    (assembleEnvelope header limits fields validities).invalidValue = true ∧
      (assembleEnvelope header limits fields validities).oversizedValue = false ∧
        (assembleEnvelope header limits fields validities).acceptedEnvelope = none := by
  rw [Bool.not_eq_true] at h
  simp [assembleEnvelope, h]

theorem assembleEnvelope_valid (h : validities.all id = true) :
    (assembleEnvelope header limits fields validities).Agrees limits
      (.ok (asciiBytes (header ++ fields.flatMap (·.frame)))) := by
  unfold assembleEnvelope EnvelopeLowering.Agrees
  simp [h]

/-- The expressions of a row flag it invalid when the reference encoder refuses
it, oversized when its envelope is longer than the limit, and yield the envelope
otherwise. A row that no inputs spell is invalid. -/
theorem lowerRowEnvelope_law (sha256 : Sha256) (functions : ClickHouseFunctions)
    (relation : ClickHouseCanonicalRelation) (limits : ClickHouseCanonicalLimits)
    (cells : List ClickHouseCell) (hstored : List.Forall₂ CellStored relation.bindings cells) :
    ∃ lowering, lowerRowEnvelope sha256 functions relation limits cells = .ok lowering ∧
      (∀ inputs, RowSpelledBy relation cells inputs →
        lowering.Agrees limits (encodeRow sha256 relation.schema inputs)) ∧
      ((∀ inputs, ¬ RowSpelledBy relation cells inputs) →
        lowering.invalidValue = true ∧ lowering.oversizedValue = false ∧
          lowering.acceptedEnvelope = none) := by
  obtain ⟨lowerings, hlowerings, hvalid, hframes⟩ :=
    @fieldLowerings_exact functions _ _ _ _ _ relation.mapped hstored
  have hfields : (relation.schema.fields.zip relation.bindings).map (·.1) =
      relation.schema.fields := by
    have hlength := relation.mapped.length_eq
    rw [List.length_zipIdx] at hlength
    exact List.map_fst_zip hlength.le
  have hassembled : lowerRowEnvelope sha256 functions relation limits cells =
      .ok (assembleEnvelope (rowHeader sha256 relation.schema) limits (lowerings.map (·.2))
        (lowerings.map fun (field, lowering) => fieldValidity field lowering)) := by
    simp only [lowerRowEnvelope, hlowerings]
    rfl
  refine ⟨_, hassembled, ?_, ?_⟩
  · intro inputs hinputs
    -- what the inputs are framed as are the frames of the cells
    have hentries := fun parsed => @forall₃_rowEntry_iff _ _ _ parsed hinputs
    rw [hfields] at hentries
    cases hencoded : encodeRow sha256 relation.schema inputs with
    | error refusal =>
      apply assembleEnvelope_invalid
      intro h
      obtain ⟨parsed, hparsed⟩ := hvalid.mp h
      have hframed : Framed RowEntry relation.schema inputs parsed := by
        have hrow := (hentries parsed).mpr hparsed
        have hfits := (hframes parsed hparsed).1
        exact hrow.and_right hfits
      rw [encodeRow_eq_ok.mpr ⟨parsed, hframed, rfl⟩] at hencoded
      cases hencoded
    | ok envelope =>
      obtain ⟨parsed, hframed, rfl⟩ := encodeRow_eq_ok.mp hencoded
      have hparsed := (hentries parsed).mp (hframed.imp fun _ _ _ h => h.1)
      rw [← (hframes parsed hparsed).2]
      exact assembleEnvelope_valid (hvalid.mpr ⟨parsed, hparsed⟩)
  · intro hnone
    apply assembleEnvelope_invalid
    intro h
    obtain ⟨parsed, hparsed⟩ := hvalid.mp h
    obtain ⟨inputs, hinputs⟩ := forall₃_exists_input hparsed
    exact hnone inputs hinputs

/-! ## A row -/

open Classical in
noncomputable def calendarDateText (day : Int) : List Char :=
  if h : ∃ d : Date, (d.toOrdinal : Int) = day then formatDate h.choose
  else List.replicate 10 '0'

theorem calendarDateText_exact (d : Date) : calendarDateText d.toOrdinal = formatDate d := by
  have h : ∃ e : Date, (e.toOrdinal : Int) = d.toOrdinal := ⟨d, rfl⟩
  rw [calendarDateText, dif_pos h, Date.toOrdinal_injective (Int.ofNat.inj h.choose_spec)]

theorem calendarDateText_other (day : Int) (hday : ∀ d : Date, (d.toOrdinal : Int) ≠ day) :
    (calendarDateText day).take 4 = ['0', '0', '0', '0'] := by
  rw [calendarDateText, dif_neg (not_exists.mpr hday)]
  rfl

open Classical in
noncomputable def calendarTimeText (precision : ℕ) (ticks : Int) : List Char :=
  if h : ∃ moment : Moment, moment.nanos = tickNanos precision ticks then
    spacedText h.choose precision
  else List.replicate (timestampLength precision) '0'

theorem calendarTimeText_exact (precision : ℕ) (ticks : Int) (moment : Moment)
    (hnanos : moment.nanos = tickNanos precision ticks) :
    calendarTimeText precision ticks = spacedText moment precision := by
  have h : ∃ other : Moment, other.nanos = tickNanos precision ticks := ⟨moment, hnanos⟩
  rw [calendarTimeText, dif_pos h, Moment.nanos_injective (h.choose_spec.trans hnanos.symm)]

theorem calendarTimeText_other (precision : ℕ) (ticks : Int)
    (hnone : ∀ moment : Moment, moment.nanos ≠ tickNanos precision ticks) :
    (calendarTimeText precision ticks).take 4 = ['0', '0', '0', '0'] := by
  rw [calendarTimeText, dif_neg (not_exists.mpr hnone), List.take_replicate, Nat.min_eq_left]
  · rfl
  · rw [timestampLength]
    omega

/-- Texts of the calendar; outside of it they begin with the year 0000. -/
noncomputable def calendarFunctions : ClickHouseFunctions where
  assumedOfNull _ := .string []
  dateText := calendarDateText
  dateTimeText _ := calendarTimeText
  date_exact := calendarDateText_exact
  date_other day hday _ := calendarDateText_other day hday
  time_exact precision ticks moment _ := calendarTimeText_exact precision ticks moment
  time_other precision ticks _ hnone _ := calendarTimeText_other precision ticks hnone

/-- A count, an amount with one digit behind the point and a remark. -/
def saleSchema : CanonicalSchema where
  protocol := protocolName
  fields :=
    [⟨"count", .int64, false, .none, .none, FieldParameters.fit_int64⟩,
     ⟨"amount", .decimal, false, .decimal ⟨10, 1, by omega, by omega, by omega⟩, .none, rfl⟩,
     ⟨"remark", .string, true, .none, .none, FieldParameters.fit_string⟩]
  protocol_eq := rfl
  count_le := by decide

def saleRelation : ClickHouseCanonicalRelation where
  runtimeProfile := .lts
  schema := saleSchema
  bindings :=
    [⟨"count", "n", "Int64", false, none⟩, ⟨"amount", "a", "Decimal(12, 3)", false, none⟩,
     ⟨"remark", "r", "String", true, none⟩]
  bindings_ne := by simp
  mapped := .cons ⟨rfl, by decide⟩ (.cons ⟨rfl, by decide⟩ (.cons ⟨rfl, by decide⟩ .nil))
  columns_nodup := by decide

def saleLimits : ClickHouseCanonicalLimits := ⟨1000, by omega⟩

/-- The row of the count 5, the amount -1.500 and no remark. -/
theorem lowerRowEnvelope_law_sale :
    ∃ lowering,
      lowerRowEnvelope zeroDigest calendarFunctions saleRelation saleLimits
          [some (.int64 5), some (.decimal (-1500)), none] = .ok lowering ∧
        lowering.Agrees saleLimits (encodeRow zeroDigest saleSchema
          [some (.integer 5), some (.decimal (.finite true 15 (-1))), none]) := by
  have hstored : List.Forall₂ CellStored saleRelation.bindings
      [some (.int64 5), some (.decimal (-1500)), none] :=
    .cons ⟨rfl, by decide⟩ (.cons ⟨⟨12, 3⟩, by decide, by decide, by decide⟩ (.cons rfl .nil))
  obtain ⟨lowering, hlowering, hagrees, -⟩ :=
    lowerRowEnvelope_law zeroDigest calendarFunctions saleRelation saleLimits _ hstored
  refine ⟨lowering, hlowering, hagrees _ (.cons ⟨.integer 5, rfl, rfl⟩ (.cons ?_ (.cons trivial
    .nil)))⟩
  refine ⟨.decimal (signed true 15 * 10 ^ (-1 : Int)), ⟨⟨12, 3⟩, by decide, ?_⟩, rfl⟩
  norm_num [signed]

end ForensicData.ClickHouse
