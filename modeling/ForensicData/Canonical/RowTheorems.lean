/-
ForensicData.Canonical.RowTheorems — rows, keys and their envelopes.

Decoding gives the canonical form of what was encoded, and what is decoded is
encoded to the same bytes again (`envelope_round_trip`). Comparing envelopes is
comparing schemas and logical values (`envelope_identity`).
-/
import ForensicData.Canonical.EnvelopeTheorems

namespace ForensicData.Canonical

open ForensicData.Lib

variable {sha256 : Sha256}

/-! ## Canonical forms -/

/-- The decoded value is the canonical form of the value that the input denotes. -/
def CanonicalForm (field : FieldSchema) (value : CanonicalInput) (decoded : DecodedValue) : Prop :=
  ∃ logical, denotes field value = some logical ∧ Decodes field logical decoded

/-- The canonical form of a value that may be NULL. -/
def RowForm (field : FieldSchema) : Option CanonicalInput → Option DecodedValue → Prop
  | none, none => True
  | some value, some decoded => CanonicalForm field value decoded
  | _, _ => False

/-- The canonical form of the value of a key, which is not NULL. -/
def KeyForm (field : FieldSchema) (value : Option CanonicalInput) (decoded : DecodedValue) : Prop :=
  RowForm field value (some decoded)

/-- What was encoded is decoded to its canonical form. -/
theorem decodePayload_of_encode {field : FieldSchema} {value : CanonicalInput} {payload : Bytes}
    (h : encodePayload field value = .ok payload) :
    ∃ decoded, decodePayload field payload = .ok decoded ∧ CanonicalForm field value decoded := by
  rw [encodePayload_eq_ok] at h
  obtain ⟨logical, hdenotes, hrenders⟩ := h
  obtain ⟨decoded, hdecodes⟩ := hrenders.exists_decodes
  exact ⟨decoded, decodePayload_eq_ok.mpr ⟨logical, hrenders, hdecodes⟩, logical, hdenotes,
    hdecodes⟩

/-- What was decoded is encoded to its payload. -/
theorem encodePayload_of_decode {field : FieldSchema} {payload : Bytes} {decoded : DecodedValue}
    (h : decodePayload field payload = .ok decoded) :
    encodePayload field decoded.toInput = .ok payload := by
  rw [decodePayload_eq_ok] at h
  obtain ⟨logical, hrenders, hdecodes⟩ := h
  exact encodePayload_eq_ok.mpr ⟨logical, denotes_toInput hrenders hdecodes, hrenders⟩

theorem rowValue_of_entry {field : FieldSchema} {value : Option CanonicalInput}
    {payload : Option Bytes} (h : RowEntry field value payload) :
    ∃ decoded, rowValue field payload = .ok decoded ∧ RowForm field value decoded := by
  match value, payload, h with
  | none, none, h =>
    have hnullable : field.nullable = true := h
    exact ⟨none, by rw [rowValue, if_pos hnullable], trivial⟩
  | some value, some payload, h =>
    obtain ⟨decoded, hdecode, hform⟩ := decodePayload_of_encode h
    exact ⟨some decoded, by rw [rowValue, hdecode]; rfl, hform⟩

theorem keyValue_of_entry {field : FieldSchema} {value : Option CanonicalInput}
    {payload : Option Bytes} (h : KeyEntry field value payload) :
    ∃ decoded, keyValue field payload = .ok decoded ∧ KeyForm field value decoded := by
  match value, payload, h with
  | some value, some payload, h => exact decodePayload_of_encode h

theorem rowEntry_of_value {field : FieldSchema} {payload : Option Bytes}
    {decoded : Option DecodedValue} (h : rowValue field payload = .ok decoded) :
    RowEntry field (decoded.map DecodedValue.toInput) payload := by
  cases payload with
  | none =>
    rw [rowValue] at h
    split at h
    · rename_i hnullable
      rw [Except.ok.injEq] at h
      subst h
      exact hnullable
    · cases h
  | some payload =>
    simp only [rowValue, bind_eq_ok, Except.ok.injEq] at h
    obtain ⟨value, hvalue, rfl⟩ := h
    exact encodePayload_of_decode hvalue

theorem keyEntry_of_value {field : FieldSchema} {payload : Option Bytes} {decoded : DecodedValue}
    (h : keyValue field payload = .ok decoded) :
    KeyEntry field (some decoded.toInput) payload := by
  cases payload with
  | none => cases h
  | some payload => exact encodePayload_of_decode h

/-! ## An amount -/

def amountField : FieldSchema where
  name := "amount"
  logicalType := .decimal
  nullable := true
  parameters := .decimal
    { precision := 4, scale := 2, precision_pos := by decide, precision_le := by decide
      scale_le := by decide }
  normalization := .none
  fits := rfl

def amountSchema : CanonicalSchema where
  protocol := protocolName
  fields := [amountField]
  protocol_eq := rfl
  count_le := by decide

def zeroDigest : Sha256 where
  digest := fun _ => List.replicate 32 0
  length_digest := fun _ => rfl

def amountEnvelope : Bytes :=
  asciiBytes (['D', 'F', 'E', '1', 'R'] ++ List.replicate 64 '0' ++ fixedDigits 16 8 1 ++
    ['0', '2', '1'] ++ fixedDigits 16 16 3 ++ ['3', '5', '3', '0', '3', '0'])

theorem encode_amount : encodeRow zeroDigest amountSchema [some (.integer 5)]
    = .ok amountEnvelope := by
  rfl

/-! ## Round trips -/

theorem decodeRow_of_encode {schema : CanonicalSchema} {values : List (Option CanonicalInput)}
    {envelope : Bytes} (h : encodeRow sha256 schema values = .ok envelope) :
    ∃ decoded, decodeRow sha256 schema envelope = .ok decoded ∧
      Forall₃ RowForm schema.fields values decoded := by
  rw [encodeRow_eq_ok] at h
  obtain ⟨parsed, hframed, henvelope⟩ := h
  have hdecoded : ∃ decoded, Forall₃ (fun field payload item =>
      rowValue field payload = .ok item ∧ FrameFits payload) schema.fields parsed decoded ∧
        Forall₃ RowForm schema.fields values decoded := by
    refine hframed.exists_fourth fun field value payload hentry => ?_
    obtain ⟨item, hitem, hform⟩ := rowValue_of_entry hentry.1
    exact ⟨item, ⟨hitem, hentry.2⟩, hform⟩
  obtain ⟨decoded, hdecoded, hforms⟩ := hdecoded
  exact ⟨decoded, decodeRow_eq_ok.mpr ⟨parsed, hdecoded, henvelope⟩, hforms⟩

theorem decodeKey_of_encode {schema : CanonicalSchema} {values : List (Option CanonicalInput)}
    {envelope : Bytes} (h : encodeKey sha256 schema values = .ok envelope) :
    ∃ decoded, decodeKey sha256 schema envelope = .ok decoded ∧
      Forall₃ KeyForm schema.fields values decoded := by
  rw [encodeKey_eq_ok] at h
  obtain ⟨parsed, hframed, henvelope⟩ := h
  have hdecoded : ∃ decoded, Forall₃ (fun field payload item =>
      keyValue field payload = .ok item ∧ FrameFits payload) schema.fields parsed decoded ∧
        Forall₃ KeyForm schema.fields values decoded := by
    refine hframed.exists_fourth fun field value payload hentry => ?_
    obtain ⟨item, hitem, hform⟩ := keyValue_of_entry hentry.1
    exact ⟨item, ⟨hitem, hentry.2⟩, hform⟩
  obtain ⟨decoded, hdecoded, hforms⟩ := hdecoded
  exact ⟨decoded, decodeKey_eq_ok.mpr ⟨parsed, hdecoded, henvelope⟩, hforms⟩

theorem encodeRow_of_decode {schema : CanonicalSchema} {envelope : Bytes}
    {decoded : List (Option DecodedValue)} (h : decodeRow sha256 schema envelope = .ok decoded) :
    encodeRow sha256 schema (decoded.map fun value => value.map DecodedValue.toInput)
      = .ok envelope := by
  rw [decodeRow_eq_ok] at h
  obtain ⟨parsed, hdecoded, henvelope⟩ := h
  refine encodeRow_eq_ok.mpr ⟨parsed, ?_, henvelope⟩
  exact hdecoded.map_swap _ fun _ _ _ hitem => ⟨rowEntry_of_value hitem.1, hitem.2⟩

theorem encodeKey_of_decode {schema : CanonicalSchema} {envelope : Bytes}
    {decoded : List DecodedValue} (h : decodeKey sha256 schema envelope = .ok decoded) :
    encodeKey sha256 schema (decoded.map fun value => some value.toInput) = .ok envelope := by
  rw [decodeKey_eq_ok] at h
  obtain ⟨parsed, hdecoded, henvelope⟩ := h
  refine encodeKey_eq_ok.mpr ⟨parsed, ?_, henvelope⟩
  exact hdecoded.map_swap _ fun _ _ _ hitem => ⟨keyEntry_of_value hitem.1, hitem.2⟩

/-- Rows and keys that are encoded are decoded to their canonical forms, and
every envelope that is decoded is the one its values are encoded to; so the
envelopes accepted are the ones encoding produces. -/
theorem envelope_round_trip (sha256 : Sha256) (schema : CanonicalSchema) :
    (∀ values envelope, encodeRow sha256 schema values = .ok envelope →
      ∃ decoded, decodeRow sha256 schema envelope = .ok decoded ∧
        Forall₃ RowForm schema.fields values decoded) ∧
    (∀ envelope decoded, decodeRow sha256 schema envelope = .ok decoded →
      encodeRow sha256 schema (decoded.map fun value => value.map DecodedValue.toInput)
        = .ok envelope) ∧
    (∀ envelope, (∃ decoded, decodeRow sha256 schema envelope = .ok decoded) ↔
      ∃ values, encodeRow sha256 schema values = .ok envelope) ∧
    (∀ values envelope, encodeKey sha256 schema values = .ok envelope →
      ∃ decoded, decodeKey sha256 schema envelope = .ok decoded ∧
        Forall₃ KeyForm schema.fields values decoded) ∧
    (∀ envelope decoded, decodeKey sha256 schema envelope = .ok decoded →
      encodeKey sha256 schema (decoded.map fun value => some value.toInput) = .ok envelope) ∧
    (∀ envelope, (∃ decoded, decodeKey sha256 schema envelope = .ok decoded) ↔
      ∃ values, encodeKey sha256 schema values = .ok envelope) := by
  refine ⟨fun _ _ => decodeRow_of_encode, fun _ _ => encodeRow_of_decode, fun envelope => ?_,
    fun _ _ => decodeKey_of_encode, fun _ _ => encodeKey_of_decode, fun envelope => ?_⟩
  · constructor
    · rintro ⟨decoded, hdecode⟩
      exact ⟨_, encodeRow_of_decode hdecode⟩
    · rintro ⟨values, hencode⟩
      obtain ⟨decoded, hdecode, -⟩ := decodeRow_of_encode hencode
      exact ⟨decoded, hdecode⟩
  · constructor
    · rintro ⟨decoded, hdecode⟩
      exact ⟨_, encodeKey_of_decode hdecode⟩
    · rintro ⟨values, hencode⟩
      obtain ⟨decoded, hdecode, -⟩ := decodeKey_of_encode hencode
      exact ⟨decoded, hdecode⟩

theorem amount_round_trip :
    ∃ decoded, decodeRow zeroDigest amountSchema amountEnvelope = .ok decoded ∧
      Forall₃ RowForm [amountField] [some (.integer 5)] decoded :=
  (envelope_round_trip zeroDigest amountSchema).1 _ _ encode_amount

/-! ## Envelopes and logical rows -/

/-- Two inputs denote one logical value, or both are NULL. -/
def SameValue (field : FieldSchema) : Option CanonicalInput → Option CanonicalInput → Prop
  | none, none => True
  | some value, some other =>
    ∃ logical, denotes field value = some logical ∧ denotes field other = some logical
  | _, _ => False

/-- Two rows are equal as logical values, field by field. -/
def SameRow (schema : CanonicalSchema) (values others : List (Option CanonicalInput)) : Prop :=
  Forall₃ SameValue schema.fields values others

/-- Inputs with one payload denote one value. -/
theorem sameValue_of_entry {field : FieldSchema} {value other : Option CanonicalInput}
    {payload : Option Bytes} (hvalue : RowEntry field value payload)
    (hother : RowEntry field other payload) : SameValue field value other := by
  cases payload with
  | none =>
    cases value with
    | none =>
      cases other with
      | none => trivial
      | some other => exact hother.elim
    | some value => exact hvalue.elim
  | some payload =>
    cases value with
    | none => exact hvalue.elim
    | some value =>
      cases other with
      | none => exact hother.elim
      | some other =>
        obtain ⟨logical, hdenotes, hrenders⟩ := encodePayload_eq_ok.mp hvalue
        obtain ⟨same, hsame, hrendersSame⟩ := encodePayload_eq_ok.mp hother
        rw [← hrenders.injective hrendersSame] at hsame
        exact ⟨logical, hdenotes, hsame⟩

/-- Inputs that denote one value have the same payload. -/
theorem rowEntry_of_sameValue {field : FieldSchema} {value other : Option CanonicalInput}
    {payload : Option Bytes} (h : SameValue field value other)
    (hvalue : RowEntry field value payload) : RowEntry field other payload := by
  cases value with
  | none =>
    cases other with
    | none => exact hvalue
    | some other => exact h.elim
  | some value =>
    cases other with
    | none => exact h.elim
    | some other =>
      cases payload with
      | none => exact hvalue.elim
      | some payload =>
        obtain ⟨logical, hdenotes, hsame⟩ := h
        obtain ⟨same, heq, hrenders⟩ := encodePayload_eq_ok.mp hvalue
        rw [hdenotes, Option.some.injEq] at heq
        subst heq
        exact encodePayload_eq_ok.mpr ⟨logical, hsame, hrenders⟩

theorem encodeRow_of_sameRow {schema : CanonicalSchema}
    {values others : List (Option CanonicalInput)} {envelope : Bytes}
    (hsame : SameRow schema values others)
    (h : encodeRow sha256 schema values = .ok envelope) :
    encodeRow sha256 schema others = .ok envelope := by
  rw [encodeRow_eq_ok] at h ⊢
  obtain ⟨parsed, hframed, henvelope⟩ := h
  refine ⟨parsed, ?_, henvelope⟩
  unfold Framed at hframed ⊢
  exact Forall₃.swap_join hsame hframed fun _ _ _ _ hvalue hentry =>
    ⟨rowEntry_of_sameValue hvalue hentry.1, hentry.2⟩

/-- The digests of the metadata of two schemas do not collide. -/
def NoCollision (sha256 : Sha256) (schema other : CanonicalSchema) : Prop :=
  schemaDigest sha256 schema = schemaDigest sha256 other →
    canonicalSchemaJson schema = canonicalSchemaJson other

theorem isAscii_rowEnvelope (schema : CanonicalSchema) (parsed : List (Option Bytes)) :
    IsAscii (rowHeader sha256 schema ++ framesText schema.fields parsed) :=
  (isPrefix_row.2.append (isAscii_headerSuffix schema)).append (isAscii_framesText _ _)

theorem isAscii_keyEnvelope (schema : CanonicalSchema) (parsed : List (Option Bytes)) :
    IsAscii (keyHeader sha256 schema ++ framesText schema.fields parsed) :=
  (isPrefix_key.2.append (isAscii_headerSuffix schema)).append (isAscii_framesText _ _)

/-- Envelopes with different headers differ. -/
theorem rowHeader_of_envelope {schema other : CanonicalSchema} {p q : List (Option Bytes)}
    (h : asciiBytes (rowHeader sha256 schema ++ framesText schema.fields p)
      = asciiBytes (rowHeader sha256 other ++ framesText other.fields q)) :
    schemaDigest sha256 schema = schemaDigest sha256 other ∧
      framesText schema.fields p = framesText other.fields q := by
  have htext := asciiBytes_inj (isAscii_rowEnvelope schema p) (isAscii_rowEnvelope other q) h
  obtain ⟨-, hdigest, -, hrest⟩ :=
    @header_fields sha256 schema _ isPrefix_row (framesText schema.fields p)
  obtain ⟨-, hdigestOther, -, hrestOther⟩ :=
    @header_fields sha256 other _ isPrefix_row (framesText other.fields q)
  rw [← rowHeader] at hdigest hrest hdigestOther hrestOther
  rw [htext] at hdigest hrest
  exact ⟨hexText_injective (hdigest.symm.trans hdigestOther), hrest.symm.trans hrestOther⟩

/-- Equal envelopes are of equal schemas and of equal logical rows. -/
theorem sameRow_of_envelope {schema other : CanonicalSchema}
    {values others : List (Option CanonicalInput)} {envelope : Bytes}
    (hcollision : NoCollision sha256 schema other)
    (hvalues : encodeRow sha256 schema values = .ok envelope)
    (hothers : encodeRow sha256 other others = .ok envelope) :
    schema = other ∧ SameRow schema values others := by
  rw [encodeRow_eq_ok] at hvalues hothers
  obtain ⟨parsed, hparsed, rfl⟩ := hvalues
  obtain ⟨parsedOther, hparsedOther, henvelope⟩ := hothers
  obtain ⟨hdigest, hframes⟩ := rowHeader_of_envelope henvelope
  obtain rfl := canonicalSchemaJson_injective (hcollision hdigest)
  obtain rfl := framesText_injective hparsed.fits hparsedOther.fits hframes
  refine ⟨rfl, ?_⟩
  exact Forall₃.join hparsed hparsedOther fun _ _ _ _ hvalue hother =>
    sameValue_of_entry hvalue.1 hother.1

theorem rowEnvelope_ne_keyEnvelope {schema other : CanonicalSchema}
    {values others : List (Option CanonicalInput)} {rowEnvelope keyEnvelope : Bytes}
    (hrow : encodeRow sha256 schema values = .ok rowEnvelope)
    (hkey : encodeKey sha256 other others = .ok keyEnvelope) : rowEnvelope ≠ keyEnvelope := by
  rw [encodeRow_eq_ok] at hrow
  rw [encodeKey_eq_ok] at hkey
  obtain ⟨parsed, -, rfl⟩ := hrow
  obtain ⟨parsedOther, -, rfl⟩ := hkey
  intro henvelope
  have htext := asciiBytes_inj (isAscii_rowEnvelope schema parsed)
    (isAscii_keyEnvelope other parsedOther) henvelope
  have hfirst := congrArg (fun text : List Char => text.take 5) htext
  simp [rowHeader, keyHeader] at hfirst

/-- Without a collision of the digests of their metadata, two schemas and rows
have one envelope exactly when the schemas are equal and the rows are equal as
logical values, whatever their values are spelled as; and no envelope is both a
row's and a key's. -/
theorem envelope_identity (sha256 : Sha256) (schema other : CanonicalSchema)
    (values others : List (Option CanonicalInput)) (envelope : Bytes)
    (hcollision : NoCollision sha256 schema other)
    (hvalues : encodeRow sha256 schema values = .ok envelope) :
    (encodeRow sha256 other others = .ok envelope ↔
      schema = other ∧ SameRow schema values others) ∧
    (∀ keySchema keyValues keyEnvelope,
      encodeKey sha256 keySchema keyValues = .ok keyEnvelope → envelope ≠ keyEnvelope) := by
  refine ⟨⟨fun hothers => ?_, fun h => ?_⟩, fun _ _ _ hkey => rowEnvelope_ne_keyEnvelope hvalues hkey⟩
  · obtain ⟨rfl, hsame⟩ := sameRow_of_envelope hcollision hvalues hothers
    exact ⟨rfl, hsame⟩
  · obtain ⟨rfl, hsame⟩ := h
    exact encodeRow_of_sameRow hsame hvalues

/-- The integer and the text are one amount. -/
theorem amount_identity :
    SameRow amountSchema [some (.integer 5)] [some (.text (codePoints ['5', '.', '0']))] :=
  ((envelope_identity zeroDigest amountSchema amountSchema [some (.integer 5)]
    [some (.text (codePoints ['5', '.', '0']))] amountEnvelope (fun _ => rfl) encode_amount).1.mp
      rfl).2

end ForensicData.Canonical
