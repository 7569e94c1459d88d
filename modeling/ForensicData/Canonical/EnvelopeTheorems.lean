/-
ForensicData.Canonical.EnvelopeTheorems — envelopes of rows and keys.

A frame is a prefix of the text it stands in, and tells its own length, so the
frames of a row can be read back one after the other (`parseFrames_eq_ok`). An
envelope is then the header of the schema with the frames of the row
(`encodeRow_eq_ok`, `decodeRow_eq_ok`), and the results on payloads carry over
to rows and keys, field by field.
-/
import ForensicData.Canonical.FieldTheorems
import ForensicData.Lib.Forall3

namespace ForensicData.Canonical

open ForensicData.Lib

/-! ## One frame -/

/-- The frame of a payload, or of NULL. -/
def frameText (field : FieldSchema) : Option Bytes → List Char
  | none => nullFrame field
  | some payload =>
    typeTag field.logicalType ++ '1' :: (fixedDigits 16 16 payload.length ++ hexText payload)

/-- The length of a payload has sixteen digits. -/
def FrameFits : Option Bytes → Prop
  | none => True
  | some payload => payload.length ≤ uint64Max

theorem exists_typeTag (logicalType : LogicalType) : ∃ a b, typeTag logicalType = [a, b] := by
  cases logicalType <;> exact ⟨_, _, rfl⟩

theorem uint64Max_lt {n : ℕ} : n ≤ uint64Max ↔ n < 16 ^ 16 := by
  rw [uint64Max]
  omega

theorem presentFrame_eq_ok {field : FieldSchema} {payload : Bytes} {frame : List Char} :
    presentFrame field payload = .ok frame ↔
      FrameFits (some payload) ∧ frame = frameText field (some payload) := by
  unfold presentFrame FrameFits
  split
  · rename_i hlong
    simp only [reduceCtorEq, false_iff, not_and]
    omega
  · rename_i hshort
    rw [Except.ok.injEq, frameText]
    constructor
    · rintro rfl
      exact ⟨by omega, rfl⟩
    · rintro ⟨-, rfl⟩
      rfl

/-- A text with a whole field header, cut at the places the parser looks at. -/
theorem frame_parts {text : List Char} (h : fieldHeaderLength ≤ text.length) :
    text = text.take 2 ++ text.getD 2 ' ' :: ((text.drop 3).take 16 ++ text.drop 19) := by
  unfold fieldHeaderLength at h
  match text, h with
  | a :: b :: c :: rest, _ =>
    simp only [List.take_succ_cons, List.take_zero, List.getD_cons_succ, List.getD_cons_zero,
      List.drop_succ_cons, List.drop_zero, List.cons_append, List.nil_append]
    rw [List.take_append_drop]

/-- A frame whose payload has the length its header declares. -/
theorem parseFrame_text {index : ℕ} {field : FieldSchema} {presence : Char} {payload : Bytes}
    {rest : List Char} {parsed : Option Bytes} (hfits : payload.length ≤ uint64Max)
    (hparsed : presence = '0' ∧ payload = [] ∧ parsed = none ∨
      presence = '1' ∧ parsed = some payload) :
    parseFrame index field (typeTag field.logicalType ++
        presence :: (fixedDigits 16 16 payload.length ++ (hexText payload ++ rest)))
      = .ok (parsed, rest) := by
  obtain ⟨a, b, htag⟩ := exists_typeTag field.logicalType
  have htake : (fixedDigits 16 16 payload.length ++ (hexText payload ++ rest)).take 16
      = fixedDigits 16 16 payload.length := List.take_left' (length_fixedDigits ..)
  have hdrop : (fixedDigits 16 16 payload.length ++ (hexText payload ++ rest)).drop 16
      = hexText payload ++ rest := List.drop_left' (length_fixedDigits ..)
  have hvalue : digitsValue 16 (fixedDigits 16 16 payload.length) = payload.length :=
    digitsValue_fixedDigits (by omega) (by omega) (uint64Max_lt.mp hfits)
  have hdigits : (fixedDigits 16 16 payload.length).all (isDigitOf 16) = true :=
    List.all_eq_true.mpr fun c hc => isDigitOf_of_mem_fixedDigits (by omega) (by omega) hc
  have hlength : (hexText payload).length = payload.length * 2 := by
    rw [length_hexText, Nat.mul_comm]
  have hbody : (hexText payload ++ rest).take (payload.length * 2) = hexText payload :=
    List.take_left' hlength
  have hrest : (hexText payload ++ rest).drop (payload.length * 2) = rest :=
    List.drop_left' hlength
  have hpayload : (hexText payload).all (isDigitOf 16) = true :=
    List.all_eq_true.mpr fun c hc => isDigitOf_of_mem_hexText hc
  have hpresence : ¬ (presence ≠ '0' ∧ presence ≠ '1') := by
    rcases hparsed with ⟨rfl, -⟩ | ⟨rfl, -⟩ <;> simp
  have hlong : ¬ (hexText payload ++ rest).length < payload.length * 2 := by
    rw [List.length_append, hlength]
    omega
  rw [htag]
  simp only [List.cons_append, List.nil_append]
  unfold parseFrame fieldHeaderLength
  simp only [List.length_cons, List.take_succ_cons, List.take_zero, List.drop_succ_cons,
    List.drop_zero, List.getD_cons_succ, List.getD_cons_zero]
  rw [htake, hdrop, hvalue, hbody, hrest]
  simp only [bind_unit_eq_ok, refuseIf_eq_ok]
  refine ⟨by simp, by simp [htag], hpresence, by simp [hdigits], hlong, by simp [hpayload], ?_⟩
  rcases hparsed with ⟨rfl, rfl, rfl⟩ | ⟨rfl, rfl⟩
  · simp
  · simp

theorem parseFrame_eq_ok {index : ℕ} {field : FieldSchema} {text rest : List Char}
    {parsed : Option Bytes} :
    parseFrame index field text = .ok (parsed, rest) ↔
      FrameFits parsed ∧ text = frameText field parsed ++ rest := by
  constructor
  · intro h
    unfold parseFrame at h
    simp only [bind_unit_eq_ok, refuseIf_eq_ok, not_not, Bool.not_eq_false, Nat.not_lt] at h
    obtain ⟨hheader, htag, hpresence, hdigits, hbody, hhex, hparsed⟩ := h
    have htext := frame_parts hheader
    have hwidth : ((text.drop 3).take 16).length = 16 := by
      rw [List.length_take, List.length_drop]
      unfold fieldHeaderLength at hheader
      omega
    rw [show fieldHeaderLength = 19 from rfl] at hbody hhex hparsed
    rw [htag] at htext
    generalize (text.drop 3).take 16 = lengthText at *
    generalize text.drop 19 = body at *
    generalize text.getD 2 ' ' = presence at *
    have hlower : ∀ c ∈ lengthText, isDigitOf 16 c = true := List.all_eq_true.mp hdigits
    have hlt := digitsValue_lt hlower
    have hfixed := fixedDigits_digitsValue (Nat.le_refl 16) hlower
    rw [hwidth] at hlt hfixed
    generalize digitsValue 16 lengthText = count at *
    have heven : (body.take (count * 2)).length = count * 2 := List.length_take_of_le hbody
    have hpayload : hexText (hexBytes (body.take (count * 2))) = body.take (count * 2) :=
      hexText_hexBytes (List.all_eq_true.mp hhex) (by omega)
    have hcount : (hexBytes (body.take (count * 2))).length = count := by
      have hlength := length_hexText (hexBytes (body.take (count * 2)))
      rw [hpayload, heven] at hlength
      omega
    split at hparsed
    · rename_i hnull
      simp only [bind_unit_eq_ok, refuseIf_eq_ok, not_not, Except.ok.injEq, Prod.mk.injEq]
        at hparsed
      obtain ⟨rfl, rfl, rfl⟩ := hparsed
      refine ⟨trivial, ?_⟩
      rw [htext, hnull, ← hfixed, frameText, nullFrame, List.append_assoc]
      rfl
    · rename_i hnull
      simp only [Except.ok.injEq, Prod.mk.injEq] at hparsed
      obtain ⟨rfl, rfl⟩ := hparsed
      have hpresent : presence = '1' := by
        by_contra hother
        exact hpresence ⟨hnull, hother⟩
      refine ⟨?_, ?_⟩
      · change (hexBytes (body.take (count * 2))).length ≤ uint64Max
        rw [hcount, uint64Max_lt]
        exact hlt
      · rw [htext, frameText, hcount, hpayload, hfixed, hpresent, List.append_assoc,
          List.cons_append, List.append_assoc, List.take_append_drop]
  · rintro ⟨hfits, rfl⟩
    cases parsed with
    | none =>
      have hzeros : List.replicate 16 '0' = fixedDigits 16 16 0 := by decide
      rw [frameText, nullFrame, hzeros, List.append_assoc]
      exact @parseFrame_text index field '0' [] rest none (Nat.zero_le _) (.inl ⟨rfl, rfl, rfl⟩)
    | some payload =>
      rw [frameText, List.append_assoc, List.cons_append, List.append_assoc]
      exact parseFrame_text hfits (.inr ⟨rfl, rfl⟩)

theorem isAscii_typeTag (logicalType : LogicalType) : IsAscii (typeTag logicalType) := by
  cases logicalType <;> exact isAscii_of_all (by decide)

theorem isAscii_frameText (field : FieldSchema) (parsed : Option Bytes) :
    IsAscii (frameText field parsed) := by
  have htag := isAscii_typeTag field.logicalType
  cases parsed with
  | none =>
    have hzeros : IsAscii ('0' :: List.replicate 16 '0') :=
      isAscii_of_all (by decide)
    exact htag.append hzeros
  | some payload =>
    have hdigits : IsAscii (fixedDigits 16 16 payload.length) :=
      isAscii_of_digits fun _ hc => isDigitOf_of_mem_fixedDigits (by omega) (by omega) hc
    have hhex : IsAscii (hexText payload) :=
      isAscii_of_digits fun _ hc => isDigitOf_of_mem_hexText hc
    exact htag.append ((hdigits.append hhex).cons (by decide))

/-! ## The frames of a row -/

/-- The frames of the payloads under their fields. -/
def framesText : List FieldSchema → List (Option Bytes) → List Char
  | field :: fields, parsed :: rest => frameText field parsed ++ framesText fields rest
  | _, _ => []

theorem isAscii_framesText (fields : List FieldSchema) (parsed : List (Option Bytes)) :
    IsAscii (framesText fields parsed) := by
  induction fields generalizing parsed with
  | nil => exact isAscii_nil
  | cons field fields ih =>
    cases parsed with
    | nil => exact isAscii_nil
    | cons first rest => exact (isAscii_frameText field first).append (ih rest)

/-- Frames are read back in order, and nothing may follow them. -/
theorem parseFrames_eq_ok {fields : List FieldSchema} {index : ℕ} {text : List Char}
    {parsed : List (Option Bytes)} :
    parseFrames index fields text = .ok parsed ↔
      List.Forall₂ (fun _ payload => FrameFits payload) fields parsed ∧
        text = framesText fields parsed := by
  induction fields generalizing index text parsed with
  | nil =>
    unfold parseFrames
    rw [List.forall₂_nil_left_iff]
    split
    · rename_i hempty
      rw [Except.ok.injEq]
      constructor
      · rintro rfl
        exact ⟨rfl, hempty⟩
      · rintro ⟨rfl, -⟩
        rfl
    · rename_i hmore
      simp only [reduceCtorEq, false_iff, not_and]
      intro _ hempty
      exact hmore hempty
  | cons field fields ih =>
    rw [parseFrames, bind_eq_ok, List.forall₂_cons_left_iff]
    constructor
    · rintro ⟨⟨first, rest⟩, hfirst, hrest⟩
      rw [parseFrame_eq_ok] at hfirst
      simp only [bind_eq_ok, Except.ok.injEq, ih] at hrest
      obtain ⟨others, ⟨hfits, rfl⟩, rfl⟩ := hrest
      exact ⟨⟨first, others, hfirst.1, hfits, rfl⟩, hfirst.2⟩
    · rintro ⟨⟨first, others, hfirst, hfits, rfl⟩, rfl⟩
      refine ⟨(first, framesText fields others), parseFrame_eq_ok.mpr ⟨hfirst, rfl⟩, ?_⟩
      simp only [bind_eq_ok, Except.ok.injEq, ih]
      exact ⟨others, ⟨hfits, rfl⟩, rfl⟩

/-- Payloads are told apart by their frames. -/
theorem framesText_injective {fields : List FieldSchema} {p q : List (Option Bytes)}
    (hp : List.Forall₂ (fun _ payload => FrameFits payload) fields p)
    (hq : List.Forall₂ (fun _ payload => FrameFits payload) fields q)
    (h : framesText fields p = framesText fields q) : p = q := by
  have hparse := @parseFrames_eq_ok fields 0 _ _ |>.mpr ⟨hp, rfl⟩
  rw [h, parseFrames_eq_ok.mpr ⟨hq, rfl⟩, Except.ok.injEq] at hparse
  exact hparse.symm

/-- The frame of a value is the frame of a payload it may have. -/
def FramesOf (frame : FieldSchema → Option CanonicalInput → Except Refusal (List Char))
    (entry : FieldSchema → Option CanonicalInput → Option Bytes → Prop) : Prop :=
  ∀ field value text, frame field value = .ok text ↔
    ∃ parsed, (entry field value parsed ∧ FrameFits parsed) ∧ text = frameText field parsed

theorem encodeFrames_eq_ok
    {frame : FieldSchema → Option CanonicalInput → Except Refusal (List Char)}
    {entry : FieldSchema → Option CanonicalInput → Option Bytes → Prop}
    (hframe : FramesOf frame entry) {fields : List FieldSchema}
    {values : List (Option CanonicalInput)} (hlength : values.length = fields.length)
    {text : List Char} :
    encodeFrames frame fields values = .ok text ↔
      ∃ parsed, Forall₃ (fun field value payload => entry field value payload ∧ FrameFits payload)
        fields values parsed ∧ text = framesText fields parsed := by
  induction fields generalizing values text with
  | nil =>
    rw [List.length_nil, List.length_eq_zero_iff] at hlength
    subst hlength
    simp only [encodeFrames, Except.ok.injEq, Forall₃.nil_iff, exists_eq_left, framesText]
    exact eq_comm
  | cons field fields ih =>
    cases values with
    | nil => simp at hlength
    | cons value values =>
      have hlength : values.length = fields.length := by simpa using hlength
      simp only [encodeFrames, bind_eq_ok, hframe field value, ih hlength, Except.ok.injEq,
        Forall₃.cons_iff]
      constructor
      · rintro ⟨first, ⟨payload, hentry, rfl⟩, rest, ⟨others, hothers, rfl⟩, rfl⟩
        exact ⟨_, ⟨payload, others, hentry, hothers, rfl⟩, rfl⟩
      · rintro ⟨parsed, ⟨payload, others, hentry, hothers, rfl⟩, rfl⟩
        exact ⟨_, ⟨payload, hentry, rfl⟩, _, ⟨others, hothers, rfl⟩, rfl⟩

theorem decodeFrames_eq_ok {Value : Type}
    {value : FieldSchema → Option Bytes → Except Refusal Value} {fields : List FieldSchema}
    {parsed : List (Option Bytes)} (hlength : parsed.length = fields.length)
    {decoded : List Value} :
    decodeFrames value fields parsed = .ok decoded ↔
      Forall₃ (fun field payload item => value field payload = .ok item) fields parsed decoded := by
  induction fields generalizing parsed decoded with
  | nil =>
    rw [List.length_nil, List.length_eq_zero_iff] at hlength
    subst hlength
    rw [decodeFrames, Except.ok.injEq, Forall₃.nil_iff]
    exact eq_comm
    all_goals simp
  | cons field fields ih =>
    cases parsed with
    | nil => simp at hlength
    | cons payload parsed =>
      have hlength : parsed.length = fields.length := by simpa using hlength
      simp only [decodeFrames, bind_eq_ok, ih hlength, Except.ok.injEq, Forall₃.cons_iff]
      constructor
      · rintro ⟨item, hitem, others, hothers, rfl⟩
        exact ⟨item, others, hitem, hothers, rfl⟩
      · rintro ⟨item, others, hitem, hothers, rfl⟩
        exact ⟨item, hitem, others, hothers, rfl⟩

/-! ## Envelopes -/

variable {sha256 : Sha256}

/-- The five characters an envelope starts with. -/
def IsPrefix (text : List Char) : Prop := text.length = 5 ∧ IsAscii text

theorem isAscii_headerSuffix (schema : CanonicalSchema) : IsAscii (headerSuffix sha256 schema) := by
  refine IsAscii.append (isAscii_of_digits fun _ hc => isDigitOf_of_mem_hexText hc) ?_
  exact isAscii_of_digits fun _ hc => isDigitOf_of_mem_fixedDigits (by omega) (by omega) hc

/-- A text cut at the ends of the prefix, the digest and the field count. -/
theorem header_parts (text : List Char) :
    text = text.take 5 ++ ((text.drop 5).take 64 ++ ((text.drop 69).take 8 ++ text.drop 77)) := by
  have hcount : (text.drop 69).take 8 ++ text.drop 77 = text.drop 69 := by
    rw [show text.drop 77 = (text.drop 69).drop 8 by rw [List.drop_drop], List.take_append_drop]
  have hdigest : (text.drop 5).take 64 ++ text.drop 69 = text.drop 5 := by
    rw [show text.drop 69 = (text.drop 5).drop 64 by rw [List.drop_drop], List.take_append_drop]
  rw [hcount, hdigest, List.take_append_drop]

/-- What the parser reads of a header and of the text after it. -/
theorem header_fields (schema : CanonicalSchema) {start : List Char} (hstart : IsPrefix start)
    (rest : List Char) :
    let text := start ++ headerSuffix sha256 schema ++ rest
    text.take 5 = start ∧ (text.drop 5).take 64 = schemaDigestHex sha256 schema ∧
      (text.drop 69).take 8 = fixedDigits 16 8 schema.fields.length ∧ text.drop 77 = rest := by
  have hdigest : (schemaDigestHex sha256 schema).length = 64 := by
    simp [schemaDigestHex, schemaDigest, sha256.length_digest]
  have hdrop : ∀ n, (start ++ headerSuffix sha256 schema ++ rest).drop (5 + n)
      = (headerSuffix sha256 schema ++ rest).drop n := by
    intro n
    rw [List.append_assoc, ← List.drop_drop, List.drop_left' hstart.1]
  have hcount : ∀ n, (headerSuffix sha256 schema ++ rest).drop (64 + n)
      = (fixedDigits 16 8 schema.fields.length ++ rest).drop n := by
    intro n
    rw [headerSuffix, List.append_assoc, ← List.drop_drop, List.drop_left' hdigest]
  refine ⟨?_, ?_, ?_, ?_⟩
  · rw [List.append_assoc, List.take_left' hstart.1]
  · rw [hdrop 0, List.drop_zero, headerSuffix, List.append_assoc, List.take_left' hdigest]
  · rw [show 69 = 5 + (64 + 0) from rfl, hdrop, hcount, List.drop_zero,
      List.take_left' (length_fixedDigits ..)]
  · rw [show 77 = 5 + (64 + 8) from rfl, hdrop, hcount, List.drop_left' (length_fixedDigits ..)]

/-- An envelope is the header with the frames. -/
theorem parseEnvelope_eq_ok {schema : CanonicalSchema} {envelope : Bytes} {start : List Char}
    {parsed : List (Option Bytes)} (hstart : IsPrefix start) :
    parseEnvelope schema envelope (start ++ headerSuffix sha256 schema) = .ok parsed ↔
      List.Forall₂ (fun _ payload => FrameFits payload) schema.fields parsed ∧
        envelope = asciiBytes (start ++ headerSuffix sha256 schema ++
          framesText schema.fields parsed) := by
  obtain ⟨hbegins, hdigest, hcount, -⟩ := @header_fields sha256 schema start hstart []
  rw [List.append_nil] at hbegins hdigest hcount
  have hlower : ∀ c ∈ fixedDigits 16 8 schema.fields.length, isDigitOf 16 c = true :=
    fun c hc => isDigitOf_of_mem_fixedDigits (by omega) (by omega) hc
  unfold parseEnvelope
  rw [hbegins, hdigest, hcount]
  constructor
  · intro h
    split at h
    · simp at h
    · rename_i text htext
      rw [asciiText_eq_some] at htext
      obtain ⟨-, rfl⟩ := htext
      simp only [bind_unit_eq_ok, refuseIf_eq_ok, not_not, Bool.not_eq_false, Nat.not_lt] at h
      obtain ⟨hlength, hstartText, -, hdigestText, hcountDigits, hcountValue, hframes⟩ := h
      rw [parseFrames_eq_ok] at hframes
      obtain ⟨hfits, hframes⟩ := hframes
      have hcountText : (text.drop 69).take 8 = fixedDigits 16 8 schema.fields.length := by
        have hwidth : ((text.drop 69).take 8).length = 8 := by
          rw [List.length_take, List.length_drop]
          unfold envelopeHeaderLength at hlength
          omega
        have hread := fixedDigits_digitsValue (Nat.le_refl 16) (List.all_eq_true.mp hcountDigits)
        have hwrite := fixedDigits_digitsValue (Nat.le_refl 16) hlower
        rw [length_fixedDigits] at hwrite
        rw [← hread, hwidth, hcountValue, hwrite]
      refine ⟨hfits, ?_⟩
      have hparts := header_parts text
      rw [hstartText, hdigestText, hcountText,
        show text.drop 77 = text.drop envelopeHeaderLength from rfl, hframes] at hparts
      rw [hparts, headerSuffix]
      simp only [List.append_assoc]
  · rintro ⟨hfits, rfl⟩
    have hascii : IsAscii (start ++ headerSuffix sha256 schema ++ framesText schema.fields parsed) :=
      (hstart.2.append (isAscii_headerSuffix schema)).append (isAscii_framesText _ _)
    obtain ⟨htake, hdigestText, hcountText, hrest⟩ :=
      @header_fields sha256 schema start hstart (framesText schema.fields parsed)
    have hdigits : (schemaDigestHex sha256 schema).all (isDigitOf 16) = true :=
      List.all_eq_true.mpr fun c hc => isDigitOf_of_mem_hexText hc
    rw [asciiText_asciiBytes hascii]
    simp only [bind_unit_eq_ok, refuseIf_eq_ok, htake, hdigestText, hcountText]
    refine ⟨?_, by simp, by simp [hdigits], by simp, ?_, by simp, ?_⟩
    · rw [List.length_append, List.length_append, hstart.1, length_headerSuffix]
      unfold envelopeHeaderLength
      omega
    · simpa using hlower
    · rw [show envelopeHeaderLength = 77 from rfl, hrest]
      exact parseFrames_eq_ok.mpr ⟨hfits, rfl⟩

/-! ## Rows and keys -/

theorem isPrefix_row : IsPrefix ['D', 'F', 'E', '1', 'R'] :=
  ⟨rfl, isAscii_of_all (by decide)⟩

theorem isPrefix_key : IsPrefix ['D', 'F', 'E', '1', 'K'] :=
  ⟨rfl, isAscii_of_all (by decide)⟩

/-- The payload of a value of a row. -/
def RowEntry (field : FieldSchema) : Option CanonicalInput → Option Bytes → Prop
  | none, none => field.nullable = true
  | some value, some payload => encodePayload field value = .ok payload
  | _, _ => False

/-- The payload of a value of a key. -/
def KeyEntry (field : FieldSchema) : Option CanonicalInput → Option Bytes → Prop
  | some value, some payload => encodePayload field value = .ok payload
  | _, _ => False

/-- The frame of a value that is given. -/
theorem presentValue_eq_ok {field : FieldSchema} {value : CanonicalInput} {text : List Char} :
    (do let payload ← encodePayload field value
        presentFrame field payload) = .ok text ↔
      ∃ payload, encodePayload field value = .ok payload ∧ FrameFits (some payload) ∧
        text = frameText field (some payload) := by
  rw [bind_eq_ok]
  refine exists_congr fun payload => and_congr_right fun _ => ?_
  rw [presentFrame_eq_ok]

theorem rowFrame_framesOf : FramesOf rowFrame RowEntry := by
  intro field value text
  cases value with
  | none =>
    rw [rowFrame]
    constructor
    · intro h
      split at h
      · rename_i hnullable
        rw [Except.ok.injEq] at h
        exact ⟨none, ⟨hnullable, trivial⟩, h.symm⟩
      · cases h
    · rintro ⟨parsed, ⟨hentry, -⟩, rfl⟩
      cases parsed with
      | none =>
        have hnullable : field.nullable = true := hentry
        rw [if_pos hnullable]
        rfl
      | some payload => exact hentry.elim
  | some value =>
    refine presentValue_eq_ok.trans ⟨?_, ?_⟩
    · rintro ⟨payload, hencode, hfits, htext⟩
      exact ⟨some payload, ⟨hencode, hfits⟩, htext⟩
    · rintro ⟨parsed, ⟨hentry, hfits⟩, htext⟩
      cases parsed with
      | none => exact hentry.elim
      | some payload => exact ⟨payload, hentry, hfits, htext⟩

theorem keyFrame_framesOf : FramesOf keyFrame KeyEntry := by
  intro field value text
  cases value with
  | none =>
    rw [keyFrame]
    constructor
    · intro h
      cases h
    · rintro ⟨parsed, ⟨hentry, -⟩, -⟩
      cases parsed <;> exact hentry.elim
  | some value =>
    refine presentValue_eq_ok.trans ⟨?_, ?_⟩
    · rintro ⟨payload, hencode, hfits, htext⟩
      exact ⟨some payload, ⟨hencode, hfits⟩, htext⟩
    · rintro ⟨parsed, ⟨hentry, hfits⟩, htext⟩
      cases parsed with
      | none => exact hentry.elim
      | some payload => exact ⟨payload, hentry, hfits, htext⟩

/-- The payloads of the values, each of a length that can be declared. -/
def Framed (entry : FieldSchema → Option CanonicalInput → Option Bytes → Prop)
    (schema : CanonicalSchema) (values : List (Option CanonicalInput))
    (parsed : List (Option Bytes)) : Prop :=
  Forall₃ (fun field value payload => entry field value payload ∧ FrameFits payload)
    schema.fields values parsed

theorem Framed.fits {entry : FieldSchema → Option CanonicalInput → Option Bytes → Prop}
    {schema : CanonicalSchema} {values : List (Option CanonicalInput)}
    {parsed : List (Option Bytes)} (h : Framed entry schema values parsed) :
    List.Forall₂ (fun _ payload => FrameFits payload) schema.fields parsed := by
  exact h.forall₂_right fun _ _ _ hitem => hitem.2

/-- Encoding under a header: a row's or a key's. -/
theorem encodeEnvelope_eq_ok
    {frame : FieldSchema → Option CanonicalInput → Except Refusal (List Char)}
    {entry : FieldSchema → Option CanonicalInput → Option Bytes → Prop}
    (hframe : FramesOf frame entry) {schema : CanonicalSchema}
    {values : List (Option CanonicalInput)} {header : List Char} {envelope : Bytes} :
    (do requireValues schema values
        let frames ← encodeFrames frame schema.fields values
        .ok (asciiBytes (header ++ frames))) = .ok envelope ↔
      ∃ parsed, Framed entry schema values parsed ∧
        envelope = asciiBytes (header ++ framesText schema.fields parsed) := by
  unfold requireValues Framed
  rw [bind_unit_eq_ok, refuseIf_eq_ok, not_not, bind_eq_ok]
  constructor
  · rintro ⟨hlength, frames, hframes, henvelope⟩
    rw [encodeFrames_eq_ok hframe hlength] at hframes
    obtain ⟨parsed, hparsed, rfl⟩ := hframes
    rw [Except.ok.injEq] at henvelope
    exact ⟨parsed, hparsed, henvelope.symm⟩
  · rintro ⟨parsed, hparsed, rfl⟩
    have hlength := hparsed.length_eq.1
    exact ⟨hlength, _, (encodeFrames_eq_ok hframe hlength).mpr ⟨parsed, hparsed, rfl⟩, rfl⟩

theorem encodeRow_eq_ok {schema : CanonicalSchema} {values : List (Option CanonicalInput)}
    {envelope : Bytes} :
    encodeRow sha256 schema values = .ok envelope ↔
      ∃ parsed, Framed RowEntry schema values parsed ∧
        envelope = asciiBytes (rowHeader sha256 schema ++ framesText schema.fields parsed) :=
  encodeEnvelope_eq_ok rowFrame_framesOf

theorem encodeKey_eq_ok {schema : CanonicalSchema} {values : List (Option CanonicalInput)}
    {envelope : Bytes} :
    encodeKey sha256 schema values = .ok envelope ↔
      ∃ parsed, Framed KeyEntry schema values parsed ∧
        envelope = asciiBytes (keyHeader sha256 schema ++ framesText schema.fields parsed) :=
  encodeEnvelope_eq_ok keyFrame_framesOf

/-- Decoding under a header: a row's or a key's. -/
theorem decodeEnvelope_eq_ok {Value : Type}
    {value : FieldSchema → Option Bytes → Except Refusal Value} {schema : CanonicalSchema}
    {start : List Char} (hstart : IsPrefix start) {envelope : Bytes} {decoded : List Value} :
    (do let parsedFields ← parseEnvelope schema envelope (start ++ headerSuffix sha256 schema)
        decodeFrames value schema.fields parsedFields) = .ok decoded ↔
      ∃ parsed, Forall₃ (fun field payload item => value field payload = .ok item ∧
          FrameFits payload) schema.fields parsed decoded ∧
        envelope = asciiBytes (start ++ headerSuffix sha256 schema ++
          framesText schema.fields parsed) := by
  rw [bind_eq_ok]
  refine exists_congr fun parsed => ?_
  rw [parseEnvelope_eq_ok hstart]
  constructor
  · rintro ⟨⟨hfits, henvelope⟩, hdecoded⟩
    rw [decodeFrames_eq_ok hfits.length_eq.symm] at hdecoded
    exact ⟨hdecoded.and_left hfits, henvelope⟩
  · rintro ⟨hdecoded, henvelope⟩
    have hfits : List.Forall₂ (fun _ payload => FrameFits payload) schema.fields parsed :=
      hdecoded.forall₂_left fun _ _ _ hitem => hitem.2
    refine ⟨⟨hfits, henvelope⟩, ?_⟩
    rw [decodeFrames_eq_ok hfits.length_eq.symm]
    exact hdecoded.imp fun _ _ _ h => h.1

theorem decodeRow_eq_ok {schema : CanonicalSchema} {envelope : Bytes}
    {decoded : List (Option DecodedValue)} :
    decodeRow sha256 schema envelope = .ok decoded ↔
      ∃ parsed, Forall₃ (fun field payload item => rowValue field payload = .ok item ∧
          FrameFits payload) schema.fields parsed decoded ∧
        envelope = asciiBytes (rowHeader sha256 schema ++ framesText schema.fields parsed) :=
  decodeEnvelope_eq_ok isPrefix_row

theorem decodeKey_eq_ok {schema : CanonicalSchema} {envelope : Bytes}
    {decoded : List DecodedValue} :
    decodeKey sha256 schema envelope = .ok decoded ↔
      ∃ parsed, Forall₃ (fun field payload item => keyValue field payload = .ok item ∧
          FrameFits payload) schema.fields parsed decoded ∧
        envelope = asciiBytes (keyHeader sha256 schema ++ framesText schema.fields parsed) :=
  decodeEnvelope_eq_ok isPrefix_key

end ForensicData.Canonical
