/-
ForensicData.Canonical.PayloadTheorems — payloads are the canonical texts.

For each logical type, encoding succeeds exactly on the inputs that denote a
value with a canonical payload, and returns that payload; decoding succeeds
exactly on these payloads. Together they say what `encodePayload` and
`decodePayload` compute (`encodePayload_eq_ok`, `decodePayload_eq_ok`), and a
payload tells its value (`Renders.injective`).
-/
import ForensicData.Canonical.Values

namespace ForensicData.Canonical

open ForensicData.Lib
open Json (renderInt)

/-! ## ASCII texts -/

/-- Every character is ASCII. -/
def IsAscii (text : List Char) : Prop := ∀ c ∈ text, c.toNat < 128

/-- A fixed text is checked by its characters. -/
theorem isAscii_of_all {text : List Char} (h : text.all (fun c => decide (c.toNat < 128)) = true) :
    IsAscii text :=
  fun c hc => of_decide_eq_true (List.all_eq_true.mp h c hc)

theorem IsAscii.append {a b : List Char} (ha : IsAscii a) (hb : IsAscii b) : IsAscii (a ++ b) := by
  intro c hc
  rcases List.mem_append.mp hc with hc | hc
  · exact ha c hc
  · exact hb c hc

theorem IsAscii.cons {c : Char} {text : List Char} (hc : c.toNat < 128) (h : IsAscii text) :
    IsAscii (c :: text) := by
  intro d hd
  rcases List.mem_cons.mp hd with rfl | hd
  · exact hc
  · exact h d hd

theorem isAscii_nil : IsAscii [] := by
  intro c hc
  simp at hc

theorem isAscii_of_digits {text : List Char} (h : ∀ c ∈ text, isDigitOf 16 c = true) :
    IsAscii text := by
  intro c hc
  have hdigit := h c hc
  rw [isDigitOf, decide_eq_true_eq] at hdigit
  unfold digitValue at hdigit
  split at hdigit
  · omega
  · split at hdigit <;> omega

theorem isDigitOf_sixteen {c : Char} (h : isDigitOf 10 c = true) : isDigitOf 16 c = true := by
  rw [isDigitOf, decide_eq_true_eq] at h ⊢
  omega

theorem isAscii_fixedDigits (width n : ℕ) : IsAscii (fixedDigits 10 width n) :=
  isAscii_of_digits fun _ hc =>
    isDigitOf_sixteen (isDigitOf_of_mem_fixedDigits (by omega) (by omega) hc)

theorem isAscii_toDigits (n : ℕ) : IsAscii (Nat.toDigits 10 n) :=
  isAscii_of_digits fun _ hc => isDigitOf_sixteen (isDigitOf_of_mem_toDigits hc)

theorem isAscii_renderInt (n : Int) : IsAscii (renderInt n) := by
  unfold renderInt
  split
  · exact (isAscii_toDigits _).cons (by decide)
  · exact isAscii_toDigits _

theorem isAscii_dateDigits (year month day : ℕ) : IsAscii (dateDigits year month day) :=
  (isAscii_fixedDigits _ _).append
    (((isAscii_fixedDigits _ _).append ((isAscii_fixedDigits _ _).cons (by decide))).cons
      (by decide))

theorem isAscii_clockDigits (hour minute second : ℕ) :
    IsAscii (clockDigits hour minute second) :=
  (isAscii_fixedDigits _ _).append
    (((isAscii_fixedDigits _ _).append ((isAscii_fixedDigits _ _).cons (by decide))).cons
      (by decide))

theorem isAscii_text (moment : Moment) (precision : ℕ) : IsAscii (moment.text precision) := by
  have hfraction : IsAscii (fractionText (moment.fraction precision)) := by
    have hdigits := isAscii_fixedDigits precision (moment.nanosecond / 10 ^ (9 - precision))
    unfold Moment.fraction
    cases hcs : fixedDigits 10 precision (moment.nanosecond / 10 ^ (9 - precision)) with
    | nil => exact isAscii_nil
    | cons c cs =>
      rw [hcs] at hdigits
      exact hdigits.cons (by decide)
  exact (isAscii_dateDigits _ _ _).append
    (((isAscii_clockDigits _ _ _).append hfraction).cons (by decide))

theorem ofNat_toNat_of_ascii {c : Char} (h : c.toNat < 128) :
    (UInt8.ofNat c.toNat).toNat = c.toNat := by
  rw [UInt8.toNat_ofNat', Nat.mod_eq_of_lt (by omega)]

theorem toNat_ofNat_of_ascii {byte : UInt8} (h : byte.toNat < 128) :
    (Char.ofNat byte.toNat).toNat = byte.toNat := by
  have hvalid : byte.toNat.isValidChar := by
    unfold Nat.isValidChar
    omega
  rw [Char.ofNat, dif_pos hvalid]
  rfl

/-- ASCII texts and the bytes below 128 are the same thing. -/
theorem asciiText_eq_some {payload : Bytes} {text : List Char} :
    asciiText payload = some text ↔ IsAscii text ∧ payload = asciiBytes text := by
  have hbytes : payload.all (· < 128) = true ↔ ∀ byte ∈ payload, byte.toNat < 128 := by
    rw [List.all_eq_true]
    refine forall₂_congr fun byte _ => ?_
    rw [decide_eq_true_eq, UInt8.lt_iff_toNat_lt]
    rfl
  unfold asciiText asciiBytes
  constructor
  · intro h
    split at h
    · rename_i hall
      rw [hbytes] at hall
      rw [Option.some.injEq] at h
      subst h
      refine ⟨fun c hc => ?_, ?_⟩
      · obtain ⟨byte, hmem, rfl⟩ := List.mem_map.mp hc
        rw [toNat_ofNat_of_ascii (hall byte hmem)]
        exact hall byte hmem
      · rw [List.map_map]
        conv_lhs => rw [← List.map_id payload]
        refine List.map_congr_left fun byte hmem => ?_
        rw [Function.comp_apply, toNat_ofNat_of_ascii (hall byte hmem), UInt8.ofNat_toNat]
        rfl
    · simp at h
  · rintro ⟨hascii, rfl⟩
    have hall : ∀ byte ∈ text.map fun c => UInt8.ofNat c.toNat, byte.toNat < 128 := by
      intro byte hbyte
      obtain ⟨c, hc, rfl⟩ := List.mem_map.mp hbyte
      rw [ofNat_toNat_of_ascii (hascii c hc)]
      exact hascii c hc
    rw [if_pos (hbytes.mpr hall), Option.some.injEq, List.map_map]
    conv_rhs => rw [← List.map_id text]
    refine List.map_congr_left fun c hc => ?_
    rw [Function.comp_apply, ofNat_toNat_of_ascii (hascii c hc), Char.ofNat_toNat]
    rfl

theorem asciiText_asciiBytes {text : List Char} (h : IsAscii text) :
    asciiText (asciiBytes text) = some text :=
  asciiText_eq_some.mpr ⟨h, rfl⟩

theorem asciiBytes_inj {a b : List Char} (ha : IsAscii a) (hb : IsAscii b)
    (h : asciiBytes a = asciiBytes b) : a = b := by
  have htext := asciiText_asciiBytes ha
  rw [h, asciiText_asciiBytes hb, Option.some.injEq] at htext
  exact htext.symm

theorem length_asciiBytes (text : List Char) : (asciiBytes text).length = text.length :=
  List.length_map _

theorem length_renderInt_le {n : Int} {k : ℕ} (hk : 0 < k) (h : n.natAbs < 10 ^ k) :
    (renderInt n).length ≤ k + 1 := by
  have hdigits := (Nat.length_toDigits_le_iff (show 1 < 10 by omega) hk).mpr h
  unfold renderInt
  split
  · rw [List.length_cons]
    omega
  · omega

theorem decodeAscii_eq_ok {payload : Bytes} {context : String} {text : List Char} :
    decodeAscii payload context = .ok text ↔ IsAscii text ∧ payload = asciiBytes text := by
  rw [← asciiText_eq_some]
  unfold decodeAscii
  split
  · rename_i found hfound
    rw [hfound, Option.some.injEq, Except.ok.injEq]
  · rename_i hnone
    rw [hnone]
    simp

/-! ## Integers -/

theorem encodeInt64_eq_ok {value : CanonicalInput} {payload : Bytes} :
    encodeInt64 value = .ok payload ↔
      ∃ n, value.asInteger = some n ∧ IsInt64 n ∧ payload = asciiBytes (renderInt n) := by
  unfold encodeInt64 CanonicalInput.asInteger
  split
  · rename_i n
    simp only [Option.some.injEq, exists_eq_left']
    split
    · rename_i hrange
      rw [Except.ok.injEq]
      exact ⟨fun h => ⟨hrange, h.symm⟩, fun h => h.2.symm⟩
    · rename_i hrange
      simp [hrange]
  · simp

theorem isNegativeText_renderInt (n : Int) : isNegativeText (renderInt n) = decide (n < 0) := by
  unfold isNegativeText renderInt
  split
  · rename_i hnegative
    simp [hnegative]
  · rename_i hnegative
    obtain ⟨c, cs, hdigits, hminus⟩ := toDigits_eq_cons n.natAbs
    rw [hdigits]
    simp [hnegative, hminus]

theorem decodeInt64_eq_ok {payload : Bytes} {decoded : DecodedValue} :
    decodeInt64 payload = .ok decoded ↔
      ∃ n, (IsInt64 n ∧ payload = asciiBytes (renderInt n)) ∧ decoded = .integer n := by
  unfold decodeInt64
  rw [bind_eq_ok]
  constructor
  · rintro ⟨text, htext, h⟩
    obtain ⟨-, rfl⟩ := decodeAscii_eq_ok.mp htext
    simp only [bind_unit_eq_ok, refuseIf_eq_ok, Bool.not_eq_false, Except.ok.injEq] at h
    obtain ⟨hcanonical, hlimit, rfl⟩ := h
    obtain ⟨n, rfl⟩ := isIntegerText_iff.mp hcanonical
    rw [absoluteDigits_renderInt, exceedsDigits_toDigits, isNegativeText_renderInt] at hlimit
    refine ⟨n, ⟨?_, rfl⟩, by rw [readInt_renderInt]⟩
    simp only [decide_eq_true_eq] at hlimit
    unfold IsInt64 int64Min int64Max at *
    split at hlimit <;> omega
  · rintro ⟨n, ⟨hrange, rfl⟩, rfl⟩
    refine ⟨renderInt n, decodeAscii_eq_ok.mpr ⟨isAscii_renderInt n, rfl⟩, ?_⟩
    simp only [bind_unit_eq_ok, refuseIf_eq_ok, Bool.not_eq_false, Except.ok.injEq]
    refine ⟨isIntegerText_renderInt n, ?_, by rw [readInt_renderInt]⟩
    rw [absoluteDigits_renderInt, exceedsDigits_toDigits, isNegativeText_renderInt]
    simp only [decide_eq_true_eq]
    unfold IsInt64 int64Min int64Max at *
    split <;> omega

/-! ## Booleans and strings -/

theorem encodeBoolean_eq_ok {value : CanonicalInput} {payload : Bytes} :
    encodeBoolean value = .ok payload ↔
      ∃ b, value.asBoolean = some b ∧ payload = asciiBytes (if b then ['1'] else ['0']) := by
  unfold encodeBoolean CanonicalInput.asBoolean
  split
  · simp only [Option.some.injEq, exists_eq_left', Except.ok.injEq]
    exact eq_comm
  · simp

theorem decodeBoolean_eq_ok {payload : Bytes} {decoded : DecodedValue} :
    decodeBoolean payload = .ok decoded ↔
      ∃ b, payload = asciiBytes (if b then ['1'] else ['0']) ∧ decoded = .boolean b := by
  have hne : asciiBytes ['0'] ≠ asciiBytes ['1'] := by decide
  unfold decodeBoolean
  split
  · rename_i hzero
    subst hzero
    rw [Except.ok.injEq]
    constructor
    · rintro rfl
      exact ⟨false, rfl, rfl⟩
    · rintro ⟨b, hb, rfl⟩
      cases b with
      | false => rfl
      | true => exact absurd hb hne
  · rename_i hzero
    split
    · rename_i hone
      subst hone
      rw [Except.ok.injEq]
      constructor
      · rintro rfl
        exact ⟨true, rfl, rfl⟩
      · rintro ⟨b, hb, rfl⟩
        cases b with
        | false => exact absurd hb.symm hne
        | true => rfl
    · rename_i hone
      rw [bind_eq_ok]
      constructor
      · rintro ⟨_, _, h⟩
        cases h
      · rintro ⟨b, hb, -⟩
        cases b with
        | false => exact absurd hb hzero
        | true => exact absurd hb hone

theorem validateStringScalars_eq_ok {text : PythonText} {index : ℕ} :
    validateStringScalars index text = .ok () ↔
      ∃ cs, text = codePoints cs ∧ Char.ofNat 0 ∉ cs := by
  induction text generalizing index with
  | nil =>
    simp only [validateStringScalars, true_iff]
    exact ⟨[], rfl, by simp⟩
  | cons point rest ih =>
    rw [validateStringScalars]
    have hcons : (∃ cs, point :: rest = codePoints cs ∧ Char.ofNat 0 ∉ cs) ↔
        ∃ c, point = codePoint c ∧ c ≠ Char.ofNat 0 ∧
          ∃ cs, rest = codePoints cs ∧ Char.ofNat 0 ∉ cs := by
      constructor
      · rintro ⟨cs, hcs, hzero⟩
        cases cs with
        | nil => simp [codePoints] at hcs
        | cons c cs =>
          rw [codePoints, List.map_cons, List.cons.injEq] at hcs
          rw [List.mem_cons, not_or] at hzero
          exact ⟨c, hcs.1, fun h => hzero.1 h.symm, cs, hcs.2, hzero.2⟩
      · rintro ⟨c, rfl, hc, cs, rfl, hzero⟩
        refine ⟨c :: cs, rfl, ?_⟩
        rw [List.mem_cons, not_or]
        exact ⟨fun h => hc h.symm, hzero⟩
    rw [hcons]
    split
    · rename_i hsurrogate
      simp only [reduceCtorEq, false_iff, not_exists, not_and]
      intro c hc
      have hnone : charOf point = none := by
        unfold charOf
        rw [if_pos hsurrogate]
      rw [charOf_eq_some.mpr hc] at hnone
      simp at hnone
    · rename_i hscalar
      obtain ⟨c, hc⟩ : ∃ c, charOf point = some c := by
        unfold charOf
        rw [if_neg hscalar]
        exact ⟨_, rfl⟩
      rw [charOf_eq_some] at hc
      subst hc
      have hzero : (codePoint c).val = 0 ↔ c = Char.ofNat 0 := by
        rw [← Char.toNat_inj]
        exact Iff.rfl
      split
      · rename_i hnull
        rw [hzero] at hnull
        simp only [reduceCtorEq, false_iff, not_exists, not_and]
        intro d hd hne
        have hsame : d = c := by
          have := congrArg Fin.val hd
          exact (Char.toNat_inj.mp this).symm
        rw [hsame] at hne
        exact absurd hnull hne
      · rename_i hnull
        rw [hzero] at hnull
        rw [ih]
        constructor
        · intro h
          exact ⟨c, rfl, hnull, h⟩
        · rintro ⟨_, _, _, h⟩
          exact h

theorem encodeString_eq_ok {value : CanonicalInput} {payload : Bytes} :
    encodeString value = .ok payload ↔
      ∃ points, value.asText = some points ∧
        ∃ text : String, points = codePoints text.toList ∧ Char.ofNat 0 ∉ text.toList ∧
          payload = utf8Encode text := by
  unfold encodeString CanonicalInput.asText
  split
  · rename_i points
    simp only [Option.some.injEq, exists_eq_left', bind_unit_eq_ok]
    rw [validateStringScalars_eq_ok]
    constructor
    · rintro ⟨⟨cs, rfl, hzero⟩, h⟩
      rw [scalars_eq_some.mpr rfl] at h
      simp only [Except.ok.injEq] at h
      exact ⟨String.ofList cs, by rw [String.toList_ofList], by rwa [String.toList_ofList],
        h.symm⟩
    · rintro ⟨text, rfl, hzero, rfl⟩
      refine ⟨⟨text.toList, rfl, hzero⟩, ?_⟩
      rw [scalars_eq_some.mpr rfl]
      simp only [String.ofList_toList]
  · simp

/-- The UTF-8 bytes of a text are those of its characters. -/
theorem utf8Encode_ofList (text : List Char) :
    utf8Encode (String.ofList text) = text.flatMap String.utf8EncodeChar := by
  show (text.flatMap String.utf8EncodeChar).toByteArray.data.toList = _
  rw [List.toList_data_toByteArray]

theorem zero_mem_utf8EncodeChar {c : Char} :
    0 ∈ String.utf8EncodeChar c ↔ c = Char.ofNat 0 := by
  constructor
  · intro h
    have hvalid : c.toNat < 0xD800 ∨ (0xDFFF < c.toNat ∧ c.toNat < 0x110000) := c.valid
    have hval : c.val.toNat = c.toNat := rfl
    unfold String.utf8EncodeChar at h
    simp only [hval] at h
    have hzero : c.toNat = 0 := by
      split at h
      · simp [← UInt8.toNat_inj, UInt8.toNat_ofNat'] at h
        omega
      -- every byte of a longer character has its first bit set
      split at h
      · simp [← UInt8.toNat_inj, UInt8.toNat_ofNat'] at h
        omega
      split at h
      · simp [← UInt8.toNat_inj, UInt8.toNat_ofNat'] at h
        omega
      · simp [← UInt8.toNat_inj, UInt8.toNat_ofNat'] at h
        omega
    rw [← Char.ofNat_toNat c, hzero]
  · rintro rfl
    decide

/-- A text has the NUL character where its bytes have the byte 0. -/
theorem zero_mem_utf8Encode {text : String} :
    0 ∈ utf8Encode text ↔ Char.ofNat 0 ∈ text.toList := by
  conv_lhs => rw [← String.ofList_toList (s := text)]
  rw [utf8Encode_ofList, List.mem_flatMap]
  simp only [zero_mem_utf8EncodeChar, exists_eq_right]

theorem decodeString_eq_ok {payload : Bytes} {decoded : DecodedValue} :
    decodeString payload = .ok decoded ↔
      ∃ text : String, (Char.ofNat 0 ∉ text.toList ∧ payload = utf8Encode text) ∧
        decoded = .text text := by
  unfold decodeString
  split
  · rename_i hnone
    simp only [reduceCtorEq, false_iff, not_exists, not_and]
    rintro text ⟨-, htext⟩
    rw [utf8Decode_eq_some.mpr htext] at hnone
    simp at hnone
  · rename_i text htext
    rw [utf8Decode_eq_some] at htext
    subst htext
    rw [bind_unit_eq_ok, validateStringScalars_eq_ok, Except.ok.injEq]
    constructor
    · rintro ⟨⟨cs, hcs, hzero⟩, rfl⟩
      exact ⟨text, ⟨codePoints_injective hcs ▸ hzero, rfl⟩, rfl⟩
    · rintro ⟨other, ⟨hzero, hsame⟩, rfl⟩
      rw [utf8Encode_injective hsame]
      exact ⟨⟨other.toList, rfl, hzero⟩, rfl⟩

/-! ## Dates -/

theorem isAscii_formatDate (d : Date) : IsAscii (formatDate d) := isAscii_dateDigits _ _ _

theorem date_fits (d : Date) : d.year < 10 ^ 4 ∧ d.month < 10 ^ 2 ∧ d.day < 10 ^ 2 := by
  have := d.year_le
  have := d.month_le
  have := d.day_le
  have := daysInMonth_le d.year d.month
  omega

theorem readDate_formatDate (d : Date) :
    readDate (formatDate d) = some ((d.year, d.month, d.day), []) :=
  readDate_eq_some.mpr ⟨date_fits d, (List.append_nil _).symm⟩

theorem make_formatDate (d : Date) : Date.make d.year d.month d.day = some d :=
  Date.make_eq_some.mpr ⟨rfl, rfl, rfl⟩

theorem asDate_text {text : PythonText} {d : Date} :
    (CanonicalInput.text text).asDate = some d ↔ text = codePoints (formatDate d) := by
  simp only [CanonicalInput.asDate, Option.bind_eq_some_iff, scalars_eq_some, Prod.exists]
  constructor
  · rintro ⟨year, month, day, rest, ⟨cs, rfl, hread⟩, hmake⟩
    split at hmake
    · rename_i hrest
      subst hrest
      obtain ⟨-, rfl⟩ := readDate_eq_some.mp hread
      obtain ⟨rfl, rfl, rfl⟩ := Date.make_eq_some.mp hmake
      rw [List.append_nil]
      rfl
    · simp at hmake
  · rintro rfl
    refine ⟨d.year, d.month, d.day, [], ⟨_, rfl, readDate_formatDate d⟩, ?_⟩
    rw [if_pos rfl]
    exact make_formatDate d

theorem parseDate_eq_ok {text : PythonText} {context : String} {d : Date} :
    parseDate text context = .ok d ↔ text = codePoints (formatDate d) := by
  rw [← asDate_text]
  unfold parseDate
  simp only [CanonicalInput.asDate]
  cases hread : (scalars text).bind readDate with
  | none => simp
  | some found =>
    obtain ⟨⟨year, month, day⟩, rest⟩ := found
    cases rest with
    | nil =>
      simp only [Option.bind_some, if_true]
      cases Date.make year month day <;> simp
    | cons c rest => simp

theorem encodeDate_eq_ok {value : CanonicalInput} {payload : Bytes} :
    encodeDate value = .ok payload ↔
      ∃ d, value.asDate = some d ∧ payload = asciiBytes (formatDate d) := by
  cases value with
  | date d =>
    simp only [encodeDate, CanonicalInput.asDate, Option.some.injEq, exists_eq_left',
      Except.ok.injEq]
    exact eq_comm
  | text text =>
    rw [encodeDate, bind_eq_ok]
    refine exists_congr fun d => ?_
    rw [parseDate_eq_ok, asDate_text]
    refine and_congr_right fun htext => ?_
    rw [bind_unit_eq_ok, refuseIf_eq_ok, ne_eq, not_not, Except.ok.injEq]
    exact ⟨fun h => h.2.symm, fun h => ⟨htext, h.symm⟩⟩
  | _ => simp [encodeDate, CanonicalInput.asDate]

theorem decodeDate_eq_ok {payload : Bytes} {decoded : DecodedValue} :
    decodeDate payload = .ok decoded ↔
      ∃ d, payload = asciiBytes (formatDate d) ∧ decoded = .date d := by
  unfold decodeDate
  rw [bind_eq_ok]
  constructor
  · rintro ⟨text, htext, h⟩
    obtain ⟨-, rfl⟩ := decodeAscii_eq_ok.mp htext
    rw [bind_eq_ok] at h
    obtain ⟨d, hd, h⟩ := h
    rw [bind_unit_eq_ok, refuseIf_eq_ok, ne_eq, not_not, Except.ok.injEq] at h
    obtain ⟨rfl, rfl⟩ := h
    exact ⟨d, rfl, rfl⟩
  · rintro ⟨d, rfl, rfl⟩
    refine ⟨formatDate d, decodeAscii_eq_ok.mpr ⟨isAscii_formatDate d, rfl⟩, ?_⟩
    rw [bind_eq_ok]
    refine ⟨d, parseDate_eq_ok.mpr rfl, ?_⟩
    rw [bind_unit_eq_ok, refuseIf_eq_ok, ne_eq, not_not]
    exact ⟨rfl, rfl⟩

/-! ## Timestamps -/

theorem fitFraction_eq_ok {digits out : List Char} {precision : ℕ} {context : String} :
    fitFraction digits precision context = .ok out ↔ fitDigits digits precision = some out := by
  unfold fitFraction
  cases fitDigits digits precision <;> simp

/-- The formatted time with the fitted fraction is the text of its moment. -/
theorem formatTimestamp_eq_text (t : Datetime) (moment : Moment) (precision : ℕ)
    (hdate : t.date = moment.second.date) (hhour : t.hour = moment.second.hour)
    (hminute : t.minute = moment.second.minute) (hsecond : t.second = moment.second.second) :
    formatTimestamp t (moment.fraction precision) precision = moment.text precision := by
  have hfraction : (if 0 < precision then '.' :: moment.fraction precision else []) =
      fractionText (moment.fraction precision) := by
    have hlength : (moment.fraction precision).length = precision := length_fixedDigits _ _ _
    cases hcs : moment.fraction precision with
    | nil =>
      rw [hcs, List.length_nil] at hlength
      rw [if_neg (by omega)]
      rfl
    | cons c cs =>
      rw [hcs, List.length_cons] at hlength
      rw [if_pos (by omega)]
      rfl
  rw [formatTimestamp, hfraction, hdate, hhour, hminute, hsecond]
  rfl

/-- A fraction is fitted to the digits a moment with these nanoseconds is
written with. -/
theorem fit_moment {digits out : List Char} {precision : ℕ} (hprecision : precision ≤ 9)
    (hlength : digits.length ≤ 9) (hdigits : ∀ c ∈ digits, isDigitOf 10 c = true)
    {moment : Moment} (hnanos : fractionNanos digits = moment.nanosecond) :
    fitDigits digits precision = some out ↔
      moment.Fits precision ∧ out = moment.fraction precision := by
  rw [fitDigits_eq_some hprecision hlength hdigits, hnanos]
  rfl

theorem fractionNanos_microsecond (t : Datetime) :
    fractionNanos (fixedDigits 10 6 t.microsecond) = (Moment.ofDatetime t).nanosecond := by
  have hlt : t.microsecond < 10 ^ 6 := t.microsecond_lt
  rw [fractionNanos, digitsValue_fixedDigits (by omega) (by omega) hlt, length_fixedDigits]
  rfl

theorem isDigitOf_microsecond (t : Datetime) :
    ∀ c ∈ fixedDigits 10 6 t.microsecond, isDigitOf 10 c = true :=
  fun _ hc => isDigitOf_of_mem_fixedDigits (by omega) (by omega) hc

theorem asLocalTime_text {text : PythonText} {moment : Moment} :
    (CanonicalInput.text text).asLocalTime = some moment ↔
      ∃ stamp : Stamp, (stamp.Fits ∧ text = codePoints stamp.text) ∧
        stamp.moment = some moment := by
  simp only [CanonicalInput.asLocalTime, Option.bind_eq_some_iff, scalars_eq_some, Prod.exists]
  constructor
  · rintro ⟨stamp, rest, ⟨cs, rfl, hread⟩, hmoment⟩
    split at hmoment
    · rename_i hrest
      subst hrest
      obtain ⟨hfits, rfl⟩ := readStamp_eq_some.mp hread
      exact ⟨stamp, ⟨hfits, rfl⟩, hmoment⟩
    · simp at hmoment
  · rintro ⟨stamp, ⟨hfits, rfl⟩, hmoment⟩
    refine ⟨stamp, [], ⟨_, rfl, readStamp_eq_some.mpr ⟨hfits, rfl⟩⟩, ?_⟩
    rw [if_pos rfl]
    exact hmoment

theorem datetimeFromMatch_eq_ok {stamp : Stamp} {context : String} {original : PythonText}
    {t : Datetime} :
    datetimeFromMatch stamp context original = .ok t ↔
      Datetime.make stamp.year stamp.month stamp.day stamp.hour stamp.minute stamp.second =
        some t := by
  unfold datetimeFromMatch
  split
  · rename_i found hfound
    rw [hfound, Option.some.injEq, Except.ok.injEq]
  · rename_i hnone
    rw [hnone]
    simp

theorem parseLocalTimestamp_eq_ok {text : PythonText} {context : String} {t : Datetime}
    {fraction : List Char} :
    parseLocalTimestamp text context = .ok (t, fraction) ↔
      ∃ stamp : Stamp, (stamp.Fits ∧ text = codePoints stamp.text) ∧
        Datetime.make stamp.year stamp.month stamp.day stamp.hour stamp.minute stamp.second =
          some t ∧ stamp.fraction = fraction := by
  have hread : ∀ stamp, (scalars text).bind readStamp = some (stamp, []) ↔
      stamp.Fits ∧ text = codePoints stamp.text := by
    intro stamp
    simp only [Option.bind_eq_some_iff, scalars_eq_some, readStamp_eq_some]
    constructor
    · rintro ⟨cs, rfl, hfits, rfl⟩
      exact ⟨hfits, rfl⟩
    · rintro ⟨hfits, rfl⟩
      exact ⟨_, rfl, hfits, rfl⟩
  simp only [← hread]
  unfold parseLocalTimestamp
  split
  · rename_i stamp hstamp
    simp only [hstamp, Option.some.injEq, Prod.mk.injEq, and_true, exists_eq_left', bind_eq_ok,
      datetimeFromMatch_eq_ok, Except.ok.injEq]
    constructor
    · rintro ⟨t', hmake, rfl, rfl⟩
      exact ⟨hmake, rfl⟩
    · rintro ⟨hmake, rfl⟩
      exact ⟨t, hmake, rfl, rfl⟩
  · rename_i hnone
    simp only [reduceCtorEq, false_iff, not_exists, not_and]
    intro stamp hstamp
    exact absurd hstamp (hnone stamp)

/-- A valid stamp has a moment, with the second and the nanoseconds it says. -/
theorem exists_moment {stamp : Stamp} {t : Datetime} (hfits : stamp.Fits)
    (hmake : Datetime.make stamp.year stamp.month stamp.day stamp.hour stamp.minute
      stamp.second = some t) :
    ∃ moment, stamp.moment = some moment ∧ moment.second = t ∧
      moment.nanosecond = fractionNanos stamp.fraction :=
  ⟨{ second := t, nanosecond := fractionNanos stamp.fraction
     whole := (Datetime.make_eq_some.mp hmake).2.2.2.2
     nanosecond_lt := fractionNanos_lt hfits.fraction.1 hfits.fraction.2 },
    Stamp.moment_eq_some.mpr ⟨hmake, rfl⟩, rfl, rfl⟩

theorem encodeTimestampLocal_eq_ok {value : CanonicalInput} {precision : ℕ}
    (hprecision : precision ≤ 9) {payload : Bytes} :
    encodeTimestampLocal value precision = .ok payload ↔
      ∃ moment, value.asLocalTime = some moment ∧ moment.Fits precision ∧
        payload = asciiBytes (moment.text precision) := by
  cases value with
  | datetime t zone =>
    cases zone with
    | naive =>
      have hfit := fun out => @fit_moment (fixedDigits 10 6 t.microsecond) out precision hprecision
        (by simp) (isDigitOf_microsecond t) (.ofDatetime t) (fractionNanos_microsecond t)
      simp only [encodeTimestampLocal, CanonicalInput.asLocalTime, bind_eq_ok, fitFraction_eq_ok,
        hfit, Option.some.injEq, exists_eq_left', Except.ok.injEq]
      have htext := formatTimestamp_eq_text t (.ofDatetime t) precision rfl rfl rfl rfl
      constructor
      · rintro ⟨out, ⟨hfits, rfl⟩, rfl⟩
        exact ⟨hfits, by rw [htext]⟩
      · rintro ⟨hfits, rfl⟩
        exact ⟨_, ⟨hfits, rfl⟩, by rw [htext]⟩
    | _ => simp [encodeTimestampLocal, CanonicalInput.asLocalTime]
  | text text =>
    simp only [encodeTimestampLocal, bind_eq_ok, Prod.exists, parseLocalTimestamp_eq_ok,
      asLocalTime_text, fitFraction_eq_ok, Except.ok.injEq]
    constructor
    · rintro ⟨t, fraction, ⟨stamp, hstamp, hmake, rfl⟩, out, hout, rfl⟩
      obtain ⟨moment, hmoment, rfl, hnanos⟩ := exists_moment hstamp.1 hmake
      obtain ⟨hfits, rfl⟩ := (fit_moment hprecision hstamp.1.fraction.1 hstamp.1.fraction.2
        hnanos.symm).mp hout
      refine ⟨moment, ⟨stamp, hstamp, hmoment⟩, hfits, ?_⟩
      rw [formatTimestamp_eq_text moment.second moment precision rfl rfl rfl rfl]
    · rintro ⟨moment, ⟨stamp, hstamp, hmoment⟩, hfits, rfl⟩
      obtain ⟨hmake, hnanos⟩ := Stamp.moment_eq_some.mp hmoment
      refine ⟨moment.second, stamp.fraction, ⟨stamp, hstamp, hmake, rfl⟩, _,
        (fit_moment hprecision hstamp.1.fraction.1 hstamp.1.fraction.2 hnanos).mpr ⟨hfits, rfl⟩, ?_⟩
      rw [formatTimestamp_eq_text moment.second moment precision rfl rfl rfl rfl]
  | _ => simp [encodeTimestampLocal, CanonicalInput.asLocalTime]

/-- The canonical text of a moment denotes it. -/
theorem asLocalTime_momentText {moment : Moment} {precision : ℕ} (hprecision : precision ≤ 9)
    (hfits : moment.Fits precision) :
    (CanonicalInput.text (codePoints (moment.text precision))).asLocalTime = some moment :=
  asLocalTime_text.mpr ⟨moment.stamp precision, ⟨moment.stamp_fits hprecision, rfl⟩,
    moment.moment_stamp hprecision hfits⟩

theorem decodeTimestampLocal_eq_ok {payload : Bytes} {precision : ℕ} (hprecision : precision ≤ 9)
    {decoded : DecodedValue} :
    decodeTimestampLocal payload precision = .ok decoded ↔
      ∃ moment : Moment, (moment.Fits precision ∧ payload = asciiBytes (moment.text precision)) ∧
        decoded = .text (String.ofList (moment.text precision)) := by
  unfold decodeTimestampLocal
  rw [bind_eq_ok]
  constructor
  · rintro ⟨text, htext, h⟩
    obtain ⟨-, rfl⟩ := decodeAscii_eq_ok.mp htext
    rw [bind_eq_ok] at h
    obtain ⟨canonical, hcanonical, h⟩ := h
    obtain ⟨moment, -, hfits, rfl⟩ := (encodeTimestampLocal_eq_ok hprecision).mp hcanonical
    rw [bind_unit_eq_ok, refuseIf_eq_ok, ne_eq, not_not, Except.ok.injEq,
      asciiText_asciiBytes (isAscii_text _ _), Option.some.injEq] at h
    obtain ⟨rfl, rfl⟩ := h
    exact ⟨moment, ⟨hfits, rfl⟩, rfl⟩
  · rintro ⟨moment, ⟨hfits, rfl⟩, rfl⟩
    refine ⟨_, decodeAscii_eq_ok.mpr ⟨isAscii_text moment precision, rfl⟩, ?_⟩
    rw [bind_eq_ok]
    refine ⟨_, (encodeTimestampLocal_eq_ok hprecision).mpr
      ⟨moment, asLocalTime_momentText hprecision hfits, hfits, rfl⟩, ?_⟩
    rw [bind_unit_eq_ok, refuseIf_eq_ok, ne_eq, not_not, asciiText_asciiBytes (isAscii_text _ _)]
    exact ⟨rfl, rfl⟩

end ForensicData.Canonical
