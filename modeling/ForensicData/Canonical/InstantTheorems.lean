/-
ForensicData.Canonical.InstantTheorems — payloads of instants.

An aware datetime and a text with an offset are moved to UTC on the calendar;
the result is the moment at the denoted place on the time line, or nothing when
that lies outside the years 1 to 9999 (`encodeTimestampInstant_eq_ok`).
-/
import ForensicData.Canonical.PayloadTheorems

namespace ForensicData.Canonical

open ForensicData.Lib

/-! ## Offsets -/

/-- A valid offset is less than a day and a whole number of minutes. -/
theorem OffsetText.micros_bounds {offset : OffsetText} (h : offset.Valid) :
    -(Datetime.dayMicros : Int) < offset.micros ∧ offset.micros < Datetime.dayMicros ∧
      ∃ minutes : Int, offset.micros = minutes * 60000000 := by
  cases offset with
  | zulu => exact ⟨by decide, by decide, 0, rfl⟩
  | fields negative hours minutes =>
    obtain ⟨hhours, hminutes⟩ : hours ≤ 23 ∧ minutes ≤ 59 := h
    unfold OffsetText.micros Datetime.dayMicros
    cases negative with
    | false => exact ⟨by simp; omega, by simp; omega, hours * 60 + minutes, by simp; omega⟩
    | true => exact ⟨by simp; omega, by simp; omega, -(hours * 60 + minutes), by simp; omega⟩

theorem requireOffset_eq_ok {context : String} {offset : OffsetText} :
    requireOffset context offset = .ok () ↔ offset.Valid := by
  cases offset with
  | zulu => exact ⟨fun _ => trivial, fun _ => rfl⟩
  | fields negative hours minutes =>
    rw [requireOffset, refuseIf_eq_ok]
    unfold OffsetText.Valid
    omega

/-! ## Texts with an offset -/

/-- What an instant text is read as. -/
def ReadsInstant (text : PythonText) (stamp : Stamp) (offset : OffsetText) : Prop :=
  ∃ rest, (scalars text).bind readStamp = some (stamp, rest) ∧ readOffset rest = some offset

theorem ReadsInstant.fits {text : PythonText} {stamp : Stamp} {offset : OffsetText}
    (h : ReadsInstant text stamp offset) : stamp.Fits := by
  obtain ⟨rest, hread, -⟩ := h
  obtain ⟨cs, -, hstamp⟩ := Option.bind_eq_some_iff.mp hread
  exact (readStamp_sound hstamp).1

theorem asInstant_text {text : PythonText} {nanos : Int} :
    (CanonicalInput.text text).asInstant = some nanos ↔
      ∃ stamp offset moment, ReadsInstant text stamp offset ∧ offset.Valid ∧
        stamp.moment = some moment ∧ moment.nanos - offset.micros * 1000 = nanos := by
  simp only [CanonicalInput.asInstant, Option.bind_eq_some_iff, Prod.exists, ReadsInstant]
  constructor
  · rintro ⟨stamp, rest, ⟨cs, hcs, hstamp⟩, offset, hoffset, h⟩
    split at h
    · rename_i hvalid
      obtain ⟨moment, hmoment, hnanos⟩ := Option.map_eq_some_iff.mp h
      exact ⟨stamp, offset, moment, ⟨rest, ⟨cs, hcs, hstamp⟩, hoffset⟩, hvalid, hmoment, hnanos⟩
    · simp at h
  · rintro ⟨stamp, offset, moment, ⟨rest, ⟨cs, hcs, hstamp⟩, hoffset⟩, hvalid, hmoment, hnanos⟩
    refine ⟨stamp, rest, ⟨cs, hcs, hstamp⟩, offset, hoffset, ?_⟩
    rw [if_pos hvalid, hmoment, Option.map_some, hnanos]

theorem parseInstantTimestamp_eq_ok {text : PythonText} {context : String} {t : Datetime}
    {fraction : List Char} {micros : Int} :
    parseInstantTimestamp text context = .ok (t, fraction, micros) ↔
      ∃ stamp offset, ReadsInstant text stamp offset ∧ offset.Valid ∧
        Datetime.make stamp.year stamp.month stamp.day stamp.hour stamp.minute stamp.second =
          some t ∧ stamp.fraction = fraction ∧ offset.micros = micros := by
  unfold parseInstantTimestamp ReadsInstant
  split
  · rename_i stamp rest hstamp
    split
    · rename_i offset hoffset
      rw [bind_eq_ok]
      constructor
      · rintro ⟨t', hmake, h⟩
        rw [bind_unit_eq_ok, requireOffset_eq_ok, Except.ok.injEq, Prod.mk.injEq,
          Prod.mk.injEq] at h
        obtain ⟨hvalid, rfl, hfraction, hmicros⟩ := h
        exact ⟨stamp, offset, ⟨rest, hstamp, hoffset⟩, hvalid, datetimeFromMatch_eq_ok.mp hmake,
          hfraction, hmicros⟩
      · rintro ⟨stamp', offset', ⟨rest', hstamp', hoffset'⟩, hvalid, hmake, hfraction, hmicros⟩
        rw [hstamp, Option.some.injEq, Prod.mk.injEq] at hstamp'
        obtain ⟨rfl, rfl⟩ := hstamp'
        rw [hoffset, Option.some.injEq] at hoffset'
        subst hoffset'
        refine ⟨t, datetimeFromMatch_eq_ok.mpr hmake, ?_⟩
        rw [bind_unit_eq_ok, requireOffset_eq_ok, hfraction, hmicros]
        exact ⟨hvalid, rfl⟩
    · rename_i hnone
      simp only [reduceCtorEq, false_iff, not_exists, not_and]
      rintro stamp' offset' ⟨rest', hstamp', hoffset'⟩
      rw [hstamp, Option.some.injEq, Prod.mk.injEq] at hstamp'
      obtain ⟨rfl, rfl⟩ := hstamp'
      rw [hnone] at hoffset'
      simp at hoffset'
  · rename_i hnone
    simp only [reduceCtorEq, false_iff, not_exists, not_and]
    rintro stamp' offset' ⟨rest', hstamp', -⟩
    rw [hnone] at hstamp'
    simp at hstamp'

/-! ## The moment in UTC -/

theorem micros_eq_of_nanos {m n : Moment} {shift : Int} (hshift : ∃ k : Int, shift = k * 1000000)
    (h : m.nanos = n.nanos - shift * 1000) :
    m.second.micros = n.second.micros - shift ∧ m.nanosecond = n.nanosecond := by
  obtain ⟨s, hs⟩ := m.second_micros_dvd
  obtain ⟨t, ht⟩ := n.second_micros_dvd
  obtain ⟨k, rfl⟩ := hshift
  have hm := m.nanosecond_lt
  have hn := n.nanosecond_lt
  unfold Moment.nanos at h
  rw [hs, ht] at h ⊢
  omega

/-- A whole number of seconds has no microseconds left. -/
theorem microsecond_eq_zero {t : Datetime} {k : Int} (h : t.micros = k * 1000000) :
    t.microsecond = 0 := by
  have hlt := t.microsecond_lt
  unfold Datetime.micros Datetime.microsOfDay Datetime.dayMicros at h
  omega

/-- Moving a moment by whole seconds on the calendar moves it on the time line. -/
theorem subtract_moment {n : Moment} {shift : Int} (hlow : -(Datetime.dayMicros : Int) < shift)
    (hhigh : shift < Datetime.dayMicros) (hshift : ∃ k : Int, shift = k * 1000000) {u : Datetime} :
    n.second.subtract shift = some u ↔
      ∃ m : Moment, m.second = u ∧ m.nanosecond = n.nanosecond ∧
        m.nanos = n.nanos - shift * 1000 := by
  rw [Datetime.subtract_eq_some hlow hhigh]
  constructor
  · intro hmicros
    have hwhole : u.microsecond = 0 := by
      obtain ⟨s, hs⟩ := n.second_micros_dvd
      obtain ⟨k, hk⟩ := hshift
      exact @microsecond_eq_zero u (s - k) (by rw [hmicros, hs, hk]; ring)
    refine ⟨{ second := u, nanosecond := n.nanosecond, whole := hwhole,
              nanosecond_lt := n.nanosecond_lt }, rfl, rfl, ?_⟩
    unfold Moment.nanos
    simp only [hmicros]
    ring
  · rintro ⟨m, rfl, -, hnanos⟩
    exact (micros_eq_of_nanos hshift hnanos).1

/-- A moment at a whole microsecond is a time of the calendar. -/
theorem exists_datetime (m : Moment) {micros : Int}
    (h : m.nanos = micros * 1000) : ∃ u : Datetime, u.micros = micros := by
  have hlt := m.nanosecond_lt
  have hwhole := m.whole
  refine ⟨{ m.second with
    microsecond := m.nanosecond / 1000, microsecond_lt := by omega }, ?_⟩
  unfold Moment.nanos at h
  unfold Datetime.micros Datetime.microsOfDay at h ⊢
  simp only
  omega

/-! ## Encoding -/

theorem encodeInstant_text {text : PythonText} {precision : ℕ} (hprecision : precision ≤ 9)
    {payload : Bytes} :
    encodeTimestampInstant (.text text) precision = .ok payload ↔
      ∃ nanos, (CanonicalInput.text text).asInstant = some nanos ∧
        ∃ moment, IsMoment precision nanos moment ∧
          payload = asciiBytes (moment.text precision ++ ['Z']) := by
  simp only [encodeTimestampInstant, bind_eq_ok, Prod.exists, parseInstantTimestamp_eq_ok,
    asInstant_text]
  constructor
  · rintro ⟨t, fraction, micros, ⟨stamp, offset, hreads, hvalid, hmake, rfl, rfl⟩, h⟩
    obtain ⟨origin, horigin, rfl, hnanos⟩ := exists_moment hreads.fits hmake
    obtain ⟨hlow, hhigh, minutes, hminutes⟩ := offset.micros_bounds hvalid
    split at h
    · simp at h
    · rename_i utc hutc
      obtain ⟨moment, rfl, hsame, hplace⟩ :=
        (subtract_moment hlow hhigh ⟨minutes * 60, by omega⟩).mp hutc
      rw [bind_eq_ok] at h
      obtain ⟨out, hout, h⟩ := h
      obtain ⟨hfits, rfl⟩ := (fit_moment hprecision hreads.fits.fraction.1 hreads.fits.fraction.2
        (hnanos.symm.trans hsame.symm)).mp (fitFraction_eq_ok.mp hout)
      rw [Except.ok.injEq, formatTimestamp_eq_text moment.second moment precision rfl rfl rfl rfl]
        at h
      exact ⟨_, ⟨stamp, offset, origin, hreads, hvalid, horigin, rfl⟩, moment, ⟨hplace, hfits⟩,
        h.symm⟩
  · rintro ⟨nanos, ⟨stamp, offset, origin, hreads, hvalid, horigin, rfl⟩, moment,
      ⟨hplace, hfits⟩, rfl⟩
    obtain ⟨hmake, hnanos⟩ := Stamp.moment_eq_some.mp horigin
    obtain ⟨hlow, hhigh, minutes, hminutes⟩ := offset.micros_bounds hvalid
    have hwhole : ∃ k : Int, offset.micros = k * 1000000 := ⟨minutes * 60, by omega⟩
    have hsame := (micros_eq_of_nanos hwhole hplace).2
    refine ⟨origin.second, stamp.fraction, offset.micros,
      ⟨stamp, offset, hreads, hvalid, hmake, rfl, rfl⟩, ?_⟩
    rw [(subtract_moment hlow hhigh hwhole).mpr ⟨moment, rfl, hsame, hplace⟩]
    simp only
    rw [bind_eq_ok]
    refine ⟨_, fitFraction_eq_ok.mpr ((fit_moment hprecision hreads.fits.fraction.1
      hreads.fits.fraction.2 (hnanos.trans hsame.symm)).mpr ⟨hfits, rfl⟩), ?_⟩
    rw [formatTimestamp_eq_text moment.second moment precision rfl rfl rfl rfl]

theorem encodeInstant_datetime {t : Datetime} {offset : FixedOffset} {precision : ℕ}
    (hprecision : precision ≤ 9) {payload : Bytes} :
    encodeTimestampInstant (.datetime t (.fixed offset)) precision = .ok payload ↔
      ∃ moment, IsMoment precision ((t.micros - offset.micros) * 1000) moment ∧
        payload = asciiBytes (moment.text precision ++ ['Z']) := by
  have hsubtract := fun u => @Datetime.subtract_eq_some t u _ offset.lower offset.upper
  rw [encodeTimestampInstant]
  split
  · rename_i hnone
    simp only [reduceCtorEq, false_iff, not_exists, not_and]
    rintro moment ⟨hplace, -⟩
    obtain ⟨u, hu⟩ := exists_datetime moment hplace
    rw [(hsubtract u).mpr hu] at hnone
    simp at hnone
  · rename_i utc hutc
    rw [hsubtract] at hutc
    have hfit := fun out => @fit_moment (fixedDigits 10 6 utc.microsecond) out precision hprecision
      (by simp) (isDigitOf_microsecond utc) (.ofDatetime utc) (fractionNanos_microsecond utc)
    have htext := formatTimestamp_eq_text utc (.ofDatetime utc) precision rfl rfl rfl rfl
    have hplace : (Moment.ofDatetime utc).nanos = (t.micros - offset.micros) * 1000 := by
      rw [Moment.nanos_ofDatetime, hutc]
    simp only [bind_eq_ok, fitFraction_eq_ok, hfit, Except.ok.injEq]
    constructor
    · rintro ⟨out, ⟨hfits, rfl⟩, rfl⟩
      exact ⟨_, ⟨hplace, hfits⟩, by rw [htext]⟩
    · rintro ⟨moment, ⟨hnanos, hfits⟩, rfl⟩
      have hsame : moment = Moment.ofDatetime utc :=
        Moment.nanos_injective (hnanos.trans hplace.symm)
      subst hsame
      exact ⟨_, ⟨hfits, rfl⟩, by rw [htext]⟩

theorem encodeTimestampInstant_eq_ok {value : CanonicalInput} {precision : ℕ}
    (hprecision : precision ≤ 9) {payload : Bytes} :
    encodeTimestampInstant value precision = .ok payload ↔
      ∃ nanos, value.asInstant = some nanos ∧ ∃ moment, IsMoment precision nanos moment ∧
        payload = asciiBytes (moment.text precision ++ ['Z']) := by
  cases value with
  | datetime t zone =>
    cases zone with
    | fixed offset =>
      rw [encodeInstant_datetime hprecision]
      simp only [CanonicalInput.asInstant, Option.some.injEq, exists_eq_left']
    | _ => simp [encodeTimestampInstant, CanonicalInput.asInstant]
  | text text => exact encodeInstant_text hprecision
  | _ => simp [encodeTimestampInstant, CanonicalInput.asInstant]

/-! ## Decoding -/

theorem isAscii_instantText (moment : Moment) (precision : ℕ) :
    IsAscii (moment.text precision ++ ['Z']) :=
  (isAscii_text moment precision).append (isAscii_nil.cons (by decide))

theorem endsFraction_zulu : EndsFraction ['Z'] := by
  intro c hc
  rw [List.head?_cons, Option.some.injEq] at hc
  subst hc
  decide

/-- The canonical text of an instant denotes its place on the time line. -/
theorem asInstant_momentText {moment : Moment} {precision : ℕ} (hprecision : precision ≤ 9)
    (hfits : moment.Fits precision) :
    (CanonicalInput.text (codePoints (moment.text precision ++ ['Z']))).asInstant =
      some moment.nanos := by
  rw [asInstant_text]
  refine ⟨moment.stamp precision, .zulu, moment, ⟨['Z'], ?_, rfl⟩, trivial,
    moment.moment_stamp hprecision hfits, by simp [OffsetText.micros]⟩
  rw [scalars_eq_some.mpr rfl]
  exact readStamp_complete (moment.stamp_fits hprecision) endsFraction_zulu

theorem decodeTimestampInstant_eq_ok {payload : Bytes} {precision : ℕ}
    (hprecision : precision ≤ 9) {decoded : DecodedValue} :
    decodeTimestampInstant payload precision = .ok decoded ↔
      ∃ moment : Moment,
        (moment.Fits precision ∧ payload = asciiBytes (moment.text precision ++ ['Z'])) ∧
          decoded = .text (String.ofList (moment.text precision ++ ['Z'])) := by
  unfold decodeTimestampInstant
  rw [bind_eq_ok]
  constructor
  · rintro ⟨text, htext, h⟩
    obtain ⟨-, rfl⟩ := decodeAscii_eq_ok.mp htext
    rw [bind_eq_ok] at h
    obtain ⟨canonical, hcanonical, h⟩ := h
    obtain ⟨nanos, -, moment, ⟨-, hfits⟩, rfl⟩ :=
      (encodeTimestampInstant_eq_ok hprecision).mp hcanonical
    rw [bind_unit_eq_ok, refuseIf_eq_ok, ne_eq, not_not, Except.ok.injEq,
      asciiText_asciiBytes (isAscii_instantText _ _), Option.some.injEq] at h
    obtain ⟨rfl, rfl⟩ := h
    exact ⟨moment, ⟨hfits, rfl⟩, rfl⟩
  · rintro ⟨moment, ⟨hfits, rfl⟩, rfl⟩
    refine ⟨_, decodeAscii_eq_ok.mpr ⟨isAscii_instantText moment precision, rfl⟩, ?_⟩
    rw [bind_eq_ok]
    refine ⟨_, (encodeTimestampInstant_eq_ok hprecision).mpr
      ⟨moment.nanos, asInstant_momentText hprecision hfits, moment, ⟨rfl, hfits⟩, rfl⟩, ?_⟩
    rw [bind_unit_eq_ok, refuseIf_eq_ok, ne_eq, not_not,
      asciiText_asciiBytes (isAscii_instantText _ _)]
    exact ⟨rfl, rfl⟩

end ForensicData.Canonical
