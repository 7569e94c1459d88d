/-
ForensicData.Canonical.InstantLaw — one payload for each instant.

Accepted inputs have equal payloads exactly when they denote the same place on
the time line, however that is spelled. Why a well-formed input is refused is
read off the two paths: the fraction that counts is the one of the time in UTC,
which for a `datetime` whose offset has a part below a second is not the
fraction of the input (`subsecond_offset_accepted`).
-/
import ForensicData.Canonical.InstantTheorems

namespace ForensicData.Canonical

open ForensicData.Lib

/-! ## Refusals -/

/-- A digit after the first `precision` ones is not zero. -/
def LosesDigits (precision : ℕ) (digits : List Char) : Prop :=
  ∃ c ∈ digits.drop precision, c ≠ '0'

theorem fitFraction_refused {digits : List Char} {precision : ℕ} {context : String} :
    (∃ refusal, fitFraction digits precision context = .error refusal) ↔
      LosesDigits precision digits := by
  unfold fitFraction fitDigits LosesDigits
  by_cases hall : (digits.drop precision).all (· == '0') = true
  · simp only [hall, if_true, reduceCtorEq, exists_false, false_iff, not_exists, not_and, not_not]
    intro c hc
    simpa using List.all_eq_true.mp hall c hc
  · rw [if_neg hall]
    simp only [Except.error.injEq, exists_eq', true_iff]
    simpa using hall

theorem subtract_eq_none {t : Datetime} {offset : Int} (hlow : -(Datetime.dayMicros : Int) < offset)
    (hhigh : offset < Datetime.dayMicros) :
    t.subtract offset = none ↔ ¬ Datetime.InRange (t.micros - offset) := by
  refine ⟨(t.subtract_spec hlow hhigh).2, fun hout => ?_⟩
  cases hsubtract : t.subtract offset with
  | none => rfl
  | some u =>
    have hmicros := (t.subtract_spec hlow hhigh).1 u hsubtract
    exact absurd (hmicros ▸ u.micros_inRange) hout

/-- The microseconds of a second at a place on the time line. -/
def microsecondAt (micros : Int) : ℕ := (micros % 1000000).toNat

theorem microsecondAt_micros (t : Datetime) : microsecondAt t.micros = t.microsecond := by
  have hlt := t.microsecond_lt
  unfold microsecondAt Datetime.micros Datetime.microsOfDay Datetime.dayMicros
  omega

/-- A refusal after the subtraction is one of the fraction. -/
theorem bind_refused {α β ε : Type} {x : Except ε α} {f : α → β} :
    (∃ refusal, (do let a ← x; .ok (f a)) = Except.error refusal) ↔
      ∃ refusal, x = .error refusal := by
  cases x <;> simp [bind, Except.bind]

theorem encodeInstant_datetime_refused {t : Datetime} {offset : FixedOffset} {precision : ℕ} :
    (∃ refusal, encodeTimestampInstant (.datetime t (.fixed offset)) precision = .error refusal) ↔
      LosesDigits precision (fixedDigits 10 6 (microsecondAt (t.micros - offset.micros))) ∨
        ¬ Datetime.InRange (t.micros - offset.micros) := by
  simp only [encodeTimestampInstant]
  cases hsubtract : t.subtract offset.micros with
  | none =>
    have hout := (subtract_eq_none offset.lower offset.upper).mp hsubtract
    simp [hout]
  | some utc =>
    have hmicros := (Datetime.subtract_eq_some offset.lower offset.upper).mp hsubtract
    have hinside : Datetime.InRange (t.micros - offset.micros) := hmicros ▸ utc.micros_inRange
    have hfraction : microsecondAt (t.micros - offset.micros) = utc.microsecond := by
      rw [← hmicros, microsecondAt_micros]
    simp only [hinside, not_true, or_false, hfraction]
    exact bind_refused.trans fitFraction_refused

theorem encodeInstant_text_refused {text : PythonText} {stamp : Stamp} {offset : OffsetText}
    {precision : ℕ} (hread : ReadsInstant text stamp offset) (hvalid : offset.Valid) :
    (∃ refusal, encodeTimestampInstant (.text text) precision = .error refusal) ↔
      LosesDigits precision stamp.fraction ∨
        Datetime.make stamp.year stamp.month stamp.day stamp.hour stamp.minute stamp.second = none ∨
        ∃ t, Datetime.make stamp.year stamp.month stamp.day stamp.hour stamp.minute stamp.second
          = some t ∧ ¬ Datetime.InRange (t.micros - offset.micros) := by
  rcases offset.micros_bounds hvalid with ⟨hlow, hhigh, -⟩
  simp only [encodeTimestampInstant]
  cases hmake : Datetime.make stamp.year stamp.month stamp.day stamp.hour stamp.minute
      stamp.second with
  | none =>
    have hparse : ∃ refusal, parseInstantTimestamp text "timestamp_instant" = .error refusal := by
      cases hparse : parseInstantTimestamp text "timestamp_instant" with
      | error refusal => exact ⟨refusal, rfl⟩
      | ok parsed =>
        rcases parseInstantTimestamp_eq_ok.mp hparse
          with ⟨stamp', offset', ⟨rest', hstamp', hoffset'⟩, -, hmake', -⟩
        rcases hread with ⟨rest, hstamp, -⟩
        rw [hstamp, Option.some.injEq, Prod.mk.injEq] at hstamp'
        rw [← hstamp'.1, hmake] at hmake'
        cases hmake'
    rcases hparse with ⟨refusal, hparse⟩
    simp [hparse, bind, Except.bind]
  | some t =>
    have hparse := (@parseInstantTimestamp_eq_ok text "timestamp_instant" t stamp.fraction
      offset.micros).mpr ⟨stamp, offset, hread, hvalid, hmake, rfl, rfl⟩
    rw [hparse]
    simp only [Option.some.injEq, reduceCtorEq, false_or, exists_eq_left']
    dsimp only [bind, Except.bind]
    cases hsubtract : t.subtract offset.micros with
    | none =>
      have hout := (subtract_eq_none hlow hhigh).mp hsubtract
      simp [hout]
    | some utc =>
      have hmicros := (Datetime.subtract_eq_some hlow hhigh).mp hsubtract
      have hinside : Datetime.InRange (t.micros - offset.micros) := hmicros ▸ utc.micros_inRange
      simp only [hinside, not_true, or_false]
      exact bind_refused.trans fitFraction_refused

/-! ## The law of instants -/

section Law

variable (parameters : TimestampParameters)

/-- Two accepted inputs have equal payloads exactly when they denote the same
instant. A `datetime` is refused exactly when its time in UTC has a further
fraction digit or lies outside the years 1 to 9999, a text of the form with a
valid offset exactly when it has a further fraction digit, invalid fields, or a
time in UTC outside these years. A payload is decoded as the text it is, which
is encoded to the same payload. -/
theorem instant_canonicalisation :
    (∀ value other payload payload',
      encodeTimestampInstant value parameters.precision = .ok payload →
      encodeTimestampInstant other parameters.precision = .ok payload' →
      ∃ nanos nanos', value.asInstant = some nanos ∧ other.asInstant = some nanos' ∧
        (payload = payload' ↔ nanos = nanos')) ∧
    (∀ (t : Datetime) (offset : FixedOffset),
      (∃ refusal, encodeTimestampInstant (.datetime t (.fixed offset)) parameters.precision
        = .error refusal) ↔
      LosesDigits parameters.precision
          (fixedDigits 10 6 (microsecondAt (t.micros - offset.micros))) ∨
        ¬ Datetime.InRange (t.micros - offset.micros)) ∧
    (∀ (text : PythonText) (stamp : Stamp) (offset : OffsetText),
      ReadsInstant text stamp offset → offset.Valid →
      ((∃ refusal, encodeTimestampInstant (.text text) parameters.precision = .error refusal) ↔
        LosesDigits parameters.precision stamp.fraction ∨
          Datetime.make stamp.year stamp.month stamp.day stamp.hour stamp.minute stamp.second
            = none ∨
          ∃ t, Datetime.make stamp.year stamp.month stamp.day stamp.hour stamp.minute stamp.second
            = some t ∧ ¬ Datetime.InRange (t.micros - offset.micros))) ∧
    ∀ value payload, encodeTimestampInstant value parameters.precision = .ok payload →
      ∃ text, payload = asciiBytes text ∧
        decodeTimestampInstant payload parameters.precision = .ok (.text (String.ofList text)) ∧
        encodeTimestampInstant (.text (codePoints text)) parameters.precision = .ok payload := by
  have hprecision := parameters.precision_le
  refine ⟨?equal, fun t offset => encodeInstant_datetime_refused,
    fun text stamp offset => encodeInstant_text_refused, ?fixed⟩
  case equal =>
    intro value other payload payload' h h'
    rcases (encodeTimestampInstant_eq_ok hprecision).mp h
      with ⟨nanos, hnanos, moment, ⟨hplace, hfits⟩, rfl⟩
    rcases (encodeTimestampInstant_eq_ok hprecision).mp h'
      with ⟨nanos', hnanos', moment', ⟨hplace', hfits'⟩, rfl⟩
    refine ⟨nanos, nanos', hnanos, hnanos', fun hpayload => ?_, fun hsame => ?_⟩
    · have htext := asciiBytes_inj (isAscii_instantText moment _) (isAscii_instantText moment' _)
        hpayload
      have hmoment := Moment.text_injective hprecision hfits hfits' (List.append_cancel_right htext)
      rw [← hplace, ← hplace', hmoment]
    · have hmoment : moment = moment' :=
        Moment.nanos_injective (hplace.trans (hsame.trans hplace'.symm))
      rw [hmoment]
  case fixed =>
    intro value payload h
    rcases (encodeTimestampInstant_eq_ok hprecision).mp h
      with ⟨nanos, -, moment, ⟨hplace, hfits⟩, rfl⟩
    refine ⟨_, rfl, (decodeTimestampInstant_eq_ok hprecision).mpr ⟨moment, ⟨hfits, rfl⟩, rfl⟩, ?_⟩
    exact (encodeTimestampInstant_eq_ok hprecision).mpr
      ⟨moment.nanos, asInstant_momentText hprecision hfits, moment, ⟨rfl, hfits⟩, rfl⟩

/-- Precision 0. -/
def wholeSeconds : TimestampParameters := ⟨0, by decide⟩

/-- The first microsecond of 2020. -/
def firstMicrosecond : Datetime :=
  { Datetime.midnight (.newYear 2020 (by decide) (by decide)) with
    microsecond := 1, microsecond_lt := by decide }

/-- An offset of one microsecond. -/
def oneMicrosecond : FixedOffset := ⟨1, by decide, by decide⟩

/-- The start of 2020 in UTC, as text. -/
def startText : List Char := "2020-01-01T00:00:00Z".toList

theorem encode_firstMicrosecond :
    encodeTimestampInstant (.datetime firstMicrosecond (.fixed oneMicrosecond))
      wholeSeconds.precision = .ok (asciiBytes startText) := by
  decide +kernel

/-- A `datetime` whose microsecond is beyond the precision is accepted when its
offset takes the microsecond away. -/
theorem subsecond_offset_accepted :
    ¬ ∀ (parameters : TimestampParameters) (t : Datetime) (offset : FixedOffset),
      (∃ refusal, encodeTimestampInstant (.datetime t (.fixed offset)) parameters.precision
        = .error refusal) ↔
      LosesDigits parameters.precision (fixedDigits 10 6 t.microsecond) ∨
        ¬ Datetime.InRange (t.micros - offset.micros) := by
  intro hclaim
  have hlost : LosesDigits wholeSeconds.precision (fixedDigits 10 6 firstMicrosecond.microsecond) :=
    ⟨'1', by decide, by decide⟩
  rcases (hclaim wholeSeconds firstMicrosecond oneMicrosecond).mpr (.inl hlost)
    with ⟨refusal, hrefused⟩
  rw [encode_firstMicrosecond] at hrefused
  cases hrefused

theorem instant_canonicalisation_start :
    ∃ text, asciiBytes startText = asciiBytes text ∧
      decodeTimestampInstant (asciiBytes startText) wholeSeconds.precision
        = .ok (.text (String.ofList text)) ∧
      encodeTimestampInstant (.text (codePoints text)) wholeSeconds.precision
        = .ok (asciiBytes startText) :=
  (instant_canonicalisation wholeSeconds).2.2.2
    (.datetime firstMicrosecond (.fixed oneMicrosecond)) _ encode_firstMicrosecond

end Law

end ForensicData.Canonical
