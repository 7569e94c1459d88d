/-
ForensicData.SqlServer.CanonicalUtf8 — the UTF-8 function of SQL Server 2016.

`[dfe_ext].[canonical_utf8_v1]` reads an `nvarchar(max)` unit by unit and
returns its UTF-8 bytes, or NULL. A value is its list of code units; the
positions of Transact-SQL begin at 1. The loop goes on by one unit or by a
surrogate pair, so what it has still to read decides what it returns
(`canonicalUtf8Loop_append`); it is a total function of the value. The claim
about the function is `canonical_utf8_law`.
-/
import ForensicData.Canonical.FieldTheorems
import ForensicData.Lib.Utf16

namespace ForensicData.SqlServer

open ForensicData.Canonical
open ForensicData.Lib.Utf16

/-! ## The function -/

/-- `CONVERT(binary(1), number)`: the last byte of a number. -/
def binary1 (number : ℕ) : UInt8 := UInt8.ofNat number

/-- `UNICODE(SUBSTRING(@value COLLATE Latin1_General_100_BIN2, @position, 1))` within
the value. -/
def unicodeAt (value : List UInt16) (position : ℕ) : ℕ := (value.getD (position - 1) 0).toNat

/-- `@chunk`. -/
def utf8Chunk (codepoint : ℕ) : Bytes :=
  if codepoint ≤ 127 then [binary1 codepoint]
  else if codepoint ≤ 2047 then
    [binary1 (192 + codepoint / 64), binary1 (128 + codepoint % 64)]
  else if codepoint ≤ 65535 then
    [binary1 (224 + codepoint / 4096), binary1 (128 + codepoint / 64 % 64),
     binary1 (128 + codepoint % 64)]
  else
    [binary1 (240 + codepoint / 262144), binary1 (128 + codepoint / 4096 % 64),
     binary1 (128 + codepoint / 64 % 64), binary1 (128 + codepoint % 64)]

/-- `WHILE @position <= @unit_count`. -/
def canonicalUtf8Loop (value : List UInt16) (position : ℕ) (result : Bytes) : Option Bytes :=
  let unitCount := value.length
  if position ≤ unitCount then
    let unit := unicodeAt value position
    if unit = 0 then none
    else if 55296 ≤ unit ∧ unit ≤ 56319 then
      if position = unitCount then none
      else
        let lowSurrogate := unicodeAt value (position + 1)
        if ¬ (56320 ≤ lowSurrogate ∧ lowSurrogate ≤ 57343) then none
        else
          let codepoint := 65536 + (unit - 55296) * 1024 + (lowSurrogate - 56320)
          canonicalUtf8Loop value (position + 2) (result ++ utf8Chunk codepoint)
    else if 56320 ≤ unit ∧ unit ≤ 57343 then none
    else canonicalUtf8Loop value (position + 1) (result ++ utf8Chunk unit)
  else some result
termination_by value.length + 1 - position

/-- `[dfe_ext].[canonical_utf8_v1]`. -/
def canonicalUtf8 : Option (List UInt16) → Option Bytes
  | none => none
  | some value => canonicalUtf8Loop value 1 []

/-! ## One character -/

/-- The chunk of a character is its UTF-8 encoding. -/
theorem utf8Chunk_toNat (c : Char) : utf8Chunk c.toNat = String.utf8EncodeChar c := by
  have hvalid : c.toNat < 0xD800 ∨ (0xDFFF < c.toNat ∧ c.toNat < 0x110000) := c.valid
  have hval : c.val.toNat = c.toNat := rfl
  unfold utf8Chunk String.utf8EncodeChar binary1
  simp only [hval]
  split
  · rfl
  split
  · rw [Nat.add_comm 192, Nat.add_comm 128, Nat.mod_eq_of_lt (show c.toNat / 64 < 32 by omega)]
  split
  · rw [Nat.add_comm 224, Nat.add_comm 128, Nat.add_comm 128,
      Nat.mod_eq_of_lt (show c.toNat / 4096 < 16 by omega)]
  · rw [Nat.add_comm 240, Nat.add_comm 128, Nat.add_comm 128, Nat.add_comm 128,
      Nat.mod_eq_of_lt (show c.toNat / 262144 < 8 by omega)]

/-! ## The loop -/

theorem isHigh_iff {unit : UInt16} : IsHigh unit ↔ 55296 ≤ unit.toNat ∧ unit.toNat ≤ 56319 :=
  Iff.rfl

theorem isLow_iff {unit : UInt16} : IsLow unit ↔ 56320 ≤ unit.toNat ∧ unit.toNat ≤ 57343 :=
  Iff.rfl

@[simp] theorem unicodeAt_append (read rest : List UInt16) (unit : UInt16) :
    unicodeAt (read ++ unit :: rest) (read.length + 1) = unit.toNat := by
  simp [unicodeAt]

theorem unicodeAt_append_next (read rest : List UInt16) (unit next : UInt16) :
    unicodeAt (read ++ unit :: next :: rest) (read.length + 1 + 1) = next.toNat := by
  simp [unicodeAt]

/-- The bytes of units that are still to read. -/
def remainingBytes (result : Bytes) (units : List UInt16) : Option Bytes :=
  (decode units).bind fun text =>
    if Char.ofNat 0 ∈ text then none else some (result ++ text.flatMap String.utf8EncodeChar)

theorem remainingBytes_of_decode_none {result : Bytes} {units : List UInt16}
    (h : decode units = none) : remainingBytes result units = none := by
  rw [remainingBytes, h]
  rfl

/-- A character before the rest adds its bytes to the result. -/
theorem remainingBytes_cons {result : Bytes} {units rest : List UInt16} {c : Char}
    (h : decode units = (decode rest).map (c :: ·)) (hzero : c ≠ Char.ofNat 0) :
    remainingBytes result units =
      remainingBytes (result ++ String.utf8EncodeChar c) rest := by
  unfold remainingBytes
  rw [h]
  cases decode rest with
  | none => rfl
  | some text => simp [Ne.symm hzero, List.append_assoc]

/-- What the loop has still to read decides what it returns. -/
theorem canonicalUtf8Loop_append (read units : List UInt16) (result : Bytes) :
    canonicalUtf8Loop (read ++ units) (read.length + 1) result = remainingBytes result units := by
  induction reading units generalizing read result with
  | nil =>
    rw [canonicalUtf8Loop, List.append_nil]
    simp [remainingBytes]
  | @scalar unit rest hhigh hlow _ ih =>
    have hposition : read.length + 1 ≤ (read ++ unit :: rest).length := by simp
    rw [canonicalUtf8Loop]
    simp only [if_pos hposition, unicodeAt_append]
    by_cases hzero : unit.toNat = 0
    · rw [if_pos hzero, remainingBytes, decode_scalar hhigh hlow, hzero]
      cases decode rest with
      | none => rfl
      | some text => simp
    · have htoNat := toNat_ofNat_scalar hhigh hlow
      have hnonzero : Char.ofNat unit.toNat ≠ Char.ofNat 0 := by
        intro h
        rw [h] at htoNat
        exact hzero htoNat.symm
      rw [if_neg hzero, if_neg (mt isHigh_iff.mpr hhigh), if_neg (mt isLow_iff.mpr hlow),
        remainingBytes_cons (decode_scalar hhigh hlow) hnonzero, ← utf8Chunk_toNat, htoNat]
      have hnext := ih (read ++ [unit]) (result ++ utf8Chunk unit.toNat)
      simpa using hnext
  | @pair high low rest hhigh hlow _ ih =>
    have hposition : read.length + 1 ≤ (read ++ high :: low :: rest).length := by simp
    have hbefore : read.length + 1 ≠ (read ++ high :: low :: rest).length := by
      simp
    have hnonzero : high.toNat ≠ 0 := by
      have := hhigh.1
      omega
    have htoNat := toNat_ofNat_pair hhigh hlow
    have hscalar : Char.ofNat (pairValue high low) ≠ Char.ofNat 0 := by
      intro h
      rw [h] at htoNat
      unfold pairValue at htoNat
      simp at htoNat
      omega
    rw [canonicalUtf8Loop]
    simp only [if_pos hposition, if_neg hbefore, unicodeAt_append, unicodeAt_append_next,
      if_neg hnonzero]
    rw [if_pos (isHigh_iff.mp hhigh), if_neg (not_not_intro (isLow_iff.mp hlow)),
      remainingBytes_cons (decode_pair hhigh hlow) hscalar, ← utf8Chunk_toNat, htoNat]
    have hnext := ih (read ++ [high, low]) (result ++ utf8Chunk (pairValue high low))
    have hunits : read ++ [high, low] ++ rest = read ++ high :: low :: rest := by simp
    have hstart : (read ++ [high, low]).length + 1 = read.length + 1 + 2 := by simp
    rw [hunits, hstart] at hnext
    exact hnext
  | @loneHigh unit rest hhigh hnext =>
    have hposition : read.length + 1 ≤ (read ++ unit :: rest).length := by simp
    have hnonzero : unit.toNat ≠ 0 := by
      have := hhigh.1
      omega
    rw [remainingBytes_of_decode_none (decode_loneHigh hhigh hnext), canonicalUtf8Loop]
    simp only [if_pos hposition, unicodeAt_append, if_neg hnonzero]
    rw [if_pos (isHigh_iff.mp hhigh)]
    cases rest with
    | nil => simp
    | cons next rest =>
      rw [unicodeAt_append_next, if_pos (mt isLow_iff.mpr (hnext next rfl)), ite_self]
  | @loneLow unit rest hlow =>
    have hposition : read.length + 1 ≤ (read ++ unit :: rest).length := by simp
    have hnonzero : unit.toNat ≠ 0 := by
      have := hlow.1
      omega
    rw [remainingBytes_of_decode_none (decode_loneLow hlow), canonicalUtf8Loop]
    simp only [if_pos hposition, unicodeAt_append, if_neg hnonzero]
    rw [if_neg (mt isHigh_iff.mpr hlow.not_isHigh), if_pos (isLow_iff.mp hlow)]

/-! ## The function and the canonical payload -/

/-- The function decodes the units strictly and refuses U+0000. -/
theorem canonicalUtf8_eq (value : List UInt16) :
    canonicalUtf8 (some value) = remainingBytes [] value :=
  canonicalUtf8Loop_append [] value []

theorem zero_mem_encodeChar_iff {c : Char} : 0 ∈ encodeChar c ↔ c = Char.ofNat 0 := by
  have hvalid : c.toNat < 0xD800 ∨ (0xDFFF < c.toNat ∧ c.toNat < 0x110000) := c.valid
  rw [← Char.toNat_inj]
  show _ ↔ c.toNat = 0
  unfold encodeChar
  by_cases hplane : c.toNat ≤ 0xFFFF
  · rw [if_pos hplane, List.mem_singleton, ← UInt16.toNat_inj, toNat_ofNat_unit (by omega)]
    exact eq_comm
  · rw [if_neg hplane, List.mem_pair, ← UInt16.toNat_inj, ← UInt16.toNat_inj,
      toNat_ofNat_unit (by omega), toNat_ofNat_unit (by omega)]
    show 0 = _ ∨ 0 = _ ↔ _
    omega

/-- A text has U+0000 where its units have it. -/
theorem zero_mem_encode_iff {text : List Char} : 0 ∈ encode text ↔ Char.ofNat 0 ∈ text := by
  unfold encode
  simp only [List.mem_flatMap, zero_mem_encodeChar_iff, exists_eq_right]

/-- The payload of a text without U+0000 is its UTF-8 bytes. -/
theorem encodeString_text_eq_ok {text : String} {bytes : Bytes} :
    encodeString (.text (codePoints text.toList)) = .ok bytes ↔
      Char.ofNat 0 ∉ text.toList ∧ bytes = utf8Encode text := by
  rw [encodeString_eq_ok]
  constructor
  · intro h
    obtain ⟨points, hpoints, other, hother, hzero, hbytes⟩ := h
    have hsame : codePoints text.toList = codePoints other.toList :=
      (Option.some.inj hpoints).trans hother
    rw [String.toList_inj.mp (codePoints_injective hsame)]
    exact ⟨hzero, hbytes⟩
  · intro h
    exact ⟨_, rfl, text, rfl, h.1, h.2⟩

/-- The function returns NULL exactly for a value with U+0000 or a surrogate
outside of a pair, and else the UTF-8 bytes of the text, which are the payload of
the text. -/
theorem canonical_utf8_law (value : List UInt16) :
    (canonicalUtf8 (some value) = none ↔ 0 ∈ value ∨ HasLoneSurrogate value) ∧
    ∀ bytes, canonicalUtf8 (some value) = some bytes ↔
      ∃ text : String, value = encode text.toList ∧ bytes = utf8Encode text ∧
        encodeString (.text (codePoints text.toList)) = .ok bytes := by
  rw [canonicalUtf8_eq, remainingBytes]
  simp only [← decode_eq_some_iff, encodeString_text_eq_ok]
  cases hdecode : decode value with
  | none =>
    have hlone := decode_eq_none_iff.mp hdecode
    simp [hlone]
  | some text =>
    have hpaired : ¬ HasLoneSurrogate value := by
      rw [← decode_eq_none_iff, hdecode]
      simp
    have hzero : 0 ∈ value ↔ Char.ofNat 0 ∈ text := by
      rw [decode_eq_some_iff.mp hdecode, zero_mem_encode_iff]
    simp only [hpaired, or_false, hzero, Option.bind_some, List.nil_append, Option.some.injEq]
    constructor
    · by_cases hmem : Char.ofNat 0 ∈ text <;> simp [hmem]
    · intro bytes
      constructor
      · intro h
        by_cases hmem : Char.ofNat 0 ∈ text
        · simp [hmem] at h
        · rw [if_neg hmem, Option.some.injEq, ← utf8Encode_ofList] at h
          exact ⟨String.ofList text, by simp, h.symm, by simpa using hmem, h.symm⟩
      · intro h
        obtain ⟨decoded, rfl, rfl, hmem, -⟩ := h
        rw [if_neg hmem, ← utf8Encode_ofList, String.ofList_toList]

end ForensicData.SqlServer
