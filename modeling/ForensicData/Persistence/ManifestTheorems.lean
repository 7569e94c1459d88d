/-
ForensicData.Persistence.ManifestTheorems — the streamed manifest is the
published one.

The bytes a reader updates its digest with, row after row, are the canonical
JSON text of the manifest of the rows (`digest_streamOf`). A stream is accepted
just when its rows are numbered from zero, belong to the result and carry
digests (`foldlM_manifestStep_eq_ok`).
-/
import ForensicData.Canonical.PayloadTheorems
import ForensicData.Persistence.DiffReading

namespace ForensicData.Persistence

open ForensicData.Canonical
open ForensicData.Comparison
open ForensicData.Lib
open ForensicData.Reporting
open ForensicData.Result

/-! ## Text as bytes -/

theorem utf8Encode_ofList (text : List Char) :
    utf8Encode (String.ofList text) = text.flatMap String.utf8EncodeChar := by
  simp [utf8Encode, List.utf8Encode]

/-- An ASCII text has the same bytes in both encodings. -/
theorem utf8Encode_ascii {text : List Char} (h : IsAscii text) :
    utf8Encode (String.ofList text) = asciiBytes text := by
  rw [utf8Encode_ofList]
  induction text with
  | nil => rfl
  | cons c text ih =>
    have hc : c.val.toNat ≤ 127 := by
      have := h c List.mem_cons_self
      simp only [Char.toNat] at this
      omega
    have hchar : String.utf8EncodeChar c = [UInt8.ofNat c.toNat] := by
      simp only [String.utf8EncodeChar, hc, if_true]
      rfl
    rw [List.flatMap_cons, hchar, ih fun d hd => h d (List.mem_cons_of_mem _ hd)]
    rfl

theorem asciiBytes_append (a b : List Char) : asciiBytes (a ++ b) = asciiBytes a ++ asciiBytes b := by
  simp [asciiBytes]

theorem isAscii_hexText (bytes : Bytes) : IsAscii (hexText bytes) :=
  isAscii_of_digits fun _ hc => isDigitOf_of_mem_hexText hc

/-- A digest survives its hexadecimal text. -/
@[simp] theorem fromHex_hexDigest (sha256 : Sha256) (message : Bytes) :
    fromHex (hexDigest sha256 message) = sha256.digest message := by
  simp [fromHex, hexDigest]

theorem isDigitOf_of_isLowerHex {c : Char} (h : isLowerHex c = true) : isDigitOf 16 c = true := by
  simp only [isLowerHex, Bool.or_eq_true, Bool.and_eq_true, decide_eq_true_eq, Char.le_def,
    UInt32.le_iff_toNat_le] at h
  change (48 ≤ c.toNat ∧ c.toNat ≤ 57) ∨ (97 ≤ c.toNat ∧ c.toNat ≤ 102) at h
  rw [isDigitOf, decide_eq_true_eq]
  unfold digitValue
  rcases h with h | h
  · rw [if_pos h]
    omega
  · rw [if_neg (by omega), if_pos h]
    omega

/-- So does a hexadecimal text its bytes. -/
@[simp] theorem toHex_fromHex (digest : Sha256Hex) : toHex (fromHex digest) = digest.1 := by
  have h := digest.2
  simp only [isSha256Hex, Bool.and_eq_true, beq_iff_eq] at h
  have hdigits : ∀ c ∈ digest.1.toList, isDigitOf 16 c = true := by
    intro c hc
    exact isDigitOf_of_isLowerHex (List.all_eq_true.mp h.2 c hc)
  rw [toHex, fromHex, hexText_hexBytes hdigits (by rw [h.1]), String.ofList_toList]

@[simp] theorem length_fromHex_semanticDigestHex (sha256 : Sha256) (value : Json) :
    (fromHex (semanticDigestHex sha256 value)).length = 32 := by
  rw [semanticDigestHex, fromHex_hexDigest, sha256.length_digest]

/-! ## The text of a manifest -/

/-- A digest as an item of the manifest. -/
def manifestItem (digest : Bytes) : List Char := '"' :: (hexText digest ++ ['"'])

/-- The items with commas between them. -/
def manifestItems (digests : List Bytes) : List Char := [','].intercalate (digests.map manifestItem)

theorem intercalate_snoc {α : Type} (separator last : List α) (items : List (List α)) :
    separator.intercalate (items ++ [last])
      = separator.intercalate items ++ (if items = [] then [] else separator) ++ last := by
  induction items with
  | nil => simp
  | cons item items ih =>
    rw [List.cons_append, List.intercalate_cons_of_ne_nil (by simp), ih]
    cases items with
    | nil => simp
    | cons other items => simp [List.intercalate_cons_cons]

theorem manifestItems_snoc (digests : List Bytes) (digest : Bytes) :
    manifestItems (digests ++ [digest])
      = manifestItems digests ++ (if digests = [] then [] else [',']) ++ manifestItem digest := by
  rw [manifestItems, List.map_append, List.map_singleton, intercalate_snoc]
  simp [manifestItems]

/-- No character of a hexadecimal text is escaped. -/
theorem flatMap_escapeChar_hexText (digest : Bytes) :
    (hexText digest).flatMap Json.escapeChar = hexText digest := by
  have hchar : ∀ c, isDigitOf 16 c = true → Json.escapeChar c = [c] := by
    intro c hc
    rw [isDigitOf, decide_eq_true_eq] at hc
    unfold digitValue at hc
    have hrange : (48 ≤ c.toNat ∧ c.toNat ≤ 57) ∨ (97 ≤ c.toNat ∧ c.toNat ≤ 102) := by
      split at hc
      · exact .inl ‹_›
      · split at hc
        · exact .inr ‹_›
        · omega
    have hquote : c ≠ '"' := by
      rintro rfl
      simp at hrange
    have hslash : c ≠ '\\' := by
      rintro rfl
      simp at hrange
    have hcontrol : ¬ c.toNat < 32 := by omega
    rw [Json.escapeChar, if_neg hquote, if_neg hslash, if_neg hcontrol]
  have hall : ∀ c ∈ hexText digest, Json.escapeChar c = [c] :=
    fun c hc => hchar c (isDigitOf_of_mem_hexText hc)
  generalize hexText digest = text at hall
  induction text with
  | nil => rfl
  | cons c text ih =>
    rw [List.forall_mem_cons] at hall
    rw [List.flatMap_cons, hall.1, ih hall.2, List.singleton_append]

theorem render_digest (digest : Bytes) :
    (Json.string (toHex digest)).render = manifestItem digest := by
  rw [Json.render, Json.renderString, Json.escaped, toHex, String.toList_ofList,
    flatMap_escapeChar_hexText]
  rfl

theorem render_digests (digests : List Bytes) :
    (Json.array (digests.map fun digest => .string (toHex digest))).render
      = '[' :: (manifestItems digests ++ [']']) := by
  cases digests with
  | nil => rfl
  | cons first rest =>
    rw [List.map_cons, Json.render, render_digest, manifestItems, List.map_cons]
    congr 1
    induction rest generalizing first with
    | nil => simp [Json.renderItems]
    | cons second rest ih =>
      rw [List.map_cons, Json.renderItems, render_digest, ih second, List.map_cons,
        List.intercalate_cons_cons]
      simp

/-- The canonical text of a manifest. -/
theorem render_evidenceManifest (digests : List Bytes) :
    (evidenceManifest digests).render
      = "\x7b\"manifest_version\":1,\"record_digests\":[".toList ++ manifestItems digests
        ++ "]\x7d".toList := by
  rw [evidenceManifest, Json.render, Json.renderMember, Json.renderMembers, Json.renderMember,
    Json.renderMembers, render_digests]
  have hversion : (Json.int 1).render = ['1'] := by decide
  have hname : Json.renderString "manifest_version" = "\"manifest_version\"".toList := by decide
  have hname' : Json.renderString "record_digests" = "\"record_digests\"".toList := by decide
  rw [hversion, hname, hname']
  simp

theorem isAscii_manifestItems (digests : List Bytes) : IsAscii (manifestItems digests) := by
  induction digests using List.reverseRecOn with
  | nil => exact isAscii_nil
  | append_singleton digests digest ih =>
    rw [manifestItems_snoc]
    refine (ih.append ?_).append ?_
    · split
      · exact isAscii_nil
      · exact isAscii_nil.cons (by decide)
    · exact ((isAscii_hexText digest).append (isAscii_nil.cons (by decide))).cons (by decide)

/-- The published manifest digest is that of the text. -/
theorem evidenceManifestDigest_eq (sha256 : Sha256) (digests : List Bytes) :
    evidenceManifestDigest sha256 digests
      = sha256.digest (asciiBytes "\x7b\"manifest_version\":1,\"record_digests\":[".toList
        ++ asciiBytes (manifestItems digests) ++ asciiBytes "]\x7d".toList) := by
  have hopen : IsAscii "\x7b\"manifest_version\":1,\"record_digests\":[".toList :=
    isAscii_of_all (by decide +kernel)
  have hclose : IsAscii "]\x7d".toList :=
    isAscii_of_all (by decide +kernel)
  rw [evidenceManifestDigest, semanticDigestHex, fromHex_hexDigest, canonicalJson,
    render_evidenceManifest, utf8Encode_ascii ((hopen.append (isAscii_manifestItems _)).append hclose),
    asciiBytes_append, asciiBytes_append]

/-! ## The stream -/

/-- The stream after some rows. -/
def streamOf (rows : List AnomalyRow) : ManifestStream where
  digested := asciiBytes "\x7b\"manifest_version\":1,\"record_digests\":[".toList
    ++ asciiBytes (manifestItems (rows.map AnomalyRow.recordDigest))
  retainedRecords := rows.length
  retainedBytes := (rows.map AnomalyRow.payloadByteLength).sum

/-- The streamed digest of some rows is their published manifest digest. -/
theorem digest_streamOf (sha256 : Sha256) (rows : List AnomalyRow) :
    (streamOf rows).digest sha256
      = evidenceManifestDigest sha256 (rows.map AnomalyRow.recordDigest) := by
  rw [evidenceManifestDigest_eq]
  rfl

/-- What the loop checks of the row at a position. -/
structure StreamsAt (operationId : Uuid) (position : ℕ) (row : AnomalyRow) : Prop where
  sequence : row.anomalySequence = position
  payload_pos : row.payloadByteLength ≠ 0
  digest_length : row.recordDigest.length = 32
  operation : row.endOperationId = operationId

theorem manifestStep_eq_ok {operationId : Uuid} {done : List AnomalyRow} {row : AnomalyRow}
    {stream : ManifestStream} :
    manifestStep operationId (streamOf done) row = .ok stream ↔
      StreamsAt operationId done.length row ∧ stream = streamOf (done ++ [row]) := by
  have hnext : (⟨(streamOf done).digested
        ++ (if (streamOf done).retainedRecords = 0 then [] else asciiBytes [','])
        ++ asciiBytes ['"'] ++ asciiBytes (hexText row.recordDigest) ++ asciiBytes ['"'],
      (streamOf done).retainedRecords + 1, (streamOf done).retainedBytes + row.payloadByteLength⟩ :
        ManifestStream) = streamOf (done ++ [row]) := by
    simp only [streamOf, List.map_append, List.map_singleton, manifestItems_snoc,
      asciiBytes_append, manifestItem, List.length_append, List.length_singleton,
      List.sum_append, List.sum_singleton, List.length_eq_zero_iff, List.map_eq_nil_iff]
    by_cases hdone : done = []
    · simp [hdone, asciiBytes]
    · simp [hdone, asciiBytes]
  simp only [manifestStep, bind_eq_ok, refuseIf_eq_ok, hnext, Except.ok.injEq, not_not]
  constructor
  · rintro ⟨-, hsequence, -, hpayload, -, hlength, -, hoperation, rfl⟩
    exact ⟨⟨hsequence, hpayload, hlength, hoperation⟩, rfl⟩
  · rintro ⟨h, rfl⟩
    exact ⟨(), h.sequence, (), h.payload_pos, (), h.digest_length, (), h.operation, rfl⟩

/-- Rows are streamed one after another, from a position on. -/
def StreamsFrom (operationId : Uuid) : ℕ → List AnomalyRow → Prop
  | _, [] => True
  | position, row :: rows =>
    StreamsAt operationId position row ∧ StreamsFrom operationId (position + 1) rows

theorem foldlM_manifestStep_eq_ok {operationId : Uuid} {done rows : List AnomalyRow}
    {stream : ManifestStream} :
    rows.foldlM (manifestStep operationId) (streamOf done) = .ok stream ↔
      StreamsFrom operationId done.length rows ∧ stream = streamOf (done ++ rows) := by
  induction rows generalizing done with
  | nil => simp [StreamsFrom, eq_comm, pure, Except.pure]
  | cons row rows ih =>
    rw [List.foldlM_cons, bind_eq_ok]
    constructor
    · rintro ⟨next, hstep, hrest⟩
      rw [manifestStep_eq_ok] at hstep
      obtain ⟨hrow, rfl⟩ := hstep
      rw [ih, List.length_append, List.length_singleton, List.append_assoc,
        List.singleton_append] at hrest
      exact ⟨⟨hrow, hrest.1⟩, hrest.2⟩
    · rintro ⟨⟨hrow, hrows⟩, rfl⟩
      refine ⟨_, manifestStep_eq_ok.mpr ⟨hrow, rfl⟩, ih.mpr ⟨?_, by simp⟩⟩
      rwa [List.length_append, List.length_singleton]

/-- From the first row on. -/
theorem streamed_eq_ok {operationId : Uuid} {rows : List AnomalyRow} {stream : ManifestStream} :
    rows.foldlM (manifestStep operationId) ManifestStream.start = .ok stream ↔
      StreamsFrom operationId 0 rows ∧ stream = streamOf rows := by
  have hstart : ManifestStream.start = streamOf [] := by
    simp [ManifestStream.start, streamOf, manifestItems, asciiBytes]
  rw [hstart, foldlM_manifestStep_eq_ok, List.nil_append, List.length_nil]

/-! ## The summary -/

/-- The stored list of a result closes to its manifest. -/
structure ClosesToManifest (sha256 : Sha256) (store : DiffStore) (parent : AnomalyParent)
    (coverage : EvidenceCoverage) (manifestDigest : Option Bytes) : Prop where
  streams : StreamsFrom parent.operationId 0 (selectAnomalyRows store parent)
  records_eq : (selectAnomalyRows store parent).length = coverage.retainedRecords
  bytes_eq : ((selectAnomalyRows store parent).map AnomalyRow.payloadByteLength).sum
    = coverage.retainedBytes
  digest_eq : ∀ digest ∈ manifestDigest, digest = evidenceManifestDigest sha256
    ((selectAnomalyRows store parent).map AnomalyRow.recordDigest)
  historical : manifestDigest = none → selectAnomalyRows store parent = []

theorem length_evidenceManifestDigest (sha256 : Sha256) (digests : List Bytes) :
    (evidenceManifestDigest sha256 digests).length = 32 :=
  length_fromHex_semanticDigestHex sha256 _

theorem requireManifest_eq_ok {sha256 : Sha256} {rows : List AnomalyRow}
    {manifestDigest : Option Bytes} :
    requireManifest sha256 (streamOf rows) manifestDigest = .ok () ↔
      (∀ digest ∈ manifestDigest,
        digest = evidenceManifestDigest sha256 (rows.map AnomalyRow.recordDigest)) ∧
      (manifestDigest = none → rows = []) := by
  cases manifestDigest with
  | none => simp [requireManifest, streamOf]
  | some digest =>
    simp only [requireManifest, bind_unit_eq_ok, refuseIf_eq_ok, not_not, digest_streamOf,
      Option.mem_def, Option.some.injEq, reduceCtorEq, false_implies, and_true]
    constructor
    · rintro ⟨-, hdigest⟩ other rfl
      exact hdigest.symm
    · intro h
      have hdigest := h digest rfl
      rw [hdigest]
      exact ⟨length_evidenceManifestDigest _ _, rfl⟩

theorem anomalyManifestSummary_eq_ok {sha256 : Sha256} {store : DiffStore} {parent : AnomalyParent}
    {coverage : EvidenceCoverage} {manifestDigest : Option Bytes} :
    anomalyManifestSummary sha256 store parent coverage manifestDigest = .ok () ↔
      requireAttemptAnomalyParentClosure store parent.runId parent.attemptId = .ok () ∧
      requireExactResultParent store parent = .ok () ∧
      ClosesToManifest sha256 store parent coverage manifestDigest := by
  simp only [anomalyManifestSummary]
  rw [bind_unit_eq_ok, bind_unit_eq_ok, bind_eq_ok]
  refine and_congr_right fun _ => and_congr_right fun _ => ?_
  constructor
  · rintro ⟨stream, hstream, h⟩
    obtain ⟨hstreams, hstream⟩ := streamed_eq_ok.mp hstream
    subst hstream
    rw [bind_unit_eq_ok, refuseIf_eq_ok, requireManifest_eq_ok, not_or, not_not, not_not] at h
    obtain ⟨⟨hrecords, hbytes⟩, hdigest, hhistorical⟩ := h
    exact ⟨hstreams, hrecords, hbytes, hdigest, hhistorical⟩
  · intro h
    refine ⟨_, streamed_eq_ok.mpr ⟨h.streams, rfl⟩, ?_⟩
    rw [bind_unit_eq_ok, refuseIf_eq_ok, requireManifest_eq_ok, not_or, not_not, not_not]
    exact ⟨⟨h.records_eq, h.bytes_eq⟩, h.digest_eq, h.historical⟩

end ForensicData.Persistence
