import OnePersonLab.Artifact.ImageCuts

/-!
# The verdict on a PNG

The inspection of a PNG judges its image data as if it stood in one chunk exactly when the
cuts are harmless. Any stream may come in any cut, so that an inspection may turn down a
picture that another cut of the same data would pass.
-/

namespace OnePersonLab.Artifact

open Lib

variable {inflater : Inflater} {limit : Nat} {payloads : List Bytes}

/-! ## The verdict on a PNG -/

/-- What a caller sees: the dimensions or the error code. -/
def verdict {α : Type} (inspected : Except BitmapFault α) : Except BitmapErrorCode α :=
  inspected.mapError BitmapFault.code

theorem verdict_eq_exceeded {α : Type} {inspected : Except BitmapFault α} :
    verdict inspected = .error .decodedSizeExceeded ↔
      ∃ reported, inspected = .error (.decodedSize reported) := by
  cases inspected with
  | ok result => simp [verdict, Except.mapError]
  | error fault => cases fault <;> simp [verdict, Except.mapError, BitmapFault.code]

variable (inflater limit) in
/-- The inspection of a PNG, with its image data in one chunk. -/
def pngInfoUncut (png : PngChunks) : Except BitmapFault (Option (Nat × Nat)) := do
  validatePngIdatStream inflater limit [png.payloads.flatten]
  return some (png.width, png.height)

variable (inflater limit) in
/-- The verdict on a PNG is that on its image data in one chunk, and reports the limit for a
well-formed stream exactly when this is larger. -/
structure JudgedUncut (data : Bytes) : Prop where
  same : ∀ png, pngChunks data = .ok (some png) →
    verdict (pngInfo inflater limit data) = verdict (pngInfoUncut inflater limit png)
  exceeded : ∀ png, pngChunks data = .ok (some png) →
    inflater.WellFormed png.payloads.flatten →
    (verdict (pngInfo inflater limit data) = .error .decodedSizeExceeded ↔
      limit < inflater.size png.payloads.flatten)

theorem validate_exceeded_iff :
    validatePngIdatStream inflater limit payloads = .error (.decodedSize limit) ↔
      Exceeds inflater limit [] payloads := by
  constructor
  · intro failed
    by_contra free
    rw [validatePngIdatStream_outcome.2 free] at failed
    exact settle_ne_decodedSize _ _ failed
  · exact validatePngIdatStream_outcome.1

/-- The verdicts on two cuts of a stream can only differ in the report of the limit. -/
theorem validate_eq_iff {others : List Bytes} (stream : payloads.flatten = others.flatten) :
    validatePngIdatStream inflater limit payloads = validatePngIdatStream inflater limit others ↔
      (Exceeds inflater limit [] payloads ↔ Exceeds inflater limit [] others) := by
  constructor
  · intro same
    rw [← validate_exceeded_iff, ← validate_exceeded_iff, same]
  · intro same
    by_cases exceeds : Exceeds inflater limit [] payloads
    · rw [validatePngIdatStream_outcome.1 exceeds, validatePngIdatStream_outcome.1 (same.1 exceeds)]
    · rw [validatePngIdatStream_outcome.2 exceeds,
        validatePngIdatStream_outcome.2 (mt same.2 exceeds), stream]

theorem pngInfo_eq {data : Bytes} {png : PngChunks} (read : pngChunks data = .ok (some png)) :
    pngInfo inflater limit data =
      (validatePngIdatStream inflater limit png.payloads >>= fun _ =>
        pure (some (png.width, png.height))) := by
  unfold pngInfo
  rw [read]
  rfl

theorem verdict_bind_exceeded {α : Type} {checked : Except BitmapFault Unit} {result : α} :
    verdict (checked >>= fun _ => pure result) = .error .decodedSizeExceeded ↔
      ∃ reported, checked = .error (.decodedSize reported) := by
  rw [verdict_eq_exceeded]
  cases checked with
  | ok done => simp [bind, Except.bind, pure, Except.pure]
  | error fault => simp [bind, Except.bind]

theorem validate_reports :
    (∃ reported, validatePngIdatStream inflater limit payloads = .error (.decodedSize reported)) ↔
      Exceeds inflater limit [] payloads := by
  rw [← validate_exceeded_iff]
  constructor
  · rintro ⟨reported, failed⟩
    by_cases exceeds : Exceeds inflater limit [] payloads
    · exact validatePngIdatStream_outcome.1 exceeds
    · rw [validatePngIdatStream_outcome.2 exceeds] at failed
      exact absurd failed (settle_ne_decodedSize _ _)
  · exact fun failed => ⟨limit, failed⟩

/-- A number in big-endian bytes. -/
def bigEndianBytes : Nat → Nat → Bytes
  | 0, _ => []
  | width + 1, value => bigEndianBytes width (value / 256) ++ [UInt8.ofNat value]

@[simp] theorem length_bigEndianBytes (width value : Nat) :
    (bigEndianBytes width value).length = width := by
  induction width generalizing value with
  | zero => rfl
  | succ width ih => rw [bigEndianBytes, List.length_append, ih]; rfl

theorem bigEndian_bytes {width value : Nat} (fits : value < 256 ^ width) :
    bigEndian (bigEndianBytes width value) = value := by
  induction width generalizing value with
  | zero =>
    rw [Nat.pow_zero] at fits
    exact (Nat.lt_one_iff.1 fits).symm
  | succ width ih =>
    have smaller : value / 256 < 256 ^ width := by
      rw [Nat.pow_succ] at fits
      exact Nat.div_lt_of_lt_mul (by rwa [Nat.mul_comm])
    unfold bigEndian at ih ⊢
    rw [bigEndianBytes, List.foldl_append, ih smaller, List.foldl_cons, List.foldl_nil,
      UInt8.toNat_ofNat']
    omega

/-- A chunk as it is written. -/
def chunkBytes (kind payload : Bytes) : Bytes :=
  bigEndianBytes 4 payload.length ++ (kind ++ (payload ++ bigEndianBytes 4 (crc32 (kind ++ payload))))

/-- A PNG whose image data stands in the given chunks. -/
def pngOf (width height : Nat) (payloads : List Bytes) : Bytes :=
  pngSignature ++ (chunkBytes ihdr (bigEndianBytes 4 width ++ bigEndianBytes 4 height ++
    [8, 6, 0, 0, 0]) ++ ((payloads.map (chunkBytes idat)).flatten ++ chunkBytes iend []))

theorem slice_middle (front middle back : Bytes) :
    slice (front ++ (middle ++ back)) front.length (front.length + middle.length) = middle := by
  rw [slice, ← List.append_assoc, List.take_append_of_le_length (by simp), List.take_of_length_le
    (by simp), List.drop_left]

theorem crc32_lt (data : Bytes) : crc32 data < 256 ^ 4 := UInt32.toNat_lt _

theorem length_chunkBytes {kind payload : Bytes} (named : kind.length = 4) :
    (chunkBytes kind payload).length = 12 + payload.length := by
  simp only [chunkBytes, List.length_append, length_bigEndianBytes, named]
  omega

/-- A written chunk is read back. -/
theorem readChunks_chunkBytes {kind payload : Bytes} (named : kind.length = 4)
    (fits : payload.length < 256 ^ 4) (rest : Bytes) (before : List Bytes) :
    readChunks (chunkBytes kind payload ++ rest) before =
      (if kind = iend then .ok (if kind = idat then before ++ [payload] else before, true)
        else readChunks rest (if kind = idat then before ++ [payload] else before)) := by
  have length : (chunkBytes kind payload).length = 12 + payload.length := length_chunkBytes named
  have size : bigEndian (slice (chunkBytes kind payload ++ rest) 0 4) = payload.length := by
    have read := slice_middle [] (bigEndianBytes 4 payload.length)
      (kind ++ (payload ++ bigEndianBytes 4 (crc32 (kind ++ payload))) ++ rest)
    rw [length_bigEndianBytes] at read
    rw [chunkBytes, List.append_assoc]
    exact (congrArg bigEndian read).trans (bigEndian_bytes fits)
  have kind_ : slice (chunkBytes kind payload ++ rest) 4 8 = kind := by
    have read := slice_middle (bigEndianBytes 4 payload.length) kind
      (payload ++ bigEndianBytes 4 (crc32 (kind ++ payload)) ++ rest)
    rw [length_bigEndianBytes, named] at read
    rw [chunkBytes]
    simpa only [List.append_assoc] using read
  have payload_ : slice (chunkBytes kind payload ++ rest) 8 (8 + payload.length) = payload := by
    have read := slice_middle (bigEndianBytes 4 payload.length ++ kind) payload
      (bigEndianBytes 4 (crc32 (kind ++ payload)) ++ rest)
    rw [List.length_append, length_bigEndianBytes, named] at read
    rw [chunkBytes]
    simpa only [List.append_assoc] using read
  have checksum : slice (chunkBytes kind payload ++ rest) (8 + payload.length)
      (12 + payload.length) = bigEndianBytes 4 (crc32 (kind ++ payload)) := by
    have read := slice_middle (bigEndianBytes 4 payload.length ++ kind ++ payload)
      (bigEndianBytes 4 (crc32 (kind ++ payload))) rest
    rw [List.length_append, List.length_append, length_bigEndianBytes, length_bigEndianBytes,
      named, show 4 + 4 + payload.length + 4 = 12 + payload.length by omega] at read
    rw [chunkBytes]
    simpa only [List.append_assoc] using read
  rw [readChunks, if_neg (by rw [List.length_append]; omega)]
  simp only [size, kind_, payload_, checksum, bigEndian_bytes (crc32_lt _), ne_eq,
    not_true_eq_false, if_false]
  rw [if_neg (by rw [List.length_append]; omega), List.drop_append_of_le_length (by omega),
    ← length, List.drop_length, List.nil_append]

theorem readChunks_written (fits : ∀ payload ∈ payloads, payload.length < 256 ^ 4)
    (before : List Bytes) :
    readChunks ((payloads.map (chunkBytes idat)).flatten ++ chunkBytes iend []) before =
      .ok (before ++ payloads, true) := by
  induction payloads generalizing before with
  | nil =>
    have last := readChunks_chunkBytes (show iend.length = 4 from rfl)
      (show ([] : Bytes).length < 256 ^ 4 by decide) [] before
    rw [List.append_nil] at last
    rw [List.map_nil, List.flatten_nil, List.nil_append, last, if_pos rfl, if_neg (by decide),
      List.append_nil]
  | cons payload rest ih =>
    rw [List.map_cons, List.flatten_cons, List.append_assoc,
      readChunks_chunkBytes rfl (fits payload (List.mem_cons_self ..)), if_neg (by decide),
      if_pos rfl, ih (fun other listed => fits other (List.mem_cons_of_mem _ listed)),
      List.append_assoc]
    rfl

/-- Every cut of every stream is found in a PNG. -/
theorem pngChunks_pngOf {width height : Nat} (wide : width < 256 ^ 4) (high : height < 256 ^ 4)
    (inhabited : payloads ≠ []) (fits : ∀ payload ∈ payloads, payload.length < 256 ^ 4) :
    pngChunks (pngOf width height payloads) = .ok (some ⟨width, height, payloads⟩) := by
  have header : (bigEndianBytes 4 width ++ bigEndianBytes 4 height ++ [8, 6, 0, 0, 0]).length = 13 := by
    simp
  generalize rest : (payloads.map (chunkBytes idat)).flatten ++ chunkBytes iend [] = chunks
  have whole : pngOf width height payloads = pngSignature ++ (bigEndianBytes 4 13 ++ (ihdr ++
      (bigEndianBytes 4 width ++ (bigEndianBytes 4 height ++ ([8, 6, 0, 0, 0] ++
        (bigEndianBytes 4 (crc32 (ihdr ++ (bigEndianBytes 4 width ++ bigEndianBytes 4 height ++
          [8, 6, 0, 0, 0]))) ++ chunks)))))) := by
    rw [pngOf, rest, chunkBytes, header]
    simp only [List.append_assoc]
  have size : slice (pngOf width height payloads) 8 12 = [0, 0, 0, 13] := by
    rw [whole]
    exact slice_middle pngSignature (bigEndianBytes 4 13) _
  have kind : slice (pngOf width height payloads) 12 16 = ihdr := by
    rw [whole, ← List.append_assoc]
    exact slice_middle (pngSignature ++ bigEndianBytes 4 13) ihdr _
  have wide_ : slice (pngOf width height payloads) 16 20 = bigEndianBytes 4 width := by
    rw [whole, ← List.append_assoc, ← List.append_assoc]
    have read := slice_middle (pngSignature ++ bigEndianBytes 4 13 ++ ihdr) (bigEndianBytes 4 width)
    rw [length_bigEndianBytes] at read
    exact read _
  have high_ : slice (pngOf width height payloads) 20 24 = bigEndianBytes 4 height := by
    rw [whole, ← List.append_assoc, ← List.append_assoc, ← List.append_assoc]
    have read := slice_middle (pngSignature ++ bigEndianBytes 4 13 ++ ihdr ++ bigEndianBytes 4 width)
      (bigEndianBytes 4 height)
    rw [List.length_append, length_bigEndianBytes, length_bigEndianBytes] at read
    exact read _
  have first : (pngOf width height payloads).drop 8 = chunkBytes ihdr
      (bigEndianBytes 4 width ++ bigEndianBytes 4 height ++ [8, 6, 0, 0, 0]) ++ chunks := by
    rw [pngOf, rest]
    exact List.drop_left' rfl
  have long : ¬ (pngOf width height payloads).length < 33 := by
    have length := congrArg List.length first
    rw [List.length_drop, List.length_append, length_chunkBytes rfl, header] at length
    omega
  rw [pngChunks, if_neg (by rw [not_not]; exact List.prefix_append _ _),
    if_neg (by rw [size, kind]; simpa using long), first,
    readChunks_chunkBytes rfl (by rw [header]; decide), if_neg (by decide), if_neg (by decide), ← rest,
    readChunks_written fits]
  simp only [List.nil_append, wide_, high_, bigEndian_bytes wide, bigEndian_bytes high]
  exact if_neg (by simpa using inhabited)

/-! ## A stream at the limit -/

/-- How many bytes the input shares with the stream from its start. -/
def agreement : Bytes → Bytes → Nat
  | expected :: stream, byte :: input => if expected = byte then agreement stream input + 1 else 0
  | _, _ => 0

theorem agreement_append (stream input next : Bytes) :
    agreement stream input ≤ stream.length ∧ agreement stream input ≤ input.length ∧
      agreement stream input ≤ agreement stream (input ++ next) ∧
      (agreement stream input < input.length →
        agreement stream (input ++ next) = agreement stream input) := by
  induction stream generalizing input with
  | nil => simp [agreement]
  | cons expected stream ih =>
    cases input with
    | nil => simp [agreement]
    | cons byte input =>
      obtain ⟨short, within, grows, stays⟩ := ih input
      rw [List.cons_append, agreement, agreement]
      by_cases same : expected = byte
      · simp only [if_pos same, List.length_cons]
        refine ⟨by omega, by omega, by omega, fun less => ?_⟩
        rw [stays (by omega)]
      · simp [if_neg same]

/-- The letter `a` in one stored block, between the header and the checksum. -/
def storedStream : Bytes :=
  [0x78, 0x01, 0x01, 0x01, 0x00, 0xFE, 0xFF, 0x61, 0x00, 0x62, 0x00, 0x62]

def storedOutput (input : Bytes) : Bytes :=
  if 8 ≤ agreement storedStream input then [0x61] else []

def storedStatus (input : Bytes) : StreamStatus :=
  if agreement storedStream input = 12 then .ended 12
  else if agreement storedStream input = input.length then .more
  else .faulty "Error -3 while decompressing data: incorrect data check"

theorem storedOutput_prefix (input next : Bytes) :
    storedOutput input <+: storedOutput (input ++ next) := by
  have grows := (agreement_append storedStream input next).2.2.1
  unfold storedOutput
  by_cases seen : 8 ≤ agreement storedStream input
  · refine ⟨[], ?_⟩
    rw [if_pos seen, if_pos (seen.trans grows), List.append_nil]
  · rw [if_neg seen]
    exact List.nil_prefix

theorem stored_settled (input next : Bytes) (known : storedStatus input ≠ .more) :
    storedOutput (input ++ next) = storedOutput input ∧
      storedStatus (input ++ next) = storedStatus input := by
  obtain ⟨-, within, grows, stays⟩ := agreement_append storedStream input next
  have short : agreement storedStream (input ++ next) ≤ 12 :=
    (agreement_append storedStream (input ++ next) []).1
  have same : agreement storedStream (input ++ next) = agreement storedStream input := by
    by_cases whole : agreement storedStream input = 12
    · omega
    · by_cases open_ : agreement storedStream input = input.length
      · rw [storedStatus, if_neg whole, if_pos open_] at known
        exact absurd rfl known
      · exact stays (by omega)
  refine ⟨by rw [storedOutput, storedOutput, same], ?_⟩
  unfold storedStatus at known ⊢
  rw [same]
  by_cases whole : agreement storedStream input = 12
  · rw [if_pos whole, if_pos whole]
  · rw [if_neg whole] at known ⊢
    by_cases open_ : agreement storedStream input = input.length
    · rw [if_pos open_] at known
      exact absurd rfl known
    · rw [if_neg whole, if_neg open_, if_neg]
      rw [List.length_append]
      omega

theorem storedStatus_used {input : Bytes} {used : Nat} (ended : storedStatus input = .ended used) :
    used ≤ input.length := by
  have within := (agreement_append storedStream input []).2.1
  unfold storedStatus at ended
  split_ifs at ended with whole open_
  · cases ended
    omega

/-- An inflater that knows this one stream. -/
def storedInflater : Inflater where
  output := storedOutput
  status := storedStatus
  taken _ _ _ _ := 0
  output_nil := rfl
  status_nil := rfl
  output_prefix := storedOutput_prefix
  settled := stored_settled
  used_le _ _ := storedStatus_used
  leaves_tail _ _ _ _ _ inhabited := List.length_pos_of_ne_nil inhabited

/-- The two chunks of the stream when it is cut before its checksum. -/
def cutStream : List Bytes := [storedStream.take 8, storedStream.drop 8]

theorem cutStream_exceeds : Exceeds storedInflater 1 [] cutStream := by
  refine (exceeds_iff_border Inflater.not_faulty_nil (by decide)).2
    ⟨[storedStream.take 8], [storedStream.drop 8], rfl, by decide, ?_, by decide⟩
  rintro ⟨error, faulty⟩
  have open_ : storedInflater.status ([] ++ [storedStream.take 8].flatten) = .more := by decide
  rw [open_] at faulty
  cases faulty

end OnePersonLab.Artifact
