import OnePersonLab.Lib.Outcome

/-!
# The structure of a PNG

A PNG is read chunk by chunk. The data of its image chunks is one compressed stream, which
is inflated piece by piece and thrown away: it has to end with the last chunk and must not
inflate to more bytes than the limit.
-/

namespace OnePersonLab.Artifact

abbrev Bytes := List UInt8

/-! ## Faults -/

inductive BitmapFault where
  | noHeader
  | truncatedChunk
  | checksum (kind : Bytes)
  | missingChunks
  | decodedSize (limit : Nat)
  | unfinished
  | inflation (error : String)
  deriving DecidableEq, Repr

inductive BitmapErrorCode where
  | structureInvalid
  | decodedSizeExceeded
  deriving DecidableEq, Repr

namespace BitmapErrorCode

def text : BitmapErrorCode → String
  | .structureInvalid => "bitmap_structure_invalid"
  | .decodedSizeExceeded => "bitmap_decoded_size_exceeded"

end BitmapErrorCode

def hexDigit (value : Nat) : Char :=
  if value < 10 then Char.ofNat (48 + value) else Char.ofNat (87 + value)

/-- A byte within `repr(...)`, between the given quotes. -/
def byteRepr (quote : Char) (byte : UInt8) : List Char :=
  let value := byte.toNat
  if value = 9 then ['\\', 't']
  else if value = 10 then ['\\', 'n']
  else if value = 13 then ['\\', 'r']
  else if value = 92 ∨ value = quote.toNat then ['\\', Char.ofNat value]
  else if 32 ≤ value ∧ value < 127 then [Char.ofNat value]
  else ['\\', 'x', hexDigit (value / 16), hexDigit (value % 16)]

/-- `repr(...)`: in double quotes if there are single ones and no double ones. -/
def bytesRepr (data : Bytes) : String :=
  let quote := if (39 : UInt8) ∈ data ∧ (34 : UInt8) ∉ data then Char.ofNat 34 else Char.ofNat 39
  String.ofList ('b' :: quote :: data.flatMap (byteRepr quote) ++ [quote])

namespace BitmapFault

def code : BitmapFault → BitmapErrorCode
  | .decodedSize _ => .decodedSizeExceeded
  | _ => .structureInvalid

def detail : BitmapFault → String
  | .noHeader => "PNG has no valid IHDR chunk"
  | .truncatedChunk => "PNG contains a truncated chunk"
  | .checksum kind => s!"PNG {bytesRepr kind} chunk CRC mismatch"
  | .missingChunks => "PNG must contain IDAT and IEND chunks"
  | .decodedSize limit => s!"PNG decompressed payload exceeds {limit} bytes"
  | .unfinished => "PNG IDAT stream is incomplete or has trailing data"
  | .inflation error => s!"PNG IDAT payload is invalid: {error}"

end BitmapFault

/-! ## Inflation -/

/-- What the inflater knows of a stream from the input so far. -/
inductive StreamStatus where
  | more
  | ended (used : Nat)
  | faulty (error : String)
  deriving DecidableEq, Repr

/-- An incremental inflater. What it has inflated and what it knows of the stream depend only on
the whole input so far, and stay as they are once the stream has ended or is known to be faulty.
Where a bound on the output stops it, it leaves a part of the input to be passed again. -/
structure Inflater where
  output : Bytes → Bytes
  status : Bytes → StreamStatus
  taken : Bytes → Nat → Bytes → Nat → Nat
  output_nil : output [] = []
  status_nil : status [] = .more
  output_prefix : ∀ input next, output input <+: output (input ++ next)
  settled : ∀ input next, status input ≠ .more →
    output (input ++ next) = output input ∧ status (input ++ next) = status input
  used_le : ∀ input used, status input = .ended used → used ≤ input.length
  leaves_tail : ∀ input given data bound, given + bound < (output (input ++ data)).length →
    data ≠ [] → taken input given data bound < data.length

/-- `zlib.decompressobj()` in use: the input it has taken and the bytes it has given. -/
structure Decompressor where
  input : Bytes
  given : Nat

namespace Decompressor

def fresh : Decompressor := ⟨[], 0⟩

variable (inflater : Inflater) (decompressor : Decompressor)

/-- `decompress(data, max_length)` with `unconsumed_tail` after it, or the error it raises. -/
def decompress (data : Bytes) (bound : Nat) : Except String (Bytes × Decompressor × Bytes) :=
  let input := decompressor.input ++ data
  let available := (inflater.output input).drop decompressor.given
  if bound < available.length then
    let taken := inflater.taken decompressor.input decompressor.given data bound
    .ok (available.take bound, ⟨decompressor.input ++ data.take taken, decompressor.given + bound⟩,
      data.drop taken)
  else
    match inflater.status input with
    | .faulty error => .error error
    | _ => .ok (available, ⟨input, decompressor.given + available.length⟩, [])

/-- `eof`. -/
def eof : Bool :=
  match inflater.status decompressor.input with
  | .ended _ => true
  | _ => false

/-- `unused_data`. -/
def unusedData : Bytes :=
  match inflater.status decompressor.input with
  | .ended used => decompressor.input.drop used
  | _ => []

end Decompressor

def pngDecompressChunkBytes : Nat := 1024 * 1024

section

variable (inflater : Inflater) (limit : Nat)

/-- The loop over one payload. Every round that leaves a tail gives at least one byte, so that
`limit + 1` rounds are enough. -/
def inflatePending : Nat → Decompressor → Nat → Bytes → Except BitmapFault (Decompressor × Nat)
  | _, decompressor, decoded, [] => .ok (decompressor, decoded)
  | 0, _, _, _ :: _ => .error (.decodedSize limit)
  | fuel + 1, decompressor, decoded, byte :: rest =>
    if limit ≤ decoded then .error (.decodedSize limit)
    else
      match decompressor.decompress inflater (byte :: rest)
          (min pngDecompressChunkBytes (limit - decoded + 1)) with
      | .error error => .error (.inflation error)
      | .ok (chunk, next, tail) =>
        if limit < decoded + chunk.length then .error (.decodedSize limit)
        else inflatePending fuel next (decoded + chunk.length) tail

def inflatePayloads : Decompressor → Nat → List Bytes → Except BitmapFault Decompressor
  | decompressor, _, [] => .ok decompressor
  | decompressor, decoded, payload :: payloads => do
    let (next, decoded) ← inflatePending inflater limit (limit + 1) decompressor decoded payload
    inflatePayloads next decoded payloads

def validatePngIdatStream (payloads : List Bytes) : Except BitmapFault Unit := do
  let decompressor ← inflatePayloads inflater limit .fresh 0 payloads
  if ¬ decompressor.eof inflater ∨ decompressor.unusedData inflater ≠ [] then
    .error .unfinished
  else .ok ()

end

/-! ## Chunks -/

/-- `int.from_bytes(..., "big")`. -/
def bigEndian (data : Bytes) : Nat :=
  data.foldl (fun value byte => value * 256 + byte.toNat) 0

/-- Eight steps of the division by the reflected polynomial. -/
def crcByte (crc : UInt32) : UInt32 :=
  (List.range 8).foldl (fun value _ =>
    if value &&& 1 = 1 then (value >>> 1) ^^^ 0xEDB88320 else value >>> 1) crc

/-- `zlib.crc32(...)`. -/
def crc32 (data : Bytes) : Nat :=
  (data.foldl (fun crc byte => crcByte (crc ^^^ byte.toUInt32)) 0xFFFFFFFF ^^^ 0xFFFFFFFF).toNat

def pngSignature : Bytes := [0x89, 0x50, 0x4E, 0x47, 0x0D, 0x0A, 0x1A, 0x0A]

def ihdr : Bytes := [0x49, 0x48, 0x44, 0x52]
def idat : Bytes := [0x49, 0x44, 0x41, 0x54]
def iend : Bytes := [0x49, 0x45, 0x4E, 0x44]

/-- `data[start:stop]`. -/
def slice (data : Bytes) (start stop : Nat) : Bytes := (data.take stop).drop start

/-- What is left to read after a chunk that is not the end: the loop on the bytes from `offset`
on, which gives the payloads of the image chunks up to the end chunk and whether there is one. -/
def readChunks (rest : Bytes) (payloads : List Bytes) : Except BitmapFault (List Bytes × Bool) :=
  if rest.length < 12 then .ok (payloads, false)
  else
    let chunkSize := bigEndian (slice rest 0 4)
    let chunkEnd := 12 + chunkSize
    if rest.length < chunkEnd then .error .truncatedChunk
    else
      let kind := slice rest 4 8
      let payload := slice rest 8 (8 + chunkSize)
      if bigEndian (slice rest (8 + chunkSize) chunkEnd) ≠ crc32 (kind ++ payload) then
        .error (.checksum kind)
      else
        let payloads := if kind = idat then payloads ++ [payload] else payloads
        if kind = iend then .ok (payloads, true) else readChunks (rest.drop chunkEnd) payloads
termination_by rest.length
decreasing_by
  simp only [List.length_drop]
  omega

/-- A PNG as far as the inspection reads it: its dimensions and its image data. -/
structure PngChunks where
  width : Nat
  height : Nat
  payloads : List Bytes
  deriving DecidableEq, Repr

/-- Everything before the inflation; `none` for data without the signature. -/
def pngChunks (data : Bytes) : Except BitmapFault (Option PngChunks) :=
  if ¬ pngSignature <+: data then .ok none
  else if data.length < 33 ∨ slice data 8 12 ≠ [0, 0, 0, 13] ∨ slice data 12 16 ≠ ihdr then
    .error .noHeader
  else do
    let (payloads, sawIend) ← readChunks (data.drop 8) []
    -- `saw_idat` says that a payload has been appended.
    if payloads = [] ∨ sawIend = false then .error .missingChunks
    else .ok (some ⟨bigEndian (slice data 16 20), bigEndian (slice data 20 24), payloads⟩)

/-- `_png_info`. -/
def pngInfo (inflater : Inflater) (limit : Nat) (data : Bytes) :
    Except BitmapFault (Option (Nat × Nat)) := do
  let some png ← pngChunks data | return none
  validatePngIdatStream inflater limit png.payloads
  return some (png.width, png.height)

end OnePersonLab.Artifact
