import Mathlib.Algebra.Order.Group.Nat
import Mathlib.Data.List.Basic
import OnePersonLab.Artifact.BitmapInspection

/-!
# Image data in several chunks

The verdict on a PNG depends on how its image data is cut into chunks. The inflation is
stopped at the limit before the inspection knows whether there is more to come: at a border of
chunks at which a stream of exactly the allowed size has been inflated, and in the chunk with
the fault of a faulty stream that is one byte too long.
-/

namespace OnePersonLab.Artifact

open Lib

namespace Inflater

variable (inflater : Inflater)

/-- The number of bytes that the input inflates to. -/
def size (input : Bytes) : Nat := (inflater.output input).length

def Faulty (input : Bytes) : Prop := ∃ error, inflater.status input = .faulty error

/-- The stream ends, and with the last of its bytes. -/
def WellFormed (stream : Bytes) : Prop := inflater.status stream = .ended stream.length

variable {inflater}

theorem size_nil : inflater.size [] = 0 := by
  rw [size, inflater.output_nil, List.length_nil]

theorem not_faulty_nil : ¬ inflater.Faulty [] := by
  rintro ⟨error, faulty⟩
  rw [inflater.status_nil] at faulty
  cases faulty

theorem size_le_append (input next : Bytes) : inflater.size input ≤ inflater.size (input ++ next) :=
  (inflater.output_prefix input next).length_le

theorem Faulty.append {input : Bytes} (faulty : inflater.Faulty input) (next : Bytes) :
    inflater.Faulty (input ++ next) ∧ inflater.size (input ++ next) = inflater.size input := by
  obtain ⟨error, faulty⟩ := faulty
  obtain ⟨output, status⟩ := inflater.settled input next (by
    rw [faulty]
    rintro ⟨⟩)
  refine ⟨⟨error, status.trans faulty⟩, ?_⟩
  rw [size, output, size]

theorem WellFormed.not_faulty {stream : Bytes} (formed : inflater.WellFormed stream) :
    ¬ inflater.Faulty stream := by
  rintro ⟨error, faulty⟩
  rw [Inflater.WellFormed, faulty] at formed
  cases formed

/-- A stream with a fault has a first chunk with it. -/
theorem exists_fault {input : Bytes} {payloads : List Bytes} (sound : ¬ inflater.Faulty input)
    (faulty : inflater.Faulty (input ++ payloads.flatten)) :
    ∃ front payload back, payloads = front ++ payload :: back ∧
      ¬ inflater.Faulty (input ++ front.flatten) ∧
      inflater.Faulty (input ++ front.flatten ++ payload) := by
  induction payloads generalizing input with
  | nil =>
    rw [List.flatten_nil, List.append_nil] at faulty
    exact absurd faulty sound
  | cons payload rest ih =>
    by_cases here : inflater.Faulty (input ++ payload)
    · refine ⟨[], payload, rest, rfl, ?_, ?_⟩
      · rwa [List.flatten_nil, List.append_nil]
      · rwa [List.flatten_nil, List.append_nil]
    · rw [List.flatten_cons, ← List.append_assoc] at faulty
      obtain ⟨front, found, back, rfl, before, after⟩ := ih here faulty
      refine ⟨payload :: front, found, back, rfl, ?_, ?_⟩
      · rwa [List.flatten_cons, ← List.append_assoc]
      · rwa [List.flatten_cons, ← List.append_assoc]

/-- No chunk before the one with the fault has it. -/
theorem fault_first {front front' back back' : List Bytes} {payload payload' : Bytes}
    (split : front ++ payload :: back = front' ++ payload' :: back')
    (broken : inflater.Faulty (front.flatten ++ payload))
    (clean' : ¬ inflater.Faulty front'.flatten) : front' <+: front := by
  rcases List.append_eq_append_iff.1 split with ⟨middle, rfl, rest⟩ | ⟨middle, rfl, -⟩
  · cases middle with
    | nil =>
      exact ⟨[], by rw [List.append_nil, List.append_nil]⟩
    | cons first others =>
      obtain ⟨rfl, -⟩ := List.cons_eq_cons.1 rest
      rw [List.flatten_append, List.flatten_cons, ← List.append_assoc] at clean'
      exact absurd (broken.append _).1 clean'
  · exact List.prefix_append ..

end Inflater

variable {inflater : Inflater} {limit decoded fuel : Nat} {input pending : Bytes}
  {payloads : List Bytes}

/-! ## One chunk -/

variable (inflater limit) in
/-- The limit is reported for a chunk that ends with the given input, when so many bytes have been
inflated before it. -/
def ExceedsWithin (decoded : Nat) (input : Bytes) : Prop :=
  decoded = limit ∨ limit + 1 < inflater.size input ∨
    (inflater.size input = limit + 1 ∧
      (¬ inflater.Faulty input ∨ pngDecompressChunkBytes ∣ limit - decoded))

variable (inflater) in
/-- What follows a chunk that is inflated to its end. -/
def chunkEnd (input : Bytes) : Except BitmapFault (Decompressor × Nat) :=
  match inflater.status input with
  | .faulty error => .error (.inflation error)
  | _ => .ok (⟨input, inflater.size input⟩, inflater.size input)

theorem chunkEnd_sound (sound : ¬ inflater.Faulty input) :
    chunkEnd inflater input = .ok (⟨input, inflater.size input⟩, inflater.size input) := by
  unfold chunkEnd
  split
  · rename_i error faulty
    exact absurd ⟨error, faulty⟩ sound
  · rfl

/-- A call that is stopped by its bound. -/
theorem decompress_stopped {bound : Nat} (held : decoded + bound < inflater.size (input ++ pending))
    (inhabited : pending ≠ []) :
    ∃ chunk rest tail, Decompressor.decompress inflater ⟨input, decoded⟩ pending bound =
        .ok (chunk, ⟨rest, decoded + bound⟩, tail) ∧
      chunk.length = bound ∧ rest ++ tail = input ++ pending ∧ tail ≠ [] := by
  have fewer := inflater.leaves_tail input decoded pending bound held inhabited
  unfold Inflater.size at held
  have beyond : bound < ((inflater.output (input ++ pending)).drop decoded).length := by
    rw [List.length_drop]
    omega
  refine ⟨_, _, _, if_pos beyond, ?_, ?_, ?_⟩
  · rw [List.length_take]
    exact min_eq_left beyond.le
  · rw [List.append_assoc, List.take_append_drop]
  · intro empty
    exact absurd (List.drop_eq_nil_iff.1 empty) (Nat.not_le.2 fewer)

/-- A call that gives everything. -/
theorem decompress_whole {bound : Nat} (below : decoded ≤ inflater.size (input ++ pending))
    (fits : inflater.size (input ++ pending) ≤ decoded + bound) :
    (∃ error, inflater.status (input ++ pending) = .faulty error ∧
      Decompressor.decompress inflater ⟨input, decoded⟩ pending bound = .error error) ∨
    (¬ inflater.Faulty (input ++ pending) ∧ ∃ chunk,
      Decompressor.decompress inflater ⟨input, decoded⟩ pending bound =
        .ok (chunk, ⟨input ++ pending, inflater.size (input ++ pending)⟩, []) ∧
      decoded + chunk.length = inflater.size (input ++ pending)) := by
  unfold Inflater.size at *
  have room : ¬ bound < ((inflater.output (input ++ pending)).drop decoded).length := by
    rw [List.length_drop]
    omega
  have total : decoded + ((inflater.output (input ++ pending)).drop decoded).length =
      (inflater.output (input ++ pending)).length := by
    rw [List.length_drop]
    omega
  simp only [Decompressor.decompress, if_neg room]
  by_cases faulty : inflater.Faulty (input ++ pending)
  · obtain ⟨error, faulty⟩ := faulty
    exact .inl ⟨error, faulty, by rw [faulty]⟩
  · refine .inr ⟨faulty, (inflater.output (input ++ pending)).drop decoded, ?_, total⟩
    split
    · rename_i error found
      exact absurd ⟨error, found⟩ faulty
    · rw [total]

/-- Every round of the loop keeps the input as a whole. -/
theorem inflatePending_outcome (inhabited : pending ≠ []) (within : decoded ≤ limit)
    (below : decoded ≤ inflater.size (input ++ pending)) (enough : limit < decoded + fuel) :
    (ExceedsWithin inflater limit decoded (input ++ pending) →
      inflatePending inflater limit fuel ⟨input, decoded⟩ decoded pending =
        .error (.decodedSize limit)) ∧
    (¬ ExceedsWithin inflater limit decoded (input ++ pending) →
      inflatePending inflater limit fuel ⟨input, decoded⟩ decoded pending =
        chunkEnd inflater (input ++ pending)) := by
  induction fuel generalizing input decoded pending with
  | zero => omega
  | succ fuel ih =>
    obtain ⟨byte, data, rfl⟩ := List.exists_cons_of_ne_nil inhabited
    rw [inflatePending]
    unfold ExceedsWithin
    by_cases spent : limit ≤ decoded
    · rw [if_pos spent]
      have full : decoded = limit := by omega
      exact ⟨fun _ => rfl, fun free => absurd (.inl full) free⟩
    rw [if_neg spent]
    have positive : 0 < pngDecompressChunkBytes := by decide
    by_cases held : decoded + min pngDecompressChunkBytes (limit - decoded + 1) <
        inflater.size (input ++ byte :: data)
    · obtain ⟨chunk, taken, tail, call, length, whole, left⟩ := decompress_stopped held inhabited
      rw [call]
      simp only [length]
      split_ifs with beyond
      · exact ⟨fun _ => rfl, fun free => absurd (.inr (.inl (by omega))) free⟩
      · -- The round is stopped by the size of a piece, not by the limit.
        have step : min pngDecompressChunkBytes (limit - decoded + 1) = pngDecompressChunkBytes := by
          omega
        rw [step] at beyond held ⊢
        have still : decoded + pngDecompressChunkBytes ≤ limit := by omega
        have more : decoded + pngDecompressChunkBytes ≤ inflater.size (taken ++ tail) := by
          rw [whole]
          exact held.le
        have rest := ih left still more (by omega)
        rw [whole] at rest
        have same : pngDecompressChunkBytes ∣ limit - (decoded + pngDecompressChunkBytes) ↔
            pngDecompressChunkBytes ∣ limit - decoded := by
          rw [show limit - decoded =
            limit - (decoded + pngDecompressChunkBytes) + pngDecompressChunkBytes by omega]
          exact Nat.dvd_add_self_right.symm
        have boundary : decoded + pngDecompressChunkBytes = limit →
            pngDecompressChunkBytes ∣ limit - decoded := by
          intro full
          exact same.1 (by rw [full, Nat.sub_self]; exact Nat.dvd_zero _)
        refine ⟨fun exceeds => rest.1 ?_, fun free => rest.2 ?_⟩
        · rcases exceeds with full | large | ⟨size, reason⟩
          · omega
          · exact .inr (.inl large)
          · exact .inr (.inr ⟨size, reason.imp id same.2⟩)
        · rintro (full | large | ⟨size, reason⟩)
          · refine free ?_
            by_cases large : limit + 1 < inflater.size (input ++ byte :: data)
            · exact .inr (.inl large)
            · exact .inr (.inr ⟨by omega, .inr (boundary full)⟩)
          · exact free (.inr (.inl large))
          · exact free (.inr (.inr ⟨size, reason.imp id same.1⟩))
    · rcases decompress_whole below (Nat.not_lt.1 held) with
        ⟨error, faulty, call⟩ | ⟨sound, chunk, call, total⟩
      · rw [call]
        have free : ¬ ExceedsWithin inflater limit decoded (input ++ byte :: data) := by
          rintro (full | large | ⟨size, sound | divides⟩)
          · omega
          · omega
          · exact sound ⟨error, faulty⟩
          · have few := Nat.le_of_dvd (by omega) divides
            omega
        refine ⟨fun exceeds => absurd exceeds free, fun _ => ?_⟩
        rw [chunkEnd, faulty]
      · rw [call]
        simp only [total]
        split_ifs with beyond
        · exact ⟨fun _ => rfl, fun free => absurd (.inr (.inr ⟨by omega, .inl sound⟩)) free⟩
        · rw [chunkEnd_sound sound]
          refine ⟨?_, fun _ => by rw [inflatePending]⟩
          rintro (full | large | ⟨size, -⟩)
          · omega
          · omega
          · omega

/-! ## All chunks -/

variable (inflater limit) in
/-- The limit is reported for the chunks that follow the input. -/
def Exceeds : Bytes → List Bytes → Prop
  | _, [] => False
  | input, payload :: payloads =>
    (payload ≠ [] ∧ ExceedsWithin inflater limit (inflater.size input) (input ++ payload)) ∨
      (¬ inflater.Faulty (input ++ payload) ∧ Exceeds (input ++ payload) payloads)

variable (inflater) in
/-- The verdict on a stream that stays within the limit. -/
def settle (stream : Bytes) : Except BitmapFault Unit :=
  match inflater.status stream with
  | .faulty error => .error (.inflation error)
  | .ended used => if used = stream.length then .ok () else .error .unfinished
  | .more => .error .unfinished

variable (inflater) in
/-- What is asked of the inflater in the end. -/
def finish (decompressor : Decompressor) : Except BitmapFault Unit :=
  if ¬ decompressor.eof inflater ∨ decompressor.unusedData inflater ≠ [] then
    .error .unfinished
  else .ok ()

theorem finish_eq (sound : ¬ inflater.Faulty input) :
    finish inflater ⟨input, decoded⟩ = settle inflater input := by
  unfold finish settle Decompressor.eof Decompressor.unusedData
  dsimp only
  cases status : inflater.status input with
  | more => simp
  | faulty error => exact absurd ⟨error, status⟩ sound
  | ended used =>
    have within := inflater.used_le input used status
    simp only [not_true_eq_false, false_or, ne_eq, List.drop_eq_nil_iff]
    by_cases all : used = input.length
    · rw [if_neg (by omega), if_pos all]
    · rw [if_pos (by omega), if_neg all]

theorem settle_faulty {error : String} (faulty : inflater.status input = .faulty error)
    (next : Bytes) : settle inflater (input ++ next) = .error (.inflation error) := by
  have status := (inflater.settled input next (by rw [faulty]; rintro ⟨⟩)).2
  unfold settle
  rw [status, faulty]

theorem settle_ne_decodedSize (stream : Bytes) (reported : Nat) :
    settle inflater stream ≠ .error (.decodedSize reported) := by
  unfold settle
  intro failed
  split at failed
  · cases failed
  · split at failed
    · cases failed
    · cases failed
  · cases failed

/-- The run over all chunks after some input without a fault. -/
theorem inflatePayloads_outcome (sound : ¬ inflater.Faulty input)
    (within : inflater.size input ≤ limit) :
    (Exceeds inflater limit input payloads →
      (inflatePayloads inflater limit ⟨input, inflater.size input⟩ (inflater.size input) payloads >>=
        finish inflater) = .error (.decodedSize limit)) ∧
    (¬ Exceeds inflater limit input payloads →
      (inflatePayloads inflater limit ⟨input, inflater.size input⟩ (inflater.size input) payloads >>=
        finish inflater) = settle inflater (input ++ payloads.flatten)) := by
  induction payloads generalizing input with
  | nil =>
    refine ⟨False.elim, fun _ => ?_⟩
    rw [List.flatten_nil, List.append_nil]
    exact finish_eq sound
  | cons payload rest ih =>
    rw [List.flatten_cons, ← List.append_assoc]
    by_cases empty : payload = []
    · subst empty
      have same := ih sound within
      rw [List.append_nil]
      refine ⟨?_, fun free => same.2 fun exceeds => free (.inr ⟨?_, ?_⟩)⟩
      · rintro (⟨inhabited, -⟩ | ⟨-, exceeds⟩)
        · exact absurd rfl inhabited
        · rw [List.append_nil] at exceeds
          exact same.1 exceeds
      · rwa [List.append_nil]
      · rwa [List.append_nil]
    have enough : limit < inflater.size input + (limit + 1) := by omega
    have run := inflatePending_outcome empty within (Inflater.size_le_append input payload) enough
    by_cases here : ExceedsWithin inflater limit (inflater.size input) (input ++ payload)
    · refine ⟨fun _ => ?_, fun free => absurd (.inl ⟨empty, here⟩) free⟩
      rw [inflatePayloads, run.1 here]
      rfl
    have size := here
    unfold ExceedsWithin at size
    push Not at size
    by_cases faulty : inflater.Faulty (input ++ payload)
    · obtain ⟨error, found⟩ := faulty
      refine ⟨?_, fun _ => ?_⟩
      · rintro (⟨-, exceeds⟩ | ⟨sound, -⟩)
        · exact absurd exceeds here
        · exact absurd ⟨error, found⟩ sound
      · rw [inflatePayloads, run.2 here, chunkEnd, found, settle_faulty found]
        rfl
    · have below : inflater.size (input ++ payload) ≤ limit := by
        by_contra beyond
        exact faulty (size.2.2 (by omega)).1
      have next := ih faulty below
      rw [inflatePayloads, run.2 here, chunkEnd_sound faulty]
      refine ⟨?_, fun free => next.2 fun exceeds => free (.inr ⟨faulty, exceeds⟩)⟩
      rintro (⟨-, exceeds⟩ | ⟨-, exceeds⟩)
      · exact absurd exceeds here
      · exact next.1 exceeds

theorem validatePngIdatStream_outcome :
    (Exceeds inflater limit [] payloads →
      validatePngIdatStream inflater limit payloads = .error (.decodedSize limit)) ∧
    (¬ Exceeds inflater limit [] payloads →
      validatePngIdatStream inflater limit payloads = settle inflater payloads.flatten) := by
  have within : inflater.size [] ≤ limit := by
    rw [Inflater.size_nil]
    exact Nat.zero_le _
  have run := @inflatePayloads_outcome inflater limit [] payloads Inflater.not_faulty_nil within
  rwa [Inflater.size_nil, List.nil_append] at run

/-! ## The cuts that matter -/

variable (limit) in
/-- The inflation of a faulty stream of one byte too many is stopped before the fault, when so many
bytes have been inflated before the chunk with the fault. -/
def StopsBefore (before : Nat) : Prop :=
  before = limit + 1 ∨ (before ≤ limit ∧ pngDecompressChunkBytes ∣ limit - before)

/-- Close to the limit the inflation is stopped anyhow. -/
theorem stopsBefore_of_le {before : Nat} (most : limit ≤ before) (within : before ≤ limit + 1) :
    StopsBefore limit before := by
  rcases Nat.lt_or_ge limit before with beyond | below
  · exact .inl (by omega)
  · refine .inr ⟨below, ?_⟩
    rw [show limit - before = 0 by omega]
    exact Nat.dvd_zero _

theorem exists_stop (sound : ¬ inflater.Faulty input) (most : limit ≤ inflater.size input)
    (faulty : inflater.Faulty (input ++ payloads.flatten))
    (whole : inflater.size (input ++ payloads.flatten) = limit + 1) :
    ∃ front payload back, payloads = front ++ payload :: back ∧
      ¬ inflater.Faulty (input ++ front.flatten) ∧
      inflater.Faulty (input ++ front.flatten ++ payload) ∧
      StopsBefore limit (inflater.size (input ++ front.flatten)) := by
  obtain ⟨front, payload, back, rfl, clean, broken⟩ := Inflater.exists_fault sound faulty
  refine ⟨front, payload, back, rfl, clean, broken, stopsBefore_of_le ?_ ?_⟩
  · exact most.trans (Inflater.size_le_append ..)
  · rw [List.flatten_append, ← List.append_assoc] at whole
    rw [← whole]
    exact Inflater.size_le_append ..

theorem not_exceeds_of_lt (small : inflater.size (input ++ payloads.flatten) < limit) :
    ¬ Exceeds inflater limit input payloads := by
  induction payloads generalizing input with
  | nil => exact not_false
  | cons payload rest ih =>
    rw [List.flatten_cons, ← List.append_assoc] at small
    have first : inflater.size input ≤ inflater.size (input ++ payload) :=
      Inflater.size_le_append input payload
    have whole : inflater.size (input ++ payload) ≤
        inflater.size (input ++ payload ++ rest.flatten) :=
      Inflater.size_le_append (input ++ payload) rest.flatten
    rintro (⟨-, full | large | ⟨size, -⟩⟩ | ⟨-, later⟩)
    · omega
    · omega
    · omega
    · exact ih small later

/-- A stream of exactly the allowed size exceeds the limit at a border with data behind it. -/
theorem exceeds_iff_border (sound : ¬ inflater.Faulty input)
    (whole : inflater.size (input ++ payloads.flatten) = limit) :
    Exceeds inflater limit input payloads ↔
      ∃ front back, payloads = front ++ back ∧ back.flatten ≠ [] ∧
        ¬ inflater.Faulty (input ++ front.flatten) ∧
        inflater.size (input ++ front.flatten) = limit := by
  induction payloads generalizing input with
  | nil =>
    refine iff_of_false not_false ?_
    rintro ⟨front, back, split, left, -⟩
    rw [(List.append_eq_nil_iff.1 split.symm).2] at left
    exact left rfl
  | cons payload rest ih =>
    rw [List.flatten_cons, ← List.append_assoc] at whole
    have last : inflater.size (input ++ payload) ≤
        inflater.size (input ++ payload ++ rest.flatten) :=
      Inflater.size_le_append (input ++ payload) rest.flatten
    constructor
    · rintro (⟨inhabited, full | large | ⟨size, -⟩⟩ | ⟨still, later⟩)
      · refine ⟨[], payload :: rest, rfl, ?_, ?_, ?_⟩
        · rw [List.flatten_cons]
          exact List.append_ne_nil_of_left_ne_nil inhabited _
        · rwa [List.flatten_nil, List.append_nil]
        · rwa [List.flatten_nil, List.append_nil]
      · omega
      · omega
      · obtain ⟨front, back, rfl, left, clean, full⟩ := (ih still whole).1 later
        refine ⟨payload :: front, back, rfl, left, ?_, ?_⟩
        · rwa [List.flatten_cons, ← List.append_assoc]
        · rwa [List.flatten_cons, ← List.append_assoc]
    · rintro ⟨front, back, split, left, clean, full⟩
      rcases List.cons_eq_append_iff.1 split with ⟨rfl, rfl⟩ | ⟨front, rfl, rfl⟩
      · rw [List.flatten_nil, List.append_nil] at full
        by_cases empty : payload = []
        · subst empty
          rw [List.append_nil] at whole
          refine .inr ⟨by rwa [List.append_nil], ?_⟩
          rw [List.append_nil]
          refine (ih sound whole).2 ⟨[], rest, rfl, left, ?_, ?_⟩
          · rwa [List.flatten_nil, List.append_nil]
          · rwa [List.flatten_nil, List.append_nil]
        · exact .inl ⟨empty, .inl full⟩
      · rw [List.flatten_cons, ← List.append_assoc] at clean full
        have still : ¬ inflater.Faulty (input ++ payload) := by
          intro faulty
          exact clean (faulty.append _).1
        exact .inr ⟨still, (ih still whole).2 ⟨front, back, rfl, left, clean, full⟩⟩

/-- A stream of more bytes exceeds the limit, unless it is one byte too long and faulty. -/
theorem exceeds_of_lt (sound : ¬ inflater.Faulty input) (within : inflater.size input ≤ limit)
    (large : limit < inflater.size (input ++ payloads.flatten))
    (plain : ¬ inflater.Faulty (input ++ payloads.flatten) ∨
      limit + 1 < inflater.size (input ++ payloads.flatten)) :
    Exceeds inflater limit input payloads := by
  induction payloads generalizing input with
  | nil =>
    rw [List.flatten_nil, List.append_nil] at large
    omega
  | cons payload rest ih =>
    rw [List.flatten_cons, ← List.append_assoc] at large plain
    by_cases below : inflater.size (input ++ payload) ≤ limit
    · have still : ¬ inflater.Faulty (input ++ payload) := by
        intro faulty
        have same := (faulty.append rest.flatten).2
        omega
      exact .inr ⟨still, ih still below large plain⟩
    · refine .inl ⟨?_, ?_⟩
      · rintro rfl
        rw [List.append_nil] at below
        exact below within
      · by_cases more : limit + 1 < inflater.size (input ++ payload)
        · exact .inr (.inl more)
        · refine .inr (.inr ⟨by omega, .inl fun faulty => ?_⟩)
          obtain ⟨stays, same⟩ := faulty.append rest.flatten
          rcases plain with clean | longer
          · exact clean stays
          · omega

/-- A faulty stream of one byte too many. -/
theorem exceeds_iff_stops (sound : ¬ inflater.Faulty input) (within : inflater.size input ≤ limit)
    (faulty : inflater.Faulty (input ++ payloads.flatten))
    (whole : inflater.size (input ++ payloads.flatten) = limit + 1) :
    Exceeds inflater limit input payloads ↔
      ∃ front payload back, payloads = front ++ payload :: back ∧
        ¬ inflater.Faulty (input ++ front.flatten) ∧
        inflater.Faulty (input ++ front.flatten ++ payload) ∧
        StopsBefore limit (inflater.size (input ++ front.flatten)) := by
  induction payloads generalizing input with
  | nil =>
    rw [List.flatten_nil, List.append_nil] at faulty
    exact absurd faulty sound
  | cons payload rest ih =>
    rw [List.flatten_cons, ← List.append_assoc] at faulty whole
    have last : inflater.size (input ++ payload) ≤
        inflater.size (input ++ payload ++ rest.flatten) :=
      Inflater.size_le_append (input ++ payload) rest.flatten
    have first : inflater.size input ≤ inflater.size (input ++ payload) :=
      Inflater.size_le_append input payload
    by_cases here : inflater.Faulty (input ++ payload)
    · have size := (here.append rest.flatten).2
      rw [whole] at size
      have inhabited : payload ≠ [] := by
        rintro rfl
        rw [List.append_nil] at here
        exact sound here
      have stops : ExceedsWithin inflater limit (inflater.size input) (input ++ payload) ↔
          StopsBefore limit (inflater.size input) := by
        constructor
        · rintro (full | large | ⟨-, clean | divides⟩)
          · refine .inr ⟨within, ?_⟩
            rw [full, Nat.sub_self]
            exact Nat.dvd_zero _
          · omega
          · exact absurd here clean
          · exact .inr ⟨within, divides⟩
        · rintro (beyond | ⟨-, divides⟩)
          · omega
          · exact .inr (.inr ⟨size.symm, .inr divides⟩)
      constructor
      · rintro (⟨-, exceeds⟩ | ⟨clean, -⟩)
        · refine ⟨[], payload, rest, rfl, ?_, ?_, ?_⟩
          · rwa [List.flatten_nil, List.append_nil]
          · rwa [List.flatten_nil, List.append_nil]
          · rw [List.flatten_nil, List.append_nil]
            exact stops.1 exceeds
        · exact absurd here clean
      · rintro ⟨front, found, back, split, clean, -, stopped⟩
        rcases List.cons_eq_append_iff.1 split with ⟨rfl, -⟩ | ⟨front, rfl, rfl⟩
        · rw [List.flatten_nil, List.append_nil] at stopped
          exact .inl ⟨inhabited, stops.2 stopped⟩
        · rw [List.flatten_cons, ← List.append_assoc] at clean
          exact absurd (here.append _).1 clean
    · have shift : (∃ front found back, payload :: rest = front ++ found :: back ∧
          ¬ inflater.Faulty (input ++ front.flatten) ∧
          inflater.Faulty (input ++ front.flatten ++ found) ∧
          StopsBefore limit (inflater.size (input ++ front.flatten))) ↔
          ∃ front found back, rest = front ++ found :: back ∧
            ¬ inflater.Faulty (input ++ payload ++ front.flatten) ∧
            inflater.Faulty (input ++ payload ++ front.flatten ++ found) ∧
            StopsBefore limit (inflater.size (input ++ payload ++ front.flatten)) := by
        constructor
        · rintro ⟨front, found, back, split, clean, broken, stopped⟩
          rcases List.cons_eq_append_iff.1 split with ⟨rfl, same⟩ | ⟨front, rfl, rfl⟩
          · obtain ⟨rfl, -⟩ := List.cons_eq_cons.1 same
            rw [List.flatten_nil, List.append_nil] at broken
            exact absurd broken here
          · rw [List.flatten_cons, ← List.append_assoc] at clean broken stopped
            exact ⟨front, found, back, rfl, clean, broken, stopped⟩
        · rintro ⟨front, found, back, rfl, clean, broken, stopped⟩
          refine ⟨payload :: front, found, back, rfl, ?_⟩
          rw [List.flatten_cons, ← List.append_assoc]
          exact ⟨clean, broken, stopped⟩
      rw [shift]
      by_cases below : inflater.size (input ++ payload) ≤ limit
      · rw [← ih here below faulty whole]
        constructor
        · rintro (⟨-, full | large | ⟨size, -⟩⟩ | ⟨-, later⟩)
          · exact (ih here below faulty whole).2 (exists_stop here (by omega) faulty whole)
          · omega
          · omega
          · exact later
        · exact fun later => .inr ⟨here, later⟩
      · have size : inflater.size (input ++ payload) = limit + 1 := by omega
        have inhabited : payload ≠ [] := by
          rintro rfl
          rw [List.append_nil] at below
          exact below within
        refine iff_of_true (.inl ⟨inhabited, .inr (.inr ⟨size, .inl here⟩)⟩) ?_
        exact exists_stop here (by omega) faulty whole

/-- The stream in one chunk. -/
theorem exceeds_whole_iff (positive : 0 < limit) (stream : Bytes) :
    Exceeds inflater limit [] [stream] ↔ limit < inflater.size stream ∧
      (¬ inflater.Faulty stream ∨ limit + 1 < inflater.size stream ∨
        pngDecompressChunkBytes ∣ limit) := by
  have nothing : stream = [] → inflater.size stream = 0 := by
    rintro rfl
    exact Inflater.size_nil
  simp only [Exceeds, ExceedsWithin, List.nil_append, Inflater.size_nil, Nat.sub_zero, and_false,
    or_false]
  constructor
  · rintro ⟨-, full | large | ⟨size, clean | divides⟩⟩
    · omega
    · exact ⟨by omega, .inr (.inl large)⟩
    · exact ⟨by omega, .inl clean⟩
    · exact ⟨by omega, .inr (.inr divides)⟩
  · rintro ⟨beyond, reason⟩
    refine ⟨fun empty => by have none_ := nothing empty; omega, ?_⟩
    by_cases large : limit + 1 < inflater.size stream
    · exact .inr (.inl large)
    · refine .inr (.inr ⟨by omega, ?_⟩)
      rcases reason with clean | more | divides
      · exact .inl clean
      · exact absurd more large
      · exact .inr divides

variable (inflater limit) in
/-- Nothing is decided by the cuts: a stream of exactly the allowed size is not all inflated at a
border with data behind it, and a faulty stream of one byte too many is stopped before its fault
as if it stood in one chunk. -/
structure HarmlessCuts (payloads : List Bytes) : Prop where
  border : inflater.size payloads.flatten = limit → ∀ front back, payloads = front ++ back →
    back.flatten ≠ [] → ¬ inflater.Faulty front.flatten → inflater.size front.flatten ≠ limit
  fault : inflater.size payloads.flatten = limit + 1 → ∀ front payload back,
    payloads = front ++ payload :: back → ¬ inflater.Faulty front.flatten →
    inflater.Faulty (front.flatten ++ payload) →
    (StopsBefore limit (inflater.size front.flatten) ↔ pngDecompressChunkBytes ∣ limit)

theorem harmlessCuts_iff (positive : 0 < limit) :
    HarmlessCuts inflater limit payloads ↔
      (Exceeds inflater limit [] payloads ↔ Exceeds inflater limit [] [payloads.flatten]) := by
  have sound : ¬ inflater.Faulty [] := Inflater.not_faulty_nil
  have within : inflater.size [] ≤ limit := by
    rw [Inflater.size_nil]
    exact positive.le
  have prefix_ : ∀ front back : List Bytes, inflater.Faulty front.flatten →
      inflater.Faulty (front ++ back).flatten := by
    intro front back faulty
    rw [List.flatten_append]
    exact (faulty.append _).1
  rw [exceeds_whole_iff positive]
  rcases Nat.lt_trichotomy (inflater.size payloads.flatten) limit with small | full | large
  · refine iff_of_true ⟨fun size => by omega, fun size => by omega⟩
      (iff_of_false (not_exceeds_of_lt small) (by omega))
  · rw [exceeds_iff_border sound full]
    simp only [List.nil_append]
    constructor
    · intro harmless
      refine iff_of_false ?_ (by omega)
      rintro ⟨front, back, split, left, clean, size⟩
      exact harmless.border full front back split left clean size
    · intro same
      refine ⟨fun _ front back split left clean size => ?_, fun size => by omega⟩
      have beyond := (same.1 ⟨front, back, split, left, clean, size⟩).1
      omega
  · by_cases plain : ¬ inflater.Faulty payloads.flatten ∨
      limit + 1 < inflater.size payloads.flatten
    · refine iff_of_true ⟨fun size => by omega, ?_⟩
        (iff_of_true (exceeds_of_lt sound within large plain) ⟨large, plain.imp_right .inl⟩)
      rintro size front payload back rfl - broken
      rcases plain with clean | longer
      · refine absurd ?_ clean
        have split : front ++ payload :: back = (front ++ [payload]) ++ back := by simp
        rw [split]
        refine prefix_ _ back ?_
        rwa [List.flatten_append, List.flatten_singleton]
      · omega
    · push Not at plain
      have size : inflater.size payloads.flatten = limit + 1 := by omega
      rw [exceeds_iff_stops sound within plain.1 size]
      have whole : (limit < inflater.size payloads.flatten ∧
          (¬ inflater.Faulty payloads.flatten ∨ limit + 1 < inflater.size payloads.flatten ∨
            pngDecompressChunkBytes ∣ limit)) ↔ pngDecompressChunkBytes ∣ limit := by
        constructor
        · rintro ⟨-, clean | longer | divides⟩
          · exact absurd plain.1 clean
          · omega
          · exact divides
        · exact fun divides => ⟨large, .inr (.inr divides)⟩
      rw [whole]
      simp only [List.nil_append]
      constructor
      · intro harmless
        constructor
        · rintro ⟨front, payload, back, split, clean, broken, stops⟩
          exact (harmless.fault size front payload back split clean broken).1 stops
        · intro divides
          obtain ⟨front, payload, back, split, clean, broken⟩ :=
            Inflater.exists_fault sound plain.1
          rw [List.nil_append] at clean broken
          exact ⟨front, payload, back, split, clean, broken,
            (harmless.fault size front payload back split clean broken).2 divides⟩
      · intro same
        refine ⟨fun exact_ => by omega, fun _ front payload back split clean broken => ?_⟩
        constructor
        · exact fun stops => same.1 ⟨front, payload, back, split, clean, broken, stops⟩
        · intro divides
          obtain ⟨front', payload', back', split', clean', broken', stops⟩ := same.2 divides
          have both := split.symm.trans split'
          have one := Inflater.fault_first both broken clean'
          have other := Inflater.fault_first both.symm broken' clean
          rwa [one.eq_of_length_le other.length_le] at stops

end OnePersonLab.Artifact
