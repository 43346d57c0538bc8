import Starfield.Image.Plain
import Starfield.Proofs.Outcome

namespace Starfield

/-!
# Encoders whose files are read back

What is relied on of an encoder is that a file which it has written is read as
the image that it was given, by whatever reads such files.  That it refuses no
image in the form of a surface is another matter, and a separate property.

The plain encoder has both.  Every layer of its files is undone by the reader of
that layer: parts of fixed length, chunks, blocks, the stream with its check sum,
and rows.  A file is cut into chunks and blocks wherever a length would not fit, so
this holds for images of all sizes.
-/

namespace Png

/-- Something that reads PNG files. -/
abbrev Decoder :=
  ByteArray -> Option Image

/-- There are pixels, and all bytes of theirs. -/
structure Image.IsFull (image : Image) : Prop where
  width : 0 < image.header.width
  height : 0 < image.header.height
  bytes : image.bytes.length = image.header.size

namespace Encoder

/-- The files of the encoder are read as the images that they were written
for. -/
def ReadsBack (encoder : Encoder) (decode : Decoder) : Prop :=
  forall {image : Image} {file : ByteArray}, image.IsFull -> encoder.encode image = .ok file ->
    decode file = some image

/-- The encoder refuses no image with four channels of eight bits. -/
def AcceptsFull (encoder : Encoder) : Prop :=
  forall {image : Image}, image.IsFull -> image.header.color = .rgba ->
    image.header.depth = .eight -> Exists fun file => encoder.encode image = .ok file

end Encoder

/-- A row of pixels with four channels of eight bits. -/
theorem Header.stride_rgba8 (width height : UInt32) :
    stride ⟨width, height, .rgba, .eight⟩ = 4 * width.toNat := by
  change (width.toNat * 4 * 8 + 7) / 8 = 4 * width.toNat
  omega

namespace Plain

/-! ## Parts -/

theorem take?_append {count : ℕ} {first : List UInt8} (long : first.length = count)
    (rest : List UInt8) : take? count (first ++ rest) = some (first, rest) := by
  unfold take?
  rw [if_pos (by rw [List.length_append]; omega), List.splitAt_eq, List.take_left' long,
    List.drop_left' long]

/-- The whole of some bytes is a part of them. -/
theorem take?_length_append (first rest : List UInt8) :
    take? first.length (first ++ rest) = some (first, rest) :=
  take?_append rfl rest

/-! ## Chunks -/

/-- A chunk that is not too long is read, whatever follows it. -/
theorem chunk?_append {name content : List UInt8} (named : name.length = 4)
    (short : content.length ≤ longestChunk) (rest : List UInt8) :
    chunk? (chunk name content ++ rest) = some (name, content, rest) := by
  have small : content.length < Nat.pow 256 4 :=
    short.trans_lt (show 2147483647 < Nat.pow 256 4 by decide)
  have sum : (Crc.sum (name ++ content)).toNat < Nat.pow 256 4 := UInt32.toNat_lt _
  have length := ofBigEndian_bigEndian 4 content.length small
  have check := ofBigEndian_bigEndian 4 (Crc.sum (name ++ content)).toNat sum
  unfold chunk? chunk
  simp only [List.append_assoc, take?_append (length_bigEndian 4 _), take?_append named, length,
    short, take?_length_append, check, guard, if_true, Option.bind_eq_bind, Option.bind_some,
    Option.pure_def]

theorem length_chunk (name content : List UInt8) :
    (chunk name content).length = name.length + content.length + 8 := by
  simp only [chunk, List.length_append, length_bigEndian]
  omega

theorem data?_end (steps : ℕ) : data? (steps + 1) (chunk endName []) = some [] := by
  have read : chunk? (chunk endName []) = some (endName, [], []) := by
    rw [← List.append_nil (chunk endName [])]
    exact chunk?_append rfl (by decide) []
  simp [data?, read, guard]

theorem data?_chunk {content : List UInt8} (short : content.length ≤ longestChunk)
    (rest : List UInt8) (steps : ℕ) :
    data? (steps + 1) (chunk dataName content ++ rest) = (content ++ ·) <$> data? steps rest := by
  have different : dataName ≠ endName := by decide
  have read : chunk? (chunk dataName content ++ rest) = some (dataName, content, rest) :=
    chunk?_append rfl short rest
  simp only [data?, read, different, if_false, guard, if_true, Option.bind_eq_bind,
    Option.bind_some, Option.pure_def]
  cases data? steps rest <;> rfl

/-- Data chunks up to the end chunk are joined again. -/
theorem data?_dataChunks (bytes : List UInt8) (steps : ℕ)
    (enough : (dataChunks bytes ++ chunk endName []).length ≤ steps) :
    data? steps (dataChunks bytes ++ chunk endName []) = some bytes := by
  -- A chunk takes one step and is longer than that, so there are steps left for the rest.
  induction bytes using dataChunks.induct generalizing steps with
  | case1 bytes short =>
      rw [dataChunks, if_pos short] at enough ⊢
      rw [List.length_append, length_chunk, length_chunk] at enough
      obtain ⟨steps, rfl⟩ : ∃ rest, steps = rest + 2 := ⟨steps - 2, by omega⟩
      rw [data?_chunk short, data?_end]
      simp
  | case2 bytes long ih =>
      have short : (bytes.take longestChunk).length ≤ longestChunk := List.length_take_le _ _
      rw [dataChunks, if_neg long, List.append_assoc] at enough ⊢
      rw [List.length_append, length_chunk] at enough
      obtain ⟨steps, rfl⟩ : ∃ rest, steps = rest + 1 := ⟨steps - 1, by omega⟩
      rw [data?_chunk short, ih steps (by omega)]
      simp

/-! ## Streams of blocks -/

/-- A block is read, and reading goes on behind it unless it is the last one. -/
theorem blocks?_storedBlock (last : Bool) {content : List UInt8} (short : content.length ≤ 65535)
    (rest : List UInt8) (steps : ℕ) :
    blocks? (steps + 1) (storedBlock last content ++ rest) =
      if last then some (content, rest)
      else (fun more => (content ++ more.1, more.2)) <$> blocks? steps rest := by
  have length := ofLittleEndian_littleEndian 2 content.length
    (short.trans_lt (show 65535 < Nat.pow 256 2 by decide))
  have complement := ofLittleEndian_littleEndian 2 (65535 - content.length)
    ((Nat.sub_le _ _).trans_lt (show 65535 < Nat.pow 256 2 by decide))
  have whole : content.length + (65535 - content.length) = 65535 := by omega
  unfold storedBlock
  cases last with
  | true =>
      simp [blocks?, take?_append (length_littleEndian 2 _), length, complement, whole,
        take?_length_append, guard]
  | false =>
      cases more : blocks? steps rest <;>
        simp [blocks?, take?_append (length_littleEndian 2 _), length, complement, whole,
          take?_length_append, guard, more]

theorem blocks?_storedBlocks (bytes rest : List UInt8) (steps : ℕ)
    (enough : (storedBlocks bytes).length ≤ steps) :
    blocks? steps (storedBlocks bytes ++ rest) = some (bytes, rest) := by
  induction bytes using storedBlocks.induct generalizing steps with
  | case1 bytes short =>
      rw [storedBlocks, if_pos short] at enough ⊢
      obtain ⟨steps, rfl⟩ : ∃ rest, steps = rest + 1 := ⟨steps - 1, by
        simp only [storedBlock, List.length_cons] at enough
        omega⟩
      exact blocks?_storedBlock true short rest steps
  | case2 bytes long ih =>
      have short : (bytes.take 65535).length ≤ 65535 := List.length_take_le _ _
      rw [storedBlocks, if_neg long] at enough ⊢
      simp only [storedBlock, List.length_append, List.length_cons] at enough
      obtain ⟨steps, rfl⟩ : ∃ rest, steps = rest + 1 := ⟨steps - 1, by omega⟩
      rw [List.append_assoc, blocks?_storedBlock false short, ih steps (by omega)]
      simp

/-- A stream of blocks is read, check sum included. -/
theorem stream?_storedStream (bytes : List UInt8) : stream? (storedStream bytes) = some bytes := by
  have sum := ofBigEndian_bigEndian 4 (Adler.sum bytes) (Adler.sum_lt bytes)
  have start : take? 2 ([0x78, 0x01] ++ (storedBlocks bytes ++ bigEndian 4 (Adler.sum bytes))) =
      some ([0x78, 0x01], storedBlocks bytes ++ bigEndian 4 (Adler.sum bytes)) :=
    take?_append (show [0x78, 0x01].length = 2 from rfl) _
  have blocks := blocks?_storedBlocks bytes (bigEndian 4 (Adler.sum bytes))
    (storedBlocks bytes ++ bigEndian 4 (Adler.sum bytes)).length (by simp)
  unfold stream? storedStream
  rw [List.append_assoc, start]
  simp only [Option.bind_eq_bind, Option.bind_some, guard, if_true, Option.pure_def, blocks,
    length_bigEndian, sum, and_self]

/-! ## Rows -/

theorem rows?_markedRows (stride count : ℕ) (bytes : List UInt8)
    (full : bytes.length = stride * count) :
    rows? stride count (markedRows stride count bytes) = some bytes := by
  induction count generalizing bytes with
  | zero =>
      rw [Nat.mul_zero, List.length_eq_zero_iff] at full
      simp [markedRows, rows?, full]
  | succ count ih =>
      rw [Nat.mul_succ] at full
      have mark (rest : List UInt8) : take? 1 (0 :: rest) = some ([0], rest) := by
        rw [← List.singleton_append]
        exact take?_append (show [0].length = 1 from rfl) rest
      have long : (bytes.take stride).length = stride := by
        rw [List.length_take]
        omega
      have rest := ih (bytes.drop stride) (by rw [List.length_drop]; omega)
      simp [markedRows, rows?, mark, take?_append long, rest, guard]

/-! ## Images -/

/-- A plain file is read as the image that was written, if every row is full. -/
theorem decode?_file (width height : UInt32) {bytes : List UInt8}
    (full : bytes.length = 4 * width.toNat * height.toNat) :
    decode? ⟨(file width.toNat height.toNat bytes).toArray⟩ =
      some ⟨⟨width, height, .rgba, .eight⟩, bytes⟩ := by
  have across := ofBigEndian_bigEndian 4 width.toNat width.toNat_lt
  have down := ofBigEndian_bigEndian 4 height.toNat height.toNat_lt
  have long : (header width.toNat height.toNat).length = 13 := by
    simp [header, length_bigEndian]
  have rows := rows?_markedRows (4 * width.toNat) height.toNat bytes full
  have start (rest : List UInt8) : take? 8 (signature ++ rest) = some (signature, rest) :=
    take?_append (show signature.length = 8 from rfl) rest
  have top (rest : List UInt8) :
      chunk? (chunk headerName (header width.toNat height.toNat) ++ rest) =
        some (headerName, header width.toNat height.toNat, rest) :=
    chunk?_append rfl (by rw [long]; decide) rest
  unfold decode? file
  simp only [List.append_assoc, start, top, guard, if_true, Option.bind_eq_bind, Option.bind_some,
    Option.pure_def]
  simp only [header, List.append_assoc, take?_append (length_bigEndian 4 _), if_true,
    data?_dataChunks _ _ le_rfl, stream?_storedStream, across, down, rows, Option.bind_some,
    UInt32.ofNat_toNat]

/-- The plain encoder has one form of images, and writes their plain files. -/
theorem encode_eq_ok {image : Image} {written : ByteArray} :
    encoder.encode image = .ok written ↔
      image.IsFull ∧ image.header.color = .rgba ∧ image.header.depth = .eight ∧
        written = ⟨(file image.header.width.toNat image.header.height.toNat image.bytes).toArray⟩ := by
  constructor
  · intro encoded
    rcases Outcome.bind_eq_ok.mp encoded with ⟨begun, begins, rest⟩
    rcases Outcome.bind_eq_ok.mp rest with ⟨filled, fills, finishes⟩
    dsimp only [encoder] at begins fills finishes
    split_ifs at begins with empty form
    cases begins
    split_ifs at fills with bytes
    cases fills
    cases finishes
    rcases not_or.mp empty with ⟨width, height⟩
    exact ⟨⟨UInt32.pos_iff_ne_zero.mpr width, UInt32.pos_iff_ne_zero.mpr height, bytes⟩,
      form.1, form.2, rfl⟩
  · rintro ⟨full, color, depth, rfl⟩
    have pixels : ¬(image.header.width = 0 ∨ image.header.height = 0) :=
      not_or.mpr ⟨UInt32.pos_iff_ne_zero.mp full.width, UInt32.pos_iff_ne_zero.mp full.height⟩
    dsimp only [Encoder.encode, encoder]
    rw [if_neg pixels, if_pos ⟨color, depth⟩, Outcome.ok_bind, if_pos full.bytes]
    rfl

theorem readsBack : encoder.ReadsBack decode? := by
  intro image written _ encoded
  rcases encode_eq_ok.mp encoded with ⟨full, color, depth, rfl⟩
  rcases image with ⟨⟨width, height, _, _⟩, bytes⟩
  cases color
  cases depth
  refine decode?_file width height ?_
  rw [full.bytes, Header.size, Header.stride_rgba8]

theorem acceptsFull : encoder.AcceptsFull :=
  fun full color depth => ⟨_, encode_eq_ok.mpr ⟨full, color, depth, rfl⟩⟩

end Plain

end Png

end Starfield
