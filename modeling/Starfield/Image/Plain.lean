import Starfield.Image.Bytes
import Starfield.Image.Png

namespace Starfield

/-!
# Plain images

The plainest PNG files are those whose rows are neither filtered nor compressed.
Here is an encoder of such files, for images with four channels of eight bits, so
that there is one to run the program with.  Its reader takes files of this form
only, with any division into chunks and blocks, and checks every length and every
check sum.
-/

namespace Png.Plain

/-! ## Writing -/

def signature : List UInt8 :=
  [0x89, 0x50, 0x4e, 0x47, 0x0d, 0x0a, 0x1a, 0x0a]

def headerName : List UInt8 := [0x49, 0x48, 0x44, 0x52]

def dataName : List UInt8 := [0x49, 0x44, 0x41, 0x54]

def endName : List UInt8 := [0x49, 0x45, 0x4e, 0x44]

/-- A chunk: its length, its name, its content and a check sum. -/
def chunk (name content : List UInt8) : List UInt8 :=
  bigEndian 4 content.length ++ name ++ content ++
    bigEndian 4 (Crc.sum (name ++ content)).toNat

/-- The most bytes that a chunk may hold. -/
def longestChunk : Nat :=
  2147483647

/-- Chunks of image data. -/
def dataChunks (bytes : List UInt8) : List UInt8 :=
  if bytes.length ≤ longestChunk then chunk dataName bytes
  else chunk dataName (bytes.take longestChunk) ++ dataChunks (bytes.drop longestChunk)
termination_by bytes.length
decreasing_by simp only [List.length_drop, longestChunk] at *; omega

/-- The header of an image with eight bits to each of four channels. -/
def header (width height : Nat) : List UInt8 :=
  bigEndian 4 width ++ bigEndian 4 height ++ [8, 6, 0, 0, 0]

/-- Rows of `stride` bytes behind the mark of a row without a filter. -/
def markedRows (stride : Nat) : (count : Nat) -> List UInt8 -> List UInt8
  | 0, _ => []
  | count + 1, bytes => 0 :: (bytes.take stride ++ markedRows stride count (bytes.drop stride))

/-- A block of bytes as they are. -/
def storedBlock (last : Bool) (content : List UInt8) : List UInt8 :=
  (if last then 1 else 0) :: (littleEndian 2 content.length ++
    littleEndian 2 (65535 - content.length) ++ content)

/-- Blocks of at most 65535 bytes. -/
def storedBlocks (bytes : List UInt8) : List UInt8 :=
  if bytes.length ≤ 65535 then storedBlock true bytes
  else storedBlock false (bytes.take 65535) ++ storedBlocks (bytes.drop 65535)
termination_by bytes.length
decreasing_by simp only [List.length_drop]; omega

/-- A stream of stored blocks with its check sum. -/
def storedStream (bytes : List UInt8) : List UInt8 :=
  [0x78, 0x01] ++ storedBlocks bytes ++ bigEndian 4 (Adler.sum bytes)

/-- The file of an image with eight bits to each of four channels. -/
def file (width height : Nat) (bytes : List UInt8) : List UInt8 :=
  signature ++ chunk headerName (header width height) ++
    dataChunks (storedStream (markedRows (4 * width) height bytes)) ++
    chunk endName []

/-- The encoder of plain files.  It knows one form of images. -/
def encoder : Encoder where
  Writer := Image
  writeHeader header :=
    if header.width = 0 ∨ header.height = 0 then .error ⟨"an image has no pixels"⟩
    else if header.color = .rgba ∧ header.depth = .eight then .ok ⟨header, []⟩
    else .error ⟨"an image does not have four channels of eight bits"⟩
  writeImageData image bytes :=
    if bytes.length = image.header.size then .ok { image with bytes }
    else .error ⟨"an image does not have the bytes that its header tells"⟩
  finish image :=
    .ok ⟨(file image.header.width.toNat image.header.height.toNat image.bytes).toArray⟩

/-! ## Reading -/

/-- Split off `count` bytes, if there are as many. -/
def take? (count : Nat) (bytes : List UInt8) : Option (List UInt8 × List UInt8) :=
  if count ≤ bytes.length then some (bytes.splitAt count) else none

/-- Read a chunk: its name, its content, and what follows it. -/
def chunk? (bytes : List UInt8) : Option (List UInt8 × List UInt8 × List UInt8) := do
  let (length, bytes) <- take? 4 bytes
  guard (ofBigEndian length ≤ longestChunk)
  let (name, bytes) <- take? 4 bytes
  let (content, bytes) <- take? (ofBigEndian length) bytes
  let (sum, bytes) <- take? 4 bytes
  guard (ofBigEndian sum = (Crc.sum (name ++ content)).toNat)
  return (name, content, bytes)

/-- The joined contents of data chunks up to the end chunk.  Each chunk is at
least one byte long, so as many steps as there are bytes are enough. -/
def data? : (steps : Nat) -> List UInt8 -> Option (List UInt8)
  | 0, _ => none
  | steps + 1, bytes => do
    let (name, content, rest) <- chunk? bytes
    if name = endName then
      guard (content = [] ∧ rest = [])
      return []
    else
      guard (name = dataName)
      return content ++ (<- data? steps rest)

/-- The joined contents of stored blocks, and what follows the last of them. -/
def blocks? : (steps : Nat) -> List UInt8 -> Option (List UInt8 × List UInt8)
  | steps + 1, mark :: bytes => do
    guard (mark = 0 ∨ mark = 1)
    let (length, bytes) <- take? 2 bytes
    let (complement, bytes) <- take? 2 bytes
    guard (ofLittleEndian length + ofLittleEndian complement = 65535)
    let (content, bytes) <- take? (ofLittleEndian length) bytes
    if mark = 1 then return (content, bytes)
    else
      let (more, bytes) <- blocks? steps bytes
      return (content ++ more, bytes)
  | _, _ => none

/-- The content of a stream of stored blocks. -/
def stream? (bytes : List UInt8) : Option (List UInt8) := do
  let (start, bytes) <- take? 2 bytes
  guard (start = [0x78, 0x01])
  let (content, bytes) <- blocks? bytes.length bytes
  guard (bytes.length = 4 ∧ ofBigEndian bytes = Adler.sum content)
  return content

/-- `count` rows of `stride` bytes without their marks. -/
def rows? (stride : Nat) : (count : Nat) -> List UInt8 -> Option (List UInt8)
  | 0, bytes => if bytes = [] then some [] else none
  | count + 1, bytes => do
    let (mark, bytes) <- take? 1 bytes
    guard (mark = [0])
    let (row, bytes) <- take? stride bytes
    return row ++ (<- rows? stride count bytes)

/-- Read a plain file. -/
def decode? (file : ByteArray) : Option Image := do
  let (start, bytes) <- take? 8 file.data.toList
  guard (start = signature)
  let (name, content, bytes) <- chunk? bytes
  guard (name = headerName)
  let (width, content) <- take? 4 content
  let (height, form) <- take? 4 content
  guard (form = [8, 6, 0, 0, 0])
  let stored <- data? bytes.length bytes
  let rows <- stream? stored
  let pixels <- rows? (4 * ofBigEndian width) (ofBigEndian height) rows
  let header : Header :=
    ⟨.ofNat (ofBigEndian width), .ofNat (ofBigEndian height), .rgba, .eight⟩
  return ⟨header, pixels⟩

end Png.Plain

end Starfield
