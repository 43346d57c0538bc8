import Starfield.Document.Printer
import Starfield.Document.Reader
import Starfield.Number.Layout
import Starfield.Settings.Format

namespace Starfield

/-!
# Settings as documents

A codec writes settings as a value of a document and reads them back.  Entries
that a record does not have are skipped, and entries that are missing have the
value that the listing gives for them.  Ranges and colors are records too, but
none of their entries may be missing.  What is skipped must not nest too deep.
-/

/-- How a value is read. -/
structure Reading where
  extensions : Extensions
  /-- How many levels there may be from here on. -/
  levels : Nat := 128
deriving DecidableEq, Repr, Inhabited

/-- How values are read that stand so many levels down. -/
def Reading.below (reading : Reading) (levels : Nat) : Reading :=
  { reading with levels := reading.levels - levels }

structure Codec (α : Type) where
  write : α -> Value
  read : Reading -> Value -> Option α

namespace Codec

variable {α σ : Type}

/-- A value that always reads the same. -/
def simple (write : α -> Value) (read : Value -> Option α) : Codec α :=
  ⟨write, fun _ => read⟩

def fraction [Binary α] : Codec α :=
  simple (fun x => .number (Layout.literal.chars x)) fun
    | .number literal => Literal.fraction? literal
    | _ => none

def natural (bits : Nat) : Codec Nat :=
  simple (fun n => .number (Layout.digits n)) fun
    | .number literal => Literal.natural? bits literal
    | _ => none

/-- Another way to look at the values of a codec. -/
def map {β : Type} (codec : Codec α) (forward : α -> β) (backward : β -> α) : Codec β :=
  ⟨codec.write ∘ backward, fun reading value => (codec.read reading value).map forward⟩

def flag : Codec Bool :=
  simple .flag fun
    | .flag value => some value
    | _ => none

def text : Codec String :=
  simple .text fun
    | .text content => some content
    | _ => none

def channel : Codec Channel where
  write
    | .number value => (fraction.write value)
    | .minusUndefined => .number "-NaN".toList
  read reading value :=
    match value with
    | .number literal =>
      (fraction.read reading value).map fun number =>
        if Literal.isMinusUndefined literal then .minusUndefined else .number number
    | _ => none

def list (codec : Codec α) : Codec (List α) where
  write items := .list (items.map codec.write)
  read reading
    | .list items => items.mapM (codec.read (reading.below 2))
    | _ => none

def optional (codec : Codec α) : Codec (Option α) where
  write
    | some x => .present (codec.write x)
    | none => .absent
  read reading
    | .absent => some none
    | .present value => (codec.read (reading.below 1) value).map some
    | value =>
      if reading.extensions.impliesPresent then (codec.read (reading.below 1) value).map some
      else none

/-- The fields of a record, if it can be one with this name. -/
def fields? (name : String) (extensions : Extensions) : Value -> Option (List (String × Value))
  | .record .bare fields => some fields
  | .record (.named other) fields => if bareName other = name then some fields else none
  | .record .unnamed fields => if extensions.requiresNames then none else some fields
  | .unit => if extensions.requiresNames then none else some []
  | _ => none

/-- No field has one of the names twice. -/
def areDistinct (names : List String) (fields : List (String × Value)) : Bool :=
  names.all fun name => (fields.filter (·.1 = name)).length ≤ 1

end Codec

namespace Entry

variable {σ : Type}

def write (entry : Entry Codec σ) (record : σ) : String × Value :=
  (entry.name, entry.format.write (entry.get record))

/-- Take up the field of an entry, if there is one. -/
def read (reading : Reading) (fields : List (String × Value)) (record : σ)
    (entry : Entry Codec σ) : Option σ :=
  match fields.lookup entry.name with
  | some value => (entry.format.read reading value).map (entry.set record)
  | none => some record

end Entry

namespace Codec

variable {σ : Type}

/-- A record by its entries.  Without `partly`, none may be missing. -/
def record (partly : Bool) (name : String) (default : σ) (entries : List (Entry Codec σ)) :
    Codec σ where
  write record := .record .unnamed (entries.map (·.write record))
  read reading value := do
    let fields <- fields? name reading.extensions value
    let names := entries.map (·.name)
    let complete := names.all fun name => (fields.lookup name).isSome
    let skipped := fields.filter (·.1 ∉ names)
    if areDistinct names fields && (partly || complete) &&
        skipped.all fun (_, value) => 2 + value.nesting ≤ reading.levels then
      entries.foldlM (Entry.read (reading.below 2) fields) default
    else none

def range : Codec Range :=
  record false "Range" ⟨0, 0⟩ [
    ⟨"min", fraction, (·.min), fun range min => { range with min }⟩,
    ⟨"max", fraction, (·.max), fun range max => { range with max }⟩]

def word : Codec UInt32 :=
  (natural 32).map .ofNat UInt32.toNat

def counts : Codec CountRange :=
  record false "CountRange" ⟨0, 0⟩ [
    ⟨"min", word, (·.min), fun range min => { range with min }⟩,
    ⟨"max", word, (·.max), fun range max => { range with max }⟩]

def color : Codec Rgb :=
  record false "Rgb" .black [
    ⟨"r", fraction, (·.red), fun color red => { color with red }⟩,
    ⟨"g", fraction, (·.green), fun color green => { color with green }⟩,
    ⟨"b", fraction, (·.blue), fun color blue => { color with blue }⟩]

def pigment : Codec Pigment :=
  record false "Rgb" (.ofRgb .black) [
    ⟨"r", channel, (·.red), fun color red => { color with red }⟩,
    ⟨"g", channel, (·.green), fun color green => { color with green }⟩,
    ⟨"b", channel, (·.blue), fun color blue => { color with blue }⟩]

def backdrop : Codec Backdrop :=
  record false "Rgba" (.ofRgba .transparent) [
    ⟨"r", channel, (·.red), fun color red => { color with red }⟩,
    ⟨"g", channel, (·.green), fun color green => { color with green }⟩,
    ⟨"b", channel, (·.blue), fun color blue => { color with blue }⟩,
    ⟨"a", channel, (·.alpha), fun color alpha => { color with alpha }⟩]

instance : SettingsFormat Codec where
  single := fraction
  double := fraction
  word := word
  seed := (natural 64).map .ofNat UInt64.toNat
  flag := flag
  text := text
  range := range
  counts := counts
  color := color
  pigment := pigment
  backdrop := backdrop
  list := list
  optional := optional
  record := record true

end Codec

namespace Settings

def codec : Codec Settings :=
  SettingsFormat.settings

/-- The text of the document that says some settings. -/
def document (settings : Settings) : String :=
  (codec.write settings).print

/-- The settings that a document says. -/
def ofDocument? (text : String) : Option Settings := do
  let document <- Document.ofChars? text.toList
  codec.read { extensions := document.extensions } document.value

end Settings

end Starfield
