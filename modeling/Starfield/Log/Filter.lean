import Starfield.Fault
import Starfield.Log.Notice
import Starfield.Log.Pattern
import Starfield.Number.Decimal
import Starfield.Text.Slice

namespace Starfield

/-!
# Filters of notices

A filter is a list of directives.  A directive lets notices up to some level
pass, from all of the program or from the parts whose names begin with its
target.  It may be for notices with some field only.  Of the directives for a
notice the one with the longest target decides, of those with the same target
one that names a field, and of several that are for the same notices the last.
A notice that there is no directive for is dropped.
-/

/-- Why a directive cannot be read. -/
inductive DirectiveError
  | shape
  | level
  | pattern
deriving DecidableEq, Repr

namespace DirectiveError

def message : DirectiveError -> String
  | shape => "invalid filter directive"
  | level => "error parsing level filter: expected one of \"off\", \"error\", \"warn\", " ++
    "\"info\", \"debug\", \"trace\", or a number 0-5"
  | pattern => "invalid field filter: error building NFA"

end DirectiveError

structure Directive where
  /-- The beginning of the names that are meant; `none` means all. -/
  target : Option String := none
  /-- A field that notices have. -/
  field : Option String := none
  /-- The highest detail that passes. -/
  detail : Nat := Level.trace.detail
  /-- The directive is for notices within a span of work, or for fields with
  some values only.  No notice of this program is meant. -/
  isElsewhere : Bool := false
deriving DecidableEq, Repr

namespace Directive

/-- The names of levels, by detail. -/
def levelNames : List String :=
  ["off", "error", "warn", "info", "debug", "trace"]

/-- Read a level as a number or as a name in any case.  No text at all stands
for errors. -/
def level? (text : List Char) : Option Nat :=
  naturalBelow? levelNames.length text <|>
    if text = [] then some Level.error.detail
    else levelNames.findIdx? (·.toList = text.map Char.toLower)

/-! ## Reading

The signs of a directive are looked for in its text without the blanks around
it, but their places are counted from the beginning of the text as it stands.
-/

/-- Reading stops at the first error, and a fault ends more than that. -/
abbrev Reader := ExceptT DirectiveError (Except Fault)

/-- The result of a cut through text. -/
def whole : Option (List Char) -> Reader (List Char)
  | some part => return part
  | none => ExceptT.lift (.error .splitCharacter)

/-- The text between two places. -/
def slice (text : List Char) (start stop : Nat) : Reader (List Char) :=
  whole (slice? text start stop)

/-- Read the level from a place on, where no text stands for all levels. -/
def withLevel (text : List Char) (directive : Directive) (start : Nat) : Reader Directive := do
  let text <- whole (dropBytes? start text)
  if text = [] then return directive
  else
    match level? text with
    | some detail => return { directive with detail }
    | none => throw .level

/-- Read what follows a closing bracket, which stands at a place. -/
def afterSpan (text : List Char) (directive : Directive) (place : Nat) :
    List Char -> Reader Directive
  | [] => return directive
  | '=' :: _ => withLevel text directive (place + 2)
  | _ => throw .shape

/-- Read the name of a field, and perhaps an equals sign and a value: a number
or a pattern. -/
def withField (directive : Directive) (text : List Char) : Reader Directive :=
  match text.span (· ≠ '=') with
  | ([], []) => throw .shape
  | (name, []) => return { directive with field := some (String.ofList name) }
  | (_, _ :: rest) =>
    let value := rest.takeWhile (· ≠ '=')
    if (Binary.ofChars? value : Option Float).isSome || Pattern.isValid value then
      return { directive with isElsewhere := true }
    else throw .pattern

/-- Read what follows an opening bracket from a place on: the name of a span,
and perhaps a field in braces. -/
def withSpan (text : List Char) (directive : Directive) (start : Nat) (rest : List Char) :
    Reader Directive := do
  let (name, rest) := rest.span fun c => c ≠ ']' ∧ c ≠ '\x7b'
  let stop := start + byteLength name
  match rest with
  | [] => throw .shape
  | ']' :: rest =>
    let _ <- slice text start stop
    afterSpan text { directive with isElsewhere := true } stop rest
  | _ :: rest =>
    let name <- slice text start stop
    match rest.span (· ≠ '\x7d') with
    | (field, _ :: rest) =>
      let start := stop + 1
      let stop := start + byteLength field
      let field <- slice text start stop
      let directive <- withField { directive with isElsewhere := name ≠ [] } field
      match rest with
      | ']' :: rest => afterSpan text directive (stop + 1) rest
      | _ => throw .shape
    | _ => throw .shape

/-- Read a directive. -/
def ofChars (text : List Char) : Reader Directive := do
  let trimmed := trimBlanks text
  match trimmed with
  | [] => throw .shape
  | '[' :: rest => withSpan text {} 1 rest
  | first :: _ =>
    if isAlphanumeric first ∨ first ∈ ['-', ':', '_'] then
      let (name, rest) := trimmed.span fun c => c ≠ '=' ∧ c ≠ '['
      let stop := byteLength name
      match rest with
      | [] =>
        match level? text with
        | some detail => return { detail }
        | none => return { target := some (String.ofList text) }
      | sign :: rest =>
        let directive : Directive := { target := some (String.ofList (<- slice text 0 stop)) }
        if sign = '=' then withLevel text directive (stop + 1)
        else withSpan text directive (stop + 1) rest
    else throw .shape

/-! ## Choosing -/

/-- The directive is for notices from a part of the program. -/
def applies (directive : Directive) (source : Target) : Bool :=
  !directive.isElsewhere && directive.field.all (· ∈ source.fields) &&
    directive.target.all (·.toList.isPrefixOf source.path.toList)

/-- Longer targets are more specific, and any target is more specific than
none. -/
def specificity (directive : Directive) : Nat :=
  (directive.target.map (·.utf8ByteSize + 1)).getD 0

/-- The directive decides before another one, or in its place.  Of two fields
the one with the later name is asked for first. -/
def precedes (directive other : Directive) : Bool :=
  if directive.specificity = other.specificity then
    !(directive.field.getD "" < other.field.getD "")
  else other.specificity < directive.specificity

end Directive

structure Filter where
  directives : List Directive
deriving DecidableEq, Repr

namespace Filter

/-- The filter of the program where nothing else is said. -/
def default : String := "info"

/-- The filter of some directives; without any it lets errors pass. -/
def ofDirectives (directives : List Directive) : Filter :=
  ⟨if directives = [] then [{ detail := Level.error.detail }] else directives⟩

/-- The texts between commas, without those that are empty. -/
def split (text : String) : List (List Char) :=
  (go text.toList).filter (· ≠ [])
where
  go : List Char -> List (List Char)
    | [] => [[]]
    | c :: rest =>
      match go rest with
      | piece :: pieces => if c = ',' then [] :: piece :: pieces else (c :: piece) :: pieces
      | [] => [[c]]

/-- Read a filter all of whose directives can be read. -/
def ofText? (text : String) : Except Fault (Option Filter) := do
  let directives <- ((split text).mapM Directive.ofChars).run
  return directives.toOption.map ofDirectives

/-- Read the directives that can be read, and report the others. -/
def ofText (text : String) : Except Fault (Filter × List String) := do
  let read <- (split text).mapM fun piece => do return (piece, <- (Directive.ofChars piece).run)
  return (ofDirectives (read.filterMap fun (_, result) => result.toOption),
    read.filterMap fun (piece, result) =>
      match result with
      | .ok _ => none
      | .error cause => some ("ignoring \x60" ++ String.ofList piece ++ "\x60: " ++ cause.message))

/-- The directive that decides about notices from a part of the program. -/
def directiveFor (filter : Filter) (source : Target) : Option Directive :=
  filter.directives.foldl (fun best directive =>
    if directive.applies source && best.all directive.precedes then some directive
    else best) none

def passes (filter : Filter) (notice : Notice) : Bool :=
  (filter.directiveFor notice.target).any (notice.level.detail ≤ ·.detail)

end Filter

end Starfield
