namespace Starfield

/-!
# Arguments

A command has options, each of which changes a request.  Arguments are taken
up one after the other.  An option that needs a value has it behind an equals
sign or in the next argument; in the second case it is settled when the next
option begins, so that of two faults the earlier option's is reported.  Only an
argument that no command could know is reported before that.
-/

/-- Why arguments cannot be understood. -/
inductive Misuse
  | unknownArgument
  | missingValue
  | unreadableValue
  | repeatedOption
  /-- An option that takes no value has one. -/
  | superfluousValue
deriving DecidableEq, Repr

namespace Misuse

def message : Misuse -> String
  | unknownArgument => "unexpected argument"
  | missingValue => "a value is required"
  | unreadableValue => "invalid value"
  | repeatedOption => "an option cannot be used multiple times"
  | superfluousValue => "unexpected value for an option"

end Misuse

/-- What arguments say instead of a request. -/
inductive Ending
  | help
  | version
  | misuse (cause : Misuse)
deriving DecidableEq, Repr

/-- A way to store a value in a request. -/
abbrev Store (ρ : Type) := String -> ρ -> Except Misuse ρ

/-- What an option does to a request. -/
inductive OptionEffect (ρ : Type)
  | valued (store : Store ρ)
  | switch (set : ρ -> ρ)
  /-- The option, also known by one letter, asks for something else. -/
  | ask (letter : Char) (ending : Ending)

structure CommandOption (ρ : Type) where
  name : String
  effect : OptionEffect ρ

/-- An option that needs a value. -/
structure Pending (ρ : Type) where
  name : String
  store : Store ρ
  value : Option String

/-- What the arguments so far have led to. -/
structure Progress (ρ : Type) where
  request : ρ
  given : List String := []
  pending : Option (Pending ρ) := none
  /-- No more options may follow. -/
  closed : Bool := false

namespace CommandOption

/-- An option for a part of a request. -/
def within {ρ σ : Type} (get : ρ -> σ) (set : ρ -> σ -> ρ) (option : CommandOption σ) :
    CommandOption ρ where
  name := option.name
  effect :=
    match option.effect with
    | .valued store => .valued fun value request => (store value (get request)).map (set request)
    | .switch change => .switch fun request => set request (change (get request))
    | .ask letter ending => .ask letter ending

end CommandOption

namespace Progress

variable {ρ : Type}

def misuse {α : Type} (cause : Misuse) : Except Ending α :=
  .error (.misuse cause)

/-- Note that an option is given.  None is given twice. -/
def mention (progress : Progress ρ) (name : String) : Except Ending (Progress ρ) :=
  if name ∈ progress.given then misuse .repeatedOption
  else .ok { progress with given := name :: progress.given }

/-- Store the value of an option. -/
def store (progress : Progress ρ) (option : Pending ρ) : Except Ending (Progress ρ) :=
  match option.value with
  | none => misuse .missingValue
  | some value => do
    let progress <- progress.mention option.name
    let request <- (option.store value progress.request).mapError .misuse
    return { progress with request }

/-- Store the value of the option that is pending. -/
def settle (progress : Progress ρ) : Except Ending (Progress ρ) :=
  match progress.pending with
  | none => .ok progress
  | some option => store { progress with pending := none } option

/-- Take up an option with the value behind its equals sign, if it has one. -/
def takeOption (option : CommandOption ρ) (attached : Option String) (progress : Progress ρ) :
    Except Ending (Progress ρ) :=
  match option.effect with
  | .valued store => do
    let progress <- progress.settle
    let pending : Pending ρ := ⟨option.name, store, attached⟩
    if attached.isSome then progress.store pending
    else return { progress with pending := some pending }
  | .switch set =>
    if attached.isSome then misuse .superfluousValue
    else do
      let progress <- (<- progress.settle).mention option.name
      return { progress with request := set progress.request }
  | .ask _ ending =>
    if attached.isSome then misuse .superfluousValue
    else do
      let _ <- progress.settle
      throw ending

/-- The name of an option, and what stands behind its equals sign. -/
def splitAttached (text : List Char) : String × Option String :=
  match text.span (· ≠ '=') with
  | (name, _ :: value) => (String.ofList name, some (String.ofList value))
  | (name, []) => (String.ofList name, none)

/-- Take up an argument. -/
def take (options : List (CommandOption ρ)) (progress : Progress ρ) (argument : String) :
    Except Ending (Progress ρ) :=
  if progress.closed then misuse .unknownArgument
  else
    match argument.toList with
    | ['-', '-'] => .ok { progress with closed := true }
    | '-' :: '-' :: text =>
      let (name, attached) := splitAttached text
      match options.find? (·.name = name) with
      | some option => takeOption option attached progress
      | none => misuse .unknownArgument
    | '-' :: letter :: _ =>
      let known := options.find? fun option =>
        match option.effect with
        | .ask other _ => other = letter
        | _ => false
      match known with
      | some option => takeOption option none progress
      | none => misuse .unknownArgument
    | _ =>
      match progress.pending with
      | some ⟨name, store, none⟩ =>
        .ok { progress with pending := some ⟨name, store, some argument⟩ }
      | _ => misuse .unknownArgument

/-- What some arguments make of a request. -/
def ofArguments (options : List (CommandOption ρ)) (request : ρ) (arguments : List String) :
    Except Ending ρ := do
  let progress <- arguments.foldlM (take options) { request }
  return (<- progress.settle).request

end Progress

end Starfield
