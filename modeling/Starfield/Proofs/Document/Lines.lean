import Starfield.Proofs.Document.Printed

namespace Starfield

/-!
# Records with a line for each field

A line is the text of one field, with a comma behind it.  Lines are read one by
one, so a record is read from whatever lines stand in it: lines may be left out,
and lines of other fields may be put in between, with blanks and comments of
their own.
-/

namespace Value

open Tokens (Spells Lexes IsName)

/-- A text that is read as a field up to its comma, whatever follows. -/
structure IsLine (text : List Char) (tokens : List Token) (field : String × Value) : Prop where
  lexes : forall rest after, Lexes rest after -> Lexes (text ++ rest) (tokens ++ .mark ',' :: after)
  reads : forall fuel rest, tokens.length ≤ fuel + 1 ->
    field? (ofTokens? {} (fuel + 1)) (tokens ++ .mark ',' :: rest) = some (field, .mark ',' :: rest)

/-- A line as it is printed at a level. -/
def line (level : ℕ) (name : String) (text : List Char) : List Char :=
  indentation level ++ fieldText name text ++ [',', '\n']

theorem isLine_line (level : ℕ) {name : String} (isName : IsName name.toList) {text : List Char}
    {tokens : List Token} {value : Value} (spells : Spells text tokens) (parses : Parses tokens value) :
    IsLine (line level name text) (.name name :: .mark ':' :: tokens) (name, value) := by
  refine ⟨fun rest after lexes => ?_, fun fuel rest enough => ?_⟩
  · have comma : Lexes (',' :: '\n' :: rest) (.mark ',' :: after) :=
      .mark (by decide) (.gap (by decide) lexes)
    have field := (spells_field isName spells).lexes _ _ (.cons (by decide) _) comma
    simpa [line, List.append_assoc] using Part.lexes_indentation level field
  · rw [List.length_cons, List.length_cons] at enough
    exact field?_of_parses isName parses (by omega) ',' rest

/-- The tokens of a line begin with a name and a colon. -/
theorem IsLine.begins {text : List Char} {tokens : List Token} {field : String × Value}
    (isLine : IsLine text tokens field) :
    Exists fun name => Exists fun others => tokens = .name name :: .mark ':' :: others := by
  have read := isLine.reads tokens.length [] (Nat.le_succ _)
  rcases tokens with - | ⟨first, - | ⟨second, others⟩⟩
  · cases read
  · unfold field? at read
    split at read
    next same => cases (List.cons.inj (List.cons.inj same).2).1
    next => cases read
  · unfold field? at read
    split at read
    next name _ same =>
      simp only [List.cons_append, List.cons.injEq] at same
      rcases same with ⟨rfl, rfl, -⟩
      exact ⟨name, others, rfl⟩
    next => cases read

/-- The text of some lines, their tokens, and the fields that are read from
them. -/
structure AreLines (text : List Char) (tokens : List Token) (fields : List (String × Value)) : Prop where
  lexes : forall rest after, Lexes rest after -> Lexes (text ++ rest) (tokens ++ after)
  reads : forall fuel count rest, tokens.length ≤ fuel + 1 -> fields.length < count ->
    separated? (field? (ofTokens? {} (fuel + 1))) ')' count (tokens ++ .mark ')' :: rest) =
      some (fields, rest)
  few : fields.length ≤ tokens.length
  begins : tokens ≠ [] ->
    Exists fun name => Exists fun others => tokens = .name name :: .mark ':' :: others

theorem AreLines.nil : AreLines [] [] [] := by
  refine ⟨fun _ _ lexes => lexes, fun fuel count rest _ enough => ?_, le_rfl, absurd rfl⟩
  rcases Nat.exists_eq_succ_of_ne_zero enough.ne' with ⟨count, rfl⟩
  exact Part.separated?_close count rest

theorem AreLines.cons {text others : List Char} {tokens behind : List Token} {field : String × Value}
    {fields : List (String × Value)} (isLine : IsLine text tokens field)
    (areLines : AreLines others behind fields) :
    AreLines (text ++ others) (tokens ++ .mark ',' :: behind) (field :: fields) := by
  rcases isLine.begins with ⟨name, tail, begun⟩
  refine ⟨fun rest after lexes => ?_, fun fuel count rest short enough => ?_, ?_, fun _ => ?_⟩
  · have whole := isLine.lexes _ _ (areLines.lexes rest after lexes)
    simpa [List.append_assoc] using whole
  · rw [List.length_append, List.length_cons] at short
    rw [List.length_cons] at enough
    rcases Nat.exists_eq_succ_of_ne_zero (by omega : count ≠ 0) with ⟨count, rfl⟩
    have read := isLine.reads fuel (behind ++ .mark ')' :: rest) (by omega)
    have reads := areLines.reads fuel count rest (by omega) (by omega)
    rw [List.append_assoc, List.cons_append]
    refine Part.separated?_comma ?_ read reads
    rw [begun]
    exact fun same => by cases Option.some.inj same
  · have few := areLines.few
    simp only [List.length_append, List.length_cons]
    omega
  · exact ⟨name, _, by rw [begun]; rfl⟩

/-- Fields in parentheses, with a line for each. -/
def lined (level : ℕ) (lines : List Char) : List Char :=
  '(' :: '\n' :: (lines ++ (indentation level ++ [')']))

/-- The outer levels of a record have a line for each field. -/
theorem chars_lined {level : ℕ} (wide : level < widestLevel) {fields : List (String × Value)}
    (nonempty : fields ≠ []) :
    chars level (.record .unnamed fields) =
      lined level (fields.flatMap fun field => line (level + 1) field.1 (chars (level + 1) field.2)) := by
  have texts : fields.map (fun field => fieldText field.1 (chars (level + 1) field.2)) ≠ [] := by
    simpa using nonempty
  rw [chars_record level nonempty, enclose, if_neg texts, if_pos wide, List.flatMap_map, lined,
    List.append_assoc]
  rfl

theorem means_lined (level : ℕ) {text : List Char} {tokens : List Token}
    {fields : List (String × Value)} (areLines : AreLines text tokens fields) :
    Means (lined level text) (.record .unnamed fields) := by
  refine ⟨.mark '(' :: (tokens ++ [.mark ')']), ⟨fun rest after _ lexes => ?_, '(', _, rfl, by decide⟩,
    fun fuel rest enough closed => ?_, _, _, rfl, by decide⟩
  · have closes : Lexes (indentation level ++ ')' :: rest) (.mark ')' :: after) :=
      Part.lexes_indentation level (.mark (by decide) lexes)
    have inside := areLines.lexes _ _ closes
    have opened := Lexes.parenthesis (by simp) (.gap (c := '\n') (by decide) inside)
    simpa [lined, List.append_assoc] using opened
  · rw [List.length_cons, List.length_append, List.length_singleton] at enough
    have few := areLines.few
    rcases Nat.exists_eq_succ_of_ne_zero (by omega : fuel ≠ 0) with ⟨fuel, rfl⟩
    have read := areLines.reads fuel (fuel + 1 + 1) rest (by omega) (by omega)
    rw [List.cons_append, List.append_assoc, List.singleton_append]
    rcases eq_or_ne tokens [] with rfl | nonempty
    · exact congrArg (Option.map fun found => (Value.record .unnamed found.1, found.2)) read
    · rcases areLines.begins nonempty with ⟨name, others, rfl⟩
      exact parenthesized?_fields read

end Value

end Starfield
