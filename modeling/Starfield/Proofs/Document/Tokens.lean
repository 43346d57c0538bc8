import Starfield.Document.Token
import Starfield.Proofs.Document.Quoted

namespace Starfield

namespace Tokens

/-!
# Tokens of printed text

The printer puts a delimiter, a gap or nothing behind every name and number, so
each token ends where it was meant to.  Texts are put together from spelled
parts: a part is spelled by some tokens if, whatever delimited text follows, its
tokens come first and then those of what follows.
-/

/-! ## Lexing step by step -/

/-- The tokens of a text, which fuel for every character is enough for. -/
def Lexes (text : List Char) (tokens : List Token) : Prop :=
  forall fuel, text.length < fuel -> listWithin fuel text = some tokens

theorem Lexes.nil : Lexes [] [] := by
  intro fuel enough
  rcases Nat.exists_eq_succ_of_ne_zero enough.ne' with ⟨fuel, rfl⟩
  rfl

theorem skip?_gap {c : Char} (gap : isGap c = true) (rest : List Char) :
    Gap.skip? .between (c :: rest) = Gap.skip? .between rest := by
  have notSlash : c ≠ '/' := by
    rintro rfl
    exact absurd gap (by decide)
  rw [Gap.skip?, if_pos gap]
  · exact fun _ same => absurd same notSlash
  · exact fun _ same => absurd same notSlash

/-- A character that is no gap and begins none. -/
def isSolid (c : Char) : Bool :=
  !isGap c && c ≠ '/'

theorem skip?_solid {c : Char} (solid : isSolid c = true) (rest : List Char) :
    Gap.skip? .between (c :: rest) = some (c :: rest) := by
  simp only [isSolid, Bool.and_eq_true, Bool.not_eq_true', decide_eq_true_eq] at solid
  rw [Gap.skip?, if_neg (by simp [solid.1]), if_neg solid.2]
  · exact fun _ same => absurd same solid.2
  · exact fun _ same => absurd same solid.2

theorem Lexes.gap {c : Char} (gap : isGap c = true) {rest : List Char} {tokens : List Token}
    (lexes : Lexes rest tokens) : Lexes (c :: rest) tokens := by
  intro fuel enough
  have same := lexes fuel ((Nat.lt_succ_self _).trans enough)
  rcases Nat.exists_eq_succ_of_ne_zero (by omega : fuel ≠ 0) with ⟨fuel, rfl⟩
  rw [listWithin] at same ⊢
  rwa [skip?_gap gap]

theorem Lexes.token {c : Char} {text rest : List Char} {token : Token} {tokens : List Token}
    (solid : isSolid c = true) (read : first? (c :: text) = some (token, rest))
    (shorter : rest.length ≤ text.length) (lexes : Lexes rest tokens) :
    Lexes (c :: text) (token :: tokens) := by
  intro fuel enough
  rw [List.length_cons] at enough
  rcases Nat.exists_eq_succ_of_ne_zero (by omega : fuel ≠ 0) with ⟨fuel, rfl⟩
  rw [listWithin, skip?_solid solid]
  dsimp only [Option.bind_eq_bind, Option.bind_some]
  rw [read]
  dsimp only [Option.bind_eq_bind, Option.bind_some]
  rw [lexes fuel (by omega)]
  rfl

theorem Lexes.gaps {gaps rest : List Char} {tokens : List Token}
    (blank : ∀ c ∈ gaps, isGap c = true) (lexes : Lexes rest tokens) :
    Lexes (gaps ++ rest) tokens := by
  induction gaps with
  | nil => exact lexes
  | cons c gaps ih =>
      have others := ih fun d member => blank d (List.mem_cons_of_mem _ member)
      exact .gap (blank c List.mem_cons_self) others

/-! ## Delimiters -/

/-- What the printer puts behind names and numbers. -/
def delimiters : List Char :=
  [',', ')', ']', ':', '(']

/-- Nothing follows, or a delimiter. -/
def Delimits (rest : List Char) : Prop :=
  ∀ c ∈ rest.head?, c ∈ delimiters

theorem Delimits.cons {c : Char} (delimiter : c ∈ delimiters) (rest : List Char) :
    Delimits (c :: rest) := by
  intro d first
  rwa [← Option.some.inj first]

theorem isWide_of_delimiter {c : Char} (delimiter : c ∈ delimiters) : isWide c = false := by
  simp only [delimiters, List.mem_cons, List.not_mem_nil, or_false] at delimiter
  rcases delimiter with rfl | rfl | rfl | rfl | rfl <;> rfl

theorem isWide_of_isIdentifierRest {c : Char} (inside : isIdentifierRest c = true) :
    isWide c = true := by
  simp [isWide, inside]

theorem isIdentifierRest_of_delimiter {c : Char} (delimiter : c ∈ delimiters) :
    isIdentifierRest c = false := by
  have narrow := isWide_of_delimiter delimiter
  simp only [isWide, Bool.or_eq_false_iff] at narrow
  exact narrow.1.1.1

/-- The tokens of a text that delimited text may follow.  Such a text can stand
behind an opening parenthesis. -/
structure Spells (text : List Char) (tokens : List Token) : Prop where
  lexes : forall rest after, Delimits rest -> Lexes rest after ->
    Lexes (text ++ rest) (tokens ++ after)
  begins : Exists fun c => Exists fun others => text = c :: others ∧ c ≠ ')'

theorem Spells.head_ne {text : List Char} {tokens : List Token} (spells : Spells text tokens)
    (rest : List Char) : (text ++ rest).head? ≠ some ')' := by
  rcases spells.begins with ⟨c, others, rfl, other⟩
  exact fun same => other (Option.some.inj same)

/-! ## Marks -/

/-- Every delimiter but an opening parenthesis is a mark, as are brackets. -/
theorem first?_mark {c : Char} (mark : c ∈ [',', ')', ']', ':', '[']) (rest : List Char) :
    first? (c :: rest) = some (.mark c, rest) := by
  simp only [List.mem_cons, List.not_mem_nil, or_false] at mark
  rcases mark with rfl | rfl | rfl | rfl | rfl <;> rfl

theorem first?_parenthesis {rest : List Char} (other : rest.head? ≠ some ')') :
    first? ('(' :: rest) = some (.mark '(', rest) := by
  cases rest with
  | nil => rfl
  | cons c rest =>
      have apart : c ≠ ')' := fun same => other (congrArg some same)
      simp [first?, apart, marks]

theorem Lexes.mark {c : Char} (mark : c ∈ [',', ')', ']', ':', '[']) {rest : List Char}
    {tokens : List Token} (lexes : Lexes rest tokens) : Lexes (c :: rest) (.mark c :: tokens) := by
  have solid : isSolid c = true := by
    simp only [List.mem_cons, List.not_mem_nil, or_false] at mark
    rcases mark with rfl | rfl | rfl | rfl | rfl <;> rfl
  exact lexes.token solid (first?_mark mark rest) le_rfl

theorem Lexes.parenthesis {rest : List Char} (other : rest.head? ≠ some ')') {tokens : List Token}
    (lexes : Lexes rest tokens) : Lexes ('(' :: rest) (.mark '(' :: tokens) :=
  lexes.token rfl (first?_parenthesis other) le_rfl

theorem Lexes.opening {opening : Char} (bracket : opening ∈ ['(', '[']) {rest : List Char}
    (other : rest.head? ≠ some ')') {tokens : List Token} (lexes : Lexes rest tokens) :
    Lexes (opening :: rest) (.mark opening :: tokens) := by
  rcases List.mem_cons.mp bracket with rfl | square
  · exact lexes.parenthesis other
  · rw [List.mem_singleton.mp square]
    exact lexes.mark (by decide)

/-! ## Names and numbers -/

/-- No quotation begins with the letters that a text begins with. -/
def BeginsNoQuotation (text : List Char) : Prop :=
  forall front c tail, text = front ++ c :: tail -> (∀ d ∈ front, isIdentifierRest d = true) ->
    c ∉ ['"', '\'', '#']

theorem first?_run {c : Char} {rest : List Char} (unmarked : c ∉ marks) (notPoint : c ≠ '.')
    (quotes : BeginsNoQuotation (c :: rest)) : first? (c :: rest) = run? (c :: rest) := by
  have letters : ∀ d ∈ ['b', 'r'], isIdentifierRest d = true := by
    simp [isIdentifierRest, isIdentifierStart]
  have one {d : Char} (letter : d ∈ ['b', 'r']) : ∀ e ∈ [d], isIdentifierRest e = true := by
    intro e member
    rw [List.mem_singleton.mp member]
    exact letters d letter
  rw [first?, if_neg unmarked]
  -- What is left is that none of the patterns before the last matches.
  · exact fun _ same _ => absurd (same ▸ by decide) unmarked
  · exact fun _ same _ => notPoint same
  · exact fun _ same _ => notPoint same
  · exact fun same => quotes [] '"' rest (by rw [same]; rfl) (by simp) (by decide)
  · exact fun same => quotes [] '\'' rest (by rw [same]; rfl) (by simp) (by decide)
  · exact fun tail first same =>
      quotes ['b'] '\'' tail (by rw [first, same]; rfl) (one (by decide)) (by decide)
  · exact fun tail first same =>
      quotes ['b'] '"' tail (by rw [first, same]; rfl) (one (by decide)) (by decide)
  · exact fun tail first same =>
      quotes ['b', 'r'] '"' tail (by rw [first, same]; rfl) letters (by decide)
  · exact fun tail first same =>
      quotes ['b', 'r'] '#' tail (by rw [first, same]; rfl) letters (by decide)
  · exact fun tail first same =>
      quotes ['r'] '"' tail (by rw [first, same]; rfl) (one (by decide)) (by decide)
  · exact fun tail first same =>
      quotes ['r'] '#' _ (by rw [first, same]; rfl) (one (by decide)) (by decide)
  · exact fun tail first same =>
      quotes ['r'] '#' _ (by rw [first, same]; rfl) (one (by decide)) (by decide)
  · exact fun tail first same =>
      quotes ['r'] '#' tail (by rw [first, same]; rfl) (one (by decide)) (by decide)

/-- The characters of an identifier. -/
structure IsName (name : List Char) : Prop where
  begins : name.head?.any (fun c => isIdentifierStart c && isSolid c) = true
  letters : name.all isIdentifierRest = true

namespace IsName

variable {name : List Char}

theorem inside (isName : IsName name) : ∀ c ∈ name, isIdentifierRest c = true :=
  List.all_eq_true.mp isName.letters

theorem exists_cons (isName : IsName name) : Exists fun c => Exists fun others =>
    name = c :: others ∧ isIdentifierStart c = true ∧ isSolid c = true := by
  have begins := isName.begins
  cases name with
  | nil => cases begins
  | cons c others =>
      rw [List.head?_cons, Option.any_some, Bool.and_eq_true] at begins
      exact ⟨c, others, rfl, begins⟩

end IsName

theorem isIdentifierStart_of_mark {c : Char} (mark : c ∈ marks ∨ c = '.') :
    isIdentifierStart c = false := by
  simp only [marks, List.mem_cons, List.not_mem_nil, or_false] at mark
  rcases mark with (rfl | rfl | rfl | rfl | rfl | rfl | rfl | rfl | rfl | rfl | rfl) | rfl <;> rfl

/-- A quotation would have to begin where the name or the number ends. -/
theorem beginsNoQuotation_of_isWide {run rest : List Char} (inside : ∀ c ∈ run, isWide c = true)
    (delimited : Delimits rest) : BeginsNoQuotation (run ++ rest) := by
  intro front c tail same letters quote
  have outside : isWide c = false := by
    simp only [List.mem_cons, List.not_mem_nil, or_false] at quote
    rcases quote with rfl | rfl | rfl <;> rfl
  have split := span_append inside fun d first => isWide_of_delimiter (delimited d first)
  have frontWide : ∀ d ∈ front, isWide d = true :=
    fun d member => isWide_of_isIdentifierRest (letters d member)
  have tailNarrow : ∀ d ∈ (c :: tail).head?, isWide d = false := by
    intro d first
    rwa [← Option.some.inj first]
  have other := span_append frontWide tailNarrow
  rw [same, other] at split
  have foreign : ∀ mark ∈ ['"', '\'', '#'], mark ∉ delimiters := by simp [delimiters]
  exact foreign c quote (delimited c ((Prod.mk.inj split).2 ▸ rfl))

theorem first?_name {name rest : List Char} (isName : IsName name) (delimited : Delimits rest) :
    first? (name ++ rest) = some (.name (String.ofList name), rest) := by
  have quotes := beginsNoQuotation_of_isWide
    (fun c member => isWide_of_isIdentifierRest (isName.inside c member)) delimited
  have split := span_append isName.inside
    fun c first => isIdentifierRest_of_delimiter (delimited c first)
  have narrow : rest.head?.any isWide = false := by
    cases rest with
    | nil => rfl
    | cons c rest => exact isWide_of_delimiter (delimited c rfl)
  rcases isName.exists_cons with ⟨c, others, rfl, start, -⟩
  have unmarked : ¬(c ∈ marks ∨ c = '.') := fun mark => by
    rw [isIdentifierStart_of_mark mark] at start
    cases start
  rw [not_or] at unmarked
  rw [List.cons_append] at split quotes ⊢
  rw [first?_run unmarked.1 unmarked.2 quotes, run?, if_pos start, split]
  dsimp only
  rw [narrow]
  rfl

theorem spells_name {name : List Char} (isName : IsName name) :
    Spells name [.name (String.ofList name)] := by
  refine ⟨fun rest after delimited lexes => ?_, ?_⟩
  · have read := first?_name isName delimited
    rcases isName.exists_cons with ⟨c, others, rfl, -, solid⟩
    exact lexes.token solid read (by simp)
  · rcases isName.exists_cons with ⟨c, others, rfl, start, -⟩
    refine ⟨c, others, rfl, ?_⟩
    rintro rfl
    exact absurd start (by decide)

theorem isIdentifierStart_of_isNumberStart {c : Char} (start : isNumberStart c = true) :
    isIdentifierStart c = false := by
  simp only [isNumberStart, Bool.or_eq_true, decide_eq_true_eq] at start
  rcases start with ((digit | rfl) | rfl) | rfl
  · rcases toNat_of_isDigit digit with ⟨low, high⟩
    have notLetter : c.isAlpha = false := by
      simp only [Char.isAlpha, Char.isUpper, Char.isLower, Bool.or_eq_false_iff, Bool.and_eq_false_iff,
        decide_eq_false_iff_not, ge_iff_le, UInt32.le_iff_toNat_le]
      change ¬(65 ≤ c.toNat ∧ c.toNat ≤ 90) ∧ (¬97 ≤ c.toNat ∨ ¬c.toNat ≤ 122)
      omega
    have notUnderscore : c ≠ '_' := by
      rintro rfl
      exact absurd high (by decide)
    rw [isIdentifierStart, if_pos (by omega), notLetter]
    simpa using notUnderscore
  · rfl
  · rfl
  · rfl

/-- The characters of a number. -/
structure IsRun (literal : List Char) : Prop where
  begins : ∀ c ∈ literal.head?, isNumberStart c = true ∧ c ≠ '.'
  inside : ∀ c ∈ literal, isWide c = true
  points : literal.count '.' ≤ 1
  nonempty : literal ≠ []

theorem splitNumber_append {literal rest : List Char} (inside : ∀ c ∈ literal, isWide c = true)
    (points : literal.count '.' ≤ 1) (delimited : Delimits rest) :
    splitNumber (literal ++ rest) = (literal, rest) := by
  have notPoint : rest.head? ≠ some '.' := fun first =>
    absurd (isWide_of_delimiter (delimited '.' first)) (by decide)
  induction literal with
  | nil =>
      cases rest with
      | nil => rfl
      | cons c rest =>
          rw [List.nil_append, splitNumber, isWide_of_delimiter (delimited c rfl),
            if_neg Bool.false_ne_true]
          exact fun _ same => absurd (congrArg some same) notPoint
  | cons c literal ih =>
      have fewer := (List.count_le_count_cons (a := '.') (b := c)).trans points
      rw [List.cons_append, splitNumber, if_pos (inside c List.mem_cons_self),
        ih (fun d member => inside d (List.mem_cons_of_mem _ member)) fewer]
      intro tail same next
      cases literal with
      | nil => exact notPoint (congrArg List.head? next)
      | cons d literal =>
          rw [same, (List.cons.inj next).1, List.count_cons_self, List.count_cons_self] at points
          omega

theorem first?_number {literal rest : List Char} (run : IsRun literal) (delimited : Delimits rest) :
    first? (literal ++ rest) = some (.number literal, rest) := by
  have split := splitNumber_append run.inside run.points delimited
  rcases List.exists_cons_of_ne_nil run.nonempty with ⟨c, others, rfl⟩
  rcases run.begins c rfl with ⟨start, notPoint⟩
  have apart {d : Char} (other : isNumberStart d = false) : c ≠ d := by
    rintro rfl
    rw [start] at other
    cases other
  have unmarked : c ∉ marks := by
    simp only [marks, List.mem_cons, List.not_mem_nil, or_false, not_or]
    exact ⟨apart rfl, apart rfl, apart rfl, apart rfl, apart rfl, apart rfl, apart rfl, apart rfl,
      apart rfl, apart rfl, apart rfl⟩
  have quotes := beginsNoQuotation_of_isWide run.inside delimited
  rw [List.cons_append] at split quotes ⊢
  rw [first?_run unmarked notPoint quotes, run?, isIdentifierStart_of_isNumberStart start,
    if_neg Bool.false_ne_true, if_pos start, split]

theorem isSolid_of_isNumberStart {c : Char} (start : isNumberStart c = true) :
    isSolid c = true := by
  simp only [isNumberStart, Bool.or_eq_true, decide_eq_true_eq] at start
  rcases start with ((digit | rfl) | rfl) | rfl
  · rcases toNat_of_isDigit digit with ⟨low, high⟩
    have notSlash : c ≠ '/' := by
      rintro rfl
      exact absurd low (by decide)
    have notGap : isGap c = false := by
      simp only [isGap, Bool.or_eq_false_iff, Bool.and_eq_false_iff, decide_eq_false_iff_not]
      omega
    simp [isSolid, notGap, notSlash]
  · rfl
  · rfl
  · rfl

theorem spells_number {literal : List Char} (run : IsRun literal) :
    Spells literal [.number literal] := by
  have start := run.begins
  refine ⟨fun rest after delimited lexes => ?_, ?_⟩
  · have read := first?_number run delimited
    rcases List.exists_cons_of_ne_nil run.nonempty with ⟨c, others, rfl⟩
    exact lexes.token (isSolid_of_isNumberStart (start c rfl).1) read (by simp)
  · rcases List.exists_cons_of_ne_nil run.nonempty with ⟨c, others, rfl⟩
    refine ⟨c, others, rfl, ?_⟩
    rintro rfl
    exact absurd (start ')' rfl).1 (by decide)

/-! ## Quotations -/

theorem spells_quote (content : List Char) :
    Spells (Quoted.quote content) [.text (String.ofList content)] := by
  refine ⟨fun rest after _ lexes => ?_, '"', _, rfl, by decide⟩
  have read : first? (Quoted.quote content ++ rest) = some (.text (String.ofList content), rest) := by
    rw [Quoted.quote, List.cons_append, List.append_assoc, List.singleton_append]
    change quotedText? _ = _
    rw [quotedText?, Quoted.items?_quote]
    rfl
  exact lexes.token rfl read (by simp; omega)

end Tokens

end Starfield
