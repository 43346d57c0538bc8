import Starfield.Document.Printer
import Starfield.Document.Reader
import Starfield.Proofs.Document.Tokens

namespace Starfield

/-!
# Printed values read back

A plain value is printed as text that reads as that value at every level, on
one line or on many.  What stands in brackets is taken as a row of parts, each
with its text, its tokens and what is read from them.  Text and tokens are
joined in step, so whether the last part has a comma behind it is decided once.
-/

namespace Value

open Tokens (Spells Lexes Delimits IsName IsRun)

/-! ## Parts of brackets -/

/-- Something between brackets: its text, its tokens and what they say. -/
structure Part (α : Type) where
  text : List Char
  tokens : List Token
  value : α

namespace Part

variable {α : Type}

/-- The tokens of some parts.  With `trailing` there is a comma behind the last
one too. -/
def joined (trailing : Bool) : List (Part α) -> List Token
  | [] => []
  | [last] => last.tokens ++ if trailing then [.mark ','] else []
  | part :: parts => part.tokens ++ .mark ',' :: joined trailing parts

theorem joined_eq_append (trailing : Bool) (part : Part α) (parts : List (Part α)) :
    Exists fun tail => joined trailing (part :: parts) = part.tokens ++ tail := by
  cases parts with
  | nil => exact ⟨_, rfl⟩
  | cons next parts => exact ⟨_, rfl⟩

theorem joined_trailing (part : Part α) (parts : List (Part α)) :
    joined true (part :: parts) = part.tokens ++ .mark ',' :: joined true parts := by
  cases parts <;> rfl

theorem lexes_indentation (level : ℕ) {rest : List Char} {tokens : List Token}
    (lexes : Lexes rest tokens) : Lexes (indentation level ++ rest) tokens := by
  apply lexes.gaps
  intro c member
  rw [(List.mem_replicate.mp member).2]
  rfl

/-- Parts with a line for each. -/
theorem lexes_lines (level : ℕ) {parts : List (Part α)}
    (spelled : ∀ part ∈ parts, Spells part.text part.tokens) {rest : List Char}
    {after : List Token} (lexes : Lexes rest after) :
    Lexes ((parts.map (·.text)).flatMap (fun item => indentation level ++ item ++ [',', '\n']) ++ rest)
      (joined true parts ++ after) := by
  induction parts with
  | nil => exact lexes
  | cons part parts ih =>
      have others := ih fun other member => spelled other (List.mem_cons_of_mem _ member)
      have line : Lexes (',' :: '\n' ::
          ((parts.map (·.text)).flatMap (fun item => indentation level ++ item ++ [',', '\n']) ++ rest))
          (.mark ',' :: (joined true parts ++ after)) :=
        .mark (by decide) (.gap (by decide) others)
      have whole := (spelled part List.mem_cons_self).lexes _ _ (.cons (by decide) _) line
      have indented := lexes_indentation level whole
      rw [joined_trailing]
      simpa only [List.map_cons, List.flatMap_cons, List.append_assoc, List.cons_append,
        List.nil_append] using indented

/-- Parts on one line. -/
theorem lexes_line {parts : List (Part α)} (spelled : ∀ part ∈ parts, Spells part.text part.tokens)
    {closing : Char} (delimiter : closing ∈ Tokens.delimiters) {rest : List Char} {after : List Token}
    (lexes : Lexes (closing :: rest) after) :
    Lexes ([',', ' '].intercalate (parts.map (·.text)) ++ closing :: rest)
      (joined false parts ++ after) := by
  induction parts with
  | nil => exact lexes
  | cons part parts ih =>
      have first := spelled part List.mem_cons_self
      have others := ih fun other member => spelled other (List.mem_cons_of_mem _ member)
      cases parts with
      | nil =>
          have alone := first.lexes _ _ (.cons delimiter rest) lexes
          simpa [joined, List.intercalate] using alone
      | cons next parts =>
          have whole := first.lexes _ _ (.cons (by decide) _)
            (.mark (c := ',') (by decide) (.gap (c := ' ') (by decide) others))
          simpa [joined, List.intercalate, List.intersperse, List.append_assoc] using whole

/-- Parts between brackets, with a line for each at the outer levels. -/
theorem spells_enclose (level : ℕ) {opening closing : Char}
    (brackets : (opening, closing) ∈ [('(', ')'), ('[', ']')]) {parts : List (Part α)}
    (nonempty : parts ≠ []) (spelled : ∀ part ∈ parts, Spells part.text part.tokens) :
    Spells (enclose level opening closing (parts.map (·.text)))
      (.mark opening :: (joined (level < widestLevel) parts ++ [.mark closing])) := by
  have facts : opening ∈ ['(', '['] ∧ opening ≠ ')' ∧ closing ∈ Tokens.delimiters ∧
      closing ∈ [',', ')', ']', ':', '['] := by
    simp only [List.mem_cons, Prod.mk.injEq, List.not_mem_nil, or_false] at brackets
    rcases brackets with ⟨rfl, rfl⟩ | ⟨rfl, rfl⟩ <;> decide
  have texts : parts.map (·.text) ≠ [] := by simpa using nonempty
  unfold enclose
  rw [if_neg texts]
  split_ifs with wide
  · refine ⟨fun rest after _ lexes => ?_, opening, _, rfl, facts.2.1⟩
    have closes := lexes_indentation level (.mark facts.2.2.2 lexes)
    have inside := lexes_lines (level + 1) spelled closes
    have whole := Lexes.opening facts.1 (by simp) (.gap (c := '\n') (by decide) inside)
    simpa [wide] using whole
  · refine ⟨fun rest after _ lexes => ?_, opening, _, rfl, facts.2.1⟩
    have inside := lexes_line spelled facts.2.2.1 (.mark facts.2.2.2 lexes)
    have begins : ([',', ' '].intercalate (parts.map (·.text)) ++ closing :: rest).head? ≠
        some ')' := by
      rcases List.exists_cons_of_ne_nil nonempty with ⟨part, others, rfl⟩
      have front : Exists fun tail =>
          [',', ' '].intercalate ((part :: others).map (·.text)) = part.text ++ tail := by
        cases others with
        | nil => exact ⟨[], by simp [List.intercalate]⟩
        | cons next others => exact ⟨_, by simp [List.intercalate]; rfl⟩
      rcases front with ⟨tail, written⟩
      rw [written, List.append_assoc]
      exact (spelled part List.mem_cons_self).head_ne _
    have whole := Lexes.opening facts.1 begins inside
    simpa [wide] using whole

/-- A part is read by a reader of elements, before whatever mark. -/
structure Reads (element : List Token -> Option (α × List Token)) (closing : Char) (part : Part α) :
    Prop where
  reads : forall c rest, element (part.tokens ++ .mark c :: rest) = some (part.value, .mark c :: rest)
  begins : forall rest, (part.tokens ++ rest).head? ≠ some (.mark closing)

section Separated

variable {element : List Token -> Option (α × List Token)} {closing : Char}

theorem separated?_close (fuel : ℕ) (rest : List Token) :
    separated? element closing (fuel + 1) (.mark closing :: rest) = some ([], rest) := by
  rw [separated?, if_pos List.head?_cons]
  rfl

theorem Reads.separated?_last {part : Part α} (reads : Reads element closing part)
    (notComma : closing ≠ ',') (fuel : ℕ) (rest : List Token) :
    separated? element closing (fuel + 1) (part.tokens ++ .mark closing :: rest) =
      some ([part.value], rest) := by
  rw [separated?, if_neg (reads.begins _), reads.reads]
  dsimp only [Option.bind_eq_bind, Option.bind_some]
  split
  next same => exact absurd (Token.mark.inj (List.cons.inj same).1) notComma
  next same =>
    rcases List.cons.inj same with ⟨mark, rfl⟩
    rw [if_pos (Token.mark.inj mark).symm]
  next other => exact absurd rfl (other closing rest)

/-- An element that is read up to a comma comes before those behind the comma. -/
theorem separated?_comma {tokens tail rest : List Token} {first : α} {others : List α} {fuel : ℕ}
    (other : tokens.head? ≠ some (.mark closing))
    (read : element tokens = some (first, .mark ',' :: tail))
    (behind : separated? element closing fuel tail = some (others, rest)) :
    separated? element closing (fuel + 1) tokens = some (first :: others, rest) := by
  rw [separated?, if_neg other, read]
  change ((separated? element closing fuel tail).bind fun found =>
    some (first :: found.1, found.2)) = _
  rw [behind]
  rfl

/-- Joined parts are read up to the closing mark. -/
theorem separated?_joined (notComma : closing ≠ ',') (trailing : Bool) {parts : List (Part α)}
    (reads : ∀ part ∈ parts, Reads element closing part) {fuel : ℕ} (enough : parts.length < fuel)
    (rest : List Token) :
    separated? element closing fuel (joined trailing parts ++ .mark closing :: rest) =
      some (parts.map (·.value), rest) := by
  induction parts generalizing fuel with
  | nil =>
      rcases Nat.exists_eq_succ_of_ne_zero (by omega : fuel ≠ 0) with ⟨fuel, rfl⟩
      exact separated?_close fuel rest
  | cons part parts ih =>
      rcases Nat.exists_eq_succ_of_ne_zero (by omega : fuel ≠ 0) with ⟨fuel, rfl⟩
      rw [List.length_cons] at enough
      have first := reads part List.mem_cons_self
      have others : separated? element closing fuel (joined trailing parts ++ .mark closing :: rest) =
          some (parts.map (·.value), rest) :=
        ih (fun other member => reads other (List.mem_cons_of_mem _ member)) (by omega)
      cases parts with
      | nil =>
          cases trailing with
          | false =>
              simpa [joined] using first.separated?_last notComma fuel rest
          | true =>
              simpa [joined] using separated?_comma (first.begins _) (first.reads _ _) others
      | cons next parts =>
          have comma := separated?_comma (first.begins _) (first.reads _ _) others
          simpa [joined, List.append_assoc] using comma

end Separated

end Part

/-! ## Rows of parts -/

/-- Parts for texts and values that have one each. -/
theorem exists_parts {α : Type} {good : Part α -> Prop} {texts : List (List Char)} {values : List α}
    (each : List.Forall₂ (fun text value => Exists fun tokens => good ⟨text, tokens, value⟩)
      texts values) :
    Exists fun parts : List (Part α) => parts.map (·.text) = texts ∧
      parts.map (·.value) = values ∧ ∀ part ∈ parts, good part := by
  induction each with
  | nil => exact ⟨[], rfl, rfl, by simp⟩
  | @cons text value texts values first _ ih =>
      rcases first with ⟨tokens, first⟩
      rcases ih with ⟨parts, rfl, rfl, others⟩
      exact ⟨⟨text, tokens, value⟩ :: parts, rfl, rfl, List.forall_mem_cons.mpr ⟨first, others⟩⟩

namespace Part

variable {α : Type}

theorem length_tokens_le {trailing : Bool} {parts : List (Part α)} {part : Part α}
    (member : part ∈ parts) : part.tokens.length ≤ (joined trailing parts).length := by
  induction parts with
  | nil => cases member
  | cons first parts ih =>
      cases parts with
      | nil =>
          rw [List.mem_singleton.mp member, joined, List.length_append]
          exact Nat.le_add_right _ _
      | cons next parts =>
          rw [joined, List.length_append, List.length_cons]
          · rcases List.mem_cons.mp member with rfl | member
            · exact Nat.le_add_right _ _
            · have others := ih member
              omega
          · exact List.cons_ne_nil _ _

theorem length_le {trailing : Bool} {parts : List (Part α)}
    (nonempty : ∀ part ∈ parts, 0 < part.tokens.length) :
    parts.length ≤ (joined trailing parts).length := by
  induction parts with
  | nil => exact le_rfl
  | cons first parts ih =>
      have begun := nonempty first List.mem_cons_self
      have others := ih fun part member => nonempty part (List.mem_cons_of_mem _ member)
      cases parts with
      | nil =>
          rw [joined, List.length_append, List.length_singleton]
          omega
      | cons next parts =>
          simp only [joined, List.length_append, List.length_cons] at others ⊢
          omega

/-- A part that is spelled, and that a reader with fuel for its tokens reads. -/
structure IsItem (element : ℕ -> List Token -> Option (α × List Token)) (closing : Char)
    (part : Part α) : Prop where
  spells : Spells part.text part.tokens
  reads : forall fuel, part.tokens.length ≤ fuel + 1 -> Reads (element (fuel + 1)) closing part

theorem IsItem.length_pos {element : ℕ -> List Token -> Option (α × List Token)} {closing : Char}
    {part : Part α} (item : IsItem element closing part) : 0 < part.tokens.length := by
  rcases part with ⟨text, tokens, value⟩
  cases tokens with
  | nil => exact absurd rfl ((item.reads 0 (Nat.zero_le _)).begins [.mark closing])
  | cons token tokens => exact Nat.succ_pos _

/-- A row of items is read up to the closing mark with fuel for all its tokens. -/
theorem separated?_items {element : ℕ -> List Token -> Option (α × List Token)} {closing : Char}
    (notComma : closing ≠ ',') {trailing : Bool} {parts : List (Part α)}
    (items : ∀ part ∈ parts, IsItem element closing part) {fuel : ℕ}
    (enough : (joined trailing parts).length ≤ fuel) (rest : List Token) :
    separated? (element (fuel + 1)) closing (fuel + 1 + 1)
      (joined trailing parts ++ .mark closing :: rest) = some (parts.map (·.value), rest) := by
  have few : parts.length ≤ (joined trailing parts).length :=
    length_le fun part member => (items part member).length_pos
  have reads : ∀ part ∈ parts, Reads (element (fuel + 1)) closing part := by
    intro part member
    have short : part.tokens.length ≤ (joined trailing parts).length := length_tokens_le member
    exact (items part member).reads fuel (by omega)
  exact separated?_joined notComma trailing reads (by omega) rest

end Part

/-! ## Values -/

/-- Nothing follows, or a mark. -/
def Closes (rest : List Token) : Prop :=
  ∀ token ∈ rest.head?, Exists fun c => token = .mark c

/-- The closing marks, and the one that attributes begin with. -/
def foreignStarts : List Token :=
  [.mark ')', .mark ']', .mark '#']

/-- The tokens of a value, which fuel for each token is enough for.  They
begin neither with a closing mark nor like an attribute. -/
structure Parses (tokens : List Token) (value : Value) : Prop where
  reads : forall fuel rest, tokens.length ≤ fuel + 1 -> Closes rest ->
    ofTokens? {} (fuel + 1) (tokens ++ rest) = some (value, rest)
  begins : Exists fun token => Exists fun others =>
    tokens = token :: others ∧ token ∉ foreignStarts

/-- A literal that the printer writes: a word or a run of characters. -/
inductive IsLiteral (literal : List Char) : Prop
  | word (isName : IsName literal) (isWord : Literal.isWord (String.ofList literal) = true)
      (other : String.ofList literal ∉ ["true", "false", "None", "Some"])
  | run (isRun : IsRun literal) (isNumber : Literal.isNumber literal = true)

/-- Values of the kinds that the settings are written with. -/
inductive Plain : Value -> Prop
  | flag (value : Bool) : Plain (.flag value)
  | number (literal : List Char) (isLiteral : IsLiteral literal) : Plain (.number literal)
  | text (content : String) : Plain (.text content)
  | list (items : List Value) (inside : ∀ item ∈ items, Plain item) : Plain (.list items)
  | record (fields : List (String × Value)) (nonempty : fields ≠ [])
      (names : ∀ field ∈ fields, IsName field.1.toList) (inside : ∀ field ∈ fields, Plain field.2) :
      Plain (.record .unnamed fields)
  | absent : Plain .absent
  | present (value : Value) (inside : Plain value) : Plain (.present value)

/-- A text has tokens that are read as a value. -/
def Means (text : List Char) (value : Value) : Prop :=
  Exists fun tokens => Spells text tokens ∧ Parses tokens value

theorem bounded?_number {literal : List Char} {tokens rest : List Token}
    (read : bound? (tokens ++ rest) = some (.number literal, rest))
    (closed : Closes rest) :
    bounded? (tokens ++ rest) = some (.number literal, rest) := by
  rw [bounded?, read]
  dsimp only [Option.bind_eq_bind, Option.bind_some]
  cases rest with
  | nil => rfl
  | cons token rest =>
      rcases closed token rfl with ⟨c, rfl⟩
      rfl

theorem Parses.single {token : Token} {value : Value} (other : token ∉ foreignStarts)
    (reads : forall fuel rest, Closes rest ->
      ofTokens? {} (fuel + 1) (token :: rest) = some (value, rest)) : Parses [token] value :=
  ⟨fun fuel rest _ closed => reads fuel rest closed, token, [], rfl, other⟩

theorem means_flag (level : ℕ) (value : Bool) : Means (chars level (.flag value)) (.flag value) := by
  cases value with
  | false =>
      exact ⟨[.name "false"], Tokens.spells_name ⟨rfl, rfl⟩, .single (by decide) fun _ _ _ => rfl⟩
  | true =>
      exact ⟨[.name "true"], Tokens.spells_name ⟨rfl, rfl⟩, .single (by decide) fun _ _ _ => rfl⟩

theorem means_absent : Means "None".toList .absent :=
  ⟨[.name "None"], Tokens.spells_name ⟨rfl, rfl⟩, .single (by decide) fun _ _ _ => rfl⟩

theorem means_text (content : String) : Means (Quoted.quote content.toList) (.text content) := by
  have spells := Tokens.spells_quote content.toList
  rw [String.ofList_toList] at spells
  exact ⟨[.text content], spells, .single (by simp [foreignStarts]) fun _ _ _ => rfl⟩

theorem means_number {literal : List Char} (isLiteral : IsLiteral literal) :
    Means literal (.number literal) := by
  cases isLiteral with
  | word isName isWord other =>
      refine ⟨[.name (String.ofList literal)], Tokens.spells_name isName,
        .single (by simp [foreignStarts]) ?_⟩
      intro fuel rest closed
      simp only [List.mem_cons, List.not_mem_nil, or_false, not_or] at other
      have read : bound? ([.name (String.ofList literal)] ++ rest) =
          some (.number literal, rest) := by
        rw [List.singleton_append, bound?, if_pos isWord, String.toList_ofList]
      have whole := bounded?_number read closed
      rw [ofTokens?, if_neg other.1, if_neg other.2.1, if_neg other.2.2.1, if_neg other.2.2.2,
        if_pos isWord]
      exact whole
  | run isRun isNumber =>
      refine ⟨[.number literal], Tokens.spells_number isRun, .single (by simp [foreignStarts]) ?_⟩
      intro fuel rest closed
      have read : bound? ([.number literal] ++ rest) = some (.number literal, rest) := by
        rw [List.singleton_append, bound?, if_pos isNumber]
      exact bounded?_number read closed

theorem chars_list (level : ℕ) (items : List Value) :
    chars level (.list items) = enclose level '[' ']' (items.map (chars (level + 1))) := by
  have each (level : ℕ) : itemChars level items = items.map (chars level) := by
    induction items with
    | nil => rfl
    | cons item items ih => rw [itemChars, ih, List.map_cons]
  rw [chars, each]

/-- The text of a field by its name and the text of its value. -/
def fieldText (name : String) (text : List Char) : List Char :=
  name.toList ++ ':' :: ' ' :: text

theorem chars_record (level : ℕ) {fields : List (String × Value)} (nonempty : fields ≠ []) :
    chars level (.record .unnamed fields) =
      enclose level '(' ')' (fields.map fun field => fieldText field.1 (chars (level + 1) field.2)) := by
  have each (level : ℕ) : fieldChars level fields =
      fields.map fun field => fieldText field.1 (chars level field.2) := by
    clear nonempty
    induction fields with
    | nil => rfl
    | cons field fields ih => rw [fieldChars, ih, List.map_cons, fieldText]
  have texts : fields.map (fun field => fieldText field.1 (chars (level + 1) field.2)) ≠ [] := by
    simpa using nonempty
  rw [chars, each, encloseFields, if_neg texts]
  rfl

/-- A value is an item of a list, or of parentheses. -/
theorem Parses.isItem {tokens : List Token} {value : Value} (parses : Parses tokens value)
    {closing : Char} (bracket : closing ∈ [')', ']']) {text : List Char}
    (spells : Spells text tokens) : Part.IsItem (ofTokens? {}) closing ⟨text, tokens, value⟩ := by
  refine ⟨spells, fun fuel enough => ⟨fun c rest => parses.reads fuel _ enough ?_, fun rest => ?_⟩⟩
  · exact fun token first => ⟨c, (Option.some.inj first).symm⟩
  · rcases parses.begins with ⟨token, others, rfl, other⟩
    intro same
    rw [Option.some.inj same] at other
    simp only [List.mem_cons, List.not_mem_nil, or_false] at bracket
    rcases bracket with rfl | rfl <;> exact other (by decide)

/-- Items that are said each say a list. -/
theorem means_list (level : ℕ) {texts : List (List Char)} {items : List Value}
    (inside : List.Forall₂ Means texts items) : Means (enclose level '[' ']' texts) (.list items) := by
  rcases eq_or_ne texts [] with rfl | nonempty
  · cases inside
    refine ⟨[.mark '[', .mark ']'], ⟨fun rest after _ lexes => ?_, '[', _, rfl, by decide⟩, ?_⟩
    · exact .mark (by decide) (.mark (by decide) lexes)
    · refine ⟨fun fuel rest _ _ => ?_, _, _, rfl, by decide⟩
      change (separated? (ofTokens? {} fuel) ']' (fuel + 1) (.mark ']' :: rest)).bind
        (fun found => some (Value.list found.1, found.2)) = _
      rw [Part.separated?_close]
      rfl
  · have each : List.Forall₂ (fun text item => Exists fun tokens =>
        Part.IsItem (ofTokens? {}) ']' ⟨text, tokens, item⟩) texts items := by
      refine inside.imp fun text item means => ?_
      rcases means with ⟨tokens, spells, parses⟩
      exact ⟨tokens, parses.isItem (by decide) spells⟩
    rcases exists_parts each with ⟨parts, rfl, rfl, good⟩
    have partsNonempty : parts ≠ [] := by
      rintro rfl
      exact nonempty rfl
    have brackets : ('[', ']') ∈ [('(', ')'), ('[', ']')] := by decide
    have spells := Part.spells_enclose level brackets partsNonempty
      fun part member => (good part member).spells
    refine ⟨_, spells, fun fuel rest enough closed => ?_, _, _, rfl, by decide⟩
    rw [List.length_cons, List.length_append, List.length_singleton] at enough
    rcases Nat.exists_eq_succ_of_ne_zero (by omega : fuel ≠ 0) with ⟨fuel, rfl⟩
    have short : (Part.joined (level < widestLevel) parts).length ≤ fuel := by omega
    have read := Part.separated?_items (by decide) good short rest
    rw [List.cons_append, List.append_assoc, List.singleton_append]
    change (separated? (ofTokens? {} (fuel + 1)) ']' (fuel + 1 + 1)
      (Part.joined (level < widestLevel) parts ++ .mark ']' :: rest)).bind
        (fun found => some (Value.list found.1, found.2)) = _
    rw [read]
    rfl

/-- The mark of a raw name is no part of an identifier. -/
theorem bareName_of_isName {name : String} (isName : IsName name.toList) : bareName name = name := by
  unfold bareName
  split
  next rest same =>
    have hash := isName.inside '#' (by rw [same]; simp)
    exact absurd hash (by decide)
  · rfl

/-- A field is spelled by its name, a colon and its value. -/
theorem spells_field {name : String} (isName : IsName name.toList) {text : List Char}
    {tokens : List Token} (spells : Spells text tokens) :
    Spells (fieldText name text) (.name name :: .mark ':' :: tokens) := by
  have named := Tokens.spells_name isName
  rw [String.ofList_toList] at named
  refine ⟨fun rest after delimited lexes => ?_, ?_⟩
  · have value := spells.lexes rest after delimited lexes
    have behind : Lexes (':' :: ' ' :: (text ++ rest)) (.mark ':' :: (tokens ++ after)) :=
      .mark (by decide) (.gap (by decide) value)
    have whole := named.lexes _ _ (.cons (by decide) _) behind
    simpa [fieldText, List.append_assoc] using whole
  · rcases named.begins with ⟨c, others, written, other⟩
    refine ⟨c, others ++ ':' :: ' ' :: text, ?_, other⟩
    rw [fieldText, written, List.cons_append]

/-- A field is read up to a mark. -/
theorem field?_of_parses {name : String} (isName : IsName name.toList) {tokens : List Token}
    {value : Value} (parses : Parses tokens value) {fuel : ℕ} (enough : tokens.length ≤ fuel + 1)
    (c : Char) (rest : List Token) :
    field? (ofTokens? {} (fuel + 1)) (.name name :: .mark ':' :: (tokens ++ .mark c :: rest)) =
      some ((name, value), .mark c :: rest) := by
  have read : ofTokens? {} (fuel + 1) (tokens ++ .mark c :: rest) = some (value, .mark c :: rest) :=
    parses.reads fuel _ enough fun token first => ⟨c, (Option.some.inj first).symm⟩
  simp only [field?, read, bareName_of_isName isName]
  rfl

/-- An item of a record.  The reader looks at its first two tokens to tell a
record from other contents of parentheses. -/
structure IsField (part : Part (String × Value)) : Prop where
  isItem : Part.IsItem (fun fuel => field? (ofTokens? {} fuel)) ')' part
  begins : Exists fun name => Exists fun others => part.tokens = .name name :: .mark ':' :: others

/-- A field is an item of a record. -/
theorem isItem_field {name : String} (isName : IsName name.toList) {text : List Char}
    {tokens : List Token} {value : Value} (spells : Spells text tokens) (parses : Parses tokens value) :
    Part.IsItem (fun fuel => field? (ofTokens? {} fuel)) ')'
      ⟨fieldText name text, .name name :: .mark ':' :: tokens, (name, value)⟩ := by
  refine ⟨spells_field isName spells, fun fuel enough => ⟨fun c rest => ?_, fun rest same => ?_⟩⟩
  · rw [List.length_cons, List.length_cons] at enough
    exact field?_of_parses isName parses (by omega) c rest
  · cases Option.some.inj same

theorem parenthesized?_fields {element : List Token -> Option (Value × List Token)} {fuel : ℕ}
    {name : String} {tokens rest : List Token} {fields : List (String × Value)} {head : Head}
    (read : separated? (field? element) ')' fuel (.name name :: .mark ':' :: tokens) =
      some (fields, rest)) :
    parenthesized? element fuel head (.name name :: .mark ':' :: tokens) =
      some (.record head fields, rest) := by
  simp [parenthesized?, read]

theorem means_record (level : ℕ) {fields : List (String × Value)} (nonempty : fields ≠ [])
    (names : ∀ field ∈ fields, IsName field.1.toList)
    (inside : ∀ field ∈ fields, Means (chars (level + 1) field.2) field.2) :
    Means (chars level (.record .unnamed fields)) (.record .unnamed fields) := by
  have each : List.Forall₂ (fun text field => Exists fun tokens => IsField ⟨text, tokens, field⟩)
      (fields.map fun field => fieldText field.1 (chars (level + 1) field.2)) fields := by
    rw [List.forall₂_map_left_iff, List.forall₂_same]
    intro field member
    rcases inside field member with ⟨tokens, spells, parses⟩
    exact ⟨_, isItem_field (names field member) spells parses, field.1, tokens, rfl⟩
  rcases exists_parts each with ⟨parts, texts, rfl, good⟩
  rcases parts with - | ⟨part, parts⟩
  · exact absurd rfl nonempty
  have brackets : ('(', ')') ∈ [('(', ')'), ('[', ']')] := by decide
  have spells := Part.spells_enclose level brackets (List.cons_ne_nil part parts)
    fun other member => (good other member).isItem.spells
  rw [texts, ← chars_record level nonempty] at spells
  refine ⟨_, spells, fun fuel rest enough closed => ?_, _, _, rfl, by decide⟩
  rw [List.length_cons, List.length_append, List.length_singleton] at enough
  rcases Nat.exists_eq_succ_of_ne_zero (by omega : fuel ≠ 0) with ⟨fuel, rfl⟩
  have short : (Part.joined (level < widestLevel) (part :: parts)).length ≤ fuel := by omega
  have read := Part.separated?_items (by decide) (fun other member => (good other member).isItem)
    short rest
  rw [List.cons_append, List.append_assoc, List.singleton_append]
  rcases Part.joined_eq_append (decide (level < widestLevel)) part parts with ⟨tail, joined_eq⟩
  rcases (good part List.mem_cons_self).begins with ⟨name, others, begun⟩
  rw [joined_eq, begun] at read
  rw [joined_eq, begun]
  exact parenthesized?_fields read

theorem present?_of_separated? {element : List Token -> Option (Value × List Token)} {fuel : ℕ}
    {tokens rest : List Token} {value : Value}
    (read : separated? element ')' fuel tokens = some ([value], rest)) :
    present? {} element fuel (.mark '(' :: tokens) = some (.present value, rest) := by
  simp [present?, read]

theorem Means.present {text : List Char} {value : Value} (inside : Means text value) :
    Means ("Some(".toList ++ text ++ [')']) (.present value) := by
  rcases inside with ⟨tokens, spells, parses⟩
  refine ⟨.name "Some" :: .mark '(' :: (tokens ++ [.mark ')']),
    ⟨fun rest after _ lexes => ?_, 'S', _, rfl, by decide⟩,
    fun fuel rest enough closed => ?_, _, _, rfl, by decide⟩
  · have value := spells.lexes _ _ (.cons (by decide) rest) (.mark (c := ')') (by decide) lexes)
    have opened := Lexes.parenthesis (spells.head_ne _) value
    have isName : IsName "Some".toList := ⟨rfl, rfl⟩
    have named := (Tokens.spells_name isName).lexes _ _ (.cons (by decide) _) opened
    simpa [List.append_assoc] using named
  · rw [List.length_cons, List.length_cons, List.length_append, List.length_singleton] at enough
    rcases Nat.exists_eq_succ_of_ne_zero (by omega : fuel ≠ 0) with ⟨fuel, rfl⟩
    have isItem : Part.IsItem (ofTokens? {}) ')' ⟨text, tokens, value⟩ :=
      parses.isItem (by decide) spells
    have short : tokens.length ≤ fuel + 1 := by omega
    have read := (isItem.reads fuel short).separated?_last (by decide) (fuel + 1) rest
    rw [List.cons_append, List.cons_append, List.append_assoc, List.singleton_append]
    rw [ofTokens?, if_neg (by decide), if_neg (by decide), if_neg (by decide), if_pos rfl]
    exact present?_of_separated? read

/-- Plain values are printed at every level as text that says the value. -/
theorem Plain.means {value : Value} (plain : Plain value) (level : ℕ) :
    Means (chars level value) value := by
  induction plain generalizing level with
  | flag value => exact means_flag level value
  | number literal isLiteral => exact means_number isLiteral
  | text content => exact means_text content
  | list items inside ih =>
      rw [chars_list]
      refine means_list level ?_
      rw [List.forall₂_map_left_iff, List.forall₂_same]
      exact fun item member => ih item member (level + 1)
  | record fields nonempty names inside ih =>
      exact means_record level nonempty names fun field member => ih field member (level + 1)
  | absent => exact means_absent
  | present value inside ih => exact (ih level).present

end Value

namespace Document

/-- No attributes are read where there are none. -/
theorem ofTokens?_none (fuel : ℕ) {token : Token} (other : token ≠ .mark '#') (tokens : List Token) :
    Extensions.ofTokens? {} (fuel + 1) (token :: tokens) = some ({}, token :: tokens) := by
  rw [Extensions.ofTokens?]
  · exact Nat.succ_ne_zero fuel
  · exact fun _ same => other (List.cons.inj same).1
  · exact fun _ _ _ same => other (List.cons.inj same).1
  · exact fun _ _ _ _ _ same => other (List.cons.inj same).1

/-- A document is read as the value that its text says. -/
theorem ofChars?_of_means {text : List Char} {value : Value} (means : Value.Means text value) :
    ofChars? text = some ⟨{}, value⟩ := by
  rcases means with ⟨tokens, spells, parses⟩
  have lexed := spells.lexes [] [] (fun c first => by cases first) .nil
  rw [List.append_nil, List.append_nil] at lexed
  have listed : Tokens.ofChars? text = some tokens := lexed _ (Nat.lt_succ_self _)
  have read := parses.reads tokens.length [] (Nat.le_succ _) (fun token first => by cases first)
  rw [List.append_nil] at read
  have attributes : Extensions.ofTokens? {} (tokens.length + 1) tokens = some ({}, tokens) := by
    rcases parses.begins with ⟨token, others, rfl, other⟩
    exact ofTokens?_none _ (by rintro rfl; exact other (by decide)) others
  rw [ofChars?, listed]
  dsimp only [Option.bind_eq_bind, Option.bind_some]
  rw [attributes]
  dsimp only [Option.bind_eq_bind, Option.bind_some]
  rw [read]
  rfl

end Document

end Starfield
