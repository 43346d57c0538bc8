import Starfield.Command.TargetSize
import Starfield.Proofs.Number.Numeral

namespace Starfield

/-!
# The grammar of sizes

A size splits at its first separator into two sides.  A side is a row of
decimal digits, however many zeros it begins with, an optional plus sign in
front of it, and white space around both.  Reading accepts exactly this, as far
as the numbers fit into 32 bits, and it finds in a written size what was
written.
-/

/-! ## Decimal numbers -/

/-- A row of decimal digits, at least one of them, with the number that it
denotes. -/
inductive IsDecimal : List Char -> ℕ -> Prop
  | digit {c : Char} (digit : c.isDigit = true) : IsDecimal [c] (c.toNat - '0'.toNat)
  | append {text : List Char} {n : ℕ} {c : Char} (front : IsDecimal text n)
      (digit : c.isDigit = true) : IsDecimal (text ++ [c]) (10 * n + (c.toNat - '0'.toNat))

theorem digitsValue_singleton (c : Char) : digitsValue [c] = c.toNat - '0'.toNat :=
  Nat.zero_add _

theorem digitsValue_concat (text : List Char) (c : Char) :
    digitsValue (text ++ [c]) = 10 * digitsValue text + (c.toNat - '0'.toNat) :=
  List.foldl_concat ..

theorem isDecimal_iff {text : List Char} {n : ℕ} : IsDecimal text n ↔
    text ≠ [] ∧ (forall c, c ∈ text -> c.isDigit = true) ∧ digitsValue text = n := by
  constructor
  · intro decimal
    induction decimal with
    | @digit c digit =>
        rw [List.forall_mem_singleton]
        exact ⟨List.cons_ne_nil _ _, digit, digitsValue_singleton c⟩
    | @append text n c front digit ih =>
        rw [List.forall_mem_append, List.forall_mem_singleton, digitsValue_concat, ih.2.2]
        exact ⟨List.append_ne_nil_of_right_ne_nil _ (List.cons_ne_nil _ _), ⟨ih.2.1, digit⟩, rfl⟩
  · rintro ⟨some, digits, rfl⟩
    induction text using List.reverseRecOn with
    | nil => exact absurd rfl some
    | append_singleton text c ih =>
        rw [List.forall_mem_append, List.forall_mem_singleton] at digits
        by_cases first : text = []
        · rw [first, List.nil_append, digitsValue_singleton]
          exact .digit digits.2
        · rw [digitsValue_concat]
          exact .append (ih first digits.1) digits.2

theorem isDecimal_digits (n : ℕ) : IsDecimal (Layout.digits n) n :=
  isDecimal_iff.mpr ⟨digits_ne_nil n, fun _ => isDigit_of_mem_digits, digitsValue_digits n⟩

/-- A natural number is read from digits with an optional plus sign, and from
nothing else. -/
theorem natural?_eq_some {text : List Char} {n : ℕ} : natural? text = some n ↔
    Exists fun sign => Exists fun digits =>
      text = sign ++ digits ∧ (sign = [] ∨ sign = ['+']) ∧ IsDecimal digits n := by
  have unsigned_iff (digits : List Char) :
      (if digits ≠ [] ∧ digits.all Char.isDigit then some (digitsValue digits) else none) = some n ↔
        IsDecimal digits n := by
    rw [isDecimal_iff, Option.ite_none_right_eq_some, Option.some_inj, List.all_eq_true, and_assoc]
  by_cases signed : Exists fun rest => text = '+' :: rest
  · rcases signed with ⟨rest, rfl⟩
    refine (unsigned_iff rest).trans ⟨fun decimal => ⟨['+'], rest, rfl, Or.inr rfl, decimal⟩, ?_⟩
    rintro ⟨sign, digits, same, rfl | rfl, decimal⟩
    · -- A plus sign is no digit.
      rw [List.nil_append] at same
      have digit := (isDecimal_iff.mp decimal).2.1 '+' (same ▸ List.mem_cons_self)
      exact absurd digit (by decide)
    · rwa [(List.cons.inj same).2]
  · have unsigned : forall rest, text = '+' :: rest -> False := not_exists.mp signed
    have plain : natural? text =
        if text ≠ [] ∧ text.all Char.isDigit then some (digitsValue text) else none := by
      simp only [natural?]
    rw [plain, unsigned_iff]
    refine ⟨fun decimal => ⟨[], text, rfl, Or.inl rfl, decimal⟩, ?_⟩
    rintro ⟨sign, digits, same, rfl | rfl, decimal⟩
    · rwa [same]
    · exact absurd ⟨digits, same⟩ signed

/-! ## White space -/

/-- Only white space is cut off. -/
theorem trimBlanks_split (text : List Char) : Exists fun before => Exists fun after =>
    text = before ++ (trimBlanks text ++ after) ∧ (forall c, c ∈ before -> isBlank c = true) ∧
      forall c, c ∈ after -> isBlank c = true := by
  refine ⟨text.takeWhile isBlank, (text.dropWhile isBlank).rtakeWhile isBlank, ?_,
    fun c => List.mem_takeWhile_imp, fun c => List.mem_rtakeWhile_imp⟩
  change text = _ ++ ((text.dropWhile isBlank).rdropWhile isBlank ++ _)
  rw [List.rdropWhile_append_rtakeWhile, List.takeWhile_append_dropWhile]

theorem dropWhile_blanks {before core : List Char}
    (blank : forall c, c ∈ before -> isBlank c = true) (some : core ≠ [])
    (solid : forall c, c ∈ core -> isBlank c = false) (after : List Char) :
    (before ++ (core ++ after)).dropWhile isBlank = core ++ after := by
  rcases List.exists_cons_of_ne_nil some with ⟨c, rest, rfl⟩
  have first : ¬isBlank c = true := by
    rw [solid c List.mem_cons_self]
    exact Bool.false_ne_true
  rw [List.dropWhile_append_of_pos blank, List.cons_append, List.dropWhile_cons_of_neg first]

/-- All white space around solid text is cut off. -/
theorem trimBlanks_append {before core after : List Char}
    (blankBefore : forall c, c ∈ before -> isBlank c = true) (some : core ≠ [])
    (solid : forall c, c ∈ core -> isBlank c = false)
    (blankAfter : forall c, c ∈ after -> isBlank c = true) :
    trimBlanks (before ++ (core ++ after)) = core := by
  unfold trimBlanks
  rw [dropWhile_blanks blankBefore some solid, List.reverse_append, ← List.append_nil core.reverse,
    dropWhile_blanks (fun c member => blankAfter c (List.mem_reverse.mp member))
      (List.reverse_ne_nil_iff.mpr some) (fun c member => solid c (List.mem_reverse.mp member)),
    List.append_nil, List.reverse_reverse]

/-! ## Sizes -/

namespace TargetSize

/-- A side as it may be written: digits behind an optional plus sign, and white
space around both. -/
def IsSide (text : List Char) (n : ℕ) : Prop :=
  Exists fun before => Exists fun sign => Exists fun digits => Exists fun after =>
    text = before ++ (sign ++ digits ++ after) ∧
      (forall c, c ∈ before -> isBlank c = true) ∧ (sign = [] ∨ sign = ['+']) ∧
      IsDecimal digits n ∧ forall c, c ∈ after -> isBlank c = true

/-- A size as it may be written: two sides around its first separator. -/
def IsSize (text : List Char) (width height : ℕ) : Prop :=
  Exists fun left => Exists fun separator => Exists fun right =>
    text = left ++ separator :: right ∧ (separator = 'x' ∨ separator = 'X') ∧
      'x' ∉ left ∧ 'X' ∉ left ∧ IsSide left width ∧ IsSide right height

/-- The signs and digits of a side are no white space. -/
theorem isBlank_of_mem_number {sign digits : List Char} {n : ℕ}
    (signed : sign = [] ∨ sign = ['+']) (decimal : IsDecimal digits n) {c : Char}
    (member : c ∈ sign ++ digits) : isBlank c = false := by
  have solid (low : 33 ≤ c.toNat) (high : c.toNat ≤ 126) : isBlank c = false := by
    unfold isBlank
    simp only [Bool.or_eq_false_iff, Bool.and_eq_false_iff, decide_eq_false_iff_not]
    omega
  rcases List.mem_append.mp member with inSign | inDigits
  · rcases signed with rfl | rfl
    · cases inSign
    · rw [List.mem_singleton.mp inSign]
      decide
  · have range := toNat_of_isDigit ((isDecimal_iff.mp decimal).2.1 c inDigits)
    exact solid (by omega) (by omega)

theorem side?_eq_some {text : List Char} {side : UInt32} :
    side? text = some side ↔ IsSide text side.toNat := by
  have bounded_iff (read : ℕ) : (read < UInt32.size ∧ UInt32.ofNat read = side) ↔
      read = side.toNat := by
    constructor
    · rintro ⟨small, rfl⟩
      exact (UInt32.toNat_ofNat_of_lt small).symm
    · rintro rfl
      exact ⟨side.toNat_lt, UInt32.ofNat_toNat⟩
  have read_iff : side? text = some side ↔ natural? (trimBlanks text) = some side.toNat := by
    unfold side? naturalBelow?
    simp only [Option.map_eq_some_iff, Option.filter_eq_some_iff, decide_eq_true_eq, and_assoc,
      bounded_iff, exists_eq_right]
  rw [read_iff, natural?_eq_some]
  constructor
  · rintro ⟨sign, digits, trimmed, signed, decimal⟩
    rcases trimBlanks_split text with ⟨before, after, split, blankBefore, blankAfter⟩
    rw [trimmed] at split
    exact ⟨before, sign, digits, after, split, blankBefore, signed, decimal, blankAfter⟩
  · rintro ⟨before, sign, digits, after, rfl, blankBefore, signed, decimal, blankAfter⟩
    have some : sign ++ digits ≠ [] :=
      List.append_ne_nil_of_right_ne_nil _ (isDecimal_iff.mp decimal).1
    refine ⟨sign, digits, ?_, signed, decimal⟩
    exact trimBlanks_append blankBefore some (fun c => isBlank_of_mem_number signed decimal)
      blankAfter

theorem isSeparator_iff {c : Char} : isSeparator c = true ↔ c = 'x' ∨ c = 'X' := by
  unfold isSeparator
  rw [Bool.or_eq_true, decide_eq_true_eq, decide_eq_true_eq]

theorem not_isSeparator_iff {text : List Char} :
    (forall c, c ∈ text -> (!isSeparator c) = true) ↔ 'x' ∉ text ∧ 'X' ∉ text := by
  simp only [Bool.not_eq_true', ← Bool.not_eq_true, isSeparator_iff]
  constructor
  · intro free
    exact ⟨fun small => free _ small (Or.inl rfl), fun large => free _ large (Or.inr rfl)⟩
  · rintro ⟨small, large⟩ c member (rfl | rfl)
    · exact small member
    · exact large member

/-- Text without a separator is no size, other text is split at its first. -/
theorem span_eq_cons_iff {text left right : List Char} {separator : Char} :
    text.span (fun c => !isSeparator c) = (left, separator :: right) ↔
      text = left ++ separator :: right ∧ isSeparator separator = true ∧
        'x' ∉ left ∧ 'X' ∉ left := by
  constructor
  · intro spanned
    rw [List.span_eq_takeWhile_dropWhile, Prod.mk.injEq] at spanned
    rcases spanned with ⟨rfl, behind⟩
    refine ⟨?_, ?_, not_isSeparator_iff.mp fun c => List.mem_takeWhile_imp⟩
    · rw [← behind, List.takeWhile_append_dropWhile]
    · have stopped := List.head?_dropWhile_not (fun c => !isSeparator c) text
      rw [behind] at stopped
      exact Bool.not_eq_eq_eq_not.mp stopped
  · rintro ⟨rfl, separates, free⟩
    refine span_append (not_isSeparator_iff.mpr free) fun c first => ?_
    cases first
    rw [separates]
    rfl

theorem ofChars?_eq_some {text : List Char} {size : TargetSize} :
    ofChars? text = some size ↔ IsSize text size.width.toNat size.height.toNat := by
  constructor
  · intro read
    unfold ofChars? at read
    split at read
    · cases read
    next left separator right spanned =>
      rcases span_eq_cons_iff.mp spanned with ⟨split, separates, small, large⟩
      rcases Option.bind_eq_some_iff.mp read with ⟨width, readWidth, rest⟩
      rcases Option.bind_eq_some_iff.mp rest with ⟨height, readHeight, made⟩
      cases made
      exact ⟨left, separator, right, split, isSeparator_iff.mp separates, small, large,
        side?_eq_some.mp readWidth, side?_eq_some.mp readHeight⟩
  · rintro ⟨left, separator, right, split, separates, small, large, width, height⟩
    have spanned := span_eq_cons_iff.mpr ⟨split, isSeparator_iff.mpr separates, small, large⟩
    unfold ofChars?
    rw [spanned]
    refine Option.bind_eq_some_iff.mpr ⟨size.width, side?_eq_some.mpr width, ?_⟩
    exact Option.bind_eq_some_iff.mpr ⟨size.height, side?_eq_some.mpr height, rfl⟩

theorem isSize_chars (size : TargetSize) :
    IsSize size.chars size.width.toNat size.height.toNat := by
  have side (n : ℕ) : IsSide (Layout.digits n) n :=
    ⟨[], [], Layout.digits n, [], (List.append_nil _).symm, nofun, Or.inl rfl, isDecimal_digits n,
      nofun⟩
  have absent {c : Char} (letter : c.isDigit = false) (n : ℕ) : c ∉ Layout.digits n := by
    intro member
    rw [isDigit_of_mem_digits member] at letter
    cases letter
  exact ⟨_, 'x', _, rfl, Or.inl rfl, absent rfl _, absent rfl _, side _, side _⟩

/-- The sizes that are read are those that are written by the grammar, as far
as they fit into 32 bits, and a written size is read back. -/
theorem reads_written_sizes :
    (forall (text : List Char) (width height : ℕ),
      (Exists fun size => ofChars? text = some size ∧ size.width.toNat = width ∧
        size.height.toNat = height) ↔
      IsSize text width height ∧ width ≤ 4294967295 ∧ height ≤ 4294967295) ∧
    forall size : TargetSize, ofChars? size.chars = some size := by
  refine ⟨fun text width height => ⟨?_, ?_⟩, fun size => ofChars?_eq_some.mpr (isSize_chars size)⟩
  · rintro ⟨size, read, rfl, rfl⟩
    exact ⟨ofChars?_eq_some.mp read, Nat.le_of_lt_succ size.width.toNat_lt,
      Nat.le_of_lt_succ size.height.toNat_lt⟩
  · rintro ⟨written, narrow, low⟩
    have width_eq : (UInt32.ofNat width).toNat = width :=
      UInt32.toNat_ofNat_of_lt (Nat.lt_succ_of_le narrow)
    have height_eq : (UInt32.ofNat height).toNat = height :=
      UInt32.toNat_ofNat_of_lt (Nat.lt_succ_of_le low)
    refine ⟨⟨.ofNat width, .ofNat height⟩, ofChars?_eq_some.mpr ?_, width_eq, height_eq⟩
    dsimp only
    rwa [width_eq, height_eq]

example : ofChars? " +007X\u200342 ".toList = some ⟨7, 42⟩ := by decide +kernel

end TargetSize

end Starfield
