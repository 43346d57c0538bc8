import Starfield.Document.Literal
import Starfield.Number.Layout
import Starfield.Proofs.Number.Decimal

namespace Starfield

open Float.Model (UnpackedFloat)
open Float.Model.UnpackedFloat (Sign)

/-!
# Numerals read back

A literal is digits, perhaps a point with more digits, and perhaps a power of
ten.  However the layout arranges the digits of a decimal, the numeral that is
read from the text is as large as the decimal.  With the shortest decimal of a
number that is enough to get the number back, and the three words cover the
numbers that have no digits.
-/

/-- Reading a run of characters stops where the run ends. -/
theorem span_append {p : Char -> Bool} {run rest : List Char} (inside : ∀ c ∈ run, p c = true)
    (outside : ∀ c ∈ rest.head?, p c = false) : (run ++ rest).span p = (run, rest) := by
  rw [List.span_eq_takeWhile_dropWhile, List.takeWhile_append_of_pos inside,
    List.dropWhile_append_of_pos inside]
  cases rest with
  | nil => simp
  | cons c rest => simp [outside c rfl]

/-! ## Digits -/

theorem toNat_of_isDigit {c : Char} (digit : c.isDigit = true) : 48 ≤ c.toNat ∧ c.toNat ≤ 57 := by
  simp only [Char.isDigit, Bool.and_eq_true, decide_eq_true_eq, ge_iff_le,
    UInt32.le_iff_toNat_le] at digit
  exact digit

theorem digitsValue_eq (text : List Char) : digitsValue text = Nat.ofDigitChars 10 text 0 :=
  (Nat.ofDigitChars_eq_foldl).symm

theorem isDigit_of_mem_digits {n : ℕ} {c : Char} (member : c ∈ Layout.digits n) : c.isDigit = true :=
  Nat.isDigit_of_mem_toDigits (by decide) (by decide) member

theorem digitsValue_digits (n : ℕ) : digitsValue (Layout.digits n) = n := by
  rw [digitsValue_eq]
  exact Nat.ofDigitChars_ten_toDigits

theorem digits_ne_nil (n : ℕ) : Layout.digits n ≠ [] :=
  Nat.toDigits_ne_nil

theorem isDigit_of_mem_zeros {count : ℕ} {c : Char} (member : c ∈ Layout.zeros count) :
    c.isDigit = true := by
  rw [(List.mem_replicate.mp member).2]
  decide

/-- Zeros in front of digits count nothing. -/
theorem digitsValue_zeros_append (count : ℕ) (text : List Char) :
    digitsValue (Layout.zeros count ++ text) = digitsValue text := by
  rw [digitsValue_eq, Nat.ofDigitChars_append, Layout.zeros, Nat.ofDigitChars_replicate_zero, mul_zero,
    digitsValue_eq]

/-- Zeros behind digits count tenfold. -/
theorem digitsValue_append_zeros (count : ℕ) (text : List Char) :
    digitsValue (text ++ Layout.zeros count) = digitsValue text * 10 ^ count := by
  rw [digitsValue_eq, Nat.ofDigitChars_append, Layout.zeros, Nat.ofDigitChars_replicate_zero, mul_comm,
    digitsValue_eq]

theorem splitSign_of_isDigit {c : Char} (digit : c.isDigit = true) (rest : List Char) :
    splitSign (c :: rest) = (false, c :: rest) := by
  unfold splitSign
  split
  next same =>
    rw [(List.cons.inj same).1] at digit
    exact absurd digit (by decide)
  next same =>
    rw [(List.cons.inj same).1] at digit
    exact absurd digit (by decide)
  · rfl

theorem splitSign_digits (n : ℕ) : splitSign (Layout.digits n) = (false, Layout.digits n) := by
  rcases List.exists_cons_of_ne_nil (digits_ne_nil n) with ⟨c, rest, written⟩
  rw [written]
  exact splitSign_of_isDigit (isDigit_of_mem_digits (written ▸ List.mem_cons_self)) rest

/-! ## Spellings -/

/-- The parts of a numeral without a sign. -/
structure Spelling where
  whole : List Char
  fraction : List Char
  power : Option Int

namespace Spelling

def fractionText (fraction : List Char) : List Char :=
  if fraction = [] then [] else '.' :: fraction

def powerText : Option Int -> List Char
  | none => []
  | some power => 'e' :: ((if power < 0 then ['-'] else []) ++ Layout.digits power.natAbs)

def text (spelling : Spelling) : List Char :=
  spelling.whole ++ (fractionText spelling.fraction ++ powerText spelling.power)

/-- The digits of a spelling as a whole number. -/
def digits (spelling : Spelling) : ℕ :=
  digitsValue (spelling.whole ++ spelling.fraction)

/-- The exponent of the last digit. -/
def exponent (spelling : Spelling) : ℤ :=
  spelling.power.getD 0 - spelling.fraction.length

/-- The parts are digits, and there are some in front of the point. -/
structure Sound (spelling : Spelling) : Prop where
  begun : spelling.whole ≠ []
  whole : ∀ c ∈ spelling.whole, c.isDigit = true
  fraction : ∀ c ∈ spelling.fraction, c.isDigit = true

theorem exponent?_powerText (power : Option Int) :
    Numeral.exponent? (powerText power) = some (power.getD 0) := by
  cases power with
  | none => rfl
  | some power =>
      have digits : (Layout.digits power.natAbs).all Char.isDigit = true :=
        List.all_eq_true.mpr fun c => isDigit_of_mem_digits
      have sign : splitSign ((if power < 0 then ['-'] else []) ++ Layout.digits power.natAbs) =
          (decide (power < 0), Layout.digits power.natAbs) := by
        split_ifs with negative
        · rw [decide_eq_true negative]
          rfl
        · rw [decide_eq_false negative]
          exact splitSign_digits power.natAbs
      rw [powerText, Numeral.exponent?, if_pos (Or.inl rfl), sign]
      dsimp only
      rw [if_pos ⟨digits_ne_nil _, digits⟩, digitsValue_digits, Option.getD_some]
      congr 1
      split_ifs with negative
      · have negative := of_decide_eq_true negative
        omega
      · have whole := mt decide_eq_true negative
        omega

theorem Sound.begins {spelling : Spelling} (sound : Sound spelling) : Exists fun c =>
    Exists fun rest => spelling.text = c :: rest ∧ c.isDigit = true := by
  rcases List.exists_cons_of_ne_nil sound.begun with ⟨c, rest, written⟩
  refine ⟨c, rest ++ (fractionText spelling.fraction ++ powerText spelling.power), ?_, ?_⟩
  · rw [text, written, List.cons_append]
  · exact sound.whole c (written ▸ List.mem_cons_self)

theorem Sound.splitSign {spelling : Spelling} (sound : Sound spelling) (sign : Sign) :
    splitSign (Layout.signed sign spelling.text) = (sign == .negative, spelling.text) := by
  cases sign with
  | negative => rfl
  | positive =>
      rcases sound.begins with ⟨c, rest, written, digit⟩
      rw [written]
      exact splitSign_of_isDigit digit rest

/-- The parts of a spelling are found again. -/
theorem Sound.ofChars? {spelling : Spelling} (sound : Sound spelling) (sign : Sign) :
    Numeral.ofChars? (Layout.signed sign spelling.text) =
      some ⟨sign == .negative, spelling.digits, spelling.exponent⟩ := by
  have split := sound.splitSign sign
  rcases spelling with ⟨whole, fraction, power⟩
  rcases sound with ⟨begun, wholeDigits, fractionDigits⟩
  dsimp only at begun wholeDigits fractionDigits
  have behind : ∀ c ∈ (powerText power).head?, c.isDigit = false := by
    cases power with
    | none => simp [powerText]
    | some power =>
        intro c first
        rw [← Option.some.inj first]
        decide
  have afterWhole : ∀ c ∈ (fractionText fraction ++ powerText power).head?, c.isDigit = false := by
    unfold fractionText
    split_ifs with none
    · exact behind
    · intro c first
      rw [← Option.some.inj first]
      decide
  have splitFraction : Numeral.splitFraction (fractionText fraction ++ powerText power) =
      (fraction, powerText power) := by
    unfold fractionText
    split_ifs with none
    · rw [none]
      cases power <;> rfl
    · exact span_append fractionDigits behind
  unfold Numeral.ofChars?
  rw [split]
  dsimp only
  rw [text, span_append wholeDigits afterWhole]
  dsimp only
  rw [splitFraction]
  dsimp only
  rw [if_neg fun empty => begun empty.1, exponent?_powerText]
  rfl

/-- A text spells a decimal: the numeral is as large, and has the exponent of
the decimal or one place. -/
structure Spells (spelling : Spelling) (text : List Char) (decimal : Decimal) : Prop where
  sound : Sound spelling
  text_eq : text = spelling.text
  value_eq : (spelling.digits * 10 ^ spelling.exponent : ℚ) =
    decimal.digits * 10 ^ decimal.exponent
  placed : spelling.exponent = decimal.exponent ∨ spelling.exponent = -1

/-- Digits that are kept in order are worth what they were, if the exponent is
kept too. -/
theorem Spells.of_digits {spelling : Spelling} {text : List Char} {decimal : Decimal}
    (sound : Sound spelling) (text_eq : text = spelling.text)
    (digits : spelling.digits = decimal.digits)
    (exponent : spelling.exponent = decimal.exponent) : Spells spelling text decimal :=
  ⟨sound, text_eq, by rw [digits, exponent], Or.inl exponent⟩

/-- Digits with zeros behind them and one more behind the point. -/
theorem spells_whole (n : ℕ) {exponent : ℤ} (whole : 0 ≤ exponent) :
    Spells ⟨Layout.digits n ++ Layout.zeros exponent.toNat, ['0'], none⟩
      (Layout.digits n ++ Layout.zeros exponent.toNat ++ ['.', '0']) ⟨n, exponent⟩ := by
  refine ⟨⟨?_, ?_, ?_⟩, rfl, ?_, Or.inr rfl⟩
  · exact List.append_ne_nil_of_left_ne_nil (digits_ne_nil n) _
  · intro c member
    rcases List.mem_append.mp member with digit | zero
    · exact isDigit_of_mem_digits digit
    · exact isDigit_of_mem_zeros zero
  · exact fun c => @isDigit_of_mem_zeros 1 c
  · have tenfold : digitsValue (Layout.digits n ++ Layout.zeros exponent.toNat ++ ['0']) =
        n * 10 ^ exponent.toNat * 10 := by
      rw [show ['0'] = Layout.zeros 1 from rfl, digitsValue_append_zeros, digitsValue_append_zeros,
        digitsValue_digits, pow_one]
    change ((digitsValue (Layout.digits n ++ Layout.zeros exponent.toNat ++ ['0']) : ℕ) : ℚ) *
      10 ^ (-1 : ℤ) = n * 10 ^ exponent
    rw [tenfold, ← Int.toNat_of_nonneg whole]
    push_cast
    rw [zpow_neg_one, zpow_natCast, Int.toNat_natCast, mul_inv_cancel_right₀ (by norm_num)]

/-- Digits that a point is put between. -/
theorem spells_split {n front : ℕ} (begun : 0 < front) (power : Option ℤ) {text : List Char}
    {exponent : ℤ}
    (text_eq : text =
      Spelling.text ⟨(Layout.digits n).take front, (Layout.digits n).drop front, power⟩)
    (placed : power.getD 0 - ((Layout.digits n).length - front : ℕ) = exponent) :
    Spells ⟨(Layout.digits n).take front, (Layout.digits n).drop front, power⟩ text
      ⟨n, exponent⟩ := by
  have written := List.length_pos_iff_ne_nil.mpr (digits_ne_nil n)
  refine .of_digits ⟨?_, ?_, ?_⟩ text_eq ?_ ?_
  · rw [← List.length_pos_iff_ne_nil, List.length_take]
    omega
  · exact fun c member => isDigit_of_mem_digits (List.mem_of_mem_take member)
  · exact fun c member => isDigit_of_mem_digits (List.mem_of_mem_drop member)
  · rw [Spelling.digits, List.take_append_drop, digitsValue_digits]
  · rw [Spelling.exponent, List.length_drop]
    exact placed

/-- Digits that begin some zeros behind the point. -/
theorem spells_behind {n places : ℕ} (long : (Layout.digits n).length ≤ places) :
    Spells ⟨['0'], Layout.zeros (places - (Layout.digits n).length) ++ Layout.digits n, none⟩
      ('0' :: '.' :: (Layout.zeros (places - (Layout.digits n).length) ++ Layout.digits n))
      ⟨n, -places⟩ := by
  have some : Layout.zeros (places - (Layout.digits n).length) ++ Layout.digits n ≠ [] :=
    List.append_ne_nil_of_right_ne_nil _ (digits_ne_nil n)
  refine .of_digits ⟨List.cons_ne_nil _ _, fun c => @isDigit_of_mem_zeros 1 c, ?_⟩ ?_ ?_ ?_
  · intro c member
    rcases List.mem_append.mp member with zero | digit
    · exact isDigit_of_mem_zeros zero
    · exact isDigit_of_mem_digits digit
  · simp [text, fractionText, powerText, some]
  · rw [Spelling.digits, show ['0'] = Layout.zeros 1 from rfl, digitsValue_zeros_append,
      digitsValue_zeros_append, digitsValue_digits]
  · rw [Spelling.exponent, List.length_append, Layout.zeros, List.length_replicate,
      Nat.sub_add_cancel long]
    exact zero_sub _

theorem spells_positionalText (n : ℕ) (exponent : ℤ) : Exists fun spelling =>
    Spells spelling (Layout.positionalText true (Layout.digits n) exponent) ⟨n, exponent⟩ := by
  unfold Layout.positionalText
  rcases le_or_gt 0 exponent with whole | fraction
  · rw [if_pos whole]
    exact ⟨_, spells_whole n whole⟩
  · obtain ⟨places, rfl⟩ : Exists fun places : ℕ => exponent = -places :=
      ⟨exponent.natAbs, by omega⟩
    rw [if_neg (not_le.mpr fraction), neg_neg, Int.toNat_natCast]
    dsimp only
    split_ifs with inside
    · have some : (Layout.digits n).drop ((Layout.digits n).length - places) ≠ [] := by
        rw [Ne, List.drop_eq_nil_iff]
        omega
      refine ⟨_, spells_split (Nat.sub_pos_of_lt inside) none ?_ ?_⟩
      · simp [text, fractionText, powerText, some]
      · rw [Option.getD_none]
        omega
    · exact ⟨_, spells_behind (not_lt.mp inside)⟩

theorem spells_exponentText (n : ℕ) (exponent : ℤ) : Exists fun spelling =>
    Spells spelling (Layout.exponentText false (Layout.digits n)
      (exponent + (Layout.digits n).length - 1)) ⟨n, exponent⟩ := by
  have written := List.length_pos_iff_ne_nil.mpr (digits_ne_nil n)
  set leading := exponent + (Layout.digits n).length - 1 with leading_eq
  refine ⟨_, spells_split one_pos (some leading) ?_ ?_⟩
  · have fraction : (if (Layout.digits n).length ≤ 1 then [] else '.' :: (Layout.digits n).drop 1) =
        fractionText ((Layout.digits n).drop 1) := by
      unfold fractionText
      simp only [List.drop_eq_nil_iff]
    unfold Layout.exponentText
    rw [fraction]
    simp [text, powerText]
  · rw [Option.getD_some]
    omega

/-- The literal of a decimal spells it. -/
theorem spells_literal (decimal : Decimal) : Exists fun spelling =>
    Spells spelling (Layout.literal.decimalText decimal) decimal := by
  unfold Layout.decimalText
  dsimp only [Layout.literal]
  split_ifs
  · exact spells_positionalText decimal.digits decimal.exponent
  · exact spells_exponentText decimal.digits decimal.exponent

/-! ## Characters of spellings -/

/-- A character that spellings with a sign are made of. -/
def isCharacter (c : Char) : Bool :=
  c.isDigit || c = '.' || c = 'e' || c = '-'

theorem isCharacter_of_isDigit {c : Char} (digit : c.isDigit = true) : isCharacter c = true := by
  simp [isCharacter, digit]

theorem isCharacter_of_mem_powerText {power : Option Int} {c : Char} (member : c ∈ powerText power) :
    isCharacter c = true := by
  cases power with
  | none => cases member
  | some power =>
      rcases List.mem_cons.mp member with rfl | member
      · decide
      · rcases List.mem_append.mp member with minus | digit
        · split_ifs at minus
          · rw [List.mem_singleton.mp minus]
            decide
          · cases minus
        · exact isCharacter_of_isDigit (isDigit_of_mem_digits digit)

theorem Sound.isCharacter {spelling : Spelling} (sound : Sound spelling) {c : Char}
    (member : c ∈ spelling.text) : isCharacter c = true := by
  rcases List.mem_append.mp member with whole | behind
  · exact isCharacter_of_isDigit (sound.whole c whole)
  · rcases List.mem_append.mp behind with fraction | power
    · unfold fractionText at fraction
      split_ifs at fraction
      · cases fraction
      · rcases List.mem_cons.mp fraction with rfl | digit
        · decide
        · exact isCharacter_of_isDigit (sound.fraction c digit)
    · exact isCharacter_of_mem_powerText power

/-- There is one point at most. -/
theorem Sound.count_point_le {spelling : Spelling} (sound : Sound spelling) :
    spelling.text.count '.' ≤ 1 := by
  have none {text : List Char} (digits : ∀ c ∈ text, c.isDigit = true) : text.count '.' = 0 :=
    List.count_eq_zero.mpr fun member => absurd (digits '.' member) (by decide)
  have power : (powerText spelling.power).count '.' = 0 := by
    cases spelling.power with
    | none => rfl
    | some power =>
        rw [powerText, List.count_cons_of_ne (by decide), List.count_append,
          none fun c => isDigit_of_mem_digits]
        split_ifs <;> rfl
  rw [text, List.count_append, List.count_append, none sound.whole, power, fractionText]
  split_ifs
  · exact Nat.zero_le _
  · rw [List.count_cons_self, none sound.fraction]

end Spelling

/-! ## Literals of fractions -/

namespace Literal

theorem splitWidth_of_not_mem {text : List Char} (absent : 'f' ∉ text) :
    splitWidth text = (text, none) := by
  have nothing : ["f32", "f64"].find? (·.toList = text.drop (text.length - 3)) = none := by
    rw [List.find?_eq_none]
    intro suffix member same
    have letters : ∀ suffix ∈ ["f32", "f64"], 'f' ∈ suffix.toList := by decide
    have letter := letters suffix member
    rw [of_decide_eq_true same] at letter
    exact absent (List.mem_of_mem_drop letter)
  rw [splitWidth, nothing]

theorem separatesDigits_of_not_mem {text : List Char} (absent : '_' ∉ text) (allowed : Bool) :
    separatesDigits allowed text = true := by
  induction text generalizing allowed with
  | nil => rfl
  | cons c rest ih =>
      rw [List.mem_cons, not_or] at absent
      rw [separatesDigits, if_neg (Ne.symm absent.1)]
      exact ih absent.2 _

theorem numeral?_of_not_mem {text : List Char} (absent : '_' ∉ text) :
    numeral? text = Numeral.ofChars? text := by
  have kept : text.filter (· ≠ '_') = text := by
    rw [List.filter_eq_self]
    intro c member
    exact decide_eq_true fun same => absent (same ▸ member)
  rw [numeral?, if_pos (separatesDigits_of_not_mem absent false), kept]

theorem mem_of_mem_splitSign {text : List Char} {c : Char} (member : c ∈ (splitSign text).2) :
    c ∈ text := by
  unfold splitSign at member
  split at member
  · exact List.mem_cons_of_mem _ member
  · exact List.mem_cons_of_mem _ member
  · exact member

theorem wordValue?_of_not_mem {α : Type} [Binary α] {text : List Char} (first : 'f' ∉ text)
    (second : 'N' ∉ text) : (wordValue? text : Option α) = none := by
  have notInfinity : (splitSign text).2 ≠ "inf".toList := by
    intro same
    exact first (mem_of_mem_splitSign (same ▸ by decide))
  have notUndefined : (splitSign text).2 ≠ "NaN".toList := by
    intro same
    exact second (mem_of_mem_splitSign (same ▸ by decide))
  rw [wordValue?]
  dsimp only
  rw [if_neg notInfinity, if_neg notUndefined]

variable {α : Type} [Binary α]

theorem mem_signed {sign : Sign} {text : List Char} {c : Char}
    (member : c ∈ Layout.signed sign text) : c = '-' ∨ c ∈ text := by
  cases sign with
  | negative => exact List.mem_cons.mp member
  | positive => exact Or.inr member

theorem isCharacter_signed {spelling : Spelling} (sound : spelling.Sound) (sign : Sign) {c : Char}
    (member : c ∈ Layout.signed sign spelling.text) : Spelling.isCharacter c = true := by
  rcases mem_signed member with rfl | member
  · decide
  · exact sound.isCharacter member

theorem not_mem_signed {spelling : Spelling} (sound : spelling.Sound) (sign : Sign) {c : Char}
    (other : Spelling.isCharacter c = false) : c ∉ Layout.signed sign spelling.text := by
  intro member
  rw [isCharacter_signed sound sign member] at other
  cases other

/-- A spelling with a sign is read as its numeral. -/
theorem fraction?_signed {spelling : Spelling} (sound : spelling.Sound) (sign : Sign) :
    (fraction? (Layout.signed sign spelling.text) : Option α) =
      some (Binary.ofSignedDecimal (sign == .negative) spelling.digits
        spelling.exponent) := by
  have absent {c : Char} (other : Spelling.isCharacter c = false) := not_mem_signed sound sign other
  rw [fraction?, splitWidth_of_not_mem (absent (by decide))]
  dsimp only
  rw [Option.all_none, if_pos rfl, wordValue?_of_not_mem (absent (by decide)) (absent (by decide)),
    numeral?_of_not_mem (absent (by decide)), sound.ofChars?]
  rfl

theorem fraction?_word {literal : List Char} (split : splitWidth literal = (literal, none)) {x : α}
    (known : wordValue? literal = some x) : fraction? literal = some x := by
  rw [fraction?, split]
  dsimp only
  rw [Option.all_none, if_pos rfl, known]
  rfl

variable [Written α]

theorem ofSignedDecimal_zero (sign : Sign) (exponent : ℤ) :
    (Binary.ofSignedDecimal (sign == .negative) 0 exponent : α) = Binary.pack (.zero sign) := by
  have positive : (Binary.ofDecimal 0 exponent : α) = Binary.pack (.zero .positive) :=
    Written.ofDecimal_eq 0 exponent
  rw [Binary.ofSignedDecimal, positive]
  cases sign with
  | positive => rfl
  | negative =>
      change Binary.negate (Binary.pack (.zero .positive)) = _
      rw [Written.negate_eq, Written.unpack_pack, UnpackedFloat.pack, UnpackedFloat.unpack_packedZero]
      rfl

/-- What the literal of a number looks like: one of three words, or a spelling
that is read as the number. -/
inductive Writes (x : α) : List Char -> Prop
  | undefined (same : Binary.pack .notANumber = x) : Writes x "NaN".toList
  | infinite (sign : Sign) (same : Binary.pack (.infinity sign) = x) :
      Writes x (Layout.signed sign "inf".toList)
  | spelled (sign : Sign) (spelling : Spelling) (sound : spelling.Sound)
      (same : Binary.ofSignedDecimal (sign == .negative) spelling.digits spelling.exponent = x) :
      Writes x (Layout.signed sign spelling.text)

theorem writes_chars (x : α) : Writes x (Layout.literal.chars x) := by
  have same := Written.pack_unpack x
  unfold Layout.chars
  cases unpacked : Binary.unpack x with
  | notANumber => exact .undefined (unpacked ▸ same)
  | infinity sign => exact .infinite sign (unpacked ▸ same)
  | zero sign =>
      have sound : Spelling.Sound ⟨['0'], ['0'], none⟩ :=
        ⟨by decide, fun c => @isDigit_of_mem_zeros 1 c, fun c => @isDigit_of_mem_zeros 1 c⟩
      exact .spelled sign ⟨['0'], ['0'], none⟩ sound
        ((ofSignedDecimal_zero sign _).trans (unpacked ▸ same))
  | finite sign mantissa exponent positive =>
      rcases Spelling.spells_literal
        (shortest Layout.literal.tie (Binary.format α) mantissa exponent) with ⟨spelling, spells⟩
      dsimp only
      rw [spells.text_eq]
      exact .spelled sign spelling spells.sound
        (ofSignedDecimal_of_shortest unpacked rfl spells.value_eq spells.placed)

/-- The literal of a number is read as that number. -/
theorem fraction?_chars (x : α) : fraction? (Layout.literal.chars x) = some x := by
  have written := writes_chars x
  generalize Layout.literal.chars x = literal at written
  cases written with
  | undefined same => exact fraction?_word (by decide) (congrArg some same)
  | infinite sign same =>
      cases sign with
      | positive => exact fraction?_word (by decide) (congrArg some same)
      | negative => exact fraction?_word (by decide) (congrArg some same)
  | spelled sign spelling sound same => rw [fraction?_signed sound, same]

/-! ## Literals of whole numbers -/

theorem spelling_digits (n : ℕ) : Spelling.Sound ⟨Layout.digits n, [], none⟩ ∧
    Layout.digits n = Spelling.text ⟨Layout.digits n, [], none⟩ :=
  ⟨⟨digits_ne_nil n, fun _ => isDigit_of_mem_digits, fun _ member => by cases member⟩,
    (List.append_nil _).symm⟩

theorem splitBase_digits (n : ℕ) : splitBase (Layout.digits n) = (10, Layout.digits n) := by
  have absent {c : Char} (letter : c.isDigit = false) : c ∉ Layout.digits n := by
    intro member
    rw [isDigit_of_mem_digits member] at letter
    cases letter
  unfold splitBase
  split
  next same => exact absurd (same ▸ by simp) (absent (c := 'b') (by decide))
  next same => exact absurd (same ▸ by simp) (absent (c := 'o') (by decide))
  next same => exact absurd (same ▸ by simp) (absent (c := 'x') (by decide))
  · rfl

theorem hexDigit?_of_isDigit {c : Char} (digit : c.isDigit = true) :
    hexDigit? c = some (c.toNat - '0'.toNat) := by
  rw [hexDigit?, if_pos digit]

theorem ne_underscore_of_isDigit {c : Char} (digit : c.isDigit = true) : c ≠ '_' := by
  rintro rfl
  exact absurd digit (by decide)

theorem foldlM_appendDigit? {text : List Char} (digits : ∀ c ∈ text, c.isDigit = true) (value : ℕ) :
    text.foldlM (appendDigit? 10) value =
      some (text.foldl (fun value c => 10 * value + (c.toNat - '0'.toNat)) value) := by
  induction text generalizing value with
  | nil => rfl
  | cons c rest ih =>
      have digit := digits c List.mem_cons_self
      have small : c.toNat - '0'.toNat < 10 := by
        have bounds := toNat_of_isDigit digit
        change c.toNat - 48 < 10
        omega
      rw [List.foldlM_cons, appendDigit?, if_neg (ne_underscore_of_isDigit digit),
        hexDigit?_of_isDigit digit]
      dsimp only
      rw [if_pos small, List.foldl_cons]
      exact ih (fun d member => digits d (List.mem_cons_of_mem _ member)) _

/-- The digits of a whole number are read as that number, if it has so many
bits. -/
theorem natural?_digits {bits n : ℕ} (small : n < 2 ^ bits) :
    natural? bits (Layout.digits n) = some n := by
  have inside : ∀ c ∈ Layout.digits n, c.isDigit = true := fun _ => isDigit_of_mem_digits
  have run : (Layout.digits n).span (fun c => (hexDigit? c).isSome || c = '_') =
      (Layout.digits n, []) := by
    have letters : ∀ c ∈ Layout.digits n, ((hexDigit? c).isSome || decide (c = '_')) = true := by
      intro c member
      rw [hexDigit?_of_isDigit (inside c member)]
      rfl
    have split := span_append letters fun c (first : c ∈ [].head?) => by cases first
    rwa [List.append_nil] at split
  have magnitude : magnitude? 10 (Layout.digits n) = some n := by
    rcases List.exists_cons_of_ne_nil (digits_ne_nil n) with ⟨first, rest, written⟩
    have begins := inside first (written ▸ List.mem_cons_self)
    rw [written, magnitude?, if_neg (ne_underscore_of_isDigit begins), ← written,
      foldlM_appendDigit? inside]
    exact congrArg some (digitsValue_digits n)
  have read : integer? (Layout.digits n) = some (n, none) := by
    rw [integer?, splitBase_digits]
    dsimp only
    rw [run]
    dsimp only
    rw [magnitude]
    rfl
  have fits : IntegerKind.contains ⟨false, bits⟩ false n = true := decide_eq_true small
  rw [natural?, splitSign_digits]
  dsimp only
  rw [read]
  dsimp only [Option.bind_eq_bind, Option.bind_some]
  rw [Option.all_none, fits]
  rfl

end Literal

end Starfield
