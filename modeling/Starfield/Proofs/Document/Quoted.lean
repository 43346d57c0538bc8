import Starfield.Document.Quoted
import Starfield.Proofs.Number.Numeral

namespace Starfield

/-!
# Quotations read back

Every character has one escape, and what is read from it is that character and
nothing behind it.  No escape begins like the end of a quotation or like a line
that is continued, so a quotation is read character by character up to its
closing mark.
-/

namespace Quoted

/-! ## Code points -/

theorem hexDigit?_digitChar : ∀ d < 16, hexDigit? (Nat.digitChar d) = some d := by
  decide

theorem isSome_hexDigit?_of_mem {n : ℕ} {c : Char} (member : c ∈ Nat.toDigits 16 n) :
    (hexDigit? c).isSome = true := by
  induction n using Nat.strong_induction_on with
  | _ n ih =>
      rcases lt_or_ge n 16 with one | several
      · rw [Nat.toDigits_of_lt_base one, List.mem_singleton] at member
        rw [member, hexDigit?_digitChar n one]
        rfl
      · rw [Nat.toDigits_of_base_le (by decide) several] at member
        rcases List.mem_append.mp member with front | last
        · exact ih (n / 16) (by omega) front
        · rw [List.mem_singleton.mp last, hexDigit?_digitChar (n % 16) (by omega)]
          rfl

theorem hexValue?_toDigits (n : ℕ) : hexValue? (Nat.toDigits 16 n) = some n := by
  induction n using Nat.strong_induction_on with
  | _ n ih =>
      rcases lt_or_ge n 16 with one | several
      · rw [Nat.toDigits_of_lt_base one]
        change (hexDigit? (Nat.digitChar n)).map (16 * 0 + ·) >>= pure = some n
        rw [hexDigit?_digitChar n one]
        simp
      · have front := ih (n / 16) (by omega)
        unfold hexValue? at front ⊢
        rw [Nat.toDigits_of_base_le (by decide) several, List.foldlM_append, front]
        change (hexDigit? (Nat.digitChar (n % 16))).map (16 * (n / 16) + ·) >>= pure = some n
        rw [hexDigit?_digitChar (n % 16) (by omega)]
        simp only [Option.map_some, Option.bind_eq_bind, Option.bind_some, Option.pure_def]
        congr 1
        omega

theorem codePoint?_toDigits (c : Char) : codePoint? (Nat.toDigits 16 c.toNat) = some c := by
  have small : c.toNat < 16 ^ 6 := by
    rcases c.valid with low | ⟨-, high⟩
    · exact low.trans (by decide)
    · exact high.trans (by decide)
  have length : (Nat.toDigits 16 c.toNat).length ≤ 6 :=
    (Nat.length_toDigits_le_iff (by decide) (by decide)).mpr small
  have written : 0 < (Nat.toDigits 16 c.toNat).length := Nat.length_toDigits_pos
  rw [codePoint?, hexValue?_toDigits]
  dsimp only
  rw [if_pos ⟨written, length, c.valid⟩, Char.ofNat_toNat]

/-! ## Characters -/

/-- An escape is read as the character that was escaped. -/
theorem piece?_escape (c : Char) (rest : List Char) :
    piece? (escape c ++ rest) = some (.plain c, rest) := by
  unfold escape
  split_ifs with null tab back line own coded
  · rw [null]
    rfl
  · rw [tab]
    rfl
  · rw [back]
    rfl
  · rw [line]
    rfl
  · rcases own with rfl | rfl | rfl <;> rfl
  · have letters : ∀ d ∈ Nat.toDigits 16 c.toNat, (hexDigit? d).isSome = true :=
      fun d => isSome_hexDigit?_of_mem
    have closed : ∀ d ∈ ('\x7d' :: rest).head?, (hexDigit? d).isSome = false := by
      intro d first
      rw [← Option.some.inj first]
      decide
    have digits := span_append letters closed
    rw [List.cons_append, List.cons_append, List.cons_append, List.append_assoc, List.singleton_append]
    rw [piece?, escaped?, digits]
    change (codePoint? (Nat.toDigits 16 c.toNat)).map (fun c => (Piece.plain c, rest)) = _
    rw [codePoint?_toDigits]
    rfl
  · rw [not_or] at own
    rw [List.singleton_append]
    unfold piece?
    split
    next same => exact absurd (List.cons.inj same).1 own.1
    next same =>
      rcases List.cons.inj same with ⟨rfl, rfl⟩
      rfl
    next same => cases same

theorem character?_escape (c : Char) (rest : List Char) :
    character? (escape c ++ rest) = some (c, rest) := by
  rw [character?, piece?_escape]

/-- An escape begins neither like the end of a quotation nor like a continued
line. -/
theorem escape_begins (c : Char) (rest : List Char) : Exists fun first => Exists fun others =>
    escape c ++ rest = first :: others ∧ first ≠ '"' ∧ continued? (escape c ++ rest) = none := by
  unfold escape
  split_ifs with null tab back line own coded
  · exact ⟨'\\', _, rfl, by decide, rfl⟩
  · exact ⟨'\\', _, rfl, by decide, rfl⟩
  · exact ⟨'\\', _, rfl, by decide, rfl⟩
  · exact ⟨'\\', _, rfl, by decide, rfl⟩
  · refine ⟨'\\', _, rfl, by decide, ?_⟩
    rcases own with rfl | rfl | rfl <;> rfl
  · exact ⟨'\\', _, rfl, by decide, rfl⟩
  · rw [not_or, not_or] at own
    refine ⟨c, rest, rfl, own.2.1, ?_⟩
    unfold continued?
    split
    next same => exact absurd (List.cons.inj same).1 own.1
    next same => exact absurd (List.cons.inj same).1 own.1
    · rfl

/-! ## Quotations -/

/-- Escaped content is read up to the closing mark. -/
theorem itemsWithin_escape (content rest : List Char) {fuel : ℕ} (enough : content.length < fuel) :
    itemsWithin character? fuel (content.flatMap escape ++ '"' :: rest) = some (content, rest) := by
  induction content generalizing fuel with
  | nil =>
      rcases Nat.exists_eq_succ_of_ne_zero (by omega : fuel ≠ 0) with ⟨fuel, rfl⟩
      rfl
  | cons c content ih =>
      rcases Nat.exists_eq_succ_of_ne_zero (by omega : fuel ≠ 0) with ⟨fuel, rfl⟩
      rw [List.length_cons] at enough
      rw [List.flatMap_cons, List.append_assoc]
      have read := character?_escape c (content.flatMap escape ++ '"' :: rest)
      rcases escape_begins c (content.flatMap escape ++ '"' :: rest) with
        ⟨first, others, written, inside, straight⟩
      rw [written] at read straight ⊢
      rw [itemsWithin]
      · rw [straight]
        dsimp only
        rw [read]
        dsimp only [Option.bind_eq_bind, Option.bind_some]
        rw [ih (by omega)]
        rfl
      · exact fun _ impossible => inside (List.cons.inj impossible).1

/-- A quotation is read as what was quoted. -/
theorem items?_quote (content rest : List Char) :
    items? character? (content.flatMap escape ++ '"' :: rest) = some (content, rest) := by
  apply itemsWithin_escape
  have long : content.length ≤ (content.flatMap escape).length := by
    induction content with
    | nil => exact le_rfl
    | cons c content ih =>
        rcases escape_begins c [] with ⟨first, others, written, -, -⟩
        rw [List.append_nil] at written
        rw [List.flatMap_cons, List.length_append, List.length_cons, written, List.length_cons]
        omega
  rw [List.length_append, List.length_cons]
  omega

end Quoted

end Starfield
