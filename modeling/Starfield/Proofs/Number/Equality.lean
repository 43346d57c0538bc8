import Starfield.Proofs.Number.Arithmetic

namespace Starfield

open Float.Model (UnpackedFloat)

/-!
# Equality of numbers

Numbers are equal if they stand for the same rational number or the same end of
their width.  So the two zeros are equal, and an undefined number is not even
equal to itself.
-/

theorem Exact.beq_iff {format : Float.Model.Format} {u v : UnpackedFloat} (first : Sound format u)
    (second : Sound format v) : u.beq v = true ↔
      u.isNaN = false ∧ v.isNaN = false ∧ value format u = value format v := by
  rw [UnpackedFloat.beq, beq_iff_eq]
  constructor
  · intro same
    rcases isNaN_of_compare (fun incomparable => by rw [incomparable] at same; cases same) with
      ⟨defined, otherDefined⟩
    rw [compare_eq first second defined otherDefined] at same
    exact ⟨defined, otherDefined, (cmp_eq_eq_iff _ _).mp (Option.some.inj same)⟩
  · rintro ⟨defined, otherDefined, same⟩
    rw [compare_eq first second defined otherDefined, same, cmp_self_eq_eq]

theorem single_beq_iff (x y : Float32) :
    (x == y) = true ↔ IsDefined x ∧ IsDefined y ∧ exact x = exact y :=
  Exact.beq_iff (sound x) (sound y)

theorem double_beq_iff (x y : Float) :
    (x == y) = true ↔ IsDefined x ∧ IsDefined y ∧ exact x = exact y :=
  Exact.beq_iff (sound x) (sound y)

theorem single_beq_self_iff (x : Float32) : (x == x) = true ↔ IsDefined x := by
  rw [single_beq_iff]
  exact ⟨fun both => both.1, fun defined => ⟨defined, defined, rfl⟩⟩

theorem double_beq_self_iff (x : Float) : (x == x) = true ↔ IsDefined x := by
  rw [double_beq_iff]
  exact ⟨fun both => both.1, fun defined => ⟨defined, defined, rfl⟩⟩

end Starfield
