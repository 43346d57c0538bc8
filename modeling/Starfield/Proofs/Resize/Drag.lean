import Starfield.Proofs.Geometry.Viewport
import Starfield.Proofs.Number.Increasing
import Starfield.Proofs.Number.Truncation
import Starfield.Proofs.Number.Unit
import Starfield.Proofs.Resize.Drains
import Starfield.Proofs.Settings.Accepted

namespace Starfield

/-!
# Where a drag ends

The last change of a drag stands at the fraction one of the way.  It is found by
adding to a side what the other one has in advance of it.  The fraction is exact,
but the difference of the sides is rounded, and so is the sum.  The drag ends
where it should exactly if that brings the other side back, as it does whenever
the difference is a number.  The times of the changes are in line, so sorting
leaves the changes as they were made.
-/

namespace Viewport

/-! ## The way from one side to another -/

section Sides

variable {start goal : Float32}

/-- Neither zero is a side. -/
theorem soundSide_congr (same : SameNumber start goal) : soundSide start = soundSide goal := by
  have nothing {x : Float32} (zero : IsZero x) : soundSide x = 1 := by
    refine if_neg fun sound => ?_
    have least := ((le_iff _ _).mp sound.1).2.2
    rw [exact_single_one, zero.exact_eq] at least
    exact absurd least (not_le.mpr zero_lt_one)
  rcases same with rfl | ⟨zero, other⟩
  · rfl
  · rw [nothing zero, nothing other]

/-- The way from a side to another one ends there. -/
def LeadsTo (start goal : Float32) : Prop :=
  soundSide (start + (goal - start)) = goal

/-- Sides whose difference is a number: whole ones that are not large, and sides
of which neither is more than double the other. -/
def IsEvenWay (start goal : Float32) : Prop :=
  (Exists fun near : ℕ => Exists fun far : ℕ => near ≤ 2 ^ 24 ∧ far ≤ 2 ^ 24 ∧
    exact start = near ∧ exact goal = far) ∨
  exact goal ≤ 2 * exact start ∧ exact start ≤ 2 * exact goal

variable (long : 1 ≤ exact start) (otherLong : 1 ≤ exact goal)

include long otherLong

theorem IsEvenWay.isValue (even : IsEvenWay start goal) :
    IsValue Float32 (exact goal - exact start) := by
  rcases even with ⟨near, far, small, otherSmall, equal, otherEqual⟩ | ⟨wider, narrower⟩
  · have some : 1 ≤ near := by exact_mod_cast equal ▸ long
    have others : 1 ≤ far := by exact_mod_cast otherEqual ▸ otherLong
    rw [equal, otherEqual]
    rcases le_total near far with grows | shrinks
    · rw [← Nat.cast_sub grows]
      exact isValue_natCast (by omega)
    · rw [← neg_sub, ← Nat.cast_sub shrinks]
      exact (isValue_natCast (by omega)).neg
  · rcases le_total (exact start) (exact goal) with grows | shrinks
    · exact (isValue_exact goal).sub_of_le_double (isValue_exact start) (by linarith) grows wider
    · rw [← neg_sub]
      exact ((isValue_exact start).sub_of_le_double (isValue_exact goal) (by linarith) shrinks
        narrower).neg

variable (finite : IsFinite start) (otherFinite : IsFinite goal)

include finite otherFinite

theorem isFinite_way : IsFinite (goal - start) := by
  have way := rounds_sub otherFinite finite
  rcases le_total (exact start) (exact goal) with grows | shrinks
  · have room := (abs_lt.mp otherFinite.abs_exact_lt).2
    exact way.isFinite ((way.within (isValue_exact goal)
      (abs_le.mpr ⟨by linarith, by linarith⟩)).trans_lt room)
  · have room := (abs_lt.mp finite.abs_exact_lt).2
    exact way.isFinite ((way.within (isValue_exact start)
      (abs_le.mpr ⟨by linarith, by linarith⟩)).trans_lt room)

/-- All of the way is the way. -/
theorem soundSide_whole_way :
    soundSide (start + (goal - start) * 1) = soundSide (start + (goal - start)) := by
  have way := isFinite_way long otherLong finite otherFinite
  have whole := rounds_mul way (show IsFinite (1 : Float32) from rfl)
  rw [exact_single_one, mul_one] at whole
  have kept := whole.spec_of_isValue (isValue_exact _) way.abs_exact_lt
  exact soundSide_congr ((sameNumber_of_exact_eq kept.1 way kept.2).add_left start)

theorem IsEvenWay.leadsTo (even : IsEvenWay start goal) : LeadsTo start goal := by
  have way := isFinite_way long otherLong finite otherFinite
  have apart := (rounds_sub otherFinite finite).exact_eq_of_isValue (even.isValue long otherLong)
  have sum := rounds_add finite way
  rw [apart, add_sub_cancel] at sum
  have reached := sum.spec_of_isValue (isValue_exact goal) otherFinite.abs_exact_lt
  have sound : 1 ≤ goal := (le_iff_exact (show IsDefined (1 : Float32) from rfl)
    otherFinite.isDefined).mpr (exact_single_one ▸ otherLong)
  unfold LeadsTo
  rw [eq_of_exact_eq reached.1 otherFinite (by linarith) reached.2]
  exact if_pos ⟨sound, otherFinite⟩

end Sides

theorem ofReadings_eq_iff {width height : Float32} {ratio : Float} {view : Viewport} :
    ofReadings width height ratio = view ↔ soundSide width = view.width ∧
      soundSide height = view.height ∧ soundRatio ratio = view.pixelRatio := by
  cases view
  exact Viewport.mk.injEq .. ▸ Iff.rfl

end Viewport

theorem toFloat32_div_self {n : UInt32} (some : 0 < n.toNat) : n.toFloat32 / n.toFloat32 = 1 := by
  have finite := isFinite_toFloat32 n
  have positive : exact n.toFloat32 ≠ 0 :=
    (exact_single_zero ▸ ((lt_iff _ _).mp (toFloat32_pos some)).2.2).ne'
  have quotient := rounds_div finite finite positive
  rw [div_self positive] at quotient
  have whole := quotient.spec_of_isValue isValue_single_one (one_lt_pow₀ one_lt_two (by decide))
  exact eq_one_of_exact_eq whole.1 whole.2

namespace ScriptedResizes

section Drag

variable (first last : Viewport) {startMs spacingMs : Float} (count : UInt32)

/-- The last change of a drag has the ratio that was asked for, and each side at
the end of its way. -/
theorem viewport_dragEvent_eq_iff (some : 0 < count.toNat) :
    (dragEvent first last startMs count spacingMs (count.toNat - 1)).viewport = last ↔
      Viewport.LeadsTo first.width last.width ∧ Viewport.LeadsTo first.height last.height := by
  have ratio : Viewport.soundRatio last.pixelRatio = last.pixelRatio :=
    if_pos last.pixelRatio_sound
  unfold dragEvent ResizeEvent.viewport
  dsimp only
  rw [Nat.sub_add_cancel some, UInt32.ofNat_toNat, toFloat32_div_self some,
    Viewport.ofReadings_eq_iff, ratio,
    Viewport.soundSide_whole_way first.one_le_exact_width last.one_le_exact_width
      first.isFinite_width last.isFinite_width,
    Viewport.soundSide_whole_way first.one_le_exact_height last.one_le_exact_height
      first.isFinite_height last.isFinite_height]
  exact and_congr_right fun _ => and_iff_left rfl

variable (start : IsFinite startMs) (spacing : IsNonNegative spacingMs)

include start spacing

theorem inLine_dragEvent {index later : ℕ} (ordered : index ≤ later) (few : later < UInt32.size) :
    InLine (dragEvent first last startMs count spacingMs index).atMs
      (dragEvent first last startMs count spacingMs later).atMs := by
  have counted : UInt32.ofNat index ≤ UInt32.ofNat later := by
    rw [UInt32.le_iff_toNat_le, UInt32.toNat_ofNat_of_lt' (ordered.trans_lt few),
      UInt32.toNat_ofNat_of_lt' few]
    exact ordered
  have nonneg := (rounds_mul (toFloat_spec (.ofNat index)).1 spacing.finite).ge
    Exact.Representable.zero (mul_nonneg ?_ spacing.nonneg)
  · exact (inLine_mul counted spacing.finite spacing.nonneg).add_left start nonneg
  · rw [(toFloat_spec _).2]
    exact Nat.cast_nonneg _

/-- The changes of a drag are made in line. -/
theorem pairwise_dragEvents : ((List.range (max count 1).toNat).map
    (dragEvent first last startMs (max count 1) spacingMs)).Pairwise
      fun earlier later => InLine earlier.atMs later.atMs := by
  refine List.pairwise_map.mpr (List.pairwise_lt_range.imp_of_mem ?_)
  intro index later _ member below
  have few := (List.mem_range.mp member).trans (max count 1).toNat_lt
  exact inLine_dragEvent first last (max count 1) start spacing below.le few

/-- So sorting does not move them. -/
theorem drag_events : (drag first last startMs count spacingMs).events =
    (List.range (max count 1).toNat).map
      (dragEvent first last startMs (max count 1) spacingMs) := by
  have inLine := pairwise_dragEvents first last count start spacing
  exact List.mergeSort_of_pairwise (inLine.imp fun line => decide_eq_true line.orderKey_le)

theorem drag_inTimeOrder : InTimeOrder (drag first last startMs count spacingMs).events := by
  rw [drag_events first last count start spacing]
  refine (pairwise_dragEvents first last count start spacing).imp ?_
  intro earlier later line
  exact (le_iff _ _).mpr ⟨line.first, line.second, line.le⟩

theorem isDefined_of_mem_drag {event : ResizeEvent}
    (member : event ∈ (drag first last startMs count spacingMs).events) : IsDefined event.atMs := by
  rw [drag_events first last count start spacing] at member
  rcases List.mem_map.mp member with ⟨index, listed, rfl⟩
  have few := (List.mem_range.mp listed).trans (max count 1).toNat_lt
  exact (inLine_dragEvent first last (max count 1) start spacing le_rfl few).first

theorem remaining_drag :
    (drag first last startMs count spacingMs).remaining = max count.toNat 1 := by
  unfold remaining
  rw [drag_events first last count start spacing, List.length_map, List.length_range,
    Viewport.toNat_max_one]

theorem getLast?_drag : (drag first last startMs count spacingMs).events.getLast? =
    some (dragEvent first last startMs (max count 1) spacingMs ((max count 1).toNat - 1)) := by
  have some := Viewport.toNat_max_one_pos count
  rw [drag_events first last count start spacing, ← Nat.sub_add_cancel some, List.range_succ,
    List.map_append]
  exact List.getLast?_concat

/-- A drag has as many changes as were asked for, but one at least.  Drains
deliver them in the order of their times and in the end all of them, and the view
of the last one is the one that was asked for exactly if the way of each side
ends there.  An even way does. -/
theorem drag_ends_iff {script : ScriptedResizes}
    (made : script = drag first last startMs count spacingMs) :
    script.remaining = max count.toNat 1 ∧ InTimeOrder script.events ∧
    (forall times, Exists fun delivered => Exists fun left =>
      ResizeSource.drainAll script times = (delivered, left) ∧
        delivered.flatten ++ left.events = script.events) ∧
    (Exists fun rest => ResizeSource.drain (Binary.infinity false) script = (script.events, rest) ∧
      rest.remaining = 0) ∧
    Exists fun event => script.events.getLast? = some event ∧
      (event.viewport = last ↔ Viewport.LeadsTo first.width last.width ∧
        Viewport.LeadsTo first.height last.height) ∧
      (Viewport.IsEvenWay first.width last.width -> Viewport.IsEvenWay first.height last.height ->
        event.viewport = last) := by
  subst made
  have inOrder := drag_inTimeOrder first last count start spacing
  have some := Viewport.toNat_max_one_pos count
  have ends : (dragEvent first last startMs (max count 1) spacingMs _).viewport = last ↔ _ :=
    viewport_dragEvent_eq_iff first last _ some
  have drained := drain_endless fun _ => isDefined_of_mem_drag first last count start spacing
  refine ⟨remaining_drag first last count start spacing, inOrder, drainAll_spec _,
    ⟨_, drained, rfl⟩, _, getLast?_drag first last count start spacing, ends,
    fun width height => ends.mpr ⟨?_, ?_⟩⟩
  · exact width.leadsTo first.one_le_exact_width last.one_le_exact_width first.isFinite_width
      last.isFinite_width
  · exact height.leadsTo first.one_le_exact_height last.one_le_exact_height first.isFinite_height
      last.isFinite_height

end Drag

/-- A window that is made larger, through a time of zero. -/
theorem drag_ends_larger : IsFinite (-48 : Float) ∧ IsNonNegative (16 : Float) ∧
    Exists fun event =>
      (drag (.ofReadings 320 240 1) (.ofReadings 640 360 2) (-48) 7 16).events.getLast? =
        some event ∧ event.viewport = .ofReadings 640 360 2 := by
  have start : IsFinite (-48 : Float) := rfl
  have spacing : IsNonNegative (16 : Float) := by
    refine ⟨rfl, ?_⟩
    rw [exact_of_unpack (u := .finite .positive 4503599627370496 (-48) (by decide)) rfl]
    norm_num [Exact.value, Exact.signed]
  have width : Viewport.IsEvenWay (Viewport.ofReadings 320 240 1).width
      (Viewport.ofReadings 640 360 2).width :=
    Or.inl ⟨320, 640, by norm_num, by norm_num, exact_toFloat32 (n := 320) (by decide),
      exact_toFloat32 (n := 640) (by decide)⟩
  have height : Viewport.IsEvenWay (Viewport.ofReadings 320 240 1).height
      (Viewport.ofReadings 640 360 2).height :=
    Or.inl ⟨240, 360, by norm_num, by norm_num, exact_toFloat32 (n := 240) (by decide),
      exact_toFloat32 (n := 360) (by decide)⟩
  rcases drag_ends_iff (.ofReadings 320 240 1) (.ofReadings 640 360 2) 7 start spacing rfl with
    ⟨-, -, -, -, event, isLast, -, ends⟩
  exact ⟨start, spacing, event, isLast, ends width height⟩

/-- A drag to a side of 100.1 pixels ends beside it, because the way is rounded
to the grid of the larger side. -/
theorem drag_ends_elsewhere : IsFinite (0 : Float) ∧ IsNonNegative (0 : Float) ∧
    Exists fun event => Exists fun rest =>
      (drag (.ofReadings 640 480 1) (.ofReadings 100.1 480 1) 0 1 0).poll 0 = some (event, rest) ∧
        rest.remaining = 0 ∧ event.viewport ≠ .ofReadings 100.1 480 1 := by
  have start : IsFinite (0 : Float) := rfl
  have spacing : IsNonNegative (0 : Float) := ⟨rfl, exact_double_zero.ge⟩
  have single := drag_events (.ofReadings 640 480 1) (.ofReadings 100.1 480 1) 1 start spacing
  have misses : ¬Viewport.LeadsTo (Viewport.ofReadings 640 480 1).width
      (Viewport.ofReadings 100.1 480 1).width := by
    unfold Viewport.LeadsTo
    decide +kernel
  refine ⟨start, spacing, dragEvent (.ofReadings 640 480 1) (.ofReadings 100.1 480 1) 0 1 0 0,
    ⟨[]⟩, ?_, rfl, fun ends => misses ?_⟩
  · unfold poll
    rw [single]
    rfl
  · exact ((viewport_dragEvent_eq_iff (.ofReadings 640 480 1) (.ofReadings 100.1 480 1) 1
      (by decide)).mp ends).1

end ScriptedResizes

end Starfield
