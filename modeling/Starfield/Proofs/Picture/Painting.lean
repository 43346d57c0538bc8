import Starfield.Picture.Painting
import Starfield.Proofs.Outcome
import Starfield.Surface.Recording

namespace Starfield

/-!
# Painting without faults

A frame is painted by drawings alone, so only a drawing can fault.
-/

/-- A kind of surface on which no drawing faults. -/
def Surface.Faultless (σ : Type) [Surface σ] : Prop :=
  forall (command : DrawCommand) (surface : σ), Exists fun next =>
    Surface.draw command surface = .ok next

theorem RecordingSurface.faultless : Surface.Faultless RecordingSurface :=
  fun command surface => ⟨surface.record command, rfl⟩

namespace Frame

variable {σ : Type} [Surface σ]

theorem fit_ok (faultless : Surface.Faultless σ) (frame : Frame) (surface : σ) :
    Exists fun fitted => frame.fit surface = .ok fitted := by
  unfold fit
  by_cases same : Surface.size surface = frame.viewport.physicalSize
  · exact ⟨surface, if_pos same⟩
  · rw [if_neg same]
    exact faultless _ surface

theorem paintStar_ok (faultless : Surface.Faultless σ) (scale : Float32) (surface : σ)
    (star : StarDisc) : Exists fun painted => paintStar scale surface star = .ok painted := by
  unfold paintStar
  by_cases glows : 0 < star.glow
  · rw [if_pos glows]
    exact Outcome.bind_ok (faultless _ surface) fun lit => faultless _ lit
  · rw [if_neg glows]
    exact faultless _ surface

/-- Where no drawing faults every frame is painted. -/
theorem paint_ok (faultless : Surface.Faultless σ) (frame : Frame) (surface : σ) :
    Exists fun painted => frame.paint surface = .ok painted := by
  refine Outcome.bind_ok (fit_ok faultless frame surface) fun fitted => ?_
  refine Outcome.bind_ok (faultless _ fitted) fun cleared => ?_
  refine Outcome.bind_ok (Outcome.foldlM_ok (fun surface _ => faultless _ surface) _ cleared)
    fun clouded => ?_
  refine Outcome.bind_ok (Outcome.foldlM_ok (paintStar_ok faultless _) _ clouded) fun starry => ?_
  cases frame.overlay.vignette with
  | none =>
      cases frame.overlay.lightBeam with
      | none => exact ⟨starry, rfl⟩
      | some beam => exact faultless _ starry
  | some vignette =>
      refine Outcome.bind_ok (faultless _ starry) fun veiled => ?_
      cases frame.overlay.lightBeam with
      | none => exact ⟨veiled, rfl⟩
      | some beam => exact faultless _ veiled

end Frame

end Starfield
