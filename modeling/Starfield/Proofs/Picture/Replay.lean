import Starfield.Proofs.Picture.Repainting
import Starfield.Surface.Recording

namespace Starfield

/-!
# Replaying what was recorded

What painting asks of a surface is a list of commands, and the surface decides
only whether it begins with a change of size.  A recording surface keeps that
list.  A fresh one has no size, so its list always begins with the change; on
pixels that have the size already the change does nothing.  So the list of a
fresh recording surface paints the frame on all pixels, and faults where
painting the frame does.
-/

namespace Frame

/-- What painting asks of a surface of some size. -/
def commands (frame : Frame) (size : PhysicalSize) : List DrawCommand :=
  (if size = frame.viewport.physicalSize then [] else [.resize frame.viewport.physicalSize]) ++
    .clear frame.background :: frame.details

variable {σ : Type} [Surface σ]

theorem fit_eq (frame : Frame) (surface : σ) :
    frame.fit surface = Surface.drawAll
      (if Surface.size surface = frame.viewport.physicalSize then []
      else [.resize frame.viewport.physicalSize]) surface := by
  unfold fit
  dsimp only
  split_ifs
  · rfl
  · exact (Surface.drawAll_singleton _ surface).symm

theorem paint_eq_drawAll (frame : Frame) (surface : σ) :
    frame.paint surface = Surface.drawAll (frame.commands (Surface.size surface)) surface := by
  rw [paint_eq, fit_eq, commands, Surface.drawAll_append]

end Frame

/-! ## Recording -/

namespace RecordingSurface

theorem commands_record (recorder : RecordingSurface) (command : DrawCommand) :
    (recorder.record command).commands = recorder.commands.push command :=
  rfl

/-- Every command is kept, behind those that were kept before. -/
theorem drawAll_spec (commands : List DrawCommand) (recorder : RecordingSurface) :
    Exists fun recorded => Surface.drawAll commands recorder = .ok recorded ∧
      recorded.commands.toList = recorder.commands.toList ++ commands := by
  induction commands generalizing recorder with
  | nil => exact ⟨recorder, rfl, (List.append_nil _).symm⟩
  | cons command commands ih =>
      rcases ih (recorder.record command) with ⟨recorded, drawn, kept⟩
      refine ⟨recorded, (Surface.drawAll_cons ..).trans drawn, ?_⟩
      rw [kept, commands_record, Array.toList_push, List.append_assoc, List.singleton_append]

/-- Painting a frame records its commands. -/
theorem paint_spec (frame : Frame) (recorder : RecordingSurface) :
    Exists fun recorded => frame.paint recorder = .ok recorded ∧
      recorded.commands.toList =
        recorder.commands.toList ++ frame.commands (Surface.size recorder) := by
  rw [frame.paint_eq_drawAll]
  exact drawAll_spec _ recorder

/-- A surface without a size has the size of no view. -/
theorem size_fresh_ne (viewport : Viewport) :
    Surface.size ({} : RecordingSurface) ≠ viewport.physicalSize := by
  intro same
  have side := viewport.physicalSize.atLeastOne_pos.1
  rw [viewport.atLeastOne_physicalSize, ← same] at side
  exact absurd side (lt_irrefl 0)

end RecordingSurface

/-! ## Replaying -/

namespace PixelSurface

/-- Changing to the size of a view changes nothing where pixels have it. -/
theorem resize_of_size_eq {surface : PixelSurface} {viewport : Viewport}
    (same : surface.size = viewport.physicalSize) :
    resize viewport.physicalSize surface = .ok surface :=
  if_pos (viewport.atLeastOne_physicalSize.trans same.symm)

/-- The commands for a surface of another size paint the frame on pixels of any
size. -/
theorem drawAll_commands (frame : Frame) {size : PhysicalSize}
    (other : size ≠ frame.viewport.physicalSize) (surface : PixelSurface) :
    Surface.drawAll (frame.commands size) surface = frame.paint surface := by
  rw [frame.paint_eq_drawAll]
  unfold Frame.commands
  rw [if_neg other]
  split_ifs with same
  · rw [List.singleton_append, List.nil_append, Surface.drawAll_cons]
    have unchanged : Surface.draw (.resize frame.viewport.physicalSize) surface = .ok surface :=
      resize_of_size_eq same
    rw [unchanged, Outcome.ok_bind]
  · rfl

end PixelSurface

/-- What a fresh recording surface keeps of a frame is all that is needed to
paint it: on any pixels it has the outcome that painting has, the same surface
or the same fault. -/
theorem RecordingSurface.replay_paints (frame : Frame) :
    Exists fun recorded => frame.paint ({} : RecordingSurface) = .ok recorded ∧
      forall surface : PixelSurface,
        Surface.drawAll recorded.commands.toList surface = frame.paint surface := by
  rcases paint_spec frame {} with ⟨recorded, painted, kept⟩
  refine ⟨recorded, painted, fun surface => ?_⟩
  rw [kept]
  exact PixelSurface.drawAll_commands frame (size_fresh_ne frame.viewport) surface

end Starfield
