import Starfield.Proofs.Picture.Replay

namespace Starfield

/-!
# Counting drawings

A frame says how many drawings it needs without being painted.  The commands
that painting asks for are a list, so the number can be compared with what is
really drawn.  To see what is drawn on a surface of any kind, a log is kept
beside it; the log changes nothing.
-/

namespace DrawCommand

/-- A command that draws something, unlike those that only prepare the
surface. -/
def isPrimitive : DrawCommand -> Bool
  | .resize _ => false
  | .clear _ => false
  | _ => true

/-- How many of the commands draw something. -/
def primitives (commands : List DrawCommand) : ℕ :=
  commands.countP isPrimitive

variable {α : Type} {make : α -> DrawCommand}

theorem primitives_append (first second : List DrawCommand) :
    primitives (first ++ second) = primitives first + primitives second :=
  List.countP_append

/-- A drawing for each item. -/
theorem primitives_map (draws : forall item, (make item).isPrimitive = true) (items : List α) :
    primitives (items.map make) = items.length := by
  rw [primitives, List.countP_map]
  exact List.countP_eq_length.mpr fun item _ => draws item

end DrawCommand

open DrawCommand (primitives primitives_append primitives_map)

namespace Frame

/-- A star is one drawing, or two if it glows. -/
theorem primitives_starDrawings (scale : Float32) (star : StarDisc) :
    primitives (starDrawings scale star) = (if 0 < star.glow then 1 else 0) + 1 := by
  unfold starDrawings
  split_ifs <;> rfl

theorem primitives_stars (scale : Float32) (stars : List StarDisc) :
    primitives (stars.flatMap (starDrawings scale)) =
      stars.length + (stars.filter fun star => 0 < star.glow).length := by
  induction stars with
  | nil => rfl
  | cons star stars ih =>
      rw [List.flatMap_cons, primitives_append, primitives_starDrawings, ih, List.filter_cons,
        List.length_cons]
      simp only [decide_eq_true_eq]
      split_ifs
      · rw [List.length_cons]
        omega
      · omega

/-- Behind the clearing there are as many drawings as the frame says. -/
theorem primitives_details (frame : Frame) : primitives frame.details = frame.drawCallCount := by
  unfold details drawCallCount
  rw [primitives_append, primitives_append, primitives_append, primitives_stars,
    primitives_map fun _ => rfl, primitives_map fun _ => rfl, primitives_map fun _ => rfl]
  omega

/-- A change of size and the clearing are no drawings. -/
theorem primitives_commands (frame : Frame) (size : PhysicalSize) :
    primitives (frame.commands size) = frame.drawCallCount := by
  rw [← primitives_details]
  unfold commands
  split_ifs <;> rfl

end Frame

/-! ## Surfaces with a log -/

/-- A surface and all that was drawn on it, in order. -/
structure LoggedSurface (σ : Type) where
  surface : σ
  drawn : List DrawCommand := []

namespace LoggedSurface

variable {σ : Type} [Surface σ]

instance : Surface (LoggedSurface σ) where
  size logged := Surface.size logged.surface
  draw command logged := do
    return ⟨<- Surface.draw command logged.surface, logged.drawn ++ [command]⟩

/-- The surface becomes what it would have become without a log. -/
theorem drawAll_eq (commands : List DrawCommand) (logged : LoggedSurface σ) :
    Surface.drawAll commands logged =
      (⟨·, logged.drawn ++ commands⟩) <$> Surface.drawAll commands logged.surface := by
  induction commands generalizing logged with
  | nil =>
      rw [List.append_nil]
      rfl
  | cons command commands ih =>
      rw [Surface.drawAll_cons, Surface.drawAll_cons]
      change (Surface.draw command logged.surface >>= _) >>= _ = _
      cases Surface.draw command logged.surface with
      | error cause => rfl
      | ok next =>
          refine (ih ⟨next, logged.drawn ++ [command]⟩).trans ?_
          rw [List.append_assoc, List.singleton_append]
          rfl

/-- Painting a frame logs its commands. -/
theorem paint_eq (frame : Frame) (logged : LoggedSurface σ) :
    frame.paint logged =
      (⟨·, logged.drawn ++ frame.commands (Surface.size logged.surface)⟩) <$>
        frame.paint logged.surface := by
  rw [frame.paint_eq_drawAll, frame.paint_eq_drawAll]
  exact drawAll_eq _ logged

end LoggedSurface

end Starfield
