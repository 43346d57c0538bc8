namespace Starfield

/-!
# Points of the plane

Places and displacements in logical pixels or in physical ones.  The type is
generic in its coordinates because motion is also read over exact numbers.
-/

structure Point (α : Type) where
  x : α
  y : α
deriving BEq, DecidableEq, Repr, Inhabited

namespace Point

variable {α β : Type}

def map (f : α -> β) (p : Point α) : Point β :=
  ⟨f p.x, f p.y⟩

def zipWith {γ : Type} (f : α -> β -> γ) (p : Point α) (q : Point β) : Point γ :=
  ⟨f p.x q.x, f p.y q.y⟩

def add [Add α] (p q : Point α) : Point α :=
  zipWith (· + ·) p q

def sub [Sub α] (p q : Point α) : Point α :=
  zipWith (· - ·) p q

instance [Add α] : Add (Point α) := ⟨add⟩

instance [Sub α] : Sub (Point α) := ⟨sub⟩

/-- Both coordinates times a number. -/
def scale [Mul α] (p : Point α) (factor : α) : Point α :=
  ⟨p.x * factor, p.y * factor⟩

def dot (p q : Point Float32) : Float32 :=
  p.x * q.x + p.y * q.y

def length (p : Point Float32) : Float32 :=
  (p.dot p).sqrt

def distance (p q : Point Float32) : Float32 :=
  (p - q).length

/-- The point turned a quarter of the full angle. -/
def perpendicular (p : Point Float32) : Point Float32 :=
  ⟨-p.y, p.x⟩

end Point

end Starfield
