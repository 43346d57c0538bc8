namespace Starfield

/-!
# Slices of text

Places in text are counted in the bytes that encode it.  A cut at a place
within a character has no result.
-/

/-- How many bytes encode some characters. -/
def byteLength : List Char -> Nat
  | [] => 0
  | c :: rest => c.utf8Size + byteLength rest

/-- What is behind so many bytes. -/
def dropBytes? : Nat -> List Char -> Option (List Char)
  | 0, text => some text
  | _, [] => none
  | n, c :: rest => if c.utf8Size ≤ n then dropBytes? (n - c.utf8Size) rest else none

/-- What has so many bytes. -/
def takeBytes? : Nat -> List Char -> Option (List Char)
  | 0, _ => some []
  | _, [] => none
  | n, c :: rest =>
    if c.utf8Size ≤ n then (takeBytes? (n - c.utf8Size) rest).map (c :: ·) else none

/-- The text between two places. -/
def slice? (text : List Char) (start stop : Nat) : Option (List Char) :=
  (dropBytes? start text).bind (takeBytes? (stop - start))

end Starfield
