namespace Starfield

/-!
# Gaps

What stands between the signs of a document without meaning: blanks, comments
to the end of a line, and comments that may hold others.
-/

/-- The character separates tokens. -/
def isGap (c : Char) : Bool :=
  let n := c.toNat
  n = 0x20 || (9 ≤ n && n ≤ 13) || n = 0x85 || n = 0x200e || n = 0x200f || n = 0x2028 || n = 0x2029

/-- Where a gap is being read. -/
inductive Gap
  | between
  | line
  /-- Inside a comment within so many others. -/
  | comment (depth : Nat)

/-- What follows a gap.  There is nothing sensible behind a lone slash or in a
comment that does not end. -/
def Gap.skip? : Gap -> List Char -> Option (List Char)
  | .between, '/' :: '/' :: rest => Gap.skip? .line rest
  | .between, '/' :: '*' :: rest => Gap.skip? (.comment 0) rest
  | .between, c :: rest =>
    if isGap c then Gap.skip? .between rest else if c = '/' then none else some (c :: rest)
  | .line, c :: rest => if c = '\n' then Gap.skip? .between rest else Gap.skip? .line rest
  | .comment depth, '/' :: '*' :: rest => Gap.skip? (.comment (depth + 1)) rest
  | .comment 0, '*' :: '/' :: rest => Gap.skip? .between rest
  | .comment (depth + 1), '*' :: '/' :: rest => Gap.skip? (.comment depth) rest
  | .comment depth, _ :: rest => Gap.skip? (.comment depth) rest
  | .between, [] | .line, [] => some []
  | .comment _, [] => none

end Starfield
