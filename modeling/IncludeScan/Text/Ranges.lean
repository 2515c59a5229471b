/-!
Ranges of code points.
-/

set_option autoImplicit false

namespace IncludeScan.Text

/-- Whether `n` lies in one of the ranges, which are in increasing order. -/
def inRanges (n : Nat) : List (Nat × Nat) → Bool
  | [] => false
  | (lo, hi) :: ranges => if n < lo then false else n ≤ hi || inRanges n ranges

/-- Every second code point of a range, from its first to its last. -/
def everySecond (r : Nat × Nat) : List (Nat × Nat) :=
  (List.range ((r.2 - r.1) / 2 + 1)).map (fun i => (r.1 + 2 * i, r.1 + 2 * i))

/-- Ranges and the names by which they are known, in lower case and with nothing between words. -/
structure NamedRanges where
  names : List String
  ranges : List (Nat × Nat)

/-- What has to be added to the code points that a property has in the main, and what has to be
removed from them. -/
structure Exceptions where
  name : String
  added : List (Nat × Nat)
  removed : List (Nat × Nat)

end IncludeScan.Text
