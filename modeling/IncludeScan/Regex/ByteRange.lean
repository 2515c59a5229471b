import IncludeScan.Regex.Class

/-!
Classes of characters as sequences of byte ranges.

A range of code points is cut into blocks, so that the encodings of a block are all combinations of
one byte from each range of a sequence.
-/

set_option autoImplicit false

namespace IncludeScan.Regex

structure ByteRange where
  first : Nat
  last : Nat
  deriving DecidableEq, Repr, Inhabited

namespace ByteRange

def encode (n : Nat) : List Nat :=
  if n < 0x80 then [n]
  else if n < 0x800 then [0xC0 + n / 64, 0x80 + n % 64]
  else if n < 0x10000 then [0xE0 + n / 4096, 0x80 + n / 64 % 64, 0x80 + n % 64]
  else [0xF0 + n / 262144, 0x80 + n / 4096 % 64, 0x80 + n / 64 % 64, 0x80 + n % 64]

/-- The parts of a range from one bound to the next. -/
def splitAt (bounds : List Nat) (r : Nat × Nat) : List (Nat × Nat) :=
  match bounds with
  | [] => [r]
  | b :: bounds =>
    if r.1 ≤ b && b < r.2 then (r.1, b) :: splitAt bounds (b + 1, r.2) else splitAt bounds r

def splitSurrogates (r : Nat × Nat) : List (Nat × Nat) :=
  if r.1 < 0xE000 && 0xD7FF < r.2 then
    [(r.1, 0xD7FF), (0xE000, r.2)].filter (fun s => s.1 ≤ s.2)
  else [r]

/-- The blocks of a range: an incomplete block of the first size at each end, and blocks of the
further sizes between them. -/
def blocks (sizes : List Nat) (r : Nat × Nat) : List (Nat × Nat) :=
  match sizes with
  | [] => [r]
  | size :: sizes =>
    if r.1 / size == r.2 / size then [r]
    else
      let lo := (r.1 + size - 1) / size * size
      let hi := (r.2 + 1) / size * size
      (if r.1 < lo then [(r.1, lo - 1)] else [])
        ++ (if lo < hi then blocks sizes (lo, hi - 1) else [])
        ++ (if hi ≤ r.2 then [(hi, r.2)] else [])

def ofBlock (r : Nat × Nat) : List ByteRange :=
  (encode r.1).zipWith ByteRange.mk (encode r.2)

/-- The sequences of byte ranges whose bytes encode the characters of a class, in order. -/
def sequences (c : Class) : List (List ByteRange) :=
  ((c.ranges.flatMap splitSurrogates).flatMap (splitAt [0x7F, 0x7FF, 0xFFFF])).flatMap
    (fun r => (if r.2 < 0x80 then [r] else blocks [64, 4096, 262144] r).map ofBlock)

end ByteRange
end IncludeScan.Regex
