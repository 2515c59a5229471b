import IncludeScan.Text.CaseFold
import IncludeScan.Text.Word

/-!
Character classes: the sets of characters that one position of a regular expression accepts.

A class is kept as its ranges of code points, so two classes with the same ranges are equal. All
operations keep the ranges in increasing order, each separated from the next.
-/

set_option autoImplicit false

namespace IncludeScan.Regex

/-- A set of characters: ranges of code points, both ends included, in increasing order. -/
structure Class where
  ranges : List (Nat × Nat)
  deriving DecidableEq, Repr, Inhabited

namespace Class

/-! ## Ranges -/

/-- The code point of the character after this one. No character has a surrogate code point. -/
def after (n : Nat) : Nat :=
  if n == 0xD7FF then 0xE000 else n + 1

def before (n : Nat) : Nat :=
  if n == 0xE000 then 0xD7FF else n - 1

/-- Adds a range, joining it with the ranges that it overlaps or touches. -/
def insertRange (r : Nat × Nat) : List (Nat × Nat) → List (Nat × Nat)
  | [] => [r]
  | s :: rest =>
    if r.2 + 1 < s.1 then r :: s :: rest
    else if s.2 + 1 < r.1 then s :: insertRange r rest
    else insertRange (min r.1 s.1, max r.2 s.2) rest

/-- The ranges between the ranges, after the one that ends at `last`. The gap between two ranges
reaches from the character after the first to the character before the second, in either order. -/
def gapsAfter (last : Nat) : List (Nat × Nat) → List (Nat × Nat)
  | [] => if last < 0x10FFFF then [(after last, 0x10FFFF)] else []
  | r :: rest =>
    (min (after last) (before r.1), max (after last) (before r.1)) :: gapsAfter r.2 rest

def gaps : List (Nat × Nat) → List (Nat × Nat)
  | [] => [(0, 0x10FFFF)]
  | r :: rest => (if 0 < r.1 then [(0, before r.1)] else []) ++ gapsAfter r.2 rest

def cutRange (r : Nat × Nat) : List (Nat × Nat) → List (Nat × Nat)
  | [] => [r]
  | s :: rest =>
    if r.2 < s.1 then [r]
    else if s.2 < r.1 then cutRange r rest
    else
      (if r.1 < s.1 then [(r.1, before s.1)] else [])
        ++ (if s.2 < r.2 then cutRange (after s.2, r.2) rest else [])

def clipRange (r : Nat × Nat) (rs : List (Nat × Nat)) : List (Nat × Nat) :=
  (rs.map (fun s => (max r.1 s.1, min r.2 s.2))).filter (fun s => s.1 ≤ s.2)

/-! ## Classes -/

def contains (c : Class) (x : Char) : Bool :=
  Text.inRanges x.toNat c.ranges

def none : Class := ⟨[]⟩

def any : Class := ⟨[(0, 0x10FFFF)]⟩

def range (first last : Char) : Class := ⟨[(first.toNat, last.toNat)]⟩

def single (x : Char) : Class := range x x

def ofRanges (rs : List (Nat × Nat)) : Class :=
  ⟨rs.foldl (fun acc r => insertRange r acc) []⟩

def union (a b : Class) : Class :=
  ⟨b.ranges.foldl (fun acc r => insertRange r acc) a.ranges⟩

def complement (c : Class) : Class := ⟨gaps c.ranges⟩

def inter (a b : Class) : Class :=
  ⟨a.ranges.flatMap (fun r => clipRange r b.ranges)⟩

def diff (a b : Class) : Class :=
  ⟨a.ranges.flatMap (fun r => cutRange r b.ranges)⟩

def symmDiff (a b : Class) : Class :=
  diff (union a b) (inter a b)

def isEmpty (c : Class) : Bool := c.ranges.isEmpty

def isAscii (c : Class) : Bool :=
  c.ranges.all (fun r => r.2 < 0x80)

def only? (c : Class) : Option Char :=
  match c.ranges with
  | [(a, b)] => if a == b then some (Char.ofNat a) else Option.none
  | _ => Option.none

def ofCodes (codes : List Nat) : Class :=
  ofRanges (codes.map (fun n => (n, n)))

def fold (c : Class) : Class :=
  let added := Text.foldRows.flatMap (fun row =>
    (row.members.filter (fun n => Text.inRanges n c.ranges)).flatMap row.variants)
  union c (ofCodes added)

def foldAscii (c : Class) : Class :=
  let upper := inter c (range 'A' 'Z')
  let lower := inter c (range 'a' 'z')
  union c (union ⟨upper.ranges.map (fun r => (r.1 + 32, r.2 + 32))⟩
    ⟨lower.ranges.map (fun r => (r.1 - 32, r.2 - 32))⟩)

/-! ## Named classes -/

def digit : Class := ⟨Text.digitRanges⟩

def word : Class := ⟨Text.wordRanges⟩

def blank : Class :=
  ⟨[(0x9, 0xD), (0x20, 0x20), (0x85, 0x85), (0xA0, 0xA0), (0x1680, 0x1680), (0x2000, 0x200A),
    (0x2028, 0x2029), (0x202F, 0x202F), (0x205F, 0x205F), (0x3000, 0x3000)]⟩

def ofAsciiName? : String → Option Class
  | "alnum" => some (ofRanges [(0x30, 0x39), (0x41, 0x5A), (0x61, 0x7A)])
  | "alpha" => some (ofRanges [(0x41, 0x5A), (0x61, 0x7A)])
  | "ascii" => some (ofRanges [(0x00, 0x7F)])
  | "blank" => some (ofRanges [(0x09, 0x09), (0x20, 0x20)])
  | "cntrl" => some (ofRanges [(0x00, 0x1F), (0x7F, 0x7F)])
  | "digit" => some (ofRanges [(0x30, 0x39)])
  | "graph" => some (ofRanges [(0x21, 0x7E)])
  | "lower" => some (ofRanges [(0x61, 0x7A)])
  | "print" => some (ofRanges [(0x20, 0x7E)])
  | "punct" => some (ofRanges [(0x21, 0x2F), (0x3A, 0x40), (0x5B, 0x60), (0x7B, 0x7E)])
  | "space" => some (ofRanges [(0x09, 0x0D), (0x20, 0x20)])
  | "upper" => some (ofRanges [(0x41, 0x5A)])
  | "word" => some (ofRanges [(0x30, 0x39), (0x41, 0x5A), (0x5F, 0x5F), (0x61, 0x7A)])
  | "xdigit" => some (ofRanges [(0x30, 0x39), (0x41, 0x46), (0x61, 0x66)])
  | _ => Option.none

end Class
end IncludeScan.Regex
