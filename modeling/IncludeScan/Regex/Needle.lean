import IncludeScan.Regex.Fragment

/-!
Needles: fragments that are good to search for.

* `Fragments.needles`: fragments made fewer and shorter, so that there are few of them and they are
  seldom met by chance.
* `isSharp`: whether a search for needles is worth while.
-/

set_option autoImplicit false

namespace IncludeScan.Regex

/-! ## Bytes -/

def asciiBytes (s : String) : List Nat :=
  s.toList.map Char.toNat

/-- Whether a byte is so common in texts that finding it says nothing. -/
def isUbiquitous (b : Nat) : Bool :=
  (asciiBytes " et").contains b || 0xC0 ≤ b

def isCommon (b : Nat) : Bool :=
  (asciiBytes "\n\r (),-./0129:_abcdefghilmnoprstuvxy|").contains b || 0xC0 ≤ b

/-! ## Lists of fragments -/

def commonFront : List Nat → List Nat → List Nat
  | a :: as, b :: bs => if a = b then a :: commonFront as bs else []
  | _, _ => []

def Side.common (side : Side) (a b : List Nat) : List Nat :=
  match side with
  | front => commonFront a b
  | back => (commonFront a.reverse b.reverse).reverse

namespace Fragment

/-- The bytes that all fragments share at a side; none without fragments. -/
def shared? (side : Side) : List Fragment → Option (List Nat)
  | [] => none
  | f :: fs => some (fs.foldl (fun bytes g => side.common bytes g.bytes) f.bytes)

def leastFrom (kept : List Fragment) : List Fragment → List Fragment
  | [] => kept.reverse
  | f :: fs =>
    if kept.any (fun g => g.bytes.isPrefixOf f.bytes) then leastFrom kept fs
    else leastFrom (f :: kept) fs

/-- Fragments at a side without those that need not be looked for beside earlier ones. -/
def least (side : Side) (fs : List Fragment) : List Fragment :=
  match side with
  | .front => leastFrom [] fs
  | .back => fs

def isPoor (f : Fragment) : Bool :=
  match f.bytes with
  | [] => true
  | [b] => isUbiquitous b
  | _ => false

def areExact (fs : List Fragment) : Bool :=
  fs.all (·.exact)

/-- Cuts the fragments to a length as long as there are more of them than wanted. -/
def shorten (side : Side) (fs : List Fragment) : List (Nat × Nat) → List Fragment
  | [] => fs
  | (length, wanted) :: steps =>
    if fs.length ≤ wanted then fs
    else shorten side (least side (fs.map (keep side length))) steps

/-- The lengths to which fragments are cut, each with the number of fragments that are not. -/
def lengthSteps : List (Nat × Nat) := [(5, 10), (4, 10), (3, 64), (2, 64), (1, 10)]

/-- The fragments cut short, or as they are if they are exact and nothing good comes of it. -/
def shortened? (side : Side) (fs : List Fragment) : Fragments :=
  let short := shorten side fs lengthSteps
  if short.any isPoor then (if areExact fs then some fs else none)
  else if areExact fs && (short.any (·.bytes.length ≤ 2) || 64 < short.length) then some fs
  else some short

end Fragment

def Fragments.needles (side : Side) : Fragments → Fragments
  | none => none
  | some fs =>
    if fs.any (·.bytes.isEmpty) then none
    else
      let several := 1 < fs.length
      let fs := Fragment.least side fs
      let shared := (Fragment.shared? side fs).getD []
      if side == .front && several && 1 ≤ shared.length && shared.length ≤ 3
          && !(shared.head?.map isCommon).getD true then
        some (Fragment.dropRepeats (fs.map (Fragment.keep side 1)))
      else
        let few := Fragment.areExact fs && fs.length ≤ 16
        if 4 < shared.length || (1 < shared.length && !few) then
          Fragment.shortened? side
            (Fragment.dropRepeats (fs.map (Fragment.keep side shared.length)))
        else Fragment.shortened? side fs

def areNeedles (fs : List Fragment) : Bool :=
  !fs.isEmpty && fs.all (!·.bytes.isEmpty)

/-- Whether a search for needles is fast and seldom in vain. -/
def isSharp (fs : List Fragment) : Bool :=
  areNeedles fs
    && (fs.length == 1 || (fs.length ≤ 3 && fs.all (·.bytes.length == 1))
      || (fs.length ≤ 64 && fs.all (3 ≤ ·.bytes.length)))

end IncludeScan.Regex
