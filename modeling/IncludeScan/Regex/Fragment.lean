import IncludeScan.Regex.ByteRange
import IncludeScan.Regex.Expr

/-!
Fragments: bytes that the matches of an expression start or end with.

* `Expr.fragments`: every match has one of these fragments at a side. There are never more than
  `Fragments.most` of them, and none is longer than `Fragments.longest`.
-/

set_option autoImplicit false

namespace IncludeScan.Regex

def textBytes (text : List Char) : List Nat :=
  text.flatMap (fun x => ByteRange.encode x.toNat)

inductive Side where
  | front
  | back
  deriving DecidableEq, Repr, Inhabited

def Side.take {α : Type} (side : Side) (n : Nat) (l : List α) : List α :=
  match side with
  | front => l.take n
  | back => l.drop (l.length - n)

/-- Bytes at a side of a match. They are the whole match if `exact`. -/
structure Fragment where
  bytes : List Nat
  exact : Bool
  deriving DecidableEq, Repr, Inhabited

namespace Fragment

def asPart (f : Fragment) : Fragment :=
  { f with exact := false }

def keep (side : Side) (n : Nat) (f : Fragment) : Fragment :=
  if n < f.bytes.length then ⟨side.take n f.bytes, false⟩ else f

def dropRepeats : List Fragment → List Fragment
  | [] => []
  | f :: fs =>
    match dropRepeats fs with
    | g :: rest => if f.bytes = g.bytes then ⟨f.bytes, f.exact && g.exact⟩ :: rest
      else f :: g :: rest
    | [] => [f]

/-- The fragments of matches that have one of `inner` at the side and one of `outer` next to it.
What is a mere part of a match cannot be continued. -/
def product (side : Side) (inner outer : List Fragment) : List Fragment :=
  match side with
  | .front => inner.flatMap (fun f =>
      if f.exact then outer.map (fun g => ⟨f.bytes ++ g.bytes, g.exact⟩) else [f])
  | .back => outer.zipIdx.flatMap (fun (g, i) => inner.flatMap (fun f =>
      if f.exact then [⟨g.bytes ++ f.bytes, g.exact⟩] else if i == 0 then [f] else []))

end Fragment

/-- The fragments at a side, those of preferred matches first; none if they are too many. -/
abbrev Fragments := Option (List Fragment)

namespace Fragments

def most : Nat := 250

def longest : Nat := 100

/-- The largest number of characters of a class that has fragments. -/
def mostChars : Nat := 10

def mostTimes : Nat := 10

def empty : Fragments := some [⟨[], true⟩]

def asParts (fs : Fragments) : Fragments :=
  fs.map (List.map Fragment.asPart)

def areParts (fs : Fragments) : Bool :=
  (fs.map (List.all · (fun f => !f.exact))).getD true

def keep (side : Side) (n : Nat) (fs : Fragments) : Fragments :=
  fs.map (List.map (Fragment.keep side n))

/-- What matches have at the side if `inner` lies there and `outer` next to it. -/
def followedBy (side : Side) (inner outer : Fragments) : Fragments :=
  match inner, outer with
  | none, _ => none
  | some fs, none =>
    if fs.any (·.bytes.isEmpty) then none else asParts (some fs)
  | some fs, some gs =>
    if most < fs.length * gs.length then
      if fs.any (·.bytes.isEmpty) then none else asParts (some fs)
    else keep side longest (some (Fragment.dropRepeats (Fragment.product side fs gs)))

/-- Either fragments or others, cut short if they are too many. -/
def either (side : Side) (a b : Fragments) : Fragments :=
  match a, b with
  | some fs, some gs =>
    if fs.length + gs.length ≤ most then some (Fragment.dropRepeats (fs ++ gs))
    else
      let fs := Fragment.dropRepeats (fs.map (Fragment.keep side 4))
      let gs := Fragment.dropRepeats (gs.map (Fragment.keep side 4))
      if fs.length + gs.length ≤ most then some (Fragment.dropRepeats (fs ++ gs)) else none
  | _, _ => none

def ofText (side : Side) (text : List Char) : Fragments :=
  keep side longest (some [⟨textBytes text, true⟩])

def ofClass (c : Class) : Fragments :=
  if mostChars < c.ranges.foldl (fun n r => n + (r.2 + 1 - r.1)) 0 then none
  else some ((c.ranges.flatMap (fun r => List.range' r.1 (r.2 + 1 - r.1))).map
    (fun n => ⟨ByteRange.encode n, true⟩))

def times (side : Side) (fs : Fragments) : Nat → Fragments → Fragments
  | 0, acc => acc
  | n + 1, acc => if acc.areParts then acc else times side fs n (acc.followedBy side fs)

def repeated (side : Side) (least : Nat) (most : Option Nat) (greedy : Bool) (fs : Fragments) :
    Fragments :=
  if least == 0 then
    let fs := if most == some 1 then fs else fs.asParts
    if greedy then either side fs empty else either side empty fs
  else
    let all := times side fs (min least mostTimes) empty
    if most == some least && least ≤ mostTimes then all else all.asParts

/-- What an expression adds: next to fragments, and as a choice beside others. -/
structure Extension where
  next : Fragments → Fragments
  beside : Fragments → Fragments

def Extension.ofFragments (side : Side) (fs : Fragments) : Extension :=
  ⟨fun acc => if acc.areParts then acc else acc.followedBy side fs, fun acc => acc.either side fs⟩

end Fragments

def Expr.extension (side : Side) : Expr → Fragments.Extension
  | .empty | .look _ => .ofFragments side .empty
  | .literal text => .ofFragments side (.ofText side text)
  | .oneOf c => .ofFragments side (.ofClass c)
  | .cat a b =>
    let next (acc : Fragments) : Fragments :=
      match side with
      | .front => (b.extension side).next ((a.extension side).next acc)
      | .back => (a.extension side).next ((b.extension side).next acc)
    ⟨next, fun acc => acc.either side (next .empty)⟩
  | .alt a b =>
    let beside (acc : Fragments) : Fragments :=
      (b.extension side).beside ((a.extension side).beside acc)
    ⟨fun acc => (Fragments.Extension.ofFragments side (beside (some []))).next acc, beside⟩
  | .group _ e => .ofFragments side ((e.extension side).next .empty)
  | .iter least most greedy e =>
    .ofFragments side (Fragments.repeated side least most greedy ((e.extension side).next .empty))

def Expr.fragments (side : Side) (e : Expr) : Fragments :=
  (e.extension side).next .empty

end IncludeScan.Regex
