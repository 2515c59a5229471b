import IncludeScan.Regex.Escape

/-!
Bracketed classes: single characters, ranges, escapes, named ASCII classes, nested brackets, and
the operators `&&`, `--` and `~~` between parts.
-/

set_option autoImplicit false

namespace IncludeScan.Regex

def depthLimit : Nat := 250

inductive ClassOp where
  | inter
  | diff
  | symmDiff
  deriving DecidableEq, Repr

def ClassOp.apply : ClassOp → Class → Class → Class
  | inter => Class.inter
  | diff => Class.diff
  | symmDiff => Class.symmDiff

structure Nested where
  cls : Class
  depth : Nat
  deriving DecidableEq, Repr

/-- A bracketed class being read: what stands left of the last operator, and the items after it
with their number and greatest depth. -/
structure OpenClass where
  negated : Bool
  left : Option (Nested × ClassOp)
  items : Nat
  part : Nested
  deriving DecidableEq, Repr

namespace OpenClass

def start (negated : Bool) : OpenClass := ⟨negated, none, 0, ⟨.none, 0⟩⟩

def add (o : OpenClass) (n : Nested) : OpenClass :=
  { o with items := o.items + 1, part := ⟨.union o.part.cls n.cls, max o.part.depth n.depth⟩ }

def addClass (o : OpenClass) (c : Class) : OpenClass :=
  o.add ⟨c, 0⟩

/-- All that has been read, operators applied from left to right. Several items count as one level
of nesting, and so does each operator. -/
def value (f : Flags) (o : OpenClass) : Nested :=
  let part : Nested := if 1 < o.items then ⟨o.part.cls, o.part.depth + 1⟩ else o.part
  match o.left with
  | none => part
  | some (l, op) => ⟨op.apply (foldIf f l.cls) (foldIf f part.cls), max l.depth part.depth + 1⟩

def operate (f : Flags) (op : ClassOp) (o : OpenClass) : OpenClass :=
  { start o.negated with left := some (o.value f, op) }

def finish (f : Flags) (o : OpenClass) : Option Nested :=
  let v := o.value f
  (foldNegate f o.negated v.cls).map (fun c => ⟨c, v.depth + 1⟩)

end OpenClass

/-- A named ASCII class, after the bracket before its first colon. Nothing if there is none; a class
that is refused otherwise. -/
def asciiClass? (f : Flags) (cs : List Char) : Option (Option Class × List Char) :=
  match cs with
  | ':' :: cs =>
    let negated := cs.head? == some '^'
    let cs := if negated then cs.drop 1 else cs
    match cs.dropWhile (· != ':') with
    | ':' :: ']' :: rest =>
      (Class.ofAsciiName? (String.ofList (cs.takeWhile (· != ':')))).map
        (fun c => (foldNegate f negated c, rest))
    | _ => none
  | _ => none

def classChar (f : Flags) (x : Char) : Option Char :=
  if f.asciiOnly && 0x80 ≤ x.toNat then none else some x

def classItem (f : Flags) (cs : List Char) : Option (Escaped × List Char) :=
  match cs with
  | [] => none
  | '\\' :: cs => readEscape f cs
  | x :: cs => some (.literal x, cs)

/-- A single item or a range. A dash before the closing bracket or before another dash makes no
range. -/
def classRange (f : Flags) (cs : List Char) : Option (Class × List Char) := do
  let (first, rest) ← classItem f cs
  let rest := f.skip rest
  let isRange := match rest with
    | '-' :: more => (f.skip more).head? != some ']' && (f.skip more).head? != some '-'
    | _ => false
  if isRange then
    let (last, rest) ← classItem f (f.skip (rest.drop 1))
    match first, last with
    | .literal a, .literal b =>
      let a ← classChar f a
      let b ← classChar f b
      if a ≤ b then some (.range a b, rest) else none
    | _, _ => none
  else
    match first with
    | .literal a => (classChar f a).map (fun a => (.single a, rest))
    | .cls c => some (c, rest)
    | .look _ => none

/-- Takes the dashes that stand for themselves at the start of a class. -/
def leadingDashes (f : Flags) : Nat → OpenClass → List Char → OpenClass × List Char
  | 0, o, cs => (o, cs)
  | n + 1, o, cs =>
    match cs with
    | '-' :: cs => leadingDashes f n (o.addClass (.single '-')) (f.skip cs)
    | cs => (o, cs)

/-- The start of a bracketed class: whether it is negated, and the dashes and the closing bracket
that stand for themselves there. -/
def openClass (f : Flags) (cs : List Char) : OpenClass × List Char :=
  let cs := f.skip cs
  let negated := cs.head? == some '^'
  let cs := if negated then f.skip (cs.drop 1) else cs
  match leadingDashes f cs.length (.start negated) cs with
  | (o, ']' :: cs) => if o.items == 0 then (o.addClass (.single ']'), f.skip cs) else (o, ']' :: cs)
  | r => r

/-- Reads a bracketed class up to its closing bracket, with the brackets around it on a stack. -/
def readClass (f : Flags) :
    Nat → List OpenClass → OpenClass → List Char → Option (Nested × List Char)
  | 0, _, _, _ => none
  | fuel + 1, outer, o, cs =>
    match f.skip cs with
    | [] => none
    | ']' :: cs => do
      let n ← o.finish f
      match outer with
      | [] => some (n, cs)
      | p :: outer => readClass f fuel outer (p.add n) cs
    | '[' :: cs =>
      match asciiClass? f cs with
      | some (c, cs) => c.bind (fun c => readClass f fuel outer (o.addClass c) cs)
      | none =>
        if depthLimit ≤ outer.length then none
        else
          let (p, cs) := openClass f cs
          readClass f fuel (o :: outer) p cs
    | '&' :: '&' :: cs => readClass f fuel outer (o.operate f .inter) cs
    | '-' :: '-' :: cs => readClass f fuel outer (o.operate f .diff) cs
    | '~' :: '~' :: cs => readClass f fuel outer (o.operate f .symmDiff) cs
    | cs => do
      let (c, cs) ← classRange f cs
      readClass f fuel outer (o.addClass c) cs

def bracketClass (f : Flags) (cs : List Char) : Option (Nested × List Char) :=
  let (o, rest) := openClass f cs
  readClass f (cs.length + 1) [] o rest

end IncludeScan.Regex
