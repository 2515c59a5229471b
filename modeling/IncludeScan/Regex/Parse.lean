import IncludeScan.Regex.Bracket
import IncludeScan.Text.Alphabetic

/-!
Reading a regular expression from its text.

`readPieces` walks the text once. It keeps the items of the branch being read, the branches before
it, and the flags, which a flag group changes for the rest of the enclosing group; the groups
around it wait on a stack.
-/

set_option autoImplicit false

namespace IncludeScan.Regex

/-! ## Pieces -/

/-- A piece of a branch, how deep it is nested, and whether it can be repeated. -/
structure Item where
  expr : Expr
  depth : Nat
  repeatable : Bool
  deriving DecidableEq, Repr, Inhabited

def Item.plain (e : Expr) : Item := ⟨e, 0, true⟩

def joinItems (items : List Item) : Item :=
  match items with
  | [] => .plain .empty
  | [item] => item
  | items =>
    ⟨.concat (items.reverse.map (·.expr)), items.foldl (fun d i => max d i.depth) 0 + 1, true⟩

def joinBranches (branches : List Item) : Item :=
  match branches with
  | [branch] => branch
  | branches =>
    ⟨.alternation (branches.reverse.map (·.expr)),
      branches.foldl (fun d i => max d i.depth) 0 + 1, true⟩

/-- A character that stands for itself, or for its case variants too when case is ignored. -/
def literal (f : Flags) (x : Char) : Expr :=
  if !f.ignoreCase then .literal [x]
  else if f.asciiOnly then .ofClass (Class.foldAscii (.single x))
  else
    match Text.caseVariants x.toNat with
    | [] => .literal [x]
    | codes => .ofClass (.ofCodes (x.toNat :: codes))

def escaped (f : Flags) : Escaped → Expr
  | .literal x => literal f x
  | .cls c => .ofClass c
  | .look a => .look a

/-- Any character, with or without the ends of lines. Where only ASCII is, there is no such
class. -/
def dot (f : Flags) : Option Expr :=
  if f.asciiOnly then none
  else if f.dotAll then some (.oneOf .any)
  else if f.returnEndsLine then some (.oneOf (Class.complement (.ofCodes [0x0A, 0x0D])))
  else some (.oneOf (Class.complement (.single '\n')))

def startAnchor (f : Flags) : Expr :=
  .look (if !f.multiLine then .textStart
    else if f.returnEndsLine then .returnLineStart else .lineStart)

def endAnchor (f : Flags) : Expr :=
  .look (if !f.multiLine then .textEnd
    else if f.returnEndsLine then .returnLineEnd else .lineEnd)

/-! ## Repetition -/

def repeatLast (least : Nat) (most : Option Nat) (greedy : Bool) :
    List Item → Option (List Item)
  | [] => none
  | item :: items =>
    if item.repeatable && item.depth < depthLimit then
      some (⟨.repetition least most greedy item.expr, item.depth + 1, true⟩ :: items)
    else none

/-- Whether a repetition is greedy, by the question mark that may follow it. -/
def greed (f : Flags) (cs : List Char) : Bool × List Char :=
  match cs with
  | '?' :: cs => (f.swapGreed, cs)
  | cs => (!f.swapGreed, cs)

def readCount (f : Flags) (cs : List Char) : Option (Nat × List Char) :=
  let (digits, rest) := f.takeWhile Char.isDigit (cs.dropWhile Text.isBlank)
  let n := digits.foldl (fun n x => 10 * n + (x.toNat - 48)) 0
  if digits.isEmpty || 0x100000000 ≤ n then none else some (n, rest.dropWhile Text.isBlank)

def readBounds (f : Flags) (cs : List Char) : Option (Nat × Option Nat × List Char) := do
  let (least, cs) ← readCount f (f.skip cs)
  match cs with
  | '\x7d' :: cs => some (least, some least, cs)
  | ',' :: cs =>
    match f.skip cs with
    | '\x7d' :: cs => some (least, none, cs)
    | cs =>
      let (most, cs) ← readCount f cs
      match cs with
      | '\x7d' :: cs => if least ≤ most then some (least, some most, cs) else none
      | _ => none
  | _ => none

/-! ## Groups -/

structure Groups where
  count : Nat
  names : List String
  deriving DecidableEq, Repr, Inhabited

inductive Opening where
  | capture (groups : Groups)
  | plain (flags : Flags)
  | setFlags (flags : Flags)
  deriving DecidableEq, Repr

def isGroupName (name : List Char) : Bool :=
  match name with
  | [] => false
  | x :: xs =>
    (x == '_' || Text.isAlphabetic x) &&
      xs.all (fun x => x == '_' || x == '.' || x == '[' || x == ']' || Text.isAlphanumeric x)

def readName (g : Groups) (cs : List Char) : Option (Opening × List Char) :=
  let name := cs.takeWhile (· != '>')
  match cs.dropWhile (· != '>') with
  | _ :: rest =>
    if isGroupName name && !g.names.contains (String.ofList name) then
      some (.capture ⟨g.count + 1, String.ofList name :: g.names⟩, rest)
    else none
  | [] => none

/-- What follows an opening bracket. Look-around is refused. -/
def readOpening (f : Flags) (g : Groups) (cs : List Char) : Option (Opening × List Char) :=
  match f.skip cs with
  | '?' :: '=' :: _ => none
  | '?' :: '!' :: _ => none
  | '?' :: '<' :: '=' :: _ => none
  | '?' :: '<' :: '!' :: _ => none
  | '?' :: 'P' :: '<' :: cs => readName g cs
  | '?' :: '<' :: cs => readName g cs
  | '?' :: ')' :: _ => none
  | '?' :: cs => do
    let (inner, rest) ← f.read true [] cs
    match rest with
    | ':' :: rest => some (.plain inner, rest)
    | _ :: rest => some (.setFlags inner, rest)
    | [] => none
  | cs => some (.capture ⟨g.count + 1, g.names⟩, cs)

/-! ## The whole expression -/

/-- A group being read: its number if it has one, and what the text before it left. -/
structure OpenGroup where
  index : Option Nat
  flags : Flags
  branches : List Item
  items : List Item
  deriving Repr

def OpenGroup.close (o : OpenGroup) (inner : Item) : Item :=
  match o.index with
  | some index => ⟨.group index inner.expr, inner.depth + 1, true⟩
  | none => ⟨inner.expr, inner.depth + 1, true⟩

def readPieces : Nat → List OpenGroup → Flags → Groups → List Item → List Item → List Char →
    Option Item
  | 0, _, _, _, _, _, _ => none
  | fuel + 1, outer, f, g, branches, items, cs =>
    let done (_ : Unit) := joinBranches (joinItems items :: branches)
    let enter (index : Option Nat) (f' : Flags) (g' : Groups) (cs : List Char) :=
      if depthLimit ≤ outer.length then none
      else readPieces fuel (⟨index, f, branches, items⟩ :: outer) f' g' [] [] cs
    let push (e : Expr) (cs : List Char) :=
      readPieces fuel outer f g branches (.plain e :: items) cs
    let again (least : Nat) (most : Option Nat) (cs : List Char) := do
      let (greedy, cs) := greed f cs
      let items ← repeatLast least most greedy items
      readPieces fuel outer f g branches items cs
    match f.skip cs with
    | [] => if outer.isEmpty then some (done ()) else none
    | ')' :: cs =>
      match outer with
      | [] => none
      | o :: outer => readPieces fuel outer o.flags g o.branches (o.close (done ()) :: o.items) cs
    | '|' :: cs => readPieces fuel outer f g (joinItems items :: branches) [] cs
    | '(' :: cs => do
      let (opening, cs) ← readOpening f g cs
      match opening with
      | .setFlags f => readPieces fuel outer f g branches (⟨.empty, 0, false⟩ :: items) cs
      | .capture g' => enter (some g'.count) f g' cs
      | .plain f' => enter none f' g cs
    | '*' :: cs => again 0 none cs
    | '+' :: cs => again 1 none cs
    | '?' :: cs => again 0 (some 1) cs
    | '\x7b' :: cs => do
      let (least, most, cs) ← readBounds f cs
      again least most (f.skip cs)
    | '[' :: cs => do
      let (n, cs) ← bracketClass f cs
      readPieces fuel outer f g branches (⟨.ofClass n.cls, n.depth, true⟩ :: items) cs
    | '.' :: cs => do push (← dot f) cs
    | '^' :: cs => push (startAnchor f) cs
    | '$' :: cs => push (endAnchor f) cs
    | '\\' :: cs => do
      let (e, cs) ← readEscape f cs
      push (escaped f e) cs
    | x :: cs => push (literal f x) cs

/-- The expression that a text stands for, unless it is malformed or nested too deeply. -/
def parse (text : String) : Option Expr := do
  let cs := text.toList
  let item ← readPieces (cs.length + 1) [] .default ⟨0, []⟩ [] [] cs
  if depthLimit < item.depth then none else some item.expr

end IncludeScan.Regex
