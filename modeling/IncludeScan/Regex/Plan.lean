import IncludeScan.Regex.Needle
import IncludeScan.Regex.Program

/-!
Plans: how the matches of an expression are searched for.

A match may be searched for from left to right. If all matches end with the same bytes, or have one
of a few needles inside, then these may be searched for first, and the start of a match backwards
from there. The backward program of an expression reads the texts of its matches from their end.
-/

set_option autoImplicit false

namespace IncludeScan.Regex

namespace Expr

/-! ## Expressions read backwards -/

/-- The expression whose matches are the reversed ones, without groups. -/
def reversed : Expr → Expr
  | empty => empty
  | literal text => literal text.reverse
  | oneOf c => oneOf c
  | look a => look a
  | cat a b => cat b.reversed a.reversed
  | alt a b => alt a.reversed b.reversed
  | group _ e => e.reversed
  | iter least most greedy e => iter least most greedy e.reversed

def testsWords : Expr → Bool
  | look (.word _ asciiOnly) => !asciiOnly
  | empty | literal _ | oneOf _ | look _ => false
  | cat a b | alt a b => a.testsWords || b.testsWords
  | group _ e | iter _ _ _ e => e.testsWords

def hasGroups : Expr → Bool
  | empty | literal _ | oneOf _ | look _ => false
  | cat a b | alt a b => a.hasGroups || b.hasGroups
  | group _ _ => true
  | iter _ _ _ e => e.hasGroups

def hasLooks : Expr → Bool
  | look _ => true
  | empty | literal _ | oneOf _ => false
  | cat a b | alt a b => a.hasLooks || b.hasLooks
  | group _ e | iter _ _ _ e => e.hasLooks

/-! ## Parts -/

def ofBranches : List Expr → Expr
  | [e] => e
  | es => alternation es

def ungroupedBranches : Expr → List Expr
  | alt a b => ofBranches a.ungroupedBranches :: b.ungroupedBranches
  | cat a b => [concat [ofBranches a.ungroupedBranches, ofBranches b.ungroupedBranches]]
  | group _ e => [ofBranches e.ungroupedBranches]
  | iter least most greedy e => [repetition least most greedy (ofBranches e.ungroupedBranches)]
  | e => [e]

def ungrouped (e : Expr) : Expr :=
  ofBranches e.ungroupedBranches

/-- The several parts that an expression consists of, groups disregarded. -/
def innerParts : Expr → List Expr
  | group _ e => e.innerParts
  | cat a b =>
    match (cat a b).ungrouped with
    | cat a b => (cat a b).parts
    | _ => []
  | _ => []

def frontNeedles (e : Expr) : List Fragment :=
  ((e.fragments .front).asParts.needles .front).getD []

end Expr

/-! ## Plans -/

/-- How to search: from left to right, for the bytes that matches end with, or for needles inside
them. The last two have a program that reads backwards from there. -/
inductive Plan where
  | direct
  | byEnd (bytes : List Nat) (back : Program)
  | byInside (needles : List (List Nat)) (back : Program) (backWords : Bool)
  deriving DecidableEq, Repr, Inhabited

namespace Plan

def byEnd? (e : Expr) : Option Plan := do
  let fs ← (e.fragments .back).needles .back
  match Fragment.shared? .back fs with
  | some (b :: bytes) => return .byEnd (b :: bytes) e.reversed.program
  | _ => none

/-- The plan by the first sharp needles that some part but the first starts with. If all from this
part on has sharp needles, then these are better. -/
def byInside? (front : List Expr) : List Expr → Option Plan
  | [] => none
  | e :: es =>
    if !front.isEmpty && isSharp e.frontNeedles then
      let longer := (Expr.concat (e :: es)).frontNeedles
      let needles := if isSharp longer then longer else e.frontNeedles
      let before := Expr.concat front
      some (.byInside (needles.map (·.bytes)) before.reversed.program before.testsWords)
    else byInside? (front ++ [e]) es

/-- Whether the texts of an expression can be searched for as they are. -/
def isPlain (e : Expr) : Bool :=
  !e.startsText && !e.hasGroups && !e.hasLooks
    && match (e.fragments .front).needles .front with
      | some fs => Fragment.areExact fs && areNeedles fs
      | none => false

def ofExpr (e : Expr) : Plan :=
  if e.startsText || e.endsText || isPlain e
      || isSharp (((e.fragments .front).needles .front).getD []) then .direct
  else ((byEnd? e).or (byInside? [] e.innerParts)).getD .direct

end Plan
end IncludeScan.Regex
