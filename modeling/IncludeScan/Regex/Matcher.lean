import IncludeScan.Regex.Match
import IncludeScan.Regex.Plan

/-!
Matchers: programs with the plan by which their matches are searched for.

A plan other than the direct one looks for bytes first, and from there backwards for the start of a
match. As soon as this is uncertain, or could take too long, the search is done from left to right
after all.

* `Matcher.find?`, `Matcher.isMatch`: the first match from a place on, and whether there is one.
* `Matcher.allMatches`: all matches from left to right, none overlapping. An empty match right at
  the end of the match before it does not count.
-/

set_option autoImplicit false

namespace IncludeScan.Regex

def isWide (x : Char) : Bool :=
  0x80 ≤ x.toNat

/-! ## From one place on -/

/-- The ways from one place on: the match they come to, where the last of them ends, and whether
they were left at a character that may or may not be part of a word. -/
structure Trace where
  best : Option Match
  stop : Nat
  blind : Bool
  deriving DecidableEq, Repr, Inhabited

namespace Program

/-- Traces the ways found so far, with the match found so far. With `words`, the ways are left at
the first wide character. -/
def trace (p : Program) (words : Bool) (best : Option Match) (fr : Front) (pos : Nat)
    (before : Option Char) (rest : List Char) : Trace :=
  let ways := fr.ways.reverse
  let ended := ways.find? p.accepts
  let best := (ended.map (fun w => ⟨w, ⟨pos, before, rest⟩⟩)).or best
  match rest with
  | [] => ⟨best, pos, false⟩
  | x :: xs =>
    if words && isWide x then ⟨best, pos, true⟩
    else
      let fr := p.advance x ⟨pos + 1, some x, xs⟩ (ways.takeWhile (fun w => !p.accepts w))
      if fr.seen.isEmpty && (ended.isNone || isWide x) then ⟨best, pos, false⟩
      else p.trace words best fr (pos + 1) (some x) xs

def traceAt (p : Program) (words : Bool) (c : Cursor) : Trace :=
  if words && (c.before.map isWide).getD false then ⟨none, c.pos, true⟩
  else p.trace words none (p.follow c [⟨c, p.start, []⟩] .empty) c.pos c.before c.rest

end Program

/-! ## Backwards -/

/-- What a backward search finds: the start of a match, that there is none, or neither. -/
inductive Verdict where
  | start (c : Cursor)
  | absent
  | unsure
  deriving DecidableEq, Repr, Inhabited

namespace Verdict

def ofBest : Option Cursor → Verdict
  | some c => start c
  | none => absent

end Verdict

namespace Program

/-- Reads the characters passed so far, the last one first, and gives the place farthest back where
a way ends. `floor` is the character before them. If ways are left at their start or at `limit`
there might be a place farther back. -/
def back (p : Program) (words : Bool) (limit : Nat) (floor : Option Char) (best : Option Cursor)
    (fr : Front) (passed : List Char) (pos : Nat) (rest : List Char) : Verdict :=
  let here : Cursor := ⟨pos, passed.head?.or floor, rest⟩
  let ended := fr.ways.any p.accepts
  let best := if ended then some here else best
  match passed with
  | [] =>
    if words && (floor.map isWide).getD false then .unsure
    else if ended || best.isNone then .ofBest best
    else .unsure
  | x :: passed =>
    if words && isWide x then .unsure
    else
      let fr := p.advance x ⟨pos - 1, passed.head?.or floor, x :: rest⟩ fr.ways
      if fr.seen.isEmpty && (!ended || isWide x) then .ofBest best
      else if !passed.isEmpty && pos - 1 ≤ limit then .unsure
      else p.back words limit floor best fr passed (pos - 1) (x :: rest)

def backAt (p : Program) (words : Bool) (limit : Nat) (floor : Option Char) (passed : List Char)
    (pos : Nat) (rest : List Char) : Verdict :=
  if words && (rest.head?.map isWide).getD false then .unsure
  else
    let here : Cursor := ⟨pos, passed.head?.or floor, rest⟩
    p.back words limit floor none (p.follow here [⟨here, p.start, []⟩] .empty) passed pos rest

end Program

/-! ## Matchers -/

/-- A program, whether it notes groups and asks for words, and its plan. -/
structure Matcher where
  program : Program
  groups : Bool
  words : Bool
  plan : Plan
  deriving DecidableEq, Repr, Inhabited

/-- Whether the characters passed so far, the last one first, end with the bytes. -/
def endsWith (bytes : List Nat) (passed : List Char) : Bool :=
  bytes.reverse.isPrefixOf
    ((passed.take bytes.length).flatMap (fun x => (ByteRange.encode x.toNat).reverse))

def needleAt? (needles : List (List Nat)) (rest : List Char) : Option (List Nat) :=
  needles.find? (fun n => n.isPrefixOf (textBytes (rest.take n.length)))

/-- How many characters some bytes hold, the last one maybe in part. -/
def charCount (bytes : List Nat) : Nat :=
  bytes.countP (fun b => b < 0x80 || 0xC0 ≤ b)

namespace Matcher

def ofExpr (e : Expr) : Matcher :=
  ⟨e.program, e.hasGroups, e.testsWords, .ofExpr e⟩

/-- Searches for places where the bytes end, and the start of a match backwards from there. -/
def startByEnd (m : Matcher) (bytes : List Nat) (back : Program) (floor : Option Char)
    (limit : Nat) (passed : List Char) (pos : Nat) (rest : List Char) : Verdict :=
  let hit := endsWith bytes passed
  let verdict := if hit then back.backAt m.words limit floor passed pos rest else .absent
  match verdict, rest with
  | .absent, x :: xs =>
    m.startByEnd bytes back floor (if hit then pos else limit) (x :: passed) (pos + 1) xs
  | verdict, _ => verdict

/-- What a search by needles finds: a match or none, unless it is given up. -/
abbrev Search := Option (Option Match)

/-- Searches for needles, backwards from each for a start, and from there for a match. A needle
before `reached`, where the last such match was given up, is too much. -/
def matchByInside (m : Matcher) (needles : List (List Nat)) (back : Program) (backWords : Bool)
    (floor : Option Char) (limit reached : Nat) (passed : List Char) (pos : Nat)
    (rest : List Char) : Search :=
  let go (limit reached : Nat) : Search :=
    match rest with
    | [] => some none
    | x :: xs =>
      m.matchByInside needles back backWords floor limit reached (x :: passed) (pos + 1) xs
  match needleAt? needles rest with
  | none => go limit reached
  | some bytes =>
    if pos < reached then none
    else
      match back.backAt backWords limit floor passed pos rest with
      | .unsure => none
      | .absent => go (pos + charCount bytes) reached
      | .start c =>
        let t := m.program.traceAt m.words c
        if t.blind then none
        else if t.best.isSome then some t.best
        else go (pos + charCount bytes) t.stop

def find? (m : Matcher) (c : Cursor) : Option Match :=
  match m.plan with
  | .direct => m.program.find? c
  | .byEnd bytes back =>
    match m.startByEnd bytes back c.before 0 [] c.pos c.rest with
    | .absent => none
    | .unsure => m.program.find? c
    | .start c' =>
      let t := m.program.traceAt (m.words && !m.groups) c'
      if t.blind then m.program.find? c else t.best
  | .byInside needles back backWords =>
    (m.matchByInside needles back backWords c.before 0 0 [] c.pos c.rest).getD
      (m.program.find? c)

def isMatch (m : Matcher) (text : String) : Bool :=
  m.program.isMatch text

/-- The matches from a place on. `afterMatch` says that a match ended here. -/
def matchesFrom (m : Matcher) (pos : Nat) (before : Option Char) (cs : List Char)
    (afterMatch : Bool) : List Match :=
  match m.find? ⟨pos, before, cs⟩ with
  | none => []
  | some r =>
    if r.stop.rest.length < cs.length then
      r :: m.matchesFrom r.stop.pos r.stop.before r.stop.rest true
    else
      (if afterMatch then [] else [r]) ++
        match cs with
        | [] => []
        | x :: xs => m.matchesFrom (pos + 1) (some x) xs false
termination_by cs.length
decreasing_by all_goals first | assumption | simp

def allMatches (m : Matcher) (text : List Char) : List Match :=
  m.matchesFrom 0 none text false

end Matcher
end IncludeScan.Regex
