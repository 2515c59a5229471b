import IncludeScan.Regex.Program
import Std.Data.HashSet

/-!
Matching. All ways through a program are followed at once, one character at a time, the preferred
way first. At each place a way that comes to an instruction where an earlier one has been is given
up, so there are never more ways than instructions. As long as no match has been found, a new way
starts at each place, behind all others.

* `Program.follow`: the ways on from a place before the next character is taken.
* `Program.find?`, `Program.isMatch`: the first match from a place on, and whether there is one.
-/

set_option autoImplicit false

namespace IncludeScan.Regex

/-! ## Places -/

/-- A place in a text: how many characters come before it, the last of them, and what follows. -/
structure Cursor where
  pos : Nat
  before : Option Char
  rest : List Char
  deriving DecidableEq, Repr, Inhabited

def Cursor.textTo (start stop : Cursor) : List Char :=
  start.rest.take (stop.pos - start.pos)

/-! ## Assertions -/

def wordSide (asciiOnly : Bool) (c : Option Char) : Bool :=
  (c.map (fun x => Text.isWord x && (!asciiOnly || x.toNat < 0x80))).getD false

namespace WordTest

def holds (behind ahead : Bool) : WordTest → Bool
  | boundary => behind != ahead
  | noBoundary => behind == ahead
  | start => !behind && ahead
  | stop => behind && !ahead
  | startHalf => !behind
  | stopHalf => !ahead

end WordTest

namespace Assertion

def holds (a : Assertion) (c : Cursor) : Bool :=
  match a with
  | textStart => c.before.isNone
  | textEnd => c.rest.isEmpty
  | lineStart => c.before.isNone || c.before == some '\n'
  | lineEnd => c.rest.isEmpty || c.rest.head? == some '\n'
  | returnLineStart =>
    c.before.isNone || c.before == some '\n'
      || (c.before == some '\r' && c.rest.head? != some '\n')
  | returnLineEnd =>
    c.rest.isEmpty || c.rest.head? == some '\r'
      || (c.rest.head? == some '\n' && c.before != some '\r')
  | word test asciiOnly =>
    test.holds (wordSide asciiOnly c.before) (wordSide asciiOnly c.rest.head?)

end Assertion

/-! ## Ways -/

/-- A way through a program: where it starts, the next instruction, and the places noted on it, the
latest first. -/
structure Way where
  start : Cursor
  next : Nat
  notes : List (Mark × Cursor)
  deriving DecidableEq, Repr, Inhabited

namespace Way

def goto (w : Way) (next : Nat) : Way :=
  { w with next }

def note (w : Way) (m : Mark) (c : Cursor) (next : Nat) : Way :=
  ⟨w.start, next, (m, c) :: w.notes⟩

end Way

/-- The ways found at a place, the latest first, and the instructions met there. -/
structure Front where
  ways : List Way
  seen : Std.HashSet Nat

namespace Front

def empty : Front := ⟨[], ∅⟩

def meet (fr : Front) (i : Nat) : Front :=
  { fr with seen := fr.seen.insert i }

def add (fr : Front) (w : Way) : Front :=
  { fr with ways := w :: fr.ways }

/-- How many of the first `n` instructions have not been met. -/
def missing (fr : Front) (n : Nat) : Nat :=
  (List.range n).countP (fun i => !fr.seen.contains i)

@[simp] theorem missing_add (fr : Front) (w : Way) (n : Nat) :
    (fr.add w).missing n = fr.missing n := rfl

theorem countP_meet_lt {fr : Front} {i : Nat} (hs : fr.seen.contains i = false) {l : List Nat}
    (hi : i ∈ l) :
    l.countP (fun j => !(fr.meet i).seen.contains j) < l.countP (fun j => !fr.seen.contains j) := by
  have contains_meet (j : Nat) :
      (fr.meet i).seen.contains j = (i == j || fr.seen.contains j) := Std.HashSet.contains_insert
  induction l with
  | nil => simp at hi
  | cons a l ih =>
    have hle : l.countP (fun j => !(fr.meet i).seen.contains j)
        ≤ l.countP (fun j => !fr.seen.contains j) :=
      List.countP_mono_left (fun j _ => by rw [contains_meet]; simp)
    rw [List.countP_cons, List.countP_cons]
    rcases List.mem_cons.1 hi with rfl | ha
    · rw [contains_meet, hs]
      simp only [beq_self_eq_true, Bool.true_or, Bool.not_true, Bool.not_false, if_true]
      simp only [Bool.false_eq_true, if_false]
      omega
    · have hlt := ih ha
      have hhead : (if (!(fr.meet i).seen.contains a) = true then 1 else 0)
          ≤ (if (!fr.seen.contains a) = true then 1 else 0) := by
        rw [contains_meet]
        cases fr.seen.contains a <;> cases i == a <;> decide
      omega

theorem missing_meet_lt {fr : Front} {i n : Nat} (hi : i < n)
    (hs : fr.seen.contains i = false) : (fr.meet i).missing n < fr.missing n :=
  countP_meet_lt hs (List.mem_range.2 hi)

end Front

namespace Program

/-- Follows ways from a place as far as they go without taking a character. -/
def follow (p : Program) (c : Cursor) : List Way → Front → Front
  | [], fr => fr
  | w :: ws, fr =>
    if hs : fr.seen.contains w.next = true then p.follow c ws fr
    else if hp : w.next < p.code.size then
      match p.code[w.next] with
      | .accept | .take _ _ => p.follow c ws ((fr.meet w.next).add w)
      | .check a next =>
        if a.holds c then p.follow c (w.goto next :: ws) (fr.meet w.next)
        else p.follow c ws (fr.meet w.next)
      | .note m next => p.follow c (w.note m c next :: ws) (fr.meet w.next)
      | .fork first second =>
        p.follow c (w.goto first :: w.goto second :: ws) (fr.meet w.next)
    else p.follow c ws fr
termination_by ws fr => 2 * fr.missing p.code.size + ws.length
decreasing_by
  all_goals
    first
    | simp; done
    | have := Front.missing_meet_lt hp (Bool.eq_false_iff.2 hs)
      simp only [Front.missing_add, List.length_cons]
      omega

def accepts (p : Program) (w : Way) : Bool :=
  p.code[w.next]? == some .accept

/-- The ways at the place `c` once the character before it has been taken. -/
def advance (p : Program) (x : Char) (c : Cursor) (ws : List Way) : Front :=
  ws.foldl (fun (fr : Front) (w : Way) =>
    match p.code[w.next]? with
    | some (.take cls next) => if cls.contains x then p.follow c [w.goto next] fr else fr
    | _ => fr) .empty

end Program

/-! ## Matches -/

structure Match where
  way : Way
  stop : Cursor
  deriving DecidableEq, Repr, Inhabited

namespace Match

def text (m : Match) : List Char :=
  m.way.start.textTo m.stop

def group? (m : Match) (index : Nat) : Option (List Char) := do
  let start ← m.way.notes.lookup (.opens index)
  let stop ← m.way.notes.lookup (.closes index)
  return start.textTo stop

end Match

namespace Program

/-- The first match that one of the ways found so far ends with, or a way from here on. The ways
behind one that has come to its end are given up. -/
def run (p : Program) (best : Option Match) (fr : Front) (pos : Nat) (before : Option Char)
    (rest : List Char) : Option Match :=
  let here : Cursor := ⟨pos, before, rest⟩
  let fr := if best.isSome then fr else p.follow here [⟨here, p.start, []⟩] fr
  let ways := fr.ways.reverse
  let best := ((ways.find? p.accepts).map (fun w => ⟨w, here⟩)).or best
  match rest with
  | [] => best
  | x :: xs =>
    let live := ways.takeWhile (fun w => !p.accepts w)
    if best.isSome && live.isEmpty then best
    else p.run best (p.advance x ⟨pos + 1, some x, xs⟩ live) (pos + 1) (some x) xs

def find? (p : Program) (c : Cursor) : Option Match :=
  p.run none .empty c.pos c.before c.rest

def isMatch (p : Program) (text : String) : Bool :=
  (p.find? ⟨0, none, text.toList⟩).isSome

end Program
end IncludeScan.Regex
