import IncludeScan.Text.Blank

/-!
The flags of a regular expression, and what they say about blanks in its text.
-/

set_option autoImplicit false

namespace IncludeScan.Regex

structure Flags where
  ignoreCase : Bool
  multiLine : Bool
  dotAll : Bool
  swapGreed : Bool
  returnEndsLine : Bool
  asciiOnly : Bool
  ignoreBlanks : Bool
  deriving DecidableEq, Repr, Inhabited

namespace Flags

def default : Flags := ⟨false, false, false, false, false, false, false⟩

def set? (f : Flags) (letter : Char) (value : Bool) : Option Flags :=
  match letter with
  | 'i' => some { f with ignoreCase := value }
  | 'm' => some { f with multiLine := value }
  | 's' => some { f with dotAll := value }
  | 'U' => some { f with swapGreed := value }
  | 'R' => some { f with returnEndsLine := value }
  | 'u' => some { f with asciiOnly := !value }
  | 'x' => some { f with ignoreBlanks := value }
  | _ => none

/-- Reads flag letters, a dash turning the later ones off. No letter comes twice, and a dash is
followed by one. -/
def read (f : Flags) (value : Bool) (seen : List Char) : List Char → Option (Flags × List Char)
  | [] => none
  | '-' :: cs =>
    if value && cs.head? != some ':' && cs.head? != some ')' then f.read false seen cs else none
  | ':' :: cs => some (f, ':' :: cs)
  | ')' :: cs => some (f, ')' :: cs)
  | x :: cs =>
    if seen.contains x then none
    else (f.set? x value).bind (fun f => f.read value (x :: seen) cs)

/-! ## Ignored text -/

/-- Drops blanks and comments, which reach from a `#` to the end of the line. -/
def dropIgnored (inComment : Bool) : List Char → List Char
  | [] => []
  | x :: cs =>
    if inComment then dropIgnored (x != '\n') cs
    else if x == '#' then dropIgnored true cs
    else if Text.isBlank x then dropIgnored false cs
    else x :: cs

def skip (f : Flags) (cs : List Char) : List Char :=
  if f.ignoreBlanks then dropIgnored false cs else cs

/-- Collects characters as long as `p` holds, dropping blanks and comments between them. -/
def takeSpaced (p : Char → Bool) (inComment : Bool) : List Char → List Char × List Char
  | [] => ([], [])
  | x :: cs =>
    if inComment then takeSpaced p (x != '\n') cs
    else if x == '#' then takeSpaced p true cs
    else if Text.isBlank x then takeSpaced p false cs
    else if p x then
      let (taken, rest) := takeSpaced p false cs
      (x :: taken, rest)
    else ([], x :: cs)

def takeWhile (f : Flags) (p : Char → Bool) (cs : List Char) : List Char × List Char :=
  if f.ignoreBlanks then takeSpaced p false cs else (cs.takeWhile p, cs.dropWhile p)

end Flags
end IncludeScan.Regex
