import IncludeScan.Regex.Compile

/-!
Text patterns: regular expressions that find symbol names in source text.
-/

set_option autoImplicit false

namespace IncludeScan

structure TextPattern where
  text : String
  matcher : Regex.Matcher
  deriving DecidableEq, Repr, Inhabited

namespace TextPattern

/-- The pattern used when none is chosen: the names in `@selector(...)` literals. -/
def selector : String := "@selector\\(([^)]*)\\)"

def compile (text : String) : Except PatternError TextPattern :=
  (Regex.compile text).map (⟨text, ·⟩)

def compileAll (texts : List String) : List TextPattern :=
  texts.filterMap (fun text => (compile text).toOption)

/-- The text that a match names: its first group, or all of it when that group takes no part. -/
def nameOf (m : Regex.Match) : List Char :=
  Text.trim ((m.group? 1).getD m.text)

/-- The names in a text, trimmed, empty ones left out. -/
def names (p : TextPattern) (content : String) : List String :=
  (((p.matcher.allMatches content.toList).map nameOf).filter (!·.isEmpty)).map String.ofList

end TextPattern
end IncludeScan
