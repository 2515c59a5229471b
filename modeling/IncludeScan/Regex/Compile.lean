import IncludeScan.Error
import IncludeScan.Regex.Footprint
import IncludeScan.Regex.Matcher
import IncludeScan.Regex.Parse

/-!
From the text of a regular expression to its matcher.
-/

set_option autoImplicit false

namespace IncludeScan.Regex

/-- The matcher of a text, unless the text is malformed or stands for too large an expression. -/
def compile (text : String) : Except PatternError Matcher :=
  match parse text with
  | none => .error .malformed
  | some e => if Plan.isPlain e || e.fits then .ok (.ofExpr e) else .error .tooLarge

end IncludeScan.Regex
