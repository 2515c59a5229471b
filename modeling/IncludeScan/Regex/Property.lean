import IncludeScan.Regex.Class
import IncludeScan.Text.Age
import IncludeScan.Text.BinaryProperty
import IncludeScan.Text.Break
import IncludeScan.Text.Category
import IncludeScan.Text.Script

/-!
Classes by what Unicode says of characters.

A property is one that a character has or has not, such as being alphabetic, or one that has a
value: the general category, the script, the scripts that use a character, the version that brought
it, and its part in the breaks of a text.
-/

set_option autoImplicit false

namespace IncludeScan.Regex

namespace Class

def ofNamed? (tables : List Text.NamedRanges) (name : String) : Option Class :=
  (tables.find? (·.names.contains name)).map (ofRanges ·.ranges)

def unions (cs : List Class) : Class :=
  cs.foldl union none

/-- The class with the exceptions that are listed under a name. -/
def withExceptions (tables : List Text.Exceptions) (name : String) (c : Class) : Class :=
  match tables.find? (·.name == name) with
  | some e => diff (union c (ofRanges e.added)) (ofRanges e.removed)
  | Option.none => c

/-! ## Categories -/

/-- The characters that have a category. -/
def assigned : Class :=
  ofRanges (Text.categories.flatMap (·.ranges))

def unassigned : Class := assigned.complement

/-- The code points that no character has. -/
def surrogates : Class := ⟨[(0xD800, 0xDFFF)]⟩

def ofCategories (names : List String) : Class :=
  ofRanges ((Text.categories.filter (·.names.any names.contains)).flatMap (·.ranges))

/-- The class of a general category, or of several that have a name together. -/
def ofCategory? (name : String) : Option Class :=
  match name with
  | "any" => some any
  | "ascii" => ofAsciiName? "ascii"
  | "assigned" => some assigned
  | "cn" | "unassigned" => some unassigned
  | "c" | "other" =>
    some (unions [ofCategories ["cc", "cf", "co"], surrogates, unassigned])
  | name =>
    ((Text.categoryGroups.find? (·.1.contains name)).map (ofCategories ·.2)).or
      (ofNamed? Text.categories name)

/-! ## Scripts -/

def ofScript? : String → Option Class :=
  ofNamed? Text.scripts

def ofScripts (names : List String) : Class :=
  unions (names.filterMap ofScript?)

/-- The characters that a script uses. Those that are common to all scripts, or take the script of
what they follow, are the ones that no script lists. -/
def ofExtendedScript? (name : String) : Option Class := do
  let entry ← Text.scripts.find? (·.names.contains name)
  let own := ofRanges entry.ranges
  if entry.names.any ["zyyy", "zinh"].contains then
    some (diff own (ofRanges (Text.scriptExtensions.flatMap (·.ranges))))
  else
    some (union own ((entry.names.findSome? (ofNamed? Text.scriptExtensions)).getD none))

/-! ## Properties without values -/

def binary (name : String) : Class :=
  (ofNamed? Text.binaryProperties name).getD none

def lowercase : Class := union (ofCategories ["ll"]) (binary "otherlowercase")

def uppercase : Class := union (ofCategories ["lu"]) (binary "otheruppercase")

def titlecase : Class := ofCategories ["lt"]

def alphabetic : Class :=
  unions [lowercase, uppercase, ofCategories ["lt", "lm", "lo", "nl"], binary "otheralphabetic"]

/-- What the syntax of patterns needs is no part of identifiers. -/
def identifierStart : Class :=
  diff (union (ofCategories ["lu", "ll", "lt", "lm", "lo", "nl"]) (binary "otheridstart"))
    (union (binary "patternsyntax") (binary "patternwhitespace"))

def identifierPart : Class :=
  diff (unions [identifierStart, ofCategories ["mn", "mc", "nd", "pc"], binary "otheridcontinue"])
    (union (binary "patternsyntax") (binary "patternwhitespace"))

def graphemeExtend : Class := union (ofCategories ["me", "mn"]) (binary "othergraphemeextend")

def changesWhenLowercased : Class :=
  withExceptions Text.propertyExceptions "changeswhenlowercased" (union uppercase titlecase)

def changesWhenUppercased : Class :=
  withExceptions Text.propertyExceptions "changeswhenuppercased" lowercase

def changesWhenTitlecased : Class :=
  withExceptions Text.propertyExceptions "changeswhentitlecased" changesWhenUppercased

def ofBinary? (name : String) : Option Class :=
  match name with
  | "lowercase" | "lower" => some lowercase
  | "uppercase" | "upper" => some uppercase
  | "cased" => some (unions [lowercase, uppercase, titlecase])
  | "caseignorable" | "ci" =>
    some (unions (ofCategories ["mn", "me", "cf", "lm", "sk"] ::
      ["midletter", "midnumlet", "singlequote"].filterMap (ofNamed? Text.wordBreaks)))
  | "alphabetic" | "alpha" => some alphabetic
  | "math" => some (union (ofCategories ["sm"]) (binary "othermath"))
  | "idstart" | "ids" => some identifierStart
  | "idcontinue" | "idc" => some identifierPart
  | "xidstart" | "xids" => some (withExceptions Text.propertyExceptions "xidstart" identifierStart)
  | "xidcontinue" | "xidc" =>
    some (withExceptions Text.propertyExceptions "xidcontinue" identifierPart)
  | "graphemeextend" | "grext" => some graphemeExtend
  | "graphemebase" | "grbase" =>
    some (diff assigned (union (ofCategories ["cc", "cf", "co", "zl", "zp"]) graphemeExtend))
  | "changeswhenlowercased" | "cwl" => some changesWhenLowercased
  | "changeswhenuppercased" | "cwu" => some changesWhenUppercased
  | "changeswhentitlecased" | "cwt" => some changesWhenTitlecased
  | "changeswhencasefolded" | "cwcf" =>
    some (withExceptions Text.propertyExceptions "changeswhencasefolded" changesWhenLowercased)
  | "changeswhencasemapped" | "cwcm" =>
    some (unions [changesWhenLowercased, changesWhenUppercased, changesWhenTitlecased])
  | name => ofNamed? Text.binaryProperties name

/-! ## Versions -/

/-- The characters of all versions up to one. -/
def ofAge? (name : String) : Option Class := do
  let last ← Text.ages.findIdx? (·.names.contains name)
  some (ofRanges ((Text.ages.take (last + 1)).flatMap (·.ranges)))

/-! ## Breaks -/

/-- The syllables of Hangul that have no final consonant: every 28th. -/
def openSyllables : Class :=
  ofCodes ((List.range 399).map (fun i => 0xAC00 + 28 * i))

def ofGraphemeBreak? (name : String) : Option Class :=
  match name with
  | "extend" | "ex" => some (union graphemeExtend (binary "emojimodifier"))
  | "spacingmark" | "sm" =>
    some (withExceptions Text.breakExceptions "graphemespacingmark"
      (diff (ofCategories ["mc"]) graphemeExtend))
  | "lv" => some openSyllables
  | "lvt" => some (diff ⟨[(0xAC00, 0xD7A3)]⟩ openSyllables)
  | "regionalindicator" | "ri" => some (binary "regionalindicator")
  | name => ofNamed? Text.graphemeBreaks name

/-- The letters of words, without those of scripts that put no blanks between words. -/
def wordLetters : Class :=
  let apart := ofScripts
    ["kana", "hira", "thai", "laoo", "mymr", "khmr", "tale", "talu", "lana", "ahom", "tavt"]
  let hebrew := (ofNamed? Text.wordBreaks "hebrewletter").getD none
  withExceptions Text.breakExceptions "wordaletter" (diff alphabetic
    (unions [binary "ideographic", apart, hebrew, graphemeExtend, ofCategories ["mc"]]))

def ofWordBreak? (name : String) : Option Class :=
  match name with
  | "aletter" | "le" => some wordLetters
  | "extend" => some (unions [graphemeExtend, ofCategories ["mc"], binary "emojimodifier"])
  | "numeric" | "nu" =>
    some (withExceptions Text.breakExceptions "wordnumeric" (ofCategories ["nd"]))
  | "regionalindicator" | "ri" => some (binary "regionalindicator")
  | name => ofNamed? Text.wordBreaks name

def ofSentenceBreak? (name : String) : Option Class :=
  let marks := union graphemeExtend (ofCategories ["mc"])
  match name with
  | "extend" | "ex" => some (withExceptions Text.breakExceptions "sentenceextend" marks)
  | "lower" | "lo" =>
    some (withExceptions Text.breakExceptions "sentencelower" (diff lowercase graphemeExtend))
  | "upper" | "up" =>
    some (withExceptions Text.breakExceptions "sentenceupper" (union uppercase titlecase))
  | "oletter" | "le" =>
    some (withExceptions Text.breakExceptions "sentenceoletter"
      (diff alphabetic (unions [lowercase, uppercase, titlecase, marks])))
  | "numeric" | "nu" =>
    some (withExceptions Text.breakExceptions "sentencenumeric" (ofCategories ["nd"]))
  | "sterm" | "st" =>
    some (withExceptions Text.breakExceptions "sentencesterm" (binary "sentenceterminal"))
  | name => ofNamed? Text.sentenceBreaks name

end Class

/-! ## Names -/

/-- A name as it is compared: in lower case, and without blanks, dashes, underscores and anything
that is not ASCII. A leading `is` does not count, except in `isc`, which is no name for `c`. -/
def plainName (cs : List Char) : String :=
  let isLed := (cs.take 2).map Char.toLower == ['i', 's']
  let counts (x : Char) : Bool := x.toNat < 0x80 && x != ' ' && x != '_' && x != '-'
  let plain := ((cs.drop (if isLed then 2 else 0)).filter counts).map Char.toLower
  String.ofList (if isLed && plain == ['c'] then ['i', 's', 'c'] else plain)

/-- The class that a name alone stands for. -/
def namedClass? (cs : List Char) : Option Class :=
  let name := plainName cs
  ((Class.ofBinary? name).or (Class.ofCategory? name)).or (Class.ofScript? name)

/-- The class of the characters that have a value of a property. -/
def valueClass? (property value : List Char) : Option Class :=
  let value := plainName value
  match plainName property with
  | "generalcategory" | "gc" => Class.ofCategory? value
  | "script" | "sc" => Class.ofScript? value
  | "scriptextensions" | "scx" => Class.ofExtendedScript? value
  | "age" => Class.ofAge? value
  | "graphemeclusterbreak" | "gcb" => Class.ofGraphemeBreak? value
  | "wordbreak" | "wb" => Class.ofWordBreak? value
  | "sentencebreak" | "sb" => Class.ofSentenceBreak? value
  | _ => none

def splitFirst? (sep : List Char) : List Char → Option (List Char × List Char)
  | [] => none
  | x :: cs =>
    if sep.isPrefixOf (x :: cs) then some ([], (x :: cs).drop sep.length)
    else (splitFirst? sep cs).map (fun r => (x :: r.1, r.2))

/-- What stands between braces: a name, or a property and its value. With it goes whether the
property must not have that value. -/
def propertyClass? (cs : List Char) : Option (Bool × Class) :=
  match splitFirst? ['!', '='] cs with
  | some (property, value) => (valueClass? property value).map (fun c => (true, c))
  | none =>
    match (splitFirst? [':'] cs).or (splitFirst? ['='] cs) with
    | some (property, value) => (valueClass? property value).map (fun c => (false, c))
    | none => (namedClass? cs).map (fun c => (false, c))

end IncludeScan.Regex
