import CallMarkup.Regex.CharSet

/-!
# Sets of characters by name

The names of ASCII sets in bracket expressions, and the names of Unicode
general categories and of some properties.  Scripts, ages and break classes have
no names here.
-/

namespace CallMarkup.CharSet

/-- ASCII letters and digits. -/
private def asciiAlphanumeric : CharSet :=
  ofRanges [⟨0x30, 0x39⟩, ⟨0x41, 0x5A⟩, ⟨0x61, 0x7A⟩]

/-- The ASCII sets of bracket expressions, by name. -/
def ofAsciiName? : String → Option CharSet
  | "alnum" => some asciiAlphanumeric
  | "alpha" => some ((range 'A' 'Z').union (range 'a' 'z'))
  | "ascii" => some (range '\x00' '\x7f')
  | "blank" => some (ofChars ['\t', ' '])
  | "cntrl" => some ((range '\x00' '\x1f').union (single '\x7f'))
  | "digit" => some (range '0' '9')
  | "graph" => some (range '!' '~')
  | "lower" => some (range 'a' 'z')
  | "print" => some (range ' ' '~')
  | "punct" => some ((range '!' '~').diff asciiAlphanumeric)
  | "space" => some ((range '\t' '\r').union (single ' '))
  | "upper" => some (range 'A' 'Z')
  | "word" => some (asciiAlphanumeric.union (single '_'))
  | "xdigit" => some (ofRanges [⟨0x30, 0x39⟩, ⟨0x41, 0x46⟩, ⟨0x61, 0x66⟩])
  | _ => none

open Unicode Unicode.Table

/-- Characters that have been assigned. -/
private def assigned : CharSet :=
  ofEstablished (visibleRuns ++ separatorRuns ++ control ++ format ++ privateUse)

/-- The characters of a general category, by its short or long name. -/
private def ofCategoryName? : String → Option CharSet
  | "l" | "letter" => some (ofEstablished letterRuns)
  | "lc" | "casedletter" =>
    some (ofEstablished (uppercaseLetter ++ lowercaseLetter ++ titlecaseLetter))
  | "lu" | "uppercaseletter" => some (ofEstablished uppercaseLetter)
  | "ll" | "lowercaseletter" => some (ofEstablished lowercaseLetter)
  | "lt" | "titlecaseletter" => some (ofEstablished titlecaseLetter)
  | "lm" | "modifierletter" => some (ofEstablished modifierLetter)
  | "lo" | "otherletter" => some (ofEstablished otherLetter)
  | "m" | "mark" | "combiningmark" => some (ofEstablished markRuns)
  | "mn" | "nonspacingmark" => some (ofEstablished nonspacingMark)
  | "mc" | "spacingmark" => some (ofEstablished spacingMark)
  | "me" | "enclosingmark" => some (ofEstablished enclosingMark)
  | "n" | "number" => some (ofEstablished numberRuns)
  | "nd" | "decimalnumber" | "digit" => some decimalDigit
  | "nl" | "letternumber" => some (ofEstablished letterNumber)
  | "no" | "othernumber" => some (ofEstablished otherNumber)
  | "p" | "punctuation" | "punct" => some (ofEstablished punctuationRuns)
  | "pc" | "connectorpunctuation" => some (ofEstablished connectorPunctuation)
  | "pd" | "dashpunctuation" => some (ofEstablished dashPunctuation)
  | "ps" | "openpunctuation" => some (ofEstablished openPunctuation)
  | "pe" | "closepunctuation" => some (ofEstablished closePunctuation)
  | "pi" | "initialpunctuation" => some (ofEstablished initialPunctuation)
  | "pf" | "finalpunctuation" => some (ofEstablished finalPunctuation)
  | "po" | "otherpunctuation" => some (ofEstablished otherPunctuation)
  | "s" | "symbol" => some (ofEstablished symbolRuns)
  | "sm" | "mathsymbol" => some (ofEstablished mathSymbol)
  | "sc" | "currencysymbol" => some (ofEstablished currencySymbol)
  | "sk" | "modifiersymbol" => some (ofEstablished modifierSymbol)
  | "so" | "othersymbol" => some (ofEstablished otherSymbol)
  | "z" | "separator" => some (ofEstablished separatorRuns)
  | "zs" | "spaceseparator" => some (ofEstablished spaceSeparator)
  | "zl" | "lineseparator" => some (ofEstablished lineSeparator)
  | "zp" | "paragraphseparator" => some (ofEstablished paragraphSeparator)
  | "c" | "other" =>
    some (assigned.complement.union (ofEstablished (control ++ format ++ privateUse)))
  | "cc" | "control" | "cntrl" => some (ofEstablished control)
  | "cf" | "format" => some (ofEstablished format)
  | "cs" | "surrogate" => some empty
  | "co" | "privateuse" => some (ofEstablished privateUse)
  | "cn" | "unassigned" => some assigned.complement
  | "any" => some all
  | "assigned" => some assigned
  | "ascii" => some (range '\x00' '\x7f')
  | _ => none

/-- The characters with a property, by its short or long name. -/
private def ofPropertyName? : String → Option CharSet
  | "alphabetic" | "alpha" => some (ofEstablished alphabeticRuns)
  | "whitespace" | "wspace" | "space" => some CharSet.whiteSpace
  | "uppercase" | "upper" => some (ofEstablished (uppercaseLetter ++ otherUppercase))
  | "lowercase" | "lower" => some (ofEstablished (lowercaseLetter ++ otherLowercase))
  | "joincontrol" | "joinc" => some (ofEstablished joinControl)
  | "graphemeextend" | "grext" => some (ofEstablished graphemeExtendRuns)
  | _ => none

/-- Names of properties compare without case, blanks, hyphens, underscores and
a leading `is`. -/
private def canonicalName (name : List Char) : String :=
  let letters := (name.filter fun c =>
    Unicode.isAscii c && c != ' ' && c != '-' && c != '_').map Char.toLower
  match letters with
  | 'i' :: 's' :: rest => if rest = ['c'] then "isc" else String.ofList rest
  | _ => String.ofList letters

/-- The characters that a property name stands for. -/
def ofUnicodeName? (name : List Char) : Option CharSet :=
  let name := canonicalName name
  (ofPropertyName? name).or (ofCategoryName? name)

/-- The characters of a general category, written as a value of that
property. -/
def ofUnicodeValue? (property value : List Char) : Option CharSet :=
  match canonicalName property with
  | "gc" | "generalcategory" => ofCategoryName? (canonicalName value)
  | _ => none

end CallMarkup.CharSet
