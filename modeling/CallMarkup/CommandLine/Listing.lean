import CallMarkup.Document.CallUnit
import CallMarkup.Call.Item
import CallMarkup.Text.Quoted

/-!
# Listings

A listing has one line for each unit of a file: its position, its name and its
items, whose texts are quoted.  A summary counts what has been seen.
-/

namespace CallMarkup.CommandLine

/-- The line and the column of a byte offset, counted from one.  Columns count
characters. -/
def lineAndColumn (text : Text) (offset : Nat) : Nat × Nat :=
  let before := takeBytes offset text
  (before.count '\n' + 1, (before.reverse.takeWhile (· ≠ '\n')).length + 1)

def decimal (number : Nat) : Text :=
  Nat.toDigits 10 number

def describeItem : Item → Text
  | .positional text => quoted text
  | .keyword key text => key ++ ['='] ++ quoted text

def unitLine (grammar : Grammar) (path text : Text) (unit : CallUnit) : Text :=
  let (line, column) := lineAndColumn text unit.span.start
  let (name, arguments) := grammar.nameAndArguments unit.inner
  let items := (grammar.items arguments).map describeItem
  let position := joinWith [':'] [path, decimal line, decimal column]
  let columns := if items = [] then [position, name] else [position, name, enumerated items]
  joinWith [' ', ' '] columns ++ ['\n']

def listing (grammar : Grammar) (path text : Text) : Text :=
  (grammar.units text).flatMap (unitLine grammar path text)

/-- The line that closes every output. -/
def summary (units files findings : Nat) : Text :=
  s!"{units} unit(s) in {files} file(s), {findings} finding(s)\n".toList

end CallMarkup.CommandLine
