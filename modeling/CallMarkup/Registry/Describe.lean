import CallMarkup.Registry.Basic

/-!
# Descriptions

A registry is described by its grammar and the names of its processors.  Texts
and characters are quoted, so that every one of them can be told apart.
-/

namespace CallMarkup

private def quotedString (text : Text) : String :=
  String.ofList (quoted text)

private def quotedCharString (c : Char) : String :=
  String.ofList (quotedChar c)

def Grammar.describe (grammar : Grammar) : String :=
  let fields :=
    [("lead_in", quotedString grammar.leadIn), ("lead_out", quotedString grammar.leadOut),
      ("separator", quotedCharString grammar.separator),
      ("assignment", quotedCharString grammar.assignment),
      ("escape", quotedCharString grammar.escape), ("multiline", toString grammar.multiline)]
  "Grammar \x7b " ++ ", ".intercalate (fields.map fun (name, value) => name ++ ": " ++ value) ++
    " \x7d"

def Registry.describe {State Context : Type} (registry : Registry State Context) : String :=
  "Registry \x7b grammar: " ++ registry.grammar.describe ++ ", processors: [" ++
    ", ".intercalate (registry.names.map quotedString) ++ "] \x7d"

end CallMarkup
