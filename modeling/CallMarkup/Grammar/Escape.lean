import CallMarkup.Grammar.Basic
import CallMarkup.Text.Identifier

/-!
# Escaping and splitting

Inside an argument the escape character takes the meaning from the character
after it.  This module cuts a text at characters that are not escaped, writes
arbitrary values so that they have no meaning of their own, and reads them
back.
-/

namespace CallMarkup.Grammar

/-- The pieces of a text between unescaped occurrences of `target`, escapes
left in place.  There is always at least one piece. -/
def splitUnescaped (grammar : Grammar) (target : Char) : Text → List Text
  | [] => [[]]
  | [c] => if c ≠ grammar.escape ∧ c = target then [[], []] else [[c]]
  | c :: next :: rest =>
    if c = grammar.escape then
      (splitUnescaped grammar target rest).modifyHead fun piece => c :: next :: piece
    else if c = target then [] :: splitUnescaped grammar target (next :: rest)
    else (splitUnescaped grammar target (next :: rest)).modifyHead fun piece => c :: piece

/-- The parts before and after the first unescaped occurrence of `target`. -/
def cutUnescaped? (grammar : Grammar) (target : Char) : Text → Option (Text × Text)
  | [] => none
  | [c] => if c ≠ grammar.escape ∧ c = target then some ([], []) else none
  | c :: next :: rest =>
    if c = grammar.escape then
      (cutUnescaped? grammar target rest).map fun (before, after) => (c :: next :: before, after)
    else if c = target then some ([], next :: rest)
    else
      (cutUnescaped? grammar target (next :: rest)).map fun (before, after) =>
        (c :: before, after)

def findUnescaped? (grammar : Grammar) (target : Char) (text : Text) : Option Nat :=
  (grammar.cutUnescaped? target text).map fun (before, _) => byteLength before

/-- Key and value of an item whose text before its first unescaped assignment
operator is an identifier. -/
def keywordParts? (grammar : Grammar) (item : Text) : Option (Text × Text) :=
  (grammar.cutUnescaped? grammar.assignment item).filter fun (key, _) => isIdentifier key

/-- Escapes every reserved character apart from assignment operators, of which
at most the first one is escaped, and only if it is `guarded`. -/
def escapeReserved (grammar : Grammar) : (guarded : Bool) → Text → Text
  | _, [] => []
  | guarded, c :: rest =>
    if c = grammar.assignment then
      if guarded then grammar.escape :: c :: escapeReserved grammar false rest
      else c :: escapeReserved grammar false rest
    else if grammar.isReserved c then grammar.escape :: c :: escapeReserved grammar guarded rest
    else c :: escapeReserved grammar guarded rest

/-- Writes a value for use as an argument.  With `guardAssignment`, a value
that would read as a keyword item has its first assignment operator escaped. -/
def escapeValue (grammar : Grammar) (guardAssignment : Bool) (value : Text) : Text :=
  grammar.escapeReserved (guardAssignment && (grammar.keywordParts? value).isSome) value

/-- Reads an argument: the escape character vanishes before a reserved
character and stands for itself anywhere else. -/
def unescape (grammar : Grammar) : Text → Text
  | [] => []
  | [c] => [c]
  | c :: next :: rest =>
    if c = grammar.escape ∧ grammar.isReserved next = true then next :: unescape grammar rest
    else c :: unescape grammar (next :: rest)

theorem splitUnescaped_ne_nil (grammar : Grammar) (target : Char) (text : Text) :
    grammar.splitUnescaped target text ≠ [] := by
  fun_induction splitUnescaped grammar target text with
  | case1 => simp
  | case2 => simp
  | case3 => simp
  | case4 next rest ih =>
      cases pieces : grammar.splitUnescaped target rest with
      | nil => exact absurd pieces ih
      | cons piece pieces => simp
  | case5 => simp
  | case6 c next rest notEscape notTarget ih =>
      cases pieces : grammar.splitUnescaped target (next :: rest) with
      | nil => exact absurd pieces ih
      | cons piece pieces => simp

/-- Cutting keeps everything apart from the character it cuts at. -/
theorem eq_append_of_cutUnescaped? {grammar : Grammar} {target : Char}
    {text before after : Text}
    (cut : grammar.cutUnescaped? target text = some (before, after)) :
    text = before ++ target :: after := by
  fun_induction cutUnescaped? grammar target text generalizing before with
  | case1 => simp at cut
  | case2 c atTarget => simp_all
  | case3 => simp at cut
  | case4 next rest ih =>
      simp only [Option.map_eq_some_iff] at cut
      obtain ⟨⟨first, second⟩, inner, equal⟩ := cut
      simp only [Prod.mk.injEq] at equal
      obtain ⟨rfl, rfl⟩ := equal
      simp [ih inner]
  | case5 => simp_all
  | case6 c next rest notEscape notTarget ih =>
      simp only [Option.map_eq_some_iff] at cut
      obtain ⟨⟨first, second⟩, inner, equal⟩ := cut
      simp only [Prod.mk.injEq] at equal
      obtain ⟨rfl, rfl⟩ := equal
      simp [ih inner]

end CallMarkup.Grammar
