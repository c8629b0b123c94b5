import CallMarkup.Text.Quoted

/-!
# Grammars

A grammar fixes how units are written in a text: the delimiters around a unit,
the separator between its items, the assignment operator inside a keyword item
and the escape character.  Only grammars whose symbols cannot be confused exist
as values: `GrammarSpec.validate` reports the first rule that a specification
breaks, and `GrammarSpec.fault?_eq_none_iff` says that a specification without
such a fault satisfies all rules.
-/

namespace CallMarkup

/-- The choices that make up a grammar, not yet checked. -/
structure GrammarSpec where
  leadIn : Text := ['{', '{']
  leadOut : Text := ['}', '}']
  separator : Char := '|'
  assignment : Char := '='
  escape : Char := '\\'
  /-- Whether a unit may span several lines. -/
  multiline : Bool := false
  deriving DecidableEq

/-- The single characters of a grammar. -/
inductive SymbolRole
  | separator
  | assignment
  | escape
  deriving DecidableEq

namespace SymbolRole

/-- The roles in the order in which they are checked. -/
def all : List SymbolRole :=
  [.separator, .assignment, .escape]

theorem mem_all (role : SymbolRole) : role ∈ all := by
  cases role <;> simp [all]

def label : SymbolRole → String
  | .separator => "separator"
  | .assignment => "assignment operator"
  | .escape => "escape character"

def symbol (spec : GrammarSpec) : SymbolRole → Char
  | .separator => spec.separator
  | .assignment => spec.assignment
  | .escape => spec.escape

end SymbolRole

inductive GrammarFault
  | emptyDelimiter
  | clashingDelimiters (leadIn leadOut : Text)
  | notPunctuation (role : SymbolRole) (symbol : Char)
  | insideDelimiter (role : SymbolRole) (symbol : Char)
  | repeatedSymbol
  | emptyName
  | reservedInName (name : Text) (symbol : Char)
  deriving DecidableEq

def GrammarFault.message : GrammarFault → String
  | .emptyDelimiter => "Delimiters must not be empty"
  | .clashingDelimiters leadIn leadOut =>
    s!"Delimiters '{String.ofList leadIn}' and '{String.ofList leadOut}' must be distinct and " ++
      "neither may prefix the other"
  | .notPunctuation role symbol =>
    s!"The {role.label} '{String.ofList (asciiForm symbol)}' must be punctuation"
  | .insideDelimiter role symbol => s!"The {role.label} '{symbol}' also appears in a delimiter"
  | .repeatedSymbol => "Separator, assignment operator and escape character must all differ"
  | .emptyName => "Callback names must not be empty"
  | .reservedInName name symbol =>
    s!"Callback name '{String.ofList name}' contains the reserved character " ++
      s!"'{String.ofList (asciiForm symbol)}'"

/-- Characters that no word and no blank contains. -/
def isSymbol (c : Char) : Bool :=
  !(Unicode.isAlphanumeric c || c == '_' || Unicode.isWhiteSpace c)

namespace GrammarSpec

/-- The first rule that the character of one role breaks. -/
def symbolFault? (spec : GrammarSpec) (role : SymbolRole) : Option GrammarFault :=
  let symbol := role.symbol spec
  if !isSymbol symbol then some (.notPunctuation role symbol)
  else if symbol ∈ spec.leadIn ∨ symbol ∈ spec.leadOut then some (.insideDelimiter role symbol)
  else none

def fault? (spec : GrammarSpec) : Option GrammarFault :=
  if spec.leadIn = [] ∨ spec.leadOut = [] then some .emptyDelimiter
  else if spec.leadOut <+: spec.leadIn ∨ spec.leadIn <+: spec.leadOut then
    some (.clashingDelimiters spec.leadIn spec.leadOut)
  else
    match SymbolRole.all.findSome? spec.symbolFault? with
    | some fault => some fault
    | none =>
      if spec.separator = spec.assignment ∨ spec.separator = spec.escape ∨
          spec.assignment = spec.escape then some .repeatedSymbol
      else none

/-- The rules of an unambiguous grammar. -/
structure Valid (spec : GrammarSpec) : Prop where
  leadIn_ne_nil : spec.leadIn ≠ []
  leadOut_ne_nil : spec.leadOut ≠ []
  not_leadOut_prefix_leadIn : ¬ spec.leadOut <+: spec.leadIn
  not_leadIn_prefix_leadOut : ¬ spec.leadIn <+: spec.leadOut
  isSymbol_symbol : ∀ role : SymbolRole, isSymbol (role.symbol spec) = true
  symbol_not_mem_leadIn : ∀ role : SymbolRole, role.symbol spec ∉ spec.leadIn
  symbol_not_mem_leadOut : ∀ role : SymbolRole, role.symbol spec ∉ spec.leadOut
  separator_ne_assignment : spec.separator ≠ spec.assignment
  separator_ne_escape : spec.separator ≠ spec.escape
  assignment_ne_escape : spec.assignment ≠ spec.escape

theorem symbolFault?_eq_none_iff {spec : GrammarSpec} {role : SymbolRole} :
    spec.symbolFault? role = none ↔
      isSymbol (role.symbol spec) = true ∧ role.symbol spec ∉ spec.leadIn ∧
        role.symbol spec ∉ spec.leadOut := by
  unfold symbolFault?
  cases symbol : isSymbol (role.symbol spec) <;> simp [symbol]

/-- A specification is free of faults exactly when it satisfies every rule. -/
theorem fault?_eq_none_iff {spec : GrammarSpec} : spec.fault? = none ↔ spec.Valid := by
  have symbols : SymbolRole.all.findSome? spec.symbolFault? = none ↔
      ∀ role : SymbolRole, isSymbol (role.symbol spec) = true ∧
        role.symbol spec ∉ spec.leadIn ∧ role.symbol spec ∉ spec.leadOut := by
    rw [List.findSome?_eq_none_iff]
    constructor
    · intro free role
      exact symbolFault?_eq_none_iff.mp (free role role.mem_all)
    · intro free role _
      exact symbolFault?_eq_none_iff.mpr (free role)
  constructor
  · intro free
    unfold fault? at free
    split at free
    · simp at free
    next nonempty =>
      split at free
      · simp at free
      next apart =>
        split at free
        · simp at free
        next clean =>
          split at free
          · simp at free
          next distinct =>
            have clean := symbols.mp clean
            simp only [not_or] at nonempty apart distinct
            exact ⟨nonempty.1, nonempty.2, apart.1, apart.2, fun role => (clean role).1,
              fun role => (clean role).2.1, fun role => (clean role).2.2, distinct.1,
              distinct.2.1, distinct.2.2⟩
  · intro valid
    have clean := symbols.mpr fun role =>
      ⟨valid.isSymbol_symbol role, valid.symbol_not_mem_leadIn role,
        valid.symbol_not_mem_leadOut role⟩
    simp [fault?, clean, valid.leadIn_ne_nil, valid.leadOut_ne_nil,
      valid.not_leadOut_prefix_leadIn, valid.not_leadIn_prefix_leadOut,
      valid.separator_ne_assignment, valid.separator_ne_escape, valid.assignment_ne_escape]

end GrammarSpec

/-- A grammar whose symbols cannot be confused. -/
structure Grammar extends GrammarSpec where
  valid : toGrammarSpec.Valid
  deriving DecidableEq

/-- Turns a specification into a grammar, or names the first rule it breaks. -/
def GrammarSpec.validate (spec : GrammarSpec) : Except GrammarFault Grammar :=
  match free : spec.fault? with
  | none => .ok ⟨spec, GrammarSpec.fault?_eq_none_iff.mp free⟩
  | some fault => .error fault

namespace Grammar

/-- Units written as in `\x7b\x7bname|value|key=value\x7d\x7d`. -/
protected def default : Grammar :=
  ⟨{}, GrammarSpec.fault?_eq_none_iff.mp (by decide)⟩

instance : Inhabited Grammar :=
  ⟨Grammar.default⟩

/-- Whether a character has a meaning in the grammar and needs escaping inside
arguments. -/
def isReserved (grammar : Grammar) (c : Char) : Bool :=
  c == grammar.escape || c == grammar.separator || c == grammar.assignment ||
    grammar.leadIn.contains c || grammar.leadOut.contains c

/-- Why a name cannot be matched literally, if it cannot. -/
def nameFault? (grammar : Grammar) (name : Text) : Option GrammarFault :=
  if name = [] then some .emptyName
  else
    (name.find? fun c => grammar.isReserved c || Unicode.isWhiteSpace c).map
      (.reservedInName name)

/-- Accepts the names that a unit can call. -/
def checkName (grammar : Grammar) (name : Text) : Except GrammarFault Unit :=
  match grammar.nameFault? name with
  | none => .ok ()
  | some fault => .error fault

/-- A name passes exactly when it is not empty and holds no reserved character
and no white space. -/
theorem nameFault?_eq_none_iff {grammar : Grammar} {name : Text} :
    grammar.nameFault? name = none ↔
      name ≠ [] ∧ ∀ c ∈ name, grammar.isReserved c = false ∧ Unicode.isWhiteSpace c = false := by
  unfold nameFault?
  split <;> simp_all

end Grammar

end CallMarkup
