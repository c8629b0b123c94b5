import CallMarkup.Grammar.Escape

/-!
# Escape pairs and the characters between them

Read from left to right, a text is made of escape pairs and of single
characters.  `Grammar.MadeOf` bounds the single characters by a class; a text
that is made of characters other than some target has no unescaped target, so
cutting and splitting pass over it.  Escaped values are such texts, and
`unescape_escapeValue` says that they read back as the value.
-/

namespace CallMarkup.Grammar

variable {grammar : Grammar} {plain other : Char → Prop}

theorem isReserved_eq_false_iff {c : Char} :
    grammar.isReserved c = false ↔
      c ≠ grammar.escape ∧ c ≠ grammar.separator ∧ c ≠ grammar.assignment ∧
        c ∉ grammar.leadIn ∧ c ∉ grammar.leadOut := by
  simp [isReserved, and_assoc]

@[simp]
theorem isReserved_escape (grammar : Grammar) : grammar.isReserved grammar.escape = true := by
  simp [isReserved]

@[simp]
theorem isReserved_assignment (grammar : Grammar) :
    grammar.isReserved grammar.assignment = true := by
  simp [isReserved]

theorem escape_ne_assignment (grammar : Grammar) : grammar.escape ≠ grammar.assignment :=
  grammar.valid.assignment_ne_escape.symm

theorem escape_not_mem_delimiters (grammar : Grammar) :
    grammar.escape ∉ grammar.leadIn ∧ grammar.escape ∉ grammar.leadOut :=
  ⟨grammar.valid.symbol_not_mem_leadIn .escape, grammar.valid.symbol_not_mem_leadOut .escape⟩

theorem separator_not_mem_delimiters (grammar : Grammar) :
    grammar.separator ∉ grammar.leadIn ∧ grammar.separator ∉ grammar.leadOut :=
  ⟨grammar.valid.symbol_not_mem_leadIn .separator,
    grammar.valid.symbol_not_mem_leadOut .separator⟩

theorem assignment_not_mem_delimiters (grammar : Grammar) :
    grammar.assignment ∉ grammar.leadIn ∧ grammar.assignment ∉ grammar.leadOut :=
  ⟨grammar.valid.symbol_not_mem_leadIn .assignment,
    grammar.valid.symbol_not_mem_leadOut .assignment⟩

/-- Texts of escape pairs and of single characters from a class. -/
inductive MadeOf (grammar : Grammar) (plain : Char → Prop) : Text → Prop
  | nil : MadeOf grammar plain []
  | pair (next : Char) {rest : Text} :
      MadeOf grammar plain rest → MadeOf grammar plain (grammar.escape :: next :: rest)
  | single {c : Char} {rest : Text} : c ≠ grammar.escape → plain c →
      MadeOf grammar plain rest → MadeOf grammar plain (c :: rest)

namespace MadeOf

theorem append {first second : Text} (madeFirst : grammar.MadeOf plain first)
    (madeSecond : grammar.MadeOf plain second) : grammar.MadeOf plain (first ++ second) := by
  induction madeFirst with
  | nil => exact madeSecond
  | pair next _ ih => exact .pair next ih
  | single notEscape isPlain _ ih => exact .single notEscape isPlain ih

theorem mono {text : Text} (made : grammar.MadeOf plain text)
    (weaker : ∀ c, plain c → other c) : grammar.MadeOf other text := by
  induction made with
  | nil => exact .nil
  | pair next _ ih => exact .pair next ih
  | single notEscape isPlain _ ih => exact .single notEscape (weaker _ isPlain) ih

theorem of_forall {text : Text}
    (each : ∀ c ∈ text, c ≠ grammar.escape ∧ plain c) : grammar.MadeOf plain text := by
  induction text with
  | nil => exact .nil
  | cons c rest ih =>
      obtain ⟨notEscape, isPlain⟩ := each c (by simp)
      exact .single notEscape isPlain (ih fun d member => each d (by simp [member]))

/-- A text without escape characters has no escape pairs. -/
theorem forall_of_escape_not_mem {text : Text} (made : grammar.MadeOf plain text)
    (free : grammar.escape ∉ text) : ∀ c ∈ text, plain c := by
  induction made with
  | nil => simp
  | pair next _ _ => simp at free
  | single _ isPlain _ ih =>
      intro d member
      rcases List.mem_cons.mp member with rfl | member
      · exact isPlain
      · exact ih (fun later => free (by simp [later])) d member

end MadeOf

/-! ## Cutting and splitting -/

theorem cutUnescaped?_pair (grammar : Grammar) (target next : Char) (rest : Text) :
    grammar.cutUnescaped? target (grammar.escape :: next :: rest) =
      (grammar.cutUnescaped? target rest).map fun (before, after) =>
        (grammar.escape :: next :: before, after) := by
  simp [cutUnescaped?]

theorem cutUnescaped?_target {target : Char} (notEscape : target ≠ grammar.escape)
    (rest : Text) : grammar.cutUnescaped? target (target :: rest) = some ([], rest) := by
  cases rest <;> simp [cutUnescaped?, notEscape]

theorem cutUnescaped?_single {target c : Char} (notEscape : c ≠ grammar.escape)
    (notTarget : c ≠ target) (rest : Text) :
    grammar.cutUnescaped? target (c :: rest) =
      (grammar.cutUnescaped? target rest).map fun (before, after) => (c :: before, after) := by
  cases rest <;> simp [cutUnescaped?, notEscape, notTarget]

/-- A cut is made at the first target that no escape pair contains. -/
theorem cutUnescaped?_append {target : Char} {before : Text} (notEscape : target ≠ grammar.escape)
    (made : grammar.MadeOf (· ≠ target) before) (after : Text) :
    grammar.cutUnescaped? target (before ++ target :: after) = some (before, after) := by
  induction made with
  | nil => exact cutUnescaped?_target notEscape after
  | pair next _ ih =>
      rw [List.cons_append, List.cons_append, cutUnescaped?_pair, ih]
      rfl
  | single notEscape notTarget _ ih =>
      rw [List.cons_append, cutUnescaped?_single notEscape notTarget, ih]
      rfl

theorem MadeOf.cutUnescaped?_eq_none {target : Char} {text : Text}
    (made : grammar.MadeOf (· ≠ target) text) : grammar.cutUnescaped? target text = none := by
  induction made with
  | nil => rfl
  | pair next _ ih => rw [cutUnescaped?_pair, ih, Option.map_none]
  | single notEscape notTarget _ ih =>
      rw [cutUnescaped?_single notEscape notTarget, ih, Option.map_none]

/-- What precedes a cut has no unescaped target. -/
theorem madeOf_of_cutUnescaped? {target : Char} {text before after : Text}
    (cut : grammar.cutUnescaped? target text = some (before, after)) :
    grammar.MadeOf (· ≠ target) before := by
  fun_induction cutUnescaped? grammar target text generalizing before with
  | case1 => simp at cut
  | case2 c atTarget =>
      obtain ⟨rfl, -⟩ : [] = before ∧ [] = after := by simpa using cut
      exact .nil
  | case3 => simp at cut
  | case4 next rest ih =>
      obtain ⟨⟨first, second⟩, inner, equal⟩ := Option.map_eq_some_iff.mp cut
      simp only [Prod.mk.injEq] at equal
      obtain ⟨rfl, rfl⟩ := equal
      exact .pair next (ih inner)
  | case5 next rest _ =>
      obtain ⟨rfl, -⟩ : [] = before ∧ next :: rest = after := by simpa using cut
      exact .nil
  | case6 c next rest notEscape notTarget ih =>
      obtain ⟨⟨first, second⟩, inner, equal⟩ := Option.map_eq_some_iff.mp cut
      simp only [Prod.mk.injEq] at equal
      obtain ⟨rfl, rfl⟩ := equal
      exact .single notEscape notTarget (ih inner)

theorem splitUnescaped_pair (grammar : Grammar) (target next : Char) (rest : Text) :
    grammar.splitUnescaped target (grammar.escape :: next :: rest) =
      (grammar.splitUnescaped target rest).modifyHead fun piece =>
        grammar.escape :: next :: piece := by
  simp [splitUnescaped]

theorem splitUnescaped_target {target : Char} (notEscape : target ≠ grammar.escape)
    (rest : Text) :
    grammar.splitUnescaped target (target :: rest) = [] :: grammar.splitUnescaped target rest := by
  cases rest <;> simp [splitUnescaped, notEscape]

theorem splitUnescaped_single {target c : Char} (notEscape : c ≠ grammar.escape)
    (notTarget : c ≠ target) (rest : Text) :
    grammar.splitUnescaped target (c :: rest) =
      (grammar.splitUnescaped target rest).modifyHead fun piece => c :: piece := by
  cases rest <;> simp [splitUnescaped, notEscape, notTarget]

/-- Splitting passes over a text without unescaped target. -/
theorem splitUnescaped_append {target : Char} {first : Text}
    (made : grammar.MadeOf (· ≠ target) first) (rest : Text) :
    grammar.splitUnescaped target (first ++ rest) =
      (grammar.splitUnescaped target rest).modifyHead fun piece => first ++ piece := by
  induction made with
  | nil => exact congrFun List.modifyHead_id.symm _
  | pair next _ ih =>
      rw [List.cons_append, List.cons_append, splitUnescaped_pair, ih, List.modifyHead_modifyHead]
      rfl
  | single notEscape notTarget _ ih =>
      rw [List.cons_append, splitUnescaped_single notEscape notTarget, ih,
        List.modifyHead_modifyHead]
      rfl

/-- Texts without unescaped target are the pieces of what they are joined to. -/
theorem splitUnescaped_flatMap {target : Char} (notEscape : target ≠ grammar.escape)
    {first : Text} {later : List Text} (madeFirst : grammar.MadeOf (· ≠ target) first)
    (madeLater : ∀ piece ∈ later, grammar.MadeOf (· ≠ target) piece) :
    grammar.splitUnescaped target (first ++ later.flatMap fun piece => target :: piece) =
      first :: later := by
  induction later generalizing first with
  | nil =>
      have alone := splitUnescaped_append madeFirst []
      simpa [splitUnescaped] using alone
  | cons piece later ih =>
      have inner := ih (madeLater piece (by simp)) fun other member =>
        madeLater other (by simp [member])
      rw [splitUnescaped_append madeFirst, List.flatMap_cons, List.cons_append,
        splitUnescaped_target notEscape, inner]
      simp

theorem splitUnescaped_of_cutUnescaped?_eq_none {target : Char} {text : Text}
    (uncut : grammar.cutUnescaped? target text = none) :
    grammar.splitUnescaped target text = [text] := by
  fun_induction cutUnescaped? grammar target text with
  | case1 => rfl
  | case2 c atTarget => simp at uncut
  | case3 c notTarget => simp [splitUnescaped, notTarget]
  | case4 next rest ih =>
      rw [splitUnescaped_pair, ih (Option.map_eq_none_iff.mp uncut)]
      rfl
  | case5 next rest notEscape => simp at uncut
  | case6 c next rest notEscape notTarget ih =>
      rw [splitUnescaped_single notEscape notTarget, ih (Option.map_eq_none_iff.mp uncut)]
      rfl

/-- The first piece ends where the text is cut. -/
theorem splitUnescaped_of_cutUnescaped? {target : Char} (notEscape : target ≠ grammar.escape)
    {text before after : Text}
    (cut : grammar.cutUnescaped? target text = some (before, after)) :
    grammar.splitUnescaped target text = before :: grammar.splitUnescaped target after := by
  have made : grammar.MadeOf (· ≠ target) before := madeOf_of_cutUnescaped? cut
  rw [eq_append_of_cutUnescaped? cut, splitUnescaped_append made,
    splitUnescaped_target notEscape, List.modifyHead_cons, List.append_nil]

/-! ## Escaped values -/

/-- An escaped value keeps single characters only where they have no meaning,
apart from assignment operators. -/
theorem madeOf_escapeReserved (guarded : Bool) {value : Text}
    (each : ∀ c ∈ value, c = grammar.assignment ∨ grammar.isReserved c = false → plain c) :
    grammar.MadeOf plain (grammar.escapeReserved guarded value) := by
  fun_induction escapeReserved grammar guarded value with
  | case1 => exact .nil
  | case2 rest ih => exact .pair _ (ih fun c member => each c (by simp [member]))
  | case3 guarded rest notGuarded ih =>
      exact .single grammar.escape_ne_assignment.symm (each _ (by simp) (.inl rfl))
        (ih fun c member => each c (by simp [member]))
  | case4 guarded c rest notAssignment reserved ih =>
      exact .pair c (ih fun d member => each d (by simp [member]))
  | case5 guarded c rest notAssignment notReserved ih =>
      have free : grammar.isReserved c = false := by simpa using notReserved
      exact .single (isReserved_eq_false_iff.mp free).1 (each c (by simp) (.inr free))
        (ih fun d member => each d (by simp [member]))

theorem unescape_pair {next : Char} (reserved : grammar.isReserved next = true) (rest : Text) :
    grammar.unescape (grammar.escape :: next :: rest) = next :: grammar.unescape rest := by
  simp [unescape, reserved]

theorem unescape_single {c : Char} (notEscape : c ≠ grammar.escape) (rest : Text) :
    grammar.unescape (c :: rest) = c :: grammar.unescape rest := by
  cases rest <;> simp [unescape, notEscape]

/-- No escape character at the end of what is written takes the text after it along. -/
theorem unescape_escapeReserved_append (guarded : Bool) (value rest : Text) :
    grammar.unescape (grammar.escapeReserved guarded value ++ rest) =
      value ++ grammar.unescape rest := by
  fun_induction escapeReserved grammar guarded value with
  | case1 => rfl
  | case2 value ih =>
      rw [List.cons_append, List.cons_append, unescape_pair grammar.isReserved_assignment, ih]
      rfl
  | case3 guarded value notGuarded ih =>
      rw [List.cons_append, unescape_single grammar.escape_ne_assignment.symm, ih]
      rfl
  | case4 guarded c value notAssignment reserved ih =>
      rw [List.cons_append, List.cons_append, unescape_pair reserved, ih]
      rfl
  | case5 guarded c value notAssignment notReserved ih =>
      have free : grammar.isReserved c = false := by simpa using notReserved
      rw [List.cons_append, unescape_single (isReserved_eq_false_iff.mp free).1, ih]
      rfl

@[simp]
theorem unescape_escapeReserved (guarded : Bool) (value : Text) :
    grammar.unescape (grammar.escapeReserved guarded value) = value := by
  have alone := grammar.unescape_escapeReserved_append guarded value []
  rwa [List.append_nil, unescape, List.append_nil] at alone

/-- Unescaping undoes escaping, guarded or not: an escaped value reads back as the
value, alone and before any other text. -/
theorem unescape_escapeValue (grammar : Grammar) (guardAssignment : Bool) (value : Text) :
    grammar.unescape (grammar.escapeValue guardAssignment value) = value ∧
      ∀ rest, grammar.unescape (grammar.escapeValue guardAssignment value ++ rest) =
        value ++ grammar.unescape rest :=
  ⟨unescape_escapeReserved _ value, unescape_escapeReserved_append _ value⟩

private theorem escape_pair_ne_append {before : Text} (noEscape : grammar.escape ∉ before)
    (next : Char) (rest after : Text) :
    grammar.escape :: next :: rest ≠ before ++ grammar.assignment :: after := by
  intro equal
  cases before with
  | nil => exact grammar.escape_ne_assignment (List.cons.inj equal).1
  | cons c before => exact noEscape (by simp [(List.cons.inj equal).1])

/-- An assignment operator that escaping leaves bare, with no escape character
before it, stood at the same place in the value, and nothing was guarded. -/
theorem bare_assignment_of_escapeReserved {guarded : Bool} {value before after : Text}
    (written : grammar.escapeReserved guarded value = before ++ grammar.assignment :: after)
    (noEscape : grammar.escape ∉ before) (noAssignment : grammar.assignment ∉ before) :
    guarded = false ∧ ∃ rest, value = before ++ grammar.assignment :: rest := by
  induction value generalizing before with
  | nil => simp [escapeReserved] at written
  | cons c value ih =>
      unfold escapeReserved at written
      split at written
      next isAssignment =>
        split at written
        next => exact absurd written (escape_pair_ne_append noEscape _ _ _)
        next notGuarded =>
          cases before with
          | nil => exact ⟨by simpa using notGuarded, value, by simp [isAssignment]⟩
          | cons d before =>
              have same := (List.cons.inj written).1
              exact absurd (by simp [← same, isAssignment]) noAssignment
      next notAssignment =>
        split at written
        next => exact absurd written (escape_pair_ne_append noEscape _ _ _)
        next notReserved =>
          cases before with
          | nil => exact absurd (List.cons.inj written).1 notAssignment
          | cons d before =>
              simp only [List.cons_append, List.cons.injEq] at written
              obtain ⟨rfl, written⟩ := written
              simp only [List.mem_cons, not_or] at noEscape noAssignment
              obtain ⟨notGuarded, rest, rfl⟩ := ih written noEscape.2 noAssignment.2
              exact ⟨notGuarded, rest, rfl⟩

/-! ## Keyword items -/

theorem keywordParts?_eq_some_iff {item key value : Text} :
    grammar.keywordParts? item = some (key, value) ↔
      grammar.cutUnescaped? grammar.assignment item = some (key, value) ∧
        isIdentifier key = true := by
  simp [keywordParts?, Option.filter_eq_some_iff]

/-- A key without reserved characters is found again. -/
theorem keywordParts?_keyword {key : Text} (identifier : isIdentifier key = true)
    (free : ∀ c ∈ key, grammar.isReserved c = false) (value : Text) :
    grammar.keywordParts? (key ++ grammar.assignment :: value) = some (key, value) := by
  have made : grammar.MadeOf (· ≠ grammar.assignment) key := .of_forall fun c member =>
    have bare := isReserved_eq_false_iff.mp (free c member)
    ⟨bare.1, bare.2.2.1⟩
  exact keywordParts?_eq_some_iff.mpr
    ⟨cutUnescaped?_append grammar.escape_ne_assignment.symm made value, identifier⟩

/-- A guarded value never reads as a keyword item, provided that identifiers
contain no escape characters. -/
theorem keywordParts?_escapeValue (notWord : Unicode.isWord grammar.escape = false)
    (value : Text) : grammar.keywordParts? (grammar.escapeValue true value) = none := by
  rw [Option.eq_none_iff_forall_ne_some]
  rintro ⟨key, after⟩ keyword
  obtain ⟨cut, identifier⟩ := keywordParts?_eq_some_iff.mp keyword
  have noEscape : grammar.escape ∉ key := fun member => by
    simp [isWord_of_mem_identifier identifier member] at notWord
  have noAssignment : grammar.assignment ∉ key := fun member =>
    (madeOf_of_cutUnescaped? cut).forall_of_escape_not_mem noEscape _ member rfl
  obtain ⟨notGuarded, rest, rfl⟩ := bare_assignment_of_escapeReserved
    (eq_append_of_cutUnescaped? cut) noEscape noAssignment
  -- The value itself reads as a keyword item, so its assignment was guarded.
  have made : grammar.MadeOf (· ≠ grammar.assignment) key := .of_forall fun c member =>
    ⟨fun same => noEscape (same ▸ member), fun same => noAssignment (same ▸ member)⟩
  have bare := keywordParts?_eq_some_iff.mpr
    ⟨cutUnescaped?_append grammar.escape_ne_assignment.symm made rest, identifier⟩
  simp [bare] at notGuarded

end CallMarkup.Grammar
