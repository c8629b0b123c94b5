import CallMarkup.Proofs.Processor.Finding

/-!
# Matching names

The units that a processor for one name matches are those whose text up to the
first unescaped separator is the name.  So no unit is matched by the processors
of two names.
-/

namespace CallMarkup

namespace Matcher

theorem argumentsOf?_eq_some_iff {separator : Char} {name inner : Text}
    {arguments : Option Text} :
    argumentsOf? separator name inner = some arguments ↔
      (arguments = none ∧ inner = name) ∨
        ∃ rest, arguments = some rest ∧ inner = name ++ separator :: rest := by
  unfold argumentsOf?
  cases remainder : afterStart? name inner with
  | none =>
      simp only [reduceCtorEq, false_iff, not_or, not_exists, not_and]
      constructor
      · rintro - rfl
        simp [afterStart?_eq_some_iff.mpr (List.append_nil inner).symm] at remainder
      · rintro rest - rfl
        simp [afterStart?_eq_some_iff.mpr rfl] at remainder
  | some remainder' =>
      obtain rfl := afterStart?_eq_some_iff.mp remainder
      cases remainder' with
      | nil => simp [eq_comm]
      | cons c rest =>
          by_cases same : c = separator
          · subst same
            simp [eq_comm]
          · simp [same]

end Matcher

namespace Grammar

variable {grammar : Grammar}

/-- A valid name contains no separator and no escape character. -/
theorem madeOf_name {name : Text} (valid : grammar.nameFault? name = none) :
    grammar.MadeOf (fun c => grammar.isReserved c = false ∧ Unicode.isWhiteSpace c = false) name :=
  .of_forall fun c member =>
    have bare := (nameFault?_eq_none_iff.mp valid).2 c member
    ⟨(isReserved_eq_false_iff.mp bare.1).1, bare⟩

theorem madeOf_name_inert {name : Text} (valid : grammar.nameFault? name = none) :
    grammar.MadeOf grammar.Inert name := by
  refine (madeOf_name valid).mono fun c bare => ?_
  obtain ⟨-, -, -, notIn, notOut⟩ := isReserved_eq_false_iff.mp bare.1
  refine ⟨⟨notIn, notOut⟩, ?_⟩
  rintro - rfl
  exact absurd bare.2 (by decide)

/-- Matching a name and cutting at the first unescaped separator agree. -/
theorem argumentsOf?_eq_some_iff {name : Text} (valid : grammar.nameFault? name = none)
    {inner : Text} {arguments : Option Text} :
    Matcher.argumentsOf? grammar.separator name inner = some arguments ↔
      grammar.nameAndArguments inner = (name, arguments) := by
  have made : grammar.MadeOf (· ≠ grammar.separator) name :=
    (madeOf_name valid).mono fun c bare => (isReserved_eq_false_iff.mp bare.1).2.1
  rw [Matcher.argumentsOf?_eq_some_iff]
  constructor
  · rintro (⟨rfl, rfl⟩ | ⟨rest, rfl, rfl⟩)
    · simp [nameAndArguments, made.cutUnescaped?_eq_none]
    · simp [nameAndArguments, cutUnescaped?_append grammar.valid.separator_ne_escape made]
  · intro split
    unfold nameAndArguments at split
    cases cut : grammar.cutUnescaped? grammar.separator inner with
    | none =>
        simp only [cut, Prod.mk.injEq] at split
        exact .inl ⟨split.2.symm, split.1⟩
    | some parts =>
        obtain ⟨before, after⟩ := parts
        simp only [cut, Prod.mk.injEq] at split
        obtain ⟨rfl, rfl⟩ := split
        exact .inr ⟨after, rfl, eq_append_of_cutUnescaped? cut⟩

end Grammar

namespace Processor

variable {State Context : Type} {grammar : Grammar} {name : Text} {shape : Shape}
  {callback : Callback State Context} {processor : Processor State Context}

/-- What a processor for the units of one name consists of. -/
theorem shorthand_eq_ok (built : Processor.shorthand grammar name shape callback = .ok processor) :
    grammar.nameFault? name = none ∧ processor.name = name ∧ processor.grammar = grammar ∧
      processor.matcher = .calls name ∧ processor.shape = shape := by
  unfold Processor.shorthand at built
  cases fault : grammar.nameFault? name with
  | some fault' => simp [fault] at built
  | none =>
      obtain rfl : _ = processor := by simpa [fault] using built
      exact ⟨rfl, rfl, rfl, rfl, rfl⟩

/-- A processor for one name finds units that begin with this name. -/
theorem exists_unit_of_mem_find
    (built : Processor.shorthand grammar name shape callback = .ok processor) {text : Text}
    {found : Found} (member : found ∈ processor.find text) :
    ∃ unit ∈ grammar.units text, found.span = unit.span ∧
      (grammar.nameAndArguments unit.inner).1 = processor.name := by
  obtain ⟨valid, rfl, rfl, matcher, -⟩ := shorthand_eq_ok built
  simp only [find, Matcher.find, matcher, List.mem_filterMap, Option.map_eq_some_iff] at member
  obtain ⟨unit, inText, arguments, matched, rfl⟩ := member
  refine ⟨unit, inText, rfl, ?_⟩
  rw [(Grammar.argumentsOf?_eq_some_iff valid).mp matched]

/-- No unit has two names. -/
theorem name_eq_of_overlaps {other : Text} {shapeToo : Shape}
    {callbackToo : Callback State Context} {processorToo : Processor State Context}
    (built : Processor.shorthand grammar name shape callback = .ok processor)
    (builtToo : Processor.shorthand grammar other shapeToo callbackToo = .ok processorToo)
    {text : Text} {found foundToo : Found} (inFinds : found ∈ processor.find text)
    (inFindsToo : foundToo ∈ processorToo.find text)
    (overlap : found.span.overlaps foundToo.span = true) : processor.name = processorToo.name := by
  obtain ⟨unit, inText, covers, called⟩ := exists_unit_of_mem_find built inFinds
  obtain ⟨unitToo, inTextToo, coversToo, calledToo⟩ := exists_unit_of_mem_find builtToo inFindsToo
  rw [covers, coversToo] at overlap
  obtain rfl := Grammar.eq_of_overlaps inText inTextToo overlap
  exact called.symm.trans calledToo

/-- What a processor for the matches of a pattern consists of. -/
theorem ofPattern_eq_ok {written : Text}
    (built : Processor.ofPattern name written callback = .ok processor) :
    ∃ pattern, Pattern.read? written = some pattern ∧ processor.name = name ∧
      processor.matcher = .raw pattern ∧ processor.shape = pattern.shape := by
  unfold Processor.ofPattern at built
  cases read : Pattern.read? written with
  | none => simp [read] at built
  | some pattern =>
      obtain rfl : _ = processor := by simpa [read] using built
      exact ⟨pattern, rfl, rfl, rfl, rfl⟩

end Processor

end CallMarkup
