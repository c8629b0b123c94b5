import CallMarkup.Call.Item
import CallMarkup.Proofs.Grammar.Escaping
import Mathlib.Data.List.Nodup

/-!
# Guarded values

A guarded value is to read as one positional item.  The guard looks at the
value, though, and not at what is written for it.  An escape character that is a
word character can belong to an identifier, so a value that is no keyword item
may be written as one, and so may a value whose guarded assignment operator is a
word character.  `items_escapeValue` says for which values this happens, and
that it happens exactly in the grammars whose escape character is a word
character.
-/

namespace CallMarkup

theorem Unicode.isAlphanumeric_of_isDecimalDigit {c : Char}
    (digit : Unicode.isDecimalDigit c = true) : Unicode.isAlphanumeric c = true := by
  unfold Unicode.isDecimalDigit at digit
  unfold Unicode.isAlphanumeric
  split at digit
  next ascii => simp [ascii, digit]
  next notAscii =>
    have member : Unicode.inRuns Unicode.Table.decimalNumber c.toNat = true :=
      (Bool.and_eq_true_iff.mp digit).1
    have number : Unicode.inRuns Unicode.numberRuns c.toNat = true := by
      unfold Unicode.inRuns at member ⊢
      simp [Unicode.numberRuns, member]
    simp [notAscii, number]

theorem isIdentifier_iff {text : Text} :
    isIdentifier text = true ↔
      (∃ first, text.head? = some first ∧ Unicode.isDecimalDigit first = false) ∧
        ∀ c ∈ text, Unicode.isWord c = true := by
  cases text with
  | nil => simp [isIdentifier]
  | cons first rest =>
      simp only [isIdentifier, Bool.and_eq_true, Bool.not_eq_true', List.all_eq_true,
        List.head?_cons, Option.some.injEq, exists_eq_left', List.forall_mem_cons]
      rw [and_assoc, and_left_comm]

/-- A text can be cut at any occurrence of a character. -/
theorem exists_cut_of_lt_count {c : Char} {text : Text} {number : Nat}
    (more : number < text.count c) :
    ∃ before after, text = before ++ c :: after ∧ before.count c = number := by
  induction number generalizing text with
  | zero =>
      obtain ⟨before, after, rfl, absent⟩ :=
        List.eq_append_cons_of_mem (List.count_pos_iff.mp more)
      exact ⟨before, after, rfl, List.count_eq_zero.mpr absent⟩
  | succ number ih =>
      have present : c ∈ text := List.count_pos_iff.mp (by omega)
      obtain ⟨front, rest, rfl, absent⟩ := List.eq_append_cons_of_mem present
      have frontCount : front.count c = 0 := List.count_eq_zero.mpr absent
      rw [List.count_append, List.count_cons_self] at more
      obtain ⟨before, after, rfl, count⟩ := ih (by omega : number < rest.count c)
      refine ⟨front ++ c :: before, after, by simp, ?_⟩
      rw [List.count_append, List.count_cons_self]
      omega

namespace Grammar

variable {grammar : Grammar}

theorem isDecimalDigit_symbol (grammar : Grammar) (role : SymbolRole) :
    Unicode.isDecimalDigit (role.symbol grammar.toGrammarSpec) = false := by
  by_contra digit
  have alphanumeric := Unicode.isAlphanumeric_of_isDecimalDigit (by simpa using digit)
  have symbol := grammar.valid.isSymbol_symbol role
  simp [isSymbol, alphanumeric] at symbol

/-! ## What is written for a value -/

theorem escapeReserved_append (guarded : Bool) (first second : Text) :
    grammar.escapeReserved guarded (first ++ second) =
      grammar.escapeReserved guarded first ++
        grammar.escapeReserved (guarded && !first.contains grammar.assignment) second := by
  induction first generalizing guarded with
  | nil => simp [escapeReserved]
  | cons c first ih =>
      rw [List.cons_append]
      by_cases isAssignment : c = grammar.assignment
      · cases guarded <;> simp [escapeReserved, isAssignment, ih]
      · cases reserved : grammar.isReserved c <;>
          simp [escapeReserved, isAssignment, Ne.symm isAssignment, reserved, ih]

theorem escapeReserved_eq_self (guarded : Bool) {text : Text}
    (free : ∀ c ∈ text, grammar.isReserved c = false) :
    grammar.escapeReserved guarded text = text := by
  induction text with
  | nil => rfl
  | cons c text ih =>
      obtain ⟨freeHead, freeRest⟩ := List.forall_mem_cons.mp free
      have notAssignment : c ≠ grammar.assignment := (isReserved_eq_false_iff.mp freeHead).2.2.1
      simp [escapeReserved, notAssignment, freeHead, ih freeRest]

theorem mem_escapeReserved_iff (guarded : Bool) {text : Text} {c : Char} :
    c ∈ grammar.escapeReserved guarded text ↔
      c ∈ text ∨ c = grammar.escape ∧
        (guarded = true ∧ grammar.assignment ∈ text ∨
          ∃ d ∈ text, d ≠ grammar.assignment ∧ grammar.isReserved d = true) := by
  fun_induction escapeReserved grammar guarded text with
  | case1 => simp
  | case2 rest ih =>
      simp only [List.mem_cons, ih]
      grind
  | case3 guarded rest notGuarded ih =>
      simp only [List.mem_cons, ih]
      grind
  | case4 guarded d rest notAssignment reserved ih =>
      simp only [List.mem_cons, ih]
      grind
  | case5 guarded d rest notAssignment notReserved ih =>
      simp only [List.mem_cons, ih]
      grind

/-- Only the first assignment operator can be guarded. -/
theorem madeOf_escapeReserved_of_count (guarded : Bool) {text : Text}
    (few : text.count grammar.assignment ≤ guarded.toNat) :
    grammar.MadeOf (· ≠ grammar.assignment) (grammar.escapeReserved guarded text) := by
  fun_induction escapeReserved grammar guarded text with
  | case1 => exact .nil
  | case2 rest ih => exact .pair _ (ih (by simpa using few))
  | case3 guarded rest notGuarded ih => simp [notGuarded] at few
  | case4 guarded c rest notAssignment reserved ih =>
      exact .pair c (ih (by simpa [List.count_cons_of_ne notAssignment] using few))
  | case5 guarded c rest notAssignment notReserved ih =>
      have free : grammar.isReserved c = false := by simpa using notReserved
      exact .single (isReserved_eq_false_iff.mp free).1 notAssignment
        (ih (by simpa [List.count_cons_of_ne notAssignment] using few))

/-- A written value is cut at the first assignment operator that is not guarded:
the second one of the value if there is a guard, and the first one otherwise. -/
theorem cutUnescaped?_escapeReserved_iff (guarded : Bool) {value written after : Text} :
    grammar.cutUnescaped? grammar.assignment (grammar.escapeReserved guarded value) =
        some (written, after) ↔
      ∃ key rest, value = key ++ grammar.assignment :: rest ∧
        key.count grammar.assignment = guarded.toNat ∧
        written = grammar.escapeReserved guarded key ∧
        after = grammar.escapeReserved false rest := by
  have cutAt (key rest : Text) (count : key.count grammar.assignment = guarded.toNat) :
      grammar.cutUnescaped? grammar.assignment
          (grammar.escapeReserved guarded (key ++ grammar.assignment :: rest)) =
        some (grammar.escapeReserved guarded key, grammar.escapeReserved false rest) := by
    have spent : (guarded && !key.contains grammar.assignment) = false := by
      cases guarded with
      | false => rfl
      | true => simp [List.count_pos_iff.mp (by simp [count] : 0 < key.count grammar.assignment)]
    have bare : grammar.escapeReserved false (grammar.assignment :: rest) =
        grammar.assignment :: grammar.escapeReserved false rest := by
      simp [escapeReserved]
    rw [escapeReserved_append, spent, bare]
    exact cutUnescaped?_append grammar.escape_ne_assignment.symm
      (madeOf_escapeReserved_of_count guarded (Nat.le_of_eq count)) _
  constructor
  · intro cut
    rcases Nat.lt_or_ge guarded.toNat (value.count grammar.assignment) with more | few
    · obtain ⟨key, rest, rfl, count⟩ := exists_cut_of_lt_count more
      obtain ⟨rfl, rfl⟩ := Prod.mk.inj (Option.some.inj ((cutAt key rest count).symm.trans cut))
      exact ⟨key, rest, rfl, count, rfl, rfl⟩
    · rw [(madeOf_escapeReserved_of_count guarded few).cutUnescaped?_eq_none] at cut
      cases cut
  · rintro ⟨key, rest, rfl, count, rfl, rfl⟩
    exact cutAt key rest count

/-! ## Values that slip past the guard -/

/-- Values that are written as a keyword item in spite of the guard.  What is
written for the `key` is an identifier, with escape characters in it. -/
structure Slips (grammar : Grammar) (value key rest : Text) : Prop where
  cut : value = key ++ grammar.assignment :: rest
  /-- Of the operators before the cut one is guarded if the value reads as a
  keyword item, and there is no other. -/
  count : key.count grammar.assignment = (grammar.keywordParts? value).isSome.toNat
  words : ∀ c ∈ grammar.escape :: key, Unicode.isWord c = true
  begins : ∃ first, key.head? = some first ∧
    (Unicode.isDecimalDigit first = false ∨ grammar.isReserved first = true)

theorem head_escapeReserved_iff (guarded : Bool) {text : Text} :
    (∃ first, (grammar.escapeReserved guarded text).head? = some first ∧
        Unicode.isDecimalDigit first = false) ↔
      ∃ first, text.head? = some first ∧
        (Unicode.isDecimalDigit first = false ∨ grammar.isReserved first = true) := by
  have escapeDigit : Unicode.isDecimalDigit grammar.escape = false :=
    grammar.isDecimalDigit_symbol .escape
  have assignmentDigit : Unicode.isDecimalDigit grammar.assignment = false :=
    grammar.isDecimalDigit_symbol .assignment
  cases text with
  | nil => simp [escapeReserved]
  | cons c text =>
      by_cases isAssignment : c = grammar.assignment
      · cases guarded <;> simp [escapeReserved, isAssignment, escapeDigit, assignmentDigit]
      · cases reserved : grammar.isReserved c <;>
          simp [escapeReserved, isAssignment, reserved, escapeDigit]

theorem keywordParts?_escapeValue_iff {value written after : Text} :
    grammar.keywordParts? (grammar.escapeValue true value) = some (written, after) ↔
      ∃ key rest, grammar.Slips value key rest ∧
        written = grammar.escapeReserved (grammar.keywordParts? value).isSome key ∧
        after = grammar.escapeReserved false rest := by
  have reads : grammar.escapeValue true value =
      grammar.escapeReserved (grammar.keywordParts? value).isSome value := rfl
  rw [keywordParts?_eq_some_iff, reads, cutUnescaped?_escapeReserved_iff]
  constructor
  · rintro ⟨⟨key, rest, cut, count, rfl, rfl⟩, identifier⟩
    obtain ⟨begins, words⟩ := isIdentifier_iff.mp identifier
    have keyWords : ∀ c ∈ key, Unicode.isWord c = true := fun c member =>
      words c ((mem_escapeReserved_iff _).mpr (.inl member))
    refine ⟨key, rest, ⟨cut, count, ?_, (head_escapeReserved_iff _).mp begins⟩, rfl, rfl⟩
    refine List.forall_mem_cons.mpr ⟨?_, keyWords⟩
    apply words
    refine (mem_escapeReserved_iff _).mpr (.inr ⟨rfl, ?_⟩)
    cases keyword : (grammar.keywordParts? value).isSome with
    | true =>
        rw [keyword] at count
        exact .inl ⟨rfl, List.count_pos_iff.mp (by simp [count])⟩
    | false =>
        -- Without an escape character the value itself would read as a keyword item.
        by_contra bare
        rw [keyword] at count
        have free : ∀ c ∈ key, grammar.isReserved c = false := by
          intro c member
          by_contra reserved
          refine bare (.inr ⟨c, member, ?_, by simpa using reserved⟩)
          rintro rfl
          exact List.count_eq_zero.mp count member
        rw [escapeReserved_eq_self _ free] at identifier
        rw [cut, keywordParts?_keyword identifier free rest] at keyword
        cases keyword
  · rintro ⟨key, rest, slips, rfl, rfl⟩
    refine ⟨⟨key, rest, slips.cut, slips.count, rfl, rfl⟩, isIdentifier_iff.mpr ⟨?_, ?_⟩⟩
    · exact (head_escapeReserved_iff _).mpr slips.begins
    · intro c member
      rcases (mem_escapeReserved_iff _).mp member with inKey | ⟨rfl, -⟩
      · exact slips.words c (by simp [inKey])
      · exact slips.words _ (by simp)

/-- An escape character that is a word character makes its own pair with the
operator slip. -/
theorem slips_escape (word : Unicode.isWord grammar.escape = true) :
    grammar.Slips [grammar.escape, grammar.assignment] [grammar.escape] [] where
  cut := rfl
  count := by
    have noCut : grammar.cutUnescaped? grammar.assignment
        [grammar.escape, grammar.assignment] = none := by
      rw [cutUnescaped?_pair]
      rfl
    simp [keywordParts?, noCut, grammar.escape_ne_assignment]
  words := by simpa using word
  begins := ⟨grammar.escape, rfl, .inr grammar.isReserved_escape⟩

theorem forall_not_slips_iff :
    (∀ value key rest, ¬grammar.Slips value key rest) ↔ Unicode.isWord grammar.escape = false := by
  constructor
  · intro none
    by_contra word
    exact none _ _ _ (slips_escape (by simpa using word))
  · intro notWord value key rest slips
    have word := slips.words grammar.escape (by simp)
    rw [notWord] at word
    cases word

theorem splitUnescaped_escapeValue (guardAssignment : Bool) (value : Text) :
    grammar.splitUnescaped grammar.separator (grammar.escapeValue guardAssignment value) =
      [grammar.escapeValue guardAssignment value] := by
  have made :
      grammar.MadeOf (· ≠ grammar.separator) (grammar.escapeValue guardAssignment value) := by
    apply madeOf_escapeReserved
    rintro c - (rfl | free)
    · exact grammar.valid.separator_ne_assignment.symm
    · exact (isReserved_eq_false_iff.mp free).2.1
  simpa using splitUnescaped_flatMap grammar.valid.separator_ne_escape made (by simp :
    ∀ piece ∈ [], grammar.MadeOf (· ≠ grammar.separator) piece)

/-- A guarded value is always one item, and a positional one unless it slips.
No value slips exactly if the escape character is no word character. -/
theorem items_escapeValue (grammar : Grammar) :
    (∀ value, ∃ item, grammar.items (some (grammar.escapeValue true value)) = [item] ∧
      (item = .positional (grammar.escapeValue true value) ↔
        ∀ key rest, ¬grammar.Slips value key rest)) ∧
    ((∀ value key rest, ¬grammar.Slips value key rest) ↔
      Unicode.isWord grammar.escape = false) := by
  refine ⟨fun value => ?_, forall_not_slips_iff⟩
  refine ⟨grammar.classify (grammar.escapeValue true value), ?_, ?_⟩
  · rw [items, splitUnescaped_escapeValue, List.map_singleton]
  · unfold classify
    cases keyword : grammar.keywordParts? (grammar.escapeValue true value) with
    | none =>
        refine iff_of_true rfl fun key rest slips => ?_
        have slipped := keywordParts?_escapeValue_iff.mpr ⟨key, rest, slips, rfl, rfl⟩
        rw [keyword] at slipped
        cases slipped
    | some parts =>
        obtain ⟨written, after⟩ := parts
        obtain ⟨key, rest, slips, -⟩ := keywordParts?_escapeValue_iff.mp keyword
        exact iff_of_false (by simp) fun none => none key rest slips

/-! ## An escape character inside identifiers -/

/-- Escapes are written with a character that connects words. -/
def escapedByTie : Grammar :=
  ⟨{ escape := '\u203F' }, GrammarSpec.fault?_eq_none_iff.mp (by decide +kernel)⟩

/-- A guarded value need not read as a positional item. -/
theorem guarded_not_always_positional :
    ¬ ∀ (grammar : Grammar) (value : Text), ∃ text,
      grammar.items (some (grammar.escapeValue true value)) = [.positional text] := by
  intro positional
  obtain ⟨text, read⟩ := positional escapedByTie ['\u203F', '=', '1']
  have keyword : escapedByTie.items (some (escapedByTie.escapeValue true ['\u203F', '=', '1'])) =
      [.keyword ['\u203F', '\u203F'] ['1']] := by decide +kernel
  rw [keyword] at read
  cases read

end Grammar

end CallMarkup
