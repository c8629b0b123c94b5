import CallMarkup.Proofs.Config.Reading
import CallMarkup.Proofs.Document.Segments

/-!
# One reading at every position

A reader of a text looks for five signs: the three symbols and the two delimiters.
The rules of a grammar speak of the signs alone, and delimiters may share characters
and overlap in a text.  Still no two signs begin at the same position of any text, so
the signs may be looked for in any order.  `Obtained.reads_uniquely` says this of
every grammar, wherever it comes from.
-/

namespace CallMarkup

/-- What has a meaning where it begins in a text. -/
inductive Sign
  | symbol (role : SymbolRole)
  | leadIn
  | leadOut
  deriving DecidableEq

/-- Whether a sign stands at the beginning of a text. -/
def Sign.begins (spec : GrammarSpec) (text : Text) : Sign → Bool
  | .symbol role => text.head? = some (role.symbol spec)
  | .leadIn => spec.leadIn <+: text
  | .leadOut => spec.leadOut <+: text

namespace GrammarSpec

variable {spec : GrammarSpec}

/-- Whether at most one sign stands at the beginning of any text. -/
def Unambiguous (spec : GrammarSpec) : Prop :=
  ∀ (text : Text) (first second : Sign),
    first.begins spec text = true → second.begins spec text = true → first = second

namespace Valid

theorem eq_of_symbol_eq (valid : spec.Valid) {first second : SymbolRole}
    (same : first.symbol spec = second.symbol spec) : first = second := by
  have separatorAssignment := valid.separator_ne_assignment
  have separatorEscape := valid.separator_ne_escape
  have assignmentEscape := valid.assignment_ne_escape
  cases first <;> cases second <;> simp_all [SymbolRole.symbol]

theorem not_begins_symbol {delimiter text : Text} {role : SymbolRole}
    (nonempty : delimiter ≠ []) (free : role.symbol spec ∉ delimiter)
    (head : text.head? = some (role.symbol spec)) : ¬ delimiter <+: text := by
  obtain ⟨rest, rfl⟩ := List.head?_eq_some_iff.mp head
  exact Grammar.not_prefix_of_head nonempty free

theorem unambiguous (valid : spec.Valid) : spec.Unambiguous := by
  have notOpens {text : Text} {role : SymbolRole} (head : text.head? = some (role.symbol spec)) :
      ¬ spec.leadIn <+: text :=
    not_begins_symbol valid.leadIn_ne_nil (valid.symbol_not_mem_leadIn role) head
  have notCloses {text : Text} {role : SymbolRole} (head : text.head? = some (role.symbol spec)) :
      ¬ spec.leadOut <+: text :=
    not_begins_symbol valid.leadOut_ne_nil (valid.symbol_not_mem_leadOut role) head
  have notBoth {text : Text} (closes : spec.leadOut <+: text) : ¬ spec.leadIn <+: text :=
    @Grammar.leadOut_excludes_leadIn ⟨spec, valid⟩ text closes
  intro text first second one two
  unfold Sign.begins at one two
  cases first <;> cases second <;> simp only [decide_eq_true_eq] at one two
  case symbol.symbol first second =>
    rw [valid.eq_of_symbol_eq (Option.some.inj (one.symm.trans two))]
  case symbol.leadIn => exact absurd two (notOpens one)
  case symbol.leadOut => exact absurd two (notCloses one)
  case leadIn.symbol => exact absurd one (notOpens two)
  case leadIn.leadIn => rfl
  case leadIn.leadOut => exact absurd one (notBoth two)
  case leadOut.symbol => exact absurd one (notCloses two)
  case leadOut.leadIn => exact absurd two (notBoth one)
  case leadOut.leadOut => rfl

end Valid

/-- Validation accepts exactly the specifications that satisfy the rules, and changes
nothing in them. -/
theorem validate_eq_ok_iff {grammar : Grammar} :
    spec.validate = .ok grammar ↔ spec.fault? = none ∧ grammar.toGrammarSpec = spec := by
  unfold validate
  constructor
  · intro accepted
    split at accepted
    next free =>
      obtain rfl := Except.ok.inj accepted
      exact ⟨free, rfl⟩
    next => cases accepted
  · rintro ⟨free, rfl⟩
    split
    next => rfl
    next broken => rw [free] at broken; cases broken

end GrammarSpec

namespace Grammar

variable {grammar : Grammar}

/-- Where grammars come from: the default one, one that is built from chosen parts,
and the one of a configuration. -/
inductive Obtained : Grammar → Prop
  | byDefault : Obtained Grammar.default
  | built {spec : GrammarSpec} {grammar : Grammar} (accepted : spec.validate = .ok grammar) :
      Obtained grammar
  | configured {format : ConfigFormat} {text : Text} {config : Config}
      (accepted : Config.ofText format text = .ok config) : Obtained config.grammar

/-- Every way to a grammar passes the same check. -/
theorem Obtained.fault?_eq_none (obtained : Obtained grammar) :
    grammar.toGrammarSpec.fault? = none := by
  have ofValidate {spec : GrammarSpec} {grammar : Grammar}
      (accepted : spec.validate = .ok grammar) : grammar.toGrammarSpec.fault? = none := by
    obtain ⟨free, rfl⟩ := GrammarSpec.validate_eq_ok_iff.mp accepted
    exact free
  have ofDefault : Grammar.default.toGrammarSpec.fault? = none := by decide
  cases obtained with
  | byDefault => exact ofDefault
  | built accepted => exact ofValidate accepted
  | @configured format text config accepted =>
      rcases Config.checked_of_ofText accepted with same | ⟨spec, -, accepted⟩
      · rw [same]
        exact ofDefault
      · exact ofValidate accepted

/-- The first segment of a nonempty text and what follows it, when signs are looked for
in the given order. -/
def readSegment (grammar : Grammar) (order : List Sign) (c : Char) (rest : Text) :
    Segment × Text :=
  match order.find? (·.begins grammar.toGrammarSpec (c :: rest)) with
  | some (.symbol .escape) => (.escaped rest.head?, rest.tail)
  | some .leadIn => (.opening, (c :: rest).drop grammar.leadIn.length)
  | some .leadOut => (.closing, (c :: rest).drop grammar.leadOut.length)
  | _ => (.plain c, rest)

/-- The sign that stands at the beginning is found wherever it is in the order. -/
theorem find?_begins {spec : GrammarSpec} (unambiguous : spec.Unambiguous) {order : List Sign}
    {text : Text} {sign : Sign} (member : sign ∈ order) (begins : sign.begins spec text = true) :
    order.find? (·.begins spec text) = some sign := by
  cases found : order.find? (·.begins spec text) with
  | none => exact absurd begins (by simpa using List.find?_eq_none.mp found sign member)
  | some other => rw [unambiguous text other sign (List.find?_some found) begins]

/-- Reading a text by single steps gives its segments, in whatever order the steps look
for signs. -/
theorem segments_eq_readSegment (unambiguous : grammar.toGrammarSpec.Unambiguous)
    {order : List Sign} (escapes : .symbol .escape ∈ order) (opens : .leadIn ∈ order)
    (closes : .leadOut ∈ order) (c : Char) (rest : Text) :
    grammar.segments (c :: rest) =
      (grammar.readSegment order c rest).1 ::
        grammar.segments (grammar.readSegment order c rest).2 := by
  unfold readSegment
  have finds {sign : Sign} (member : sign ∈ order)
      (begins : sign.begins grammar.toGrammarSpec (c :: rest) = true) :
      order.find? (·.begins grammar.toGrammarSpec (c :: rest)) = some sign :=
    find?_begins unambiguous member begins
  by_cases isEscape : c = grammar.escape
  · rw [finds escapes (by simp [Sign.begins, SymbolRole.symbol, isEscape])]
    subst isEscape
    cases rest <;> simp
  by_cases opensHere : grammar.leadIn <+: c :: rest
  · rw [finds opens (by simpa [Sign.begins] using opensHere)]
    obtain ⟨after, whole⟩ := opensHere
    simp only [← whole, segments_leadIn, List.drop_left]
  by_cases closesHere : grammar.leadOut <+: c :: rest
  · rw [finds closes (by simpa [Sign.begins] using closesHere)]
    obtain ⟨after, whole⟩ := closesHere
    simp only [← whole, segments_leadOut, List.drop_left]
  · rw [segments_plain isEscape opensHere closesHere]
    have begun {sign : Sign}
        (found : order.find? (·.begins grammar.toGrammarSpec (c :: rest)) = some sign) :
        sign.begins grammar.toGrammarSpec (c :: rest) = true :=
      List.find?_some found
    split
    next found =>
      exact absurd (by simpa [Sign.begins, SymbolRole.symbol] using begun found) isEscape
    next found => exact absurd (by simpa [Sign.begins] using begun found) opensHere
    next found => exact absurd (by simpa [Sign.begins] using begun found) closesHere
    next => rfl

/-- Every step reads at least one character. -/
theorem readSegment_advances (unambiguous : grammar.toGrammarSpec.Unambiguous)
    {order : List Sign} (escapes : .symbol .escape ∈ order) (opens : .leadIn ∈ order)
    (closes : .leadOut ∈ order) (c : Char) (rest : Text) :
    (grammar.readSegment order c rest).1.text grammar ++ (grammar.readSegment order c rest).2 =
        c :: rest ∧
      (grammar.readSegment order c rest).2.length < (c :: rest).length := by
  have whole : (grammar.readSegment order c rest).1.text grammar ++
      (grammar.readSegment order c rest).2 = c :: rest := by
    have together := grammar.flatMap_text_segments (c :: rest)
    rwa [segments_eq_readSegment unambiguous escapes opens closes, List.flatMap_cons,
      flatMap_text_segments] at together
  have nonempty := List.length_pos_iff.mpr
    (grammar.segment_text_ne_nil (grammar.readSegment order c rest).1)
  have lengths := congrArg List.length whole
  rw [List.length_append] at lengths
  exact ⟨whole, by omega⟩

/-- At every position of every text at most one sign of a grammar begins, wherever the
grammar comes from; and whoever looks for the signs in some order reads the same
segments, each of at least one character. -/
theorem Obtained.reads_uniquely (obtained : Obtained grammar) :
    grammar.leadIn ≠ [] ∧ grammar.leadOut ≠ [] ∧
      (∀ (text : Text) (position : Nat) (first second : Sign),
        first.begins grammar.toGrammarSpec (text.drop position) = true →
          second.begins grammar.toGrammarSpec (text.drop position) = true → first = second) ∧
      ∀ order : List Sign, .symbol .escape ∈ order → .leadIn ∈ order → .leadOut ∈ order →
        ∀ (c : Char) (rest : Text),
          grammar.segments (c :: rest) =
              (grammar.readSegment order c rest).1 ::
                grammar.segments (grammar.readSegment order c rest).2 ∧
            (grammar.readSegment order c rest).1.text grammar ++
                (grammar.readSegment order c rest).2 = c :: rest ∧
              (grammar.readSegment order c rest).2.length < (c :: rest).length := by
  have valid := GrammarSpec.fault?_eq_none_iff.mp obtained.fault?_eq_none
  have unambiguous := valid.unambiguous
  refine ⟨valid.leadIn_ne_nil, valid.leadOut_ne_nil, fun text position => unambiguous _, ?_⟩
  intro order escapes opens closes c rest
  exact ⟨segments_eq_readSegment unambiguous escapes opens closes c rest,
    readSegment_advances unambiguous escapes opens closes c rest⟩

/-- Each delimiter begins with the character that the other one ends in. -/
def overlapping : Grammar :=
  ⟨{ leadIn := ['<', '('], leadOut := ['(', '<'] },
    GrammarSpec.fault?_eq_none_iff.mp (by decide)⟩

/-- A configuration that lists its fields without their names gives a grammar whose
delimiters overlap, and still the text `<(<` has one reading only. -/
theorem overlapping_reads_uniquely :
    Config.ofText .json
          ['[', '[', '"', '<', '(', '"', ',', '"', '(', '<', '"', ']', ']'] =
        .ok { grammar := overlapping } ∧
      (∀ (position : Nat) (first second : Sign),
        first.begins overlapping.toGrammarSpec (List.drop position ['<', '(', '<']) = true →
          second.begins overlapping.toGrammarSpec (List.drop position ['<', '(', '<']) = true →
            first = second) ∧
      overlapping.readSegment [.leadOut, .leadIn, .symbol .escape] '<' ['(', '<'] =
        (.opening, ['<']) := by
  have accepted : Config.ofText .json
      ['[', '[', '"', '<', '(', '"', ',', '"', '(', '<', '"', ']', ']'] =
        .ok { grammar := overlapping } := by
    rfl
  obtain ⟨-, -, one, -⟩ := Obtained.reads_uniquely (.configured accepted)
  exact ⟨accepted, one ['<', '(', '<'], by decide⟩

end Grammar

end CallMarkup
