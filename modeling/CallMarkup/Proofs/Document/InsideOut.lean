import CallMarkup.Proofs.Document.Delimiters
import CallMarkup.Proofs.Document.Nesting
import CallMarkup.Proofs.Document.Resolution
import CallMarkup.Proofs.Processor.Finding

/-!
# Balanced texts resolve from the inside out

A unit leads back to the level at which it begins, and so does a text that says
nothing to a reader of units and breaks no line.  So a balanced text stays balanced
when all its units are replaced by such texts, and it has one opening delimiter less
for each of them.  `fillUnits_resolves` says this of one round and of any number of
rounds: after as many as the text has opening delimiters, none is left.
-/

namespace CallMarkup.Grammar

variable {grammar : Grammar} {level : Int} {text : Text}

/-! ## Levels -/

theorem NestsFrom.nonneg {segments : List Segment} (nests : grammar.NestsFrom level segments) :
    0 ≤ level := by
  simpa using nests.stays [] List.nil_prefix

/-- What a unit continues past changes no level. -/
theorem nestsFrom_append_of_continuesPast {body : List Segment}
    (continues : grammar.ContinuesPast body) (following : List Segment) :
    grammar.NestsFrom level (body ++ following) ↔ grammar.NestsFrom level following := by
  induction body with
  | nil => rfl
  | cons segment body ih =>
      obtain ⟨passed, continues⟩ := continuesPast_cons.mp continues
      simp only [Grammar.continues, Bool.and_eq_true, Bool.not_eq_true'] at passed
      rw [List.cons_append, nestsFrom_cons_iff, Segment.rise_eq_zero passed.1, Int.add_zero,
        ih continues, passed.2]
      constructor
      · rintro ⟨-, -, nests⟩
        exact nests
      · intro nests
        exact ⟨nests.nonneg, Bool.false_ne_true.elim, nests⟩

/-- A unit leads back to the level at which it begins. -/
theorem nestsFrom_unit_iff {body : List Segment} (continues : grammar.ContinuesPast body)
    (after : List Segment) :
    grammar.NestsFrom level (.opening :: (body ++ .closing :: after)) ↔
      grammar.NestsFrom level after := by
  rw [nestsFrom_cons_iff, nestsFrom_append_of_continuesPast continues, nestsFrom_cons_iff]
  simp only [Segment.rise, Segment.endsLine, Int.add_neg_cancel_right]
  constructor
  · rintro ⟨-, -, -, -, nests⟩
    exact nests
  · intro nests
    have above := nests.nonneg
    exact ⟨above, by simp, by omega, by simp, nests⟩

/-- Segments can be exchanged for others that lead down from the same levels. -/
theorem NestsFrom.exchange {following others : List Segment}
    (downTo : ∀ level, grammar.NestsFrom level following → grammar.NestsFrom level others)
    {before : List Segment} (nests : grammar.NestsFrom level (before ++ following)) :
    grammar.NestsFrom level (before ++ others) := by
  induction before generalizing level with
  | nil => exact downTo level nests
  | cons segment before ih =>
      rw [List.cons_append, nestsFrom_cons_iff] at nests ⊢
      exact ⟨nests.1, nests.2.1, ih nests.2.2⟩

/-! ## Texts in the place of units -/

/-- Texts that say nothing to a reader of units, also not that a line ends. -/
structure Silent (grammar : Grammar) (text : Text) : Prop where
  unreserved : grammar.Unreserved text
  onOneLine : grammar.multiline = false → '\n' ∉ text

theorem Silent.continuesPast (silent : grammar.Silent text) :
    grammar.ContinuesPast (grammar.segments text) := by
  refine MadeOf.continuesPast (.of_forall fun c member => ?_)
  have bare := isReserved_eq_false_iff.mp (silent.unreserved.free c member)
  refine ⟨bare.1, bare.2.2.2, ?_⟩
  rintro single rfl
  exact silent.onOneLine single member

/-- Balance survives when units are replaced. -/
theorem Resolves.nestsFrom {outputs : List Text} {source target : List Segment}
    (resolves : grammar.Resolves outputs source target)
    (silent : ∀ output ∈ outputs, grammar.Silent output)
    (nests : grammar.NestsFrom level source) : grammar.NestsFrom level target := by
  induction resolves generalizing level with
  | done => exact nests
  | unit continues unreserved later ih =>
      refine nests.exchange fun level nests => ?_
      obtain ⟨here, others⟩ := List.forall_mem_cons.mp silent
      rw [nestsFrom_append_of_continuesPast here.continuesPast]
      exact ih others ((nestsFrom_unit_iff continues _).mp nests)

/-- The text with every unit replaced. -/
def fillUnits (grammar : Grammar) (fill : CallUnit → Text) (text : Text) : Text :=
  splice text ((grammar.units text).map fun unit => ⟨unit.span, fill unit⟩)

theorem resolves_fillUnits {fill : CallUnit → Text}
    (unreserved : ∀ unit ∈ grammar.units text, grammar.Unreserved (fill unit)) :
    ∃ outputs, outputs.Perm ((grammar.units text).map fill) ∧
      grammar.Resolves outputs (grammar.segments text)
        (grammar.segments (grammar.fillUnits fill text)) := by
  have fits : ∀ item ∈ (grammar.units text).map fun unit => Replacement.mk unit.span (fill unit),
      item.span.FitsIn text :=
    List.forall_mem_map.mpr fun unit member => fitsIn_of_mem_units member
  obtain ⟨sorted, perm, -, rewrites⟩ :=
    splice_rewrites fits (List.pairwise_map.mpr (grammar.units_apart text))
  have onUnits : ∀ item ∈ sorted, ∃ unit ∈ grammar.units text,
      (⟨unit.span, fill unit⟩ : Replacement) = item :=
    fun item member => List.mem_map.mp (perm.mem_iff.mp member)
  refine ⟨sorted.map (·.text), ?_, resolves_of_rewrites rewrites ?_ ?_⟩
  · have listed := perm.map (·.text)
    rw [List.map_map] at listed
    exact listed
  · intro item member
    obtain ⟨unit, inText, rfl⟩ := onUnits item member
    exact ⟨unit, inText, rfl⟩
  · intro item member
    obtain ⟨unit, inText, rfl⟩ := onUnits item member
    exact unreserved unit inText

/-- Whatever stands in the place of each unit is silent. -/
def FillsSilently (grammar : Grammar) (fill : CallUnit → Text) (text : Text) : Prop :=
  ∀ unit ∈ grammar.units text, grammar.Silent (fill unit)

/-- One opening delimiter goes with every unit. -/
theorem openings_fillUnits {fill : CallUnit → Text}
    (silently : grammar.FillsSilently fill text) :
    grammar.openings (grammar.fillUnits fill text) + (grammar.units text).length =
      grammar.openings text := by
  obtain ⟨outputs, perm, resolves⟩ :=
    resolves_fillUnits fun unit member => (silently unit member).unreserved
  have counted := resolves.count_opening
  rw [perm.length_eq, List.length_map] at counted
  exact counted

theorem findImbalance?_fillUnits {fill : CallUnit → Text}
    (silently : grammar.FillsSilently fill text)
    (balanced : grammar.findImbalance? text = none) :
    grammar.findImbalance? (grammar.fillUnits fill text) = none := by
  obtain ⟨outputs, perm, resolves⟩ :=
    resolves_fillUnits fun unit member => (silently unit member).unreserved
  have silent : ∀ output ∈ outputs, grammar.Silent output := by
    intro output member
    obtain ⟨unit, inText, rfl⟩ := List.mem_map.mp (perm.mem_iff.mp member)
    exact silently unit inText
  exact imbalanceFrom?_eq_none_iff.mpr
    (resolves.nestsFrom silent (imbalanceFrom?_eq_none_iff.mp balanced))

/-! ## Rounds -/

theorem units_ne_nil_of_balanced (balanced : grammar.findImbalance? text = none)
    (active : grammar.delimiters text ≠ []) : grammar.units text ≠ [] := fun noUnits =>
  active (delimiters_eq_nil_iff.mpr ((units_eq_nil_iff_of_balanced balanced).mp noUnits))

/-- A balanced text without opening delimiters has no closing ones either. -/
theorem delimiters_eq_nil_of_openings (balanced : grammar.findImbalance? text = none)
    (none : grammar.openings text = 0) : grammar.delimiters text = [] := by
  by_contra active
  obtain ⟨unit, member⟩ := List.exists_mem_of_ne_nil _ (units_ne_nil_of_balanced balanced active)
  obtain ⟨before, body, after, read, -, -⟩ := mem_unitsFrom_iff.mp member
  exact List.count_eq_zero.mp none (by rw [read]; simp)

/-- The text after so many rounds, in each of which every unit is replaced. -/
def afterRounds (grammar : Grammar) (fills : Nat → CallUnit → Text) (text : Text) : Nat → Text
  | 0 => text
  | count + 1 => grammar.fillUnits (fills count) (grammar.afterRounds fills text count)

/-- Every round keeps the balance and takes an opening delimiter, as long as there is
one. -/
theorem balanced_afterRounds {fills : Nat → CallUnit → Text}
    (balanced : grammar.findImbalance? text = none)
    (silently : ∀ count,
      grammar.FillsSilently (fills count) (grammar.afterRounds fills text count)) (count : Nat) :
    grammar.findImbalance? (grammar.afterRounds fills text count) = none ∧
      grammar.openings (grammar.afterRounds fills text count) ≤
        grammar.openings text - count := by
  induction count with
  | zero => exact ⟨balanced, Nat.le_refl _⟩
  | succ count ih =>
      obtain ⟨balancedThere, few⟩ := ih
      have counted := openings_fillUnits (silently count)
      refine ⟨findImbalance?_fillUnits (silently count) balancedThere, ?_⟩
      show grammar.openings (grammar.fillUnits _ _) ≤ _
      by_cases active : grammar.delimiters (grammar.afterRounds fills text count) = []
      · have nothing : grammar.openings (grammar.afterRounds fills text count) = 0 := by
          refine List.count_eq_zero.mpr fun member => ?_
          have passive := delimiters_eq_nil_iff.mp active _ member
          simp [Segment.isDelimiter] at passive
        omega
      · have some := List.length_pos_iff.mpr (units_ne_nil_of_balanced balancedThere active)
        omega

/-- A balanced text with an active delimiter has a unit.  Texts that say nothing to a
reader of units can take the place of all units: the text stays balanced, and its
opening delimiters become fewer by the number of the units.  So no active delimiter is
left after as many rounds as there were opening delimiters. -/
theorem fillUnits_resolves (balanced : grammar.findImbalance? text = none) :
    (grammar.delimiters text ≠ [] → grammar.units text ≠ []) ∧
    (∀ fill, grammar.FillsSilently fill text →
      grammar.findImbalance? (grammar.fillUnits fill text) = none ∧
        grammar.openings (grammar.fillUnits fill text) + (grammar.units text).length =
          grammar.openings text) ∧
    ∀ fills : Nat → CallUnit → Text,
      (∀ count, grammar.FillsSilently (fills count) (grammar.afterRounds fills text count)) →
      ∀ count, grammar.openings text ≤ count →
        grammar.delimiters (grammar.afterRounds fills text count) = [] := by
  refine ⟨units_ne_nil_of_balanced balanced, fun fill silently =>
    ⟨findImbalance?_fillUnits silently balanced, openings_fillUnits silently⟩, ?_⟩
  intro fills silently count enough
  obtain ⟨balancedThere, few⟩ := balanced_afterRounds balanced silently count
  exact delimiters_eq_nil_of_openings balancedThere (by omega)

/-- Four units on two levels and two lines, after an escaped brace, are gone after two
rounds already. -/
theorem nestedLines_resolve :
    Grammar.default.findImbalance?
        "\x7b\x7ba\x7b\x7bb\x7d\x7d|\\\x7b\x7b\x7bc\x7d\x7d\x7d\x7d\n\x7b\x7bd\x7d\x7d".toList =
      none ∧
    Grammar.default.delimiters (Grammar.default.afterRounds (fun _ _ => ['x'])
        "\x7b\x7ba\x7b\x7bb\x7d\x7d|\\\x7b\x7b\x7bc\x7d\x7d\x7d\x7d\n\x7b\x7bd\x7d\x7d".toList 4) =
      [] := by
  have balanced : Grammar.default.findImbalance?
      "\x7b\x7ba\x7b\x7bb\x7d\x7d|\\\x7b\x7b\x7bc\x7d\x7d\x7d\x7d\n\x7b\x7bd\x7d\x7d".toList =
        none := by cbv
  have opened : Grammar.default.openings
      "\x7b\x7ba\x7b\x7bb\x7d\x7d|\\\x7b\x7b\x7bc\x7d\x7d\x7d\x7d\n\x7b\x7bd\x7d\x7d".toList =
        4 := by cbv
  have silent : Grammar.default.Silent ['x'] := by
    refine ⟨⟨by simp, fun c member => ?_⟩, by simp⟩
    rw [List.mem_singleton.mp member]
    rfl
  exact ⟨balanced, (fillUnits_resolves balanced).2.2 (fun _ _ => ['x'])
    (fun _ _ _ => silent) 4 (Nat.le_of_eq opened)⟩

end CallMarkup.Grammar
