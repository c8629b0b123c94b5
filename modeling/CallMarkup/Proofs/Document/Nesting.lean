import CallMarkup.Proofs.Document.Balance
import Mathlib.Combinatorics.Enumerative.DyckWord

/-!
# Nested delimiters

Delimiters are nested when their sequence is a Dyck word: as many are closed as
are opened, and at no place more.  In a single-line grammar nothing may be open at
a line break.  `imbalanceFrom?_eq_none_iff` says that a text without imbalance is
one with nested delimiters, at any level from which the reading starts.
-/

namespace CallMarkup

namespace Segment

/-- An opening delimiter is a step up, and a closing one is a step down. -/
def step? : Segment → Option DyckStep
  | .opening => some .U
  | .closing => some .D
  | .escaped _ | .plain _ => none

/-- By how much a segment changes the number of open delimiters. -/
def rise : Segment → Int
  | .opening => 1
  | .closing => -1
  | .escaped _ | .plain _ => 0

theorem rise_eq_zero {segment : Segment} (noDelimiter : segment.isDelimiter = false) :
    segment.rise = 0 := by
  cases segment with
  | opening => exact Bool.noConfusion noDelimiter
  | closing => exact Bool.noConfusion noDelimiter
  | escaped next => rfl
  | plain c => rfl

end Segment

/-- How many more delimiters some segments open than they close. -/
def depth (segments : List Segment) : Int :=
  (segments.map (·.rise)).sum

@[simp]
theorem depth_nil : depth [] = 0 :=
  rfl

@[simp]
theorem depth_cons (segment : Segment) (segments : List Segment) :
    depth (segment :: segments) = segment.rise + depth segments :=
  List.sum_cons

theorem depth_eq_count_sub (segments : List Segment) :
    depth segments = (segments.filterMap Segment.step?).count .U -
      (segments.filterMap Segment.step?).count .D := by
  induction segments with
  | nil => rfl
  | cons segment segments ih =>
      rw [depth_cons, ih]
      cases segment <;> simp [Segment.rise, Segment.step?, List.filterMap_cons] <;> omega

namespace Grammar

variable {grammar : Grammar} {level : Int} {segment : Segment} {segments : List Segment}

/-- Delimiters that pair like brackets, on each line of its own unless units may
span several lines. -/
structure Nested (grammar : Grammar) (segments : List Segment) : Prop where
  dyck : ∃ word : DyckWord, word.toList = segments.filterMap Segment.step?
  closed : grammar.multiline = false → ∀ before after,
    segments = before ++ .plain '\n' :: after → depth before = 0

/-- From a level of open delimiters, segments lead down to none and never below. -/
structure NestsFrom (grammar : Grammar) (level : Int) (segments : List Segment) : Prop where
  total : level + depth segments = 0
  stays : ∀ before, before <+: segments → 0 ≤ level + depth before
  closed : grammar.multiline = false → ∀ before after,
    segments = before ++ .plain '\n' :: after → level + depth before = 0

theorem nestsFrom_nil_iff : grammar.NestsFrom level [] ↔ level = 0 := by
  constructor
  · intro nests
    simpa using nests.total
  · rintro rfl
    exact ⟨by simp, by simp, by simp⟩

theorem nestsFrom_cons_iff :
    grammar.NestsFrom level (segment :: segments) ↔
      0 ≤ level ∧ (segment.endsLine grammar = true → level = 0) ∧
        grammar.NestsFrom (level + segment.rise) segments := by
  have endsLine : segment.endsLine grammar = true ↔
      grammar.multiline = false ∧ segment = .plain '\n' := by
    simp [Segment.endsLine]
  constructor
  · intro nests
    refine ⟨by simpa using nests.stays [] List.nil_prefix, fun ends => ?_, ?_, ?_, ?_⟩
    · obtain ⟨single, rfl⟩ := endsLine.mp ends
      simpa using nests.closed single [] segments rfl
    · simpa [Int.add_assoc] using nests.total
    · intro before begins
      simpa [Int.add_assoc] using
        nests.stays (segment :: before) (List.cons_prefix_cons.mpr ⟨rfl, begins⟩)
    · rintro single before after rfl
      simpa [Int.add_assoc] using nests.closed single (segment :: before) after rfl
  · rintro ⟨above, atBreak, nests⟩
    refine ⟨by simpa [Int.add_assoc] using nests.total, fun before begins => ?_,
      fun single before after cut => ?_⟩
    · rcases List.prefix_cons_iff.mp begins with rfl | ⟨rest, rfl, restBegins⟩
      · simpa using above
      · simpa [Int.add_assoc] using nests.stays rest restBegins
    · rcases List.cons_eq_append_iff.mp cut with ⟨rfl, here⟩ | ⟨rest, rfl, later⟩
      · obtain ⟨rfl, -⟩ := List.cons.inj here
        simpa using atBreak (endsLine.mpr ⟨single, rfl⟩)
      · simpa [Int.add_assoc] using nests.closed single rest after later

/-- A sequence of delimiters is a Dyck word exactly if it leads from no open
delimiter to none and never below. -/
theorem exists_dyckWord_iff :
    (∃ word : DyckWord, word.toList = segments.filterMap Segment.step?) ↔
      depth segments = 0 ∧ ∀ before, before <+: segments → 0 ≤ depth before := by
  constructor
  · rintro ⟨word, spelled⟩
    have level := word.count_U_eq_count_D
    rw [spelled] at level
    refine ⟨by rw [depth_eq_count_sub]; omega, ?_⟩
    rintro before ⟨after, rfl⟩
    have beginning := word.count_D_le_count_U (before.filterMap Segment.step?).length
    rw [spelled, List.filterMap_append, List.take_left] at beginning
    rw [depth_eq_count_sub]
    omega
  · rintro ⟨level, stays⟩
    rw [depth_eq_count_sub] at level
    refine ⟨⟨segments.filterMap Segment.step?, by omega, fun length => ?_⟩, rfl⟩
    obtain ⟨before, after, rfl, beginning, -⟩ := List.filterMap_eq_append_iff.mp
      (List.take_append_drop length (segments.filterMap Segment.step?)).symm
    have above := stays before (List.prefix_append _ _)
    rw [← beginning]
    rw [depth_eq_count_sub] at above
    omega

theorem nested_iff : grammar.Nested segments ↔ grammar.NestsFrom 0 segments := by
  constructor
  · rintro ⟨dyck, closed⟩
    obtain ⟨total, stays⟩ := exists_dyckWord_iff.mp dyck
    exact ⟨by simpa using total, by simpa using stays, by simpa using closed⟩
  · rintro ⟨total, stays, closed⟩
    exact ⟨exists_dyckWord_iff.mpr ⟨by simpa using total, by simpa using stays⟩,
      by simpa using closed⟩

/-- A reading that starts with some delimiters open finds no imbalance exactly if
the segments close these and all that they open themselves. -/
theorem imbalanceFrom?_eq_none_iff {offset : Nat} {opened : List Nat} :
    grammar.imbalanceFrom? offset opened segments = none ↔
      grammar.NestsFrom opened.length segments := by
  induction segments generalizing offset opened with
  | nil => simp [imbalanceFrom?, outermostOpen?, nestsFrom_nil_iff]
  | cons segment following ih =>
      rw [nestsFrom_cons_iff]
      cases delimiter : segment.isDelimiter with
      | true =>
          rcases Segment.isDelimiter_iff.mp delimiter with rfl | rfl
          · simp [imbalanceFrom?, ih, Segment.endsLine, Segment.rise]
          · cases opened with
            | nil =>
                refine iff_of_false (by simp [imbalanceFrom?]) ?_
                rintro ⟨-, -, nests⟩
                exact absurd (nests.stays [] List.nil_prefix) (by simp [Segment.rise])
            | cons start opened =>
                simp [imbalanceFrom?, ih, Segment.endsLine, Segment.rise]
                omega
      | false =>
          rw [imbalanceFrom?_cons delimiter, Segment.rise_eq_zero delimiter, Int.add_zero]
          split
          next stops =>
            simp only [Bool.and_eq_true, Bool.not_eq_true', List.isEmpty_eq_false_iff] at stops
            refine iff_of_false (mt outermostOpen?_eq_none_iff.mp stops.2) ?_
            rintro ⟨-, level, -⟩
            exact stops.2 (by simpa using level stops.1)
          next goesOn =>
            rw [ih]
            refine (and_iff_right ⟨?_, ?_⟩).symm.trans and_assoc
            · simp
            · intro ends
              simpa [ends] using goesOn

end Grammar

end CallMarkup
