import CallMarkup.Processor.Basic
import CallMarkup.Proofs.Document.Units
import CallMarkup.Proofs.Regex.Matches

/-!
# The places that a processor finds

Whatever the matcher, the places lie in the text and come from left to right,
no place begins before the end of the one before it, and no two overlap.  A
processor for units finds units only.
-/

namespace CallMarkup

/-- Of items none of which overlap, two that do are the same. -/
theorem eq_of_apart {α : Type} {spanOf : α → Span} {items : List α}
    (apart : items.Pairwise fun first second => (spanOf first).overlaps (spanOf second) = false)
    {first second : α} (inItems : first ∈ items) (inItemsToo : second ∈ items)
    (overlap : (spanOf first).overlaps (spanOf second) = true) : first = second := by
  by_contra distinct
  have symmetric : Std.Symm fun first second : α =>
      (spanOf first).overlaps (spanOf second) = false :=
    ⟨fun _ _ apart => by rwa [Span.overlaps_comm]⟩
  have clear := apart.forall inItems inItemsToo distinct
  rw [overlap] at clear
  exact Bool.noConfusion clear

namespace Matcher

variable {matcher : Matcher} {grammar : Grammar} {text : Text} {found : Found}

theorem mem_units_of_mem_find (delimited : matcher.isDelimited = true)
    (member : found ∈ matcher.find grammar text) :
    ∃ unit ∈ grammar.units text, found.span = unit.span := by
  cases matcher with
  | calls name =>
      simp only [find, List.mem_filterMap, Option.map_eq_some_iff] at member
      obtain ⟨unit, inText, arguments, matched, rfl⟩ := member
      exact ⟨unit, inText, rfl⟩
  | everyUnit =>
      simp only [find, List.mem_map] at member
      obtain ⟨unit, inText, rfl⟩ := member
      exact ⟨unit, inText, rfl⟩
  | raw pattern => simp [isDelimited] at delimited

theorem find_fitsIn (member : found ∈ matcher.find grammar text) : found.span.FitsIn text := by
  cases delimited : matcher.isDelimited with
  | true =>
      obtain ⟨unit, inText, same⟩ := mem_units_of_mem_find delimited member
      rw [same]
      exact Grammar.fitsIn_of_mem_units inText
  | false =>
      cases matcher with
      | raw pattern =>
          simp only [find, List.mem_map] at member
          obtain ⟨one, inMatches, rfl⟩ := member
          exact (pattern.program.findAll_matchesAfter text).fits one inMatches
      | calls name => simp [isDelimited] at delimited
      | everyUnit => simp [isDelimited] at delimited

theorem find_ascending (matcher : Matcher) (grammar : Grammar) (text : Text) :
    (matcher.find grammar text).Pairwise fun first second =>
      first.span.stop ≤ second.span.start := by
  have units : (grammar.units text).Pairwise fun first second =>
      first.span.stop ≤ second.span.start := Grammar.unitsFrom_ascending 0 _
  cases matcher with
  | calls name =>
      refine units.filterMap _ ?_
      intro first second ordered foundFirst one foundSecond two
      simp only [Option.map_eq_some_iff] at one two
      obtain ⟨_, -, rfl⟩ := one
      obtain ⟨_, -, rfl⟩ := two
      exact ordered
  | everyUnit => exact List.pairwise_map.mpr units
  | raw pattern => exact List.pairwise_map.mpr (pattern.program.findAll_matchesAfter text).ascending

/-- The places also begin one after the other, so they do not overlap. -/
theorem find_apart (matcher : Matcher) (grammar : Grammar) (text : Text) :
    (matcher.find grammar text).Pairwise fun first second =>
      first.span.overlaps second.span = false := by
  have starts : (matcher.find grammar text).Pairwise fun first second =>
      first.span.start < second.span.start := by
    cases delimited : matcher.isDelimited with
    | true =>
        refine (find_ascending matcher grammar text).imp_of_mem fun inFirst _ ordered => ?_
        obtain ⟨unit, inText, same⟩ := mem_units_of_mem_find delimited inFirst
        have proper := Grammar.start_lt_stop_of_mem_units inText
        rw [← same] at proper
        omega
    | false =>
        cases matcher with
        | raw pattern => exact List.pairwise_map.mpr (pattern.program.findAll_starts text)
        | calls name => simp [isDelimited] at delimited
        | everyUnit => simp [isDelimited] at delimited
  exact (find_ascending matcher grammar text).imp₂
    (fun _ _ ends begins => Span.overlaps_eq_false ends begins) starts

end Matcher

theorem Grammar.units_apart (grammar : Grammar) (text : Text) :
    (grammar.units text).Pairwise fun first second => first.span.overlaps second.span = false :=
  List.pairwise_map.mp (Matcher.everyUnit.find_apart grammar text)

theorem Grammar.eq_of_overlaps {grammar : Grammar} {text : Text} {first second : CallUnit}
    (inText : first ∈ grammar.units text) (inTextToo : second ∈ grammar.units text)
    (overlap : first.span.overlaps second.span = true) : first = second :=
  eq_of_apart (grammar.units_apart text) inText inTextToo overlap

namespace Processor

variable {State Context : Type} {processor : Processor State Context} {text : Text}
  {found : Found}

theorem find_fitsIn (member : found ∈ processor.find text) : found.span.FitsIn text :=
  Matcher.find_fitsIn member

theorem find_ascending (processor : Processor State Context) (text : Text) :
    (processor.find text).Pairwise fun first second => first.span.stop ≤ second.span.start :=
  Matcher.find_ascending processor.matcher processor.grammar text

theorem find_apart (processor : Processor State Context) (text : Text) :
    (processor.find text).Pairwise fun first second => first.span.overlaps second.span = false :=
  Matcher.find_apart processor.matcher processor.grammar text

theorem eq_of_overlaps {other : Found} (inFinds : found ∈ processor.find text)
    (inFindsToo : other ∈ processor.find text)
    (overlap : found.span.overlaps other.span = true) : found = other :=
  eq_of_apart (processor.find_apart text) inFinds inFindsToo overlap

/-- Only units can fail to bind. -/
theorem isDelimited_of_unbound (member : found ∈ processor.find text) {fault : BindingFault}
    (unbound : processor.bind found = .error fault) : processor.isDelimited = true := by
  cases matcher : processor.matcher with
  | calls name => simp [Processor.isDelimited, matcher, Matcher.isDelimited]
  | everyUnit => simp [Processor.isDelimited, matcher, Matcher.isDelimited]
  | raw pattern =>
      simp only [Processor.find, matcher, Matcher.find, List.mem_map] at member
      obtain ⟨one, -, rfl⟩ := member
      simp [Processor.bind] at unbound

end Processor

end CallMarkup
