import CallMarkup.Proofs.Regex.Restart
import CallMarkup.Proofs.Span.Splice

/-!
# The matches of a program lie in the text

A search moves forward only, so a match begins and ends at positions of the
text and the next one does not begin before its end.  An empty match is found again
from its own position and passed over, so no other match begins there.
-/

namespace CallMarkup

namespace Cursor

/-- A cursor stands in a text when what follows it is the end of the text. -/
def StandsIn (text : Text) (cursor : Cursor) : Prop :=
  ∃ before, text = before ++ cursor.rest ∧ cursor.offset = byteLength before

theorem atStart_standsIn (text : Text) : (atStart text).StandsIn text :=
  ⟨[], rfl, rfl⟩

theorem advance_offset (cursor : Cursor) (count : Nat) :
    (cursor.advance count).offset = cursor.offset + byteLength (cursor.rest.take count) := by
  induction count generalizing cursor with
  | zero => rfl
  | succ count ih =>
      rcases cursor with ⟨offset, previous, rest⟩
      cases rest with
      | nil => simp [advance, ih, next]
      | cons c rest => simp [advance, ih, next, Nat.add_assoc]

theorem StandsIn.advance {text : Text} {cursor : Cursor} (stands : cursor.StandsIn text)
    (count : Nat) : (cursor.advance count).StandsIn text := by
  obtain ⟨before, whole, offset⟩ := stands
  refine ⟨before ++ cursor.rest.take count, ?_, ?_⟩
  · rw [advance_rest, List.append_assoc, List.take_append_drop]
    exact whole
  · rw [advance_offset, byteLength_append, offset]

theorem StandsIn.next {text : Text} {cursor : Cursor} (stands : cursor.StandsIn text) :
    cursor.next.StandsIn text :=
  stands.advance 1

theorem offset_lt_next {cursor : Cursor} (notAtEnd : cursor.rest ≠ []) :
    cursor.offset < cursor.next.offset := by
  rcases cursor with ⟨offset, previous, rest⟩
  cases rest with
  | nil => exact absurd rfl notAtEnd
  | cons c rest => simpa [next] using c.utf8Size_pos

/-- Short of the end of the text, every character is a step ahead. -/
theorem eq_zero_of_advance (cursor : Cursor) {count : Nat}
    (stays : (cursor.advance count).offset = cursor.offset)
    (notAtEnd : (cursor.advance count).rest ≠ []) : count = 0 := by
  rw [advance_rest] at notAtEnd
  rw [advance_offset] at stays
  have nothing : cursor.rest.take count = [] := eq_nil_of_byteLength_eq_zero (by omega)
  rcases List.take_eq_nil_iff.mp nothing with none | atEnd
  · exact none
  · simp [atEnd] at notAtEnd

/-- The text between two positions. -/
theorem StandsIn.fitsIn {text : Text} {cursor : Cursor} (stands : cursor.StandsIn text)
    (count : Nat) :
    Span.FitsIn text ⟨cursor.offset, (cursor.advance count).offset⟩ := by
  obtain ⟨before, whole, offset⟩ := stands
  refine ⟨before, cursor.rest.take count, cursor.rest.drop count, ?_, ?_⟩
  · rw [List.take_append_drop]
    exact whole
  · rw [advance_offset, offset]

end Cursor

namespace Hit

theorem span_fitsIn {text : Text} {cursor : Cursor} (stands : cursor.StandsIn text) (hit : Hit) :
    (hit.matchAfter cursor).span.FitsIn text :=
  (stands.advance hit.skipped).fitsIn hit.length

theorem offset_le_start (hit : Hit) (cursor : Cursor) :
    cursor.offset ≤ (hit.matchAfter cursor).span.start :=
  cursor.offset_le_advance hit.skipped

theorem stop_eq (hit : Hit) (cursor : Cursor) :
    (hit.matchAfter cursor).span.stop =
      (cursor.advance (hit.skipped + hit.length)).offset := by
  simp [RegexMatch.span, matchAfter, Cursor.advance_offset, Cursor.advance_rest, List.take_add,
    Nat.add_assoc]

end Hit

/-- Matches that lie in a text from an offset on, each one ending before the
next begins. -/
structure MatchesAfter (text : Text) (offset : Nat) (found : List RegexMatch) : Prop where
  fits : ∀ one ∈ found, one.span.FitsIn text
  ahead : ∀ one ∈ found, offset ≤ one.span.start
  ascending : found.Pairwise fun first second => first.span.stop ≤ second.span.start

namespace MatchesAfter

variable {text : Text} {offset : Nat} {found : List RegexMatch}

theorem nil (text : Text) (offset : Nat) : MatchesAfter text offset [] :=
  ⟨by simp, by simp, .nil⟩

theorem cons {one : RegexMatch} (fits : one.span.FitsIn text) (ahead : offset ≤ one.span.start)
    (later : MatchesAfter text one.span.stop found) : MatchesAfter text offset (one :: found) where
  fits := by
    intro other member
    rcases List.mem_cons.mp member with rfl | inFound
    · exact fits
    · exact later.fits other inFound
  ahead := by
    intro other member
    rcases List.mem_cons.mp member with rfl | inFound
    · exact ahead
    · have follows := later.ahead other inFound
      have ordered := fits.start_le_stop
      omega
  ascending := List.pairwise_cons.mpr ⟨later.ahead, later.ascending⟩

theorem mono {earlier : Nat} (less : earlier ≤ offset) (later : MatchesAfter text offset found) :
    MatchesAfter text earlier found :=
  { later with ahead := fun one member => Nat.le_trans less (later.ahead one member) }

end MatchesAfter

namespace Program

/-- What a search adds to the matches found before it lies ahead of its
cursor. -/
theorem matchesFrom_toList (program : Program) {text : Text} (blocked : Bool)
    (found : Array RegexMatch) {cursor : Cursor} (stands : cursor.StandsIn text) :
    ∃ more, (program.matchesFrom blocked found cursor).toList = found.toList ++ more ∧
      MatchesAfter text cursor.offset more := by
  fun_induction matchesFrom program blocked found cursor with
  | case1 blocked found cursor none => exact ⟨[], by simp, .nil text _⟩
  | case2 found cursor hit searched atEnd => exact ⟨[], by simp, .nil text _⟩
  | case3 blocked found cursor hit searched hitAt atEnd free =>
      exact ⟨[hitAt], by simp,
        .cons (hit.span_fitsIn stands) (hit.offset_le_start cursor) (.nil text _)⟩
  | case4 blocked found cursor hit searched hitAt notAtEnd empty ih =>
      obtain ⟨more, listed, later⟩ := ih stands.next
      have onward := cursor.offset_le_next
      -- Right after a match an empty one is dropped; the search goes on either way.
      cases blocked with
      | true => exact ⟨more, listed, later.mono onward⟩
      | false =>
          refine ⟨hitAt :: more, by simpa using listed, ?_⟩
          refine .cons (hit.span_fitsIn stands) (hit.offset_le_start cursor) (later.mono ?_)
          rw [hit.stop_eq cursor, empty]
          exact onward
  | case5 blocked found cursor hit searched hitAt notAtEnd notEmpty ih =>
      obtain ⟨more, listed, later⟩ := ih (stands.advance _)
      refine ⟨hitAt :: more, by simpa using listed, ?_⟩
      refine .cons (hit.span_fitsIn stands) (hit.offset_le_start cursor) ?_
      rw [hit.stop_eq cursor]
      exact later

/-- The matches in a text come from left to right, and each one ends before the
next begins. -/
theorem findAll_matchesAfter (program : Program) (text : Text) :
    MatchesAfter text 0 (program.findAll text) := by
  obtain ⟨more, listed, later⟩ :=
    program.matchesFrom_toList false #[] (Cursor.atStart_standsIn text)
  simp only [List.nil_append] at listed
  unfold findAll
  rw [listed]
  exact later

theorem matchesFrom_of_end (program : Program) (found : Array RegexMatch) {cursor : Cursor}
    (atEnd : cursor.rest = []) : program.matchesFrom true found cursor = found := by
  rw [matchesFrom.eq_def]
  split
  · rfl
  · rw [dif_pos atEnd, if_pos rfl]

theorem matchesFrom_of_blocked {program : Program} (found : Array RegexMatch) {cursor : Cursor}
    {hit : Hit} (notAtEnd : cursor.rest ≠ []) (searched : program.search? cursor = some hit)
    (empty : hit.skipped + hit.length = 0) :
    program.matchesFrom true found cursor = program.matchesFrom false found cursor.next := by
  rw [matchesFrom.eq_def]
  simp only [searched, dif_neg notAtEnd, dif_pos empty, if_true]

theorem matchesAfter_of_listed {program : Program} {text : Text} {blocked : Bool}
    {found : Array RegexMatch} {cursor : Cursor} {more : List RegexMatch}
    (stands : cursor.StandsIn text)
    (listed : (program.matchesFrom blocked found cursor).toList = found.toList ++ more) :
    MatchesAfter text cursor.offset more := by
  obtain ⟨others, same, later⟩ := program.matchesFrom_toList blocked found stands
  rwa [List.append_cancel_left (listed.symm.trans same)]

/-- After a match the next one begins later, also when the match is empty. -/
theorem start_lt_of_matchesFrom {program : Program} {text : Text} {cursor : Cursor} {hit : Hit}
    (stands : cursor.StandsIn text) (searched : program.search? cursor = some hit)
    {found : Array RegexMatch} {more : List RegexMatch}
    (listed : (program.matchesFrom true found
      (cursor.advance (hit.skipped + hit.length))).toList = found.toList ++ more) :
    ∀ one ∈ more, (hit.matchAfter cursor).span.start < one.span.start := by
  intro one member
  have ordered := (hit.span_fitsIn stands).start_le_stop
  have stop := hit.stop_eq cursor
  have ahead := (matchesAfter_of_listed (stands.advance _) listed).ahead one member
  rcases Nat.lt_or_eq_of_le ordered with proper | empty
  · omega
  by_cases atEnd : (cursor.advance (hit.skipped + hit.length)).rest = []
  · rw [program.matchesFrom_of_end found atEnd] at listed
    rw [List.self_eq_append_right.mp listed] at member
    cases member
  · have noLength : hit.length = 0 :=
      Cursor.eq_zero_of_advance (cursor.advance hit.skipped) empty.symm
        (by rwa [Cursor.advance_rest, Cursor.advance_rest, List.drop_drop, ← Cursor.advance_rest])
    rw [noLength, Nat.add_zero] at listed atEnd stop
    have again := search?_restart searched
    rw [matchesFrom_of_blocked found atEnd again (by simp [noLength])] at listed
    have onward := Cursor.offset_lt_next atEnd
    have beyond := (matchesAfter_of_listed (stands.advance _).next listed).ahead one member
    omega

/-- No two matches in a text begin at the same position. -/
theorem matchesFrom_starts (program : Program) {text : Text} (blocked : Bool)
    (found : Array RegexMatch) {cursor : Cursor} (stands : cursor.StandsIn text) :
    ∃ more, (program.matchesFrom blocked found cursor).toList = found.toList ++ more ∧
      more.Pairwise fun first second => first.span.start < second.span.start := by
  fun_induction matchesFrom program blocked found cursor with
  | case1 blocked found cursor none => exact ⟨[], by simp, .nil⟩
  | case2 found cursor hit searched atEnd => exact ⟨[], by simp, .nil⟩
  | case3 blocked found cursor hit searched hitAt atEnd free =>
      exact ⟨[hitAt], by simp, List.pairwise_singleton _ _⟩
  | case4 blocked found cursor hit searched hitAt notAtEnd empty ih =>
      obtain ⟨more, listed, ascending⟩ := ih stands.next
      cases blocked with
      | true => exact ⟨more, listed, ascending⟩
      | false =>
          refine ⟨hitAt :: more, by simpa using listed, List.pairwise_cons.mpr ⟨?_, ascending⟩⟩
          intro one member
          have ahead := (matchesAfter_of_listed stands.next listed).ahead one member
          have onward := Cursor.offset_lt_next notAtEnd
          have here : hitAt.span.start = cursor.offset := by
            have noSkip : hit.skipped = 0 := by omega
            simp [hitAt, RegexMatch.span, Hit.matchAfter, noSkip, Cursor.advance]
          omega
  | case5 blocked found cursor hit searched hitAt notAtEnd notEmpty ih =>
      obtain ⟨more, listed, ascending⟩ := ih (stands.advance _)
      exact ⟨hitAt :: more, by simpa using listed,
        List.pairwise_cons.mpr ⟨start_lt_of_matchesFrom stands searched listed, ascending⟩⟩

theorem findAll_starts (program : Program) (text : Text) :
    (program.findAll text).Pairwise fun first second => first.span.start < second.span.start := by
  obtain ⟨more, listed, ascending⟩ :=
    program.matchesFrom_starts false #[] (Cursor.atStart_standsIn text)
  rw [List.nil_append] at listed
  rw [findAll, listed]
  exact ascending

end Program

end CallMarkup
