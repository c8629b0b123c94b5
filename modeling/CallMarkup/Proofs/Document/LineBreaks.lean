import CallMarkup.Proofs.Call.Items
import CallMarkup.Proofs.Document.Delimiters
import CallMarkup.Proofs.Document.Resolution

/-!
# Line breaks inside units

A line break of its own ends every open unit of a single-line grammar.  An
escape character takes the character after it along, whatever this is, so a line
break after one is no segment of its own and ends nothing.
`newline_mem_inner_iff` says that no other line break gets into a unit.
-/

namespace CallMarkup.Grammar

variable {grammar : Grammar}

/-! ## What stands between the delimiters -/

/-- The inner text of a unit is read alone as it is read in the unit, and a unit
continues past all of it. -/
theorem segments_inner_of_mem_units {text : Text} {unit : CallUnit}
    (member : unit ∈ grammar.units text) :
    ∃ before after,
      grammar.segments text =
        before ++ .opening :: (grammar.segments unit.inner ++ .closing :: after) ∧
      grammar.ContinuesPast (grammar.segments unit.inner) := by
  obtain ⟨before, body, after, read, continues, rfl⟩ := mem_unitsFrom_iff.mp member
  have following : grammar.segments text = (before ++ [.opening]) ++ (body ++ .closing :: after) :=
    by simpa using read
  have inside := (segments_joined_of_append following).2
  have alone : grammar.segments (grammar.joined body) = body :=
    (segments_joined_of_append inside).1
  refine ⟨before, after, ?_, ?_⟩
  · rw [read]
    simp [unitAround, alone]
  · simpa [unitAround, alone] using continues

theorem not_endsInEscape_inner {text : Text} {unit : CallUnit}
    (member : unit ∈ grammar.units text) : ¬ grammar.EndsInEscape unit.inner := by
  obtain ⟨before, after, read, -⟩ := segments_inner_of_mem_units member
  have upToClosing : grammar.segments text =
      (before ++ .opening :: grammar.segments unit.inner) ++ .closing :: after := by
    simpa using read
  intro dangling
  exact dangling_not_mem_before upToClosing (by simp [show _ ∈ _ from dangling])

/-- Past a text without dangling escape a unit continues only if its unescaped
characters let it. -/
theorem madeOf_of_continuesPast {text : Text}
    (continues : grammar.ContinuesPast (grammar.segments text))
    (complete : ¬ grammar.EndsInEscape text) :
    grammar.MadeOf (fun c => grammar.multiline = false → c ≠ '\n') text := by
  unfold EndsInEscape at complete
  fun_induction segments grammar text with
  | case1 => exact .nil
  | case2 => simp at complete
  | case3 next rest ih =>
      exact .pair next
        (ih (continuesPast_cons.mp continues).2 fun member => complete (by simp [member]))
  | case4 c rest notEscape opens ih =>
      exact absurd List.mem_cons_self continues.opening_not_mem
  | case5 c rest notEscape notOpens closes ih =>
      have passed := (continuesPast_cons.mp continues).1
      simp [Grammar.continues, Segment.isDelimiter] at passed
  | case6 c rest notEscape notOpens notCloses ih =>
      obtain ⟨passed, continues⟩ := continuesPast_cons.mp continues
      refine .single notEscape ?_ (ih continues fun member => complete (by simp [member]))
      rintro single rfl
      simp [Grammar.continues, Segment.endsLine, single] at passed

/-! ## Escaped line breaks -/

/-- A unit of a single-line grammar holds line breaks only as the second
characters of escape pairs: each comes after an odd run of escape characters. -/
theorem newline_mem_inner_iff (single : grammar.multiline = false) {text : Text} {unit : CallUnit}
    (member : unit ∈ grammar.units text) :
    ('\n' ∈ unit.inner ↔ .escaped (some '\n') ∈ grammar.segments unit.inner) ∧
      ∀ before after, unit.inner = before ++ '\n' :: after →
        grammar.trailingEscapes before % 2 = 1 := by
  obtain ⟨-, -, -, continues⟩ := segments_inner_of_mem_units member
  have notEscape : '\n' ≠ grammar.escape := (grammar.symbol_ne_newline .escape).symm
  refine ⟨⟨fun inside => ?_, fun escaped => ?_⟩, fun before after cut => ?_⟩
  · obtain ⟨segment, read, holds⟩ := grammar.mem_iff_mem_segments.mp inside
    have passed := continues segment read
    cases segment with
    | escaped next =>
        have partner : next = some '\n' := by simpa [Segment.text, notEscape, eq_comm] using holds
        rwa [partner] at read
    | opening => simp [Grammar.continues, Segment.isDelimiter] at passed
    | closing => simp [Grammar.continues, Segment.isDelimiter] at passed
    | plain c =>
        obtain rfl : '\n' = c := by simpa [Segment.text] using holds
        simp [Grammar.continues, Segment.endsLine, single] at passed
  · exact grammar.mem_iff_mem_segments.mpr ⟨_, escaped, by simp [Segment.text]⟩
  · have made := madeOf_of_continuesPast continues (not_endsInEscape_inner member)
    exact (made.mono fun c ends => ends single).trailingEscapes_before notEscape cut

private theorem units_escaped_newline :
    Grammar.default.units "\x7b\x7ba\\\nb\x7d\x7d".toList =
      [⟨⟨0, 8⟩, "a\\\nb".toList⟩] := by
  cbv

/-- The unit begins on one line and ends on the next. -/
theorem newline_mem_inner_escaped :
    Grammar.default.multiline = false ∧
      ⟨⟨0, 8⟩, "a\\\nb".toList⟩ ∈ Grammar.default.units "\x7b\x7ba\\\nb\x7d\x7d".toList ∧
      .escaped (some '\n') ∈ Grammar.default.segments "a\\\nb".toList ∧
      Grammar.default.trailingEscapes "a\\".toList % 2 = 1 := by
  have found : ⟨⟨0, 8⟩, "a\\\nb".toList⟩ ∈
      Grammar.default.units "\x7b\x7ba\\\nb\x7d\x7d".toList := by
    rw [units_escaped_newline]
    exact List.mem_cons_self
  have escapes := newline_mem_inner_iff rfl found
  exact ⟨rfl, found, escapes.1.mp (by simp), escapes.2 "a\\".toList ['b'] rfl⟩

/-- A unit of a single-line grammar need not stand on one line. -/
theorem newline_not_always_outside :
    ¬ ∀ (grammar : Grammar) (text : Text), grammar.multiline = false →
      ∀ unit ∈ grammar.units text, '\n' ∉ unit.inner := by
  intro outside
  have free := outside Grammar.default _ rfl _ (units_escaped_newline ▸ List.mem_cons_self)
  simp at free

end CallMarkup.Grammar
