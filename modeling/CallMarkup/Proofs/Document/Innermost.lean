import CallMarkup.Proofs.Document.Delimiters
import CallMarkup.Proofs.Document.LineBreaks

/-!
# Innermost units

`Segmented` says what the segments of a text are, without an order in which a
reader looks for them.  No two kinds of segment begin at the same place, so a
text has exactly one segmentation.  `units_exact` says that the units of a text
are exactly the places between an active opening delimiter and the next active
delimiter, if this closes, and that nothing inside a unit is active.
-/

namespace CallMarkup.Grammar

variable {grammar : Grammar} {text : Text} {segments : List Segment}

/-! ## Reading a text -/

/-- A text is a row of segments.  A single character stands where no other
segment begins. -/
inductive Segmented (grammar : Grammar) : Text → List Segment → Prop
  | nil : Segmented grammar [] []
  | dangling : Segmented grammar [grammar.escape] [.escaped none]
  | pair (next : Char) {rest : Text} {segments : List Segment}
      (later : Segmented grammar rest segments) :
      Segmented grammar (grammar.escape :: next :: rest) (.escaped (some next) :: segments)
  | opening {rest : Text} {segments : List Segment} (later : Segmented grammar rest segments) :
      Segmented grammar (grammar.leadIn ++ rest) (.opening :: segments)
  | closing {rest : Text} {segments : List Segment} (later : Segmented grammar rest segments) :
      Segmented grammar (grammar.leadOut ++ rest) (.closing :: segments)
  | single {c : Char} {rest : Text} {segments : List Segment} (notEscape : c ≠ grammar.escape)
      (notOpens : ¬ grammar.leadIn <+: c :: rest) (notCloses : ¬ grammar.leadOut <+: c :: rest)
      (later : Segmented grammar rest segments) :
      Segmented grammar (c :: rest) (.plain c :: segments)

theorem segmented_segments (grammar : Grammar) (text : Text) :
    grammar.Segmented text (grammar.segments text) := by
  fun_induction segments grammar text with
  | case1 => exact .nil
  | case2 => exact .dangling
  | case3 next rest ih => exact .pair next ih
  | case4 c rest notEscape opens ih =>
      have read := Segmented.opening ih
      rwa [List.prefix_iff_eq_append.mp opens] at read
  | case5 c rest notEscape notOpens closes ih =>
      have read := Segmented.closing ih
      rwa [List.prefix_iff_eq_append.mp closes] at read
  | case6 c rest notEscape notOpens notCloses ih =>
      exact .single notEscape notOpens notCloses ih

/-- A text can be read in one way only. -/
theorem Segmented.eq_segments (segmented : grammar.Segmented text segments) :
    segments = grammar.segments text := by
  induction segmented with
  | nil => rw [segments_nil]
  | dangling => rw [segments_escape]
  | pair next _ ih => rw [segments_pair, ← ih]
  | opening _ ih => rw [segments_leadIn, ← ih]
  | closing _ ih => rw [segments_leadOut, ← ih]
  | single notEscape notOpens notCloses _ ih =>
      rw [segments_plain notEscape notOpens notCloses, ← ih]

/-! ## Delimiters around a unit -/

/-- A span reaches from an opening delimiter to the next delimiter, which closes.
Unless units may span several lines, no line break lies between. -/
def Encloses (grammar : Grammar) (placed : List PlacedSegment) (span : Span) : Prop :=
  ∃ before between after start last,
    placed = before ++ ⟨start, .opening⟩ :: (between ++ ⟨last, .closing⟩ :: after) ∧
    (∀ inside ∈ between, inside.segment.isDelimiter = false) ∧
    (grammar.multiline = false → ∀ inside ∈ between, inside.segment ≠ .plain '\n') ∧
    span = ⟨start, last + byteLength grammar.leadOut⟩

theorem continues_iff {segment : Segment} :
    grammar.continues segment = true ↔
      segment.isDelimiter = false ∧ (grammar.multiline = false → segment ≠ .plain '\n') := by
  cases lines : grammar.multiline <;> simp [continues, Segment.endsLine, lines]

theorem continuesPast_iff_placedFrom (offset : Nat) (body : List Segment) :
    grammar.ContinuesPast body ↔
      (∀ inside ∈ grammar.placedFrom offset body, inside.segment.isDelimiter = false) ∧
      (grammar.multiline = false →
        ∀ inside ∈ grammar.placedFrom offset body, inside.segment ≠ .plain '\n') := by
  have read := grammar.map_segment_placedFrom offset body
  have each (property : Segment → Prop) : (∀ segment ∈ body, property segment) ↔
      ∀ inside ∈ grammar.placedFrom offset body, property inside.segment := by
    conv_lhs => rw [← read]
    exact List.forall_mem_map
  unfold ContinuesPast
  simp only [continues_iff, each]
  exact ⟨fun both => ⟨fun inside member => (both inside member).1,
      fun single inside member => (both inside member).2 single⟩,
    fun both inside member => ⟨both.1 inside member, fun single => both.2 single inside member⟩⟩

/-- Between the delimiters of a unit are exactly the segments past which it
continues. -/
theorem mem_map_span_unitsFrom_iff {offset : Nat} {span : Span} :
    span ∈ (grammar.unitsFrom offset segments).map (·.span) ↔
      grammar.Encloses (grammar.placedFrom offset segments) span := by
  rw [List.mem_map]
  constructor
  · rintro ⟨unit, member, rfl⟩
    obtain ⟨before, body, after, rfl, continues, rfl⟩ := mem_unitsFrom_iff.mp member
    obtain ⟨noDelimiter, noBreak⟩ := (continuesPast_iff_placedFrom _ _).mp continues
    have placed := grammar.placedFrom_append_cons offset before (body ++ .closing :: after) .opening
    rw [placedFrom_append_cons _ body] at placed
    refine ⟨_, _, _, _, _, placed, noDelimiter, noBreak, ?_⟩
    simp [unitAround, Segment.byteLength, Segment.text, Nat.add_assoc]
  · rintro ⟨earlier, between, later, start, last, placed, noDelimiter, noBreak, rfl⟩
    obtain ⟨before, rest, rfl, -, rfl, placedRest⟩ := exists_of_placedFrom_eq placed
    obtain ⟨body, after, rfl, rfl, rfl, -⟩ := exists_of_placedFrom_eq placedRest.symm
    have continues : grammar.ContinuesPast body :=
      (continuesPast_iff_placedFrom _ _).mpr ⟨noDelimiter, noBreak⟩
    refine ⟨_, mem_unitsFrom_iff.mpr ⟨before, body, after, rfl, continues, rfl⟩, ?_⟩
    simp [unitAround, Segment.byteLength, Segment.text, Nat.add_assoc]

/-! ## Units -/

theorem units_ascending (grammar : Grammar) (text : Text) :
    (grammar.units text).Pairwise fun first second =>
      first.span.start < second.span.start ∧ first.span.stop ≤ second.span.start := by
  refine (grammar.unitsFrom_ascending 0 (grammar.segments text)).imp_of_mem ?_
  intro first second member _ ends
  exact ⟨Nat.lt_of_lt_of_le (start_lt_stop_of_mem_units member) ends, ends⟩

theorem slice_of_mem_units {unit : CallUnit} (member : unit ∈ grammar.units text) :
    unit.span.slice text = grammar.leadIn ++ unit.inner ++ grammar.leadOut := by
  obtain ⟨before, after, rfl, covers⟩ := cut_of_mem_units member
  rw [covers]
  exact Span.slice_append _ _ _

/-- Nothing inside a unit is active, and no escape character before its closing
delimiter is without partner. -/
theorem inactive_of_mem_units {unit : CallUnit} (member : unit ∈ grammar.units text)
    {segment : Segment} (inside : segment ∈ grammar.segments unit.inner) :
    segment.isDelimiter = false ∧ segment ≠ .escaped none := by
  obtain ⟨-, -, -, continues⟩ := segments_inner_of_mem_units member
  refine ⟨(continues_iff.mp (continues segment inside)).1, ?_⟩
  rintro rfl
  exact not_endsInEscape_inner member inside

/-- A text falls into segments in one way, and its units are exactly the places
between an active opening delimiter and the next active delimiter, if this closes.
They come from left to right without overlap, stand where their spans say, and
hold neither active delimiters nor a dangling escape. -/
theorem units_exact (grammar : Grammar) (text : Text) :
    ∃ segments, grammar.Segmented text segments ∧
      (∀ others, grammar.Segmented text others → others = segments) ∧
      (∀ span, span ∈ (grammar.units text).map (·.span) ↔
        grammar.Encloses (grammar.placedFrom 0 segments) span) ∧
      (grammar.units text).Pairwise (fun first second =>
        first.span.start < second.span.start ∧ first.span.stop ≤ second.span.start) ∧
      ∀ unit ∈ grammar.units text,
        unit.span.FitsIn text ∧
        unit.span.slice text = grammar.leadIn ++ unit.inner ++ grammar.leadOut ∧
        ∃ inside, grammar.Segmented unit.inner inside ∧
          ∀ segment ∈ inside, segment.isDelimiter = false ∧ segment ≠ .escaped none := by
  refine ⟨grammar.segments text, grammar.segmented_segments text,
    fun others => Segmented.eq_segments, fun span => mem_map_span_unitsFrom_iff,
    grammar.units_ascending text, fun unit member => ?_⟩
  exact ⟨fitsIn_of_mem_units member, slice_of_mem_units member, _,
    grammar.segmented_segments unit.inner, fun segment => inactive_of_mem_units member⟩

end CallMarkup.Grammar
