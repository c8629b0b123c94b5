import CallMarkup.Document.Balance
import CallMarkup.Proofs.Document.Units

/-!
# Balanced texts without units

The innermost of some balanced delimiters stand around a unit.  So a balanced
text has an active delimiter only if it has a unit.  An imbalance is always one of
the active delimiters, and tells where this stands.
-/

namespace CallMarkup

namespace Segment

variable {segment : Segment}

theorem isDelimiter_iff : segment.isDelimiter = true ↔ segment = .opening ∨ segment = .closing := by
  cases segment <;> simp [isDelimiter]

theorem ne_of_isDelimiter_eq_false (noDelimiter : segment.isDelimiter = false) :
    segment ≠ .opening ∧ segment ≠ .closing := by
  constructor
  · rintro rfl
    exact Bool.noConfusion noDelimiter
  · rintro rfl
    exact Bool.noConfusion noDelimiter

end Segment

namespace Grammar

variable {grammar : Grammar}

/-- Past a segment that is no delimiter the search goes on, unless it is a line break
that leaves something open. -/
theorem imbalanceFrom?_cons {segment : Segment} (noDelimiter : segment.isDelimiter = false)
    (offset : Nat) (opened : List Nat) (following : List Segment) :
    grammar.imbalanceFrom? offset opened (segment :: following) =
      if segment.endsLine grammar && !opened.isEmpty then grammar.outermostOpen? opened
      else grammar.imbalanceFrom? (offset + segment.byteLength grammar) opened following := by
  cases segment with
  | opening => exact Bool.noConfusion noDelimiter
  | closing => exact Bool.noConfusion noDelimiter
  | escaped next => rfl
  | plain c => rfl

theorem outermostOpen?_eq_none_iff {opened : List Nat} :
    grammar.outermostOpen? opened = none ↔ opened = [] := by
  simp [outermostOpen?]

/-- When delimiters that are open get closed, the latest of them begins a unit,
or one that is opened after it does. -/
theorem exists_unit_of_open {opened : List Nat} (notEmpty : opened ≠ []) {offset : Nat}
    {segments : List Segment}
    (balanced : grammar.imbalanceFrom? offset opened segments = none) :
    ∃ before body after,
      .opening :: segments = before ++ .opening :: (body ++ .closing :: after) ∧
        grammar.ContinuesPast body := by
  induction segments generalizing offset opened with
  | nil => exact absurd (outermostOpen?_eq_none_iff.mp balanced) notEmpty
  | cons segment following ih =>
      cases delimiter : segment.isDelimiter with
      | true =>
          rcases Segment.isDelimiter_iff.mp delimiter with rfl | rfl
          · obtain ⟨before, body, after, cut, continues⟩ := ih (by simp) balanced
            exact ⟨.opening :: before, body, after, by rw [cut]; rfl, continues⟩
          · exact ⟨[], [], following, rfl, by simp [ContinuesPast]⟩
      | false =>
          rw [imbalanceFrom?_cons delimiter] at balanced
          have staysOnLine : segment.endsLine grammar = false := by
            by_contra ends
            rw [if_pos (by simpa [notEmpty] using ends)] at balanced
            exact notEmpty (outermostOpen?_eq_none_iff.mp balanced)
          have here : grammar.continues segment = true := by
            simp [continues, delimiter, staysOnLine]
          rw [staysOnLine, Bool.false_and, if_neg Bool.false_ne_true] at balanced
          obtain ⟨before, body, after, cut, continues⟩ := ih notEmpty balanced
          -- The unit may begin at this delimiter, and then the segment belongs to it.
          cases before with
          | nil =>
              simp only [List.nil_append, List.cons.injEq, true_and] at cut
              refine ⟨[], segment :: body, after, by rw [cut]; rfl, ?_⟩
              exact List.forall_mem_cons.mpr ⟨here, continues⟩
          | cons first before =>
              simp only [List.cons_append, List.cons.injEq] at cut
              obtain ⟨rfl, cut⟩ := cut
              exact ⟨.opening :: segment :: before, body, after, by rw [cut]; rfl, continues⟩

theorem not_isDelimiter_of_balanced {offset : Nat} {segments : List Segment}
    (balanced : grammar.imbalanceFrom? offset [] segments = none)
    (noUnits : grammar.unitsFrom offset segments = []) :
    ∀ segment ∈ segments, segment.isDelimiter = false := by
  induction segments generalizing offset with
  | nil => simp
  | cons segment following ih =>
      cases delimiter : segment.isDelimiter with
      | true =>
          rcases Segment.isDelimiter_iff.mp delimiter with rfl | rfl
          · obtain ⟨before, body, after, cut, continues⟩ :=
              exists_unit_of_open (List.cons_ne_nil offset []) balanced
            have unit : grammar.unitAround (offset + byteLength (grammar.joined before)) body ∈
                grammar.unitsFrom offset (.opening :: following) :=
              mem_unitsFrom_iff.mpr ⟨before, body, after, cut, continues, rfl⟩
            simp [noUnits] at unit
          · simp [imbalanceFrom?] at balanced
      | false =>
          rw [unitsFrom_cons_of_ne (Segment.ne_of_isDelimiter_eq_false delimiter).1] at noUnits
          rw [imbalanceFrom?_cons delimiter, if_neg (by simp)] at balanced
          exact List.forall_mem_cons.mpr ⟨delimiter, ih balanced noUnits⟩

/-- A balanced text has no active delimiter exactly if it has no unit. -/
theorem units_eq_nil_iff_of_balanced {text : Text}
    (balanced : grammar.findImbalance? text = none) :
    grammar.units text = [] ↔ ∀ segment ∈ grammar.segments text, segment.isDelimiter = false := by
  constructor
  · exact not_isDelimiter_of_balanced balanced
  · intro plain
    apply List.eq_nil_iff_forall_not_mem.mpr
    intro unit member
    obtain ⟨before, body, after, cut, -, -⟩ := mem_unitsFrom_iff.mp member
    have opens := plain .opening (by rw [cut]; simp)
    simp [Segment.isDelimiter] at opens

/-! ## Where an imbalance is -/

/-- A span is that of a segment among others. -/
def Covers (grammar : Grammar) (segments : List Segment) (segment : Segment) (span : Span) :
    Prop :=
  ∃ before after, segments = before ++ segment :: after ∧
    span = ⟨byteLength (grammar.joined before),
      byteLength (grammar.joined before) + segment.byteLength grammar⟩

theorem Covers.fitsIn {text : Text} {segment : Segment} {span : Span}
    (covers : grammar.Covers (grammar.segments text) segment span) : span.FitsIn text := by
  obtain ⟨before, after, segmented, rfl⟩ := covers
  refine ⟨grammar.joined before, segment.text grammar, grammar.joined after, ?_, rfl⟩
  rw [← grammar.joined_segments text, segmented]
  simp

/-- An imbalance tells the place of a delimiter of its kind. -/
def Locates (grammar : Grammar) (segments : List Segment) : Imbalance → Prop
  | .unclosed span => grammar.Covers segments .opening span
  | .unopened span => grammar.Covers segments .closing span

/-- The delimiters open after some segments are among these. -/
def Opened (grammar : Grammar) (passed : List Segment) (opened : List Nat) : Prop :=
  ∀ start ∈ opened, ∃ before after, passed = before ++ .opening :: after ∧
    start = byteLength (grammar.joined before)

theorem Opened.passing {passed : List Segment} {opened : List Nat}
    (isOpen : grammar.Opened passed opened) (segment : Segment) :
    grammar.Opened (passed ++ [segment]) opened := by
  intro start member
  obtain ⟨before, after, rfl, place⟩ := isOpen start member
  exact ⟨before, after ++ [segment], by simp, place⟩

theorem locates_outermostOpen? {passed : List Segment} {opened : List Nat} {imbalance : Imbalance}
    (isOpen : grammar.Opened passed opened) (following : List Segment)
    (found : grammar.outermostOpen? opened = some imbalance) :
    grammar.Locates (passed ++ following) imbalance := by
  obtain ⟨start, last, rfl⟩ := Option.map_eq_some_iff.mp found
  obtain ⟨before, after, rfl, rfl⟩ := isOpen start (List.mem_of_getLast? last)
  exact ⟨before, after ++ following, by simp, rfl⟩

/-- The scan has passed over some segments and remembers which openings among
them are still open. -/
theorem locates_imbalanceFrom? {passed following : List Segment} {opened : List Nat}
    {imbalance : Imbalance} (isOpen : grammar.Opened passed opened)
    (found : grammar.imbalanceFrom? (byteLength (grammar.joined passed)) opened following =
      some imbalance) : grammar.Locates (passed ++ following) imbalance := by
  induction following generalizing passed opened with
  | nil => exact locates_outermostOpen? isOpen [] found
  | cons segment following ih =>
      have next : byteLength (grammar.joined passed) + segment.byteLength grammar =
          byteLength (grammar.joined (passed ++ [segment])) := by
        simp [Segment.byteLength]
      have goesOn {later : List Nat} (stillOpen : grammar.Opened (passed ++ [segment]) later)
          (foundLater : grammar.imbalanceFrom?
            (byteLength (grammar.joined passed) + segment.byteLength grammar) later following =
              some imbalance) :
          grammar.Locates (passed ++ segment :: following) imbalance := by
        rw [next] at foundLater
        simpa using ih stillOpen foundLater
      cases delimiter : segment.isDelimiter with
      | false =>
          rw [imbalanceFrom?_cons delimiter] at found
          split at found
          · exact locates_outermostOpen? isOpen _ found
          · exact goesOn (isOpen.passing _) found
      | true =>
          rcases Segment.isDelimiter_iff.mp delimiter with rfl | rfl
          · refine goesOn ?_ found
            intro start member
            rcases List.mem_cons.mp member with rfl | earlier
            · exact ⟨passed, [], rfl, rfl⟩
            · exact isOpen.passing .opening start earlier
          · cases opened with
            | nil =>
                obtain rfl := Option.some.inj found
                exact ⟨passed, following, rfl, rfl⟩
            | cons start opened =>
                exact goesOn (fun other member =>
                  isOpen.passing .closing other (List.mem_cons_of_mem _ member)) found

/-- The imbalance that is found in a text is one of its active delimiters. -/
theorem locates_findImbalance? {text : Text} {imbalance : Imbalance}
    (found : grammar.findImbalance? text = some imbalance) :
    grammar.Locates (grammar.segments text) imbalance := by
  have noneOpen : grammar.Opened [] [] := by simp [Opened]
  exact locates_imbalanceFrom? noneOpen found

theorem Locates.fitsIn {text : Text} {imbalance : Imbalance}
    (locates : grammar.Locates (grammar.segments text) imbalance) :
    imbalance.span.FitsIn text := by
  cases imbalance with
  | unclosed span => exact Covers.fitsIn locates
  | unopened span => exact Covers.fitsIn locates

end Grammar

end CallMarkup
