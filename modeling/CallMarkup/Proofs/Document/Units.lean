import CallMarkup.Document.CallUnit
import CallMarkup.Proofs.Document.Segments
import CallMarkup.Proofs.Span.Splice

/-!
# Units among segments

A unit is an opening delimiter, segments past which a unit may continue, and a
closing delimiter.  `mem_unitsFrom_iff` says that the units of a text are
exactly these runs of segments, and `unitsFrom_ascending` that they come from
left to right without overlap.
-/

namespace CallMarkup

namespace Grammar

variable {grammar : Grammar}

/-- The text that segments make up. -/
def joined (grammar : Grammar) (segments : List Segment) : Text :=
  segments.flatMap (·.text grammar)

@[simp]
theorem joined_nil (grammar : Grammar) : grammar.joined [] = [] :=
  rfl

@[simp]
theorem joined_cons (grammar : Grammar) (segment : Segment) (segments : List Segment) :
    grammar.joined (segment :: segments) = segment.text grammar ++ grammar.joined segments :=
  rfl

@[simp]
theorem joined_append (grammar : Grammar) (first second : List Segment) :
    grammar.joined (first ++ second) = grammar.joined first ++ grammar.joined second :=
  List.flatMap_append

@[simp]
theorem joined_segments (grammar : Grammar) (text : Text) :
    grammar.joined (grammar.segments text) = text :=
  grammar.flatMap_text_segments text

theorem mem_iff_mem_segments (grammar : Grammar) {text : Text} {c : Char} :
    c ∈ text ↔ ∃ segment ∈ grammar.segments text, c ∈ segment.text grammar := by
  have read : c ∈ grammar.joined (grammar.segments text) ↔
      ∃ segment ∈ grammar.segments text, c ∈ segment.text grammar := List.mem_flatMap
  rwa [joined_segments] at read

/-- The unit around some segments, whose opening delimiter starts at byte
`offset`. -/
def unitAround (grammar : Grammar) (offset : Nat) (body : List Segment) : CallUnit :=
  let inner := grammar.joined body
  ⟨⟨offset, offset + byteLength (grammar.leadIn ++ inner ++ grammar.leadOut)⟩, inner⟩

/-- Whether a unit may continue past all of some segments. -/
def ContinuesPast (grammar : Grammar) (body : List Segment) : Prop :=
  ∀ segment ∈ body, grammar.continues segment = true

@[simp]
theorem continuesPast_append {first second : List Segment} :
    grammar.ContinuesPast (first ++ second) ↔
      grammar.ContinuesPast first ∧ grammar.ContinuesPast second :=
  List.forall_mem_append

@[simp]
theorem continuesPast_cons {segment : Segment} {body : List Segment} :
    grammar.ContinuesPast (segment :: body) ↔
      grammar.continues segment = true ∧ grammar.ContinuesPast body :=
  List.forall_mem_cons

@[simp]
theorem continuesPast_nil (grammar : Grammar) : grammar.ContinuesPast [] := by
  simp [ContinuesPast]

theorem ContinuesPast.opening_not_mem {body : List Segment}
    (continues : grammar.ContinuesPast body) :
    Segment.opening ∉ body := by
  intro member
  simpa [Grammar.continues, Segment.isDelimiter] using continues _ member

/-- An opening delimiter is completed by the next delimiter, if this closes and
no line break stands before it that ends the unit. -/
theorem completedUnit?_eq_some_iff {offset : Nat} {following : List Segment} {unit : CallUnit} :
    grammar.completedUnit? offset following = some unit ↔
      ∃ body after, following = body ++ .closing :: after ∧ grammar.ContinuesPast body ∧
        unit = grammar.unitAround offset body := by
  constructor
  · intro completed
    unfold completedUnit? at completed
    simp only at completed
    split at completed
    next after closes =>
      refine ⟨following.takeWhile grammar.continues, after, ?_, ?_, ?_⟩
      · rw [← closes]
        exact (List.prefix_iff_eq_append.mp (List.takeWhile_prefix _)).symm
      · intro segment member
        exact List.all_eq_true.mp List.all_takeWhile segment member
      · simpa [unitAround, joined, Nat.add_assoc] using completed.symm
    next => simp at completed
  · rintro ⟨body, after, rfl, continues, rfl⟩
    have whole : (body ++ .closing :: after).takeWhile grammar.continues = body := by
      rw [List.takeWhile_append_of_pos continues]
      simp [Grammar.continues, Segment.isDelimiter]
    simp [completedUnit?, whole, unitAround, joined, Nat.add_assoc]

/-- An opening delimiter further on completes no earlier one. -/
theorem completedUnit?_append_opening (offset : Nat) (following later : List Segment) :
    grammar.completedUnit? offset (following ++ .opening :: later) =
      grammar.completedUnit? offset following := by
  apply Option.ext
  intro unit
  rw [completedUnit?_eq_some_iff, completedUnit?_eq_some_iff]
  constructor
  · rintro ⟨body, after, split, continues, made⟩
    rcases List.append_eq_append_iff.mp split with ⟨middle, rfl, rest⟩ | ⟨middle, rfl, rest⟩
    · cases middle with
      | nil => simp at rest
      | cons segment middle =>
          obtain ⟨rfl, -⟩ := List.cons.inj rest
          exact absurd (by simp) continues.opening_not_mem
    · cases middle with
      | nil => simp at rest
      | cons segment middle =>
          obtain ⟨rfl, -⟩ := List.cons.inj rest
          exact ⟨body, middle, rfl, continues, made⟩
  · rintro ⟨body, after, rfl, continues, made⟩
    exact ⟨body, after ++ .opening :: later, by simp, continues, made⟩

theorem unitsFrom_opening (offset : Nat) (following : List Segment) :
    grammar.unitsFrom offset (.opening :: following) =
      (grammar.completedUnit? offset following).toList ++
        grammar.unitsFrom (offset + byteLength grammar.leadIn) following := by
  simp [unitsFrom, Segment.byteLength, Segment.text]

theorem unitsFrom_cons_of_ne {segment : Segment} (notOpens : segment ≠ .opening) (offset : Nat)
    (following : List Segment) :
    grammar.unitsFrom offset (segment :: following) =
      grammar.unitsFrom (offset + byteLength (segment.text grammar)) following := by
  simp [unitsFrom, Segment.byteLength, notOpens]

/-- Without opening delimiters no unit begins. -/
theorem unitsFrom_append_of_not_mem {body : List Segment} (notOpens : Segment.opening ∉ body)
    (offset : Nat) (following : List Segment) :
    grammar.unitsFrom offset (body ++ following) =
      grammar.unitsFrom (offset + byteLength (grammar.joined body)) following := by
  induction body generalizing offset with
  | nil => simp
  | cons segment body ih =>
      simp only [List.mem_cons, not_or] at notOpens
      rw [List.cons_append, unitsFrom_cons_of_ne (Ne.symm notOpens.1), ih notOpens.2]
      simp [Nat.add_assoc]

/-- An opening delimiter separates the units before it from those after it. -/
theorem unitsFrom_append_opening (offset : Nat) (before following : List Segment) :
    grammar.unitsFrom offset (before ++ .opening :: following) =
      grammar.unitsFrom offset before ++
        grammar.unitsFrom (offset + byteLength (grammar.joined before))
          (.opening :: following) := by
  induction before generalizing offset with
  | nil => simp [unitsFrom]
  | cons segment before ih =>
      by_cases opens : segment = .opening
      · subst opens
        rw [List.cons_append, unitsFrom_opening, unitsFrom_opening, completedUnit?_append_opening,
          ih]
        simp [Segment.text, Nat.add_assoc]
      · rw [List.cons_append, unitsFrom_cons_of_ne opens, unitsFrom_cons_of_ne opens, ih]
        simp [Nat.add_assoc]

/-- A complete unit, and then the units after it. -/
theorem unitsFrom_complete {body : List Segment} (continues : grammar.ContinuesPast body)
    (offset : Nat) (after : List Segment) :
    grammar.unitsFrom offset (.opening :: (body ++ .closing :: after)) =
      grammar.unitAround offset body ::
        grammar.unitsFrom (grammar.unitAround offset body).span.stop after := by
  have completed : grammar.completedUnit? offset (body ++ .closing :: after) =
      some (grammar.unitAround offset body) :=
    completedUnit?_eq_some_iff.mpr ⟨body, after, rfl, continues, rfl⟩
  rw [unitsFrom_opening, completed, unitsFrom_append_of_not_mem continues.opening_not_mem,
    unitsFrom_cons_of_ne (by simp)]
  simp [unitAround, Segment.text, Nat.add_assoc]

/-- The units are exactly the complete runs of segments. -/
theorem mem_unitsFrom_iff {offset : Nat} {segments : List Segment} {unit : CallUnit} :
    unit ∈ grammar.unitsFrom offset segments ↔
      ∃ before body after, segments = before ++ .opening :: (body ++ .closing :: after) ∧
        grammar.ContinuesPast body ∧
        unit = grammar.unitAround (offset + byteLength (grammar.joined before)) body := by
  constructor
  · intro member
    induction segments generalizing offset with
    | nil => simp [unitsFrom] at member
    | cons segment following ih =>
        by_cases opens : segment = .opening
        · subst opens
          rw [unitsFrom_opening, List.mem_append, Option.mem_toList] at member
          rcases member with completed | later
          · obtain ⟨body, after, rfl, continues, made⟩ := completedUnit?_eq_some_iff.mp completed
            exact ⟨[], body, after, rfl, continues, by simpa using made⟩
          · obtain ⟨before, body, after, rfl, continues, rfl⟩ := ih later
            exact ⟨.opening :: before, body, after, rfl, continues,
              by simp [Segment.text, Nat.add_assoc]⟩
        · rw [unitsFrom_cons_of_ne opens] at member
          obtain ⟨before, body, after, rfl, continues, rfl⟩ := ih member
          exact ⟨segment :: before, body, after, rfl, continues, by simp [Nat.add_assoc]⟩
  · rintro ⟨before, body, after, rfl, continues, rfl⟩
    rw [unitsFrom_append_opening, unitsFrom_complete continues]
    simp

theorem offset_le_of_mem_unitsFrom {offset : Nat} {segments : List Segment} {unit : CallUnit}
    (member : unit ∈ grammar.unitsFrom offset segments) : offset ≤ unit.span.start := by
  obtain ⟨before, body, after, -, -, rfl⟩ := mem_unitsFrom_iff.mp member
  simp [unitAround]

/-- Units come from left to right, and each one ends before the next begins. -/
theorem unitsFrom_ascending (offset : Nat) (segments : List Segment) :
    (grammar.unitsFrom offset segments).Pairwise fun first second =>
      first.span.stop ≤ second.span.start := by
  induction segments generalizing offset with
  | nil => simp [unitsFrom]
  | cons segment following ih =>
      by_cases opens : segment = .opening
      · subst opens
        cases completed : grammar.completedUnit? offset following with
        | none =>
            rw [unitsFrom_opening, completed]
            exact ih _
        | some unit =>
            obtain ⟨body, after, rfl, continues, rfl⟩ := completedUnit?_eq_some_iff.mp completed
            have later := ih (offset + byteLength grammar.leadIn)
            rw [unitsFrom_append_of_not_mem continues.opening_not_mem,
              unitsFrom_cons_of_ne (by simp)] at later
            rw [unitsFrom_complete continues, List.pairwise_cons]
            refine ⟨fun unit member => offset_le_of_mem_unitsFrom member, ?_⟩
            simpa [unitAround, Segment.text, Nat.add_assoc] using later
      · rw [unitsFrom_cons_of_ne opens]
        exact ih _

/-- A unit stands in its text with the delimiters around its inner text. -/
theorem cut_of_mem_units {text : Text} {unit : CallUnit} (member : unit ∈ grammar.units text) :
    ∃ before after,
      text = before ++ (grammar.leadIn ++ unit.inner ++ grammar.leadOut ++ after) ∧
        unit.span = ⟨byteLength before,
          byteLength before + byteLength (grammar.leadIn ++ unit.inner ++ grammar.leadOut)⟩ := by
  obtain ⟨before, body, after, segmented, -, rfl⟩ := mem_unitsFrom_iff.mp member
  refine ⟨grammar.joined before, grammar.joined after, ?_, by simp [unitAround]⟩
  rw [← grammar.joined_segments text, segmented]
  simp [unitAround, Segment.text]

theorem fitsIn_of_mem_units {text : Text} {unit : CallUnit}
    (member : unit ∈ grammar.units text) : unit.span.FitsIn text := by
  obtain ⟨before, after, whole, covers⟩ := cut_of_mem_units member
  exact ⟨before, _, after, whole, covers⟩

theorem byteLength_leadIn_pos (grammar : Grammar) : 0 < byteLength grammar.leadIn :=
  Nat.pos_of_ne_zero fun none => grammar.valid.leadIn_ne_nil (eq_nil_of_byteLength_eq_zero none)

theorem start_lt_stop_of_mem_unitsFrom {offset : Nat} {segments : List Segment} {unit : CallUnit}
    (member : unit ∈ grammar.unitsFrom offset segments) : unit.span.start < unit.span.stop := by
  obtain ⟨before, body, after, -, -, rfl⟩ := mem_unitsFrom_iff.mp member
  have positive := grammar.byteLength_leadIn_pos
  simp only [unitAround, byteLength_append]
  omega

theorem start_lt_stop_of_mem_units {text : Text} {unit : CallUnit}
    (member : unit ∈ grammar.units text) : unit.span.start < unit.span.stop :=
  start_lt_stop_of_mem_unitsFrom member

/-- A unit is known by where it stands. -/
theorem eq_of_span_eq {text : Text} {first second : CallUnit}
    (inText : first ∈ grammar.units text) (also : second ∈ grammar.units text)
    (same : first.span = second.span) : first = second := by
  obtain ⟨before, after, whole, covers⟩ := cut_of_mem_units inText
  obtain ⟨otherBefore, otherAfter, otherWhole, otherCovers⟩ := cut_of_mem_units also
  have sliced := Span.slice_append before (grammar.leadIn ++ first.inner ++ grammar.leadOut) after
  have otherSliced := Span.slice_append otherBefore
    (grammar.leadIn ++ second.inner ++ grammar.leadOut) otherAfter
  rw [← covers, same, otherCovers, ← whole, otherWhole, otherSliced] at sliced
  simp only [List.append_assoc, List.append_cancel_left_eq, List.append_cancel_right_eq] at sliced
  cases first
  cases second
  simp_all

/-! ## Units written into a text -/

/-- Characters that can stand in a unit as they are. -/
def Inert (grammar : Grammar) (c : Char) : Prop :=
  grammar.OutsideDelimiters c ∧ (grammar.multiline = false → c ≠ '\n')

theorem continues_escaped (next : Option Char) : grammar.continues (.escaped next) = true := by
  simp [continues, Segment.isDelimiter, Segment.endsLine]

theorem continues_plain {c : Char} (inert : grammar.Inert c) :
    grammar.continues (.plain c) = true := by
  cases lines : grammar.multiline with
  | false => simp [continues, Segment.isDelimiter, Segment.endsLine, lines, inert.2 lines]
  | true => simp [continues, Segment.isDelimiter, Segment.endsLine, lines]

theorem MadeOf.continuesPast {text : Text} (made : grammar.MadeOf grammar.Inert text) :
    grammar.ContinuesPast (grammar.segments text) := by
  induction made with
  | nil => simp
  | pair next _ ih => simpa [continues_escaped] using ih
  | single notEscape inert _ ih =>
      rw [segments_outside notEscape inert.1, continuesPast_cons]
      exact ⟨continues_plain inert, ih⟩

/-- A text between delimiters. -/
def delimited (grammar : Grammar) (inner : Text) : Text :=
  grammar.leadIn ++ inner ++ grammar.leadOut

/-- A unit written after a text that ends plainly is found where it stands,
between the units before it and those after it. -/
theorem units_append_delimited {before inner : Text} (ends : grammar.EndsPlainly before)
    (made : grammar.MadeOf grammar.Inert inner) (after : Text) :
    grammar.units (before ++ grammar.delimited inner ++ after) =
      grammar.units before ++
        (⟨⟨byteLength before, byteLength before + byteLength (grammar.delimited inner)⟩, inner⟩ ::
          grammar.unitsFrom (byteLength before + byteLength (grammar.delimited inner))
            (grammar.segments after)) := by
  have segmented : grammar.segments (before ++ grammar.delimited inner ++ after) =
      grammar.segments before ++
        .opening :: (grammar.segments inner ++ .closing :: grammar.segments after) := by
    simp only [delimited, List.append_assoc]
    rw [segments_append_of_endsPlainly ends, segments_leadIn,
      (made.mono fun _ inert => inert.1).segments_append, segments_leadOut]
  unfold units
  rw [segmented, unitsFrom_append_opening, unitsFrom_complete made.continuesPast]
  simp [unitAround, delimited]

end Grammar

end CallMarkup
