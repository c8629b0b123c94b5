import CallMarkup.Proofs.Document.Units

/-!
# Replacing units

A text without reserved characters can take the place of a unit: what stands
around the unit is then read as before.  `resolves_of_rewrites` says this of any
number of units at once, balanced or not, and every replacement takes one
opening delimiter away.
-/

namespace CallMarkup

namespace Grammar

variable {grammar : Grammar}

/-! ## Reading a part again -/

theorem segments_joined_tail {text : Text} {segment : Segment} {following : List Segment}
    (read : grammar.segments text = segment :: following) :
    grammar.segments (grammar.joined following) = following := by
  revert read
  fun_cases segments grammar text with
  | case1 => simp
  | case2 =>
      intro read
      obtain ⟨-, rfl⟩ := List.cons.inj read
      simp
  | case3 next rest =>
      intro read
      obtain ⟨-, rfl⟩ := List.cons.inj read
      rw [joined_segments]
  | case4 c rest notEscape opens =>
      intro read
      obtain ⟨-, rfl⟩ := List.cons.inj read
      rw [joined_segments]
  | case5 c rest notEscape notOpens closes =>
      intro read
      obtain ⟨-, rfl⟩ := List.cons.inj read
      rw [joined_segments]
  | case6 c rest notEscape notOpens notCloses =>
      intro read
      obtain ⟨-, rfl⟩ := List.cons.inj read
      rw [joined_segments]

theorem eq_nil_of_dangling {text : Text} {following : List Segment}
    (read : grammar.segments text = .escaped none :: following) : following = [] := by
  have tail := segments_joined_tail read
  cases rest : grammar.joined following with
  | nil => rw [← tail, rest, segments_nil]
  | cons next rest' =>
      have whole := grammar.joined_segments text
      rw [read, joined_cons, rest] at whole
      rw [← whole] at read
      simp [Segment.text] at read

theorem not_prefix_of_segments_plain {c d : Char} {rest : Text} {following : List Segment}
    (read : grammar.segments (c :: rest) = .plain d :: following) :
    c ≠ grammar.escape ∧ ¬ grammar.leadIn <+: c :: rest ∧ ¬ grammar.leadOut <+: c :: rest := by
  rw [segments.eq_def] at read
  simp only at read
  split at read
  next => split at read <;> simp at read
  next notEscape =>
    split at read
    next => simp at read
    next notOpens =>
      split at read
      next => simp at read
      next notCloses => exact ⟨notEscape, notOpens, notCloses⟩

/-- A segment that is read before some text is read before any beginning of that
text, too. -/
theorem segments_text_append {segment : Segment} {text rest : Text} {following : List Segment}
    (read : grammar.segments (segment.text grammar ++ (text ++ rest)) = segment :: following)
    (complete : segment ≠ .escaped none) :
    grammar.segments (segment.text grammar ++ text) = segment :: grammar.segments text := by
  cases segment with
  | escaped next =>
      cases next with
      | none => exact absurd rfl complete
      | some next => simp [Segment.text]
  | opening => exact segments_leadIn grammar text
  | closing => exact segments_leadOut grammar text
  | plain c =>
      obtain ⟨notEscape, notOpens, notCloses⟩ := not_prefix_of_segments_plain read
      have shorter : c :: text <+: c :: (text ++ rest) := ⟨rest, rfl⟩
      exact segments_plain notEscape (fun opens => notOpens (opens.trans shorter))
        (fun closes => notCloses (closes.trans shorter))

/-- The two parts of a reading are the readings of its two parts. -/
theorem segments_joined_of_append {text : Text} {before after : List Segment}
    (read : grammar.segments text = before ++ after) :
    grammar.segments (grammar.joined before) = before ∧
      grammar.segments (grammar.joined after) = after := by
  induction before generalizing text with
  | nil =>
      refine ⟨by simp, ?_⟩
      rw [← List.nil_append after, ← read, joined_segments]
  | cons segment before ih =>
      have whole := grammar.joined_segments text
      rw [read, List.cons_append, joined_cons, joined_append] at whole
      rw [List.cons_append] at read
      obtain ⟨readBefore, readAfter⟩ := ih (segments_joined_tail read)
      refine ⟨?_, readAfter⟩
      rw [← whole] at read
      by_cases dangling : segment = .escaped none
      · subst dangling
        have nothing := eq_nil_of_dangling read
        rw [(List.append_eq_nil_iff.mp nothing).1]
        simp [Segment.text]
      · rw [joined_cons, segments_text_append read dangling, readBefore]

/-- Only the last segment of a text can be an escape character without partner. -/
theorem dangling_not_mem_before {text : Text} {before following : List Segment}
    {segment : Segment} (read : grammar.segments text = before ++ segment :: following) :
    Segment.escaped none ∉ before := by
  intro member
  obtain ⟨earlier, later, rfl⟩ := List.append_of_mem member
  rw [List.append_assoc, List.cons_append] at read
  have nothing := eq_nil_of_dangling (segments_joined_of_append read).2
  simp at nothing

/-- What is read before a segment is read in the same way before a text that
begins outside delimiters. -/
theorem segments_joined_before {text : Text} {before following : List Segment}
    {segment : Segment} (read : grammar.segments text = before ++ segment :: following)
    {rest : Text} (begins : grammar.BeginsOutside rest) :
    grammar.segments (grammar.joined before ++ rest) = before ++ grammar.segments rest := by
  have readBefore := (segments_joined_of_append read).1
  have complete : ¬ grammar.EndsInEscape (grammar.joined before) := by
    unfold EndsInEscape
    rw [readBefore]
    exact dangling_not_mem_before read
  rw [segments_append_of_beginsOutside complete begins, readBefore]

/-! ## Units that are replaced -/

/-- Texts that say nothing to a reader of units. -/
structure Unreserved (grammar : Grammar) (text : Text) : Prop where
  nonempty : text ≠ []
  free : ∀ c ∈ text, grammar.isReserved c = false

theorem Unreserved.madeOf {text : Text} (unreserved : grammar.Unreserved text) :
    grammar.MadeOf grammar.OutsideDelimiters text :=
  .of_forall fun c member =>
    have bare := isReserved_eq_false_iff.mp (unreserved.free c member)
    ⟨bare.1, bare.2.2.2⟩

/-- Replacing some units from left to right leads from segments to others. -/
inductive Resolves (grammar : Grammar) : List Text → List Segment → List Segment → Prop
  | done (segments : List Segment) : grammar.Resolves [] segments segments
  | unit {before body after target : List Segment} {output : Text} {outputs : List Text}
      (continues : grammar.ContinuesPast body) (unreserved : grammar.Unreserved output)
      (later : grammar.Resolves outputs after target) :
      grammar.Resolves (output :: outputs) (before ++ .opening :: (body ++ .closing :: after))
        (before ++ (grammar.segments output ++ target))

/-- Units that begin after a unit are units of what follows it. -/
theorem mem_unitsFrom_after {offset : Nat} {before body after : List Segment}
    (continues : grammar.ContinuesPast body) {unit : CallUnit}
    (member : unit ∈ grammar.unitsFrom offset (before ++ .opening :: (body ++ .closing :: after)))
    (later : (grammar.unitAround (offset + byteLength (grammar.joined before)) body).span.stop ≤
      unit.span.start) :
    unit ∈ grammar.unitsFrom
      (grammar.unitAround (offset + byteLength (grammar.joined before)) body).span.stop after := by
  have ordered := start_lt_stop_of_mem_unitsFrom member
  have complete := start_lt_stop_of_mem_unitsFrom
    (mem_unitsFrom_iff.mpr ⟨before, body, after, rfl, continues, rfl⟩ :
      grammar.unitAround (offset + byteLength (grammar.joined before)) body ∈ _)
  have ascending :=
    grammar.unitsFrom_ascending offset (before ++ .opening :: (body ++ .closing :: after))
  rw [unitsFrom_append_opening, unitsFrom_complete continues] at member ascending
  rcases List.mem_append.mp member with earlier | here
  · have precedes := (List.pairwise_append.mp ascending).2.2 unit earlier _ List.mem_cons_self
    omega
  · rcases List.mem_cons.mp here with rfl | inAfter
    · omega
    · exact inAfter

/-- Replacing units of a text by texts without reserved characters changes what
is read at these units and nowhere else. -/
theorem resolves_of_rewrites {offset : Nat} {items : List Replacement} {source target : Text}
    (rewrites : Rewrites offset items source target)
    (onUnits : ∀ item ∈ items,
      ∃ unit ∈ grammar.unitsFrom offset (grammar.segments source), unit.span = item.span)
    (unreserved : ∀ item ∈ items, grammar.Unreserved item.text) :
    grammar.Resolves (items.map (·.text)) (grammar.segments source) (grammar.segments target) := by
  induction rewrites with
  | done => exact .done _
  | @replace offset item items source target gap old covers later ih =>
      obtain ⟨unit, inSource, same⟩ := onUnits item (by simp)
      obtain ⟨before, body, after, cut, continues, rfl⟩ := mem_unitsFrom_iff.mp inSource
      have output := unreserved item (by simp)
      -- The span cuts the text where its segments are cut.
      have whole := grammar.joined_segments (gap ++ (old ++ source))
      rw [cut] at whole
      simp only [joined_append, joined_cons] at whole
      have level := same
      simp only [unitAround, covers, Span.mk.injEq, byteLength_append] at level
      obtain ⟨rfl, inside⟩ := append_inj_of_byteLength whole (by omega)
      simp only [Segment.text, ← List.append_assoc] at inside
      obtain ⟨rfl, rfl⟩ := append_inj_of_byteLength inside (by simp only [byteLength_append]; omega)
      have afterUnit : grammar.segments
          (grammar.joined before ++ (grammar.leadIn ++ grammar.joined body ++ grammar.leadOut ++
            grammar.joined after)) = (before ++ .opening :: (body ++ [.closing])) ++ after := by
        simpa using cut
      have readAfter : grammar.segments (grammar.joined after) = after :=
        (segments_joined_of_append afterUnit).2
      have readTarget : grammar.segments (grammar.joined before ++ (item.text ++ target)) =
          before ++ (grammar.segments item.text ++ grammar.segments target) := by
        rw [segments_joined_before cut (output.madeOf.beginsOutside output.nonempty target),
          output.madeOf.segments_append]
      rw [readAfter, ← same] at ih
      rw [cut, readTarget, List.map_cons]
      refine .unit continues output (ih ?_ fun other member => unreserved other (by simp [member]))
      intro other member
      obtain ⟨unit, inSource, stands⟩ := onUnits other (by simp [member])
      rw [cut] at inSource
      refine ⟨unit, mem_unitsFrom_after continues inSource ?_, stands⟩
      rw [same, stands]
      exact later.offset_le other member

/-- The number of active opening delimiters of a text. -/
def openings (grammar : Grammar) (text : Text) : Nat :=
  (grammar.segments text).count .opening

theorem count_opening_of_continues {body : List Segment} (continues : grammar.ContinuesPast body) :
    body.count .opening = 0 :=
  List.count_eq_zero.mpr continues.opening_not_mem

theorem count_opening_of_madeOf {text : Text}
    (made : grammar.MadeOf grammar.OutsideDelimiters text) :
    (grammar.segments text).count .opening = 0 :=
  List.count_eq_zero.mpr fun member =>
    absurd (made.isDelimiter_eq_false _ member) (by simp [Segment.isDelimiter])

/-- Every replacement takes one opening delimiter away. -/
theorem Resolves.count_opening {outputs : List Text} {source target : List Segment}
    (resolves : grammar.Resolves outputs source target) :
    target.count .opening + outputs.length = source.count .opening := by
  induction resolves with
  | done => simp
  | unit continues unreserved later ih =>
      simp [count_opening_of_continues continues, count_opening_of_madeOf unreserved.madeOf, ← ih]
      omega

end Grammar

end CallMarkup
