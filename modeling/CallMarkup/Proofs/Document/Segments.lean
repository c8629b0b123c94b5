import CallMarkup.Document.Segment
import CallMarkup.Proofs.Grammar.Escaping

/-!
# Segments of texts put together

The segments of two texts in a row are those of the first followed by those of
the second, unless the first ends in an escape character without partner or
some delimiter begins in the first and ends in the second.  A text made of
escape pairs and of characters that no delimiter contains can be followed by
anything.
-/

namespace CallMarkup.Grammar

variable {grammar : Grammar}

/-- Whether the escape character at the end of a text escapes nothing. -/
def EndsInEscape (grammar : Grammar) (text : Text) : Prop :=
  Segment.escaped none ∈ grammar.segments text

/-- Whether a delimiter begins in a text and ends in the one after it. -/
def Straddles (delimiter first second : Text) : Prop :=
  ∃ front back, front ≠ [] ∧ back ≠ [] ∧ delimiter = front ++ back ∧
    front <:+ first ∧ back <+: second

/-- Whether the end of a text has no meaning. -/
def EndsPlainly (grammar : Grammar) (text : Text) : Prop :=
  ∀ c, text.getLast? = some c → grammar.isReserved c = false

theorem endsPlainly_nil (grammar : Grammar) : grammar.EndsPlainly [] := by
  simp [EndsPlainly]

/-! ## One segment at a time -/

@[simp]
theorem segments_nil (grammar : Grammar) : grammar.segments [] = [] := by
  rw [segments]

@[simp]
theorem segments_escape (grammar : Grammar) :
    grammar.segments [grammar.escape] = [.escaped none] := by
  simp [segments]

@[simp]
theorem segments_pair (grammar : Grammar) (next : Char) (rest : Text) :
    grammar.segments (grammar.escape :: next :: rest) =
      .escaped (some next) :: grammar.segments rest := by
  simp [segments]

/-- A delimiter never begins with an escape character. -/
theorem head_ne_escape {delimiter text : Text} {c : Char}
    (free : grammar.escape ∉ delimiter) (nonempty : delimiter ≠ [])
    (begins : delimiter <+: c :: text) : c ≠ grammar.escape := by
  cases delimiter with
  | nil => exact absurd rfl nonempty
  | cons d delimiter =>
      obtain ⟨rfl, -⟩ := List.cons_prefix_cons.mp begins
      rintro rfl
      simp at free

@[simp]
theorem segments_leadIn (grammar : Grammar) (rest : Text) :
    grammar.segments (grammar.leadIn ++ rest) = .opening :: grammar.segments rest := by
  have begins : grammar.leadIn <+: grammar.leadIn ++ rest := List.prefix_append _ _
  cases whole : grammar.leadIn ++ rest with
  | nil => exact absurd (List.append_eq_nil_iff.mp whole).1 grammar.valid.leadIn_ne_nil
  | cons c text =>
      rw [whole] at begins
      have notEscape := head_ne_escape grammar.escape_not_mem_delimiters.1
        grammar.valid.leadIn_ne_nil begins
      rw [segments.eq_def]
      simp only [if_neg notEscape, if_pos begins]
      rw [← whole, List.drop_left]

/-- A text does not begin with both delimiters. -/
theorem leadOut_excludes_leadIn {text : Text} (closes : grammar.leadOut <+: text) :
    ¬ grammar.leadIn <+: text := by
  intro opens
  rcases List.prefix_or_prefix_of_prefix opens closes with inner | inner
  · exact grammar.valid.not_leadIn_prefix_leadOut inner
  · exact grammar.valid.not_leadOut_prefix_leadIn inner

@[simp]
theorem segments_leadOut (grammar : Grammar) (rest : Text) :
    grammar.segments (grammar.leadOut ++ rest) = .closing :: grammar.segments rest := by
  have begins : grammar.leadOut <+: grammar.leadOut ++ rest := List.prefix_append _ _
  cases whole : grammar.leadOut ++ rest with
  | nil => exact absurd (List.append_eq_nil_iff.mp whole).1 grammar.valid.leadOut_ne_nil
  | cons c text =>
      rw [whole] at begins
      have notEscape := head_ne_escape grammar.escape_not_mem_delimiters.2
        grammar.valid.leadOut_ne_nil begins
      rw [segments.eq_def]
      simp only [if_neg notEscape, if_neg (leadOut_excludes_leadIn begins), if_pos begins]
      rw [← whole, List.drop_left]

theorem segments_plain {c : Char} {rest : Text} (notEscape : c ≠ grammar.escape)
    (notOpens : ¬ grammar.leadIn <+: c :: rest) (notCloses : ¬ grammar.leadOut <+: c :: rest) :
    grammar.segments (c :: rest) = .plain c :: grammar.segments rest := by
  rw [segments.eq_def]
  simp only [if_neg notEscape, if_neg notOpens, if_neg notCloses]

/-- No segment is empty. -/
theorem segment_text_ne_nil (grammar : Grammar) (segment : Segment) :
    segment.text grammar ≠ [] := by
  cases segment with
  | escaped next => exact List.cons_ne_nil _ _
  | opening => exact grammar.valid.leadIn_ne_nil
  | closing => exact grammar.valid.leadOut_ne_nil
  | plain c => exact List.cons_ne_nil _ _

/-! ## Texts in a row -/

private theorem prefix_append_cases {delimiter first second : Text}
    (begins : delimiter <+: first ++ second) :
    delimiter <+: first ∨ ∃ back, back ≠ [] ∧ delimiter = first ++ back ∧ back <+: second := by
  obtain ⟨rest, whole⟩ := begins
  rcases List.append_eq_append_iff.mp whole with ⟨middle, inFirst, -⟩ | ⟨back, reaches, inSecond⟩
  · exact .inl ⟨middle, inFirst.symm⟩
  · by_cases nothing : back = []
    · subst nothing
      exact .inl (by simp [reaches])
    · exact .inr ⟨back, nothing, reaches, rest, inSecond.symm⟩

theorem Straddles.mono {delimiter first whole second : Text}
    (straddles : Straddles delimiter first second) (ending : first <:+ whole) :
    Straddles delimiter whole second := by
  obtain ⟨front, back, frontNonempty, backNonempty, made, frontEnds, backBegins⟩ := straddles
  exact ⟨front, back, frontNonempty, backNonempty, made, frontEnds.trans ending, backBegins⟩

/-- A delimiter that does not cross the seam begins before it only as it does in
the first text alone. -/
theorem not_prefix_append {delimiter first second : Text} (nonempty : first ≠ [])
    (uncut : ¬ Straddles delimiter first second) (notBegins : ¬ delimiter <+: first) :
    ¬ delimiter <+: first ++ second := by
  intro begins
  rcases prefix_append_cases begins with inner | ⟨back, backNonempty, made, backBegins⟩
  · exact notBegins inner
  · exact uncut ⟨first, back, nonempty, backNonempty, made, List.suffix_rfl, backBegins⟩

/-- Segments of texts in a row, when nothing crosses the seam. -/
theorem segments_append {first second : Text} (complete : ¬ grammar.EndsInEscape first)
    (uncutIn : ¬ Straddles grammar.leadIn first second)
    (uncutOut : ¬ Straddles grammar.leadOut first second) :
    grammar.segments (first ++ second) = grammar.segments first ++ grammar.segments second := by
  unfold EndsInEscape at complete
  fun_induction segments grammar first with
  | case1 => rfl
  | case2 => simp at complete
  | case3 next rest ih =>
      have ending : rest <:+ grammar.escape :: next :: rest :=
        (List.suffix_cons _ _).trans (List.suffix_cons _ _)
      have tail := ih (fun member => complete (by simp [member]))
        (fun straddles => uncutIn (straddles.mono ending))
        (fun straddles => uncutOut (straddles.mono ending))
      rw [List.cons_append, List.cons_append, segments_pair, tail]
      rfl
  | case4 c rest notEscape opens ih =>
      have ending : (c :: rest).drop grammar.leadIn.length <:+ c :: rest := List.drop_suffix _ _
      have tail := ih (fun member => complete (by simp [member]))
        (fun straddles => uncutIn (straddles.mono ending))
        (fun straddles => uncutOut (straddles.mono ending))
      have whole := List.prefix_iff_eq_append.mp opens
      rw [← whole, List.append_assoc, segments_leadIn, List.drop_left, tail]
      rfl
  | case5 c rest notEscape notOpens closes ih =>
      have ending : (c :: rest).drop grammar.leadOut.length <:+ c :: rest := List.drop_suffix _ _
      have tail := ih (fun member => complete (by simp [member]))
        (fun straddles => uncutIn (straddles.mono ending))
        (fun straddles => uncutOut (straddles.mono ending))
      have whole := List.prefix_iff_eq_append.mp closes
      rw [← whole, List.append_assoc, segments_leadOut, List.drop_left, tail]
      rfl
  | case6 c rest notEscape notOpens notCloses ih =>
      have ending : rest <:+ c :: rest := List.suffix_cons _ _
      have tail := ih (fun member => complete (by simp [member]))
        (fun straddles => uncutIn (straddles.mono ending))
        (fun straddles => uncutOut (straddles.mono ending))
      have stillNotOpens := not_prefix_append (List.cons_ne_nil c rest) uncutIn notOpens
      have stillNotCloses := not_prefix_append (List.cons_ne_nil c rest) uncutOut notCloses
      rw [List.cons_append] at stillNotOpens stillNotCloses ⊢
      rw [segments_plain notEscape stillNotOpens stillNotCloses, tail]
      rfl

/-- A delimiter can only cross a seam after one of its own characters. -/
theorem not_straddles_of_getLast {delimiter first second : Text}
    (last : ∀ c, first.getLast? = some c → c ∉ delimiter) :
    ¬ Straddles delimiter first second := by
  rintro ⟨front, back, nonempty, -, rfl, ⟨before, rfl⟩, -⟩
  have ends : (before ++ front).getLast? = some (front.getLast nonempty) := by
    rw [List.getLast?_append, List.getLast?_eq_some_getLast nonempty, Option.some_or]
  exact last _ ends (by simp)

/-- A delimiter can only cross a seam before one of its own characters. -/
theorem not_straddles_of_head {delimiter first second : Text}
    (head : ∀ c, second.head? = some c → c ∉ delimiter) :
    ¬ Straddles delimiter first second := by
  rintro ⟨front, back, -, nonempty, rfl, -, ⟨after, rfl⟩⟩
  cases back with
  | nil => exact nonempty rfl
  | cons c back => exact head c rfl (by simp)

private theorem getLast?_of_suffix {text whole : Text} {c : Char}
    (last : text.getLast? = some c) (ending : text <:+ whole) : whole.getLast? = some c := by
  obtain ⟨before, rfl⟩ := ending
  rw [List.getLast?_append, last, Option.some_or]

theorem getLast?_of_endsInEscape {text : Text} (ends : grammar.EndsInEscape text) :
    text.getLast? = some grammar.escape := by
  unfold EndsInEscape at ends
  fun_induction segments grammar text with
  | case1 => simp at ends
  | case2 => rfl
  | case3 next rest ih =>
      exact getLast?_of_suffix (ih (by simpa using ends))
        ((List.suffix_cons _ _).trans (List.suffix_cons _ _))
  | case4 c rest notEscape opens ih =>
      exact getLast?_of_suffix (ih (by simpa using ends)) (List.drop_suffix _ _)
  | case5 c rest notEscape notOpens closes ih =>
      exact getLast?_of_suffix (ih (by simpa using ends)) (List.drop_suffix _ _)
  | case6 c rest notEscape notOpens notCloses ih =>
      exact getLast?_of_suffix (ih (by simpa using ends)) (List.suffix_cons _ _)

/-- A text that ends plainly can be followed by anything. -/
theorem segments_append_of_endsPlainly {first : Text} (ends : grammar.EndsPlainly first)
    (second : Text) :
    grammar.segments (first ++ second) = grammar.segments first ++ grammar.segments second := by
  apply segments_append
  · intro dangling
    have free := ends _ (getLast?_of_endsInEscape dangling)
    simp at free
  · exact not_straddles_of_getLast fun c last => (isReserved_eq_false_iff.mp (ends c last)).2.2.2.1
  · exact not_straddles_of_getLast fun c last => (isReserved_eq_false_iff.mp (ends c last)).2.2.2.2

/-! ## Texts without active delimiters -/

/-- Characters that no delimiter contains. -/
def OutsideDelimiters (grammar : Grammar) (c : Char) : Prop :=
  c ∉ grammar.leadIn ∧ c ∉ grammar.leadOut

theorem not_prefix_of_head {delimiter rest : Text} {c : Char} (nonempty : delimiter ≠ [])
    (free : c ∉ delimiter) : ¬ delimiter <+: c :: rest := by
  intro begins
  cases delimiter with
  | nil => exact nonempty rfl
  | cons d delimiter =>
      obtain ⟨rfl, -⟩ := List.cons_prefix_cons.mp begins
      simp at free

theorem segments_outside {c : Char} (notEscape : c ≠ grammar.escape)
    (outside : grammar.OutsideDelimiters c) (rest : Text) :
    grammar.segments (c :: rest) = .plain c :: grammar.segments rest :=
  segments_plain notEscape (not_prefix_of_head grammar.valid.leadIn_ne_nil outside.1)
    (not_prefix_of_head grammar.valid.leadOut_ne_nil outside.2)

/-- A text without active delimiters and without dangling escape can be followed
by anything. -/
theorem MadeOf.segments_append {first : Text}
    (made : grammar.MadeOf grammar.OutsideDelimiters first) (second : Text) :
    grammar.segments (first ++ second) = grammar.segments first ++ grammar.segments second := by
  induction made with
  | nil => simp
  | pair next _ ih => simp [ih]
  | single notEscape outside _ ih =>
      rw [List.cons_append, segments_outside notEscape outside,
        segments_outside notEscape outside, ih]
      rfl

theorem MadeOf.isDelimiter_eq_false {text : Text}
    (made : grammar.MadeOf grammar.OutsideDelimiters text) :
    ∀ segment ∈ grammar.segments text, segment.isDelimiter = false := by
  induction made with
  | nil => simp
  | pair next _ ih => simpa [Segment.isDelimiter] using ih
  | single notEscape outside _ ih =>
      rw [segments_outside notEscape outside]
      simpa [Segment.isDelimiter] using ih

/-- Whether the beginning of a text belongs to no delimiter. -/
def BeginsOutside (grammar : Grammar) (text : Text) : Prop :=
  ∀ c, text.head? = some c → grammar.OutsideDelimiters c

theorem beginsOutside_cons {c : Char} (outside : grammar.OutsideDelimiters c) (rest : Text) :
    grammar.BeginsOutside (c :: rest) := by
  intro d head
  obtain rfl : c = d := by simpa using head
  exact outside

theorem MadeOf.beginsOutside {text : Text}
    (made : grammar.MadeOf grammar.OutsideDelimiters text) (nonempty : text ≠ []) (rest : Text) :
    grammar.BeginsOutside (text ++ rest) := by
  cases made with
  | nil => exact absurd rfl nonempty
  | pair next _ => exact beginsOutside_cons grammar.escape_not_mem_delimiters _
  | single _ outside _ => exact beginsOutside_cons outside _

/-- A text that begins outside delimiters can follow any text without dangling
escape. -/
theorem segments_append_of_beginsOutside {first second : Text}
    (complete : ¬ grammar.EndsInEscape first) (begins : grammar.BeginsOutside second) :
    grammar.segments (first ++ second) = grammar.segments first ++ grammar.segments second :=
  segments_append complete (not_straddles_of_head fun c head => (begins c head).1)
    (not_straddles_of_head fun c head => (begins c head).2)

end CallMarkup.Grammar
