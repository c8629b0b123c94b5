import Mathlib
import CallMarkup.Proofs.Document.Units

/-!
# Active delimiters

The active delimiters of a text are the delimiters among its segments, each with
the byte at which it begins.  An escaped value is neutral: written between two
texts, it adds no delimiter to theirs and takes none away, even when the text
before it ends in a part of a delimiter.
-/

namespace CallMarkup

/-- A segment with the byte at which it begins. -/
structure PlacedSegment where
  offset : Nat
  segment : Segment
  deriving DecidableEq

/-- The same segment so many bytes further on. -/
def PlacedSegment.shift (bytes : Nat) (placed : PlacedSegment) : PlacedSegment :=
  { placed with offset := placed.offset + bytes }

namespace Grammar

variable {grammar : Grammar}

/-- Consecutive segments with their places, the first of which is at byte
`offset`. -/
def placedFrom (grammar : Grammar) (offset : Nat) : List Segment → List PlacedSegment
  | [] => []
  | segment :: following =>
    ⟨offset, segment⟩ :: grammar.placedFrom (offset + segment.byteLength grammar) following

/-- The active delimiters of a text, from left to right. -/
def delimiters (grammar : Grammar) (text : Text) : List PlacedSegment :=
  (grammar.placedFrom 0 (grammar.segments text)).filter (·.segment.isDelimiter)

theorem map_segment_placedFrom (offset : Nat) (segments : List Segment) :
    (grammar.placedFrom offset segments).map (·.segment) = segments := by
  induction segments generalizing offset with
  | nil => rfl
  | cons segment segments ih => simp [placedFrom, ih]

theorem placedFrom_append (offset : Nat) (first second : List Segment) :
    grammar.placedFrom offset (first ++ second) =
      grammar.placedFrom offset first ++
        grammar.placedFrom (offset + byteLength (grammar.joined first)) second := by
  induction first generalizing offset with
  | nil => simp [placedFrom]
  | cons segment first ih => simp [placedFrom, ih, Segment.byteLength, Nat.add_assoc]

theorem placedFrom_append_cons (offset : Nat) (before after : List Segment) (segment : Segment) :
    grammar.placedFrom offset (before ++ segment :: after) =
      grammar.placedFrom offset before ++
        ⟨offset + byteLength (grammar.joined before), segment⟩ ::
          grammar.placedFrom
            (offset + byteLength (grammar.joined before) + segment.byteLength grammar) after := by
  rw [placedFrom_append, placedFrom]

/-- A placed segment is a segment in its place, between those before and those
after it. -/
theorem exists_of_placedFrom_eq {offset : Nat} {segments : List Segment}
    {first second : List PlacedSegment} {placed : PlacedSegment}
    (cut : grammar.placedFrom offset segments = first ++ placed :: second) :
    ∃ before after, segments = before ++ placed.segment :: after ∧
      first = grammar.placedFrom offset before ∧
      placed.offset = offset + byteLength (grammar.joined before) ∧
      second = grammar.placedFrom (placed.offset + placed.segment.byteLength grammar) after := by
  have read := grammar.map_segment_placedFrom offset segments
  rw [cut, List.map_append, List.map_cons] at read
  refine ⟨first.map (·.segment), second.map (·.segment), read.symm, ?_⟩
  have length := congrArg List.length
    (grammar.map_segment_placedFrom offset (first.map (·.segment)))
  rw [List.length_map, List.length_map] at length
  rw [← read, placedFrom_append_cons] at cut
  obtain ⟨before, here⟩ := List.append_inj cut length
  obtain ⟨same, after⟩ := List.cons.inj here
  have place := (congrArg (·.offset) same).symm
  exact ⟨before.symm, place, by rw [place, after]⟩

theorem placedFrom_shift (offset bytes : Nat) (segments : List Segment) :
    grammar.placedFrom (offset + bytes) segments =
      (grammar.placedFrom offset segments).map (PlacedSegment.shift bytes) := by
  induction segments generalizing offset with
  | nil => rfl
  | cons segment segments ih =>
      have shifted := ih (offset + segment.byteLength grammar)
      rw [Nat.add_right_comm] at shifted
      simp [placedFrom, shifted, PlacedSegment.shift]

/-- The delimiters of texts in a row, when nothing crosses the seam. -/
theorem delimiters_append {first second : Text}
    (seam : grammar.segments (first ++ second) =
      grammar.segments first ++ grammar.segments second) :
    grammar.delimiters (first ++ second) =
      grammar.delimiters first ++
        (grammar.delimiters second).map (PlacedSegment.shift (byteLength first)) := by
  have shifted := grammar.placedFrom_shift 0 (byteLength first) (grammar.segments second)
  unfold delimiters
  rw [seam, placedFrom_append, joined_segments, shifted, List.filter_append, List.filter_map]
  rfl

theorem delimiters_eq_nil_iff {text : Text} :
    grammar.delimiters text = [] ↔
      ∀ segment ∈ grammar.segments text, segment.isDelimiter = false := by
  have read := grammar.map_segment_placedFrom 0 (grammar.segments text)
  unfold delimiters
  rw [List.filter_eq_nil_iff]
  constructor
  · intro none segment member
    rw [← read] at member
    obtain ⟨placed, isPlaced, rfl⟩ := List.mem_map.mp member
    simpa using none placed isPlaced
  · intro none placed isPlaced
    have inText : placed.segment ∈ grammar.segments text := by
      rw [← read]
      exact List.mem_map_of_mem isPlaced
    simp [none _ inText]

theorem delimiters_eq_nil_of_madeOf {text : Text}
    (made : grammar.MadeOf grammar.OutsideDelimiters text) : grammar.delimiters text = [] :=
  delimiters_eq_nil_iff.mpr made.isDelimiter_eq_false

/-! ## Dangling escapes -/

/-- The number of escape characters at the end of a text. -/
def trailingEscapes (grammar : Grammar) (text : Text) : Nat :=
  (text.reverse.takeWhile (· = grammar.escape)).length

/-- Only the parity of the escapes at the end of each text matters. -/
theorem trailingEscapes_append_mod_two {first : Text}
    (paired : grammar.trailingEscapes first % 2 = 0) (second : Text) :
    grammar.trailingEscapes (first ++ second) % 2 = grammar.trailingEscapes second % 2 := by
  unfold trailingEscapes at paired ⊢
  rw [List.reverse_append, List.takeWhile_append]
  split
  next escapesOnly =>
    rw [List.length_append, escapesOnly]
    omega
  · rfl

theorem trailingEscapes_eq_zero {text : Text} (free : grammar.escape ∉ text) :
    grammar.trailingEscapes text = 0 := by
  have none : ∀ c ∈ text.reverse, ¬ decide (c = grammar.escape) = true := by
    intro c member same
    rw [of_decide_eq_true same] at member
    exact free (List.mem_reverse.mp member)
  unfold trailingEscapes
  rw [List.length_eq_zero_iff]
  cases reversed : text.reverse with
  | nil => rfl
  | cons c rest => exact List.takeWhile_cons_of_neg (none c (by simp [reversed]))

theorem trailingEscapes_drop_mod_two {beginning text : Text} (free : grammar.escape ∉ beginning)
    (begins : beginning <+: text) :
    grammar.trailingEscapes text % 2 =
      grammar.trailingEscapes (text.drop beginning.length) % 2 := by
  have paired : grammar.trailingEscapes beginning % 2 = 0 := by rw [trailingEscapes_eq_zero free]
  have parity := trailingEscapes_append_mod_two paired (text.drop beginning.length)
  rwa [List.prefix_iff_eq_append.mp begins] at parity

theorem trailingEscapes_pair (grammar : Grammar) (next : Char) :
    grammar.trailingEscapes [grammar.escape, next] % 2 = 0 := by
  by_cases escapes : next = grammar.escape <;> simp [trailingEscapes, escapes]

/-- A character that only escape pairs hold comes after an odd run of escape
characters. -/
theorem MadeOf.trailingEscapes_before {target : Char} (notEscape : target ≠ grammar.escape)
    {text : Text} (made : grammar.MadeOf (· ≠ target) text) {before after : Text}
    (cut : text = before ++ target :: after) : grammar.trailingEscapes before % 2 = 1 := by
  induction made generalizing before with
  | nil => simp at cut
  | pair next made ih =>
      match before with
      | [] => exact absurd (List.cons.inj cut).1.symm notEscape
      | [first] =>
          obtain ⟨rfl, -⟩ := List.cons.inj cut
          simp [trailingEscapes]
      | first :: second :: before =>
          simp only [List.cons_append, List.cons.injEq] at cut
          obtain ⟨rfl, rfl, cut⟩ := cut
          have parity := trailingEscapes_append_mod_two (grammar.trailingEscapes_pair next) before
          rw [List.cons_append, List.cons_append, List.nil_append] at parity
          rw [parity, ih cut]
  | @single c rest bare differs made ih =>
      cases before with
      | nil => exact absurd (List.cons.inj cut).1 differs
      | cons first before =>
          simp only [List.cons_append, List.cons.injEq] at cut
          obtain ⟨rfl, cut⟩ := cut
          have begins : [c] <+: c :: before := ⟨before, rfl⟩
          have parity := trailingEscapes_drop_mod_two (by simpa using bare.symm) begins
          rw [parity, List.length_singleton, List.drop_one, List.tail_cons, ih cut]

/-- The last escape character escapes nothing exactly if it ends an odd run. -/
theorem endsInEscape_iff {text : Text} :
    grammar.EndsInEscape text ↔ grammar.trailingEscapes text % 2 = 1 := by
  unfold EndsInEscape
  fun_induction segments grammar text with
  | case1 => simp [trailingEscapes]
  | case2 => simp [trailingEscapes]
  | case3 next rest ih =>
      have parity := trailingEscapes_append_mod_two (grammar.trailingEscapes_pair next) rest
      rw [List.cons_append, List.cons_append, List.nil_append] at parity
      simp [parity, ih]
  | case4 c rest notEscape opens ih =>
      simp [trailingEscapes_drop_mod_two grammar.escape_not_mem_delimiters.1 opens, ih]
  | case5 c rest notEscape notOpens closes ih =>
      simp [trailingEscapes_drop_mod_two grammar.escape_not_mem_delimiters.2 closes, ih]
  | case6 c rest notEscape notOpens notCloses ih =>
      have free : grammar.escape ∉ [c] := by simpa using Ne.symm notEscape
      have begins : [c] <+: c :: rest := ⟨rest, rfl⟩
      simp [trailingEscapes_drop_mod_two free begins, ih]

/-! ## Escaped values -/

theorem madeOf_escapeValue (grammar : Grammar) (guardAssignment : Bool) (value : Text) :
    grammar.MadeOf grammar.OutsideDelimiters (grammar.escapeValue guardAssignment value) := by
  refine madeOf_escapeReserved _ fun c _ bare => ?_
  rcases bare with rfl | free
  · exact grammar.assignment_not_mem_delimiters
  · exact (isReserved_eq_false_iff.mp free).2.2.2

theorem escapeReserved_ne_nil {value : Text} (nonempty : value ≠ []) (guarded : Bool) :
    grammar.escapeReserved guarded value ≠ [] := by
  cases value with
  | nil => exact absurd rfl nonempty
  | cons c rest =>
      unfold escapeReserved
      split
      · split <;> simp
      · split <;> simp

/-- Between two texts of which the first leaves no escape character unpaired, an
escaped value has no effect on the delimiters. -/
theorem delimiters_append_escapeValue {first value : Text}
    (paired : grammar.trailingEscapes first % 2 = 0) (nonempty : value ≠ [])
    (guardAssignment : Bool) (second : Text) :
    grammar.delimiters (first ++ grammar.escapeValue guardAssignment value ++ second) =
      grammar.delimiters first ++ (grammar.delimiters second).map
        (PlacedSegment.shift
          (byteLength first + byteLength (grammar.escapeValue guardAssignment value))) := by
  have complete : ¬ grammar.EndsInEscape first := by
    rw [endsInEscape_iff]
    omega
  have made := grammar.madeOf_escapeValue guardAssignment value
  have written : grammar.escapeValue guardAssignment value ≠ [] := escapeReserved_ne_nil nonempty _
  have before := delimiters_append
    (segments_append_of_beginsOutside complete (made.beginsOutside written second))
  have after := delimiters_append (made.segments_append second)
  rw [List.append_assoc, before, after, delimiters_eq_nil_of_madeOf made, List.nil_append,
    List.map_map]
  congr 2
  funext placed
  simp [PlacedSegment.shift]
  omega

/-- The first text ends in half a delimiter after an escape pair.  The value would
close the unit, open another one and escape what follows. -/
theorem delimiters_around_hostile_value :
    Grammar.default.trailingEscapes "\x7b\x7ba|\\\\\x7b".toList % 2 = 0 ∧
      "\x7d\x7d\x7b\x7b=|\\".toList ≠ [] ∧
      Grammar.default.delimiters ("\x7b\x7ba|\\\\\x7b".toList ++
          Grammar.default.escapeValue true "\x7d\x7d\x7b\x7b=|\\".toList ++
          "\x7bb\x7d\x7d".toList) =
        [⟨0, .opening⟩, ⟨22, .closing⟩] := by
  have paired : Grammar.default.trailingEscapes "\x7b\x7ba|\\\\\x7b".toList % 2 = 0 := by
    decide
  have nonempty : "\x7d\x7d\x7b\x7b=|\\".toList ≠ [] := by simp
  have around := delimiters_append_escapeValue paired nonempty true "\x7bb\x7d\x7d".toList
  have before : Grammar.default.delimiters "\x7b\x7ba|\\\\\x7b".toList = [⟨0, .opening⟩] := by
    cbv
  have after : Grammar.default.delimiters "\x7bb\x7d\x7d".toList = [⟨2, .closing⟩] := by cbv
  have passed : byteLength "\x7b\x7ba|\\\\\x7b".toList + byteLength
      (Grammar.default.escapeValue true "\x7d\x7d\x7b\x7b=|\\".toList) = 20 := by cbv
  rw [before, after, passed] at around
  exact ⟨paired, nonempty, around⟩

end Grammar

end CallMarkup
