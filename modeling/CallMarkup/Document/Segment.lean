import CallMarkup.Grammar.Basic

/-!
# Segments of a text

Read from left to right, a text falls into escape pairs, opening delimiters,
closing delimiters and single characters.  Only the delimiters among these
segments are active; one that begins with an escaped character is none.
`flatMap_text_segments` says that the segments put together are the text.
-/

namespace CallMarkup

/-- A piece of a text as a reader of units sees it. -/
inductive Segment
  /-- The escape character with the character after it, if any. -/
  | escaped (next : Option Char)
  | opening
  | closing
  | plain (c : Char)
  deriving DecidableEq

namespace Segment

def text (grammar : Grammar) : Segment → Text
  | .escaped next => grammar.escape :: next.toList
  | .opening => grammar.leadIn
  | .closing => grammar.leadOut
  | .plain c => [c]

def byteLength (grammar : Grammar) (segment : Segment) : Nat :=
  CallMarkup.byteLength (segment.text grammar)

def isDelimiter : Segment → Bool
  | .opening | .closing => true
  | .escaped _ | .plain _ => false

/-- Whether a segment is a line break that ends every open unit. -/
def endsLine (grammar : Grammar) (segment : Segment) : Bool :=
  !grammar.multiline && segment == .plain '\n'

end Segment

namespace Grammar

/-- The segments of a text, from left to right. -/
def segments (grammar : Grammar) : Text → List Segment
  | [] => []
  | c :: rest =>
    if c = grammar.escape then
      match rest with
      | [] => [.escaped none]
      | next :: rest => .escaped (some next) :: grammar.segments rest
    else if grammar.leadIn <+: c :: rest then
      .opening :: grammar.segments ((c :: rest).drop grammar.leadIn.length)
    else if grammar.leadOut <+: c :: rest then
      .closing :: grammar.segments ((c :: rest).drop grammar.leadOut.length)
    else .plain c :: grammar.segments rest
termination_by text => text.length
decreasing_by
  · simp only [List.length_cons]
    omega
  · have := List.length_pos_iff.mpr grammar.valid.leadIn_ne_nil
    simp only [List.length_drop, List.length_cons]
    omega
  · have := List.length_pos_iff.mpr grammar.valid.leadOut_ne_nil
    simp only [List.length_drop, List.length_cons]
    omega
  · exact Nat.lt_succ_self _

theorem flatMap_text_segments (grammar : Grammar) (text : Text) :
    (grammar.segments text).flatMap (·.text grammar) = text := by
  fun_induction segments grammar text with
  | case1 => rfl
  | case2 => simp_all [Segment.text]
  | case3 next rest ih => simp_all [Segment.text]
  | case4 c rest notEscape opens ih =>
      rw [List.flatMap_cons, ih]
      exact (List.prefix_iff_eq_append.mp opens)
  | case5 c rest notEscape notOpens closes ih =>
      rw [List.flatMap_cons, ih]
      exact (List.prefix_iff_eq_append.mp closes)
  | case6 c rest notEscape notOpens notCloses ih =>
      rw [List.flatMap_cons, ih]
      rfl

end Grammar

end CallMarkup
