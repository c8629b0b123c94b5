import CallMarkup.Proofs.Document.Balance
import CallMarkup.Proofs.Document.Resolution

/-!
# Self-contained texts

A text is self-contained when it is read in the same way whatever follows it.
This is so of every text that ends in a character outside delimiters, even
after a dangling escape: the escape then takes this character along and nothing
else.  Between delimiters, a self-contained text makes up a whole unit exactly
if a unit continues past all of it.
-/

namespace CallMarkup.Grammar

variable {grammar : Grammar}

/-- What follows a text does not change how the text is read. -/
def SelfContained (grammar : Grammar) (text : Text) : Prop :=
  ∀ rest, grammar.segments (text ++ rest) = grammar.segments text ++ grammar.segments rest

theorem SelfContained.append {first second : Text} (containedFirst : grammar.SelfContained first)
    (containedSecond : grammar.SelfContained second) : grammar.SelfContained (first ++ second) := by
  intro rest
  rw [List.append_assoc, containedFirst, containedSecond, containedFirst, List.append_assoc]

theorem MadeOf.selfContained {text : Text}
    (made : grammar.MadeOf grammar.OutsideDelimiters text) : grammar.SelfContained text :=
  made.segments_append

/-! ## Ending outside delimiters -/

/-- A dangling escape is the last character of its text, and the text before it
has none. -/
theorem exists_of_endsInEscape {text : Text} (ends : grammar.EndsInEscape text) :
    ∃ front, text = front ++ [grammar.escape] ∧ ¬ grammar.EndsInEscape front ∧
      grammar.segments text = grammar.segments front ++ [.escaped none] := by
  obtain ⟨earlier, later, read⟩ := List.append_of_mem ends
  obtain ⟨readEarlier, readLater⟩ := segments_joined_of_append read
  obtain rfl := eq_nil_of_dangling readLater
  refine ⟨grammar.joined earlier, ?_, ?_, by rw [readEarlier, read]⟩
  · rw [← grammar.joined_segments text, read]
    simp [Segment.text]
  · unfold EndsInEscape
    rw [readEarlier]
    exact dangling_not_mem_before read

/-- A character outside delimiters is read as one segment, alone or with the
dangling escape before it, and what follows is read from its beginning. -/
theorem segments_append_outside {c : Char} (notEscape : c ≠ grammar.escape)
    (outside : grammar.OutsideDelimiters c) (text : Text) :
    ∃ before seam,
      (∀ rest, grammar.segments (text ++ c :: rest) = before ++ seam :: grammar.segments rest) ∧
      ((grammar.segments text = before ∧ seam = .plain c) ∨
        (grammar.segments text = before ++ [.escaped none] ∧ seam = .escaped (some c))) := by
  by_cases ends : grammar.EndsInEscape text
  · obtain ⟨front, rfl, complete, read⟩ := exists_of_endsInEscape ends
    refine ⟨grammar.segments front, .escaped (some c), fun rest => ?_, .inr ⟨read, rfl⟩⟩
    rw [List.append_assoc, List.singleton_append, segments_append_of_beginsOutside complete
      (beginsOutside_cons grammar.escape_not_mem_delimiters _), segments_pair]
  · refine ⟨grammar.segments text, .plain c, fun rest => ?_, .inl ⟨rfl, rfl⟩⟩
    rw [segments_append_of_beginsOutside ends (beginsOutside_cons outside rest),
      segments_outside notEscape outside]

theorem selfContained_append_outside {c : Char} (notEscape : c ≠ grammar.escape)
    (outside : grammar.OutsideDelimiters c) (text : Text) :
    grammar.SelfContained (text ++ [c]) := by
  obtain ⟨before, seam, read, -⟩ := segments_append_outside notEscape outside text
  intro rest
  rw [read [], segments_nil, List.append_assoc, List.singleton_append, read, List.append_assoc,
    List.singleton_append]

/-- An inert character keeps no unit from continuing, nor lets it continue. -/
theorem continuesPast_append_inert {c : Char} (notEscape : c ≠ grammar.escape)
    (inert : grammar.Inert c) (text : Text) :
    grammar.ContinuesPast (grammar.segments (text ++ [c])) ↔
      grammar.ContinuesPast (grammar.segments text) := by
  obtain ⟨before, seam, read, cases⟩ := segments_append_outside notEscape inert.1 text
  rw [read [], segments_nil]
  rcases cases with ⟨same, rfl⟩ | ⟨dangling, rfl⟩
  · simp [same, continues_plain inert]
  · simp [dangling, continues_escaped]

/-! ## Between delimiters -/

theorem SelfContained.segments_delimited {inner : Text}
    (contained : grammar.SelfContained inner) :
    grammar.segments (grammar.delimited inner) =
      .opening :: (grammar.segments inner ++ [.closing]) := by
  have closing : grammar.segments grammar.leadOut = [.closing] := by
    simpa using grammar.segments_leadOut []
  rw [delimited, List.append_assoc, segments_leadIn, contained, closing]

/-- A text is one unit from its beginning to its end. -/
def IsOneUnit (grammar : Grammar) (text : Text) : Prop :=
  ∃ unit, grammar.units text = [unit] ∧ unit.span = ⟨0, byteLength text⟩

theorem eq_nil_of_joined_eq_nil {text : Text} {before after : List Segment}
    (read : grammar.segments text = before ++ after) (nothing : grammar.joined before = []) :
    before = [] := by
  have readBefore := (segments_joined_of_append read).1
  rwa [nothing, segments_nil, eq_comm] at readBefore

/-- A unit that is as long as its text is all of it. -/
theorem segments_of_isOneUnit {text : Text} (whole : grammar.IsOneUnit text) :
    ∃ body, grammar.segments text = .opening :: (body ++ [.closing]) ∧
      grammar.ContinuesPast body := by
  obtain ⟨unit, units, covers⟩ := whole
  have member : unit ∈ grammar.units text := by simp [units]
  obtain ⟨before, body, after, read, continues, rfl⟩ := mem_unitsFrom_iff.mp member
  have total := grammar.joined_segments text
  rw [read] at total
  simp only [unitAround, Span.mk.injEq, ← total] at covers
  have atStart : byteLength (grammar.joined before) = 0 := by omega
  obtain rfl : before = [] :=
    eq_nil_of_joined_eq_nil read (eq_nil_of_byteLength_eq_zero atStart)
  have atEnd : byteLength (grammar.joined after) = 0 := by
    simp [Segment.text] at covers
    omega
  have split : grammar.segments text = (.opening :: (body ++ [.closing])) ++ after := by
    simpa using read
  have readAfter := (segments_joined_of_append split).2
  rw [eq_nil_of_byteLength_eq_zero atEnd, segments_nil] at readAfter
  exact ⟨body, by simpa [← readAfter] using read, continues⟩

/-- What is found between delimiters past which a unit continues. -/
theorem units_of_segments {text : Text} {body : List Segment}
    (read : grammar.segments text = .opening :: (body ++ [.closing]))
    (continues : grammar.ContinuesPast body) :
    grammar.units text = [⟨⟨0, byteLength text⟩, grammar.joined body⟩] := by
  have total := grammar.joined_segments text
  rw [read] at total
  unfold units
  rw [read, unitsFrom_complete continues, unitsFrom, ← total]
  simp [unitAround, Segment.text]

theorem units_delimited_of_isOneUnit {inner : Text}
    (whole : grammar.IsOneUnit (grammar.delimited inner)) :
    grammar.units (grammar.delimited inner) =
      [⟨⟨0, byteLength (grammar.delimited inner)⟩, inner⟩] := by
  obtain ⟨body, read, continues⟩ := segments_of_isOneUnit whole
  have total := grammar.joined_segments (grammar.delimited inner)
  rw [read] at total
  obtain rfl : grammar.joined body = inner := by simpa [delimited, Segment.text] using total
  exact units_of_segments read continues

/-- Between delimiters, a self-contained text makes one unit exactly if a unit
continues past all of it. -/
theorem SelfContained.isOneUnit_delimited_iff {inner : Text}
    (contained : grammar.SelfContained inner) :
    grammar.IsOneUnit (grammar.delimited inner) ↔
      grammar.ContinuesPast (grammar.segments inner) := by
  constructor
  · intro whole
    obtain ⟨body, read, continues⟩ := segments_of_isOneUnit whole
    rw [contained.segments_delimited] at read
    obtain rfl : grammar.segments inner = body := by simpa using read
    exact continues
  · intro continues
    exact ⟨_, units_of_segments contained.segments_delimited continues, rfl⟩

/-- Segments past which a unit continues neither open nor close anything. -/
theorem imbalanceFrom?_append {body : List Segment} (continues : grammar.ContinuesPast body)
    (offset : Nat) (opened : List Nat) (following : List Segment) :
    grammar.imbalanceFrom? offset opened (body ++ following) =
      grammar.imbalanceFrom? (offset + byteLength (grammar.joined body)) opened following := by
  induction body generalizing offset with
  | nil => simp
  | cons segment body ih =>
      have passed : grammar.continues segment = true := continues segment (by simp)
      have later := ih (fun other member => continues other (by simp [member]))
        (offset + segment.byteLength grammar)
      simp only [Grammar.continues, Bool.and_eq_true, Bool.not_eq_true'] at passed
      cases segment with
      | opening => simp [Segment.isDelimiter] at passed
      | closing => simp [Segment.isDelimiter] at passed
      | escaped next =>
          simpa [imbalanceFrom?, passed.2, Segment.byteLength, Nat.add_assoc] using later
      | plain c => simpa [imbalanceFrom?, passed.2, Segment.byteLength, Nat.add_assoc] using later

/-- A text that is one unit is balanced. -/
theorem findImbalance?_of_isOneUnit {text : Text} (whole : grammar.IsOneUnit text) :
    grammar.findImbalance? text = none := by
  obtain ⟨body, read, continues⟩ := segments_of_isOneUnit whole
  unfold findImbalance?
  rw [read, imbalanceFrom?, imbalanceFrom?_append continues]
  rfl

end CallMarkup.Grammar
