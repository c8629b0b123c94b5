import CallMarkup.Proofs.Regex.Assembly
import CallMarkup.Proofs.Regex.Matches

/-!
# Groups of a match

On the way through an expression the edges of a group are passed in pairs, the
opening one first.  So the latest closing edge of a group comes after its latest
opening edge, and what a match says about a group is a piece of the text within the
match: `RegexMatch.SpelledBy.groupText`.
-/

namespace CallMarkup

namespace Cursor

/-- A position is reached from another one. -/
def Precedes (cursor later : Cursor) : Prop :=
  ∃ count, later = cursor.advance count

variable {first second third : Cursor}

theorem Precedes.refl (cursor : Cursor) : cursor.Precedes cursor :=
  ⟨0, rfl⟩

theorem Precedes.trans (one : first.Precedes second) (two : second.Precedes third) :
    first.Precedes third := by
  obtain ⟨count, rfl⟩ := one
  obtain ⟨more, rfl⟩ := two
  exact ⟨count + more, (first.advance_add count more).symm⟩

theorem Precedes.offset_le (precedes : first.Precedes second) : first.offset ≤ second.offset := by
  obtain ⟨count, rfl⟩ := precedes
  exact first.offset_le_advance count

end Cursor

/-- Where marks pass an edge last. -/
def lastAt? (marks : List Mark) (edge : GroupEdge) : Option Cursor :=
  (marks.find? (·.edge = edge)).map (·.cursor)

theorem lastAt?_append (later earlier : List Mark) (edge : GroupEdge) :
    lastAt? (later ++ earlier) edge = (lastAt? later edge).or (lastAt? earlier edge) := by
  rw [lastAt?, List.find?_append, Option.map_or]
  rfl

/-- Marks on the way between two positions pass both edges of a group, or neither. -/
inductive Paired (index : Nat) (start stop : Cursor) (marks : List Mark) : Prop
  | unpassed (noOpening : lastAt? marks (.opening index) = none)
      (noClosing : lastAt? marks (.closing index) = none)
  | passed {opening closing : Cursor} (opens : lastAt? marks (.opening index) = some opening)
      (closes : lastAt? marks (.closing index) = some closing) (begins : start.Precedes opening)
      (inOrder : opening.Precedes closing) (ends : closing.Precedes stop)

/-- A passage moves forward and passes the edges of a group in pairs. -/
structure Passage.Pairs (passage : Passage) (index : Nat) : Prop where
  forward : ∀ {start stop marks}, passage start stop marks → start.Precedes stop
  paired : ∀ {start stop marks}, passage start stop marks → Paired index start stop marks

namespace Passage.Pairs

variable {passage first second : Passage} {index : Nat}

/-- A passage that makes no marks. -/
theorem of_forward (forward : ∀ {start stop marks}, passage start stop marks →
    start.Precedes stop ∧ marks = []) : passage.Pairs index where
  forward passes := (forward passes).1
  paired passes := by
    obtain ⟨-, rfl⟩ := forward passes
    exact .unpassed rfl rfl

theorem stay : Passage.stay.Pairs index :=
  of_forward fun passes => ⟨passes.1 ▸ .refl _, passes.2⟩

theorem read (accepts : CharSet) : (Passage.read accepts).Pairs index := by
  refine of_forward ?_
  rintro start _ _ ⟨_, _, -, -, rfl, rfl⟩
  exact ⟨⟨1, rfl⟩, rfl⟩

theorem test (condition : Assertion) : (Passage.test condition).Pairs index := by
  refine of_forward ?_
  rintro start _ _ ⟨-, rfl, rfl⟩
  exact ⟨.refl _, rfl⟩

theorem andThen (begins : first.Pairs index) (ends : second.Pairs index) :
    (first.andThen second).Pairs index where
  forward := by
    rintro _ _ _ ⟨_, _, _, one, two, rfl⟩
    exact (begins.forward one).trans (ends.forward two)
  paired := by
    rintro start stop _ ⟨between, earlier, later, one, two, rfl⟩
    -- The later part decides, unless it does not pass the group.
    cases ends.paired two with
    | passed opens closes starts inOrder stops =>
        exact .passed (by simp [lastAt?_append, opens]) (by simp [lastAt?_append, closes])
          ((begins.forward one).trans starts) inOrder stops
    | unpassed noOpening noClosing =>
        cases begins.paired one with
        | unpassed noneOpens noneCloses =>
            exact .unpassed (by simp [lastAt?_append, noOpening, noneOpens])
              (by simp [lastAt?_append, noClosing, noneCloses])
        | passed opens closes starts inOrder stops =>
            exact .passed (by simp [lastAt?_append, noOpening, opens])
              (by simp [lastAt?_append, noClosing, closes]) starts inOrder
              (stops.trans (ends.forward two))

theorem either (one : first.Pairs index) (two : second.Pairs index) :
    (first.either second).Pairs index where
  forward passes := passes.elim one.forward two.forward
  paired passes := passes.elim one.paired two.paired

theorem rounds (round : passage.Pairs index) (count : Nat) :
    (passage.rounds count).Pairs index := by
  induction count with
  | zero => exact stay
  | succ count ih => exact round.andThen ih

theorem within (round : passage.Pairs index) (bounds : Bounds) :
    (passage.within bounds).Pairs index where
  forward := by
    rintro _ _ _ ⟨count, -, -, passes⟩
    exact (round.rounds count).forward passes
  paired := by
    rintro _ _ _ ⟨count, -, -, passes⟩
    exact (round.rounds count).paired passes

/-- What lies between the edges of a group. -/
theorem group {inner : Regex} (within : inner.Spells.Pairs index) (group : Nat) :
    (Regex.group group inner).Spells.Pairs index where
  forward passes := by
    obtain ⟨_, inside, -⟩ := Regex.spells_group.mp passes
    exact within.forward inside
  paired {start stop _} passes := by
    obtain ⟨marks, inside, rfl⟩ := Regex.spells_group.mp passes
    rw [← List.singleton_append]
    by_cases same : group = index
    · subst same
      -- An opening edge of the same group within would be the later one.
      have closes : lastAt? ([⟨.closing group, stop⟩] ++ (marks ++ [⟨.opening group, start⟩]))
          (.closing group) = some stop := by simp [lastAt?]
      have opens : lastAt? ([⟨.closing group, stop⟩] ++ (marks ++ [⟨.opening group, start⟩]))
          (.opening group) = (lastAt? marks (.opening group)).or (some start) := by
        rw [lastAt?_append, lastAt?_append]
        simp [lastAt?]
      cases within.paired inside with
      | unpassed noOpening _ =>
          rw [noOpening, Option.none_or] at opens
          exact .passed opens closes (.refl _) (within.forward inside) (.refl _)
      | passed opensWithin _ starts inOrder stops =>
          rw [opensWithin, Option.some_or] at opens
          exact .passed opens closes starts (inOrder.trans stops) (.refl _)
    · have untouched (edge : GroupEdge) (notOpening : GroupEdge.opening group ≠ edge)
          (notClosing : GroupEdge.closing group ≠ edge) :
          lastAt? ([⟨.closing group, stop⟩] ++ (marks ++ [⟨.opening group, start⟩])) edge =
            lastAt? marks edge := by
        rw [lastAt?_append, lastAt?_append]
        simp [lastAt?, notOpening, notClosing]
      have opening := untouched (.opening index) (by simpa using same) (by simp)
      have closing := untouched (.closing index) (by simp) (by simpa using same)
      cases within.paired inside with
      | unpassed noOpening noClosing =>
          exact .unpassed (opening.trans noOpening) (closing.trans noClosing)
      | passed opens closes starts inOrder stops =>
          exact .passed (opening.trans opens) (closing.trans closes) starts inOrder stops

end Passage.Pairs

theorem Regex.spells_pairs (expr : Regex) (index : Nat) : expr.Spells.Pairs index := by
  induction expr with
  | empty => exact .stay
  | literal chars => exact .of_forward fun passes => ⟨⟨_, passes.2.1⟩, passes.2.2⟩
  | set accepts unicode => exact .read accepts
  | assertion condition => exact .test condition
  | group index inner ih => exact ih.group index
  | repeated inner bounds greedy ih => exact ih.within bounds
  | seq first rest ihFirst ihRest => exact ihFirst.andThen ihRest
  | alt first rest ihFirst ihRest => exact ihFirst.either ihRest

namespace Program

variable {program : Program} {text : Text}

/-- What holds of whatever a search finds in a text holds of every match in it. -/
theorem forall_mem_matchesFrom (Property : RegexMatch → Prop)
    (finds : ∀ {cursor hit}, cursor.StandsIn text → program.search? cursor = some hit →
      Property (hit.matchAfter cursor)) {blocked : Bool} {found : Array RegexMatch}
    {cursor : Cursor} (stands : cursor.StandsIn text) (holds : ∀ one ∈ found, Property one) :
    ∀ one ∈ program.matchesFrom blocked found cursor, Property one := by
  have pushed {found : Array RegexMatch} {one : RegexMatch} (holds : ∀ one ∈ found, Property one)
      (new : Property one) : ∀ other ∈ found.push one, Property other := by
    intro other member
    rcases Array.mem_push.mp member with before | rfl
    · exact holds other before
    · exact new
  fun_induction matchesFrom program blocked found cursor with
  | case1 => exact holds
  | case2 => exact holds
  | case3 blocked found cursor hit searched hitAt atEnd free =>
      exact pushed holds (finds stands searched)
  | case4 blocked found cursor hit searched hitAt notAtEnd empty ih =>
      refine ih stands.next ?_
      split
      · exact holds
      · exact pushed holds (finds stands searched)
  | case5 blocked found cursor hit searched hitAt notAtEnd notEmpty ih =>
      exact ih (stands.advance _) (pushed holds (finds stands searched))

end Program

theorem Cursor.textUpTo_advance (cursor : Cursor) (count : Nat) :
    cursor.textUpTo (cursor.advance count).offset = cursor.rest.take count := by
  have whole := takeBytes_byteLength_append (cursor.rest.take count) (cursor.rest.drop count)
  rw [List.take_append_drop] at whole
  rw [textUpTo, advance_offset, Nat.add_sub_cancel_left]
  exact whole

theorem Cursor.StandsIn.textUpTo_eq_slice {text : Text} {cursor : Cursor}
    (stands : cursor.StandsIn text) (count : Nat) :
    cursor.textUpTo (cursor.advance count).offset =
      Span.slice text ⟨cursor.offset, (cursor.advance count).offset⟩ := by
  obtain ⟨before, rfl, offset⟩ := stands
  have cut := Span.slice_append before (cursor.rest.take count) (cursor.rest.drop count)
  rw [List.take_append_drop] at cut
  rw [textUpTo_advance, advance_offset, offset, cut]

namespace RegexMatch

/-- A match of an expression in a text: the expression spells it, from a position of
the text on. -/
structure SpelledBy (found : RegexMatch) (expr : Regex) (text : Text) : Prop where
  stands : found.start.StandsIn text
  spells : expr.Spells found.start found.stop found.marks

variable {found : RegexMatch} {expr : Regex} {text : Text}

theorem spelledBy_of_mem_findAll (member : found ∈ expr.program.findAll text) :
    found.SpelledBy expr text :=
  Program.forall_mem_matchesFrom (SpelledBy · expr text)
    (fun stands searched => ⟨stands.advance _, Regex.spells_of_search? searched⟩)
    (Cursor.atStart_standsIn text) (by simp) found (Array.mem_toList_iff.mp member)

/-- Whether a group takes part in a match: its end has been passed. -/
def Passes (found : RegexMatch) (index : Nat) : Prop :=
  ∃ mark ∈ found.marks, mark.edge = .closing index

/-- Where a group stands in a text. -/
def groupSpan? (found : RegexMatch) (index : Nat) : Option Span := do
  let stop ← found.edge? (.closing index)
  let start ← found.edge? (.opening index)
  return ⟨start.offset, stop.offset⟩

/-- What a match in a text says about a group: if the group takes part, the piece of the
text between its edges, which lies within the match, and otherwise nothing. -/
structure GroupText (found : RegexMatch) (text : Text) (index : Nat) (value : Option Text) :
    Prop where
  takesPart : value.isSome ↔ found.Passes index
  standsIn : ∀ piece ∈ value, ∃ span, found.groupSpan? index = some span ∧ span.FitsIn text ∧
    found.span.start ≤ span.start ∧ span.stop ≤ found.span.stop ∧ piece = span.slice text

theorem edge?_eq_none_iff {edge : GroupEdge} :
    found.edge? edge = none ↔ ∀ mark ∈ found.marks, mark.edge ≠ edge := by
  simp [edge?]

theorem SpelledBy.groupText (spelled : found.SpelledBy expr text) (index : Nat) :
    found.GroupText text index (found.group? index) := by
  cases (expr.spells_pairs index).paired spelled.spells with
  | unpassed noOpening noClosing =>
      have nowhere : found.edge? (.closing index) = none := noClosing
      have absent : ¬ found.Passes index := by
        simpa [Passes] using edge?_eq_none_iff.mp nowhere
      have none : found.group? index = none := by simp [group?, nowhere]
      rw [none]
      exact ⟨by simpa using absent, nofun⟩
  | @passed opening closing opens closes begins inOrder ends =>
      have standing : opening.StandsIn text := by
        obtain ⟨count, rfl⟩ := begins
        exact spelled.stands.advance count
      have openedAt : found.edge? (.opening index) = some opening := opens
      have closedAt : found.edge? (.closing index) = some closing := closes
      have present : found.Passes index := by
        have passed := mt edge?_eq_none_iff.mpr (closedAt ▸ Option.some_ne_none closing)
        simpa [Passes] using passed
      have value : found.group? index = some (opening.textUpTo closing.offset) := by
        simp [group?, openedAt, closedAt]
      rw [value]
      refine ⟨by simpa using present, ?_⟩
      rintro _ ⟨⟩
      refine ⟨⟨opening.offset, closing.offset⟩, by simp [groupSpan?, openedAt, closedAt], ?_,
        begins.offset_le, ends.offset_le, ?_⟩
      all_goals obtain ⟨count, rfl⟩ := inOrder
      · exact standing.fitsIn count
      · exact standing.textUpTo_eq_slice count

end RegexMatch

end CallMarkup
