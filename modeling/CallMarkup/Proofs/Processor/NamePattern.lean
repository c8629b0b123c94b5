import Mathlib
import CallMarkup.Proofs.Processor.Matching
import CallMarkup.Proofs.Regex.Groups
import CallMarkup.Proofs.Regex.Reading

/-!
# The pattern for a name

There is a regular expression for the units of one name: the name, character by character,
and then nothing or a separator with any text after it.  It is read as the expression that
one expects, whatever the characters of the name and the separator mean in a pattern, and
its size is bounded by that of the name.  In the text of a unit it finds the name and
captures the arguments exactly if cutting at the first separator that is not escaped gives
the same two parts.  So the units of a text are parted by their names.
-/

namespace CallMarkup

/-- The pattern for the units of one name: the name, and an argument text after a
separator. -/
def Grammar.namePattern (grammar : Grammar) (name : Text) : Text :=
  "(?s)^".toList ++ (Pattern.escaped name ++
    ("(?:".toList ++ (Pattern.escaped [grammar.separator] ++ "(?P<args>.*))?$".toList)))

namespace Pattern

variable {inGroup : Bool} {steps length count : Nat} {body : Body} {rest : Text}
  {names : List (Option Text)}

theorem readBody_args :
    readBody inGroup (steps + 1) body
        ⟨"(?P<args>".toList ++ rest, length, spanning, 0, []⟩ =
      (readBody true steps {} ⟨rest, length, spanning, 1, [some "args".toList]⟩).bind fun read =>
        readBody inGroup steps (body.add (.expr ⟨.group 1 read.1.value, read.1.depth + 1⟩))
          { read.2 with flags := spanning } := by
  rw [readBody]
  rfl

/-- Everything up to the end. -/
def anyText : Regex :=
  .repeated (.set .all true) ⟨0, none⟩ true

/-- What the pattern for a name holds after it: an argument text after a separator, if
there is one, and the end. -/
def argumentsPart (separator : Char) : Regex :=
  .repeated (.seq (.literal [separator]) (.group 1 anyText)) ⟨0, some 1⟩ true

theorem readBody_anyText :
    readBody true (steps + 3) {} ⟨".*))?$".toList, length, spanning, count, names⟩ =
      some (⟨anyText, 1⟩, ⟨")?$".toList, length, spanning, count, names⟩) := by
  have dot : readBody true (steps + 3) {} ⟨".*))?$".toList, length, spanning, count, names⟩ =
      readBody true (steps + 2) (({} : Body).add (.expr ⟨.set .all true, 0⟩))
        ⟨"*))?$".toList, length, spanning, count, names⟩ := readBody_single (by decide) rfl
  have star : readBody true (steps + 2) (({} : Body).add (.expr ⟨.set .all true, 0⟩))
      ⟨"*))?$".toList, length, spanning, count, names⟩ =
      readBody true (steps + 1) (({} : Body).add (.expr ⟨anyText, 1⟩))
        ⟨"))?$".toList, length, spanning, count, names⟩ := readBody_star (by decide)
  rw [dot, star]
  exact readBody_close

/-- What is read within the parentheses around the separator and the arguments. -/
theorem readBody_argumentsPart (separator : Char) :
    readBody true (steps + 6) {}
        ⟨escapedChar separator ++ "(?P<args>.*))?$".toList, length, spanning, 0, []⟩ =
      some (⟨.seq (.literal [separator]) (.group 1 anyText), 3⟩,
        ⟨"?$".toList, length, spanning, 1, [some "args".toList]⟩) := by
  have group : readBody true (steps + 5) (({} : Body).add (.expr ⟨.literal [separator], 0⟩))
      ⟨"(?P<args>.*))?$".toList, length, spanning, 0, []⟩ =
      (readBody true (steps + 4) {} ⟨".*))?$".toList, length, spanning, 1,
        [some "args".toList]⟩).bind fun read =>
          readBody true (steps + 4) ((({} : Body).add (.expr ⟨.literal [separator], 0⟩)).add
            (.expr ⟨.group 1 read.1.value, read.1.depth + 1⟩))
            { read.2 with flags := spanning } := readBody_args
  rw [readBody_escapedChar, group, readBody_anyText, Option.bind_some]
  exact readBody_close

/-- What is read after the name. -/
theorem readBody_afterName (separator : Char) :
    readBody false (steps + 8) body
        ⟨"(?:".toList ++ (escapedChar separator ++ "(?P<args>.*))?$".toList), length, spanning,
          0, []⟩ =
      some (((body.add (.expr ⟨argumentsPart separator, 5⟩)).add
          (.expr ⟨.assertion .textEnd, 0⟩)).nested,
        ⟨[], length, spanning, 1, [some "args".toList]⟩) := by
  have group : readBody false (steps + 8) body
      ⟨"(?:".toList ++ (escapedChar separator ++ "(?P<args>.*))?$".toList), length, spanning,
        0, []⟩ =
      (readBody true (steps + 7) {} ⟨escapedChar separator ++ "(?P<args>.*))?$".toList, length,
        spanning, 0, []⟩).bind fun read =>
          readBody false (steps + 7) (body.add (.expr ⟨read.1.value, read.1.depth + 1⟩))
            { read.2 with flags := spanning } := readBody_grouping
  rw [group, readBody_argumentsPart, Option.bind_some]
  refine (readBody_optional (by decide)).trans ?_
  exact readBody_textEnd.trans readBody_end

/-- What the pattern for a name is read as. -/
def nameExpr (separator : Char) (name : Text) : Regex :=
  .seq (.assertion .textStart) (.seq (.literal name)
    (.seq (argumentsPart separator) (.assertion .textEnd)))

theorem addText_current (body : Body) (text : Text) :
    (body.addText text).finished = body.finished ∧
      (body.addText text).current =
        text.reverse.map (fun c => .expr ⟨.literal [c], 0⟩) ++ body.current := by
  induction text generalizing body with
  | nil => exact ⟨rfl, rfl⟩
  | cons c text ih =>
      obtain ⟨finished, current⟩ := ih (body.add (.expr ⟨.literal [c], 0⟩))
      refine ⟨finished, ?_⟩
      rw [Body.addText, List.foldl_cons, ← Body.addText, current, List.reverse_cons,
        List.map_append, List.append_assoc]
      rfl

/-- The characters of a name become one literal. -/
theorem mergeLiterals_name {name : Text} (given : name ≠ []) (separator : Char) :
    Regex.mergeLiterals (name.map (fun c => .literal [c]) ++
        [argumentsPart separator, .assertion .textEnd]) =
      [.literal name, argumentsPart separator, .assertion .textEnd] := by
  induction name with
  | nil => exact absurd rfl given
  | cons c name ih =>
      cases name with
      | nil => rfl
      | cons next name =>
          rw [List.map_cons, List.cons_append, Regex.mergeLiterals, ih (List.cons_ne_nil _ _)]
          rfl

theorem listDepth_append {first : List Nat} {depth : Nat} (flat : ∀ one ∈ first, one = 0) :
    listDepth (0 :: 0 :: first ++ [depth, 0]) = depth + 1 := by
  have nothing : first.foldl max 0 = 0 := by
    induction first with
    | nil => rfl
    | cons one first ih =>
        obtain rfl := flat one List.mem_cons_self
        exact ih fun other member => flat other (List.mem_cons_of_mem _ member)
  simp [listDepth, nothing]

/-- What has been read of the pattern for a name in the end. -/
def nameBody (separator : Char) (name : Text) : Body :=
  ((((({} : Body).add .switches).add (.expr ⟨.assertion .textStart, 0⟩)).addText name).add
    (.expr ⟨argumentsPart separator, 5⟩)).add (.expr ⟨.assertion .textEnd, 0⟩)

theorem nameBody_parts (separator : Char) (name : Text) :
    (nameBody separator name).finished = [] ∧
      (nameBody separator name).current.reverse.map Part.nested =
        ⟨.empty, 0⟩ :: ⟨.assertion .textStart, 0⟩ :: name.map (fun c => ⟨.literal [c], 0⟩) ++
          [⟨argumentsPart separator, 5⟩, ⟨.assertion .textEnd, 0⟩] := by
  obtain ⟨finished, current⟩ := addText_current
    (({} : Body).add .switches |>.add (.expr ⟨.assertion .textStart, 0⟩)) name
  refine ⟨finished, ?_⟩
  simp only [nameBody, Body.add] at current ⊢
  simp [current, Part.nested, Function.comp_def]

theorem nameBody_alternative (separator : Char) {name : Text} (given : name ≠ []) :
    (nameBody separator name).alternative = ⟨nameExpr separator name, 6⟩ := by
  have depths : listDepth (0 :: 0 :: name.map (fun _ => 0) ++ [5, 0]) = 6 :=
    listDepth_append (by simp)
  have flattened : (Regex.empty :: Regex.assertion .textStart ::
      name.map (fun c => Regex.literal [c]) ++
        [argumentsPart separator, .assertion .textEnd]).flatMap Regex.parts =
      .assertion .textStart :: (name.map (fun c => .literal [c]) ++
        [argumentsPart separator, .assertion .textEnd]) := by
    simp [List.flatMap_map, Regex.parts, argumentsPart, ← List.map_eq_flatMap]
  rw [Body.alternative, (nameBody_parts separator name).2]
  simp only [List.map_append, List.map_cons, List.map_map, Function.comp_def, List.map_nil]
  rw [depths, Regex.concat, flattened, Regex.mergeLiterals, mergeLiterals_name given]
  · rfl
  · nofun

theorem nameBody_nested (separator : Char) {name : Text} (given : name ≠ []) :
    (nameBody separator name).nested = ⟨nameExpr separator name, 6⟩ := by
  rw [Body.nested, (nameBody_parts separator name).1, nameBody_alternative separator given]
  rfl

theorem length_le_escaped (text : Text) : text.length ≤ (escaped text).length := by
  induction text with
  | nil => exact Nat.le_refl _
  | cons c text ih =>
      have positive : 0 < (escapedChar c).length := by
        unfold escapedChar
        split <;> simp
      rw [escaped, List.flatMap_cons, List.length_append, List.length_cons, ← escaped]
      omega

theorem readBody_namePattern (grammar : Grammar) {name : Text} (given : name ≠ []) :
    readBody false ((grammar.namePattern name).length + 1) {} (.ofText (grammar.namePattern name)) =
      some (⟨nameExpr grammar.separator name, 6⟩,
        ⟨[], (grammar.namePattern name).length, spanning, 1, [some "args".toList]⟩) := by
  have enough : 10 + name.length ≤ (grammar.namePattern name).length + 1 := by
    have escapedLength := length_le_escaped name
    simp only [Grammar.namePattern, List.length_append]
    have start : "(?s)^".toList.length = 5 := rfl
    have group : "(?:".toList.length = 3 := rfl
    have ending : "(?P<args>.*))?$".toList.length = 15 := rfl
    omega
  obtain ⟨extra, steps⟩ := Nat.exists_eq_add_of_le enough
  have stepsToo : (grammar.namePattern name).length + 1 = (extra + 8) + name.length + 1 + 1 := by
    omega
  have separated : escaped [grammar.separator] = escapedChar grammar.separator :=
    List.flatMap_singleton ..
  have start : "(?s)^".toList = ['(', '?', 's', ')', '^'] := rfl
  rw [stepsToo, Remainder.ofText]
  generalize (grammar.namePattern name).length = length
  rw [Grammar.namePattern, start]
  simp only [List.cons_append, List.nil_append]
  rw [readBody_spanning, readBody_textStart, readBody_escaped, separated, readBody_afterName]
  exact congrArg (fun nested => some (nested, _)) (nameBody_nested grammar.separator given)

/-- The pattern for a name is read as the expression for it, unless this takes too much
room. -/
theorem read?_namePattern (grammar : Grammar) {name : Text} (given : name ≠ []) :
    read? (grammar.namePattern name) =
      if (nameExpr grammar.separator name).isWithinLimit then
        some ⟨(nameExpr grammar.separator name).program, [some "args".toList]⟩
      else none := by
  have body := readBody_namePattern grammar given
  split
  next small =>
    rw [read?_of_readBody body (by decide) small, heldNames_eq]
    rfl
  next large =>
    unfold read?
    rw [StateT.run, body]
    simp [large]

/-! ## What the expression for a name spells -/

variable {start stop : Cursor} {marks : List Mark} {separator : Char} {name : Text}

theorem contains_all (c : Char) : CharSet.all.contains c = true := by
  have valid : c.toNat < 0xD800 ∨ 0xDFFF < c.toNat ∧ c.toNat < 0x110000 := c.valid
  have ranges : CharSet.all.ranges = [⟨0, 0x10FFFF⟩] := rfl
  rw [CharSet.contains, ranges]
  simp only [CodeRange.anyContains, Nat.not_lt_zero, if_false, Bool.or_false, decide_eq_true_eq]
  omega

theorem rounds_readAll {count : Nat} :
    (Passage.read .all).rounds count start stop marks ↔
      count ≤ start.rest.length ∧ stop = start.advance count ∧ marks = [] := by
  induction count generalizing start stop marks with
  | zero => simp [Passage.rounds, Passage.stay, Cursor.advance]
  | succ count ih =>
      constructor
      · rintro ⟨between, _, later, ⟨c, rest, ahead, -, rfl, rfl⟩, goesOn, rfl⟩
        obtain ⟨enough, rfl, rfl⟩ := ih.mp goesOn
        rw [Cursor.next_rest, ahead] at enough
        rw [ahead]
        exact ⟨Nat.succ_le_succ enough, rfl, rfl⟩
      · rintro ⟨enough, rfl, rfl⟩
        cases ahead : start.rest with
        | nil => simp [ahead] at enough
        | cons c rest =>
            refine ⟨start.next, [], [], ⟨c, rest, ahead, contains_all c, rfl, rfl⟩,
              ih.mpr ⟨?_, rfl, rfl⟩, rfl⟩
            rw [Cursor.next_rest, ahead]
            rw [ahead] at enough
            exact Nat.le_of_succ_le_succ enough

theorem spells_anyText :
    anyText.Spells start stop marks ↔
      ∃ count ≤ start.rest.length, stop = start.advance count ∧ marks = [] := by
  constructor
  · rintro ⟨count, -, -, passes⟩
    exact ⟨count, rounds_readAll.mp passes⟩
  · rintro ⟨count, passes⟩
    exact ⟨count, Nat.zero_le _, by simp, rounds_readAll.mpr passes⟩

/-- The marks of a match with an argument text. -/
def argumentMarks (start stop : Cursor) : List Mark :=
  [⟨.closing 1, stop⟩, ⟨.opening 1, start⟩]

theorem spells_separatedText :
    (Regex.seq (.literal [separator]) (.group 1 anyText)).Spells start stop marks ↔
      ∃ rest count, start.rest = separator :: rest ∧ count ≤ rest.length ∧
        stop = start.next.advance count ∧ marks = argumentMarks start.next stop := by
  constructor
  · rintro ⟨_, _, later, ⟨⟨rest, ahead⟩, rfl, rfl⟩, grouped, rfl⟩
    obtain ⟨_, anything, rfl⟩ := Regex.spells_group.mp grouped
    obtain ⟨count, enough, rfl, rfl⟩ := spells_anyText.mp anything
    refine ⟨rest, count, ahead.symm, ?_, rfl, rfl⟩
    rw [Cursor.advance_rest, ← ahead] at enough
    exact enough
  · rintro ⟨rest, count, ahead, enough, rfl, rfl⟩
    refine ⟨start.next, [], _, ⟨⟨rest, ahead.symm⟩, rfl, rfl⟩,
      Regex.spells_group.mpr ⟨[], spells_anyText.mpr ⟨count, ?_, rfl, rfl⟩, rfl⟩, rfl⟩
    rw [Cursor.next_rest, ahead]
    exact enough

theorem spells_argumentsPart :
    (argumentsPart separator).Spells start stop marks ↔
      (stop = start ∧ marks = []) ∨ ∃ rest count, start.rest = separator :: rest ∧
        count ≤ rest.length ∧ stop = start.next.advance count ∧
        marks = argumentMarks start.next stop := by
  rw [← spells_separatedText]
  constructor
  · rintro ⟨_ | _ | count, -, few, passes⟩
    · exact .inl passes
    · rw [Passage.rounds, Passage.rounds, Passage.andThen_stay] at passes
      exact .inr passes
    · have tooMany := few 1 rfl
      simp at tooMany
  · rintro (stays | passes)
    · exact ⟨0, Nat.le_refl _, by simp, stays⟩
    · refine ⟨1, Nat.zero_le _, by simp, ?_⟩
      rwa [Passage.rounds, Passage.rounds, Passage.andThen_stay]

theorem spells_argumentsToEnd :
    (Regex.seq (argumentsPart separator) (.assertion .textEnd)).Spells start stop marks ↔
      (start.rest = [] ∧ stop = start ∧ marks = []) ∨ ∃ rest, start.rest = separator :: rest ∧
        stop = start.next.advance rest.length ∧ marks = argumentMarks start.next stop := by
  constructor
  · rintro ⟨_, _, _, arguments, ⟨ends, rfl, rfl⟩, rfl⟩
    have atEnd : stop.rest = [] := List.isEmpty_iff.mp ends
    rcases spells_argumentsPart.mp arguments with
      ⟨rfl, rfl⟩ | ⟨rest, count, ahead, enough, rfl, rfl⟩
    · exact .inl ⟨atEnd, rfl, rfl⟩
    · rw [Cursor.advance_rest, Cursor.next_rest, ahead, List.tail_cons,
        List.drop_eq_nil_iff] at atEnd
      obtain rfl : count = rest.length := Nat.le_antisymm enough atEnd
      exact .inr ⟨rest, ahead, rfl, rfl⟩
  · rintro (⟨atEnd, rfl, rfl⟩ | ⟨rest, ahead, rfl, rfl⟩)
    · exact ⟨_, [], [], spells_argumentsPart.mpr (.inl ⟨rfl, rfl⟩),
        ⟨List.isEmpty_iff.mpr atEnd, rfl, rfl⟩, rfl⟩
    · have ends : (start.next.advance rest.length).rest = [] := by
        rw [Cursor.advance_rest, Cursor.next_rest, ahead, List.tail_cons, List.drop_length]
      have argument := spells_argumentsPart.mpr
        (.inr ⟨rest, rest.length, ahead, Nat.le_refl _, rfl, rfl⟩)
      exact ⟨_, _, [], argument, ⟨List.isEmpty_iff.mpr ends, rfl, rfl⟩, rfl⟩

/-- The expression for a name matches a text that is the name, or continues it with a
separator. -/
theorem spells_nameExpr :
    (nameExpr separator name).Spells start stop marks ↔ start.previous = none ∧
      ((start.rest = name ∧ stop = start.advance name.length ∧ marks = []) ∨
        ∃ rest, start.rest = name ++ separator :: rest ∧
          stop = start.advance (name.length + 1 + rest.length) ∧
          marks = argumentMarks (start.advance (name.length + 1)) stop) := by
  have afterName {after : Text} (whole : start.rest = name ++ after) :
      (start.advance name.length).rest = after := by
    rw [Cursor.advance_rest, whole, List.drop_left]
  have goesOn (rest : Text) : start.advance (name.length + 1 + rest.length) =
      (start.advance name.length).next.advance rest.length := by
    rw [Cursor.advance_add, Cursor.advance_succ]
  simp only [goesOn, Cursor.advance_succ]
  constructor
  · rintro ⟨_, _, _, ⟨begins, rfl, rfl⟩, ⟨_, _, _, ⟨⟨after, named⟩, rfl, rfl⟩, ending, rfl⟩, rfl⟩
    refine ⟨Option.isNone_iff_eq_none.mp begins, ?_⟩
    have remains := afterName named.symm
    rcases spells_argumentsToEnd.mp ending with ⟨atEnd, rfl, rfl⟩ | ⟨rest, ahead, rfl, rfl⟩
    · rw [remains] at atEnd
      exact .inl ⟨by rw [← named, atEnd, List.append_nil], rfl, rfl⟩
    · obtain rfl : after = separator :: rest := remains.symm.trans ahead
      exact .inr ⟨rest, named.symm, rfl, rfl⟩
  · rintro ⟨begins, rest⟩
    have atStart : Assertion.holds start .textStart = true := Option.isNone_iff_eq_none.mpr begins
    rcases rest with ⟨whole, rfl, rfl⟩ | ⟨rest, whole, rfl, rfl⟩
    · have remains := afterName (whole.trans (List.append_nil name).symm)
      exact ⟨start, [], [], ⟨atStart, rfl, rfl⟩, ⟨_, [], [], ⟨⟨[], by simp [whole]⟩, rfl, rfl⟩,
        spells_argumentsToEnd.mpr (.inl ⟨remains, rfl, rfl⟩), rfl⟩, rfl⟩
    · exact ⟨start, [], _, ⟨atStart, rfl, rfl⟩, ⟨_, [], _, ⟨⟨_, whole.symm⟩, rfl, rfl⟩,
        spells_argumentsToEnd.mpr (.inr ⟨rest, afterName whole, rfl, rfl⟩), rfl⟩, rfl⟩

/-! ## What the pattern for a name finds -/

theorem previous_advance {cursor : Cursor} (later : cursor.previous ≠ none) (count : Nat) :
    (cursor.advance count).previous ≠ none := by
  induction count generalizing cursor with
  | zero => exact later
  | succ count ih =>
      refine ih ?_
      unfold Cursor.next
      split
      · exact later
      · simp

/-- Nothing comes before the start of a text only. -/
theorem advance_atStart_of_previous {text : Text} {count : Nat}
    (first : ((Cursor.atStart text).advance count).previous = none) :
    (Cursor.atStart text).advance count = .atStart text := by
  cases count with
  | zero => rfl
  | succ count =>
      cases text with
      | nil => exact Cursor.advance_of_end rfl _
      | cons c rest =>
          exact absurd first (previous_advance (by simp [Cursor.next, Cursor.atStart]) count)

/-- The argument text that the pattern for a name captures in the text of a unit, if it
matches there. -/
def argumentsIn? (pattern : Pattern) (inner : Text) : Option (Option Text) :=
  (pattern.program.search? (.atStart inner)).map fun hit =>
    (pattern.callOf (hit.matchAfter (.atStart inner))).get? "args".toList

theorem get?_args (program : Program) (found : RegexMatch) :
    ((⟨program, [some "args".toList]⟩ : Pattern).callOf found).get? "args".toList =
      found.group? 1 := by
  rfl

theorem group?_argumentMarks {found : RegexMatch} {opening : Cursor} {rest : Text}
    (ahead : opening.rest = rest)
    (marked : found.marks = argumentMarks opening (opening.advance rest.length)) :
    found.group? 1 = some rest := by
  have closes : found.edge? (.closing 1) = some (opening.advance rest.length) := by
    rw [RegexMatch.edge?, marked]
    rfl
  have opens : found.edge? (.opening 1) = some opening := by
    rw [RegexMatch.edge?, marked]
    rfl
  simp [RegexMatch.group?, closes, opens, Cursor.textUpTo_advance, ahead]

/-- A search with the expression for a name finds a unit that has the name, and
captures what follows the separator. -/
theorem search?_nameExpr (separator : Char) (name inner : Text) :
    ((nameExpr separator name).program.search? (.atStart inner)).map
        (fun hit => (hit.matchAfter (.atStart inner)).group? 1) =
      Matcher.argumentsOf? separator name inner := by
  cases searched : (nameExpr separator name).program.search? (.atStart inner) with
  | none =>
      symm
      refine Option.eq_none_iff_forall_ne_some.mpr fun arguments matched => ?_
      have spells : ∃ stop marks,
          (nameExpr separator name).Spells ((Cursor.atStart inner).advance 0) stop marks := by
        rcases Matcher.argumentsOf?_eq_some_iff.mp matched with ⟨-, whole⟩ | ⟨rest, -, whole⟩
        · exact ⟨_, _, spells_nameExpr.mpr ⟨rfl, .inl ⟨whole, rfl, rfl⟩⟩⟩
        · exact ⟨_, _, spells_nameExpr.mpr ⟨rfl, .inr ⟨rest, whole, rfl, rfl⟩⟩⟩
      obtain ⟨stop, marks, spells⟩ := spells
      have finds := Regex.search?_isSome_of_spells spells
      rw [searched] at finds
      cases finds
  | some hit =>
      obtain ⟨first, spelled⟩ := spells_nameExpr.mp (Regex.spells_of_search? searched)
      rw [advance_atStart_of_previous first] at spelled
      symm
      refine Matcher.argumentsOf?_eq_some_iff.mpr ?_
      rcases spelled with ⟨whole, -, unmarked⟩ | ⟨rest, whole, stop, marked⟩
      · refine .inl ⟨?_, whole⟩
        simp [RegexMatch.group?, RegexMatch.edge?, Hit.matchAfter, unmarked]
      · rw [stop, Cursor.advance_add _ (name.length + 1)] at marked
        refine .inr ⟨rest, group?_argumentMarks ?_ marked, whole⟩
        rw [Cursor.advance_rest, whole]
        simp

/-- The pattern for a name finds what the matcher for the name does. -/
theorem argumentsIn?_eq (grammar : Grammar) {pattern : Pattern} (given : name ≠ [])
    (read : read? (grammar.namePattern name) = some pattern) (inner : Text) :
    pattern.argumentsIn? inner = Matcher.argumentsOf? grammar.separator name inner := by
  rw [read?_namePattern grammar given] at read
  split at read
  next =>
    obtain rfl := Option.some.inj read
    simp only [argumentsIn?, get?_args]
    exact search?_nameExpr grammar.separator name inner
  next => cases read

/-! ## How much room the expression takes -/

theorem footprint_anyText_le (direction : Direction) :
    anyText.footprint direction false ≤ 1004 := by
  cases direction <;> decide

theorem footprint_argumentsPart_le (separator : Char) (direction : Direction) :
    (argumentsPart separator).footprint direction false ≤ 1268 := by
  have anything := footprint_anyText_le direction
  have separatorBytes : byteLength [separator] ≤ 4 := separator.utf8Size_le_four
  simp only [argumentsPart, Regex.footprint, Footprint.ofRounds, Footprint.branchingState,
    Footprint.branch, Footprint.state]
  split <;> omega

/-- Beside the name, only a constant number of bytes is needed. -/
theorem size_nameExpr_le (separator : Char) (name : Text) (direction : Direction) :
    (nameExpr separator name).size direction ≤ 32 * byteLength name + 1460 := by
  have arguments := footprint_argumentsPart_le separator direction
  have anchored : (nameExpr separator name).isAnchored direction = true := by
    cases direction <;> rfl
  have whole : (if direction = .forward then 2 * Footprint.state else 0) ≤ 64 := by
    cases direction <;> decide
  rw [Regex.size, if_pos anchored]
  simp only [nameExpr, Regex.footprint]
  simp only [Footprint.state] at whole ⊢
  omega

theorem isSome_read?_namePattern (grammar : Grammar) (given : name ≠ [])
    (short : byteLength name ≤ 327000) : (read? (grammar.namePattern name)).isSome = true := by
  have small : (nameExpr grammar.separator name).isWithinLimit = true := by
    have limit : Regex.sizeLimit = 10485760 := rfl
    have forwards := size_nameExpr_le grammar.separator name .forward
    have backwards := size_nameExpr_le grammar.separator name .backward
    rw [Regex.isWithinLimit, Bool.and_eq_true, decide_eq_true_iff, decide_eq_true_iff]
    omega
  rw [read?_namePattern grammar given, if_pos small]
  rfl

end Pattern

/-! ## The units of a name -/

namespace Grammar

variable {grammar : Grammar} {name : Text}

/-- The units of a text whose own text, up to the first separator that is not escaped, is
a name. -/
def unitsCalled (grammar : Grammar) (name text : Text) : List Found :=
  (grammar.units text).filterMap fun unit =>
    let (called, arguments) := grammar.nameAndArguments unit.inner
    if called = name then some ⟨unit.span, .delimited arguments⟩ else none

/-- The units of a text that a pattern matches, with the argument texts it captures. -/
def unitsMatching (grammar : Grammar) (pattern : Pattern) (text : Text) : List Found :=
  (grammar.units text).filterMap fun unit =>
    (pattern.argumentsIn? unit.inner).map fun arguments => ⟨unit.span, .delimited arguments⟩

theorem find_calls_eq_unitsCalled (valid : grammar.nameFault? name = none) (text : Text) :
    (Matcher.calls name).find grammar text = grammar.unitsCalled name text := by
  refine List.filterMap_congr fun unit _ => ?_
  refine Option.ext fun found => ?_
  rw [Option.map_eq_some_iff]
  constructor
  · rintro ⟨arguments, matched, rfl⟩
    rw [(argumentsOf?_eq_some_iff valid).mp matched]
    exact if_pos rfl
  · intro called
    rw [Option.ite_none_right_eq_some] at called
    obtain ⟨rfl, same⟩ := called
    exact ⟨_, (argumentsOf?_eq_some_iff valid).mpr rfl, Option.some.inj same⟩

theorem find_calls_eq_unitsMatching (valid : grammar.nameFault? name = none) {pattern : Pattern}
    (read : Pattern.read? (grammar.namePattern name) = some pattern) (text : Text) :
    (Matcher.calls name).find grammar text = grammar.unitsMatching pattern text := by
  refine List.filterMap_congr fun unit _ => ?_
  rw [Pattern.argumentsIn?_eq grammar (nameFault?_eq_none_iff.mp valid).1 read]

/-- No unit is called by two names. -/
theorem unitsCalled_apart {other : Text} (distinct : other ≠ name) {text : Text}
    {found foundToo : Found} (calledName : found ∈ grammar.unitsCalled name text)
    (calledOther : foundToo ∈ grammar.unitsCalled other text) :
    found.span.overlaps foundToo.span = false := by
  obtain ⟨unit, inText, called⟩ := List.mem_filterMap.mp calledName
  obtain ⟨unitToo, inTextToo, calledToo⟩ := List.mem_filterMap.mp calledOther
  rw [Option.ite_none_right_eq_some] at called calledToo
  obtain ⟨rfl, same⟩ := called
  obtain ⟨rfl, sameToo⟩ := calledToo
  obtain rfl := Option.some.inj same
  obtain rfl := Option.some.inj sameToo
  refine Bool.eq_false_iff.mpr fun overlap => distinct ?_
  rw [eq_of_overlaps inText inTextToo overlap]

/-- The names part the units of a text.  The matcher for a name, the pattern for the name
and the cut at the first separator that is not escaped all choose the same units, with the
same arguments.  The pattern can be read unless the name takes up hundreds of kilobytes.  The
matchers for two names never find the same unit. -/
theorem names_part_units (valid : grammar.nameFault? name = none) (text : Text) :
    (Matcher.calls name).find grammar text = grammar.unitsCalled name text ∧
      (∀ pattern, Pattern.read? (grammar.namePattern name) = some pattern →
        grammar.unitsMatching pattern text = grammar.unitsCalled name text) ∧
      (byteLength name ≤ 327000 →
        (Pattern.read? (grammar.namePattern name)).isSome = true) ∧
      ∀ other, grammar.nameFault? other = none → other ≠ name →
        ∀ found ∈ (Matcher.calls name).find grammar text,
          ∀ foundToo ∈ (Matcher.calls other).find grammar text,
            found.span.overlaps foundToo.span = false := by
  have cut := find_calls_eq_unitsCalled valid text
  refine ⟨cut, fun pattern read => ?_, ?_, ?_⟩
  · exact (find_calls_eq_unitsMatching valid read text).symm.trans cut
  · exact Pattern.isSome_read?_namePattern grammar (nameFault?_eq_none_iff.mp valid).1
  · intro other validToo distinct found inFinds foundToo inFindsToo
    rw [cut] at inFinds
    rw [find_calls_eq_unitsCalled validToo] at inFindsToo
    exact unitsCalled_apart distinct inFinds inFindsToo

/-- The default grammar, but units may reach over several lines. -/
def overLines : Grammar :=
  ⟨{ multiline := true }, GrammarSpec.fault?_eq_none_iff.mp (by decide)⟩

/-- Four units, of which the first and the last one have the name `a.b`. -/
def fourUnits : Text :=
  "\x7b\x7ba.b|x\n|y\x7d\x7d \x7b\x7baxb\x7d\x7d \x7b\x7ba\\|b|c\x7d\x7d \x7b\x7ba.b\x7d\x7d".toList

theorem dottedName_parts_units :
    overLines.nameFault? "a.b".toList = none ∧ overLines.nameFault? "axb".toList = none ∧
    overLines.unitsCalled "a.b".toList fourUnits =
      [⟨⟨0, 12⟩, .delimited (some "x\n|y".toList)⟩, ⟨⟨32, 39⟩, .delimited none⟩] ∧
    (Matcher.calls "a.b".toList).find overLines fourUnits =
      overLines.unitsCalled "a.b".toList fourUnits ∧
    (∃ pattern, Pattern.read? (overLines.namePattern "a.b".toList) = some pattern ∧
      overLines.unitsMatching pattern fourUnits = overLines.unitsCalled "a.b".toList fourUnits) ∧
    ∀ found ∈ (Matcher.calls "a.b".toList).find overLines fourUnits,
      ∀ foundToo ∈ (Matcher.calls "axb".toList).find overLines fourUnits,
        found.span.overlaps foundToo.span = false := by
  have valid : overLines.nameFault? "a.b".toList = none := by decide
  have validToo : overLines.nameFault? "axb".toList = none := by decide
  obtain ⟨finds, matching, readable, apart⟩ := names_part_units valid fourUnits
  obtain ⟨pattern, read⟩ := Option.isSome_iff_exists.mp (readable (by decide))
  exact ⟨valid, validToo, by cbv, finds, ⟨pattern, read, matching pattern read⟩,
    apart "axb".toList validToo (by decide)⟩

end Grammar

end CallMarkup
