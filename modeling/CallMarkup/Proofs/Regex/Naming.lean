import CallMarkup.Regex.Pattern
import Mathlib.Data.List.Nodup

/-!
# The names of groups

Only an opening parenthesis opens a group.  Everything else that is read from a
pattern keeps the groups as they are, and a name is taken for a new group only if no
group has it yet.  So the names of the groups of a pattern are distinct.
-/

namespace CallMarkup.Pattern

variable {α β : Type} {names : List (Option Text)}

/-- Reading that begins with some groups opened ends with the same ones. -/
def KeepsGroups (names : List (Option Text)) (reading : Reading α) : Prop :=
  ∀ before value after, reading before = some (value, after) → before.groupNames = names →
    after.groupNames = names

namespace KeepsGroups

theorem pure (value : α) : KeepsGroups names (Pure.pure value) := by
  rintro before _ _ ⟨⟩ same
  exact same

theorem invalid : KeepsGroups names (invalid : Reading α) := by
  rintro _ _ _ ⟨⟩

theorem bind {reading : Reading α} {goesOn : α → Reading β} (first : KeepsGroups names reading)
    (later : ∀ value, KeepsGroups names (goesOn value)) :
    KeepsGroups names (reading >>= goesOn) := by
  intro before value after read same
  obtain ⟨⟨one, between⟩, readFirst, readLater⟩ := Option.bind_eq_some_iff.mp read
  exact later one between value after readLater (first before one between readFirst same)

/-- What is left of the pattern comes with the groups opened so far. -/
theorem get_bind {goesOn : Remainder → Reading β}
    (later : ∀ remainder, remainder.groupNames = names → KeepsGroups names (goesOn remainder)) :
    KeepsGroups names (get >>= goesOn) :=
  fun before value after read same => later before same before value after read same

theorem get : KeepsGroups names get := by
  rintro _ _ _ ⟨⟩ same
  exact same

theorem set {remainder : Remainder} (same : remainder.groupNames = names) :
    KeepsGroups names (MonadStateOf.set remainder : Reading PUnit) := by
  rintro _ _ _ ⟨⟩ -
  exact same

theorem modify {change : Remainder → Remainder}
    (keeps : ∀ remainder, (change remainder).groupNames = remainder.groupNames) :
    KeepsGroups names (modify change : Reading PUnit) := by
  rintro before _ _ ⟨⟩ same
  exact (keeps before).trans same

theorem demand (condition : Bool) : KeepsGroups names (demand condition) := by
  cases condition with
  | true => exact pure _
  | false => exact invalid

theorem peek? : KeepsGroups names peek? :=
  get_bind fun _ _ => pure _

theorem peekSecond? : KeepsGroups names peekSecond? :=
  get_bind fun _ _ => pure _

theorem current : KeepsGroups names current := by
  refine peek?.bind fun next => ?_
  cases next with
  | none => exact invalid
  | some c => exact pure c

theorem bump : KeepsGroups names bump :=
  modify fun _ => rfl

theorem take : KeepsGroups names take :=
  current.bind fun _ => bump.bind fun _ => pure _

theorem accept (expected : Text) : KeepsGroups names (accept expected) := by
  refine get_bind fun remainder same => ?_
  split
  · exact bind (set same) fun _ => pure _
  · exact pure _

theorem skipBlanks : KeepsGroups names skipBlanks :=
  modify fun remainder => by split <;> rfl

theorem bumpSkip : KeepsGroups names bumpSkip :=
  bump.bind fun _ => skipBlanks

theorem negate (flags : Flags) (negated : Bool) (accepts : CharSet) :
    KeepsGroups names (negate flags negated accepts) := by
  unfold Pattern.negate
  split
  · exact (demand _).bind fun _ => pure _
  · exact pure _

theorem fuel : KeepsGroups names fuel :=
  get_bind fun _ _ => pure _

theorem readHexDigits (count : Nat) : KeepsGroups names (readHexDigits count) := by
  induction count with
  | zero => exact pure _
  | succ count ih =>
      exact current.bind fun _ => (demand _).bind fun _ => bumpSkip.bind fun _ =>
        ih.bind fun _ => pure _

theorem readBraced (steps : Nat) : KeepsGroups names (readBraced steps) := by
  induction steps with
  | zero => exact invalid
  | succ steps ih =>
      refine skipBlanks.bind fun _ => take.bind fun c => ?_
      split
      · exact pure _
      · exact ih.bind fun _ => pure _

theorem decodeCode (text : Text) : KeepsGroups names (do
    let some code := numberOfDigits? 16 text | Pattern.invalid
    let some c := charOfCode? code | Pattern.invalid
    return c) := by
  split
  · split
    · exact pure _
    · exact invalid
  · exact invalid

theorem readCode (digits : Nat) : KeepsGroups names (readCode digits) := by
  refine skipBlanks.bind fun _ => current.bind fun c => ?_
  dsimp only
  split
  · exact bump.bind fun _ => fuel.bind fun _ => (readBraced _).bind decodeCode
  · exact (readHexDigits digits).bind decodeCode

theorem lookUpProperty (flags : Flags) (negated : Bool) (name : Text) : KeepsGroups names (do
    Pattern.demand flags.unicode
    let (set?, opposite) :=
      match propertyParts name with
      | (property, some (value, opposite)) => (CharSet.ofUnicodeValue? property value, opposite)
      | (name, none) => (CharSet.ofUnicodeName? name, false)
    let some set := set? | Pattern.invalid
    Pattern.negate flags (negated != opposite) (foldCase flags set)) := by
  refine (demand _).bind fun _ => ?_
  dsimp only
  split
  · exact negate _ _ _
  · exact invalid

theorem readProperty (negated : Bool) : KeepsGroups names (readProperty negated) := by
  refine get_bind fun remainder _ => skipBlanks.bind fun _ => take.bind fun first => ?_
  dsimp only
  split
  · exact fuel.bind fun _ => (readBraced _).bind (lookUpProperty _ negated)
  · exact (demand _).bind fun _ => skipBlanks.bind fun _ => lookUpProperty _ negated [first]

theorem readWordAssertion (rule : WordRule) : KeepsGroups names (readWordAssertion rule) := by
  refine get_bind fun remainder same => bumpSkip.bind fun _ => current.bind fun c => ?_
  split
  · exact (set same).bind fun _ => pure _
  · refine fuel.bind fun _ => (readBraced _).bind fun name => ?_
    split
    all_goals first | exact pure _ | exact invalid

theorem readEscape : KeepsGroups names readEscape := by
  refine get_bind fun remainder _ => take.bind fun c => ?_
  split
  case h_1 => exact peek?.bind fun _ => (readCode 2).bind fun _ => (demand _).bind fun _ => pure _
  case h_2 => exact (readCode 4).bind fun _ => pure _
  case h_3 => exact (readCode 8).bind fun _ => pure _
  case h_4 => exact (readProperty false).bind fun _ => pure _
  case h_5 => exact (readProperty true).bind fun _ => pure _
  case h_9 | h_10 | h_11 => exact (negate _ _ _).bind fun _ => pure _
  case h_23 =>
    refine peek?.bind fun _ => ?_
    split
    · refine (readWordAssertion _).bind fun found => ?_
      split
      all_goals exact pure _
    · exact pure _
  case h_24 =>
    split
    · exact pure _
    · exact invalid
  all_goals exact pure _

/-! ### Bracket expressions -/

theorem readClassItem : KeepsGroups names readClassItem := by
  refine take.bind fun c => ?_
  split
  · exact readEscape
  · exact pure _

theorem itemSet (flags : Flags) (item : Escaped) : KeepsGroups names (itemSet flags item) := by
  cases item with
  | literal c => exact (demand _).bind fun _ => pure _
  | set accepts => exact pure _
  | assertion condition => exact invalid

theorem itemLiteral (flags : Flags) (item : Escaped) :
    KeepsGroups names (itemLiteral flags item) := by
  cases item with
  | literal c => exact (demand _).bind fun _ => pure _
  | set accepts => exact invalid
  | assertion condition => exact invalid

theorem readClassRange : KeepsGroups names readClassRange := by
  refine get_bind fun _ _ => readClassItem.bind fun first => skipBlanks.bind fun _ =>
    current.bind fun c => get_bind fun _ _ => ?_
  dsimp only
  split
  · exact itemSet _ first
  · exact bumpSkip.bind fun _ => readClassItem.bind fun last => (itemLiteral _ first).bind fun _ =>
      (itemLiteral _ last).bind fun _ => (demand _).bind fun _ => pure _

theorem readNamedSet? : KeepsGroups names readNamedSet? := by
  refine get_bind fun start same => (accept _).bind fun isOpen => ?_
  split
  · refine (accept _).bind fun _ => get_bind fun _ _ => ?_
    dsimp only
    split
    · exact bind (set same) fun _ => (negate _ _ _).bind fun _ => pure _
    · exact (set same).bind fun _ => pure _
  · exact pure _

theorem readHyphens (steps : Nat) (items : ClassItems) :
    KeepsGroups names (readClassStart.readHyphens steps items) := by
  induction steps generalizing items with
  | zero => exact pure _
  | succ steps ih =>
      refine current.bind fun c => ?_
      split
      · exact bumpSkip.bind fun _ => (current.bind fun _ => pure _).bind fun _ => ih _
      · exact pure _

theorem readClassStart : KeepsGroups names readClassStart := by
  refine bumpSkip.bind fun _ => current.bind fun c => ?_
  have listed : KeepsGroups names (do
      let items ← readClassStart.readHyphens (← Pattern.fuel) {}
      let next ← Pattern.current
      if next = ']' && items.depths.isEmpty then
        Pattern.bumpSkip
        discard Pattern.current
        return (c == '^', items.add (.single ']') 0)
      return (c == '^', items)) := by
    refine fuel.bind fun _ => (readHyphens _ _).bind fun items => current.bind fun next => ?_
    split
    · exact bumpSkip.bind fun _ => (current.bind fun _ => pure _).bind fun _ => pure _
    · exact pure _
  dsimp only
  split
  · exact bumpSkip.bind fun _ => listed
  · exact listed

theorem readClassRest (negated : Bool) (steps : Nat)
    (pending : Option (Nested CharSet × SetOperation)) (items : ClassItems) :
    KeepsGroups names (readClassRest negated steps pending items) := by
  induction steps generalizing negated pending items with
  | zero => exact invalid
  | succ steps ih =>
      have operates (operation : Text) (set : Option (Nested CharSet × SetOperation)) :
          KeepsGroups names (do
            discard (Pattern.accept operation)
            Pattern.readClassRest negated steps set {}) :=
        ((accept _).bind fun _ => pure _).bind fun _ => ih _ _ _
      refine skipBlanks.bind fun _ => get_bind fun _ _ => current.bind fun c =>
        peekSecond?.bind fun second => ?_
      dsimp only
      split
      · refine readNamedSet?.bind fun found => ?_
        split
        · exact ih _ _ _
        · exact readClassStart.bind fun _ => (ih _ _ _).bind fun _ => ih _ _ _
      · split
        · exact bump.bind fun _ => (negate _ _ _).bind fun _ => pure _
        · split
          · exact operates _ _
          · split
            · exact operates _ _
            · split
              · exact operates _ _
              · exact readClassRange.bind fun _ => ih _ _ _

theorem readClass : KeepsGroups names readClass :=
  readClassStart.bind fun _ => fuel.bind fun _ => readClassRest _ _ _ _

/-! ### Single characters and repetitions -/

theorem readSingle : KeepsGroups names readSingle := by
  refine get_bind fun _ _ => take.bind fun c => ?_
  split
  · refine readEscape.bind fun escaped => ?_
    split
    all_goals exact pure _
  · exact (demand _).bind fun _ => pure _
  all_goals exact pure _

theorem readNumber : KeepsGroups names readNumber := by
  refine get_bind fun _ _ => ?_
  dsimp only
  split
  · exact (demand _).bind fun _ => bind (modify fun _ => rfl) fun _ => pure _
  · exact invalid

theorem readBounds : KeepsGroups names readBounds := by
  have checked (least : Nat) (bounds : Bounds) : KeepsGroups names (do
      Pattern.demand ((← Pattern.take) == '}')
      Pattern.demand (bounds.most.all (least ≤ ·))
      return bounds) :=
    take.bind fun _ => (demand _).bind fun _ => (demand _).bind fun _ => pure _
  refine skipBlanks.bind fun _ => readNumber.bind fun least => current.bind fun c => ?_
  dsimp only
  split
  · refine bumpSkip.bind fun _ => current.bind fun next => ?_
    split
    · exact checked least _
    · exact readNumber.bind fun _ => checked least _
  · exact checked least _

theorem readGreed : KeepsGroups names readGreed :=
  (accept _).bind fun _ => get_bind fun _ _ => pure _

theorem repeatLast (body : Body) (bounds : Bounds) (greedy : Bool) :
    KeepsGroups names (body.repeatLast bounds greedy) := by
  unfold Body.repeatLast
  split
  · exact pure _
  · exact invalid

end KeepsGroups

/-! ## Opening parentheses -/

/-- A name that no group has yet and that begins as a name may. -/
structure IsNewName (names : List (Option Text)) (name : Text) : Prop where
  fresh : some name ∉ names
  begins : ∃ c others, name = c :: others ∧ isNameChar true c = true

/-- Reading that keeps the groups and yields a parenthesis; a name that it gives to a
group is new. -/
def OpensNew (names : List (Option Text)) (reading : Reading Opening) : Prop :=
  ∀ before opening after, reading before = some (opening, after) → before.groupNames = names →
    after.groupNames = names ∧ ∀ name, opening = .capturing (some name) → IsNewName names name

namespace OpensNew

theorem pure {opening : Opening}
    (isNew : ∀ name, opening = .capturing (some name) → IsNewName names name) :
    OpensNew names (Pure.pure opening) := by
  rintro before _ _ ⟨⟩ same
  exact ⟨same, isNew⟩

theorem invalid : OpensNew names Pattern.invalid := by
  rintro _ _ _ ⟨⟩

theorem bind {reading : Reading α} {goesOn : α → Reading Opening}
    (first : KeepsGroups names reading) (later : ∀ value, OpensNew names (goesOn value)) :
    OpensNew names (reading >>= goesOn) := by
  intro before opening after read same
  obtain ⟨⟨one, between⟩, readFirst, readLater⟩ := Option.bind_eq_some_iff.mp read
  exact later one between opening after readLater (first before one between readFirst same)

theorem get_bind {goesOn : Remainder → Reading Opening}
    (later : ∀ remainder, remainder.groupNames = names → OpensNew names (goesOn remainder)) :
    OpensNew names (get >>= goesOn) :=
  fun before opening after read same => later before same before opening after read same

theorem demand_bind {condition : Bool} {goesOn : PUnit → Reading Opening}
    (later : condition = true → OpensNew names (goesOn ⟨⟩)) :
    OpensNew names (demand condition >>= goesOn) := by
  cases condition with
  | true => exact later rfl
  | false => rintro _ _ _ ⟨⟩

theorem readName {remainder : Remainder} (same : remainder.groupNames = names) (rest : Text) :
    OpensNew names (readOpening.readName remainder rest) := by
  refine demand_bind fun _ => ?_
  dsimp only
  split
  · rintro _ _ _ ⟨⟩
  · rename_i first others named
    refine demand_bind fun allowed => demand_bind fun unused => bind (.set same) fun _ => pure ?_
    rintro name ⟨⟩
    rw [named]
    refine ⟨?_, first, others, rfl, (Bool.and_eq_true_iff.mp allowed).1⟩
    simpa [same, named] using unused

theorem readOpening : OpensNew names readOpening := by
  refine bind .skipBlanks fun _ => get_bind fun remainder same => ?_
  split
  case h_1 | h_2 | h_3 | h_4 => exact invalid
  case h_5 | h_6 => exact readName same _
  case h_7 =>
    dsimp only
    split
    · split
      · exact bind (.set same) fun _ => pure nofun
      · exact demand_bind fun _ => bind (.set same) fun _ => pure nofun
      · exact invalid
    · exact invalid
  case h_8 => exact pure nofun

end OpensNew

/-! ## Whole patterns -/

/-- The names of some groups are distinct and begin as names may. -/
structure WellNamed (names : List (Option Text)) : Prop where
  distinct : (names.filterMap id).Nodup
  begins : ∀ name ∈ names.filterMap id, ∃ c others, name = c :: others ∧ isNameChar true c = true

theorem WellNamed.cons {name : Option Text} (named : WellNamed names)
    (isNew : ∀ text, name = some text → IsNewName names text) : WellNamed (name :: names) := by
  cases name with
  | none => exact ⟨by simpa using named.distinct, by simpa using named.begins⟩
  | some text =>
      obtain ⟨fresh, begins⟩ := isNew text rfl
      refine ⟨?_, ?_⟩
      · simpa using ⟨fresh, named.distinct⟩
      · rw [show (some text :: names).filterMap id = text :: names.filterMap id from rfl,
          List.forall_mem_cons]
        exact ⟨begins, named.begins⟩

/-- Reading that begins with some groups opened leaves the groups well named. -/
def NamesFrom (names : List (Option Text)) (reading : Reading α) : Prop :=
  ∀ before value after, reading before = some (value, after) → before.groupNames = names →
    WellNamed names → WellNamed after.groupNames

/-- Reading that leaves the groups well named, whatever has been opened. -/
def Names (reading : Reading α) : Prop :=
  ∀ names, NamesFrom names reading

namespace Names

theorem of_keepsGroups {reading : Reading α} (keeps : ∀ names, KeepsGroups names reading) :
    Names reading := by
  rintro names before value after read same named
  rwa [keeps names before value after read same]

theorem bind {reading : Reading α} {goesOn : α → Reading β} (first : Names reading)
    (later : ∀ value, Names (goesOn value)) : Names (reading >>= goesOn) := by
  intro names before value after read same named
  obtain ⟨⟨one, between⟩, readFirst, readLater⟩ := Option.bind_eq_some_iff.mp read
  exact later one _ between value after readLater rfl
    (first names before one between readFirst same named)

theorem keeps_bind {reading : Reading α} {goesOn : α → Reading β}
    (first : ∀ names, KeepsGroups names reading) (later : ∀ value, Names (goesOn value)) :
    Names (reading >>= goesOn) :=
  (of_keepsGroups first).bind later

theorem openGroup_bind {name : Option Text} {goesOn : PUnit → Reading α}
    (isNew : ∀ text, name = some text → IsNewName names text)
    (later : Names (goesOn ⟨⟩)) :
    NamesFrom names (modify (·.openGroup name) >>= goesOn) := by
  rintro before value after read rfl named
  exact later _ (before.openGroup name) value after read rfl (named.cons isNew)

theorem readOpening_bind {goesOn : Opening → Reading α}
    (later : ∀ names opening, (∀ name, opening = .capturing (some name) → IsNewName names name) →
      NamesFrom names (goesOn opening)) : Names (readOpening >>= goesOn) := by
  intro names before value after read same named
  obtain ⟨⟨opening, between⟩, readFirst, readLater⟩ := Option.bind_eq_some_iff.mp read
  obtain ⟨sameToo, isNew⟩ := OpensNew.readOpening before opening between readFirst same
  exact later names opening isNew between value after readLater sameToo named

theorem readBody (inGroup : Bool) (steps : Nat) (body : Body) :
    Names (readBody inGroup steps body) := by
  induction steps generalizing inGroup body with
  | zero =>
      rw [Pattern.readBody]
      exact .of_keepsGroups fun _ => .invalid
  | succ steps ih =>
      have repeats (bounds : Bounds) :
          Names (readBody.readRepetition inGroup steps body bounds) := by
        rw [readBody.readRepetition]
        exact keeps_bind (fun _ => .bump) fun _ => keeps_bind (fun _ => .readGreed) fun _ =>
          keeps_bind (fun _ => .repeatLast _ _ _) fun _ => ih _ _
      rw [Pattern.readBody]
      refine keeps_bind (fun _ => .skipBlanks) fun _ => keeps_bind (fun _ => .peek?) fun next => ?_
      split
      case h_1 => exact .of_keepsGroups fun _ => (KeepsGroups.demand _).bind fun _ => .pure _
      case h_2 =>
        have restores (flags : Flags) (names : List (Option Text)) : KeepsGroups names
            (modify fun remainder => { remainder with flags } : Reading PUnit) :=
          .modify fun _ => rfl
        refine keeps_bind (fun _ => .bump) fun _ => keeps_bind (fun _ => .get) fun before =>
          readOpening_bind fun names opening isNew => ?_
        cases opening with
        | switches flags => exact keeps_bind (restores flags) (fun _ => ih _ _) names
        | grouping flags =>
            exact keeps_bind (restores flags) (fun _ => (ih _ _).bind fun _ =>
              keeps_bind (restores before.flags) fun _ => ih _ _) names
        | capturing name =>
            exact openGroup_bind (fun text isText => isNew text (isText ▸ rfl))
              (keeps_bind (fun _ => .get) fun _ => (ih _ _).bind fun _ =>
                keeps_bind (restores before.flags) fun _ => ih _ _)
      case h_3 =>
        exact .of_keepsGroups fun _ => (KeepsGroups.demand _).bind fun _ =>
          KeepsGroups.bump.bind fun _ => .pure _
      case h_4 => exact keeps_bind (fun _ => .bump) fun _ => ih _ _
      case h_5 =>
        exact keeps_bind (fun _ => .get) fun _ => keeps_bind (fun _ => .readClass) fun _ => ih _ _
      case h_6 => exact repeats _
      case h_7 => exact repeats _
      case h_8 => exact repeats _
      case h_9 =>
        exact keeps_bind (fun _ => .demand _) fun _ => keeps_bind (fun _ => .bump) fun _ =>
          keeps_bind (fun _ => .readBounds) fun _ => keeps_bind (fun _ => .skipBlanks) fun _ =>
          keeps_bind (fun _ => .readGreed) fun _ =>
          keeps_bind (fun _ => .repeatLast _ _ _) fun _ => ih _ _
      case h_10 => exact keeps_bind (fun _ => .readSingle) fun _ => ih _ _

end Names

/-- Names chosen from those of some groups, depending on their places. -/
theorem filterMap_zipIdx_sublist {choose : Option Text × Nat → Option Text}
    (chosen : ∀ {name index text}, choose (name, index) = some text → name = some text)
    (names : List (Option Text)) (first : Nat) :
    ((names.zipIdx first).filterMap choose).Sublist (names.filterMap id) := by
  induction names generalizing first with
  | nil => exact .slnil
  | cons name names ih =>
      rw [List.zipIdx_cons]
      cases choice : choose (name, first) with
      | none =>
          rw [List.filterMap_cons_none choice]
          exact (ih _).trans ((List.sublist_cons_self name names).filterMap id)
      | some text =>
          obtain rfl := chosen choice
          rw [List.filterMap_cons_some choice]
          exact (ih _).cons_cons text

/-- A group that an expression does not hold loses its name at most. -/
theorem filterMap_heldNames_sublist (expr : Regex) (names : List (Option Text)) :
    ((heldNames expr names).filterMap id).Sublist (names.filterMap id) := by
  unfold heldNames
  rw [List.filterMap_filterMap]
  refine filterMap_zipIdx_sublist (fun {name index text} choice => ?_) names 1
  dsimp only at choice
  split at choice
  · exact choice
  · split at choice <;> cases choice

theorem WellNamed.heldNames (named : WellNamed names) (expr : Regex) :
    WellNamed (heldNames expr names.reverse) := by
  have sublist := filterMap_heldNames_sublist expr names.reverse
  rw [List.filterMap_reverse] at sublist
  exact ⟨sublist.nodup (List.nodup_reverse.mpr named.distinct),
    fun name member => named.begins name (List.mem_reverse.mp (sublist.subset member))⟩

theorem heldNames_eq (expr : Regex) (names : List (Option Text)) :
    heldNames expr names = (names.zipIdx 1).filterMap fun (name, index) =>
      if expr.groupIndices.contains index then some name
      else if index < expr.groupIndices.foldl max 0 then some none
      else none := by
  simp only [heldNames, Std.HashSet.contains_ofList]

/-- What a pattern is read as. -/
theorem read?_of_readBody {text : Text} {expr : Regex} {depth : Nat} {remainder : Remainder}
    (body : readBody false (text.length + 1) {} (.ofText text) = some (⟨expr, depth⟩, remainder))
    (shallow : depth ≤ depthLimit) (small : expr.isWithinLimit = true) :
    read? text = some ⟨expr.program, heldNames expr remainder.groupNames.reverse⟩ := by
  unfold read?
  rw [StateT.run, body]
  simp [shallow, small]

/-- A pattern that is read is the program of an expression, and its groups are well
named. -/
theorem read?_eq_some {text : Text} {pattern : Pattern} (read : read? text = some pattern) :
    (∃ expr : Regex, pattern.program = expr.program) ∧ WellNamed pattern.groupNames := by
  unfold read? at read
  simp only [Option.bind_eq_bind, Option.bind_eq_some_iff] at read
  obtain ⟨⟨nested, remainder⟩, body, checked⟩ := read
  split at checked
  · obtain rfl := Option.some.inj checked
    have named := Names.readBody false _ {} [] _ _ _ body rfl ⟨.nil, by simp⟩
    exact ⟨⟨_, rfl⟩, named.heldNames _⟩
  · cases checked

end CallMarkup.Pattern
