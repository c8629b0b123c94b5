import Mathlib
import CallMarkup.Proofs.Regex.Groups
import CallMarkup.Proofs.Regex.Naming
import CallMarkup.Processor.Matcher

/-!
# Calls captured by a pattern

The groups of a pattern are listed twice: as the slots of a shape, and as the
arguments of the call that a match makes.  Both lists have the unnamed groups first,
each under its number, and then the named ones, so the calls fit the shape.  No two
groups have one name, since a name does not begin with a digit.
-/

namespace CallMarkup

section Stable

variable {α : Type} {leads : α → Bool}

theorem eq_filter_append_of_pairwise {items : List α}
    (sorted : items.Pairwise fun one other => (leads one || !leads other) = true) :
    items = items.filter leads ++ items.filter (!leads ·) := by
  induction items with
  | nil => rfl
  | cons one items ih =>
      obtain ⟨first, later⟩ := List.pairwise_cons.mp sorted
      cases front : leads one with
      | true => simpa [front] using ih later
      | false =>
          have behind : ∀ other ∈ items, leads other = false := by simpa [front] using first
          have noneLeads : items.filter leads = [] := by simpa using behind
          have allFollow : items.filter (!leads ·) = items := by simpa using behind
          simp [front, noneLeads, allFollow]

/-- A stable sort puts what fulfils a condition first. -/
theorem mergeSort_eq_filter_append (leads : α → Bool) (items : List α) :
    items.mergeSort (fun one other => leads one || !leads other) =
      items.filter leads ++ items.filter (!leads ·) := by
  have trans (one two three : α) : (leads one || !leads two) = true →
      (leads two || !leads three) = true → (leads one || !leads three) = true := by grind
  have total (one two : α) :
      ((leads one || !leads two) || (leads two || !leads one)) = true := by grind
  have perm := List.mergeSort_perm items fun one other => leads one || !leads other
  -- Of items that are alike the sort changes nothing.
  have stable {chosen : α → Bool} (alike : ∀ one other, chosen one = true → chosen other = true →
        (leads one || !leads other) = true) :
      (items.mergeSort fun one other => leads one || !leads other).filter chosen =
        items.filter chosen := by
    have even : (items.filter chosen).Pairwise
        fun one other => (leads one || !leads other) = true :=
      List.pairwise_of_forall_mem_list fun one inOne other inOther =>
        alike one other (List.mem_filter.mp inOne).2 (List.mem_filter.mp inOther).2
    have kept := (List.sublist_mergeSort trans total even List.filter_sublist).filter chosen
    rw [List.filter_filter] at kept
    simp only [Bool.and_self] at kept
    exact (kept.eq_of_length (perm.filter chosen).length_eq.symm).symm
  rw [eq_filter_append_of_pairwise (List.pairwise_mergeSort trans total items),
    stable (by grind), stable (by grind)]

end Stable

namespace Pattern

variable {pattern : Pattern}

/-- The groups of a pattern, each with its number. -/
def groups (pattern : Pattern) : List (Option Text × Nat) :=
  pattern.groupNames.zipIdx 1

/-- The name under which a group is passed on: its own or its number. -/
def passedName (group : Option Text × Nat) : Text :=
  group.1.getD (groupName group.2)

/-- The slot for a group. -/
def slotOf (group : Option Text × Nat) : Slot :=
  ⟨passedName group, if group.1.isNone then .required else .named, none⟩

@[simp]
theorem slotOf_isRequired (group : Option Text × Nat) :
    (slotOf group).isRequired = group.1.isNone := by
  obtain ⟨name | name, index⟩ := group <;> rfl

@[simp]
theorem slotOf_isPositional (group : Option Text × Nat) :
    (slotOf group).isPositional = group.1.isNone := by
  obtain ⟨name | name, index⟩ := group <;> rfl

/-- A name does not begin with a digit. -/
theorem isNameChar_of_isDigit {c : Char} (digit : c.isDigit = true) :
    isNameChar true c = false := by
  simp only [Char.isDigit, Bool.and_eq_true, decide_eq_true_eq, ge_iff_le, UInt32.le_iff_toNat_le]
    at digit
  obtain ⟨low, high⟩ := digit
  have code : c.toNat ≤ 57 := high
  have ascii : Unicode.isAscii c = true := by
    simp only [Unicode.isAscii, decide_eq_true_eq]
    omega
  have noLetter : Unicode.isAsciiLetter c = false := by
    simp only [Unicode.isAsciiLetter, Bool.or_eq_false_iff, Bool.and_eq_false_iff,
      decide_eq_false_iff_not, Char.not_le]
    have below (letter : Char) (beyond : 57 < letter.toNat) : c < letter :=
      Char.lt_def.mpr (UInt32.lt_iff_toNat_lt.mpr (Nat.lt_of_le_of_lt code beyond))
    exact ⟨.inl (below 'a' (by decide)), .inl (below 'A' (by decide))⟩
  have noUnderscore : c ≠ '_' := by
    rintro rfl
    exact absurd code (by decide)
  simp [isNameChar, Unicode.isAlphabetic, ascii, noLetter, noUnderscore]

theorem unnamedGroups_map {α : Type} (pattern : Pattern) (make : Option Text × Nat → α) :
    pattern.unnamedGroups.map (fun index => make (none, index)) =
      (pattern.groups.filter (·.1.isNone)).map make := by
  unfold unnamedGroups groups
  generalize pattern.groupNames.zipIdx 1 = groups
  induction groups with
  | nil => rfl
  | cons group groups ih =>
      obtain ⟨name | name, index⟩ := group
      · simpa using ih
      · simpa using ih

theorem namedGroups_map {α : Type} (pattern : Pattern) (make : Option Text × Nat → α) :
    pattern.namedGroups.map (fun group => make (some group.1, group.2)) =
      (pattern.groups.filter (!·.1.isNone)).map make := by
  unfold namedGroups groups
  generalize pattern.groupNames.zipIdx 1 = groups
  induction groups with
  | nil => rfl
  | cons group groups ih =>
      obtain ⟨name | name, index⟩ := group
      · simpa using ih
      · simpa using ih

theorem shape_slots (pattern : Pattern) :
    pattern.shape.slots = (pattern.groups.filter (·.1.isNone)).map slotOf ++
      (pattern.groups.filter (!·.1.isNone)).map slotOf := by
  rw [← unnamedGroups_map, ← namedGroups_map]
  rfl

/-- The slots are those of the groups, in the order of the groups except that the
required ones come first. -/
theorem shape_slots_eq_mergeSort (pattern : Pattern) :
    pattern.shape.slots = (pattern.groups.map slotOf).mergeSort
      fun first second => first.isRequired || !second.isRequired := by
  rw [mergeSort_eq_filter_append, shape_slots, List.filter_map, List.filter_map]
  simp only [Function.comp_def, slotOf_isRequired]

theorem groups_pairwise (named : WellNamed pattern.groupNames) :
    pattern.groups.Pairwise fun first second =>
      first.2 ≠ second.2 ∧ ∀ name, first.1 = some name → second.1 ≠ some name := by
  refine List.Pairwise.and ?_ ?_
  · have numbers : (pattern.groups.map Prod.snd).Nodup := by
      rw [groups, List.zipIdx_map_snd]
      exact List.nodup_range'
    exact List.pairwise_map.mp numbers
  · have names := List.pairwise_filterMap.mp named.distinct
    rw [← List.zipIdx_map_fst 1 pattern.groupNames, List.pairwise_map] at names
    exact names.imp fun apart name isFirst isSecond => apart name isFirst name isSecond rfl

/-- A group has no number for a name. -/
theorem ne_groupName (named : WellNamed pattern.groupNames) {name : Text}
    (given : some name ∈ pattern.groupNames) (index : Nat) : name ≠ groupName index := by
  rintro rfl
  obtain ⟨c, others, digits, begins⟩ :=
    named.begins _ (List.mem_filterMap.mpr ⟨_, given, rfl⟩)
  have member : c ∈ Nat.toDigits 10 index := by
    rw [groupName] at digits
    simp [digits]
  rw [isNameChar_of_isDigit (Nat.isDigit_of_mem_toDigits (by decide) (by decide) member)] at begins
  cases begins

/-- No two groups are passed on under one name. -/
theorem passedNames_nodup (named : WellNamed pattern.groupNames) :
    (pattern.groups.map passedName).Nodup := by
  have given {name : Text} {index : Nat} (member : (some name, index) ∈ pattern.groups) :
      some name ∈ pattern.groupNames := (List.mem_zipIdx member).2.2 ▸ List.getElem_mem _
  refine List.pairwise_map.mpr ((groups_pairwise named).imp_of_mem ?_)
  rintro ⟨first | first, index⟩ ⟨second | second, other⟩ isFirst isSecond ⟨numbers, names⟩ same
  · exact numbers (toDigits_injective same)
  · exact ne_groupName named (given isSecond) index same.symm
  · exact ne_groupName named (given isFirst) other same
  · exact names first rfl (congrArg some same.symm)

theorem shape_slots_names_nodup (named : WellNamed pattern.groupNames) :
    (pattern.shape.slots.map (·.name)).Nodup := by
  have perm := (List.filter_append_perm (·.1.isNone) pattern.groups).map passedName
  rw [List.map_append] at perm
  rw [shape_slots, List.map_append, List.map_map, List.map_map]
  exact (perm.nodup_iff).mpr (passedNames_nodup named)

theorem shape_slots_required_first (pattern : Pattern) :
    pattern.shape.slots.Pairwise fun earlier later =>
      later.isRequired = true → earlier.isRequired = true := by
  have leads : ∀ slot ∈ (pattern.groups.filter (·.1.isNone)).map slotOf,
      slot.isRequired = true := by
    rintro _ isSlot
    obtain ⟨group, unnamed, rfl⟩ := List.mem_map.mp isSlot
    rw [slotOf_isRequired, (List.mem_filter.mp unnamed).2]
  have follows : ∀ slot ∈ (pattern.groups.filter (!·.1.isNone)).map slotOf,
      slot.isRequired = false := by
    rintro _ isSlot
    obtain ⟨group, hasName, rfl⟩ := List.mem_map.mp isSlot
    rw [slotOf_isRequired, ← Bool.not_eq_true', (List.mem_filter.mp hasName).2]
  rw [shape_slots]
  refine List.pairwise_append.mpr ⟨?_, ?_, fun earlier before _ _ _ => leads earlier before⟩
  · exact List.pairwise_of_forall_mem_list fun earlier before _ _ _ => leads earlier before
  · exact List.pairwise_of_forall_mem_list fun _ _ later after required =>
      absurd required (by simp [follows later after])

theorem shape_positional (pattern : Pattern) :
    pattern.shape.positional = (pattern.groups.filter (·.1.isNone)).map slotOf := by
  simp only [Shape.positional, shape_slots, List.filter_append, List.filter_map,
    Function.comp_def, slotOf_isPositional, List.filter_filter, Bool.and_self, Bool.and_not_self,
    List.filter_false, List.map_nil, List.append_nil]

theorem shape_named (pattern : Pattern) :
    pattern.shape.named = (pattern.groups.filter (!·.1.isNone)).map slotOf := by
  simp only [Shape.named, shape_slots, List.filter_append, List.filter_map, Function.comp_def,
    slotOf_isPositional, List.filter_filter, Bool.and_self, Bool.not_and_self, List.filter_false,
    List.map_nil, List.nil_append]

/-- The argument that a match passes on for a group. -/
def argumentOf (found : RegexMatch) (group : Option Text × Nat) : Argument :=
  ⟨passedName group, found.group? group.2⟩

theorem callOf_positional (pattern : Pattern) (found : RegexMatch) :
    (pattern.callOf found).positional =
      (pattern.groups.filter (·.1.isNone)).map (argumentOf found) :=
  pattern.unnamedGroups_map (argumentOf found)

theorem callOf_named (pattern : Pattern) (found : RegexMatch) :
    (pattern.callOf found).named = (pattern.groups.filter (!·.1.isNone)).map (argumentOf found) :=
  pattern.namedGroups_map (argumentOf found)

/-- What a match captures fits the shape of the pattern, which has one slot for each
group.  The arguments have the names of the slots, positional and named ones in the same
order, no two slots have one name, the required ones come first, and each value is the
text of its group in a match that the expression of the pattern spells.  The pattern may
stand for any expression; of its groups only the names count, which are distinct and do
not begin with a digit, as they are in every pattern that is read
(`Pattern.read?_eq_some`). -/
theorem captured_fits_shape {expr : Regex} (assembled : pattern.program = expr.program)
    (named : WellNamed pattern.groupNames) {grammar : Grammar} {text : Text} {found : Found}
    (member : found ∈ (Matcher.raw pattern).find grammar text) :
    ∃ (call : BoundCall) (hit : RegexMatch),
      hit ∈ expr.program.findAll text ∧ hit.SpelledBy expr text ∧
      found = ⟨hit.span, .captured call⟩ ∧
      pattern.shape.slots = (pattern.groups.map slotOf).mergeSort
        (fun first second => first.isRequired || !second.isRequired) ∧
      call.positional.map (·.name) = pattern.shape.positional.map (·.name) ∧
      call.named.map (·.name) = pattern.shape.named.map (·.name) ∧
      (pattern.shape.slots.map (·.name)).Nodup ∧
      (pattern.shape.slots.Pairwise fun earlier later =>
        later.isRequired = true → earlier.isRequired = true) ∧
      ∀ argument ∈ call.toList, ∃ group ∈ pattern.groups, argument.name = passedName group ∧
        hit.GroupText text group.2 argument.value := by
  obtain ⟨hit, isHit, rfl⟩ := List.mem_map.mp member
  rw [assembled] at isHit
  have spelled := RegexMatch.spelledBy_of_mem_findAll isHit
  refine ⟨pattern.callOf hit, hit, isHit, spelled, rfl, pattern.shape_slots_eq_mergeSort, ?_, ?_,
    shape_slots_names_nodup named, pattern.shape_slots_required_first,
    fun argument isArgument => ?_⟩
  · rw [callOf_positional, shape_positional, List.map_map, List.map_map]
    rfl
  · rw [callOf_named, shape_named, List.map_map, List.map_map]
    rfl
  · rw [BoundCall.toList, callOf_positional, callOf_named, ← List.map_append] at isArgument
    obtain ⟨group, inGroups, rfl⟩ := List.mem_map.mp isArgument
    exact ⟨group, (List.filter_append_perm _ _).subset inGroups, rfl, spelled.groupText group.2⟩

/-- Three groups, of which the third one may be left out. -/
def threeGroupsExpr : Regex :=
  .seq (.group 1 (.literal ['a'])) (.seq (.group 2 (.literal ['b']))
    (.repeated (.group 3 (.literal ['c'])) ⟨0, some 1⟩ true))

/-- Three groups, of which the second one has no name and the third one may be left
out. -/
def threeGroups : Pattern where
  program := threeGroupsExpr.program
  groupNames := [some ['f'], none, some ['l']]

theorem read?_threeGroups :
    Pattern.read? "(?P<f>a)(b)(?P<l>c)?".toList = some threeGroups := by
  have body : readBody false ("(?P<f>a)(b)(?P<l>c)?".toList.length + 1) {}
      (.ofText "(?P<f>a)(b)(?P<l>c)?".toList) = some
        (⟨threeGroupsExpr, 3⟩, ⟨[], 20, {}, 3, [some ['l'], none, some ['f']]⟩) := by cbv
  rw [read?_of_readBody body (by decide) (by cbv), heldNames_eq]
  rfl

/-- What the groups capture where the last one takes no part in the match. -/
def twoCaptured : Found :=
  ⟨⟨1, 3⟩, .captured ⟨[⟨['2'], some ['b']⟩], [⟨['f'], some ['a']⟩, ⟨['l'], none⟩]⟩⟩

theorem threeGroups_captured :
    Pattern.read? "(?P<f>a)(b)(?P<l>c)?".toList = some threeGroups ∧
    threeGroups.program = threeGroupsExpr.program ∧ WellNamed threeGroups.groupNames ∧
    twoCaptured ∈ (Matcher.raw threeGroups).find Grammar.default "xab".toList ∧
    ∃ (call : BoundCall) (hit : RegexMatch),
      hit ∈ threeGroupsExpr.program.findAll "xab".toList ∧
      hit.SpelledBy threeGroupsExpr "xab".toList ∧
      twoCaptured = ⟨hit.span, .captured call⟩ ∧
      threeGroups.shape.slots = (threeGroups.groups.map slotOf).mergeSort
        (fun first second => first.isRequired || !second.isRequired) ∧
      call.positional.map (·.name) = threeGroups.shape.positional.map (·.name) ∧
      call.named.map (·.name) = threeGroups.shape.named.map (·.name) ∧
      (threeGroups.shape.slots.map (·.name)).Nodup ∧
      (threeGroups.shape.slots.Pairwise fun earlier later =>
        later.isRequired = true → earlier.isRequired = true) ∧
      ∀ argument ∈ call.toList, ∃ group ∈ threeGroups.groups, argument.name = passedName group ∧
        hit.GroupText "xab".toList group.2 argument.value := by
  have found : (Matcher.raw threeGroups).find Grammar.default "xab".toList = [twoCaptured] := by
    cbv
  have member : twoCaptured ∈ (Matcher.raw threeGroups).find Grammar.default "xab".toList :=
    found ▸ List.mem_singleton_self twoCaptured
  have named : WellNamed threeGroups.groupNames := (read?_eq_some read?_threeGroups).2
  exact ⟨read?_threeGroups, rfl, named, member, captured_fits_shape rfl named member⟩

end Pattern

end CallMarkup
