import CallMarkup.Proofs.Processor.Matching
import CallMarkup.Proofs.Registry.Operations

/-!
# Registries as lists

A registry keeps its processors in a row and their positions in an index.  For
whoever uses it, there is only the row: every operation acts on it alone, and
whatever can be asked of the registry can be read off it.  This holds after any
run of operations, failed ones included.
-/

namespace CallMarkup

variable {State Context : Type}

namespace Roster

variable {α : Type} {nameOf : α → Text} {roster : Roster nameOf}

theorem Coherent.index_eq_findIdx? (coherent : roster.Coherent) (name : Text) :
    roster.index[name]? = roster.entries.findIdx? (nameOf · = name) := by
  cases found : roster.index[name]? with
  | none =>
      symm
      rw [List.findIdx?_eq_none_iff]
      simpa using coherent.index_eq_none_iff.mp found
  | some position =>
      obtain ⟨entry, atPosition, same⟩ :=
        Option.map_eq_some_iff.mp ((coherent name position).mp found)
      obtain ⟨bound, rfl⟩ := List.getElem?_eq_some_iff.mp atPosition
      symm
      rw [List.findIdx?_eq_some_iff_getElem]
      refine ⟨bound, by simpa using same, fun earlier less => ?_⟩
      simp only [decide_eq_true_eq]
      intro sameEarlier
      have level := coherent.eq_of_name_eq atPosition
        (List.getElem?_eq_getElem (Nat.lt_trans less bound)) same sameEarlier
      omega

theorem Coherent.contains_eq_any (coherent : roster.Coherent) (name : Text) :
    roster.contains name = roster.entries.any (nameOf · = name) := by
  unfold contains
  rw [Std.HashMap.contains_eq_isSome_getElem?, coherent.index_eq_findIdx?, List.findIdx?_isSome]

theorem Coherent.put_eq (coherent : roster.Coherent) (entry : α) :
    ((roster.put entry).1, (roster.put entry).2.entries) =
      match roster.entries.find? (nameOf · = nameOf entry) with
      | some old => (some old,
          roster.entries.map fun other => if nameOf other = nameOf entry then entry else other)
      | none => (none, roster.entries ++ [entry]) := by
  rw [← coherent.get?_eq_find?]
  unfold Roster.put Roster.get?
  cases found : roster.index[nameOf entry]? with
  | none => rfl
  | some position =>
      obtain ⟨old, atPosition, same⟩ :=
        Option.map_eq_some_iff.mp ((coherent (nameOf entry) position).mp found)
      simp only [Option.bind_some, atPosition, Prod.mk.injEq, true_and]
      apply List.ext_getElem?
      intro place
      rw [List.getElem?_map, List.getElem?_set]
      by_cases here : position = place
      · subst here
        rw [if_pos rfl, if_pos (List.getElem?_eq_some_iff.mp atPosition).1, atPosition]
        simp [same]
      · rw [if_neg here]
        cases atPlace : roster.entries[place]? with
        | none => rfl
        | some other =>
            have differs : nameOf other ≠ nameOf entry := fun sameOther =>
              here (coherent.eq_of_name_eq atPosition atPlace same sameOther)
            simp [differs]

theorem Coherent.remove_eq (coherent : roster.Coherent) (name : Text) :
    ((roster.remove name).1, (roster.remove name).2.entries) =
      (roster.entries.find? (nameOf · = name), roster.entries.filter (nameOf · ≠ name)) := by
  rw [← coherent.get?_eq_find?]
  unfold Roster.remove Roster.get?
  cases found : roster.index[name]? with
  | none =>
      have absent := coherent.index_eq_none_iff.mp found
      simp only [Option.bind_none, Prod.mk.injEq, true_and]
      symm
      rw [List.filter_eq_self]
      simpa using absent
  | some position =>
      obtain ⟨old, atPosition, same⟩ :=
        Option.map_eq_some_iff.mp ((coherent name position).mp found)
      obtain ⟨bound, rfl⟩ := List.getElem?_eq_some_iff.mp atPosition
      simp only [Option.bind_some, Prod.mk.injEq, true_and, List.eraseIdx_eq_take_drop_succ]
      have cut : roster.entries = roster.entries.take position ++
          roster.entries[position] :: roster.entries.drop (position + 1) := by
        rw [← List.drop_eq_getElem_cons bound, List.take_append_drop]
      -- No entry before or after this one has its name.
      have others : ∀ other ∈ roster.entries.take position ++ roster.entries.drop (position + 1),
          nameOf other ≠ name := by
        have distinct := coherent.nodup
        rw [cut, List.map_append, List.map_cons, List.perm_middle.nodup_iff, List.nodup_cons,
          ← List.map_append, same] at distinct
        exact fun other member sameOther =>
          distinct.1 (sameOther ▸ List.mem_map_of_mem member)
      symm
      calc roster.entries.filter (nameOf · ≠ name)
          = (roster.entries.take position ++
              roster.entries[position] :: roster.entries.drop (position + 1)).filter
                (nameOf · ≠ name) := by rw [← cut]
        _ = (roster.entries.take position ++ roster.entries.drop (position + 1)).filter
              (nameOf · ≠ name) := by
            rw [List.filter_append, List.filter_cons_of_neg (by simp [same]), ← List.filter_append]
        _ = roster.entries.take position ++ roster.entries.drop (position + 1) := by
            rw [List.filter_eq_self]
            simpa using others

end Roster

/-! ## The operations on a list -/

/-- Puts a processor in the place of the one that has its name, or else at the
end. -/
def placed (processors : List (Processor State Context)) (processor : Processor State Context) :
    Answer State Context × List (Processor State Context) :=
  match processors.find? (·.name = processor.name) with
  | some old =>
    (.ok (some old),
      processors.map fun other => if other.name = processor.name then processor else other)
  | none => (.ok none, processors ++ [processor])

/-- What an operation does to processors in a row. -/
def Operation.act (grammar : Grammar) (operation : Operation State Context)
    (processors : List (Processor State Context)) :
    Answer State Context × List (Processor State Context) :=
  match operation with
  | .register name shape callback =>
    if processors.any (·.name = name) then (.error (.taken name), processors)
    else
      match Processor.shorthand grammar name shape callback with
      | .error fault => (.error (.grammar fault), processors)
      | .ok processor => (.ok none, processors ++ [processor])
  | .registerOrReplace name shape callback =>
    match Processor.shorthand grammar name shape callback with
    | .error fault => (.error (.grammar fault), processors)
    | .ok processor => placed processors processor
  | .registerPattern name pattern callback =>
    if processors.any (·.name = name) then (.error (.taken name), processors)
    else
      match Processor.ofPattern name pattern callback with
      | .error invalid => (.error (.pattern invalid), processors)
      | .ok processor => (.ok none, processors ++ [processor])
  | .registerSwitchboard name callback =>
    if processors.any (·.name = name) then (.error (.taken name), processors)
    else (.ok none, processors ++ [Processor.switchboard grammar name callback])
  | .add processor =>
    if processors.any (·.name = processor.name) then (.error (.taken processor.name), processors)
    else if processor.isDelimited = true → processor.grammar = grammar then
      (.ok none, processors ++ [processor])
    else (.error (.foreignGrammar processor.name processor.grammar grammar), processors)
  | .addOrReplace processor =>
    if processor.isDelimited = true → processor.grammar = grammar then placed processors processor
    else (.error (.foreignGrammar processor.name processor.grammar grammar), processors)
  | .unregister name =>
    (.ok (processors.find? (·.name = name)), processors.filter (·.name ≠ name))

namespace Registry

variable (registry : Registry State Context)

/-- What can be seen of the outcome of an operation in the row of processors. -/
def shown (changed : Except RegistryFault
      (Option (Processor State Context) × Registry State Context)) :
    Answer State Context × List (Processor State Context) :=
  match changed with
  | .ok (old, next) => (.ok old, next.processors)
  | .error fault => (.error fault, registry.processors)

theorem contains_eq_any (name : Text) :
    registry.contains name = registry.processors.any (·.name = name) :=
  registry.coherent.contains_eq_any name

theorem contains_iff (name : Text) :
    registry.contains name = true ↔ name ∈ registry.processors.map (·.name) := by
  simp [contains_eq_any]

theorem shown_add_of_fits {processor : Processor State Context}
    (free : registry.contains processor.name = false) (fits : registry.Fits processor) :
    registry.shown ((none, ·) <$> registry.add processor) =
      (.ok none, registry.processors ++ [processor]) := by
  obtain ⟨next, added, -, roster⟩ := registry.exists_add free fits
  rw [added]
  show (_, next.roster.entries) = _
  rw [roster]
  rfl

theorem shown_add (processor : Processor State Context) :
    registry.shown ((none, ·) <$> registry.add processor) =
      (Operation.add processor).act registry.grammar registry.processors := by
  simp only [Operation.act, ← contains_eq_any]
  cases taken : registry.contains processor.name with
  | true =>
      rw [if_pos rfl, registry.add_of_taken taken]
      rfl
  | false =>
      rw [if_neg Bool.false_ne_true]
      by_cases fits : processor.isDelimited = true → processor.grammar = registry.grammar
      · rw [if_pos fits, registry.shown_add_of_fits taken fits]
      · rw [if_neg fits, registry.add_of_foreign taken fits]
        rfl

theorem shown_addOrReplace_of_fits {processor : Processor State Context}
    (fits : registry.Fits processor) :
    registry.shown (registry.addOrReplace processor) = placed registry.processors processor := by
  obtain ⟨next, put, -, roster⟩ := registry.exists_addOrReplace fits
  have row := registry.coherent.put_eq processor
  rw [put]
  show (Except.ok (registry.roster.put processor).1, next.roster.entries) = _
  rw [roster]
  unfold placed processors
  cases present : registry.roster.entries.find? (·.name = processor.name) <;>
    · rw [present] at row
      obtain ⟨old, entries⟩ := Prod.mk.inj row
      rw [old, entries]

theorem shown_addOrReplace (processor : Processor State Context) :
    registry.shown (registry.addOrReplace processor) =
      (Operation.addOrReplace processor).act registry.grammar registry.processors := by
  simp only [Operation.act]
  by_cases fits : processor.isDelimited = true → processor.grammar = registry.grammar
  · rw [if_pos fits, registry.shown_addOrReplace_of_fits fits]
  · rw [if_neg fits, registry.addOrReplace_of_foreign fits]
    rfl

theorem shown_demandFree_then (name : Text)
    (next : Except RegistryFault (Option (Processor State Context) × Registry State Context)) :
    registry.shown (registry.demandFree name >>= fun _ => next) =
      if registry.contains name then (.error (.taken name), registry.processors)
      else registry.shown next := by
  unfold demandFree
  cases registry.contains name <;> rfl

/-- An operation on a registry acts on the row of its processors. -/
theorem shown_attempt (operation : Operation State Context) :
    registry.shown (registry.attempt operation) =
      operation.act registry.grammar registry.processors := by
  cases operation with
  | register name shape callback =>
      simp only [attempt, register, map_bind, shown_demandFree_then, Operation.act,
        ← contains_eq_any]
      split
      · rfl
      next free =>
        cases built : Processor.shorthand registry.grammar name shape callback with
        | error fault => rfl
        | ok processor =>
            obtain ⟨-, rfl, grammar, -⟩ := Processor.shorthand_eq_ok built
            exact registry.shown_add_of_fits (Bool.eq_false_iff.mpr free) fun _ => grammar
  | registerOrReplace name shape callback =>
      simp only [attempt, registerOrReplace, Operation.act]
      cases built : Processor.shorthand registry.grammar name shape callback with
      | error fault => rfl
      | ok processor =>
          obtain ⟨-, -, grammar, -⟩ := Processor.shorthand_eq_ok built
          exact registry.shown_addOrReplace_of_fits fun _ => grammar
  | registerPattern name pattern callback =>
      simp only [attempt, registerPattern, map_bind, shown_demandFree_then, Operation.act,
        ← contains_eq_any]
      split
      · rfl
      next free =>
        cases built : Processor.ofPattern name pattern callback with
        | error invalid => rfl
        | ok processor =>
            obtain ⟨pattern, -, rfl, matcher, -⟩ := Processor.ofPattern_eq_ok built
            have raw : processor.isDelimited = false := by
              rw [Processor.isDelimited, matcher]
              rfl
            exact registry.shown_add_of_fits (Bool.eq_false_iff.mpr free) (by simp [Fits, raw])
  | registerSwitchboard name callback =>
      simp only [attempt, registerSwitchboard, map_bind, shown_demandFree_then, Operation.act,
        ← contains_eq_any]
      split
      · rfl
      next free => exact registry.shown_add_of_fits (Bool.eq_false_iff.mpr free) fun _ => rfl
  | add processor => exact registry.shown_add processor
  | addOrReplace processor => exact registry.shown_addOrReplace processor
  | unregister name =>
      obtain ⟨old, entries⟩ := Prod.mk.inj (registry.coherent.remove_eq name)
      show (Except.ok (registry.roster.remove name).1, (registry.roster.remove name).2.entries) = _
      rw [old, entries]
      rfl

theorem perform_eq (operation : Operation State Context) :
    operation.act registry.grammar registry.processors =
      (registry.perform operation).map id (·.processors) := by
  rw [← shown_attempt]
  unfold perform
  cases registry.attempt operation <;> rfl

/-- If an operation succeeds, the grammar stays. -/
def KeepsGrammar (changed : Except RegistryFault
    (Option (Processor State Context) × Registry State Context)) : Prop :=
  ∀ old next, changed = .ok (old, next) → next.grammar = registry.grammar

theorem keepsGrammar_error (fault : RegistryFault) : registry.KeepsGrammar (.error fault) :=
  fun _ _ done => nomatch done

theorem keepsGrammar_bind {First : Type} {first : Except RegistryFault First}
    {rest : First →
      Except RegistryFault (Option (Processor State Context) × Registry State Context)}
    (keeps : ∀ value, registry.KeepsGrammar (rest value)) :
    registry.KeepsGrammar (first >>= rest) := by
  cases first with
  | error fault => exact registry.keepsGrammar_error fault
  | ok value => exact keeps value

theorem keepsGrammar_add (processor : Processor State Context) :
    registry.KeepsGrammar ((none, ·) <$> registry.add processor) := by
  cases taken : registry.contains processor.name with
  | true =>
      rw [registry.add_of_taken taken]
      exact registry.keepsGrammar_error _
  | false =>
      by_cases fits : registry.Fits processor
      · obtain ⟨next, added, kept, -⟩ := registry.exists_add taken fits
        rw [added]
        rintro _ _ ⟨⟩
        exact kept
      · rw [registry.add_of_foreign taken fits]
        exact registry.keepsGrammar_error _

theorem keepsGrammar_addOrReplace (processor : Processor State Context) :
    registry.KeepsGrammar (registry.addOrReplace processor) := by
  by_cases fits : registry.Fits processor
  · obtain ⟨next, put, kept, -⟩ := registry.exists_addOrReplace fits
    rw [put]
    rintro _ _ ⟨⟩
    exact kept
  · rw [registry.addOrReplace_of_foreign fits]
    exact registry.keepsGrammar_error _

theorem keepsGrammar_attempt (operation : Operation State Context) :
    registry.KeepsGrammar (registry.attempt operation) := by
  cases operation with
  | register name shape callback =>
      simp only [attempt, register, map_bind]
      exact registry.keepsGrammar_bind fun _ =>
        registry.keepsGrammar_bind fun processor => registry.keepsGrammar_add processor
  | registerOrReplace name shape callback =>
      exact registry.keepsGrammar_bind fun processor => registry.keepsGrammar_addOrReplace processor
  | registerPattern name pattern callback =>
      simp only [attempt, registerPattern, map_bind]
      exact registry.keepsGrammar_bind fun _ =>
        registry.keepsGrammar_bind fun processor => registry.keepsGrammar_add processor
  | registerSwitchboard name callback =>
      simp only [attempt, registerSwitchboard, map_bind]
      exact registry.keepsGrammar_bind fun _ => registry.keepsGrammar_add _
  | add processor => exact registry.keepsGrammar_add processor
  | addOrReplace processor => exact registry.keepsGrammar_addOrReplace processor
  | unregister name =>
      rintro _ _ ⟨⟩
      rfl

theorem perform_grammar (operation : Operation State Context) :
    (registry.perform operation).2.grammar = registry.grammar := by
  unfold perform
  cases done : registry.attempt operation with
  | error fault => rfl
  | ok changed => exact registry.keepsGrammar_attempt operation changed.1 changed.2 done

/-- Where every operation on a registry can be followed, so can a run from the
empty one. -/
theorem performAll_empty {View : Type} (view : Registry State Context → View)
    (act : Grammar → Operation State Context → View → Answer State Context × View)
    (follows : ∀ operation registry,
      act registry.grammar operation (view registry) = (registry.perform operation).map id view)
    (grammar : Grammar) (operations : List (Operation State Context)) :
    (performAll perform operations (empty grammar : Registry State Context)).2.grammar = grammar ∧
      performAll (act grammar) operations (view (empty grammar)) =
        (performAll perform operations (empty grammar)).map id view :=
  performAll_view view (fun registry => registry.grammar = grammar) (act grammar)
    (fun operation registry same => (registry.perform_grammar operation).trans same)
    (fun operation registry same => same ▸ follows operation registry) operations
    (empty grammar) rfl

/-- A failed operation changes neither the processors nor the index, also when
it works in place. -/
theorem perform_of_error {operation : Operation State Context} {fault : RegistryFault}
    (failed : (registry.perform operation).1 = .error fault) :
    (registry.perform operation).2 = registry ∧
      InPlace.perform registry.grammar operation registry.roster =
        (.error fault, registry.roster) := by
  have same := InPlace.perform_eq registry operation
  unfold perform at failed same ⊢
  cases done : registry.attempt operation with
  | error other =>
      rw [done] at failed same
      obtain rfl := Except.error.inj failed
      exact ⟨rfl, same⟩
  | ok changed => simp [done] at failed

end Registry

/-- After any run of operations a registry is the list of its processors.
Operations answer and act as they do on the list, one write at a time or all at
once; one that fails leaves everything as it was; the index finds each name at
the position of its processor; and names are distinct. -/
theorem performAll_refines (grammar : Grammar) (operations : List (Operation State Context)) :
    ∃ answers registry,
      performAll Registry.perform operations (Registry.empty grammar) = (answers, registry) ∧
      performAll (Operation.act grammar) operations [] = (answers, registry.processors) ∧
      performAll (InPlace.perform grammar) operations {} = (answers, registry.roster) ∧
      registry.grammar = grammar ∧
      (registry.processors.map (·.name)).Nodup ∧
      (∀ name, registry.roster.index[name]? = registry.processors.findIdx? (·.name = name)) ∧
      (∀ processor ∈ registry.processors,
        processor.isDelimited = true → processor.grammar = grammar) ∧
      (∀ operation fault, (registry.perform operation).1 = .error fault →
        (registry.perform operation).2 = registry ∧
          InPlace.perform grammar operation registry.roster = (.error fault, registry.roster)) ∧
      (∀ name, registry.get? name = registry.processors.find? (·.name = name)) ∧
      (∀ name, registry.contains name = true ↔ name ∈ registry.processors.map (·.name)) ∧
      registry.size = registry.processors.length ∧
      registry.names = registry.processors.map (·.name) := by
  obtain ⟨kept, inList⟩ := Registry.performAll_empty (·.processors) Operation.act
    (fun operation registry => registry.perform_eq operation) grammar operations
  obtain ⟨-, inPlace⟩ := Registry.performAll_empty (·.roster) InPlace.perform
    (fun operation registry => InPlace.perform_eq registry operation) grammar operations
  generalize performAll Registry.perform operations (Registry.empty grammar) = outcome
    at kept inList inPlace
  obtain ⟨answers, registry⟩ := outcome
  refine ⟨answers, registry, rfl, inList, inPlace, kept, registry.coherent.nodup,
    registry.coherent.index_eq_findIdx?, ?_, ?_, registry.coherent.get?_eq_find?,
    registry.contains_iff, rfl, rfl⟩
  · exact fun processor member delimited => kept ▸ registry.shared processor member delimited
  · exact fun operation fault failed => kept ▸ registry.perform_of_error failed

end CallMarkup
