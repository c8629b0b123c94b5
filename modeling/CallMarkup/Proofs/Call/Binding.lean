import CallMarkup.Call.Bind
import Mathlib.Data.List.Nodup

/-!
# Slots and values by name

What items supply is looked up by the names of slots, and an argument of a call by
its own name.  The names of declared slots are distinct, so a name determines its
slot, and among values under distinct names the order does not matter.
-/

namespace CallMarkup

/-! ## Look-up by distinct keys -/

/-- With distinct keys, looking up is membership. -/
theorem lookup_eq_some_iff_mem {entries : List (Text × Text)} {key value : Text}
    (distinct : (entries.map Prod.fst).Nodup) :
    entries.lookup key = some value ↔ (key, value) ∈ entries := by
  induction entries with
  | nil => simp
  | cons entry entries ih =>
      obtain ⟨other, text⟩ := entry
      simp only [List.map_cons, List.nodup_cons] at distinct
      by_cases same : key = other
      · subst same
        have absent : (key, value) ∉ entries := fun member =>
          distinct.1 (List.mem_map.mpr ⟨_, member, rfl⟩)
        simp [absent, eq_comm]
      · simp [List.lookup_cons, beq_eq_false_iff_ne.mpr same, same, ih distinct.2]

theorem lookup_isSome_iff_mem {entries : List (Text × Text)} {key : Text} :
    (entries.lookup key).isSome = true ↔ key ∈ entries.map Prod.fst := by
  simp only [List.lookup_isSome_iff, List.mem_map, beq_iff_eq]
  exact exists_congr fun entry => and_congr_right fun _ => eq_comm

/-- The order of entries with distinct keys does not matter. -/
theorem lookup_perm {first second : List (Text × Text)} (same : first.Perm second)
    (distinct : (first.map Prod.fst).Nodup) (key : Text) :
    first.lookup key = second.lookup key := by
  apply Option.ext
  intro value
  rw [lookup_eq_some_iff_mem distinct,
    lookup_eq_some_iff_mem ((same.map Prod.fst).nodup_iff.mp distinct), same.mem_iff]

/-- With distinct names, the first entry of a name is the only one. -/
theorem find?_eq_some_of_nodup {α : Type} {nameOf : α → Text} {entries : List α}
    (distinct : (entries.map nameOf).Nodup) {entry : α} (member : entry ∈ entries) :
    entries.find? (nameOf · = nameOf entry) = some entry := by
  cases found : entries.find? (nameOf · = nameOf entry) with
  | none =>
      have absent := List.find?_eq_none.mp found entry member
      simp at absent
  | some other =>
      have same : nameOf other = nameOf entry := by simpa using List.find?_some found
      rw [List.inj_on_of_nodup_map distinct (List.mem_of_find?_eq_some found) member same]

/-! ## Arguments of a call -/

namespace BoundCall

variable {call : BoundCall}

/-- The names of all arguments, those of the positional view first. -/
def names (call : BoundCall) : List Text :=
  call.toList.map (·.name)

theorem get?_of_mem (distinct : call.names.Nodup) {argument : Argument}
    (member : argument ∈ call.toList) : call.get? argument.name = argument.value := by
  rw [get?, find?_eq_some_of_nodup distinct member, Option.bind_some]

/-- A call with an argument for each slot of a shape, positional ones first, has no
name twice when the slots have none. -/
theorem nodup_names {shape : Shape} (distinct : (shape.slots.map (·.name)).Nodup)
    (same : call.names = (shape.positional ++ shape.named).map (·.name)) : call.names.Nodup := by
  have each : (shape.positional ++ shape.named).Perm shape.slots :=
    List.filter_append_perm Slot.isPositional shape.slots
  rw [same]
  exact (each.map _).nodup_iff.mpr distinct

end BoundCall

/-! ## Declared slots -/

theorem Shape.declare_eq_ok_iff {slots : List Slot} {acceptsContext : Bool} {shape : Shape} :
    Shape.declare slots acceptsContext = .ok shape ↔
      WellDeclared slots ∧ shape = { parameters := .fixed slots, acceptsContext } := by
  unfold Shape.declare
  split
  next free => simp [declarationFault?_eq_none_iff.mp free, eq_comm]
  next fault found =>
    simp only [reduceCtorEq, false_iff, not_and]
    intro declared
    simp [declarationFault?_eq_none_iff.mpr declared] at found

namespace WellDeclared

variable {slots : List Slot}

theorem nodup_names (declared : WellDeclared slots) : (slots.map (·.name)).Nodup := by
  rw [List.nodup_iff_pairwise_ne, List.pairwise_map]
  exact declared.pairwise.imp fun follow => follow.1

/-- A name determines its slot. -/
theorem eq_of_name_eq (declared : WellDeclared slots) {first second : Slot}
    (firstMember : first ∈ slots) (secondMember : second ∈ slots)
    (same : first.name = second.name) : first = second :=
  List.inj_on_of_nodup_map declared.nodup_names firstMember secondMember same

theorem find?_name (declared : WellDeclared slots) {slot : Slot} (member : slot ∈ slots) :
    slots.find? (·.name = slot.name) = some slot :=
  find?_eq_some_of_nodup declared.nodup_names member

end WellDeclared

end CallMarkup
