import CallMarkup.Text
import Std.Data.HashMap

/-!
# Rosters

A roster is an ordered list of entries with distinct names, together with an
index from names to positions.  The index makes looking up a name cheap; it is
coherent when it maps a name to a position exactly if the entry there has that
name.  Every operation keeps a roster coherent, and each acts on the list as
its name says.
-/

namespace CallMarkup

/-- Entries in order, and the position of each name. -/
structure Roster {α : Type} (nameOf : α → Text) where
  entries : List α := []
  index : Std.HashMap Text Nat := ∅

namespace Roster

variable {α : Type} {nameOf : α → Text}

/-- The index tells the position of every name, and of no other name. -/
def Coherent (roster : Roster nameOf) : Prop :=
  ∀ (name : Text) (position : Nat),
    roster.index[name]? = some position ↔
      (roster.entries[position]?).map nameOf = some name

def get? (roster : Roster nameOf) (name : Text) : Option α :=
  roster.index[name]?.bind fun position => roster.entries[position]?

def contains (roster : Roster nameOf) (name : Text) : Bool :=
  roster.index.contains name

def append (roster : Roster nameOf) (entry : α) : Roster nameOf where
  entries := roster.entries ++ [entry]
  index := roster.index.insert (nameOf entry) roster.entries.length

/-- Puts an entry in the place of the one that has its name, which is returned,
or else at the end. -/
def put (roster : Roster nameOf) (entry : α) : Option α × Roster nameOf :=
  match roster.index[nameOf entry]? with
  | some position =>
    (roster.entries[position]?, { roster with entries := roster.entries.set position entry })
  | none => (none, roster.append entry)

/-- Removes the entry of a name, which is returned.  Later entries move up by
one position. -/
def remove (roster : Roster nameOf) (name : Text) : Option α × Roster nameOf :=
  match roster.index[name]? with
  | none => (none, roster)
  | some position =>
    (roster.entries[position]?,
      { entries := roster.entries.eraseIdx position
        index := (roster.index.erase name).map fun _ other =>
          if position < other then other - 1 else other })

theorem coherent_empty : ({} : Roster nameOf).Coherent := by
  intro name position
  simp

/-- Entries of a coherent roster have distinct names. -/
theorem Coherent.nodup {roster : Roster nameOf} (coherent : roster.Coherent) :
    (roster.entries.map nameOf).Nodup := by
  rw [List.nodup_iff_pairwise_ne, List.pairwise_iff_getElem]
  intro first second firstBound secondBound less same
  simp only [List.length_map] at firstBound secondBound
  simp only [List.getElem_map] at same
  have atFirst := (coherent (nameOf roster.entries[first]) first).mpr
    (by simp [List.getElem?_eq_getElem firstBound])
  have atSecond := (coherent (nameOf roster.entries[first]) second).mpr
    (by simp [List.getElem?_eq_getElem secondBound, same])
  rw [atFirst] at atSecond
  simp only [Option.some.injEq] at atSecond
  omega

theorem Coherent.eq_of_name_eq {roster : Roster nameOf} (coherent : roster.Coherent) {name : Text}
    {first second : Nat} {one other : α} (atFirst : roster.entries[first]? = some one)
    (atSecond : roster.entries[second]? = some other) (named : nameOf one = name)
    (same : nameOf other = name) : first = second := by
  have indexed := (coherent name first).mpr (by simp [atFirst, named])
  rw [(coherent name second).mpr (by simp [atSecond, same])] at indexed
  exact (Option.some.inj indexed).symm

theorem Coherent.index_eq_none_iff {roster : Roster nameOf} (coherent : roster.Coherent)
    {name : Text} : roster.index[name]? = none ↔ ∀ entry ∈ roster.entries, nameOf entry ≠ name := by
  constructor
  · intro absent entry member same
    obtain ⟨position, bound, rfl⟩ := List.mem_iff_getElem.mp member
    have present := (coherent name position).mpr
      (by simp [List.getElem?_eq_getElem bound, same])
    simp [absent] at present
  · intro fresh
    cases found : roster.index[name]? with
    | none => rfl
    | some position =>
        have named := (coherent name position).mp found
        obtain ⟨entry, at_position, same⟩ := Option.map_eq_some_iff.mp named
        exact absurd same (fresh entry (List.mem_of_getElem? at_position))

theorem Coherent.append {roster : Roster nameOf} (coherent : roster.Coherent) {entry : α}
    (fresh : roster.index[nameOf entry]? = none) : (roster.append entry).Coherent := by
  intro name position
  have absent := coherent.index_eq_none_iff.mp fresh
  simp only [Roster.append, Std.HashMap.getElem?_insert, beq_iff_eq]
  by_cases same : nameOf entry = name
  · subst same
    simp only [if_true, Option.some.injEq]
    constructor
    · rintro rfl
      simp
    · intro named
      obtain ⟨other, at_position, sameName⟩ := Option.map_eq_some_iff.mp named
      rcases Nat.lt_trichotomy position roster.entries.length with less | rfl | greater
      · rw [List.getElem?_append_left less] at at_position
        exact absurd sameName (absent other (List.mem_of_getElem? at_position))
      · rfl
      · rw [List.getElem?_append_right (by omega)] at at_position
        have bound := (List.getElem?_eq_some_iff.mp at_position).1
        simp at bound
        omega
  · simp only [same, if_false]
    rw [coherent name position]
    rcases Nat.lt_trichotomy position roster.entries.length with less | rfl | greater
    · rw [List.getElem?_append_left less]
    · simp [same]
    · rw [List.getElem?_append_right (by omega), List.getElem?_eq_none (by omega),
        List.getElem?_eq_none (by simp; omega)]

theorem Coherent.put {roster : Roster nameOf} (coherent : roster.Coherent) (entry : α) :
    (roster.put entry).2.Coherent := by
  unfold Roster.put
  split
  next position found =>
    intro name other
    have named := (coherent (nameOf entry) position).mp found
    obtain ⟨old, at_position, sameName⟩ := Option.map_eq_some_iff.mp named
    have bound := (List.getElem?_eq_some_iff.mp at_position).1
    simp only [coherent name other]
    by_cases same : position = other
    · subst same
      simp [List.getElem?_set_self bound, at_position, sameName]
    · simp [List.getElem?_set_ne same]
  next absent => exact coherent.append absent

theorem Coherent.remove {roster : Roster nameOf} (coherent : roster.Coherent) (name : Text) :
    (roster.remove name).2.Coherent := by
  unfold Roster.remove
  split
  next => exact coherent
  next position found =>
    intro other place
    have removed := coherent name position
    simp only [found, true_iff] at removed
    simp only [Std.HashMap.getElem?_map, Std.HashMap.getElem?_erase, beq_iff_eq]
    rw [List.getElem?_eraseIdx]
    by_cases same : name = other
    · subst same
      simp only [if_true, Option.map_none, reduceCtorEq, false_iff]
      intro named
      split at named
      · have again := (coherent name place).mpr named
        rw [found] at again
        simp only [Option.some.injEq] at again
        omega
      · have again := (coherent name (place + 1)).mpr named
        rw [found] at again
        simp only [Option.some.injEq] at again
        omega
    · simp only [same, if_false]
      constructor
      · intro shifted
        obtain ⟨before, at_before, moved⟩ := Option.map_eq_some_iff.mp shifted
        have named := (coherent other before).mp at_before
        have apart : before ≠ position := by
          rintro rfl
          rw [named] at removed
          exact same (Option.some.inj removed).symm
        split at moved
        · subst moved
          rw [if_neg (by omega), show before - 1 + 1 = before by omega]
          exact named
        · subst moved
          rw [if_pos (by omega)]
          exact named
      · intro named
        split at named
        next less =>
          rw [(coherent other place).mpr named]
          simp
          omega
        next notLess =>
          rw [(coherent other (place + 1)).mpr named]
          simp
          omega

theorem Coherent.get?_eq_find? {roster : Roster nameOf} (coherent : roster.Coherent)
    (name : Text) : roster.get? name = roster.entries.find? (nameOf · = name) := by
  unfold Roster.get?
  cases found : roster.index[name]? with
  | none =>
      have absent := coherent.index_eq_none_iff.mp found
      simp only [Option.bind_none]
      symm
      simp only [List.find?_eq_none, decide_eq_true_eq]
      exact absent
  | some position =>
      have named := (coherent name position).mp found
      obtain ⟨entry, at_position, same⟩ := Option.map_eq_some_iff.mp named
      obtain ⟨bound, rfl⟩ := List.getElem?_eq_some_iff.mp at_position
      simp only [Option.bind_some, at_position]
      symm
      rw [List.find?_eq_some_iff_getElem]
      refine ⟨by simpa using same, position, bound, rfl, ?_⟩
      intro earlier less
      simp only [Bool.not_eq_true', decide_eq_false_iff_not]
      intro sameEarlier
      have again := (coherent name earlier).mpr
        (by simp [List.getElem?_eq_getElem (Nat.lt_trans less bound), sameEarlier])
      rw [found] at again
      simp only [Option.some.injEq] at again
      omega

end Roster

end CallMarkup
