import CallMarkup.Registry.Basic

/-!
# Registries from lists of processors

Processors with distinct names, of which those for units have one grammar, make
up a registry in any order.
-/

namespace CallMarkup

namespace Roster

variable {α : Type} {nameOf : α → Text}

/-- Adds entries at the end, one after the other. -/
def appendAll (roster : Roster nameOf) (entries : List α) : Roster nameOf :=
  entries.foldl append roster

@[simp]
theorem appendAll_entries (roster : Roster nameOf) (entries : List α) :
    (roster.appendAll entries).entries = roster.entries ++ entries := by
  induction entries generalizing roster with
  | nil => simp [appendAll]
  | cons entry entries ih =>
      have rest := ih (roster.append entry)
      simpa [appendAll, append] using rest

theorem Coherent.appendAll {roster : Roster nameOf} (coherent : roster.Coherent) {entries : List α}
    (distinct : ((roster.entries ++ entries).map nameOf).Nodup) :
    (roster.appendAll entries).Coherent := by
  induction entries generalizing roster with
  | nil => exact coherent
  | cons entry entries ih =>
      have fresh : roster.index[nameOf entry]? = none := by
        apply coherent.index_eq_none_iff.mpr
        intro other member same
        rw [List.map_append, List.nodup_append] at distinct
        exact distinct.2.2 _ (List.mem_map_of_mem member) _ (by simp) same
      apply ih (coherent.append fresh)
      rw [Roster.append, List.append_assoc]
      exact distinct

end Roster

namespace Registry

variable {State Context : Type}

/-- The registry of some processors in their order. -/
def ofProcessors (grammar : Grammar) (processors : List (Processor State Context))
    (distinct : (processors.map (·.name)).Nodup)
    (fit : ∀ processor ∈ processors,
      processor.isDelimited = true → processor.grammar = grammar) : Registry State Context where
  grammar := grammar
  roster := Roster.appendAll {} processors
  coherent := Roster.coherent_empty.appendAll distinct
  shared := by
    rw [Roster.appendAll_entries]
    exact fit

@[simp]
theorem ofProcessors_processors (grammar : Grammar) (processors : List (Processor State Context))
    (distinct : (processors.map (·.name)).Nodup)
    (fit : ∀ processor ∈ processors,
      processor.isDelimited = true → processor.grammar = grammar) :
    (ofProcessors grammar processors distinct fit).processors = processors :=
  Roster.appendAll_entries {} processors

end Registry

end CallMarkup
