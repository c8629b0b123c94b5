import CallMarkup.Proofs.Processor.Finding
import CallMarkup.Registry.Substitution

/-!
# The greedy selection of a pass

Of the candidates in the order of registration, one reaches binding when it
overlaps none that has been replaced before, and it is selected when its
arguments also bind.  This depends on the text alone: neither on the state of
the callbacks nor on what they return.
-/

namespace CallMarkup

variable {State Context : Type}

namespace Candidate

def span (candidate : Candidate State Context) : Span :=
  candidate.found.span

/-- The call that the candidate makes, if its arguments bind. -/
def call? (candidate : Candidate State Context) : Option BoundCall :=
  (candidate.processor.bind candidate.found).toOption

theorem call?_eq_some_iff {candidate : Candidate State Context} {call : BoundCall} :
    candidate.call? = some call ↔ candidate.processor.bind candidate.found = .ok call := by
  unfold call?
  cases candidate.processor.bind candidate.found <;> simp [Except.toOption]

theorem call?_eq_none_iff {candidate : Candidate State Context} :
    candidate.call? = none ↔ ∃ fault, candidate.processor.bind candidate.found = .error fault := by
  unfold call?
  cases candidate.processor.bind candidate.found <;> simp [Except.toOption]

end Candidate

/-- A candidate with the call that it makes. -/
structure Selection (State Context : Type) where
  candidate : Candidate State Context
  call : BoundCall

namespace Selection

def span (selection : Selection State Context) : Span :=
  selection.candidate.span

/-- What the callback is to see. -/
def invocation (context : Option Context) (selection : Selection State Context) :
    Invocation Context :=
  let processor := selection.candidate.processor
  ⟨processor.name, selection.call, if processor.shape.acceptsContext then context else none⟩

def run (context : Option Context) (selection : Selection State Context) :
    EStateM CallFault State Text :=
  selection.candidate.processor.call selection.call context

end Selection

/-- The candidate as a selected one, if its arguments bind. -/
def Candidate.select? (candidate : Candidate State Context) : Option (Selection State Context) :=
  candidate.call?.map fun call => ⟨candidate, call⟩

namespace Registry

/-- The candidates that reach binding when some spans have been replaced. -/
def reached (replaced : List Span) :
    List (Candidate State Context) → List (Candidate State Context)
  | [] => []
  | candidate :: later =>
    if replaced.any (·.overlaps candidate.span) then reached replaced later
    else
      let replaced := if candidate.call?.isSome then replaced ++ [candidate.span] else replaced
      candidate :: reached replaced later

/-- The candidates that are replaced when some spans have been already. -/
def selectedFrom (replaced : List Span) (candidates : List (Candidate State Context)) :
    List (Selection State Context) :=
  (reached replaced candidates).filterMap Candidate.select?

/-- The candidates that a pass over a text replaces. -/
def selected (registry : Registry State Context) (text : Text) : List (Selection State Context) :=
  selectedFrom [] (registry.candidates text)

section Greedy

variable {replaced : List Span} {candidate : Candidate State Context}
  {later : List (Candidate State Context)} {call : BoundCall}

theorem reached_cons_of_overlaps
    (overlaps : replaced.any (·.overlaps candidate.span) = true) :
    reached replaced (candidate :: later) = reached replaced later := by
  rw [reached, if_pos overlaps]

theorem reached_cons_of_bound (free : replaced.any (·.overlaps candidate.span) = false)
    (bound : candidate.call? = some call) :
    reached replaced (candidate :: later) =
      candidate :: reached (replaced ++ [candidate.span]) later := by
  rw [reached, if_neg (by simp [free])]
  simp [bound]

theorem reached_cons_of_unbound (free : replaced.any (·.overlaps candidate.span) = false)
    (unbound : candidate.call? = none) :
    reached replaced (candidate :: later) = candidate :: reached replaced later := by
  rw [reached, if_neg (by simp [free])]
  simp [unbound]

theorem selectedFrom_cons_of_overlaps
    (overlaps : replaced.any (·.overlaps candidate.span) = true) :
    selectedFrom replaced (candidate :: later) = selectedFrom replaced later := by
  simp only [selectedFrom, reached_cons_of_overlaps overlaps]

theorem selectedFrom_cons_of_bound (free : replaced.any (·.overlaps candidate.span) = false)
    (bound : candidate.call? = some call) :
    selectedFrom replaced (candidate :: later) =
      ⟨candidate, call⟩ :: selectedFrom (replaced ++ [candidate.span]) later := by
  simp [selectedFrom, reached_cons_of_bound free bound, Candidate.select?, bound]

theorem selectedFrom_cons_of_unbound (free : replaced.any (·.overlaps candidate.span) = false)
    (unbound : candidate.call? = none) :
    selectedFrom replaced (candidate :: later) = selectedFrom replaced later := by
  simp [selectedFrom, reached_cons_of_unbound free unbound, Candidate.select?, unbound]

end Greedy

theorem mem_of_mem_reached {replaced : List Span} {candidates : List (Candidate State Context)}
    {candidate : Candidate State Context} (member : candidate ∈ reached replaced candidates) :
    candidate ∈ candidates := by
  induction candidates generalizing replaced with
  | nil => simp [reached] at member
  | cons first later ih =>
      rw [reached] at member
      split at member
      · exact List.mem_cons_of_mem _ (ih member)
      · rcases List.mem_cons.mp member with rfl | inLater
        · exact List.mem_cons_self
        · exact List.mem_cons_of_mem _ (ih inLater)

theorem mem_of_mem_selectedFrom {replaced : List Span}
    {candidates : List (Candidate State Context)} {selection : Selection State Context}
    (member : selection ∈ selectedFrom replaced candidates) :
    selection.candidate ∈ candidates ∧ selection.candidate.call? = some selection.call := by
  obtain ⟨candidate, inReached, selects⟩ := List.mem_filterMap.mp member
  obtain ⟨call, bound, rfl⟩ := Option.map_eq_some_iff.mp selects
  exact ⟨mem_of_mem_reached inReached, bound⟩

/-- Every selected candidate is clear of the spans replaced before, those of
the earlier selected ones included. -/
theorem selectedFrom_apart (replaced : List Span) (candidates : List (Candidate State Context)) :
    (∀ selection ∈ selectedFrom replaced candidates, ∀ span ∈ replaced,
      span.overlaps selection.span = false) ∧
      (selectedFrom replaced candidates).Pairwise fun first second =>
        first.span.overlaps second.span = false := by
  induction candidates generalizing replaced with
  | nil => simp [selectedFrom, reached]
  | cons candidate later ih =>
      cases overlaps : replaced.any (·.overlaps candidate.span) with
      | true =>
          rw [selectedFrom_cons_of_overlaps overlaps]
          exact ih replaced
      | false =>
          cases bound : candidate.call? with
          | none =>
              rw [selectedFrom_cons_of_unbound overlaps bound]
              exact ih replaced
          | some call =>
              obtain ⟨clear, apart⟩ := ih (replaced ++ [candidate.span])
              rw [selectedFrom_cons_of_bound overlaps bound]
              constructor
              · intro selection member span inReplaced
                rcases List.mem_cons.mp member with rfl | inLater
                · show span.overlaps candidate.span = false
                  simpa using List.any_eq_false.mp overlaps span inReplaced
                · exact clear selection inLater span (by simp [inReplaced])
              · refine List.pairwise_cons.mpr ⟨?_, apart⟩
                intro selection inLater
                exact clear selection inLater candidate.span (by simp)

theorem overlaps_eq_false_of_mem_reached {replaced : List Span}
    {candidates : List (Candidate State Context)} {candidate : Candidate State Context}
    (member : candidate ∈ reached replaced candidates) :
    ∀ span ∈ replaced, span.overlaps candidate.span = false := by
  induction candidates generalizing replaced with
  | nil => simp [reached] at member
  | cons first later ih =>
      cases overlaps : replaced.any (·.overlaps first.span) with
      | true =>
          rw [reached_cons_of_overlaps overlaps] at member
          exact ih member
      | false =>
          have clear : ∀ span ∈ replaced, span.overlaps first.span = false := by
            simpa using List.any_eq_false.mp overlaps
          cases bound : first.call? with
          | none =>
              rw [reached_cons_of_unbound overlaps bound] at member
              rcases List.mem_cons.mp member with rfl | inLater
              · exact clear
              · exact ih inLater
          | some call =>
              rw [reached_cons_of_bound overlaps bound] at member
              rcases List.mem_cons.mp member with rfl | inLater
              · exact clear
              · exact fun span inReplaced => ih inLater span (List.mem_append_left _ inReplaced)

/-- Candidates that come later reach binding as if the spans selected before
them had been replaced from the start. -/
theorem reached_append (replaced : List Span) (front back : List (Candidate State Context)) :
    reached replaced (front ++ back) = reached replaced front ++
      reached (replaced ++ (selectedFrom replaced front).map (·.span)) back := by
  induction front generalizing replaced with
  | nil => simp [reached, selectedFrom]
  | cons first later ih =>
      rw [List.cons_append]
      cases overlaps : replaced.any (·.overlaps first.span) with
      | true =>
          rw [reached_cons_of_overlaps overlaps, reached_cons_of_overlaps overlaps,
            selectedFrom_cons_of_overlaps overlaps, ih]
      | false =>
          cases bound : first.call? with
          | none =>
              rw [reached_cons_of_unbound overlaps bound, reached_cons_of_unbound overlaps bound,
                selectedFrom_cons_of_unbound overlaps bound, ih, List.cons_append]
          | some call =>
              rw [reached_cons_of_bound overlaps bound, reached_cons_of_bound overlaps bound,
                selectedFrom_cons_of_bound overlaps bound, ih, List.cons_append, List.map_cons,
                List.append_assoc]
              rfl

/-- A candidate that binds overlaps one that has been replaced, be it itself. -/
theorem exists_overlap_of_mem (replaced : List Span)
    {candidates : List (Candidate State Context)} {candidate : Candidate State Context}
    (member : candidate ∈ candidates)
    (ordered : candidate.span.start ≤ candidate.span.stop) :
    (candidate ∈ reached replaced candidates ∧ candidate.call? = none) ∨
      ∃ span ∈ replaced ++ (selectedFrom replaced candidates).map (·.span),
        span.overlaps candidate.span = true := by
  induction candidates generalizing replaced with
  | nil => simp at member
  | cons first later ih =>
      cases overlaps : replaced.any (·.overlaps first.span) with
      | true =>
          rw [reached_cons_of_overlaps overlaps, selectedFrom_cons_of_overlaps overlaps]
          rcases List.mem_cons.mp member with rfl | inLater
          · obtain ⟨span, inReplaced, shares⟩ := List.any_eq_true.mp overlaps
            exact .inr ⟨span, List.mem_append_left _ inReplaced, shares⟩
          · exact ih replaced inLater
      | false =>
          cases bound : first.call? with
          | none =>
              rw [reached_cons_of_unbound overlaps bound,
                selectedFrom_cons_of_unbound overlaps bound]
              rcases List.mem_cons.mp member with rfl | inLater
              · exact .inl ⟨List.mem_cons_self, bound⟩
              · exact (ih replaced inLater).imp_left fun left =>
                  ⟨List.mem_cons_of_mem _ left.1, left.2⟩
          | some call =>
              rw [reached_cons_of_bound overlaps bound, selectedFrom_cons_of_bound overlaps bound]
              rcases List.mem_cons.mp member with rfl | inLater
              · refine .inr ⟨candidate.span, ?_, Span.overlaps_self ordered⟩
                simp [Selection.span]
              · refine (ih (replaced ++ [first.span]) inLater).imp
                  (fun left => ⟨List.mem_cons_of_mem _ left.1, left.2⟩) ?_
                simp [Selection.span]

/-- Candidates that do not overlap all reach binding. -/
theorem reached_of_apart {replaced : List Span} {candidates : List (Candidate State Context)}
    (clear : ∀ candidate ∈ candidates, ∀ span ∈ replaced, span.overlaps candidate.span = false)
    (apart : candidates.Pairwise fun first second => first.span.overlaps second.span = false) :
    reached replaced candidates = candidates := by
  induction candidates generalizing replaced with
  | nil => rfl
  | cons candidate later ih =>
      obtain ⟨apartFirst, apartLater⟩ := List.pairwise_cons.mp apart
      obtain ⟨clearFirst, clearLater⟩ := List.forall_mem_cons.mp clear
      have free : replaced.any (·.overlaps candidate.span) = false :=
        List.any_eq_false.mpr fun span member => by simp [clearFirst span member]
      cases bound : candidate.call? with
      | none => rw [reached_cons_of_unbound free bound, ih clearLater apartLater]
      | some call =>
          rw [reached_cons_of_bound free bound, ih _ apartLater]
          intro other inLater span member
          rcases List.mem_append.mp member with before | this
          · exact clearLater other inLater span before
          · rw [List.mem_singleton.mp this]
            exact apartFirst other inLater

/-- The matches of some processors in a text, one processor after the other. -/
def matchesOf (processors : List (Processor State Context)) (text : Text) :
    List (Candidate State Context) :=
  processors.flatMap fun processor => (processor.find text).map (⟨processor, ·⟩)

theorem mem_matchesOf_iff {processors : List (Processor State Context)} {text : Text}
    {candidate : Candidate State Context} :
    candidate ∈ matchesOf processors text ↔
      candidate.processor ∈ processors ∧ candidate.found ∈ candidate.processor.find text := by
  simp only [matchesOf, List.mem_flatMap, List.mem_map]
  constructor
  · rintro ⟨processor, inProcessors, found, inFinds, rfl⟩
    exact ⟨inProcessors, inFinds⟩
  · rintro ⟨inProcessors, inFinds⟩
    exact ⟨candidate.processor, inProcessors, candidate.found, inFinds, rfl⟩

theorem mem_candidates_iff {registry : Registry State Context} {text : Text}
    {candidate : Candidate State Context} :
    candidate ∈ registry.candidates text ↔
      candidate.processor ∈ registry.processors ∧
        candidate.found ∈ candidate.processor.find text :=
  mem_matchesOf_iff

theorem mem_candidates_of_mem_selected {registry : Registry State Context} {text : Text}
    {selection : Selection State Context} (member : selection ∈ registry.selected text) :
    selection.candidate ∈ registry.candidates text :=
  (mem_of_mem_selectedFrom member).1

theorem fitsIn_of_mem_candidates {registry : Registry State Context} {text : Text}
    {candidate : Candidate State Context} (member : candidate ∈ registry.candidates text) :
    candidate.span.FitsIn text :=
  Processor.find_fitsIn (mem_candidates_iff.mp member).2

theorem exists_unit_of_mem_candidates {registry : Registry State Context} {text : Text}
    {candidate : Candidate State Context} (member : candidate ∈ registry.candidates text)
    (delimited : candidate.processor.isDelimited = true) :
    ∃ unit ∈ registry.grammar.units text, unit.span = candidate.span := by
  obtain ⟨inRegistry, inFinds⟩ := mem_candidates_iff.mp member
  obtain ⟨unit, inText, stands⟩ := Matcher.mem_units_of_mem_find delimited inFinds
  rw [registry.shared _ inRegistry delimited] at inText
  exact ⟨unit, inText, stands.symm⟩

end Registry

end CallMarkup
