import CallMarkup.Proofs.Call.Acceptance
import CallMarkup.Proofs.Call.Items
import CallMarkup.Proofs.Processor.Matching
import CallMarkup.Proofs.Registry.FromList
import CallMarkup.Proofs.Registry.Watching

/-!
# Switchboards shadow later processors

A processor for every unit binds whatever a processor for one name binds, with
the name in front.  So a unit that is left when its turn is over cannot be bound
by a processor for units that comes later, and the callback of such a processor
is never called.
-/

namespace CallMarkup

variable {State Context : Type}

/-! ## What a switchboard binds -/

theorem Orderly.cons_positional {items : List Item} (orderly : Orderly items) (text : Text) :
    Orderly (.positional text :: items) := by
  obtain ⟨texts, entries, rfl, distinct⟩ := orderly
  exact ⟨text :: texts, entries, rfl, distinct⟩

namespace Grammar

variable {grammar : Grammar} {name inner : Text} {arguments : Option Text}

theorem classify_name (valid : grammar.nameFault? name = none) :
    grammar.classify name = .positional name := by
  have made : grammar.MadeOf (· ≠ grammar.assignment) name :=
    (madeOf_name valid).mono fun c bare => (isReserved_eq_false_iff.mp bare.1).2.2.1
  unfold classify keywordParts?
  rw [made.cutUnescaped?_eq_none]
  rfl

/-- To a switchboard the name of a unit is its first argument. -/
theorem items_of_argumentsOf? (valid : grammar.nameFault? name = none)
    (matched : Matcher.argumentsOf? grammar.separator name inner = some arguments) :
    grammar.items (some inner) = .positional name :: grammar.items arguments := by
  have split := (argumentsOf?_eq_some_iff valid).mp matched
  rw [items_inner, split, classify_name valid]

end Grammar

namespace Processor

/-- Processors for units, as they can be built. -/
inductive ForUnits : Processor State Context → Prop
  | shorthand {grammar : Grammar} {name : Text} {shape : Shape} {callback : Callback State Context}
      {processor : Processor State Context}
      (built : Processor.shorthand grammar name shape callback = .ok processor) : ForUnits processor
  | switchboard (grammar : Grammar) (name : Text) (callback : Callback State Context) :
      ForUnits (Processor.switchboard grammar name callback)

variable {processor : Processor State Context} {text : Text} {found : Found}

theorem ForUnits.isDelimited (forUnits : processor.ForUnits) : processor.isDelimited = true := by
  cases forUnits with
  | shorthand built =>
      obtain ⟨-, -, -, matcher, -⟩ := shorthand_eq_ok built
      rw [Processor.isDelimited, matcher]
      rfl
  | switchboard => rfl

/-- Where a processor for units finds and binds something, a switchboard with its
grammar does, too. -/
theorem ForUnits.exists_found (forUnits : processor.ForUnits)
    (member : found ∈ processor.find text) {call : BoundCall}
    (bound : processor.bind found = .ok call) (name : Text) (callback : Callback State Context) :
    ∃ other ∈ (Processor.switchboard processor.grammar name callback).find text,
      other.span = found.span ∧
        ∃ call, (Processor.switchboard processor.grammar name callback).bind other = .ok call := by
  cases forUnits with
  | shorthand built =>
      obtain ⟨valid, -, rfl, matcher, rfl⟩ := shorthand_eq_ok built
      simp only [find, Matcher.find, matcher, List.mem_filterMap, Option.map_eq_some_iff] at member
      obtain ⟨unit, inText, arguments, matched, rfl⟩ := member
      refine ⟨⟨unit.span, .delimited (some unit.inner)⟩,
        List.mem_map.mpr ⟨unit, inText, rfl⟩, rfl, ?_⟩
      have orderly := bind_variadic_isOk_iff.mp (bind_variadic_of_bind bound)
      obtain ⟨other, boundToo⟩ := bind_variadic_isOk_iff.mpr (orderly.cons_positional _)
      rw [← Grammar.items_of_argumentsOf? valid matched] at boundToo
      exact ⟨other, boundToo⟩
  | switchboard => exact ⟨found, member, rfl, call, bound⟩

end Processor

namespace Registry

variable {registry : Registry State Context}

theorem eq_of_name_eq {first second : Processor State Context}
    (inFirst : first ∈ registry.processors) (inSecond : second ∈ registry.processors)
    (same : first.name = second.name) : first = second := by
  obtain ⟨place, atPlace⟩ := List.mem_iff_getElem?.mp inFirst
  obtain ⟨other, atOther⟩ := List.mem_iff_getElem?.mp inSecond
  obtain rfl := registry.coherent.eq_of_name_eq atPlace atOther rfl same.symm
  exact Option.some.inj (atPlace.symm.trans atOther)

/-- Of two candidates for the same span, the later one reaches binding only when
the earlier one does not bind. -/
theorem call?_eq_none_of_mem_reached {front back : List (Candidate State Context)}
    {first second : Candidate State Context} (inFront : first ∈ front)
    (ordered : first.span.start ≤ first.span.stop) (same : second.span = first.span)
    (inReached : second ∈ reached ((selectedFrom [] front).map (·.span)) back) :
    first.call? = none := by
  rcases exists_overlap_of_mem [] inFront ordered with ⟨-, unbound⟩ | ⟨span, inSpans, shares⟩
  · exact unbound
  · rw [List.nil_append] at inSpans
    have apart := overlaps_eq_false_of_mem_reached inReached span inSpans
    rw [same, shares] at apart
    exact Bool.noConfusion apart

/-- The candidates of a registry come in two parts when its processors do. -/
theorem reached_candidates {front back : List (Processor State Context)}
    (order : registry.processors = front ++ back) (text : Text) :
    reached [] (registry.candidates text) = reached [] (matchesOf front text) ++
      reached ((selectedFrom [] (matchesOf front text)).map (·.span)) (matchesOf back text) := by
  have cut : registry.candidates text = matchesOf front text ++ matchesOf back text := by
    show matchesOf registry.processors text = _
    rw [order, matchesOf, List.flatMap_append]
    rfl
  rw [cut, reached_append, List.nil_append]

theorem not_mem_of_order {front back : List (Processor State Context)}
    (order : registry.processors = front ++ back) {processor : Processor State Context}
    (inBack : processor ∈ back) : processor ∉ front := by
  intro inFront
  have distinct : (registry.processors.map (·.name)).Nodup := registry.coherent.nodup
  rw [order, List.map_append, List.nodup_append] at distinct
  exact distinct.2.2 _ (List.mem_map_of_mem inFront) _ (List.mem_map_of_mem inBack) rfl

section Shadowed

variable {before after : List (Processor State Context)} {grammar : Grammar} {name : Text}
  {callback : Callback State Context} {later : Processor State Context}

/-- Of the matches of a processor for units after a switchboard, none is ever
selected. -/
theorem name_ne_of_mem_selected
    (order : registry.processors =
      (before ++ [Processor.switchboard grammar name callback]) ++ after)
    (registered : later ∈ after) (forUnits : later.ForUnits) {text : Text}
    {selection : Selection State Context} (member : selection ∈ registry.selected text) :
    selection.candidate.processor.name ≠ later.name := by
  intro same
  have inRegistry : later ∈ registry.processors := order ▸ List.mem_append_right _ registered
  obtain ⟨inCandidates, bound⟩ := mem_of_mem_selectedFrom member
  have isLater : selection.candidate.processor = later :=
    eq_of_name_eq (mem_candidates_iff.mp inCandidates).1 inRegistry same
  obtain ⟨candidate, inReached, selects⟩ := List.mem_filterMap.mp member
  obtain ⟨call, -, rfl⟩ := Option.map_eq_some_iff.mp selects
  dsimp only at isLater bound
  subst isLater
  rw [reached_candidates order] at inReached
  rcases List.mem_append.mp inReached with inFront | inBack
  · exact not_mem_of_order order registered (mem_matchesOf_iff.mp (mem_of_mem_reached inFront)).1
  · -- The switchboard finds and binds the same unit before.
    have shared : grammar = candidate.processor.grammar :=
      (registry.shared (Processor.switchboard grammar name callback)
          (show _ ∈ registry.processors by simp [order]) rfl).trans
        (registry.shared candidate.processor inRegistry forUnits.isDelimited).symm
    subst shared
    obtain ⟨other, inFinds, sameSpan, otherCall, boundToo⟩ := forUnits.exists_found
      (mem_matchesOf_iff.mp (mem_of_mem_reached inBack)).2
      (Candidate.call?_eq_some_iff.mp bound) name callback
    let earlier : Candidate State Context :=
      ⟨Processor.switchboard candidate.processor.grammar name callback, other⟩
    have inFront : earlier ∈ matchesOf (before ++ [earlier.processor]) text :=
      mem_matchesOf_iff.mpr ⟨by simp, inFinds⟩
    have unbound : earlier.call? = none := call?_eq_none_of_mem_reached inFront
      (Processor.find_fitsIn inFinds).start_le_stop sameSpan.symm inBack
    obtain ⟨fault, fails⟩ := Candidate.call?_eq_none_iff.mp unbound
    exact absurd (boundToo.symm.trans fails) (by simp)

/-- A processor for units that comes after a switchboard is never called, however
often a text is passed over and whatever the callbacks do. -/
theorem collectiveSubstitute_shadows
    (order : registry.processors =
      before ++ Processor.switchboard grammar name callback :: after)
    (registered : later ∈ after) (forUnits : later.ForUnits) (text : Text)
    (context : Option Context) (options : SubstitutionOptions) (state : State)
    (log : List (Invocation Context)) :
    ∃ noted, (∀ invocation ∈ noted, invocation.callee ≠ later.name) ∧
      registry.recording.collectiveSubstitute text context options (state, log) =
        withLog (log ++ noted) (registry.collectiveSubstitute text context options state) := by
  rw [List.append_cons] at order
  exact notes_collectiveSubstitute options
    (fun _ _ member => name_ne_of_mem_selected order registered forUnits member) text state log

end Shadowed

/-! ## A unit that nothing takes -/

/-- Writes the name of the processor and counts the calls. -/
def signing : Callback Nat Unit := fun invocation count => .ok invocation.callee (count + 1)

/-- Takes units that call `a`, whatever their arguments. -/
def lateUnits : Processor Nat Unit :=
  { name := ['a'], grammar := Grammar.default, matcher := .calls ['a'], shape := Shape.variadic
    callback := signing }

/-- A switchboard `z`, and after it a processor for the units that call `a`. -/
def shadowedUnits : Registry Nat Unit :=
  ofProcessors Grammar.default
    [Processor.switchboard Grammar.default ['z'] signing, lateUnits]
    (by simp [Processor.switchboard, lateUnits]) (by simp [Processor.switchboard, lateUnits])

/-- The switchboard cannot bind the first unit, which stays, and takes the second
one. -/
theorem shadowedUnits_shadows :
    shadowedUnits.collectiveSubstitute "\x7b\x7ba|k=1|x\x7d\x7d\x7b\x7ba\x7d\x7d".toList none
        { malformed := .leaveVerbatim } 0 =
      .ok ⟨"\x7b\x7ba|k=1|x\x7d\x7dz".toList, 2, 1, .fixedPoint⟩ 1 ∧
    ∃ noted, (∀ invocation ∈ noted, invocation.callee ≠ ['a']) ∧
      shadowedUnits.recording.collectiveSubstitute
          "\x7b\x7ba|k=1|x\x7d\x7d\x7b\x7ba\x7d\x7d".toList none
          { malformed := .leaveVerbatim } (0, []) =
        .ok ⟨"\x7b\x7ba|k=1|x\x7d\x7dz".toList, 2, 1, .fixedPoint⟩ (1, noted) := by
  have done : shadowedUnits.collectiveSubstitute
      "\x7b\x7ba|k=1|x\x7d\x7d\x7b\x7ba\x7d\x7d".toList none { malformed := .leaveVerbatim } 0 =
        .ok ⟨"\x7b\x7ba|k=1|x\x7d\x7dz".toList, 2, 1, .fixedPoint⟩ 1 := by cbv
  have order : shadowedUnits.processors =
      [] ++ Processor.switchboard Grammar.default ['z'] signing :: [lateUnits] :=
    ofProcessors_processors _ _ _ _
  have forUnits : lateUnits.ForUnits := .shorthand (show Processor.shorthand Grammar.default ['a']
    Shape.variadic signing = .ok lateUnits by rfl)
  obtain ⟨noted, only, recorded⟩ := collectiveSubstitute_shadows order List.mem_cons_self forUnits
    "\x7b\x7ba|k=1|x\x7d\x7d\x7b\x7ba\x7d\x7d".toList none { malformed := .leaveVerbatim } 0 []
  rw [done] at recorded
  exact ⟨done, noted, only, recorded⟩

end Registry

end CallMarkup
