import CallMarkup.Proofs.Registry.Greedy
import CallMarkup.Proofs.Registry.Shadowing

/-!
# Units left verbatim

A unit that does not bind is passed over, and nothing notes this.  So it stays
as it is written unless a later processor replaces some part of it, and
`pass_leavesVerbatim` says which processors can: those for patterns, whose
matches may lie inside the unit or around it, and switchboards, which may bind
a unit that the processor for its name does not bind.
-/

namespace CallMarkup

variable {State Context : Type}

/-- A part of a text that is still there after a pass, between what the pass makes
of the text on either side. -/
def PassResult.Keeps (result : PassResult) (text : Text) (span : Span) : Prop :=
  ∃ front inside back newFront newBack earlier later,
    text = front ++ (inside ++ back) ∧
    span = ⟨byteLength front, byteLength front + byteLength inside⟩ ∧
    result.text = newFront ++ (inside ++ newBack) ∧
    (earlier ++ later).Perm (result.claims.map (·.replacement)) ∧
    Rewrites 0 earlier front newFront ∧ Rewrites span.stop later back newBack

namespace Registry

variable {registry : Registry State Context} {policy : MalformedPolicy} {text : Text}
  {context : Option Context} {state final : State} {result : PassResult}

/-- A pass keeps what it does not replace. -/
theorem keeps_of_clear (passed : registry.pass policy text context state = .ok result final)
    {span : Span} (fits : span.FitsIn text)
    (clear : ∀ claim ∈ result.claims, claim.span.overlaps span = false) :
    result.Keeps text span := by
  obtain ⟨front, inside, back, cut, rfl⟩ := fits
  have written : result.text = splice text (result.claims.map (·.replacement)) := by
    simp only [pass, bind_eq_ok_iff, pure_eq_ok_iff] at passed
    obtain ⟨claims, _, -, rfl, -⟩ := passed
    rfl
  have fitting : ∀ item ∈ result.claims.map (·.replacement), item.span.FitsIn text := by
    intro item member
    obtain ⟨claim, inClaims, rfl⟩ := List.mem_map.mp member
    exact fitsIn_of_mem_claims passed inClaims
  obtain ⟨sorted, perm, -, rewrites⟩ :=
    splice_rewrites fitting (List.pairwise_map.mpr (claims_apart passed))
  rw [← written] at rewrites
  have clearSorted : ∀ item ∈ sorted, item.span.overlaps
      ⟨0 + byteLength front, 0 + byteLength front + byteLength inside⟩ = false := by
    intro item member
    obtain ⟨claim, inClaims, rfl⟩ := List.mem_map.mp (perm.mem_iff.mp member)
    simpa [Claim.replacement] using clear claim inClaims
  obtain ⟨earlier, later, newFront, newBack, rfl, target, rewritesFront, rewritesBack⟩ :=
    rewrites.exists_kept cut clearSorted
  rw [Nat.zero_add] at rewritesBack
  exact ⟨front, inside, back, newFront, newBack, earlier, later, cut, rfl, target, perm,
    rewritesFront, rewritesBack⟩

section Unbound

variable {candidate : Candidate State Context} {before after : List (Processor State Context)}

/-- Only processors registered later replace a part of a candidate that does not
bind.  What earlier ones have replaced it does not overlap, since it reaches
binding. -/
theorem mem_after_of_overlaps
    (order : registry.processors = before ++ candidate.processor :: after)
    (inReached : candidate ∈ reached [] (registry.candidates text))
    (unbound : candidate.call? = none) {selection : Selection State Context}
    (selected : selection ∈ registry.selected text)
    (overlap : selection.span.overlaps candidate.span = true) :
    selection.candidate.processor ∈ after := by
  obtain ⟨other, otherReached, selects⟩ := List.mem_filterMap.mp selected
  obtain ⟨call, bound, rfl⟩ := Option.map_eq_some_iff.mp selects
  rw [reached_candidates order] at inReached otherReached
  have inBack := (List.mem_append.mp inReached).resolve_left fun inFront =>
    not_mem_of_order order List.mem_cons_self (mem_matchesOf_iff.mp (mem_of_mem_reached inFront)).1
  rcases List.mem_append.mp otherReached with otherFront | otherBack
  · have replacedBefore : other.span ∈ (selectedFrom [] (matchesOf before text)).map (·.span) :=
      List.mem_map.mpr ⟨⟨other, call⟩, List.mem_filterMap.mpr ⟨other, otherFront, selects⟩, rfl⟩
    have apart := overlaps_eq_false_of_mem_reached inBack _ replacedBefore
    exact absurd (overlap.symm.trans apart) (by simp)
  · obtain ⟨processorBack, inFinds⟩ := mem_matchesOf_iff.mp (mem_of_mem_reached otherBack)
    refine (List.mem_cons.mp processorBack).resolve_left fun same => ?_
    -- Matches of one processor do not overlap, so both would be the same candidate.
    obtain ⟨processor, found⟩ := candidate
    obtain ⟨_, foundToo⟩ := other
    obtain rfl : _ = processor := same
    have inFindsToo := (mem_matchesOf_iff.mp (mem_of_mem_reached inBack)).2
    obtain rfl := Processor.eq_of_overlaps inFinds inFindsToo overlap
    exact absurd (bound.symm.trans unbound) (by simp)

/-- A later processor for units that takes a unit is a switchboard, and the one
before it is not. -/
theorem everyUnit_of_overlaps
    (order : registry.processors = before ++ candidate.processor :: after)
    (forUnits : ∀ processor ∈ registry.processors, processor.isDelimited = true →
      processor.ForUnits)
    (inReached : candidate ∈ reached [] (registry.candidates text))
    (unbound : candidate.call? = none) {selection : Selection State Context}
    (selected : selection ∈ registry.selected text)
    (overlap : selection.span.overlaps candidate.span = true)
    (delimited : selection.candidate.processor.isDelimited = true) :
    selection.span = candidate.span ∧ selection.candidate.processor.matcher = .everyUnit ∧
      candidate.processor.matcher = .calls candidate.processor.name := by
  have registered := mem_after_of_overlaps order inReached unbound selected overlap
  have inCandidates := mem_of_mem_reached inReached
  have inSelected := mem_candidates_of_mem_selected selected
  obtain ⟨inRegistry, inFinds⟩ := mem_candidates_iff.mp inCandidates
  obtain ⟨laterInRegistry, laterFinds⟩ := mem_candidates_iff.mp inSelected
  obtain ⟨fault, fails⟩ := Candidate.call?_eq_none_iff.mp unbound
  have alsoDelimited := Processor.isDelimited_of_unbound inFinds fails
  have throughCandidate : registry.processors = (before ++ [candidate.processor]) ++ after := by
    simpa using order
  have shared : selection.candidate.processor.grammar = candidate.processor.grammar :=
    (registry.shared _ laterInRegistry delimited).trans
      (registry.shared _ inRegistry alsoDelimited).symm
  refine ⟨?_, ?_⟩
  · obtain ⟨unit, inText, stands⟩ := exists_unit_of_mem_candidates inCandidates alsoDelimited
    obtain ⟨unitToo, inTextToo, standsToo⟩ := exists_unit_of_mem_candidates inSelected delimited
    rw [← stands, show selection.span = unitToo.span from standsToo.symm] at overlap ⊢
    rw [Grammar.eq_of_overlaps inTextToo inText overlap]
  · have first := forUnits _ inRegistry alsoDelimited
    have second := forUnits _ laterInRegistry delimited
    obtain ⟨processor, found⟩ := candidate
    obtain ⟨⟨processorToo, foundToo⟩, call⟩ := selection
    dsimp only at first second
    cases first with
    | switchboard grammar name callback =>
        exact absurd rfl (name_ne_of_mem_selected throughCandidate registered second selected)
    | shorthand built =>
        obtain ⟨-, rfl, -, matcher, -⟩ := Processor.shorthand_eq_ok built
        refine ⟨?_, matcher⟩
        cases second with
        | switchboard => rfl
        | shorthand builtToo =>
            obtain ⟨-, -, rfl, -⟩ := Processor.shorthand_eq_ok built
            obtain ⟨-, -, rfl, -⟩ := Processor.shorthand_eq_ok builtToo
            rw [shared] at builtToo
            have same := Processor.name_eq_of_overlaps builtToo built laterFinds inFinds overlap
            have twice := eq_of_name_eq laterInRegistry inRegistry same
            exact absurd (List.mem_append_right _ (List.mem_singleton.mpr twice))
              (not_mem_of_order throughCandidate registered)

/-- Where a pass that leaves units verbatim passes over one that does not bind,
only a later processor for a pattern, or a later switchboard, replaces a part of it.
If none does, the unit is still there after the pass. -/
theorem pass_leavesVerbatim
    (forUnits : ∀ processor ∈ registry.processors, processor.isDelimited = true →
      processor.ForUnits)
    (inReached : candidate ∈ reached [] (registry.candidates text))
    (unbound : candidate.call? = none)
    (passed : registry.pass .leaveVerbatim text context state = .ok result final) :
    ∃ before after, registry.processors = before ++ candidate.processor :: after ∧
      (∀ claim ∈ result.claims, claim.span.overlaps candidate.span = true →
        ∃ selection ∈ registry.selected text, selection.span = claim.span ∧
          selection.candidate.processor ∈ after ∧
          (selection.candidate.processor.isDelimited = true →
            claim.span = candidate.span ∧
              selection.candidate.processor.matcher = .everyUnit ∧
              candidate.processor.matcher = .calls candidate.processor.name)) ∧
      ((∀ claim ∈ result.claims, claim.span.overlaps candidate.span = false) →
        result.Keeps text candidate.span) := by
  have inCandidates := mem_of_mem_reached inReached
  obtain ⟨before, after, order⟩ := List.append_of_mem (mem_candidates_iff.mp inCandidates).1
  refine ⟨before, after, order, fun claim member overlap => ?_,
    keeps_of_clear passed (fitsIn_of_mem_candidates inCandidates)⟩
  obtain ⟨selection, selected, same⟩ := exists_selection_of_mem_claims passed member
  rw [← same] at overlap ⊢
  exact ⟨selection, selected, rfl,
    mem_after_of_overlaps order inReached unbound selected overlap,
    everyUnit_of_overlaps order forUnits inReached unbound selected overlap⟩

end Unbound

/-! ## A letter in a unit -/

def lettering : Callback Unit Unit := fun _ => pure ['c']

def bareUnits : Processor Unit Unit :=
  { name := ['a'], grammar := Grammar.default, matcher := .calls ['a'], shape := {}
    callback := lettering }

/-- Takes every letter `b`, in units and outside. -/
def everyB : Processor Unit Unit :=
  { name := ['b'], grammar := Grammar.default
    matcher := .raw ⟨(Regex.literal ['b']).program, []⟩, shape := {}, callback := lettering }

def bareUnitsThenEveryB : Registry Unit Unit :=
  ofProcessors Grammar.default [bareUnits, everyB] (by simp [bareUnits, everyB])
    (by simp [bareUnits, everyB])

/-- Two units with an argument too many. -/
def overfullUnits : Text :=
  "\x7b\x7ba|b\x7d\x7d\x7b\x7ba|x\x7d\x7d".toList

def overfull (start : Nat) (argument : Char) : Candidate Unit Unit :=
  ⟨bareUnits, ⟨⟨start, start + 7⟩, .delimited (some [argument])⟩⟩

private theorem reached_overfullUnits :
    reached [] (bareUnitsThenEveryB.candidates overfullUnits) =
      [overfull 0 'b', overfull 7 'x', ⟨everyB, ⟨⟨4, 5⟩, .captured {}⟩⟩] := by
  cbv

private theorem pass_overfullUnits :
    bareUnitsThenEveryB.pass .leaveVerbatim overfullUnits none () =
      .ok ⟨"\x7b\x7ba|c\x7d\x7d\x7b\x7ba|x\x7d\x7d".toList, [⟨⟨4, 5⟩, ['c'], false⟩]⟩ () := by
  cbv

private theorem forUnits_bareUnitsThenEveryB :
    ∀ processor ∈ bareUnitsThenEveryB.processors, processor.isDelimited = true →
      processor.ForUnits := by
  intro processor member delimited
  have listed : bareUnitsThenEveryB.processors = [bareUnits, everyB] :=
    ofProcessors_processors _ _ _ _
  simp only [listed, List.mem_cons, List.not_mem_nil, or_false] at member
  rcases member with rfl | rfl
  · exact .shorthand (show Processor.shorthand Grammar.default ['a'] {} lettering =
      .ok bareUnits by rfl)
  · simp [everyB, Processor.isDelimited, Matcher.isDelimited] at delimited

/-- The letter is replaced in the first unit although this does not bind.  The second
unit stays. -/
theorem overfullUnits_leavesVerbatim :
    bareUnitsThenEveryB.pass .leaveVerbatim overfullUnits none () =
      .ok ⟨"\x7b\x7ba|c\x7d\x7d\x7b\x7ba|x\x7d\x7d".toList, [⟨⟨4, 5⟩, ['c'], false⟩]⟩ () ∧
    (∃ selection ∈ bareUnitsThenEveryB.selected overfullUnits,
      selection.span = ⟨4, 5⟩ ∧ selection.candidate.processor.isDelimited = false) ∧
    PassResult.Keeps ⟨"\x7b\x7ba|c\x7d\x7d\x7b\x7ba|x\x7d\x7d".toList, [⟨⟨4, 5⟩, ['c'], false⟩]⟩
      overfullUnits ⟨7, 14⟩ := by
  have firstReached : overfull 0 'b' ∈ reached [] (bareUnitsThenEveryB.candidates overfullUnits) :=
    by simp [reached_overfullUnits]
  have secondReached : overfull 7 'x' ∈ reached [] (bareUnitsThenEveryB.candidates overfullUnits) :=
    by simp [reached_overfullUnits]
  have firstUnbound : (overfull 0 'b').call? = none := by cbv
  have secondUnbound : (overfull 7 'x').call? = none := by cbv
  obtain ⟨_, _, -, taken, -⟩ := pass_leavesVerbatim forUnits_bareUnitsThenEveryB firstReached
    firstUnbound pass_overfullUnits
  obtain ⟨_, _, -, -, kept⟩ := pass_leavesVerbatim forUnits_bareUnitsThenEveryB secondReached
    secondUnbound pass_overfullUnits
  refine ⟨pass_overfullUnits, ?_, kept (by decide)⟩
  obtain ⟨selection, selected, stands, -, onUnit⟩ :=
    taken ⟨⟨4, 5⟩, ['c'], false⟩ (by simp) (by decide)
  refine ⟨selection, selected, stands, ?_⟩
  cases delimited : selection.candidate.processor.isDelimited with
  | false => rfl
  | true => exact absurd (onUnit delimited).1 (by decide)

/-- A unit that is left verbatim need not stay as it is written. -/
theorem leftVerbatim_not_always_kept :
    ¬ ∀ (registry : Registry Unit Unit) (text : Text) (candidate : Candidate Unit Unit)
        (result : PassResult),
      candidate ∈ reached [] (registry.candidates text) → candidate.call? = none →
      registry.pass .leaveVerbatim text none () = .ok result () →
      ∀ claim ∈ result.claims, claim.span.overlaps candidate.span = false := by
  intro kept
  have clear := kept bareUnitsThenEveryB overfullUnits (overfull 0 'b') _
    (by simp [reached_overfullUnits]) (by cbv) pass_overfullUnits ⟨⟨4, 5⟩, ['c'], false⟩
    (by simp)
  exact absurd clear (by decide)

end Registry

end CallMarkup
