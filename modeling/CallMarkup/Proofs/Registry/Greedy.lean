import CallMarkup.Proofs.Registry.FromList
import CallMarkup.Proofs.Registry.Recording

/-!
# Passes are greedy

The result of a successful pass in terms of its greedy selection: which
callbacks it invokes and in what order, and what it makes of the text.
-/

namespace CallMarkup

variable {State Context : Type}

namespace Registry

theorem fitsIn_of_mem_selected {registry : Registry State Context} {text : Text}
    {selection : Selection State Context} (member : selection ∈ registry.selected text) :
    selection.span.FitsIn text :=
  fitsIn_of_mem_candidates (mem_candidates_of_mem_selected member)

/-- What the outputs of the selected candidates are to replace. -/
def replacementsOf (selected : List (Selection State Context)) (outputs : List Text) :
    List Replacement :=
  List.zipWith (fun selection => Replacement.mk selection.span) selected outputs

theorem map_span_replacementsOf {selected : List (Selection State Context)} {outputs : List Text}
    (paired : outputs.length = selected.length) :
    (replacementsOf selected outputs).map (·.span) = selected.map (·.span) := by
  induction selected generalizing outputs with
  | nil => simp [replacementsOf]
  | cons selection later ih =>
      cases outputs with
      | nil => simp at paired
      | cons output outputs =>
          simp only [List.length_cons, Nat.add_right_cancel_iff] at paired
          simpa [replacementsOf] using ih paired

theorem exists_of_mem_replacementsOf {selected : List (Selection State Context)}
    {outputs : List Text} {item : Replacement} (member : item ∈ replacementsOf selected outputs) :
    (∃ selection ∈ selected, selection.span = item.span) ∧ item.text ∈ outputs := by
  rw [replacementsOf, ← List.map_uncurry_zip_eq_zipWith] at member
  obtain ⟨⟨selection, output⟩, inZip, rfl⟩ := List.mem_map.mp member
  obtain ⟨inSelected, inOutputs⟩ := List.of_mem_zip inZip
  exact ⟨⟨selection, inSelected, rfl⟩, inOutputs⟩

theorem map_span_claims {registry : Registry State Context} {policy : MalformedPolicy} {text : Text}
    {context : Option Context} {state final : State} {result : PassResult}
    (done : registry.pass policy text context state = .ok result final) :
    result.claims.map (·.span) = (registry.selected text).map (·.span) := by
  obtain ⟨-, outputs, rans, rfl⟩ := pass_eq_ok_iff.mp done
  have spans := map_span_replacementsOf (length_of_mapM rans)
  simpa [resultOf, replacementsOf, List.map_zipWith, Selection.claimFor, Candidate.claimFor,
    Selection.span] using spans

/-- Every claim is for a selected candidate. -/
theorem exists_selection_of_mem_claims {registry : Registry State Context}
    {policy : MalformedPolicy} {text : Text} {context : Option Context} {state final : State}
    {result : PassResult} (done : registry.pass policy text context state = .ok result final)
    {claim : Claim} (member : claim ∈ result.claims) :
    ∃ selection ∈ registry.selected text, selection.span = claim.span := by
  have inSpans : claim.span ∈ result.claims.map (·.span) := List.mem_map_of_mem member
  rw [map_span_claims done] at inSpans
  exact List.mem_map.mp inSpans

theorem fitsIn_of_mem_claims {registry : Registry State Context} {policy : MalformedPolicy}
    {text : Text} {context : Option Context} {state final : State} {result : PassResult}
    (done : registry.pass policy text context state = .ok result final) {claim : Claim}
    (member : claim ∈ result.claims) : claim.span.FitsIn text := by
  obtain ⟨selection, inSelected, same⟩ := exists_selection_of_mem_claims done member
  rw [← same]
  exact fitsIn_of_mem_selected inSelected

theorem claims_apart {registry : Registry State Context} {policy : MalformedPolicy} {text : Text}
    {context : Option Context} {state final : State} {result : PassResult}
    (done : registry.pass policy text context state = .ok result final) :
    result.claims.Pairwise fun first second => first.span.overlaps second.span = false := by
  have onSpans : ((registry.selected text).map (·.span)).Pairwise fun first second =>
      first.overlaps second = false :=
    List.pairwise_map.mpr (selectedFrom_apart [] (registry.candidates text)).2
  rw [← map_span_claims done] at onSpans
  exact List.pairwise_map.mp onSpans

/-- The outputs are written in the place of the selected spans, and the rest of
the text is kept. -/
theorem rewrites_resultOf (registry : Registry State Context) (text : Text) {outputs : List Text}
    (paired : outputs.length = (registry.selected text).length) :
    ∃ sorted, sorted.Perm (replacementsOf (registry.selected text) outputs) ∧ Ascending sorted ∧
      Rewrites 0 sorted text (resultOf text (registry.selected text) outputs).text := by
  have spans := map_span_replacementsOf paired
  apply splice_rewrites
  · intro item member
    obtain ⟨⟨selection, inSelected, same⟩, -⟩ := exists_of_mem_replacementsOf member
    rw [← same]
    exact fitsIn_of_mem_selected inSelected
  · have apart := (selectedFrom_apart [] (registry.candidates text)).2
    have onSpans : ((registry.selected text).map (·.span)).Pairwise fun first second =>
        first.overlaps second = false := List.pairwise_map.mpr apart
    rw [← spans] at onSpans
    exact List.pairwise_map.mp onSpans

/-- A pass that succeeds has invoked the callbacks of the greedy selection, each
once and in the order of registration and then of the text, and it has written
their outputs in the place of the selected spans. -/
theorem pass_greedy {registry : Registry State Context} {policy : MalformedPolicy} {text : Text}
    {context : Option Context} {state final : State} {result : PassResult}
    (done : registry.pass policy text context state = .ok result final) :
    (∀ processor ∈ registry.processors,
      (processor.find text).Pairwise fun first second => first.span.stop ≤ second.span.start) ∧
    (policy = .propagate → ∀ candidate ∈ reached [] (registry.candidates text),
      candidate.call?.isSome = true) ∧
    (∀ log, registry.recording.pass policy text context (state, log) =
      .ok result (final, log ++ (registry.selected text).map (Selection.invocation context))) ∧
    (registry.selected text).Pairwise
      (fun first second => first.span.overlaps second.span = false) ∧
    result.claims.length = (registry.selected text).length ∧
    ∃ outputs sorted,
      (registry.selected text).mapM (Selection.run context) state = .ok outputs final ∧
      outputs.length = (registry.selected text).length ∧
      sorted.Perm (replacementsOf (registry.selected text) outputs) ∧
      Ascending sorted ∧ Rewrites 0 sorted text result.text := by
  obtain ⟨binds, outputs, rans, rfl⟩ := pass_eq_ok_iff.mp done
  have paired := length_of_mapM rans
  have apart := (selectedFrom_apart [] (registry.candidates text)).2
  obtain ⟨sorted, perm, ascending, rewrites⟩ := rewrites_resultOf registry text paired
  refine ⟨fun processor _ => processor.find_ascending text, ?_, fun log => recording_pass done log,
    apart, ?_, outputs, sorted, rans, paired, perm, ascending, rewrites⟩
  · rintro rfl
    exact binds
  · simp [resultOf, paired]

/-! ## Numbered units -/

/-- Writes how often it has been called before. -/
def numbered : Callback Nat Unit := fun _ count => .ok (Nat.toDigits 10 count) (count + 1)

/-- Numbers the units that call `a` without arguments and then all others. -/
def numberedUnits : Registry Nat Unit :=
  ofProcessors Grammar.default
    [{ name := ['a'], grammar := Grammar.default, matcher := .calls ['a'], shape := Shape.empty
       callback := numbered },
      Processor.switchboard Grammar.default ['z'] numbered]
    (by simp [Processor.switchboard]) (by simp [Processor.switchboard])

/-- The first unit has an argument too many, so it is left to the processor
registered last, and the units are numbered from right to left. -/
theorem numberedUnits_pass :
    numberedUnits.pass .leaveVerbatim "\x7b\x7ba|\x7d\x7d\x7b\x7ba\x7d\x7d".toList none 0 =
      .ok ⟨['1', '0'], [⟨⟨6, 11⟩, ['0'], false⟩, ⟨⟨0, 6⟩, ['1'], false⟩]⟩ 2 ∧
    numberedUnits.recording.pass .leaveVerbatim
        "\x7b\x7ba|\x7d\x7d\x7b\x7ba\x7d\x7d".toList none (0, []) =
      .ok ⟨['1', '0'], [⟨⟨6, 11⟩, ['0'], false⟩, ⟨⟨0, 6⟩, ['1'], false⟩]⟩
        (2, [⟨['a'], {}, none⟩,
          ⟨['z'], { positional := [⟨['0'], some ['a']⟩, ⟨['1'], some []⟩] }, none⟩]) := by
  have done : numberedUnits.pass .leaveVerbatim
      "\x7b\x7ba|\x7d\x7d\x7b\x7ba\x7d\x7d".toList none 0 =
        .ok ⟨['1', '0'], [⟨⟨6, 11⟩, ['0'], false⟩, ⟨⟨0, 6⟩, ['1'], false⟩]⟩ 2 := by cbv
  have calls : (numberedUnits.selected "\x7b\x7ba|\x7d\x7d\x7b\x7ba\x7d\x7d".toList).map
      (Selection.invocation none) =
        [⟨['a'], {}, none⟩,
          ⟨['z'], { positional := [⟨['0'], some ['a']⟩, ⟨['1'], some []⟩] }, none⟩] := by cbv
  have recorded := (pass_greedy done).2.2.1 []
  rw [calls] at recorded
  exact ⟨done, recorded⟩

end Registry

end CallMarkup
