import Mathlib
import CallMarkup.Proofs.Span.Splice

/-!
# Slices that exist

A text can be sliced between two bytes only if these come in order and do not
fall inside a character.  Splicing slices what stands between one span and the
next, and `splice?` fails where one of these slices does not exist.
`splice?_eq_some_iff` says that it succeeds exactly on replacements that rewrite
the text in the order of their spans, and `splice_of_apart` that spans which do not
overlap never make it fail, in whatever order they are given.
-/

namespace CallMarkup

/-- Whether a text can be cut at a byte, so that no character is cut in two. -/
def IsBoundary (text : Text) (offset : Nat) : Prop :=
  ∃ before after, text = before ++ after ∧ byteLength before = offset

theorem isBoundary_iff {text : Text} {offset : Nat} :
    IsBoundary text offset ↔ byteLength (takeBytes offset text) = offset := by
  constructor
  · rintro ⟨before, after, rfl, rfl⟩
    rw [takeBytes_byteLength_append]
  · intro whole
    exact ⟨takeBytes offset text, dropBytes offset text,
      (takeBytes_append_dropBytes offset text).symm, whole⟩

instance (text : Text) (offset : Nat) : Decidable (IsBoundary text offset) :=
  decidable_of_iff _ isBoundary_iff.symm

/-- The part of a text between two bytes, if the first one does not come after the
second one and the text can be cut at both. -/
def slice? (text : Text) (start stop : Nat) : Option Text :=
  if start ≤ stop ∧ IsBoundary text start ∧ IsBoundary text stop then
    some (Span.slice text ⟨start, stop⟩)
  else none

/-- Writes replacements in the given order into what follows the byte `cursor` of a
text, if all slices between them exist. -/
def weave? (text : Text) (cursor : Nat) : List Replacement → Option Text
  | [] => slice? text cursor (byteLength text)
  | item :: items => do
    let gap ← slice? text cursor item.span.start
    let rest ← weave? text item.span.stop items
    return gap ++ (item.text ++ rest)

/-- Replaces every span by its text, if all slices between the spans exist. -/
def splice? (text : Text) (items : List Replacement) : Option Text :=
  weave? text 0 (inOrder items)

theorem slice?_eq_some_iff {text inside : Text} {start stop : Nat} :
    slice? text start stop = some inside ↔
      ∃ before after, text = before ++ (inside ++ after) ∧ byteLength before = start ∧
        start + byteLength inside = stop := by
  unfold slice?
  constructor
  · intro sliced
    split at sliced
    next exist =>
      obtain ⟨ordered, ⟨before, rest, rfl, rfl⟩, ⟨upTo, after, cut, rfl⟩⟩ := exist
      obtain ⟨part, rfl, rfl⟩ := exists_gap_of_byteLength_le cut ordered
      rw [byteLength_append, Span.slice_append] at sliced
      obtain rfl := Option.some.inj sliced
      exact ⟨before, after, rfl, rfl, (byteLength_append _ _).symm⟩
    next => cases sliced
  · rintro ⟨before, after, rfl, rfl, rfl⟩
    have ends : IsBoundary (before ++ (inside ++ after)) (byteLength before + byteLength inside) :=
      ⟨before ++ inside, after, by simp, by simp⟩
    rw [if_pos ⟨Nat.le_add_right _ _, ⟨before, _, rfl, rfl⟩, ends⟩, Span.slice_append]

/-- Everything up to the end of a text. -/
theorem slice?_to_end (front source : Text) :
    slice? (front ++ source) (byteLength front) (byteLength (front ++ source)) = some source :=
  slice?_eq_some_iff.mpr ⟨front, [], by simp, rfl, by simp⟩

theorem isBoundary_of_weave? {text target : Text} {cursor : Nat} {items : List Replacement}
    (woven : weave? text cursor items = some target) : IsBoundary text cursor := by
  obtain ⟨stop, inside, sliced⟩ : ∃ stop inside, slice? text cursor stop = some inside := by
    cases items with
    | nil => exact ⟨_, _, woven⟩
    | cons item items =>
        obtain ⟨gap, sliced, -⟩ := Option.bind_eq_some_iff.mp woven
        exact ⟨_, _, sliced⟩
  obtain ⟨before, after, cut, reached, -⟩ := slice?_eq_some_iff.mp sliced
  exact ⟨before, inside ++ after, cut, reached⟩

/-- What is woven is a rewriting, since each span is cut out between two slices. -/
theorem rewrites_of_weave? {items : List Replacement}
    (ordered : ∀ item ∈ items, item.span.start ≤ item.span.stop) (front : Text)
    {source target : Text}
    (woven : weave? (front ++ source) (byteLength front) items = some target) :
    Rewrites (byteLength front) items source target := by
  induction items generalizing front source target with
  | nil =>
      rw [weave?, slice?_to_end] at woven
      obtain rfl := Option.some.inj woven
      exact .done _ _
  | cons item items ih =>
      obtain ⟨orderedHere, orderedLater⟩ := List.forall_mem_cons.mp ordered
      obtain ⟨gap, sliced, rest, later, rfl⟩ : ∃ gap,
          slice? (front ++ source) (byteLength front) item.span.start = some gap ∧
          ∃ rest, weave? (front ++ source) item.span.stop items = some rest ∧
            gap ++ (item.text ++ rest) = target := by
        simpa [weave?, Option.bind_eq_some_iff] using woven
      obtain ⟨before, after, cut, level, begins⟩ := slice?_eq_some_iff.mp sliced
      obtain ⟨rfl, rfl⟩ := append_inj_of_byteLength cut level.symm
      obtain ⟨upTo, source, cut, ends⟩ := isBoundary_of_weave? later
      have reaches : byteLength (front ++ gap) ≤ byteLength upTo := by
        rw [byteLength_append, begins, ends]
        exact orderedHere
      obtain ⟨old, rfl, rfl⟩ :=
        exists_gap_of_byteLength_le ((List.append_assoc ..).trans cut) reaches
      rw [byteLength_append, byteLength_append] at ends
      have covers : item.span =
          ⟨byteLength front + byteLength gap, byteLength front + byteLength gap + byteLength old⟩ :=
        by rw [ends, begins]
      have stop : item.span.stop = byteLength (front ++ gap ++ old) := by
        rw [byteLength_append, byteLength_append, ends]
      refine .replace gap old covers ?_
      rw [stop] at later ⊢
      rw [cut] at later
      exact ih orderedLater (front ++ gap ++ old) later

theorem weave?_of_rewrites {items : List Replacement} (front : Text) {source target : Text}
    (rewrites : Rewrites (byteLength front) items source target) :
    weave? (front ++ source) (byteLength front) items = some target := by
  induction items generalizing front source target with
  | nil =>
      obtain rfl := rewrites.eq_of_nil
      exact slice?_to_end front source
  | cons item items ih =>
      cases rewrites with
      | @replace _ _ _ source target gap old covers later =>
          have sliced : slice? (front ++ (gap ++ (old ++ source))) (byteLength front)
              (byteLength front + byteLength gap) = some gap :=
            slice?_eq_some_iff.mpr ⟨front, old ++ source, rfl, rfl, rfl⟩
          have stop : item.span.stop = byteLength (front ++ gap ++ old) := by
            simp [covers, Nat.add_assoc]
          have start : item.span.start = byteLength front + byteLength gap := by rw [covers]
          rw [stop] at later
          have woven := ih (front ++ gap ++ old) later
          rw [List.append_assoc, List.append_assoc, ← stop] at woven
          rw [weave?, start, sliced, woven]
          rfl

/-- Splicing succeeds exactly on replacements that rewrite the text in the order of
their spans. -/
theorem splice?_eq_some_iff {text target : Text} {items : List Replacement}
    (ordered : ∀ item ∈ items, item.span.start ≤ item.span.stop) :
    splice? text items = some target ↔ Rewrites 0 (inOrder items) text target := by
  constructor
  · intro spliced
    exact rewrites_of_weave?
      (fun item member => ordered item ((inOrder_perm items).mem_iff.mp member)) [] spliced
  · intro rewrites
    exact weave?_of_rewrites [] rewrites

/-! ## Spans that do not overlap -/

namespace Span

/-- Whether a position belongs to a span.  An empty span has one position. -/
def Holds (span : Span) (position : Nat) : Prop :=
  span.start ≤ position ∧ position < max span.stop (span.start + 1)

theorem overlaps_iff_exists_holds {first second : Span} (firstOrdered : first.start ≤ first.stop)
    (secondOrdered : second.start ≤ second.stop) :
    first.overlaps second = true ↔ ∃ position, first.Holds position ∧ second.Holds position := by
  rw [overlaps_eq_true_iff firstOrdered secondOrdered]
  unfold Holds
  constructor
  · intro meets
    -- The later one of the starts belongs to both spans.
    exact ⟨max first.start second.start, by omega⟩
  · rintro ⟨position, inFirst, inSecond⟩
    omega

theorem fitsIn_of_isBoundary {text : Text} {span : Span} (ordered : span.start ≤ span.stop)
    (begins : IsBoundary text span.start) (ends : IsBoundary text span.stop) :
    span.FitsIn text := by
  obtain ⟨start, stop⟩ := span
  obtain ⟨before, rest, rfl, rfl⟩ := begins
  obtain ⟨upTo, after, cut, rfl⟩ := ends
  obtain ⟨inside, rfl, rfl⟩ := exists_gap_of_byteLength_le cut ordered
  exact ⟨before, inside, after, rfl, by rw [byteLength_append]⟩

end Span

/-- A rewritten text has lost the bytes of the spans and has won those of the
replacements. -/
theorem Rewrites.byteLength_add {offset : Nat} {items : List Replacement} {source target : Text}
    (rewrites : Rewrites offset items source target) :
    byteLength target + (items.map (·.span.length)).sum =
      byteLength source + (items.map (byteLength ·.text)).sum := by
  induction rewrites with
  | done => simp
  | replace gap old covers later ih =>
      simp only [byteLength_append, List.map_cons, List.sum_cons, Span.length, covers] at ih ⊢
      omega

/-- Replacements whose spans share no position can be spliced in any order.  No slice
is taken backwards or outside the text, every span is replaced by its text, and the
rest of the text is kept. -/
theorem splice_of_apart {text : Text} {items : List Replacement}
    (cuts : ∀ item ∈ items, item.span.start ≤ item.span.stop ∧
      item.span.stop ≤ byteLength text ∧ IsBoundary text item.span.start ∧
      IsBoundary text item.span.stop)
    (apart : items.Pairwise fun first second => first.span.overlaps second.span = false) :
    (∀ first ∈ items, ∀ second ∈ items, first.span.overlaps second.span = true ↔
      ∃ position, first.span.Holds position ∧ second.span.Holds position) ∧
    (∀ others, others.Perm items → splice? text others = some (splice text items) ∧
      splice text others = splice text items) ∧
    (∃ sorted, sorted.Perm items ∧ Ascending sorted ∧
      Rewrites 0 sorted text (splice text items)) ∧
    byteLength (splice text items) + (items.map (·.span.length)).sum =
      byteLength text + (items.map (byteLength ·.text)).sum := by
  have ordered : ∀ item ∈ items, item.span.start ≤ item.span.stop :=
    fun item member => (cuts item member).1
  have fits : ∀ item ∈ items, item.span.FitsIn text := fun item member =>
    Span.fitsIn_of_isBoundary (ordered item member) (cuts item member).2.2.1
      (cuts item member).2.2.2
  obtain ⟨ascending, rewrites⟩ := rewrites_inOrder fits apart
  refine ⟨fun first inFirst second inSecond => ?_, fun others perm => ?_,
    ⟨inOrder items, inOrder_perm items, ascending, rewrites⟩, ?_⟩
  · exact Span.overlaps_iff_exists_holds (ordered first inFirst) (ordered second inSecond)
  · have same : splice text others = splice text items :=
      (splice_perm perm.symm ordered apart).symm
    have othersOrdered : ∀ item ∈ others, item.span.start ≤ item.span.stop :=
      fun item member => ordered item (perm.mem_iff.mp member)
    have othersApart : others.Pairwise fun first second =>
        first.span.overlaps second.span = false := by
      rw [perm.pairwise_iff fun apart => by rwa [Span.overlaps_comm]]
      exact apart
    refine ⟨?_, same⟩
    rw [← same, splice?_eq_some_iff othersOrdered]
    exact (rewrites_inOrder (fun item member => fits item (perm.mem_iff.mp member))
      othersApart).2
  · have lengths := rewrites.byteLength_add
    rwa [((inOrder_perm items).map _).sum_nat, ((inOrder_perm items).map _).sum_nat] at lengths

/-- An insertion at the end of the text, a replacement of two bytes that are one
character, an insertion right after it, and one at the start. -/
def scatteredEdits : List Replacement :=
  [⟨⟨4, 4⟩, ['!']⟩, ⟨⟨1, 3⟩, ['u', 'e']⟩, ⟨⟨3, 3⟩, ['-']⟩, ⟨⟨0, 0⟩, ['^']⟩]

theorem scatteredEdits_spliced :
    (∀ item ∈ scatteredEdits, item.span.start ≤ item.span.stop ∧
      item.span.stop ≤ byteLength "a\u00FCb".toList ∧
      IsBoundary "a\u00FCb".toList item.span.start ∧
      IsBoundary "a\u00FCb".toList item.span.stop) ∧
    (scatteredEdits.Pairwise fun first second => first.span.overlaps second.span = false) ∧
    splice "a\u00FCb".toList scatteredEdits = "^aue-b!".toList ∧
    splice? "a\u00FCb".toList scatteredEdits.reverse = some "^aue-b!".toList := by
  have cuts : ∀ item ∈ scatteredEdits, item.span.start ≤ item.span.stop ∧
      item.span.stop ≤ byteLength "a\u00FCb".toList ∧
      IsBoundary "a\u00FCb".toList item.span.start ∧
      IsBoundary "a\u00FCb".toList item.span.stop := by decide
  have apart : scatteredEdits.Pairwise fun first second =>
      first.span.overlaps second.span = false := by decide
  have spliced : splice "a\u00FCb".toList scatteredEdits = "^aue-b!".toList := by cbv
  obtain ⟨-, anyOrder, -⟩ := splice_of_apart cuts apart
  have backwards := (anyOrder scatteredEdits.reverse (List.reverse_perm _)).1
  rw [spliced] at backwards
  exact ⟨cuts, apart, spliced, backwards⟩

end CallMarkup
