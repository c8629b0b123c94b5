import CallMarkup.Span
import Mathlib.Data.List.Pairwise

/-!
# Splicing replacements into a text

Replacements whose spans lie in a text and do not overlap can be written into
it one after the other.  What stands between the spans is kept, and a span that
is replaced may itself be empty.
-/

namespace CallMarkup

theorem eq_nil_of_byteLength_eq_zero {text : Text} (none : byteLength text = 0) : text = [] := by
  cases text with
  | nil => rfl
  | cons c rest =>
      have positive := c.utf8Size_pos
      rw [byteLength_cons] at none
      omega

/-- Of two beginnings of a text, the longer one continues the shorter one. -/
theorem exists_gap_of_byteLength_le {front source before rest : Text}
    (same : front ++ source = before ++ rest) (shorter : byteLength front ≤ byteLength before) :
    ∃ gap, before = front ++ gap ∧ source = gap ++ rest := by
  rcases List.append_eq_append_iff.mp same with ⟨gap, longer, follows⟩ | ⟨gap, rfl, follows⟩
  · exact ⟨gap, longer, follows⟩
  · rw [byteLength_append] at shorter
    have empty : gap = [] := eq_nil_of_byteLength_eq_zero (by omega)
    subst empty
    exact ⟨[], by simp, by simpa using follows.symm⟩

/-- A text can be cut in only one way at a byte. -/
theorem append_inj_of_byteLength {front source before rest : Text}
    (same : front ++ source = before ++ rest) (level : byteLength front = byteLength before) :
    front = before ∧ source = rest := by
  obtain ⟨gap, rfl, rfl⟩ := exists_gap_of_byteLength_le same (by omega)
  rw [byteLength_append] at level
  obtain rfl : gap = [] := eq_nil_of_byteLength_eq_zero (by omega)
  simp

namespace Span

/-- A span cuts a text into three parts. -/
def FitsIn (text : Text) (span : Span) : Prop :=
  ∃ before inside after, text = before ++ (inside ++ after) ∧
    span = ⟨byteLength before, byteLength before + byteLength inside⟩

theorem FitsIn.start_le_stop {text : Text} {span : Span} (fits : span.FitsIn text) :
    span.start ≤ span.stop := by
  obtain ⟨before, inside, after, -, rfl⟩ := fits
  simp

theorem FitsIn.stop_le {text : Text} {span : Span} (fits : span.FitsIn text) :
    span.stop ≤ byteLength text := by
  obtain ⟨before, inside, after, rfl, rfl⟩ := fits
  simp only [byteLength_append]
  omega

theorem slice_append (before inside after : Text) :
    slice (before ++ (inside ++ after))
      ⟨byteLength before, byteLength before + byteLength inside⟩ = inside := by
  unfold slice length
  rw [dropBytes_byteLength_append]
  simpa using takeBytes_byteLength_append inside after

theorem before_trans (first second third : Span) (one : first.before second = true)
    (two : second.before third = true) : first.before third = true := by
  simp only [before, Bool.or_eq_true, Bool.and_eq_true, beq_iff_eq, decide_eq_true_eq] at *
  omega

theorem before_antisymm {first second : Span} (one : first.before second = true)
    (two : second.before first = true) : first = second := by
  obtain ⟨start, stop⟩ := first
  obtain ⟨otherStart, otherStop⟩ := second
  simp only [before, Bool.or_eq_true, Bool.and_eq_true, beq_iff_eq, decide_eq_true_eq] at *
  rw [Span.mk.injEq]
  omega

theorem before_total (first second : Span) :
    (first.before second || second.before first) = true := by
  simp only [before, Bool.or_eq_true, Bool.and_eq_true, beq_iff_eq, decide_eq_true_eq]
  omega

/-- An empty span counts as one position, and spans overlap when they share a
position. -/
theorem overlaps_eq_true_iff {first second : Span} (firstOrdered : first.start ≤ first.stop)
    (secondOrdered : second.start ≤ second.stop) :
    first.overlaps second = true ↔
      first.start < max second.stop (second.start + 1) ∧
        second.start < max first.stop (first.start + 1) := by
  unfold overlaps
  split
  all_goals
    next firstEmpty secondEmpty =>
      simp only [isEmpty, beq_eq_false_iff_ne, beq_iff_eq] at firstEmpty secondEmpty
      simp only [Bool.and_eq_true, decide_eq_true_eq, beq_iff_eq]
      omega

theorem overlaps_self {span : Span} (ordered : span.start ≤ span.stop) :
    span.overlaps span = true := by
  rw [overlaps_eq_true_iff ordered ordered]
  omega

/-- Of two spans that do not overlap, the one that comes first ends before the
other begins. -/
theorem stop_le_start {first second : Span} (firstOrdered : first.start ≤ first.stop)
    (secondOrdered : second.start ≤ second.stop) (comes : first.before second = true)
    (apart : first.overlaps second = false) : first.stop ≤ second.start := by
  rw [← Bool.not_eq_true, overlaps_eq_true_iff firstOrdered secondOrdered] at apart
  simp only [before, Bool.or_eq_true, Bool.and_eq_true, beq_iff_eq, decide_eq_true_eq] at comes
  omega

/-- A span that begins after another one has begun, and not before its end, does
not overlap it. -/
theorem overlaps_eq_false {first second : Span} (ends : first.stop ≤ second.start)
    (begins : first.start < second.start) : first.overlaps second = false := by
  unfold overlaps
  split <;> grind

end Span

/-- Replacing spans turns a text that starts at an offset into another one.
Every gap between the spans is kept. -/
inductive Rewrites : Nat → List Replacement → Text → Text → Prop
  | done (offset : Nat) (text : Text) : Rewrites offset [] text text
  | replace {offset : Nat} {item : Replacement} {items : List Replacement} {source target : Text}
      (gap old : Text)
      (covers : item.span =
        ⟨offset + byteLength gap, offset + byteLength gap + byteLength old⟩)
      (later : Rewrites item.span.stop items source target) :
      Rewrites offset (item :: items) (gap ++ (old ++ source)) (gap ++ (item.text ++ target))

theorem Rewrites.eq_of_nil {offset : Nat} {source target : Text}
    (rewrites : Rewrites offset [] source target) : source = target := by
  cases rewrites
  rfl

theorem Rewrites.offset_le {offset : Nat} {items : List Replacement} {source target : Text}
    (rewrites : Rewrites offset items source target) :
    ∀ item ∈ items, offset ≤ item.span.start := by
  induction rewrites with
  | done => simp
  | replace gap old covers later ih =>
      refine List.forall_mem_cons.mpr ⟨by simp [covers], ?_⟩
      intro item member
      have reached := ih item member
      simp only [covers] at reached
      omega

/-- A single replacement that keeps the text writes what stood there. -/
theorem Rewrites.slice_eq_of_same {item : Replacement} {source target : Text}
    (rewrites : Rewrites 0 [item] source target) (same : source = target) :
    item.span.slice source = item.text := by
  cases rewrites with
  | replace gap old covers later =>
      obtain rfl := later.eq_of_nil
      simp only [List.append_cancel_left_eq, List.append_cancel_right_eq] at same
      rw [covers, Nat.zero_add, Span.slice_append, same]

/-- A part of a text that no replacement overlaps is still there, between what
becomes of the text on either side. -/
theorem Rewrites.exists_kept {offset : Nat} {items : List Replacement} {source target : Text}
    (rewrites : Rewrites offset items source target) {front inside back : Text}
    (cut : source = front ++ (inside ++ back))
    (clear : ∀ item ∈ items, item.span.overlaps
      ⟨offset + byteLength front, offset + byteLength front + byteLength inside⟩ = false) :
    ∃ earlier later newFront newBack, items = earlier ++ later ∧
      target = newFront ++ (inside ++ newBack) ∧ Rewrites offset earlier front newFront ∧
      Rewrites (offset + byteLength front + byteLength inside) later back newBack := by
  induction rewrites generalizing front with
  | done offset text => exact ⟨[], [], front, back, rfl, cut, .done _ _, .done _ _⟩
  | @replace offset item items source target gap old covers rewrites ih =>
      have apart := clear item (by simp)
      rw [covers, ← Bool.not_eq_true, Span.overlaps_eq_true_iff (by simp) (by simp)] at apart
      dsimp only at apart
      rcases Nat.lt_or_ge (byteLength front) (byteLength gap + byteLength old) with later | ends
      · -- The replacement begins behind the part, which lies in the gap.
        have reaches : byteLength (front ++ inside) ≤ byteLength gap := by
          rw [byteLength_append]
          omega
        obtain ⟨between, rfl, rfl⟩ :=
          exists_gap_of_byteLength_le ((List.append_assoc ..).trans cut.symm) reaches
        refine ⟨[], item :: items, front, between ++ (item.text ++ target), rfl, by simp,
          .done _ _, .replace between old ?_ rewrites⟩
        simp [covers, Nat.add_assoc]
      · -- The replacement ends before the part, which lies in what follows.
        have reaches : byteLength (gap ++ old) ≤ byteLength front := by
          rw [byteLength_append]
          exact ends
        obtain ⟨between, rfl, rest⟩ :=
          exists_gap_of_byteLength_le ((List.append_assoc ..).trans cut) reaches
        obtain ⟨earlier, later, newFront, newBack, rfl, rfl, rewritesFront, rewritesBack⟩ :=
          ih rest fun other member => by
            simpa [covers, Nat.add_assoc] using clear other (by simp [member])
        refine ⟨item :: earlier, later, gap ++ (item.text ++ newFront), newBack, rfl, by simp,
          ?_, ?_⟩
        · rw [List.append_assoc]
          exact .replace gap old covers rewritesFront
        · simpa [covers, Nat.add_assoc] using rewritesBack

/-- Each replacement ends before the next one begins. -/
def Ascending (items : List Replacement) : Prop :=
  items.Pairwise fun first second => first.span.stop ≤ second.span.start

/-- The invariant is that `front` has been written out and every span is still
to come. -/
theorem weave_rewrites {items : List Replacement} (ascending : Ascending items)
    (front source : Text) (fits : ∀ item ∈ items, item.span.FitsIn (front ++ source))
    (ahead : ∀ item ∈ items, byteLength front ≤ item.span.start) :
    Rewrites (byteLength front) items source (weave (byteLength front) source items) := by
  induction items generalizing front source with
  | nil => exact .done _ _
  | cons item items ih =>
      obtain ⟨precedes, ascending⟩ := List.pairwise_cons.mp ascending
      obtain ⟨before, inside, after, cut, covers⟩ := fits item (by simp)
      have reached := ahead item (by simp)
      rw [covers] at reached
      -- The span lies ahead, so what the text has before it goes on after `front`.
      obtain ⟨gap, rfl, rfl⟩ := exists_gap_of_byteLength_le cut reached
      have written := ih ascending (front ++ gap ++ inside) after
        (fun later member => by simpa using fits later (by simp [member]))
        (fun later member => by
          simpa [covers, Nat.add_assoc] using precedes later member)
      have stop : item.span.stop = byteLength (front ++ gap ++ inside) := by
        simp [covers, Nat.add_assoc]
      have kept : takeBytes (item.span.start - byteLength front) (gap ++ (inside ++ after)) =
          gap := by
        simpa [covers] using takeBytes_byteLength_append gap (inside ++ after)
      have left : dropBytes (item.span.stop - byteLength front) (gap ++ (inside ++ after)) =
          after := by
        have dropped := dropBytes_byteLength_append (gap ++ inside) after
        rw [List.append_assoc] at dropped
        rw [show item.span.stop - byteLength front = byteLength (gap ++ inside) by
          simp [covers]; omega]
        exact dropped
      rw [weave, kept, left, List.append_assoc]
      rw [← stop] at written
      exact .replace gap inside (by simp [covers]) written

/-- Replacements as they are written, in the order of their spans. -/
def inOrder (items : List Replacement) : List Replacement :=
  items.mergeSort fun first second => first.span.before second.span

theorem inOrder_perm (items : List Replacement) : (inOrder items).Perm items :=
  List.mergeSort_perm items _

theorem inOrder_pairwise (items : List Replacement) :
    (inOrder items).Pairwise fun first second => first.span.before second.span = true :=
  List.pairwise_mergeSort
    (fun first second third => Span.before_trans first.span second.span third.span)
    (fun first second => Span.before_total first.span second.span) items

/-- The order in which replacements are given does not matter when none of their
spans overlap. -/
theorem splice_perm {text : Text} {items others : List Replacement} (perm : items.Perm others)
    (ordered : ∀ item ∈ items, item.span.start ≤ item.span.stop)
    (apart : items.Pairwise fun first second => first.span.overlaps second.span = false) :
    splice text items = splice text others := by
  have sorted : inOrder items = inOrder others := by
    refine List.Perm.eq_of_pairwise ?_ (inOrder_pairwise items) (inOrder_pairwise others)
      ((inOrder_perm items).trans (perm.trans (inOrder_perm others).symm))
    intro first second inFirst inSecond comes follows
    by_contra distinct
    have symmetric : Std.Symm fun first second : Replacement =>
        first.span.overlaps second.span = false :=
      ⟨fun _ _ apart => by rwa [Span.overlaps_comm]⟩
    have inItems := (inOrder_perm items).mem_iff.mp inFirst
    have inItemsToo := perm.mem_iff.mpr ((inOrder_perm others).mem_iff.mp inSecond)
    have same : first.span = second.span := Span.before_antisymm comes follows
    have overlap := Span.overlaps_self (ordered first inItems)
    have clear := apart.forall inItems inItemsToo distinct
    rw [← same, overlap] at clear
    exact Bool.noConfusion clear
  show weave 0 text (inOrder items) = weave 0 text (inOrder others)
  rw [sorted]

/-- Replacements that fit into a text without overlaps are written in the order of
their spans. -/
theorem rewrites_inOrder {text : Text} {items : List Replacement}
    (fits : ∀ item ∈ items, item.span.FitsIn text)
    (apart : items.Pairwise fun first second => first.span.overlaps second.span = false) :
    Ascending (inOrder items) ∧ Rewrites 0 (inOrder items) text (splice text items) := by
  have perm := inOrder_perm items
  have ordered := inOrder_pairwise items
  have distinct : (inOrder items).Pairwise fun first second =>
      first.span.overlaps second.span = false := by
    rw [perm.pairwise_iff fun apart => by rwa [Span.overlaps_comm]]
    exact apart
  have fitting : ∀ item ∈ inOrder items, item.span.FitsIn text :=
    fun item member => fits item (perm.mem_iff.mp member)
  have ascending : Ascending (inOrder items) := by
    have both := ordered.and distinct
    refine both.imp_of_mem fun {first second} inFirst inSecond facts => ?_
    exact Span.stop_le_start (fitting first inFirst).start_le_stop
      (fitting second inSecond).start_le_stop facts.1 facts.2
  exact ⟨ascending, weave_rewrites ascending [] text fitting (by simp)⟩

/-- Splicing writes every replacement in the place of its span and keeps the
rest of the text. -/
theorem splice_rewrites {text : Text} {items : List Replacement}
    (fits : ∀ item ∈ items, item.span.FitsIn text)
    (apart : items.Pairwise fun first second => first.span.overlaps second.span = false) :
    ∃ sorted, sorted.Perm items ∧ Ascending sorted ∧
      Rewrites 0 sorted text (splice text items) :=
  ⟨inOrder items, inOrder_perm items, rewrites_inOrder fits apart⟩

end CallMarkup
