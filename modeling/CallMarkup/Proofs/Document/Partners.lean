import CallMarkup.Proofs.Document.Balance
import CallMarkup.Proofs.Document.Delimiters
import CallMarkup.Proofs.Document.Nesting

/-!
# Partners of delimiters

Each closing delimiter takes as its partner the nearest opening one before it that
has none yet; in a single-line grammar this one must be on the same line.
`findImbalance?_exact` says that a text without imbalance is one with nested
delimiters, and that otherwise the imbalance is the first delimiter without
partner, although the search stops long before it has seen all pairs.
-/

namespace CallMarkup

/-- An opening delimiter with the closing one that is its partner. -/
structure DelimiterPair where
  opening : PlacedSegment
  closing : PlacedSegment
  deriving DecidableEq

namespace DelimiterPair

def joins (pair : DelimiterPair) (placed : PlacedSegment) : Bool :=
  pair.opening == placed || pair.closing == placed

end DelimiterPair

namespace Grammar

variable {grammar : Grammar} {offset : Nat} {seen later stack : List PlacedSegment}
  {placed : PlacedSegment} {pair : DelimiterPair}

/-- Whether a segment is an opening delimiter that no pair contains. -/
def isUnpaired (pairs : List DelimiterPair) (placed : PlacedSegment) : Bool :=
  placed.segment == .opening && pairs.all fun pair => pair.opening != placed

/-- The last segments of those seen that no line break ends.  The segments come
latest first. -/
def sinceBreak (grammar : Grammar) (seen : List PlacedSegment) : List PlacedSegment :=
  seen.takeWhile fun placed => !placed.segment.endsLine grammar

/-- Pairs each closing delimiter with the nearest opening one before it that has no
partner yet.  The segments come latest first. -/
def pairs (grammar : Grammar) : List PlacedSegment → List DelimiterPair
  | [] => []
  | placed :: earlier =>
    let known := grammar.pairs earlier
    if placed.segment = .closing then
      match (grammar.sinceBreak earlier).find? (isUnpaired known) with
      | some opening => ⟨opening, placed⟩ :: known
      | none => known
    else known

/-- The pairs of delimiters in a text. -/
def pairsIn (grammar : Grammar) (text : Text) : List DelimiterPair :=
  grammar.pairs (grammar.placedFrom 0 (grammar.segments text)).reverse

/-- Whether a segment is a delimiter without partner. -/
def isLone (pairs : List DelimiterPair) (placed : PlacedSegment) : Bool :=
  placed.segment.isDelimiter && !pairs.any (·.joins placed)

/-- The first delimiter without partner among segments in the order of the text. -/
def firstLone? (grammar : Grammar) (placed : List PlacedSegment) : Option PlacedSegment :=
  placed.find? (isLone (grammar.pairs placed.reverse))

/-- A delimiter without partner as an imbalance. -/
def imbalanceAt (grammar : Grammar) (placed : PlacedSegment) : Imbalance :=
  let span := ⟨placed.offset, placed.offset + placed.segment.byteLength grammar⟩
  if placed.segment = .opening then .unclosed span else .unopened span

/-! ## Pairs -/

theorem mem_of_mem_pairs (member : pair ∈ grammar.pairs seen) :
    (pair.opening ∈ seen ∧ pair.opening.segment = .opening) ∧
      pair.closing ∈ seen ∧ pair.closing.segment = .closing := by
  induction seen with
  | nil => simp [pairs] at member
  | cons placed earlier ih =>
      have goesOn (known : pair ∈ grammar.pairs earlier) :
          (pair.opening ∈ placed :: earlier ∧ pair.opening.segment = .opening) ∧
            pair.closing ∈ placed :: earlier ∧ pair.closing.segment = .closing := by
        obtain ⟨⟨opening, opens⟩, closing, closes⟩ := ih known
        exact ⟨⟨List.mem_cons_of_mem _ opening, opens⟩, List.mem_cons_of_mem _ closing, closes⟩
      unfold pairs at member
      simp only at member
      split at member
      next closes =>
        split at member
        next opening found =>
          rcases List.mem_cons.mp member with rfl | known
          · have opens := List.find?_some found
            simp only [isUnpaired, Bool.and_eq_true, beq_iff_eq] at opens
            have near := List.takeWhile_subset _ (List.mem_of_find?_eq_some found)
            exact ⟨⟨List.mem_cons_of_mem _ near, opens.1⟩, List.mem_cons_self, closes⟩
          · exact goesOn known
        next => exact goesOn member
      next => exact goesOn member

theorem mem_or_mem_sinceBreak (member : placed ∈ grammar.sinceBreak (later ++ seen)) :
    placed ∈ later ∨ placed ∈ grammar.sinceBreak seen := by
  unfold sinceBreak at member
  rw [List.takeWhile_append] at member
  split at member
  · exact List.mem_append.mp member
  · exact .inl (List.takeWhile_subset _ member)

/-- Later segments keep the pairs found before, and a new pair closes later and
does not reach back over a line break. -/
theorem exists_pairs_append (grammar : Grammar) (later seen : List PlacedSegment) :
    ∃ more, grammar.pairs (later ++ seen) = more ++ grammar.pairs seen ∧
      ∀ pair ∈ more, pair.closing ∈ later ∧
        (pair.opening ∈ later ∨ pair.opening ∈ grammar.sinceBreak seen) := by
  induction later with
  | nil => exact ⟨[], rfl, by simp⟩
  | cons placed later ih =>
      obtain ⟨more, known, each⟩ := ih
      have eachToo : ∀ pair ∈ more, pair.closing ∈ placed :: later ∧
          (pair.opening ∈ placed :: later ∨ pair.opening ∈ grammar.sinceBreak seen) :=
        fun pair member => ⟨List.mem_cons_of_mem _ (each pair member).1,
          (each pair member).2.imp_left (List.mem_cons_of_mem _)⟩
      rw [List.cons_append, pairs, known]
      split
      next closes =>
        split
        next opening found =>
          refine ⟨⟨opening, placed⟩ :: more, rfl, List.forall_mem_cons.mpr ⟨?_, eachToo⟩⟩
          exact ⟨List.mem_cons_self,
            (mem_or_mem_sinceBreak (List.mem_of_find?_eq_some found)).imp_left
              (List.mem_cons_of_mem _)⟩
        next => exact ⟨more, rfl, eachToo⟩
      next => exact ⟨more, rfl, eachToo⟩

theorem pairs_cons_of_ne (notCloses : placed.segment ≠ .closing) :
    grammar.pairs (placed :: seen) = grammar.pairs seen := by
  rw [pairs, if_neg notCloses]

/-! ## The stack of a search -/

/-- After some segments, the stack of a search holds the opening delimiters without
partner, latest first.  None of them is on an earlier line if a line break ends
every unit. -/
structure Scanned (grammar : Grammar) (seen stack : List PlacedSegment) : Prop where
  unpaired : seen.filter (isUnpaired (grammar.pairs seen)) = stack
  near : (grammar.sinceBreak seen).filter (isUnpaired (grammar.pairs seen)) = stack
  closed : ∀ placed ∈ seen, placed.segment = .closing →
    (grammar.pairs seen).any (·.joins placed) = true
  distinct : stack.Nodup

theorem scanned_nil (grammar : Grammar) : grammar.Scanned [] [] :=
  ⟨rfl, rfl, by simp, List.nodup_nil⟩

theorem Scanned.mem_seen (scanned : grammar.Scanned seen stack) (member : placed ∈ stack) :
    placed ∈ seen ∧ placed.segment = .opening := by
  rw [← scanned.unpaired, List.mem_filter] at member
  obtain ⟨inSeen, unpaired⟩ := member
  simp only [isUnpaired, Bool.and_eq_true, beq_iff_eq] at unpaired
  exact ⟨inSeen, unpaired.1⟩

theorem Scanned.opening (scanned : grammar.Scanned seen stack) (fresh : placed ∉ seen)
    (opens : placed.segment = .opening) : grammar.Scanned (placed :: seen) (placed :: stack) := by
  have samePairs : grammar.pairs (placed :: seen) = grammar.pairs seen :=
    pairs_cons_of_ne (by simp [opens])
  have unpaired : isUnpaired (grammar.pairs seen) placed = true := by
    simp only [isUnpaired, opens, beq_self_eq_true, Bool.true_and, List.all_eq_true, bne_iff_ne]
    rintro pair member rfl
    exact fresh (mem_of_mem_pairs member).1.1
  have sameLine : grammar.sinceBreak (placed :: seen) = placed :: grammar.sinceBreak seen :=
    List.takeWhile_cons_of_pos (by simp [opens, Segment.endsLine])
  refine ⟨?_, ?_, ?_, ?_⟩
  · rw [samePairs, List.filter_cons_of_pos unpaired, scanned.unpaired]
  · rw [samePairs, sameLine, List.filter_cons_of_pos unpaired, scanned.near]
  · rw [samePairs]
    refine List.forall_mem_cons.mpr ⟨fun closes => ?_, scanned.closed⟩
    simp [opens] at closes
  · exact List.nodup_cons.mpr ⟨fun member => fresh (scanned.mem_seen member).1, scanned.distinct⟩

theorem Scanned.pairs_closing {top : PlacedSegment} (scanned : grammar.Scanned seen (top :: stack))
    (closes : placed.segment = .closing) :
    grammar.pairs (placed :: seen) = ⟨top, placed⟩ :: grammar.pairs seen := by
  have nearest : (grammar.sinceBreak seen).find? (isUnpaired (grammar.pairs seen)) = some top := by
    rw [← List.head?_filter, scanned.near]
    rfl
  rw [pairs, if_pos closes]
  simp only [nearest]

theorem Scanned.pairs_closing_nil (scanned : grammar.Scanned seen [])
    (closes : placed.segment = .closing) :
    grammar.pairs (placed :: seen) = grammar.pairs seen := by
  have nearest : (grammar.sinceBreak seen).find? (isUnpaired (grammar.pairs seen)) = none := by
    rw [← List.head?_filter, scanned.near]
    rfl
  rw [pairs, if_pos closes]
  simp only [nearest]

theorem Scanned.closing {top : PlacedSegment} (scanned : grammar.Scanned seen (top :: stack))
    (closes : placed.segment = .closing) : grammar.Scanned (placed :: seen) stack := by
  have newPairs := scanned.pairs_closing closes
  obtain ⟨absent, distinct⟩ := List.nodup_cons.mp scanned.distinct
  have still (others : List PlacedSegment)
      (known : others.filter (isUnpaired (grammar.pairs seen)) = top :: stack) :
      (placed :: others).filter (isUnpaired (grammar.pairs (placed :: seen))) = stack := by
    have isUnpaired_eq (other : PlacedSegment) :
        isUnpaired (grammar.pairs (placed :: seen)) other =
          (top != other && isUnpaired (grammar.pairs seen) other) := by
      rw [newPairs]
      simp [isUnpaired, Bool.and_left_comm]
    rw [List.filter_cons_of_neg (by simp [isUnpaired, closes]), funext isUnpaired_eq,
      ← List.filter_filter, known, List.filter_cons_of_neg (by simp), List.filter_eq_self]
    intro other member
    rw [bne_iff_ne]
    rintro rfl
    exact absent member
  have sameLine : grammar.sinceBreak (placed :: seen) = placed :: grammar.sinceBreak seen :=
    List.takeWhile_cons_of_pos (by simp [closes, Segment.endsLine])
  refine ⟨still seen scanned.unpaired, ?_, ?_, distinct⟩
  · rw [sameLine]
    exact still _ scanned.near
  · rw [newPairs]
    refine List.forall_mem_cons.mpr ⟨fun _ => by simp [DelimiterPair.joins], ?_⟩
    intro other member otherCloses
    rw [List.any_cons, scanned.closed other member otherCloses, Bool.or_true]

theorem Scanned.passing (scanned : grammar.Scanned seen stack)
    (noDelimiter : placed.segment.isDelimiter = false)
    (atBreak : placed.segment.endsLine grammar = true → stack = []) :
    grammar.Scanned (placed :: seen) stack := by
  obtain ⟨notOpens, notCloses⟩ := Segment.ne_of_isDelimiter_eq_false noDelimiter
  have samePairs : grammar.pairs (placed :: seen) = grammar.pairs seen := pairs_cons_of_ne notCloses
  have notUnpaired : ¬ isUnpaired (grammar.pairs seen) placed = true := by
    simp [isUnpaired, notOpens]
  refine ⟨?_, ?_, ?_, scanned.distinct⟩
  · rw [samePairs, List.filter_cons_of_neg notUnpaired, scanned.unpaired]
  · rw [samePairs, sinceBreak]
    cases ends : placed.segment.endsLine grammar with
    | true =>
        rw [List.takeWhile_cons_of_neg (by simp [ends]), atBreak ends]
        rfl
    | false =>
        rw [List.takeWhile_cons_of_pos (by simp [ends]), List.filter_cons_of_neg notUnpaired]
        exact scanned.near
  · rw [samePairs]
    exact List.forall_mem_cons.mpr ⟨fun closes => absurd closes notCloses, scanned.closed⟩

/-! ## The first delimiter without partner -/

theorem Scanned.isLone_eq (scanned : grammar.Scanned seen stack) (member : placed ∈ seen) :
    isLone (grammar.pairs seen) placed = isUnpaired (grammar.pairs seen) placed := by
  unfold isLone isUnpaired
  cases kind : placed.segment with
  | opening =>
      have notClosing : ∀ pair ∈ grammar.pairs seen, (pair.closing == placed) = false := by
        intro pair known
        rw [beq_eq_false_iff_ne]
        rintro rfl
        simp [(mem_of_mem_pairs known).2.2] at kind
      have joins_eq : (grammar.pairs seen).all (fun pair => !pair.joins placed) =
          (grammar.pairs seen).all fun pair => pair.opening != placed := by
        rw [Bool.eq_iff_iff, List.all_eq_true, List.all_eq_true]
        refine forall₂_congr fun pair known => ?_
        simp [DelimiterPair.joins, notClosing pair known]
      simp [Segment.isDelimiter, List.not_any_eq_all_not, joins_eq]
  | closing => simp [scanned.closed placed member kind]
  | escaped next => rfl
  | plain c => rfl

theorem Scanned.firstLone?_eq (scanned : grammar.Scanned seen stack) :
    grammar.firstLone? seen.reverse = stack.getLast? := by
  rw [firstLone?, List.reverse_reverse, ← List.head?_filter, ← List.head?_reverse,
    ← scanned.unpaired, ← List.filter_reverse]
  congr 1
  apply List.filter_congr
  intro placed member
  exact scanned.isLone_eq (List.mem_reverse.mp member)

theorem Scanned.outermostOpen?_eq (scanned : grammar.Scanned seen stack) :
    grammar.outermostOpen? (stack.map (·.offset)) =
      stack.getLast?.map grammar.imbalanceAt := by
  rw [outermostOpen?, List.getLast?_map, Option.map_map]
  apply Option.map_congr
  intro placed last
  simp [imbalanceAt, (scanned.mem_seen (List.mem_of_getLast? last)).2, Segment.byteLength,
    Segment.text]

theorem reverse_append_cons (seen : List PlacedSegment) (placed : PlacedSegment)
    (following : List PlacedSegment) :
    (seen.reverse ++ placed :: following).reverse = following.reverse ++ placed :: seen := by
  rw [List.reverse_append, List.reverse_cons, List.reverse_reverse, List.append_assoc,
    List.singleton_append]

/-- A delimiter with a partner keeps it. -/
theorem isLone_append_of_eq_false (paired : isLone (grammar.pairs seen) placed = false)
    (later : List PlacedSegment) : isLone (grammar.pairs (later ++ seen)) placed = false := by
  obtain ⟨more, known, -⟩ := grammar.exists_pairs_append later seen
  unfold isLone at paired ⊢
  rw [known, List.any_append]
  cases delimiter : placed.segment.isDelimiter with
  | false => rfl
  | true =>
      have joined : (grammar.pairs seen).any (·.joins placed) = true := by
        simpa [delimiter] using paired
      rw [joined, Bool.or_true]
      rfl

/-- What is before the last line break finds no partner later. -/
theorem isLone_append (apart : placed ∉ later) (hidden : placed ∉ grammar.sinceBreak seen) :
    isLone (grammar.pairs (later ++ seen)) placed = isLone (grammar.pairs seen) placed := by
  obtain ⟨more, known, each⟩ := grammar.exists_pairs_append later seen
  have notJoined : more.any (·.joins placed) = false := by
    rw [List.any_eq_false]
    intro pair member
    obtain ⟨closing, opening⟩ := each pair member
    simp only [DelimiterPair.joins, Bool.or_eq_true, beq_iff_eq, not_or]
    constructor
    · rintro rfl
      exact opening.elim apart hidden
    · rintro rfl
      exact apart closing
  rw [isLone, isLone, known, List.any_append, notJoined, Bool.false_or]

/-- At a line break that ends every unit, the outermost open delimiter is the first
one without partner, whatever follows. -/
theorem Scanned.firstLone?_of_endsLine (scanned : grammar.Scanned seen stack)
    (notEmpty : stack ≠ []) (ends : placed.segment.endsLine grammar = true)
    (noDelimiter : placed.segment.isDelimiter = false) {following : List PlacedSegment}
    (apart : ∀ other ∈ seen, other ∉ following) :
    grammar.firstLone? (seen.reverse ++ placed :: following) = stack.getLast? := by
  have samePairs : grammar.pairs (placed :: seen) = grammar.pairs seen :=
    pairs_cons_of_ne (Segment.ne_of_isDelimiter_eq_false noDelimiter).2
  have hidden : grammar.sinceBreak (placed :: seen) = [] :=
    List.takeWhile_cons_of_neg (by simp [ends])
  have same : seen.reverse.find? (isLone (grammar.pairs (following.reverse ++ placed :: seen))) =
      grammar.firstLone? seen.reverse := by
    rw [firstLone?, List.reverse_reverse, ← List.head?_filter, ← List.head?_filter]
    congr 1
    refine List.filter_congr fun other member => ?_
    have before := apart other (List.mem_reverse.mp member)
    rw [isLone_append (by simpa using before) (by simp [hidden]), samePairs]
  rw [scanned.firstLone?_eq, List.getLast?_eq_some_getLast notEmpty] at same
  rw [firstLone?, reverse_append_cons, List.find?_append, same,
    List.getLast?_eq_some_getLast notEmpty, Option.some_or]

/-- A closing delimiter that finds nothing open is the first delimiter without
partner, whatever follows. -/
theorem Scanned.firstLone?_of_closing (scanned : grammar.Scanned seen [])
    (closes : placed.segment = .closing) (fresh : placed ∉ seen)
    {following : List PlacedSegment} (apart : placed ∉ following) :
    grammar.firstLone? (seen.reverse ++ placed :: following) = some placed := by
  have samePairs := scanned.pairs_closing_nil closes
  have noneBefore :
      seen.reverse.find? (isLone (grammar.pairs (following.reverse ++ placed :: seen))) = none := by
    have noneYet := scanned.firstLone?_eq
    rw [firstLone?, List.reverse_reverse, List.getLast?_nil, List.find?_eq_none] at noneYet
    rw [List.find?_eq_none]
    intro other member
    rw [Bool.not_eq_true]
    refine isLone_append_of_eq_false ?_ _
    rw [samePairs, ← Bool.not_eq_true]
    exact noneYet other member
  have here : isLone (grammar.pairs (following.reverse ++ placed :: seen)) placed = true := by
    obtain ⟨more, known, each⟩ := grammar.exists_pairs_append following.reverse (placed :: seen)
    simp only [isLone, closes, Segment.isDelimiter, Bool.true_and, Bool.not_eq_true',
      List.any_eq_false, DelimiterPair.joins, Bool.or_eq_true, beq_iff_eq, not_or]
    intro pair member
    constructor
    · rintro rfl
      simp [(mem_of_mem_pairs member).1.2] at closes
    · rintro rfl
      rw [known, samePairs] at member
      rcases List.mem_append.mp member with new | old
      · exact apart (List.mem_reverse.mp (each pair new).1)
      · exact fresh (mem_of_mem_pairs old).2.1
  rw [firstLone?, reverse_append_cons, List.find?_append, noneBefore, Option.none_or,
    List.find?_cons_of_pos here]

/-! ## The search -/

theorem segment_byteLength_pos (grammar : Grammar) (segment : Segment) :
    0 < segment.byteLength grammar := by
  refine Nat.pos_of_ne_zero fun nothing => ?_
  exact grammar.segment_text_ne_nil segment (eq_nil_of_byteLength_eq_zero nothing)

theorem offset_le_of_mem_placedFrom {segments : List Segment}
    (member : placed ∈ grammar.placedFrom offset segments) : offset ≤ placed.offset := by
  obtain ⟨before, after, cut⟩ := List.append_of_mem member
  obtain ⟨earlier, _, -, -, place, -⟩ := exists_of_placedFrom_eq cut
  omega

/-- A search that goes on from some segments finds the first delimiter without
partner among all, those already seen included. -/
theorem Scanned.imbalanceFrom?_eq (scanned : grammar.Scanned seen stack)
    (below : ∀ placed ∈ seen, placed.offset < offset) (following : List Segment) :
    grammar.imbalanceFrom? offset (stack.map (·.offset)) following =
      (grammar.firstLone? (seen.reverse ++ grammar.placedFrom offset following)).map
        grammar.imbalanceAt := by
  induction following generalizing offset seen stack with
  | nil =>
      rw [imbalanceFrom?, scanned.outermostOpen?_eq, placedFrom, List.append_nil,
        scanned.firstLone?_eq]
  | cons segment following ih =>
      have positive := grammar.segment_byteLength_pos segment
      have fresh : ⟨offset, segment⟩ ∉ seen := fun member => absurd (below _ member) (by simp)
      have belowNext : ∀ placed ∈ (⟨offset, segment⟩ : PlacedSegment) :: seen,
          placed.offset < offset + segment.byteLength grammar := by
        refine List.forall_mem_cons.mpr ⟨by simpa using positive, fun placed member => ?_⟩
        have before := below placed member
        omega
      have apart : ∀ placed ∈ (⟨offset, segment⟩ : PlacedSegment) :: seen,
          placed ∉ grammar.placedFrom (offset + segment.byteLength grammar) following := by
        intro placed member later
        have before := belowNext placed member
        have after := offset_le_of_mem_placedFrom later
        omega
      obtain ⟨apartHere, apartSeen⟩ := List.forall_mem_cons.mp apart
      -- The search stops only where no later segment can change what is alone so far.
      have goesOn {next : List PlacedSegment}
          (scannedNext : grammar.Scanned (⟨offset, segment⟩ :: seen) next) :=
        ih scannedNext belowNext
      simp only [List.reverse_cons, List.append_assoc, List.singleton_append] at goesOn
      rw [placedFrom]
      cases delimiter : segment.isDelimiter with
      | false =>
          rw [imbalanceFrom?_cons delimiter]
          split
          next stops =>
            simp only [Bool.and_eq_true, Bool.not_eq_true', List.isEmpty_map,
              List.isEmpty_eq_false_iff] at stops
            rw [scanned.outermostOpen?_eq,
              scanned.firstLone?_of_endsLine stops.2 stops.1 delimiter apartSeen]
          next continues =>
            refine goesOn (scanned.passing delimiter fun ends => ?_)
            simpa [show segment.endsLine grammar = true from ends] using continues
      | true =>
          rcases Segment.isDelimiter_iff.mp delimiter with rfl | rfl
          · exact goesOn (scanned.opening fresh rfl)
          · cases stack with
            | nil =>
                rw [scanned.firstLone?_of_closing rfl fresh apartHere]
                simp [imbalanceFrom?, imbalanceAt]
            | cons top stack => exact goesOn (scanned.closing rfl)

theorem find?_isLone_filter (pairs : List DelimiterPair) (placed : List PlacedSegment) :
    (placed.filter (·.segment.isDelimiter)).find? (isLone pairs) = placed.find? (isLone pairs) := by
  rw [List.find?_filter]
  congr 1
  funext one
  unfold isLone
  cases one.segment.isDelimiter with
  | false => rfl
  | true => simp only [Bool.true_and, true_and, Bool.decide_eq_true]

/-- A text has no imbalance exactly if its delimiters are nested.  Otherwise the
imbalance is the first active delimiter that gets no partner. -/
theorem findImbalance?_exact (grammar : Grammar) (text : Text) :
    (grammar.findImbalance? text = none ↔ grammar.Nested (grammar.segments text)) ∧
      grammar.findImbalance? text =
        ((grammar.delimiters text).find? (isLone (grammar.pairsIn text))).map
          grammar.imbalanceAt := by
  constructor
  · rw [nested_iff]
    exact imbalanceFrom?_eq_none_iff
  · rw [delimiters, find?_isLone_filter]
    exact grammar.scanned_nil.imbalanceFrom?_eq (by simp) (grammar.segments text)

end Grammar

end CallMarkup
