import CallMarkup.Document.Findings
import CallMarkup.Proofs.Call.Acceptance
import CallMarkup.Proofs.Processor.Matching

/-!
# What a check reports

A check looks at a unit without any processor, so it splits and binds the unit
by itself.  It reports the unit exactly when there is no processor for one name
that could replace it, whatever the name and the shape.
-/

namespace CallMarkup

/-- A diagnostic about the name or the arguments of a unit. -/
def Diagnostic.IsAbout (source text : Text) (unit : CallUnit) (diagnostic : Diagnostic) : Prop :=
  (diagnostic.category = .grammar ∨ ∃ reason, diagnostic.category = .binding reason) ∧
    diagnostic.snippet = some ⟨source, text, unit.span⟩

/-- Shapes with declared slots. -/
def Shape.Declared (shape : Shape) : Prop :=
  ∃ slots acceptsContext, Shape.declare slots acceptsContext = .ok shape

/-- Whether a processor matches a unit and binds its arguments. -/
def Processor.Handles {State Context : Type} (processor : Processor State Context) (text : Text)
    (unit : CallUnit) : Prop :=
  ∃ found ∈ processor.find text, found.span = unit.span ∧
    ∃ call, processor.bind found = .ok call

/-- Whether a unit is handled by some processor for one name, with a shape that
may be chosen. -/
def Grammar.HandledWith {State Context : Type} (grammar : Grammar)
    (callback : Callback State Context) (mayChoose : Shape → Prop) (text : Text)
    (unit : CallUnit) : Prop :=
  ∃ name shape processor, mayChoose shape ∧
    Processor.shorthand grammar name shape callback = .ok processor ∧ processor.Handles text unit

theorem Grammar.HandledWith.mono {State Context : Type} {grammar : Grammar}
    {callback : Callback State Context} {mayChoose mayAlso : Shape → Prop} {text : Text}
    {unit : CallUnit} (handled : grammar.HandledWith callback mayChoose text unit)
    (more : ∀ shape, mayChoose shape → mayAlso shape) :
    grammar.HandledWith callback mayAlso text unit := by
  obtain ⟨name, shape, processor, chosen, built, handles⟩ := handled
  exact ⟨name, shape, processor, more shape chosen, built, handles⟩

namespace Processor

variable {State Context : Type} {grammar : Grammar} {name text : Text} {shape : Shape}
  {callback : Callback State Context} {processor : Processor State Context} {unit : CallUnit}

theorem handles_iff (built : Processor.shorthand grammar name shape callback = .ok processor)
    (member : unit ∈ grammar.units text) :
    processor.Handles text unit ↔
      ∃ arguments, grammar.nameAndArguments unit.inner = (name, arguments) ∧
        ∃ call, shape.bind grammar (grammar.items arguments) = .ok call := by
  obtain ⟨valid, -, rfl, matcher, rfl⟩ := shorthand_eq_ok built
  unfold Handles find Matcher.find
  simp only [matcher, List.mem_filterMap, Option.map_eq_some_iff]
  constructor
  · rintro ⟨_, ⟨other, inText, arguments, matched, rfl⟩, same, call, bound⟩
    obtain rfl := Grammar.eq_of_span_eq inText member same
    exact ⟨arguments, (Grammar.argumentsOf?_eq_some_iff valid).mp matched, call, bound⟩
  · rintro ⟨arguments, split, call, bound⟩
    have matched := (Grammar.argumentsOf?_eq_some_iff valid).mpr split
    exact ⟨⟨unit.span, .delimited arguments⟩, ⟨unit, member, arguments, matched, rfl⟩, rfl, call,
      bound⟩

end Processor

namespace Grammar

variable {grammar : Grammar} {unit : CallUnit}

theorem isIdentifier_of_mem_items {arguments : Option Text} {key text : Text}
    (member : .keyword key text ∈ grammar.items arguments) : isIdentifier key = true := by
  cases arguments with
  | none => simp [items] at member
  | some arguments =>
      simp only [items, List.mem_map] at member
      obtain ⟨item, -, classified⟩ := member
      unfold classify at classified
      split at classified
      next other value parts =>
        simp only [Item.keyword.injEq] at classified
        obtain ⟨rfl, rfl⟩ := classified
        exact (keywordParts?_eq_some_iff.mp parts).2
      · simp at classified

theorem unitFinding?_eq_none_iff :
    grammar.unitFinding? unit = none ↔
      grammar.nameFault? (grammar.nameAndArguments unit.inner).1 = none ∧
        Orderly (grammar.items (grammar.nameAndArguments unit.inner).2) := by
  rw [← bind_variadic_isOk_iff]
  unfold unitFinding?
  cases nameFault : grammar.nameFault? (grammar.nameAndArguments unit.inner).1 with
  | some fault => simp [nameFault]
  | none =>
      cases bound : Shape.variadic.bind grammar
          (grammar.items (grammar.nameAndArguments unit.inner).2) with
      | error fault => simp [nameFault, bound]
      | ok call => simp [nameFault, bound]

variable {State Context : Type} {callback : Callback State Context} {source text : Text}

theorem unitFinding?_of_handled {mayChoose : Shape → Prop} (member : unit ∈ grammar.units text)
    (handled : grammar.HandledWith callback mayChoose text unit) :
    grammar.unitFinding? unit = none := by
  obtain ⟨name, shape, processor, -, built, handles⟩ := handled
  obtain ⟨arguments, split, call, bound⟩ := (Processor.handles_iff built member).mp handles
  have valid := (Processor.shorthand_eq_ok built).1
  rw [unitFinding?_eq_none_iff, split, ← bind_variadic_isOk_iff]
  exact ⟨valid, bind_variadic_of_bind bound⟩

theorem handled_of_unitFinding? (callback : Callback State Context)
    (member : unit ∈ grammar.units text) (faultless : grammar.unitFinding? unit = none) :
    grammar.HandledWith callback Shape.Declared text unit ∧
      grammar.HandledWith callback (fun shape => shape.isVariadic = true) text unit := by
  obtain ⟨valid, orderly⟩ := unitFinding?_eq_none_iff.mp faultless
  have built (shape : Shape) : ∃ processor, Processor.shorthand grammar
      (grammar.nameAndArguments unit.inner).1 shape callback = .ok processor := by
    simp [Processor.shorthand, valid]
  constructor
  · obtain ⟨slots, shape, call, declared, bound⟩ :=
      exists_declared_of_orderly grammar orderly fun _ _ => isIdentifier_of_mem_items
    obtain ⟨processor, builds⟩ := built shape
    exact ⟨_, shape, processor, ⟨slots, false, declared⟩, builds,
      (Processor.handles_iff builds member).mpr ⟨_, rfl, call, bound⟩⟩
  · obtain ⟨call, bound⟩ := bind_variadic_isOk_iff.mpr orderly
    obtain ⟨processor, builds⟩ := built Shape.variadic
    exact ⟨_, Shape.variadic, processor, rfl, builds,
      (Processor.handles_iff builds member).mpr ⟨_, rfl, call, bound⟩⟩

theorem units_nodup (grammar : Grammar) (text : Text) : (grammar.units text).Nodup := by
  have ascending : (grammar.units text).Pairwise fun first second =>
      first.span.stop ≤ second.span.start := unitsFrom_ascending 0 _
  refine ascending.imp_of_mem fun {first second} inFirst _ follows same => ?_
  have nonempty := start_lt_stop_of_mem_units inFirst
  rw [same] at nonempty follows
  omega

end Grammar

namespace Finding

variable {grammar : Grammar}

theorem report_snippet (grammar : Grammar) (source text : Text) (finding : Finding) :
    (finding.report grammar source text).snippet = some ⟨source, text, finding.span⟩ := by
  cases finding <;> rfl

theorem isAbout_of_unitFinding? {unit : CallUnit} {finding : Finding}
    (found : grammar.unitFinding? unit = some finding) (source text : Text) :
    (finding.report grammar source text).IsAbout source text unit := by
  unfold Grammar.unitFinding? at found
  simp only at found
  split at found
  next fault _ =>
    simp only [Option.some.injEq] at found
    subst found
    exact ⟨.inl rfl, rfl⟩
  · split at found
    next fault _ =>
      simp only [Option.some.injEq] at found
      subst found
      exact ⟨.inr ⟨fault.kind, rfl⟩, rfl⟩
    · simp at found

end Finding

namespace Grammar

variable {grammar : Grammar}

/-- The units that a check finds fault with. -/
def faultyUnits (grammar : Grammar) (text : Text) : List CallUnit :=
  (grammar.units text).filter fun unit => (grammar.unitFinding? unit).isSome

/-- The report on the balance of a text, if there is one. -/
def imbalanceReports (grammar : Grammar) (source text : Text) : List Diagnostic :=
  (grammar.findImbalance? text).toList.map fun imbalance =>
    (Finding.unbalanced imbalance).report grammar source text

theorem forall₂_reports (grammar : Grammar) (source text : Text) (units : List CallUnit) :
    List.Forall₂ (fun unit diagnostic => diagnostic.IsAbout source text unit)
      (units.filter fun unit => (grammar.unitFinding? unit).isSome)
      ((units.filterMap grammar.unitFinding?).map (·.report grammar source text)) := by
  induction units with
  | nil => simp
  | cons unit units ih =>
      cases found : grammar.unitFinding? unit with
      | none =>
          rw [List.filter_cons_of_neg (by simp [found]), List.filterMap_cons_none found]
          exact ih
      | some finding =>
          rw [List.filter_cons_of_pos (by simp [found]), List.filterMap_cons_some found,
            List.map_cons]
          exact .cons (Finding.isAbout_of_unitFinding? found source text) ih

theorem check_perm (grammar : Grammar) (source text : Text) :
    (grammar.check source text).Perm (grammar.imbalanceReports source text ++
      ((grammar.units text).filterMap grammar.unitFinding?).map
        (·.report grammar source text)) := by
  unfold check findings imbalanceReports
  have sorted := List.mergeSort_perm
    ((grammar.findImbalance? text).toList.map Finding.unbalanced ++
      (grammar.units text).filterMap grammar.unitFinding?)
    fun first second => decide (first.span.start ≤ second.span.start)
  simpa [Function.comp_def] using sorted.map (·.report grammar source text)

theorem check_ascending (grammar : Grammar) (source text : Text) :
    ∃ offsets : List Nat, (grammar.check source text).map (fun diagnostic =>
        diagnostic.label?.map (·.offset)) = offsets.map some ∧
      offsets.Pairwise (· ≤ ·) := by
  refine ⟨(grammar.findings text).map (·.span.start), ?_, ?_⟩
  · simp only [check, List.map_map]
    apply List.map_congr_left
    intro finding _
    simp [Diagnostic.label?, Finding.report_snippet]
  · rw [List.pairwise_map]
    have trans (first second third : Finding)
        (one : decide (first.span.start ≤ second.span.start) = true)
        (two : decide (second.span.start ≤ third.span.start) = true) :
        decide (first.span.start ≤ third.span.start) = true := by
      simp only [decide_eq_true_eq] at *
      omega
    have total (first second : Finding) : (decide (first.span.start ≤ second.span.start) ||
        decide (second.span.start ≤ first.span.start)) = true := by
      simp only [Bool.or_eq_true, decide_eq_true_eq]
      omega
    exact (List.pairwise_mergeSort trans total _).imp of_decide_eq_true

/-- A unit is reported when something is wrong with it, whatever it calls. -/
theorem exists_isAbout_iff {source text : Text} {unit : CallUnit}
    (member : unit ∈ grammar.units text) :
    (∃ diagnostic ∈ grammar.check source text, diagnostic.IsAbout source text unit) ↔
      (grammar.unitFinding? unit).isSome = true := by
  constructor
  · rintro ⟨diagnostic, inCheck, category, snippet⟩
    rcases List.mem_append.mp ((grammar.check_perm source text).mem_iff.mp inCheck) with
      unbalanced | faulty
    · -- A report on the balance is in a category of its own.
      obtain ⟨imbalance, -, rfl⟩ := List.mem_map.mp unbalanced
      simp [Finding.report] at category
    · obtain ⟨finding, inFindings, rfl⟩ := List.mem_map.mp faulty
      obtain ⟨other, inText, found⟩ := List.mem_filterMap.mp inFindings
      have stands := (Finding.isAbout_of_unitFinding? found source text).2
      rw [snippet] at stands
      have same : unit = other := eq_of_span_eq member inText (by simpa using stands)
      rw [same, found]
      rfl
  · intro faulty
    obtain ⟨finding, found⟩ := Option.isSome_iff_exists.mp faulty
    refine ⟨finding.report grammar source text, ?_,
      Finding.isAbout_of_unitFinding? found source text⟩
    apply (grammar.check_perm source text).mem_iff.mpr
    exact List.mem_append_right _
      (List.mem_map_of_mem (List.mem_filterMap.mpr ⟨unit, member, found⟩))

/-- A check reports a unit exactly when no processor for one name handles it,
whichever name and shape that has.  The list has one report for each such unit
and one for the balance of the text if that is at fault, in the order of the
text. -/
theorem check_exact {State Context : Type} (grammar : Grammar)
    (callback : Callback State Context) (source text : Text) :
    (∀ unit ∈ grammar.units text,
      ((∃ diagnostic ∈ grammar.check source text, diagnostic.IsAbout source text unit) ↔
        ¬grammar.HandledWith callback (fun shape => shape.Declared ∨ shape.isVariadic = true)
          text unit) ∧
      (grammar.HandledWith callback Shape.Declared text unit ↔
        grammar.HandledWith callback (fun shape => shape.isVariadic = true) text unit)) ∧
    (∀ (shape : Shape) (items : List Item) (call : BoundCall),
      shape.bind grammar items = .ok call →
        ∃ other, Shape.variadic.bind grammar items = .ok other) ∧
    ∃ faulty errors,
      faulty.Sublist (grammar.units text) ∧ faulty.Nodup ∧
      (∀ unit ∈ grammar.units text, unit ∈ faulty ↔
        ¬grammar.HandledWith callback (fun shape => shape.Declared ∨ shape.isVariadic = true)
          text unit) ∧
      List.Forall₂ (fun unit diagnostic => diagnostic.IsAbout source text unit) faulty errors ∧
      (grammar.check source text).Perm (grammar.imbalanceReports source text ++ errors) ∧
      ∃ offsets : List Nat, (grammar.check source text).map (fun diagnostic =>
          diagnostic.label?.map (·.offset)) = offsets.map some ∧
        offsets.Pairwise (· ≤ ·) := by
  have handled_iff (unit : CallUnit) (member : unit ∈ grammar.units text)
      (mayChoose : Shape → Prop)
      (offers : grammar.HandledWith callback Shape.Declared text unit →
        grammar.HandledWith callback (fun shape => shape.isVariadic = true) text unit →
          grammar.HandledWith callback mayChoose text unit) :
      grammar.HandledWith callback mayChoose text unit ↔ grammar.unitFinding? unit = none := by
    constructor
    · exact unitFinding?_of_handled member
    · intro faultless
      obtain ⟨declared, variadic⟩ := handled_of_unitFinding? callback member faultless
      exact offers declared variadic
  have unhandled_iff (unit : CallUnit) (member : unit ∈ grammar.units text) :
      (grammar.unitFinding? unit).isSome = true ↔
        ¬grammar.HandledWith callback (fun shape => shape.Declared ∨ shape.isVariadic = true)
          text unit := by
    rw [handled_iff unit member _ fun declared _ => declared.mono fun _ => .inl]
    simp [Option.isSome_iff_ne_none]
  refine ⟨?_, fun shape items call => bind_variadic_of_bind, grammar.faultyUnits text, _,
    List.filter_sublist, (grammar.units_nodup text).filter _, ?_,
    grammar.forall₂_reports source text (grammar.units text), grammar.check_perm source text,
    grammar.check_ascending source text⟩
  · intro unit member
    constructor
    · rw [exists_isAbout_iff member]
      exact unhandled_iff unit member
    · rw [handled_iff unit member _ fun declared _ => declared,
        handled_iff unit member _ fun _ variadic => variadic]
  · intro unit member
    rw [← unhandled_iff unit member, faultyUnits, List.mem_filter]
    simp [member]

end Grammar

end CallMarkup
