import CallMarkup.Proofs.Document.Check
import CallMarkup.Proofs.Processor.Capturing
import CallMarkup.Proofs.Registry.Watching

/-!
# The names in a call

An argument is looked up by its name in both views of a call, and the first one found
wins.  So every argument can be had only if no name stands twice in the two views
together.  Names come from three sources: a call for declared slots has the names of
the slots; a call for any arguments numbers the positional ones and has the keys of
the others, which are identifiers and therefore no numbers; and a call that a pattern
captures has the names of the groups, or their numbers.  In each case the names are
distinct, hence also in every call that a registry makes.
-/

namespace CallMarkup

/-! ## Calls for declared slots -/

theorem Shape.names_of_bindSlots {shape : Shape} {grammar : Grammar} {items : List Item}
    {call : BoundCall} (bound : shape.bindSlots grammar items = .ok call) :
    call.names = (shape.positional ++ shape.named).map (·.name) := by
  unfold bindSlots at bound
  split at bound
  · cases bound
  · split at bound
    · obtain rfl := Except.ok.inj bound
      simp [BoundCall.names, BoundCall.toList, argument, Function.comp_def]
    · cases bound

/-! ## Calls for any arguments -/

namespace BoundCall

variable {grammar : Grammar} {call next : BoundCall}

/-- A call whose positional arguments have their places for names and whose named ones
have distinct identifiers. -/
structure Numbered (call : BoundCall) : Prop where
  positional : call.positional.map (·.name) =
    (List.range call.positional.length).map (Nat.toDigits 10)
  identifiers : ∀ argument ∈ call.named, isIdentifier argument.name = true
  distinct : (call.named.map (·.name)).Nodup

theorem numbered_empty : ({} : BoundCall).Numbered where
  positional := rfl
  identifiers := by simp
  distinct := List.nodup_nil

/-- An item whose key, if it has one, is an identifier keeps a call numbered. -/
theorem Numbered.addItem (numbered : call.Numbered) {item : Item}
    (identifier : ∀ key text, item = .keyword key text → isIdentifier key = true)
    (added : call.addItem grammar item = .ok next) : next.Numbered := by
  cases item with
  | positional text =>
      simp only [BoundCall.addItem] at added
      split at added
      · cases added
      · obtain rfl := Except.ok.inj added
        refine ⟨?_, numbered.identifiers, numbered.distinct⟩
        simp [numbered.positional, List.range_succ]
  | keyword key text =>
      simp only [BoundCall.addItem] at added
      split at added
      · cases added
      next fresh =>
        obtain rfl := Except.ok.inj added
        refine ⟨numbered.positional, ?_, ?_⟩
        · intro argument member
          rcases List.mem_append.mp member with earlier | new
          · exact numbered.identifiers argument earlier
          · obtain rfl := List.mem_singleton.mp new
            exact identifier key text rfl
        · have absent : key ∉ call.named.map (·.name) := by simpa using fresh
          rw [List.map_append, List.map_singleton, ← List.concat_eq_append]
          exact List.Nodup.concat absent numbered.distinct

theorem Numbered.addItems (numbered : call.Numbered) {items : List Item}
    (identifiers : ∀ key text, .keyword key text ∈ items → isIdentifier key = true)
    (added : call.addItems grammar items = .ok next) : next.Numbered := by
  induction items generalizing call with
  | nil =>
      obtain rfl := Except.ok.inj added
      exact numbered
  | cons item items ih =>
      rw [BoundCall.addItems] at added
      split at added
      next between first =>
        have numberedBetween : between.Numbered := by
          refine numbered.addItem (fun key text same => ?_) first
          exact identifiers key text (same ▸ List.mem_cons_self)
        refine ih numberedBetween (fun key text later => ?_) added
        exact identifiers key text (List.mem_cons_of_mem _ later)
      · cases added

theorem Numbered.nodup_names (numbered : call.Numbered) : call.names.Nodup := by
  rw [names, toList, List.map_append, List.nodup_append]
  refine ⟨?_, numbered.distinct, ?_⟩
  · rw [numbered.positional]
    exact List.nodup_range.map toDigits_injective
  -- A name of both views would be a number and an identifier.
  · rintro name isPlace _ isKey rfl
    rw [numbered.positional] at isPlace
    obtain ⟨place, -, rfl⟩ := List.mem_map.mp isPlace
    obtain ⟨argument, inNamed, same⟩ := List.mem_map.mp isKey
    have identifier := numbered.identifiers argument inNamed
    rw [same, isIdentifier_toDigits] at identifier
    cases identifier

end BoundCall

theorem nodup_names_of_bind_variadic {grammar : Grammar} {arguments : Option Text}
    {call : BoundCall} (bound : Shape.variadic.bind grammar (grammar.items arguments) = .ok call) :
    call.names.Nodup := by
  have identifiers : ∀ key text, .keyword key text ∈ grammar.items arguments →
      isIdentifier key = true := fun _ _ member => Grammar.isIdentifier_of_mem_items member
  exact (BoundCall.numbered_empty.addItems identifiers bound).nodup_names

/-! ## Captured calls -/

theorem Pattern.names_callOf (pattern : Pattern) (found : RegexMatch) :
    (pattern.callOf found).names =
      (pattern.shape.positional ++ pattern.shape.named).map (·.name) := by
  rw [BoundCall.names, BoundCall.toList, callOf_positional, callOf_named, shape_positional,
    shape_named]
  simp only [List.map_append, List.map_map]
  rfl

/-! ## Calls from any source -/

namespace BoundCall

variable {call : BoundCall}

/-- Where the calls that callbacks receive come from: from items bound to declared slots,
from the argument text of a unit when any arguments are accepted, and from the matches
of a pattern. -/
inductive Handed : BoundCall → Prop
  | declared {slots : List Slot} {acceptsContext : Bool} {shape : Shape} {grammar : Grammar}
      {items : List Item} {call : BoundCall}
      (declared : Shape.declare slots acceptsContext = .ok shape)
      (bound : shape.bind grammar items = .ok call) : Handed call
  | variadic {grammar : Grammar} {arguments : Option Text} {call : BoundCall}
      (bound : Shape.variadic.bind grammar (grammar.items arguments) = .ok call) : Handed call
  | captured {text : Text} {pattern : Pattern} {grammar : Grammar} {span : Span}
      {call : BoundCall} (named : Pattern.WellNamed pattern.groupNames)
      (inFinds : ⟨span, .captured call⟩ ∈ (Matcher.raw pattern).find grammar text) : Handed call

theorem Handed.nodup_names (handed : call.Handed) : call.names.Nodup := by
  cases handed with
  | declared declared bound =>
      rw [Shape.bind_of_declare declared] at bound
      exact BoundCall.nodup_names (Shape.wellDeclared_of_declare declared).nodup_names
        (Shape.names_of_bindSlots bound)
  | variadic bound => exact nodup_names_of_bind_variadic bound
  | captured named inFinds =>
      obtain ⟨hit, -, same⟩ := List.mem_map.mp inFinds
      simp only [Found.mk.injEq, FoundArguments.captured.injEq] at same
      obtain ⟨-, rfl⟩ := same
      exact BoundCall.nodup_names (Pattern.shape_slots_names_nodup named)
        (Pattern.names_callOf _ hit)

/-- A call in which no argument hides another one: the names of both views together are
distinct, so every argument is found by its name, and there are as many arguments as
names. -/
structure Unshadowed (call : BoundCall) : Prop where
  distinct : call.names.Nodup
  get? : ∀ argument ∈ call.toList, call.get? argument.name = argument.value
  size : call.size = call.names.toFinset.card

theorem unshadowed_of_nodup (distinct : call.names.Nodup) : call.Unshadowed where
  distinct := distinct
  get? := fun _ member => get?_of_mem distinct member
  size := by rw [List.toFinset_card_of_nodup distinct, names, List.length_map, size]

/-- No call that a callback receives has an argument that hides another one. -/
theorem unshadowed_of_handed (handed : call.Handed) : call.Unshadowed :=
  unshadowed_of_nodup handed.nodup_names

/-- What items supply for slots of all kinds. -/
def mixedCall : BoundCall :=
  ⟨[⟨['a'], some ['x']⟩, ⟨['b'], some []⟩], [⟨['n'], some ['0']⟩, ⟨['m'], some ['y']⟩]⟩

/-- A call with a key that is nearly the number of a positional argument. -/
def nearlyNumberedCall : BoundCall :=
  ⟨[⟨['0'], some ['x']⟩, ⟨['1'], some ['y']⟩], [⟨['_', '1'], some ['z']⟩]⟩

/-- What two of three groups capture, one of them under its number. -/
def twoCapturedCall : BoundCall :=
  ⟨[⟨['2'], some ['b']⟩], [⟨['f'], some ['a']⟩, ⟨['l'], none⟩]⟩

theorem eachSource_unshadowed :
    (Shape.declare Shape.mixedSlots = .ok Shape.mixed ∧
      Shape.mixed.bind Grammar.default (itemsOf [['x'], []] [(['m'], ['y'])]) = .ok mixedCall ∧
      mixedCall.Unshadowed) ∧
    (Shape.variadic.bind Grammar.default (Grammar.default.items (some "x|y|_1=z".toList)) =
        .ok nearlyNumberedCall ∧
      nearlyNumberedCall.Unshadowed) ∧
    Pattern.read? "(?P<f>a)(b)(?P<l>c)?".toList = some Pattern.threeGroups ∧
      ⟨⟨1, 3⟩, .captured twoCapturedCall⟩ ∈
        (Matcher.raw Pattern.threeGroups).find Grammar.default "xab".toList ∧
      twoCapturedCall.Unshadowed := by
  have declared : Shape.declare Shape.mixedSlots = .ok Shape.mixed := by rfl
  have mixed : Shape.mixed.bind Grammar.default (itemsOf [['x'], []] [(['m'], ['y'])]) =
      .ok mixedCall := by rfl
  have nearlyNumbered : Shape.variadic.bind Grammar.default
      (Grammar.default.items (some "x|y|_1=z".toList)) = .ok nearlyNumberedCall := by rfl
  have finds : (Matcher.raw Pattern.threeGroups).find Grammar.default "xab".toList =
      [⟨⟨1, 3⟩, .captured twoCapturedCall⟩] := by cbv
  have inFinds : ⟨⟨1, 3⟩, .captured twoCapturedCall⟩ ∈
      (Matcher.raw Pattern.threeGroups).find Grammar.default "xab".toList :=
    finds ▸ List.mem_singleton_self _
  have read := Pattern.read?_threeGroups
  have named := (Pattern.read?_eq_some read).2
  exact ⟨⟨declared, mixed, unshadowed_of_handed (.declared declared mixed)⟩,
    ⟨nearlyNumbered, unshadowed_of_handed (.variadic nearlyNumbered)⟩,
    read, inFinds, unshadowed_of_handed (.captured named inFinds)⟩

end BoundCall

/-! ## What callbacks receive -/

/-- The shapes that a processor for a name is given: declared slots, or any arguments. -/
inductive Shape.Offered : Shape → Prop
  | declared {slots : List Slot} {acceptsContext : Bool} {shape : Shape}
      (declared : Shape.declare slots acceptsContext = .ok shape) : Offered shape
  | variadic (acceptsContext : Bool) : Offered { Shape.variadic with acceptsContext }

theorem Shape.Offered.handed {shape : Shape} (offered : shape.Offered) {grammar : Grammar}
    {arguments : Option Text} {call : BoundCall}
    (bound : shape.bind grammar (grammar.items arguments) = .ok call) : call.Handed := by
  cases offered with
  | declared declared => exact .declared declared bound
  | variadic => exact .variadic bound

variable {State Context : Type}

namespace Processor

/-- Processors of all kinds, as they can be built. -/
inductive Made : Processor State Context → Prop
  | shorthand {grammar : Grammar} {name : Text} {shape : Shape} {callback : Callback State Context}
      {processor : Processor State Context} (offered : shape.Offered)
      (built : Processor.shorthand grammar name shape callback = .ok processor) : Made processor
  | switchboard (grammar : Grammar) (name : Text) (callback : Callback State Context) :
      Made (Processor.switchboard grammar name callback)
  | ofPattern {name written : Text} {callback : Callback State Context}
      {processor : Processor State Context}
      (built : Processor.ofPattern name written callback = .ok processor) : Made processor

variable {processor : Processor State Context} {text : Text} {found : Found} {call : BoundCall}

theorem Made.handed (made : processor.Made) (inFinds : found ∈ processor.find text)
    (bound : processor.bind found = .ok call) : call.Handed := by
  cases made with
  | shorthand offered built =>
      obtain ⟨-, -, rfl, matcher, rfl⟩ := shorthand_eq_ok built
      simp only [find, Matcher.find, matcher, List.mem_filterMap, Option.map_eq_some_iff] at inFinds
      obtain ⟨unit, -, arguments, -, rfl⟩ := inFinds
      exact offered.handed bound
  | switchboard =>
      obtain ⟨unit, -, rfl⟩ := List.mem_map.mp inFinds
      exact (Shape.Offered.variadic true).handed bound
  | ofPattern built =>
      obtain ⟨pattern, read, -, matcher, -⟩ := ofPattern_eq_ok built
      rw [find, matcher] at inFinds
      obtain ⟨hit, -, rfl⟩ := List.mem_map.mp inFinds
      obtain rfl := Except.ok.inj bound
      exact .captured (Pattern.read?_eq_some read).2 inFinds

end Processor

/-- In no pass of any substitution does a callback receive a call in which an argument
hides another one. -/
theorem Registry.notes_unshadowed {registry : Registry State Context}
    (made : ∀ processor ∈ registry.processors, processor.Made) (options : SubstitutionOptions)
    (context : Option Context) (text : Text) :
    Notes (fun invocation => invocation.arguments.Unshadowed)
      (registry.collectiveSubstitute text context options)
      (registry.recording.collectiveSubstitute text context options) := by
  refine notes_collectiveSubstitute options (fun text selection member => ?_) text
  obtain ⟨isCandidate, bound⟩ := mem_of_mem_selectedFrom member
  obtain ⟨inRegistry, inFinds⟩ := mem_candidates_iff.mp isCandidate
  have handed := (made _ inRegistry).handed inFinds (Candidate.call?_eq_some_iff.mp bound)
  exact BoundCall.unshadowed_of_nodup handed.nodup_names

end CallMarkup
