import CallMarkup.Processor.Basic
import CallMarkup.Proofs.Call.Items

/-!
# What a switchboard passes on

A switchboard binds the inner text of a unit as a whole, so the name of the unit
is classified like any other item.  Its call begins with the name, followed by
what the rest of the unit binds to, exactly if the name does not read as a
keyword item.  A name that does becomes the first named argument, and then there
is no positional one.
-/

namespace CallMarkup

/-! ## Arguments in front -/

/-- A call with further arguments in front of those of another call.  Positional
arguments are named by their places, so only their values are the same. -/
structure BoundCall.Extends (front call base : BoundCall) : Prop where
  positional : call.positional.map (·.value) =
    front.positional.map (·.value) ++ base.positional.map (·.value)
  named : call.named = front.named ++ base.named

namespace BoundCall

variable {grammar : Grammar} {front call base final : BoundCall}

/-- What an item adds to a call, it also adds to the call without the arguments in
front. -/
theorem Extends.addItem (ahead : front.Extends call base) {item : Item}
    (added : call.addItem grammar item = .ok final) :
    ∃ other, base.addItem grammar item = .ok other ∧ front.Extends final other := by
  cases item with
  | positional text =>
      simp only [BoundCall.addItem] at added ⊢
      split at added
      · cases added
      next unnamed =>
        obtain rfl := Except.ok.inj added
        have noneNamed : front.named ++ base.named = [] := by
          rw [← ahead.named]
          simpa using unnamed
        have baseUnnamed : ¬base.named ≠ [] := by
          simp [(List.append_eq_nil_iff.mp noneNamed).2]
        rw [if_neg baseUnnamed]
        refine ⟨_, rfl, ?_, ahead.named⟩
        simp [ahead.positional]
  | keyword key text =>
      simp only [BoundCall.addItem] at added ⊢
      split at added
      · cases added
      next fresh =>
        obtain rfl := Except.ok.inj added
        have baseFresh : ¬base.named.any (·.name = key) = true := by
          intro taken
          apply fresh
          rw [ahead.named, List.any_append, taken, Bool.or_true]
        rw [if_neg baseFresh]
        refine ⟨_, rfl, ahead.positional, ?_⟩
        rw [ahead.named, List.append_assoc]

theorem Extends.addItems (ahead : front.Extends call base) {items : List Item}
    (added : call.addItems grammar items = .ok final) :
    ∃ other, base.addItems grammar items = .ok other ∧ front.Extends final other := by
  induction items generalizing call base with
  | nil =>
      obtain rfl := Except.ok.inj added
      exact ⟨base, rfl, ahead⟩
  | cons item items ih =>
      rw [BoundCall.addItems] at added
      split at added
      next next first =>
        obtain ⟨baseNext, baseFirst, aheadNext⟩ := ahead.addItem first
        obtain ⟨other, rest, aheadFinal⟩ := ih aheadNext added
        refine ⟨other, ?_, aheadFinal⟩
        rw [BoundCall.addItems, baseFirst]
        exact rest
      · cases added

/-- After a keyword item no positional one can follow. -/
theorem positional_of_addItems (closed : call.named ≠ []) {items : List Item}
    (added : call.addItems grammar items = .ok final) : final.positional = call.positional := by
  induction items generalizing call with
  | nil =>
      obtain rfl := Except.ok.inj added
      rfl
  | cons item items ih =>
      rw [BoundCall.addItems] at added
      split at added
      next next first =>
        cases item with
        | positional text => simp [BoundCall.addItem, closed] at first
        | keyword key text =>
            simp only [BoundCall.addItem] at first
            split at first
            · cases first
            · obtain rfl := Except.ok.inj first
              have kept := ih (by simp) added
              exact kept
      · cases added

end BoundCall

/-! ## The name of a unit -/

/-- A call that begins with the name of a unit and goes on with what the rest of
the unit binds to. -/
def Grammar.NameFirst (grammar : Grammar) (inner : Text) (call : BoundCall) : Prop :=
  ∃ others,
    Shape.variadic.bind grammar (grammar.items (grammar.nameAndArguments inner).2) = .ok others ∧
    call.positional.map (·.value) =
      some (grammar.unescape (grammar.nameAndArguments inner).1) ::
        others.positional.map (·.value) ∧
    call.named = others.named

/-- A call without positional arguments, in which the name of a unit is a named
argument before those that the rest of the unit binds to. -/
def Grammar.NameAsKeyword (grammar : Grammar) (inner key value : Text) (call : BoundCall) : Prop :=
  ∃ others,
    Shape.variadic.bind grammar (grammar.items (grammar.nameAndArguments inner).2) = .ok others ∧
    call.positional = [] ∧
    call.named = ⟨key, some (grammar.unescape value)⟩ :: others.named

section Inner

variable {grammar : Grammar} {inner : Text} {call : BoundCall}

theorem nameFirst_of_bind
    (bound : Shape.variadic.bind grammar (grammar.items (some inner)) = .ok call)
    (plain : grammar.keywordParts? (grammar.nameAndArguments inner).1 = none) :
    grammar.NameFirst inner call := by
  rw [Grammar.items_inner, Grammar.classify, plain] at bound
  let front : BoundCall :=
    { positional := [⟨Nat.toDigits 10 0,
        some (grammar.unescape (grammar.nameAndArguments inner).1)⟩] }
  have start : front.Extends front {} := ⟨by simp, by simp⟩
  obtain ⟨others, rest, ahead⟩ := start.addItems bound
  exact ⟨others, rest, by simpa [front] using ahead.positional,
    by simpa [front] using ahead.named⟩

theorem nameAsKeyword_of_bind
    (bound : Shape.variadic.bind grammar (grammar.items (some inner)) = .ok call)
    {key value : Text}
    (keyword : grammar.keywordParts? (grammar.nameAndArguments inner).1 = some (key, value)) :
    grammar.NameAsKeyword inner key value call := by
  rw [Grammar.items_inner, Grammar.classify, keyword] at bound
  let front : BoundCall := { named := [⟨key, some (grammar.unescape value)⟩] }
  have start : front.Extends front {} := ⟨by simp, by simp⟩
  obtain ⟨others, rest, ahead⟩ := start.addItems bound
  have closed : front.named ≠ [] := by simp [front]
  have noPositional : call.positional = [] := BoundCall.positional_of_addItems closed bound
  exact ⟨others, rest, noPositional, by simpa [front] using ahead.named⟩

theorem nameFirst_iff_of_bind
    (bound : Shape.variadic.bind grammar (grammar.items (some inner)) = .ok call) :
    grammar.NameFirst inner call ↔
      grammar.keywordParts? (grammar.nameAndArguments inner).1 = none := by
  refine ⟨?_, nameFirst_of_bind bound⟩
  rintro ⟨others, -, values, -⟩
  rw [Option.eq_none_iff_forall_ne_some]
  rintro ⟨key, value⟩ keyword
  obtain ⟨rest, -, noPositional, -⟩ := nameAsKeyword_of_bind bound keyword
  rw [noPositional] at values
  cases values

end Inner

namespace Processor

variable {State Context : Type} {grammar : Grammar} {name text : Text}
  {callback : Callback State Context} {found : Found} {call : BoundCall}

/-- The call of a switchboard begins with the name of the unit exactly if the name
does not read as a keyword item; otherwise the name is its first named argument. -/
theorem switchboard_nameFirst_iff
    (inFinds : found ∈ (Processor.switchboard grammar name callback).find text)
    (bound : (Processor.switchboard grammar name callback).bind found = .ok call) :
    ∃ unit ∈ grammar.units text, found.span = unit.span ∧
      (grammar.NameFirst unit.inner call ↔
        grammar.keywordParts? (grammar.nameAndArguments unit.inner).1 = none) ∧
      ∀ key value,
        grammar.keywordParts? (grammar.nameAndArguments unit.inner).1 = some (key, value) →
          grammar.NameAsKeyword unit.inner key value call := by
  obtain ⟨unit, inText, rfl⟩ := List.mem_map.mp inFinds
  exact ⟨unit, inText, rfl, nameFirst_iff_of_bind bound, fun _ _ => nameAsKeyword_of_bind bound⟩

/-! ## A name with a value -/

/-- A switchboard that writes nothing. -/
def silentSwitchboard : Processor Unit Unit :=
  Processor.switchboard Grammar.default ['s'] fun _ => pure []

private theorem silentSwitchboard_found :
    ⟨⟨0, 11⟩, .delimited (some "k=v|n=1".toList)⟩ ∈
        silentSwitchboard.find "\x7b\x7bk=v|n=1\x7d\x7d".toList ∧
      silentSwitchboard.bind ⟨⟨0, 11⟩, .delimited (some "k=v|n=1".toList)⟩ =
        .ok ⟨[], [⟨['k'], some ['v']⟩, ⟨['n'], some ['1']⟩]⟩ := by
  constructor
  · have finds : silentSwitchboard.find "\x7b\x7bk=v|n=1\x7d\x7d".toList =
        [⟨⟨0, 11⟩, .delimited (some "k=v|n=1".toList)⟩] := by decide +kernel
    rw [finds]
    exact List.mem_singleton_self _
  · rfl

/-- The name is passed on as a value under a name of its own. -/
theorem silentSwitchboard_nameAsKeyword :
    ⟨⟨0, 11⟩, .delimited (some "k=v|n=1".toList)⟩ ∈
        silentSwitchboard.find "\x7b\x7bk=v|n=1\x7d\x7d".toList ∧
      silentSwitchboard.bind ⟨⟨0, 11⟩, .delimited (some "k=v|n=1".toList)⟩ =
        .ok ⟨[], [⟨['k'], some ['v']⟩, ⟨['n'], some ['1']⟩]⟩ ∧
      ∃ unit ∈ Grammar.default.units "\x7b\x7bk=v|n=1\x7d\x7d".toList,
        Grammar.default.keywordParts? (Grammar.default.nameAndArguments unit.inner).1 =
          some (['k'], ['v']) ∧
        ¬Grammar.default.NameFirst unit.inner
          ⟨[], [⟨['k'], some ['v']⟩, ⟨['n'], some ['1']⟩]⟩ := by
  obtain ⟨inFinds, bound⟩ := silentSwitchboard_found
  refine ⟨inFinds, bound, ?_⟩
  obtain ⟨unit, inText, -, nameFirst, -⟩ := switchboard_nameFirst_iff inFinds bound
  have units : Grammar.default.units "\x7b\x7bk=v|n=1\x7d\x7d".toList =
      [⟨⟨0, 11⟩, "k=v|n=1".toList⟩] := by decide +kernel
  obtain rfl : unit = ⟨⟨0, 11⟩, "k=v|n=1".toList⟩ := by
    rw [units] at inText
    exact List.mem_singleton.mp inText
  have keyword : Grammar.default.keywordParts?
      (Grammar.default.nameAndArguments "k=v|n=1".toList).1 = some (['k'], ['v']) := by rfl
  refine ⟨_, inText, keyword, fun first => ?_⟩
  rw [nameFirst.mp first] at keyword
  cases keyword

/-- A switchboard need not pass on the name first. -/
theorem switchboard_not_always_nameFirst :
    ¬ ∀ (grammar : Grammar) (name text : Text) (callback : Callback Unit Unit) (found : Found)
        (call : BoundCall),
      found ∈ (Processor.switchboard grammar name callback).find text →
      (Processor.switchboard grammar name callback).bind found = .ok call →
      ∃ unit ∈ grammar.units text, found.span = unit.span ∧ grammar.NameFirst unit.inner call := by
  intro always
  obtain ⟨inFinds, bound⟩ := silentSwitchboard_found
  obtain ⟨unit, -, -, others, -, values, -⟩ := always _ _ _ _ _ _ inFinds bound
  cases values

end Processor

end CallMarkup
