import CallMarkup.Config.Read
import CallMarkup.Proofs.Computation

/-!
# What a reading returns

A record is read field by field, from its default, in the order of a sequence or by
the names of a mapping.  What holds of the default and is kept by the reading of
each field holds of the record in the end, however it is written.  So the grammar of
a configuration is the default one or one that has been checked:
`checked_of_ofText`.
-/

namespace CallMarkup.Config

variable {α β Record : Type} {holds : α → Prop}

/-- Whether everything that a reading returns has a property. -/
def Yields (holds : α → Prop) (reading : Reading α) : Prop :=
  ∀ before value after, reading before = .ok value after → holds value

namespace Yields

theorem pure {value : α} (has : holds value) : Yields holds (Pure.pure value) := by
  intro before returned after read
  obtain ⟨rfl, -⟩ := pure_eq_ok_iff.mp read
  exact has

theorem throw (fault : ConfigFault) : Yields holds (MonadExcept.throw fault) := by
  intro before value after read
  cases read

/-- A reading that goes on returns what it returns in the end. -/
theorem bind {first : Reading β} {later : β → Reading α} {between : β → Prop}
    (yields : Yields between first) (goesOn : ∀ value, between value → Yields holds (later value)) :
    Yields holds (first >>= later) := by
  intro before value after read
  obtain ⟨one, middle, readFirst, readLater⟩ := bind_eq_ok_iff.mp read
  exact goesOn one (yields before one middle readFirst) middle value after readLater

theorem after {first : Reading β} {later : β → Reading α}
    (goesOn : ∀ value, Yields holds (later value)) : Yields holds (first >>= later) :=
  bind (fun _ _ _ _ => trivial : Yields (fun _ => True) first) fun value _ => goesOn value

theorem ite {condition : Prop} [Decidable condition] {first second : Reading α}
    (yieldsFirst : Yields holds first) (yieldsSecond : Yields holds second) :
    Yields holds (if condition then first else second) := by
  split
  · exact yieldsFirst
  · exact yieldsSecond

/-- It does not matter whether a node is written out or stands for another one. -/
theorem readNode {read : Reading α} (yields : Yields holds read) :
    Yields holds (readNode read) := by
  refine after fun stream => ?_
  split
  · exact after fun _ => yields.bind fun value has => after fun _ => pure has
  · exact yields

variable {keeps : Record → Prop} {fields : List (Field Record)}

theorem readInOrder (each : ∀ field ∈ fields, ∀ record, keeps record →
    Yields keeps (field.read record)) {record : Record} (kept : keeps record) :
    Yields keeps (readInOrder fields record) := by
  induction fields generalizing record with
  | nil => exact after fun _ => ite (pure kept) (throw _)
  | cons field fields ih =>
      obtain ⟨here, later⟩ := List.forall_mem_cons.mp each
      refine after fun stream => ?_
      split
      · exact after fun _ => pure kept
      · exact (here record kept).bind fun record kept => ih later kept

theorem readByName (each : ∀ field ∈ fields, ∀ record, keeps record →
    Yields keeps (field.read record)) (steps : Nat) {record : Record} (kept : keeps record) :
    Yields keeps (readByName steps fields record) := by
  induction steps generalizing fields record with
  | zero => exact after fun _ => ite (pure kept) (throw _)
  | succ steps ih =>
      refine after fun stream => ?_
      split
      · exact after fun _ => pure kept
      · refine after fun name => ?_
        split
        next field found =>
          have here := each field (List.mem_of_find?_eq_some found) record kept
          refine here.bind fun record kept => ?_
          exact ih (fun other member => each other (List.mem_filter.mp member).1) kept
        next => exact throw _

theorem readRecord (format : ConfigFormat) (each : ∀ field ∈ fields, ∀ record, keeps record →
    Yields keeps (field.read record)) {record : Record} (kept : keeps record) :
    Yields keeps (readRecord format fields record) := by
  refine readNode (after fun event => ?_)
  split
  · exact readInOrder each kept
  · exact readByName each _ kept
  · exact ite (pure kept) (throw _)
  · exact throw _

end Yields

/-! ## The grammar of a configuration -/

/-- Whether a specification is what some text says of a grammar. -/
def Described (format : ConfigFormat) (spec : GrammarSpec) : Prop :=
  ∃ before after, readRecord format grammarFields {} before = .ok spec after

/-- Whether a grammar is the default one or has been read and checked. -/
def Checked (format : ConfigFormat) (grammar : Grammar) : Prop :=
  grammar = Grammar.default ∨ ∃ spec, Described format spec ∧ spec.validate = .ok grammar

theorem yields_readGrammar (format : ConfigFormat) :
    Yields (Checked format) (readGrammar format) := by
  have described : Yields (Described format) (readRecord format grammarFields {}) :=
    fun before spec after read => ⟨before, after, read⟩
  refine described.bind fun spec described => ?_
  split
  next grammar accepted => exact .pure (.inr ⟨spec, described, accepted⟩)
  next => exact .throw _

/-- Only one field changes the grammar of a configuration. -/
theorem yields_readConfig (format : ConfigFormat) :
    Yields (fun config => Checked format config.grammar)
      (readRecord format (fields format) {}) := by
  refine .readRecord format (fun field member config kept => ?_) (.inl rfl)
  simp only [fields, List.mem_cons, List.not_mem_nil, or_false] at member
  rcases member with rfl | rfl
  · exact (yields_readGrammar format).bind fun grammar checked => .pure checked
  · exact .after fun substitution => .pure kept

theorem checked_of_ofStream {format : ConfigFormat} {stream : Data.Stream} {config : Config}
    (accepted : ofStream format stream = .ok config) : Checked format config.grammar := by
  unfold ofStream at accepted
  split at accepted
  · cases accepted
  next read =>
    split at accepted
    · obtain rfl := Except.ok.inj accepted
      exact yields_readConfig format _ _ _ read
    · cases accepted

/-- An accepted text has the default grammar, or one that it describes and that has
passed the check. -/
theorem checked_of_ofText {format : ConfigFormat} {text : Text} {config : Config}
    (accepted : ofText format text = .ok config) : Checked format config.grammar := by
  cases format with
  | json => exact checked_of_ofStream accepted
  | yaml =>
      unfold ofText at accepted
      dsimp only at accepted
      split at accepted
      · obtain rfl := Except.ok.inj accepted
        exact .inl rfl
      · exact checked_of_ofStream accepted

end CallMarkup.Config
