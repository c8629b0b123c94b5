import CallMarkup.Text.Identifier

/-!
# Parameter shapes

A shape lists the parameters of a callback as slots, in order of declaration.
Positional slots are required or optional; named slots are supplied by name
only.  `declarationFault?_eq_none_iff` says which lists of slots may be
declared: their names are distinct identifiers and no required slot follows an
optional one.
-/

namespace CallMarkup

inductive SlotKind
  /-- By position; it has no default. -/
  | required
  /-- By position or by name, or not at all. -/
  | optional
  /-- By name, or not at all. -/
  | named
  deriving DecidableEq

/-- One parameter of a callback. -/
structure Slot where
  name : Text
  kind : SlotKind
  /-- The value of a slot that is not supplied. -/
  default : Option Text := none
  deriving DecidableEq

namespace Slot

def isPositional (slot : Slot) : Bool :=
  slot.kind != .named

def isRequired (slot : Slot) : Bool :=
  slot.kind == .required

end Slot

/-- What a callback accepts. -/
inductive Parameters
  | fixed (slots : List Slot)
  /-- Any positional and named items, in any number. -/
  | variadic
  deriving DecidableEq

/-- The parameters of a callback and whether it asks for the context. -/
structure Shape where
  parameters : Parameters := .fixed []
  acceptsContext : Bool := false
  deriving DecidableEq

namespace Shape

def empty : Shape :=
  {}

def variadic : Shape :=
  { parameters := .variadic }

def withContext (shape : Shape) : Shape :=
  { shape with acceptsContext := true }

def isVariadic (shape : Shape) : Bool :=
  shape.parameters == .variadic

def slots (shape : Shape) : List Slot :=
  match shape.parameters with
  | .fixed slots => slots
  | .variadic => []

/-- The slots filled by position, in order. -/
def positional (shape : Shape) : List Slot :=
  shape.slots.filter (·.isPositional)

/-- The slots filled by name only, in order. -/
def named (shape : Shape) : List Slot :=
  shape.slots.filter fun slot => !slot.isPositional

def required (shape : Shape) : List Slot :=
  shape.slots.filter (·.isRequired)

def slot? (shape : Shape) (name : Text) : Option Slot :=
  shape.slots.find? (·.name = name)

end Shape

/-- Why slots cannot be declared together. -/
inductive ShapeFault
  | notIdentifier (name : Text)
  | declaredTwice (name : Text)
  | requiredAfterOptional (name : Text)
  deriving DecidableEq

def ShapeFault.message : ShapeFault → String
  | .notIdentifier name => s!"Slot name '{String.ofList name}' is not an identifier"
  | .declaredTwice name => s!"Slot '{String.ofList name}' is declared twice"
  | .requiredAfterOptional name =>
    s!"Required slot '{String.ofList name}' follows an optional slot"

/-- Why a slot cannot be declared after others, if it cannot. -/
def slotFault? (earlier : List Slot) (slot : Slot) : Option ShapeFault :=
  if isIdentifier slot.name = false then some (.notIdentifier slot.name)
  else if earlier.any (·.name = slot.name) then some (.declaredTwice slot.name)
  else if slot.kind = .required ∧ earlier.any (·.kind = .optional) then
    some (.requiredAfterOptional slot.name)
  else none

/-- The first fault among slots declared after others. -/
def declarationFault? (earlier : List Slot) : List Slot → Option ShapeFault
  | [] => none
  | slot :: slots =>
    match slotFault? earlier slot with
    | some fault => some fault
    | none => declarationFault? (earlier ++ [slot]) slots

/-- Whether a slot may follow another one. -/
def Slot.MayFollow (earlier later : Slot) : Prop :=
  earlier.name ≠ later.name ∧ (earlier.kind = .optional → later.kind ≠ .required)

/-- Slots that may be declared together in this order. -/
structure WellDeclared (slots : List Slot) : Prop where
  identifiers : ∀ slot ∈ slots, isIdentifier slot.name = true
  pairwise : slots.Pairwise Slot.MayFollow

theorem slotFault?_eq_none_iff {earlier : List Slot} {slot : Slot} :
    slotFault? earlier slot = none ↔
      isIdentifier slot.name = true ∧ ∀ other ∈ earlier, other.MayFollow slot := by
  unfold slotFault? Slot.MayFollow
  split
  · simp_all
  next identifier =>
    split
    next repeated =>
      simp only [List.any_eq_true, decide_eq_true_eq] at repeated
      obtain ⟨other, member, same⟩ := repeated
      simp only [reduceCtorEq, false_iff, not_and]
      intro _ follow
      exact (follow other member).1 same
    next fresh =>
      split
      next late =>
        simp only [List.any_eq_true, decide_eq_true_eq] at late
        obtain ⟨required, other, member, optional⟩ := late
        simp only [reduceCtorEq, false_iff, not_and]
        intro _ follow
        exact (follow other member).2 optional required
      next ordered =>
        simp only [List.any_eq_true, decide_eq_true_eq, not_exists, not_and] at fresh ordered
        simp only [Bool.not_eq_false] at identifier
        simp only [identifier, true_and, true_iff]
        intro other member
        exact ⟨fresh other member, fun optional required => ordered required other member optional⟩

theorem declarationFault?_append_eq_none_iff {earlier slots : List Slot} :
    declarationFault? earlier slots = none ↔
      (∀ slot ∈ slots, isIdentifier slot.name = true) ∧ slots.Pairwise Slot.MayFollow ∧
        ∀ other ∈ earlier, ∀ slot ∈ slots, other.MayFollow slot := by
  induction slots generalizing earlier with
  | nil => simp [declarationFault?]
  | cons slot slots ih =>
      unfold declarationFault?
      split
      next fault found =>
        simp only [reduceCtorEq, false_iff, not_and]
        intro identifiers _ follow
        have free := slotFault?_eq_none_iff.mpr
          ⟨identifiers slot (by simp), fun other member => follow other member slot (by simp)⟩
        simp [free] at found
      next free =>
        obtain ⟨identifier, follows⟩ := slotFault?_eq_none_iff.mp free
        rw [ih]
        simp only [List.mem_cons, forall_eq_or_imp, List.pairwise_cons, List.mem_append,
          List.not_mem_nil, or_false]
        constructor
        · rintro ⟨identifiers, pairwise, follow⟩
          exact ⟨⟨identifier, identifiers⟩,
            ⟨fun later member => follow slot (Or.inr rfl) later member, pairwise⟩,
            fun other member => ⟨follows other member,
              fun later laterMember => follow other (Or.inl member) later laterMember⟩⟩
        · rintro ⟨⟨_, identifiers⟩, ⟨first, pairwise⟩, follow⟩
          refine ⟨identifiers, pairwise, ?_⟩
          rintro other (member | rfl) later laterMember
          · exact (follow other member).2 later laterMember
          · exact first later laterMember

/-- Slots may be declared exactly when their names are distinct identifiers and
no required slot follows an optional one. -/
theorem declarationFault?_eq_none_iff {slots : List Slot} :
    declarationFault? [] slots = none ↔ WellDeclared slots := by
  rw [declarationFault?_append_eq_none_iff]
  constructor
  · rintro ⟨identifiers, pairwise, _⟩
    exact ⟨identifiers, pairwise⟩
  · rintro ⟨identifiers, pairwise⟩
    exact ⟨identifiers, pairwise, by simp⟩

/-- Declares the slots of a callback, or names the first fault. -/
def Shape.declare (slots : List Slot) (acceptsContext : Bool := false) :
    Except ShapeFault Shape :=
  match declarationFault? [] slots with
  | none => .ok { parameters := .fixed slots, acceptsContext }
  | some fault => .error fault

end CallMarkup
