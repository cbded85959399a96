import Stanza.Proofs.Render.Steps

set_option autoImplicit false

/-!
Where a value offends against its schema. A descent goes down into elements and members that
are not null, and from a union to the alternative chosen for its value; what it reaches may
offend by its kind, by a member that is not declared, as the value of a union that no
alternative accepts, or as one union too many. Offences are ordered as they are met on the
way through the value.
-/

namespace Stanza

/-! ### Ways down -/

/-- From a value to one inside it, or from a union to the chosen alternative. -/
inductive Descent where
  | member (position : Nat) (key : String)
  | element (position : Nat)
  | alternative
deriving DecidableEq, Repr

namespace Descent

def position : Descent → Nat
  | .member position _ => position
  | .element position => position
  | .alternative => 0

end Descent

/-- The location after one step; an alternative stands where its union does. -/
def Location.after (location : Location) : Descent → Location
  | .member _ name => location.key name
  | .element position => location.index position
  | .alternative => location

def Location.follow (location : Location) (steps : List Descent) : Location :=
  steps.foldl Location.after location

/-- One step down, with the number of unions that follow directly on each other before it and
after it. The alternative of a union is the first that accepts its value; there is none for a
raw expression. -/
inductive Enters : (unions : Nat) → Schema → Value → Descent → (below : Nat) → Schema → Value →
    Prop
  | element {unions position : Nat} {label : Label} {element : Schema} {items : List Value}
      {item : Value} (present : items[position]? = some item) :
      Enters unions (.list label element) (.list items) (.element position) 0 element item
  | member {unions position : Nat} {schema inner : Schema} {schemas : Render.MemberSchemas}
      {members : List (String × Value)} {key : String} {value : Value}
      (isObject : Render.memberSchemas? schema = some schemas)
      (present : members[position]? = some (key, value)) (notNull : value.isNull = false)
      (declared : schemas.find? key = some inner) :
      Enters unions schema (.object members) (.member position key) 0 inner value
  | alternative {unions : Nat} {label : Label} {alternatives : List Schema} {value : Value}
      {chosen : Schema} (plain : ∀ text, value ≠ Resolver.expression text)
      (first : Resolver.FirstAccepting alternatives value chosen) :
      Enters unions (.union label alternatives) value .alternative (unions + 1) chosen value

inductive Walk : (unions : Nat) → Schema → Value → List Descent → (below : Nat) → Schema →
    Value → Prop
  | here {unions : Nat} {schema : Schema} {value : Value} :
      Walk unions schema value [] unions schema value
  | down {unions between below : Nat} {schema next inner : Schema} {value part reached : Value}
      {step : Descent} {steps : List Descent}
      (enters : Enters unions schema value step between next part)
      (further : Walk between next part steps below inner reached) :
      Walk unions schema value (step :: steps) below inner reached

/-- At one position there is one way down. -/
theorem Enters.unique {unions left right : Nat} {schema first second : Schema}
    {value one other : Value} {step turn : Descent}
    (enters : Enters unions schema value step left first one)
    (again : Enters unions schema value turn right second other)
    (same : step.position = turn.position) :
    step = turn ∧ left = right ∧ first = second ∧ one = other := by
  cases enters with
  | element present =>
      cases again with
      | element presentAgain =>
          cases same
          cases present.symm.trans presentAgain
          exact ⟨rfl, rfl, rfl, rfl⟩
  | member isObject present notNull declared =>
      cases again with
      | member isObjectAgain presentAgain notNullAgain declaredAgain =>
          cases same
          cases present.symm.trans presentAgain
          cases isObject.symm.trans isObjectAgain
          cases declared.symm.trans declaredAgain
          exact ⟨rfl, rfl, rfl, rfl⟩
      | alternative => cases isObject
  | alternative plain chosen =>
      cases again with
      | alternative plainAgain chosenAgain =>
          exact ⟨rfl, rfl, chosen.unique chosenAgain, rfl⟩
      | member isObject => cases isObject

/-! ### Offences -/

/-- The kind of value that a schema insists on. -/
def Schema.demandedKind? : Schema → Option String
  | .scalar _ .string => some "string"
  | .list _ _ => some "list"
  | .dictionary _ _ => some "object"
  | .record _ _ => some "object"
  | _ => none

/-- How a value offends where it stands, with the rank of the offence among those of the same
place: undeclared members come in their order, and a union that stands below sixteen others
is not asked for its alternatives. -/
inductive Offends (resourceType : String) (location : Location) :
    (unions : Nat) → Schema → Value → (rank : Nat) → RenderError → Prop
  | shape {unions : Nat} {schema : Schema} {value : Value} {kind : String}
      (demanded : schema.demandedKind? = some kind) (other : value.kind ≠ kind) :
      Offends resourceType location unions schema value 0
        (.shapeMismatch location schema.kind value.kind)
  | undeclared {unions position : Nat} {label : Label} {fields : List (Field Schema)}
      {members : List (String × Value)} {name : String} {value : Value}
      (present : members[position]? = some (name, value)) (notNull : value.isNull = false)
      (unknown : Field.find? fields name = none) :
      Offends resourceType location unions (.record label fields) (.object members) position
        (.unknownField location name)
  | tooDeep {unions : Nat} {label : Label} {alternatives : List Schema} {value : Value}
      (many : 16 ≤ unions) :
      Offends resourceType location unions (.union label alternatives) value 0
        (.resolutionDepthExceeded location unions)
  | unresolved {unions : Nat} {label : Label} {alternatives : List Schema} {value : Value}
      (plain : ∀ text, value ≠ Resolver.expression text)
      (refused : ∀ alternative ∈ alternatives, Resolver.accepts alternative value = false) :
      Offends resourceType location unions (.union label alternatives) value 1
        (.resolution location (.unresolvedUnion resourceType
          (Schema.union label alternatives).displayName (.noAlternative value.kind)))

/-- An offence at the end of a walk. -/
def OffenceAt (resourceType : String) (location : Location) (unions : Nat) (schema : Schema)
    (value : Value) (steps : List Descent) (rank : Nat) (error : RenderError) : Prop :=
  ∃ below inner reached, Walk unions schema value steps below inner reached ∧
    Offends resourceType (location.follow steps) below inner reached rank error

/-- The order in which places are met: a value before everything inside it, members and
elements by their positions. -/
inductive Precedes : List Descent → List Descent → Prop
  | inside {step : Descent} {steps : List Descent} : Precedes [] (step :: steps)
  | beside {step turn : Descent} {steps turns : List Descent}
      (earlier : step.position < turn.position) : Precedes (step :: steps) (turn :: turns)
  | deeper {step : Descent} {steps turns : List Descent} (later : Precedes steps turns) :
      Precedes (step :: steps) (step :: turns)

def FirstOffence (resourceType : String) (location : Location) (unions : Nat) (schema : Schema)
    (value : Value) (error : RenderError) : Prop :=
  ∃ steps rank, OffenceAt resourceType location unions schema value steps rank error ∧
    ∀ turns other another,
      OffenceAt resourceType location unions schema value turns other another →
        Precedes steps turns ∨ steps = turns ∧ rank ≤ other

def Inoffensive (resourceType : String) (location : Location) (unions : Nat) (schema : Schema)
    (value : Value) : Prop :=
  ∀ steps rank error, ¬ OffenceAt resourceType location unions schema value steps rank error

section Places

variable {resourceType : String} {location : Location} {unions : Nat} {schema : Schema}
  {value : Value}

theorem offenceAt_nil_iff {rank : Nat} {error : RenderError} :
    OffenceAt resourceType location unions schema value [] rank error ↔
      Offends resourceType location unions schema value rank error := by
  constructor
  · intro offence
    obtain ⟨_, _, _, walk, offends⟩ := offence
    cases walk
    exact offends
  · intro offends
    exact ⟨unions, schema, value, .here, offends⟩

theorem offenceAt_cons_iff {step : Descent} {steps : List Descent} {rank : Nat}
    {error : RenderError} :
    OffenceAt resourceType location unions schema value (step :: steps) rank error ↔
      ∃ below inner part, Enters unions schema value step below inner part ∧
        OffenceAt resourceType (location.after step) below inner part steps rank error := by
  constructor
  · intro offence
    obtain ⟨_, _, _, walk, offends⟩ := offence
    cases walk with
    | down enters further => exact ⟨_, _, _, enters, _, _, _, further, offends⟩
  · intro inside
    obtain ⟨_, _, _, enters, _, _, _, further, offends⟩ := inside
    exact ⟨_, _, _, .down enters further, offends⟩

/-- An offence of the value itself comes before all others, up to those of lower rank. -/
theorem firstOffence_here {rank : Nat} {error : RenderError}
    (offends : Offends resourceType location unions schema value rank error)
    (least : ∀ other another,
      Offends resourceType location unions schema value other another → rank ≤ other) :
    FirstOffence resourceType location unions schema value error := by
  refine ⟨[], rank, offenceAt_nil_iff.mpr offends, ?_⟩
  intro turns other another offence
  cases turns with
  | nil => exact .inr ⟨rfl, least other another (offenceAt_nil_iff.mp offence)⟩
  | cons step steps => exact .inl .inside

/-- The first offence of a part is that of the whole when the value itself and the parts
before it do not offend. -/
theorem firstOffence_inside {step : Descent} {below : Nat} {inner : Schema} {part : Value}
    {error : RenderError}
    (here : ∀ rank another, ¬ Offends resourceType location unions schema value rank another)
    (enters : Enters unions schema value step below inner part)
    (first : FirstOffence resourceType (location.after step) below inner part error)
    (before : ∀ turn unionsBefore schemaBefore partBefore,
      Enters unions schema value turn unionsBefore schemaBefore partBefore →
        turn.position < step.position →
        Inoffensive resourceType (location.after turn) unionsBefore schemaBefore partBefore) :
    FirstOffence resourceType location unions schema value error := by
  obtain ⟨steps, rank, offence, least⟩ := first
  refine ⟨step :: steps, rank, offenceAt_cons_iff.mpr ⟨_, _, _, enters, offence⟩, ?_⟩
  intro turns other another otherOffence
  cases turns with
  | nil => exact absurd (offenceAt_nil_iff.mp otherOffence) (here other another)
  | cons turn rest =>
      obtain ⟨_, _, _, entersOther, inside⟩ := offenceAt_cons_iff.mp otherOffence
      rcases Nat.lt_trichotomy step.position turn.position with later | same | earlier
      · exact .inl (.beside later)
      · obtain ⟨rfl, rfl, rfl, rfl⟩ := enters.unique entersOther same
        rcases least rest other another inside with later | ⟨sameSteps, lower⟩
        · exact .inl (.deeper later)
        · exact .inr ⟨by rw [sameSteps], lower⟩
      · exact absurd inside (before turn _ _ _ entersOther earlier rest other another)

theorem inoffensive_of_parts
    (here : ∀ rank another, ¬ Offends resourceType location unions schema value rank another)
    (parts : ∀ step below inner part, Enters unions schema value step below inner part →
      Inoffensive resourceType (location.after step) below inner part) :
    Inoffensive resourceType location unions schema value := by
  intro steps rank error offence
  cases steps with
  | nil => exact here rank error (offenceAt_nil_iff.mp offence)
  | cons step rest =>
      obtain ⟨below, inner, part, enters, inside⟩ := offenceAt_cons_iff.mp offence
      exact parts step below inner part enters rest rank error inside

end Places

/-! ### The first offence is one -/

theorem Precedes.irrefl (steps : List Descent) : ¬ Precedes steps steps := by
  induction steps with
  | nil => intro impossible; cases impossible
  | cons step rest ih =>
      intro impossible
      cases impossible with
      | beside earlier => exact Nat.lt_irrefl _ earlier
      | deeper later => exact ih later

theorem Precedes.asymm {steps turns : List Descent} (precedes : Precedes steps turns) :
    ¬ Precedes turns steps := by
  induction precedes with
  | inside => intro impossible; cases impossible
  | beside earlier =>
      intro other
      cases other with
      | beside later => exact Nat.lt_asymm earlier later
      | deeper => exact Nat.lt_irrefl _ earlier
  | deeper _ ih =>
      intro other
      cases other with
      | beside earlier => exact Nat.lt_irrefl _ earlier
      | deeper later => exact ih later

/-- At one place no two offences have the same rank. -/
theorem Offends.unique {resourceType : String} {location : Location} {unions : Nat}
    {schema : Schema} {value : Value} {rank : Nat} {error other : RenderError}
    (offends : Offends resourceType location unions schema value rank error)
    (again : Offends resourceType location unions schema value rank other) : error = other := by
  cases offends with
  | shape demanded differs =>
      cases again with
      | shape => rfl
      | undeclared =>
          cases demanded
          exact absurd rfl differs
      | tooDeep => cases demanded
  | undeclared present =>
      cases again with
      | shape demanded differs =>
          cases demanded
          exact absurd rfl differs
      | undeclared presentAgain =>
          cases present.symm.trans presentAgain
          rfl
  | tooDeep =>
      cases again with
      | shape demanded => cases demanded
      | tooDeep => rfl
  | unresolved =>
      cases again with
      | unresolved => rfl

theorem OffenceAt.unique {resourceType : String} {location : Location} {unions : Nat}
    {schema : Schema} {value : Value} {steps : List Descent} {rank : Nat}
    {error other : RenderError}
    (offence : OffenceAt resourceType location unions schema value steps rank error)
    (again : OffenceAt resourceType location unions schema value steps rank other) :
    error = other := by
  induction steps generalizing location unions schema value with
  | nil => exact (offenceAt_nil_iff.mp offence).unique (offenceAt_nil_iff.mp again)
  | cons step rest ih =>
      obtain ⟨_, _, _, enters, inside⟩ := offenceAt_cons_iff.mp offence
      obtain ⟨_, _, _, entersAgain, insideAgain⟩ := offenceAt_cons_iff.mp again
      obtain ⟨_, rfl, rfl, rfl⟩ := enters.unique entersAgain rfl
      exact ih inside insideAgain

theorem FirstOffence.unique {resourceType : String} {location : Location} {unions : Nat}
    {schema : Schema} {value : Value} {error other : RenderError}
    (first : FirstOffence resourceType location unions schema value error)
    (again : FirstOffence resourceType location unions schema value other) : error = other := by
  obtain ⟨steps, rank, offence, least⟩ := first
  obtain ⟨turns, lower, offenceAgain, leastAgain⟩ := again
  rcases least _ _ _ offenceAgain with before | ⟨same, atMost⟩
  · rcases leastAgain _ _ _ offence with after | ⟨same, _⟩
    · exact absurd after before.asymm
    · exact absurd (same ▸ before) (Precedes.irrefl _)
  · subst same
    rcases leastAgain _ _ _ offence with after | ⟨_, atLeast⟩
    · exact absurd after (Precedes.irrefl _)
    · cases Nat.le_antisymm atMost atLeast
      exact offence.unique offenceAgain

end Stanza
