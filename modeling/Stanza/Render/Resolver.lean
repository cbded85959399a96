import Stanza.Render.Error
import Stanza.Schema
import Stanza.Value

set_option autoImplicit false

/-!
Resolvers decide what the value of a union stands for. The structural resolver takes a
raw expression as it is and otherwise picks the first alternative that accepts the
value; a chain asks the resolver of the provider that owns the resource type.
-/

namespace Stanza

/-- An answer: text to be used verbatim, or a schema and a value to render instead. -/
inductive Resolution where
  | direct (text : String)
  | indirect (schema : Schema) (value : Value)

/-- What one question to a resolver brings: companion stanzas, and an answer or a failure. -/
structure Consultation where
  companions : List String := []
  answer : Except RenderError Resolution

/-- A resolver answers for a resource type, a schema and a value. -/
abbrev Resolver := String → Schema → Value → Consultation

namespace Resolver

/-- The only member of an object that holds a raw expression. -/
def expressionKey : String := "$expr"

/-- The text of a raw expression: an object of one member, which is a string. -/
def rawExpression? : Value → Option String
  | .object [(key, .string text)] => if key = expressionKey then some text else none
  | _ => none

/-- Whether an object has a member at a key whose value is not null. -/
def hasMember (members : List (String × Value)) (key : String) : Bool :=
  match findValue? key members with
  | some value => !value.isNull
  | none => false

/-- Whether a record takes an object: no undeclared key, and every required field present. -/
def fieldsAccept (fields : List (Field Schema)) (members : List (String × Value)) : Bool :=
  (members.all fun member => (Field.find? fields member.1).isSome) &&
    (fields.filter Field.required).all fun field => hasMember members field.name

mutual
/-- Whether a value has the kind that a schema asks for, without looking inside it. -/
def accepts : Schema → Value → Bool
  | .scalar _ .string, .string _ => true
  | .scalar _ .boolean, .bool _ => true
  | .scalar _ .number, .number _ => true
  | .list _ _, .list _ => true
  | .dictionary _ _, .object _ => true
  | .record _ fields, .object members => fieldsAccept fields members
  | .union _ alternatives, value => someAccepts alternatives value
  | _, _ => false
termination_by structural schema => schema

def someAccepts : List Schema → Value → Bool
  | [], _ => false
  | alternative :: rest, value => accepts alternative value || someAccepts rest value
termination_by structural alternatives => alternatives
end

def chooseAlternative? (schema : Schema) (value : Value) : Except UnionReason Schema :=
  match schema with
  | .union _ alternatives =>
      match alternatives.find? fun alternative => accepts alternative value with
      | some alternative => .ok alternative
      | none => .error (.noAlternative value.kind)
  | other => .error (.notAUnion other.kind)

/-- Raw expressions are used verbatim; other values go to the first accepting alternative. -/
def structural : Resolver := fun resourceType schema value =>
  match rawExpression? value with
  | some text => ⟨[], .ok (.direct text)⟩
  | none =>
      match chooseAlternative? schema value with
      | .ok alternative => ⟨[], .ok (.indirect alternative value)⟩
      | .error reason =>
          ⟨[], .error (.unresolvedUnion resourceType schema.displayName reason)⟩

/-- The provider that owns a type: the part before the first underscore, or all of it. -/
def providerOf (resourceType : String) : String :=
  String.ofList (resourceType.toList.takeWhile fun c => c ≠ '_')

/-- Resolvers of single providers, and one for all others. -/
structure Chain where
  fallback : Resolver := structural
  providers : Table Resolver := ∅

namespace Chain

/-- Gives a provider its resolver, in place of the one it had. -/
def withProvider (chain : Chain) (provider : String) (resolver : Resolver) : Chain :=
  { chain with providers := chain.providers.insert provider resolver }

def resolverFor (chain : Chain) (resourceType : String) : Resolver :=
  (chain.providers.get? (providerOf resourceType)).getD chain.fallback

def resolver (chain : Chain) : Resolver := fun resourceType schema value =>
  chain.resolverFor resourceType resourceType schema value

end Chain
end Resolver
end Stanza
