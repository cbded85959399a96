import Stanza.Render.Location

set_option autoImplicit false

/-!
Why a value cannot be rendered, and the message of each cause.
-/

namespace Stanza

inductive UnionReason where
  /-- The schema asked about is of this kind and has no alternatives. -/
  | notAUnion (kind : String)
  /-- No alternative accepts a value of this kind. -/
  | noAlternative (kind : String)
  | other (text : String)
deriving DecidableEq, Repr

def UnionReason.message : UnionReason → String
  | .notAUnion kind => kind ++ " is not a union"
  | .noAlternative kind => "no alternative accepts value of kind " ++ kind
  | .other text => text

inductive RenderError where
  /-- The value has another kind than its schema demands. -/
  | shapeMismatch (location : Location) (expected found : String)
  /-- A record does not declare a member of its value. -/
  | unknownField (location : Location) (field : String)
  /-- A resolver gives no answer for the value of a union. -/
  | unresolvedUnion (resourceType union : String) (reason : UnionReason)
  /-- A resolver failed at a location. -/
  | resolution (location : Location) (source : RenderError)
  /-- A resolver answered with one more union too often. -/
  | resolutionDepthExceeded (location : Location) (depth : Nat)
  /-- The nesting granted to this rendering is used up. -/
  | nestingExhausted (location : Location)
deriving DecidableEq, Repr

namespace RenderError

def message : RenderError → String
  | .shapeMismatch location expected found =>
      "Value at " ++ location.text ++ " does not match schema: expected " ++ expected ++
        ", found " ++ found
  | .unknownField location field => "Unknown field " ++ field ++ " at " ++ location.text
  | .unresolvedUnion resourceType union reason =>
      "Unresolved provider value for " ++ resourceType ++ " (" ++ union ++ "): " ++
        reason.message
  | .resolution location source =>
      "Provider value at " ++ location.text ++ " could not be resolved: " ++ source.message
  | .resolutionDepthExceeded location depth =>
      "Provider value at " ++ location.text ++ " still unresolved after " ++ toString depth ++
        " resolution steps"
  | .nestingExhausted location => "Value at " ++ location.text ++ " is nested too deeply"

/-- The messages of an error and of the errors that caused it, outermost first. -/
def chain : RenderError → List String
  | .resolution location source => (RenderError.resolution location source).message :: source.chain
  | error => [error.message]

end RenderError
end Stanza
