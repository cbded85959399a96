set_option autoImplicit false

/-!
Where a value stands: a name for the whole, and the keys and indices on the way down.
-/

namespace Stanza

inductive Location where
  | root (name : String)
  | key (parent : Location) (name : String)
  | index (parent : Location) (position : Nat)
deriving DecidableEq, Repr

/-- The location in messages: a point before each key, brackets around each index. -/
def Location.text : Location → String
  | .root name => name
  | .key parent name => parent.text ++ "." ++ name
  | .index parent position => parent.text ++ "[" ++ toString position ++ "]"

end Stanza
