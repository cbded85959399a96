import Stanza.Table
import Stanza.Decimal.Binary64

set_option autoImplicit false

/-!
Configuration values: the values of JSON, with the members of an object in the order
in which they were written and with integers kept apart from other numbers.
-/

namespace Stanza

/-- A number is an integer or a finite double-precision number; `1` and `1.0` differ. -/
inductive Number where
  | int (value : Int)
  | float (value : Decimal.Binary64)
deriving DecidableEq, Repr

inductive Value where
  | null
  | bool (value : Bool)
  | number (value : Number)
  | string (text : String)
  | list (items : List Value)
  | object (members : List (String × Value))

namespace Value

instance : Inhabited Value := ⟨.null⟩

/-- The word for the kind of a value in messages. -/
def kind : Value → String
  | .null => "null"
  | .bool _ => "boolean"
  | .number _ => "number"
  | .string _ => "string"
  | .list _ => "list"
  | .object _ => "object"

def isNull : Value → Bool
  | .null => true
  | _ => false

def asString? : Value → Option String
  | .string text => some text
  | _ => none

def asList? : Value → Option (List Value)
  | .list items => some items
  | _ => none

def asObject? : Value → Option (List (String × Value))
  | .object members => some members
  | _ => none

def member? (value : Value) (key : String) : Option Value :=
  value.asObject?.bind fun members => findValue? key members

/-- An object with the entries of a table as its members. -/
def ofTable (table : Table Value) : Value := .object table.entries

mutual
/-- Every object in the value has distinct keys. All values that are read have them. -/
def Distinct : Value → Prop
  | .list items => DistinctItems items
  | .object members => (members.map Prod.fst).Nodup ∧ DistinctMembers members
  | _ => True
termination_by structural value => value

def DistinctItems : List Value → Prop
  | [] => True
  | item :: rest => item.Distinct ∧ DistinctItems rest
termination_by structural items => items

def DistinctMembers : List (String × Value) → Prop
  | [] => True
  | (_, value) :: rest => value.Distinct ∧ DistinctMembers rest
termination_by structural members => members
end

end Value
end Stanza
