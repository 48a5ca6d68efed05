/-! JSON values. A number without a fraction and an exponent is kept apart from
the other numbers, since the two stand for different kinds of value. -/

namespace ClusterRouting

inductive Json where
  | null
  | bool (value : Bool)
  | integer (value : Int)
  | real (value : Float)
  | text (value : String)
  | list (items : List Json)
  | object (fields : List (String × Json))
  deriving Inhabited

namespace Json

/-- The value of a field; of several fields with one name the last counts. -/
def field? (fields : List (String × Json)) (name : String) : Option Json :=
  (fields.reverse.find? (·.1 == name)).map (·.2)

def fields : Json → List (String × Json)
  | .object fields => fields
  | _ => []

def find? (json : Json) (name : String) : Option Json :=
  field? json.fields name

def natural? (bound : Nat) : Json → Option Nat
  | .integer value =>
      if 0 ≤ value ∧ value < bound then some value.toNat else none
  | _ => none

def integer? : Json → Option Int
  | .integer value => some value
  | _ => none

def list? : Json → Option (List Json)
  | .list items => some items
  | _ => none

def text? : Json → Option String
  | .text value => some value
  | _ => none

/-- The name of a choice, written as a text or as an object whose one field,
named for the choice, is null. -/
def choice? : Json → Option String
  | .text name => some name
  | .object [(name, .null)] => some name
  | _ => none

end Json

end ClusterRouting
