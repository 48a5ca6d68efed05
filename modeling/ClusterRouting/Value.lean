import ClusterRouting.Decimal
import ClusterRouting.Json

/-! Values that routing procedures take and give, and the records in which
they give them. -/

namespace ClusterRouting

inductive Value where
  | null
  | boolean (value : Bool)
  | integer (value : Int64)
  | float (value : Float)
  | string (value : String)
  | list (items : List Value)
  /-- The keys of a map are distinct, and their order has no meaning. -/
  | map (entries : List (String × Value))
  deriving Inhabited

namespace Value

def kind : Value → String
  | .null => "Null"
  | .boolean _ => "Boolean"
  | .integer _ => "Integer"
  | .float _ => "Float"
  | .string _ => "String"
  | .list _ => "List"
  | .map _ => "Map"

def integer? : Value → Option Int64
  | .integer value => some value
  | _ => none

def string? : Value → Option String
  | .string value => some value
  | _ => none

def list? : Value → Option (List Value)
  | .list items => some items
  | _ => none

def map? : Value → Option (List (String × Value))
  | .map entries => some entries
  | _ => none

def describe : Value → String
  | .null => "null"
  | .boolean value => if value then "true" else "false"
  | .integer value => toString value.toInt
  | .float value => Decimal.render value
  | .string value => "\"" ++ value ++ "\""
  | .list items => "[" ++ toString items.length ++ " items]"
  | .map entries => "\x7b" ++ toString entries.length ++ " entries\x7d"

def ofStrings (strings : List String) : Value :=
  .list (strings.map .string)

def ofIntegers (integers : List Int64) : Value :=
  .list (integers.map .integer)

/-! ## Serial form -/

mutual

def toJson : Value → Json
  | .null => .null
  | .boolean value => .bool value
  | .integer value => .integer value.toInt
  | .float value => .real value
  | .string value => .text value
  | .list items => .list (itemsToJson items)
  | .map entries => .object (entriesToJson entries)

def itemsToJson : List Value → List Json
  | [] => []
  | item :: rest => item.toJson :: itemsToJson rest

def entriesToJson : List (String × Value) → List (String × Json)
  | [] => []
  | (key, value) :: rest => (key, value.toJson) :: entriesToJson rest

end

/-- A whole number is an integer if it fits into 64 bits, and otherwise the
nearest double. -/
def ofInteger (value : Int) : Value :=
  let held := Int64.ofInt value
  if held.toInt = value then .integer held
  else
    match Decimal.nearest? (value < 0) value.natAbs 0 with
    | some number => .float number
    | none => .float (if value < 0 then -1.0 / 0.0 else 1.0 / 0.0)

mutual

def ofJson : Json → Value
  | .null => .null
  | .bool value => .boolean value
  | .integer value => ofInteger value
  | .real value => .float value
  | .text value => .string value
  | .list items => .list (itemsOfJson items)
  | .object fields => .map (entriesOfJson fields)

def itemsOfJson : List Json → List Value
  | [] => []
  | item :: rest => ofJson item :: itemsOfJson rest

def entriesOfJson : List (String × Json) → List (String × Value)
  | [] => []
  | (name, value) :: rest => (name, ofJson value) :: entriesOfJson rest

end

/-! ## Sameness -/

mutual

def same : Value → Value → Bool
  | .null, .null => true
  | .boolean left, .boolean right => left == right
  | .integer left, .integer right => left == right
  | .float left, .float right => left == right
  | .string left, .string right => left == right
  | .list left, .list right => sameItems left right
  | .map left, .map right =>
      left.length == right.length && sameEntries left right
  | _, _ => false

def sameItems : List Value → List Value → Bool
  | [], [] => true
  | left :: lefts, right :: rights => same left right && sameItems lefts rights
  | _, _ => false

def sameEntries : List (String × Value) → List (String × Value) → Bool
  | [], _ => true
  | (key, value) :: rest, others =>
      (match others.lookup key with
        | some other => same value other
        | none => false) && sameEntries rest others

end

end Value

/-! ## Records -/

/-- Column names and values in order. The two lists may differ in length. -/
structure Record where
  keys : List String
  values : List Value

namespace Record

def ofPairs (pairs : List (String × Value)) : Record :=
  ⟨pairs.map (·.1), pairs.map (·.2)⟩

def lastIndex? (key : String) (keys : List String) : Option Nat :=
  (keys.reverse.findIdx? (· == key)).map (keys.length - 1 - ·)

def get? (record : Record) (key : String) : Option Value :=
  (lastIndex? key record.keys).bind (record.values[·]?)

def size (record : Record) : Nat :=
  record.values.length

def describe (record : Record) : String :=
  let cells := (record.keys.zip record.values).map fun (key, value) =>
    key ++ ": " ++ value.describe
  "Record<\x7b" ++ String.intercalate ", " cells ++ "\x7d>"

example : lastIndex? "a" ["a", "b", "a", "c"] = some 2 := by decide

end Record

end ClusterRouting
