import ClusterRouting.Decimal
import ClusterRouting.Json

/-! The text of a JSON value, without blanks. -/

namespace ClusterRouting.Json

def escapeCharacter (character : Char) : List Char :=
  if character == '"' || character == '\\' then ['\\', character]
  else if character.toNat < 0x20 then
    let digits := Nat.toDigits 16 character.toNat
    ['\\', 'u'] ++ List.replicate (4 - digits.length) '0' ++ digits
  else [character]

def renderText (text : String) : String :=
  String.ofList ('"' :: text.toList.flatMap escapeCharacter ++ ['"'])

/-- A real number always shows a point, so that it reads back as one. -/
def renderReal (number : Float) : String :=
  let shown := Decimal.render number
  if shown.toList.contains '.' then shown else shown ++ ".0"

mutual

def render : Json → String
  | .null => "null"
  | .bool value => if value then "true" else "false"
  | .integer value => toString value
  | .real value => renderReal value
  | .text value => renderText value
  | .list items => "[" ++ renderItems items ++ "]"
  | .object fields => "\x7b" ++ renderFields fields ++ "\x7d"

def renderItems : List Json → String
  | [] => ""
  | [item] => item.render
  | item :: rest => item.render ++ "," ++ renderItems rest

def renderFields : List (String × Json) → String
  | [] => ""
  | [(name, value)] => renderText name ++ ":" ++ value.render
  | (name, value) :: rest =>
      renderText name ++ ":" ++ value.render ++ "," ++ renderFields rest

end

end ClusterRouting.Json
