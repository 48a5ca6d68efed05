import ClusterRouting.Decimal
import ClusterRouting.Json
import ClusterRouting.Text.Numeral

/-! Reading a JSON text. Every reader takes the characters that are left and
gives back the rest, or nothing if the text is not JSON. -/

namespace ClusterRouting.Json

def isSpace (character : Char) : Bool :=
  character == ' ' || character == '\t' || character == '\n' ||
    character == '\r'

def skipSpace (text : List Char) : List Char :=
  text.dropWhile isSpace

def unit? : List Char → Option (Nat × List Char)
  | first :: second :: third :: fourth :: rest => do
      let digits ← [first, second, third, fourth].mapM Text.hexadecimal?
      some (digits.foldl (16 * · + ·) 0, rest)
  | _ => none

/-- The character after a backslash and a `u`: one code unit, or a high and a
low surrogate together. -/
def escaped? (text : List Char) : Option (Char × List Char) := do
  let (unit, rest) ← unit? text
  if 0xd800 ≤ unit ∧ unit < 0xdc00 then
    match rest with
    | '\\' :: 'u' :: more =>
        let (low, left) ← unit? more
        if 0xdc00 ≤ low ∧ low < 0xe000 then
          let code := 0x10000 + (unit - 0xd800) * 0x400 + (low - 0xdc00)
          some (Char.ofNat code, left)
        else none
    | _ => none
  else if 0xdc00 ≤ unit ∧ unit < 0xe000 then none
  else some (Char.ofNat unit, rest)

def characters? (fuel : Nat) (read : List Char) (text : List Char) :
    Option (List Char × List Char) :=
  match fuel, text with
  | _, '"' :: rest => some (read.reverse, rest)
  | fuel + 1, '\\' :: 'u' :: rest => do
      let (character, left) ← escaped? rest
      characters? fuel (character :: read) left
  | fuel + 1, '\\' :: mark :: rest => do
      let character ← match mark with
        | '"' | '\\' | '/' => some mark
        | 'b' => some '\x08'
        | 'f' => some '\x0c'
        | 'n' => some '\n'
        | 'r' => some '\r'
        | 't' => some '\t'
        | _ => none
      characters? fuel (character :: read) rest
  | fuel + 1, character :: rest =>
      if character.toNat < 0x20 then none
      else characters? fuel (character :: read) rest
  | _, _ => none

def string? (text : List Char) : Option (String × List Char) :=
  (characters? text.length [] text).map fun (read, rest) =>
    (String.ofList read, rest)

def splitDigits (text : List Char) : List Char × List Char :=
  text.span Char.isDigit

/-- A number after its sign. A zero leads no other digit, and a negative zero
is a real number. -/
def unsigned? (negative : Bool) (text : List Char) :
    Option (Json × List Char) := do
  let (whole, rest) := splitDigits text
  if whole.isEmpty ∨ (whole.head? = some '0' ∧ 1 < whole.length) then none
  let (behind, rest) ← match rest with
    | '.' :: more =>
        let (digits, left) := splitDigits more
        if digits.isEmpty then none else some (some digits, left)
    | _ => some (none, rest)
  let (power, rest) ← match rest with
    | mark :: more =>
        if mark == 'e' || mark == 'E' then
          let (sign, more) : Int × List Char := match more with
            | '-' :: left => (-1, left)
            | '+' :: left => (1, left)
            | _ => (1, more)
          let (digits, left) := splitDigits more
          if digits.isEmpty then none
          else do
            let size ← Text.digits? 0 digits
            some (some (sign * size), left)
        else some (none, rest)
    | [] => some (none, rest)
  let mantissa ← Text.digits? 0 (whole ++ behind.getD [])
  match behind, power with
  | none, none =>
      if negative && mantissa == 0 then some (.real (-0.0), rest)
      else some (.integer (if negative then -mantissa else mantissa), rest)
  | _, _ =>
      let places : Nat := (behind.getD []).length
      let value ← Decimal.nearest? negative mantissa (power.getD 0 - places)
      some (.real value, rest)

def word? (word : String) (text : List Char) : Option (List Char) :=
  if word.toList.isPrefixOf text then some (text.drop word.length) else none

mutual

def value? (fuel : Nat) (text : List Char) : Option (Json × List Char) :=
  match fuel with
  | 0 => none
  | fuel + 1 =>
      match skipSpace text with
      | 'n' :: rest => (word? "ull" rest).map (Json.null, ·)
      | 't' :: rest => (word? "rue" rest).map (Json.bool true, ·)
      | 'f' :: rest => (word? "alse" rest).map (Json.bool false, ·)
      | '"' :: rest => (string? rest).map fun (read, left) =>
          (.text read, left)
      | '[' :: rest =>
          match skipSpace rest with
          | ']' :: left => some (.list [], left)
          | _ => (items? fuel [] rest).map fun (items, left) =>
              (.list items, left)
      | '{' :: rest =>
          match skipSpace rest with
          | '}' :: left => some (.object [], left)
          | _ => (fields? fuel [] rest).map fun (fields, left) =>
              (.object fields, left)
      | '-' :: rest => unsigned? true rest
      | other => unsigned? false other

def items? (fuel : Nat) (read : List Json) (text : List Char) :
    Option (List Json × List Char) :=
  match fuel with
  | 0 => none
  | fuel + 1 =>
      match value? fuel text with
      | none => none
      | some (item, rest) =>
          match skipSpace rest with
          | ',' :: left => items? fuel (item :: read) left
          | ']' :: left => some ((item :: read).reverse, left)
          | _ => none

def fields? (fuel : Nat) (read : List (String × Json)) (text : List Char) :
    Option (List (String × Json) × List Char) :=
  match fuel with
  | 0 => none
  | fuel + 1 =>
      match skipSpace text with
      | '"' :: rest =>
          match string? rest with
          | none => none
          | some (name, rest) =>
              match skipSpace rest with
              | ':' :: rest =>
                  match value? fuel rest with
                  | none => none
                  | some (value, rest) =>
                      let read := (name, value) :: read.filter (·.1 != name)
                      match skipSpace rest with
                      | ',' :: left => fields? fuel read left
                      | '}' :: left => some (read.reverse, left)
                      | _ => none
              | _ => none
      | _ => none

end

def parse? (text : String) : Option Json :=
  let characters := text.toList
  match value? (2 * characters.length + 2) characters with
  | some (value, rest) => if (skipSpace rest).isEmpty then some value else none
  | none => none

end ClusterRouting.Json
