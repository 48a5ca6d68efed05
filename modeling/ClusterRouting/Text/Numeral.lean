/-! Numbers written in ASCII digits, and single digits. -/

namespace ClusterRouting.Text

def digit? (character : Char) : Option Nat :=
  if character.isDigit then some (character.toNat - '0'.toNat) else none

def hexadecimal? (character : Char) : Option Nat :=
  if character.isDigit then some (character.toNat - '0'.toNat)
  else if 'a' ≤ character ∧ character ≤ 'f' then
    some (character.toNat - 'a'.toNat + 10)
  else if 'A' ≤ character ∧ character ≤ 'F' then
    some (character.toNat - 'A'.toNat + 10)
  else none

def digits? (leading : Nat) : List Char → Option Nat
  | [] => some leading
  | head :: rest =>
      (digit? head).bind fun value => digits? (10 * leading + value) rest

def natural? (text : List Char) : Option Nat :=
  match text with
  | '+' :: [] => none
  | '+' :: rest => digits? 0 rest
  | [] => none
  | _ => digits? 0 text

def naturalBelow? (bound : Nat) (text : List Char) : Option Nat :=
  (natural? text).filter (· < bound)

def ofDigits? (base : Nat) (text : List Char) : Option Nat :=
  text.foldlM
    (fun leading character => do
      let value ← hexadecimal? character
      if value < base then some (base * leading + value) else none)
    0

/-- A number that shows its base: octal digits follow a zero, hexadecimal ones
follow a zero and an `x`, and all others are decimal. -/
def based? (text : List Char) : Option Nat :=
  match text with
  | [] => none
  | ['0'] => some 0
  | '0' :: mark :: rest =>
      if mark = 'x' ∨ mark = 'X' then
        if rest.isEmpty then none else ofDigits? 16 rest
      else ofDigits? 8 (mark :: rest)
  | _ => ofDigits? 10 text

example : naturalBelow? 65536 "+007".toList = some 7 := by decide

example : naturalBelow? 65536 "65536".toList = none := by decide

example : based? "0x1F".toList = some 31 ∧ based? "010".toList = some 8 := by
  decide

example : based? "08".toList = none ∧ based? "0x".toList = none := by decide

end ClusterRouting.Text
