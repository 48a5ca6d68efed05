import ClusterRouting.Address
import ClusterRouting.Text
import ClusterRouting.Text.Numeral

/-! Numeric addresses: an Internet address of version 4 or 6 with a port, which
stand for themselves and need no look-up. -/

namespace ClusterRouting

structure Octets where
  first : UInt8
  second : UInt8
  third : UInt8
  fourth : UInt8

def Octets.groups (octets : Octets) : List UInt16 :=
  [.ofNat (256 * octets.first.toNat + octets.second.toNat),
    .ofNat (256 * octets.third.toNat + octets.fourth.toNat)]

def Octets.describe (octets : Octets) : String :=
  String.intercalate "." <|
    [octets.first, octets.second, octets.third, octets.fourth].map fun octet =>
      toString octet.toNat

def Octets.ofGroups (high low : UInt16) : Octets :=
  ⟨.ofNat (high.toNat / 256), .ofNat (high.toNat % 256),
    .ofNat (low.toNat / 256), .ofNat (low.toNat % 256)⟩

def Octets.ofNat (number : Nat) : Octets :=
  ⟨.ofNat (number / 0x1000000), .ofNat (number / 0x10000),
    .ofNat (number / 0x100), .ofNat number⟩

inductive InternetAddress where
  | four (octets : Octets)
  | six (groups : Vector UInt16 8)

namespace InternetAddress

/-! ## Reading -/

def digits (isDigit : Char → Bool) (text : List Char) :
    List Char × List Char :=
  (text.takeWhile isDigit, text.dropWhile isDigit)

def octet? (text : List Char) : Option (UInt8 × List Char) := do
  let (written, rest) := digits Char.isDigit text
  if 3 < written.length ∨ (written.head? = some '0' ∧ 1 < written.length) then
    none
  else
    let value ← Text.naturalBelow? 256 written
    some (.ofNat value, rest)

def skip? (mark : Char) : List Char → Option (List Char)
  | [] => none
  | head :: rest => if head = mark then some rest else none

def octets? (text : List Char) : Option (Octets × List Char) := do
  let (first, rest) ← octet? text
  let (second, rest) ← octet? (← skip? '.' rest)
  let (third, rest) ← octet? (← skip? '.' rest)
  let (fourth, rest) ← octet? (← skip? '.' rest)
  some (⟨first, second, third, fourth⟩, rest)

def group? (text : List Char) : Option (UInt16 × List Char) :=
  let (written, rest) := digits (Text.hexadecimal? · |>.isSome) text
  if written.isEmpty ∨ 4 < written.length then none
  else
    let value := (written.filterMap Text.hexadecimal?).foldl (16 * · + ·) 0
    some (.ofNat value, rest)

/-- Groups separated by colons, `room` of them at most. An embedded address of
version 4 ends them and takes the room of two. Besides the groups and the rest
of the text the answer tells whether that was the end. -/
def groups (room : Nat) (first : Bool) (text : List Char) :
    List UInt16 × Bool × List Char :=
  match room with
  | 0 => ([], false, text)
  | room + 1 =>
      let start := if first then some text else skip? ':' text
      match (if 0 < room then start.bind octets? else none) with
      | some (octets, rest) => (octets.groups, true, rest)
      | none =>
          match start.bind group? with
          | none => ([], false, text)
          | some (group, rest) =>
              let (others, embedded, rest) := groups room false rest
              (group :: others, embedded, rest)

def fill (head tail : List UInt16) : Vector UInt16 8 :=
  Vector.ofFn fun index =>
    if index.val < head.length then head.getD index.val 0
    else (tail.reverse).getD (7 - index.val) 0

/-- Two colons together stand for a run of zero groups. -/
def six? (text : List Char) : Option (InternetAddress × List Char) :=
  let (head, embedded, rest) := groups 8 true text
  if head.length = 8 then some (.six (fill head []), rest)
  else if embedded then none
  else do
    let rest ← skip? ':' (← skip? ':' rest)
    let (tail, _, rest) := groups (7 - head.length) true rest
    some (.six (fill head tail), rest)

/-! ## Short forms

An address of version 4 may have fewer than four numbers, and each of them may
be octal or hexadecimal. Every number but the last fills one octet, and the
last one fills those that are left: `127.1` stands for `127.0.0.1`. -/

def joined? (room : Nat) (leading : Nat) : List Nat → Option Nat
  | [] => none
  | [last] =>
      let limit := Nat.pow 256 room
      if last < limit then some (leading * limit + last) else none
  | part :: rest =>
      if part < 256 ∧ 1 < room then
        joined? (room - 1) (256 * leading + part) rest
      else none

def shorthand? (text : List Char) : Option Octets := do
  let parts ← (Text.pieces (· == '.') text).mapM Text.based?
  (joined? 4 0 parts).map Octets.ofNat

/-! ## Writing -/

def zeroRun (groups : List UInt16) : Nat × Nat :=
  let run (start : Nat) : Nat :=
    ((groups.drop start).takeWhile (· == 0)).length
  (List.range groups.length).foldl
    (fun (best, longest) start =>
      if longest < run start then (start, run start) else (best, longest))
    (0, 0)

def describeGroups (groups : List UInt16) : String :=
  String.intercalate ":" <| groups.map fun group =>
    String.ofList (Nat.toDigits 16 group.toNat)

def describe : InternetAddress → String
  | .four octets => octets.describe
  | .six groups =>
      match groups.toList with
      | [0, 0, 0, 0, 0, 0xffff, high, low] =>
          "::ffff:" ++ (Octets.ofGroups high low).describe
      | groups =>
          let (start, length) := zeroRun groups
          if 1 < length then
            describeGroups (groups.take start) ++ "::" ++
              describeGroups (groups.drop (start + length))
          else describeGroups groups

end InternetAddress

namespace Address

open InternetAddress

def lastPort? (text : List Char) : Option UInt16 :=
  if text.all Char.isDigit then
    (Text.naturalBelow? UInt16.size text).map .ofNat
  else none

def skipZone (text : List Char) : List Char :=
  match text with
  | '%' :: more =>
      let (written, rest) := digits Char.isDigit more
      if (Text.naturalBelow? UInt32.size written).isSome then rest else text
  | _ => text

def ofNumeric? (text : String) : Option Address := do
  let (host, rest) ← match text.toList with
    | '[' :: inner =>
        let (host, rest) ← six? inner
        let rest ← skip? ']' (skipZone rest)
        some (host, rest)
    | characters =>
        (octets? characters).map fun (octets, rest) => (.four octets, rest)
  let port ← lastPort? (← skip? ':' rest)
  some ⟨host.describe, port⟩

def ofShorthand? (address : Address) : Option Address :=
  (shorthand? address.host.toList).map fun octets =>
    ⟨octets.describe, address.port⟩

def resolveNumeric (address : Address) : Except Error (List Address) :=
  match ofNumeric? address.describe <|> address.ofShorthand? with
  | some found => .ok [found]
  | none =>
      .error (.serviceUnavailable
        ("Failed to resolve '" ++ address.describe ++ "'"))

end Address

end ClusterRouting
