import ClusterRouting.Text
import ClusterRouting.Text.Numeral

/-! Server versions, as a server writes them into its agent text. -/

namespace ClusterRouting

structure Version where
  major : UInt32
  minor : UInt32
  patch : UInt32
  deriving DecidableEq, Repr

namespace Version

def order (first second : Version) : Ordering :=
  (compare first.major second.major).then
    ((compare first.minor second.minor).then
      (compare first.patch second.patch))

def isBefore (first second : Version) : Bool :=
  first.order second == .lt

def contextual : Version := ⟨3, 2, 0⟩

def part? (text : List Char) : Option UInt32 :=
  (Text.naturalBelow? UInt32.size (Text.trim text)).map .ofNat

/-- The version at the end of an agent text such as `Product/3.2.1-rc1`. What
follows a minus or plus sign or a third number is ignored, and a missing third
number is zero. -/
def parse? (agent : String) : Option Version :=
  let written := (Text.afterLast '/' agent.toList).takeWhile fun character =>
    character != '-' && character != '+'
  match Text.pieces (· == '.') written with
  | major :: minor :: [] => do
      some ⟨← part? major, ← part? minor, 0⟩
  | major :: minor :: patch :: _ => do
      some ⟨← part? major, ← part? minor, ← part? patch⟩
  | _ => none

def describe (version : Version) : String :=
  toString version.major.toNat ++ "." ++ toString version.minor.toNat ++ "."
    ++ toString version.patch.toNat

example : parse? "Product/3.2.1-rc1" = some ⟨3, 2, 1⟩ := by decide +kernel

example : parse? "Product/4" = none := by decide +kernel

end Version

end ClusterRouting
