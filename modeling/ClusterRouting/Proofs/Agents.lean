import ClusterRouting.Proofs.Queries
import Mathlib.Algebra.Group.Nat.Defs
import Mathlib.Data.Prod.Lex

/-! Agents: which versions servers tell, and what routers are asked for it.

The text of an agent ends with a version, behind the last slash: numbers with
points between them, and a qualifier. The product in front of it is any text,
and whatever marks the parts of the version may occur there as well. -/

namespace ClusterRouting

structure Figure where
  digits : String
  number : Nat
  numeral : Text.Numeral digits.toList number

/-- What a version says behind its numbers, such as `-rc1`; it may be empty. -/
structure Qualifier where
  text : String
  marked : ∀ first, text.toList.head? = some first →
    first = '-' ∨ first = '+'
  unslashed : '/' ∉ text.toList

structure Agent where
  product : String
  figures : List Figure
  qualifier : Qualifier

namespace Agent

def describe (agent : Agent) : String :=
  agent.product ++ "/" ++ ".".intercalate (agent.figures.map (·.digits)) ++
    agent.qualifier.text

def numbers (agent : Agent) : List Nat :=
  agent.figures.map (·.number)

variable (agent : Agent)

def parts : List (List Char) :=
  agent.figures.map (·.digits.toList)

theorem toList_describe :
    agent.describe.toList = agent.product.toList ++
      '/' :: (['.'].intercalate agent.parts ++
        agent.qualifier.text.toList) := by
  simp [describe, parts, String.toList_intercalate, Function.comp_def]

variable {agent} {mark : Char}

theorem not_mem_part (other : mark.isDigit = false) :
    ∀ part ∈ agent.parts, mark ∉ part := by
  intro part member
  rcases List.mem_map.mp member with ⟨figure, _, rfl⟩
  exact figure.numeral.not_mem other

theorem not_mem_intercalate (other : mark.isDigit = false)
    (different : mark ≠ '.') : mark ∉ ['.'].intercalate agent.parts := by
  intro member
  rcases Text.mem_intercalate member with same | ⟨part, listed, inside⟩
  · exact different same
  · exact not_mem_part other part listed inside

/-- The numbers begin behind the last slash. -/
theorem afterLast_describe (agent : Agent) :
    Text.afterLast '/' agent.describe.toList =
      ['.'].intercalate agent.parts ++ agent.qualifier.text.toList := by
  rw [toList_describe]
  apply Text.afterLast_append
  rw [List.mem_append, not_or]
  exact ⟨not_mem_intercalate (by decide) (by decide),
    agent.qualifier.unslashed⟩

/-- They end at the first minus or plus sign. -/
theorem takeWhile_version (agent : Agent) :
    ((['.'].intercalate agent.parts ++
        agent.qualifier.text.toList).takeWhile fun character =>
      character != '-' && character != '+') =
        ['.'].intercalate agent.parts := by
  have minus : '-' ∉ ['.'].intercalate agent.parts :=
    not_mem_intercalate (by decide) (by decide)
  have plus : '+' ∉ ['.'].intercalate agent.parts :=
    not_mem_intercalate (by decide) (by decide)
  apply Text.takeWhile_append
  · intro character member
    rw [Bool.and_eq_true]
    exact ⟨Text.bne_of_not_mem minus character member,
      Text.bne_of_not_mem plus character member⟩
  · intro first found
    rcases agent.qualifier.marked first found with same | same <;> simp [same]

end Agent

namespace Version

/-! ## Numbers -/

def fitting? (number : Nat) : Option UInt32 :=
  if number < UInt32.size then some (.ofNat number) else none

def ofNumbers? : List Nat → Option Version
  | major :: minor :: [] => do
      some ⟨← fitting? major, ← fitting? minor, 0⟩
  | major :: minor :: patch :: _ => do
      some ⟨← fitting? major, ← fitting? minor, ← fitting? patch⟩
  | _ => none

theorem fitting?_eq_some_iff {number : Nat} {part : UInt32} :
    fitting? number = some part ↔ part.toNat = number := by
  rw [fitting?, Option.ite_none_right_eq_some, Option.some.injEq]
  constructor
  · intro found
    rw [← found.2]
    exact UInt32.toNat_ofNat_of_lt' found.1
  · intro same
    rw [← same]
    exact ⟨part.toNat_lt_size, UInt32.ofNat_toNat⟩

theorem exists_fitting {number : Nat} (fits : number ≤ 2 ^ 32 - 1) :
    ∃ part, fitting? number = some part ∧ part.toNat = number := by
  have small : number < UInt32.size := by
    unfold UInt32.size
    omega
  have same := UInt32.toNat_ofNat_of_lt' small
  exact ⟨.ofNat number, fitting?_eq_some_iff.mpr same, same⟩

theorem fitting?_of_large {number : Nat} (large : 2 ^ 32 - 1 < number) :
    fitting? number = none := by
  apply if_neg
  unfold UInt32.size
  omega

theorem ofNumbers?_of_large {number : Nat} (large : 2 ^ 32 - 1 < number) :
    ∀ {numbers : List Nat}, number ∈ numbers.take 3 →
      ofNumbers? numbers = none
  | [], _ => rfl
  | [_], _ => rfl
  | [major, minor], member => by
      have listed : number = major ∨ number = minor := by simpa using member
      rcases listed with same | same <;>
        simp [ofNumbers?, ← same, fitting?_of_large large]
  | major :: minor :: patch :: others, member => by
      have listed : number = major ∨ number = minor ∨ number = patch := by
        simpa using member
      rcases listed with same | same | same <;>
        simp [ofNumbers?, ← same, fitting?_of_large large]

theorem ofNumbers?_of_few :
    ∀ {numbers : List Nat}, numbers.length ≤ 1 → ofNumbers? numbers = none
  | [], _ => rfl
  | [_], _ => rfl

/-! ## Order -/

def numbers (version : Version) : Nat ×ₗ Nat ×ₗ Nat :=
  toLex (version.major.toNat, toLex (version.minor.toNat, version.patch.toNat))

theorem isBefore_iff_numbers {first second : Version} :
    first.isBefore second = true ↔ first.numbers < second.numbers := by
  simp only [isBefore_iff, numbers, Prod.Lex.toLex_lt_toLex,
    UInt32.lt_iff_toNat_lt, UInt32.toNat_inj]

theorem numbers_contextual : contextual.numbers = toLex (3, toLex (2, 0)) :=
  rfl

/-! ## Reading -/

theorem part?_digits (figure : Figure) :
    part? figure.digits.toList = fitting? figure.number := by
  rw [part?, figure.numeral.trim_eq, figure.numeral.naturalBelow?_eq, fitting?]
  split <;> rfl

/-- What is read out of an agent text depends on its numbers only. -/
theorem parse?_describe (agent : Agent) :
    parse? agent.describe = ofNumbers? agent.numbers := by
  have pieces : agent.parts ≠ [] →
      (['.'].intercalate agent.parts).splitOn '.' = agent.parts :=
    List.splitOn_intercalate '.' (Agent.not_mem_part (by decide))
  simp only [parse?, agent.afterLast_describe, agent.takeWhile_version,
    Text.pieces_eq_splitOn]
  rcases agent with ⟨product, figures, qualifier⟩
  simp only [Agent.parts, Agent.numbers] at pieces ⊢
  -- The empty list alone is not got back: cut at points, it is one empty piece.
  cases figures with
  | nil => rfl
  | cons first rest =>
      rw [pieces (by simp)]
      cases rest with
      | nil => rfl
      | cons second others =>
          cases others <;>
            simp only [List.map_cons, List.map_nil, part?_digits, ofNumbers?]

end Version

/-- What is read out of an agent text that writes some numbers, and what a
router is asked if this is its version. -/
structure ExactVersion (numbers : List Nat) (outcome : Option Version) :
    Prop where
  /-- Numbers behind the third make no difference. -/
  whole : ∀ major minor patch others,
    numbers = major :: minor :: patch :: others →
      major ≤ 2 ^ 32 - 1 → minor ≤ 2 ^ 32 - 1 → patch ≤ 2 ^ 32 - 1 →
        ∃ version, outcome = some version ∧
          version.numbers = toLex (major, toLex (minor, patch))
  short : ∀ major minor, numbers = [major, minor] →
    major ≤ 2 ^ 32 - 1 → minor ≤ 2 ^ 32 - 1 →
      ∃ version, outcome = some version ∧
        version.numbers = toLex (major, toLex (minor, 0))
  large : ∀ number ∈ numbers.take 3, 2 ^ 32 - 1 < number → outcome = none
  lone : numbers.length ≤ 1 → outcome = none
  early : ∀ context version, outcome = some version →
    version.numbers < toLex (3, toLex (2, 0)) →
      Procedure.forVersion context outcome =
        ⟨"CALL dbms.cluster.routing.getServers()", []⟩
  recent : ∀ context version, outcome = some version →
    ¬ version.numbers < toLex (3, toLex (2, 0)) →
      Procedure.forVersion context outcome =
        ⟨"CALL dbms.cluster.routing.getRoutingTable($context)",
          [("context", context.toValue)]⟩
  unknown : ∀ context, Procedure.forVersion context none =
    ⟨"CALL dbms.cluster.routing.getRoutingTable($context)",
      [("context", context.toValue)]⟩

theorem Agent.exactVersion_parse (agent : Agent) :
    ExactVersion agent.numbers (Version.parse? agent.describe) where
  whole := by
    intro major minor patch others equal major_le minor_le patch_le
    rcases Version.exists_fitting major_le with ⟨major', first, rfl⟩
    rcases Version.exists_fitting minor_le with ⟨minor', second, rfl⟩
    rcases Version.exists_fitting patch_le with ⟨patch', third, rfl⟩
    refine ⟨⟨major', minor', patch'⟩, ?_, rfl⟩
    rw [Version.parse?_describe, equal]
    simp [Version.ofNumbers?, first, second, third]
  short := by
    intro major minor equal major_le minor_le
    rcases Version.exists_fitting major_le with ⟨major', first, rfl⟩
    rcases Version.exists_fitting minor_le with ⟨minor', second, rfl⟩
    refine ⟨⟨major', minor', 0⟩, ?_, rfl⟩
    rw [Version.parse?_describe, equal]
    simp [Version.ofNumbers?, first, second]
  large := by
    intro number member large
    rw [Version.parse?_describe]
    exact Version.ofNumbers?_of_large large member
  lone := by
    intro few
    rw [Version.parse?_describe]
    exact Version.ofNumbers?_of_few few
  early := by
    intro context version found before
    rw [← Version.numbers_contextual, ← Version.isBefore_iff_numbers] at before
    simp only [found, Procedure.forVersion, if_pos before]
    rfl
  recent := by
    intro context version found late
    rw [← Version.numbers_contextual, ← Version.isBefore_iff_numbers] at late
    simp only [found, Procedure.forVersion, if_neg late]
    rfl
  unknown := fun _ => rfl

example : Version.parse? "Graph/3-beta/03.2.1.7+build" = some ⟨3, 2, 1⟩ := by
  decide +kernel

end ClusterRouting
