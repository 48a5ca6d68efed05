import ClusterRouting.System

/-! Runs: the steps that a system takes one after another.

A run is given by what happens at each step and by what can be seen of the
world outside then. Both are left open, so that a statement about all runs is
one about every order of calls, answers, failures and reports. -/

namespace ClusterRouting

/-- One step of a run: the system before it, what can be seen of the world
outside, and what happens. -/
structure Step where
  before : System
  surroundings : Surroundings
  event : Event

namespace Step

def after (step : Step) : System :=
  (step.before.step step.surroundings step.event).1

def effects (step : Step) : List Effect :=
  (step.before.step step.surroundings step.event).2

end Step

namespace System

def opened (discovery : Discovery) (provider : Provider) (table : Table)
    (selection : Selection) : System :=
  ⟨{ discovery, provider, table, selection }, []⟩

def run (system : System) : List (Surroundings × Event) → System
  | [] => system
  | (surroundings, event) :: rest =>
      (Step.mk system surroundings event).after.run rest

def trace (system : System) : List (Surroundings × Event) → List Step
  | [] => []
  | (surroundings, event) :: rest =>
      let step : Step := ⟨system, surroundings, event⟩
      step :: step.after.trace rest

theorem run_append (system : System)
    (first second : List (Surroundings × Event)) :
    system.run (first ++ second) = (system.run first).run second := by
  induction first generalizing system with
  | nil => rfl
  | cons input rest induction => exact induction _

theorem trace_append (system : System)
    (first second : List (Surroundings × Event)) :
    system.trace (first ++ second) =
      system.trace first ++ (system.run first).trace second := by
  induction first generalizing system with
  | nil => rfl
  | cons input rest induction =>
      exact congrArg (Step.mk system input.1 input.2 :: ·) (induction _)

/-- The later steps of a run are those of a run that goes on from where the
earlier ones end. -/
theorem trace_split {system : System}
    {inputs : List (Surroundings × Event)} {earlier later : List Step}
    (split : system.trace inputs = earlier ++ later) :
    ∃ first second, inputs = first ++ second ∧
      earlier = system.trace first ∧
        later = (system.run first).trace second := by
  induction earlier generalizing system inputs with
  | nil => exact ⟨[], inputs, rfl, rfl, split.symm⟩
  | cons step earlier induction =>
      cases inputs with
      | nil => cases split
      | cons input rest =>
          simp only [trace, List.cons_append, List.cons.injEq] at split
          rcases split with ⟨rfl, split⟩
          rcases induction split with ⟨first, second, rfl, rfl, rfl⟩
          exact ⟨input :: first, second, rfl, rfl, rfl⟩

/-- Each step of a run is taken from where the earlier ones end. -/
theorem trace_split_cons {system : System}
    {inputs : List (Surroundings × Event)} {earlier later : List Step}
    {step : Step} (split : system.trace inputs = earlier ++ step :: later) :
    ∃ first input second, inputs = first ++ input :: second ∧
      earlier = system.trace first ∧
        step = ⟨system.run first, input.1, input.2⟩ ∧
          later = step.after.trace second := by
  rcases trace_split split with ⟨first, second, rfl, rfl, rest⟩
  cases second with
  | nil => cases rest
  | cons input second =>
      simp only [trace, List.cons.injEq] at rest
      exact ⟨first, input, second, rfl, rfl, rest.1, rest.1 ▸ rest.2⟩

/-! ## What steps keep, runs keep -/

theorem run_preserves {Property : System → Prop}
    (preserved : ∀ step : Step, Property step.before → Property step.after)
    {system : System} (initial : Property system)
    (inputs : List (Surroundings × Event)) : Property (system.run inputs) := by
  induction inputs generalizing system with
  | nil => exact initial
  | cons input rest induction =>
      exact induction (preserved ⟨system, input.1, input.2⟩ initial)

theorem trace_preserves {Property : System → Prop}
    (preserved : ∀ step : Step, Property step.before → Property step.after)
    {system : System} (initial : Property system)
    {inputs : List (Surroundings × Event)} {step : Step}
    (member : step ∈ system.trace inputs) : Property step.before := by
  induction inputs generalizing system with
  | nil => cases member
  | cons input rest induction =>
      rcases List.mem_cons.mp member with equal | later
      · subst equal
        exact initial
      · exact induction (preserved ⟨system, input.1, input.2⟩ initial) later

/-- The last time that something holds before a step of a run, if it does not
hold at the end. -/
theorem last_of_trace (Property : System → Prop) {system : System}
    {inputs : List (Surroundings × Event)}
    (held : ∃ step ∈ system.trace inputs, Property step.before)
    (ceased : ¬ Property (system.run inputs)) :
    ∃ earlier last later, system.trace inputs = earlier ++ last :: later ∧
      Property last.before ∧ ¬ Property last.after ∧
        ∀ step ∈ later, ¬ Property step.before := by
  induction inputs generalizing system with
  | nil =>
      rcases held with ⟨step, member, _⟩
      cases member
  | cons input rest induction =>
      let first : Step := ⟨system, input.1, input.2⟩
      have whole : system.trace (input :: rest) =
          first :: first.after.trace rest := rfl
      by_cases again : ∃ step ∈ first.after.trace rest, Property step.before
      · rcases induction again ceased with
          ⟨earlier, last, later, split, before, after, none⟩
        exact ⟨first :: earlier, last, later, by rw [whole, split]; rfl,
          before, after, none⟩
      · have none : ∀ step ∈ first.after.trace rest,
            ¬ Property step.before :=
          fun step member holds => again ⟨step, member, holds⟩
        have ended : ¬ Property first.after := by
          cases rest with
          | nil => exact ceased
          | cons next rest => exact none _ List.mem_cons_self
        rcases held with ⟨step, member, holds⟩
        rcases List.mem_cons.mp member with equal | later
        · subst equal
          exact ⟨[], _, first.after.trace rest, rfl, holds, ended, none⟩
        · exact absurd holds (none step later)

section Relations

variable (Related : System → System → Prop)
  (refl : ∀ system, Related system system)
  (trans : ∀ {first second third},
    Related first second → Related second third → Related first third)
  (steps : ∀ step : Step, Related step.before step.after)

include refl trans steps

/-- A relation between the ends of every step holds between the ends of a
run. -/
theorem related_run (system : System) (inputs : List (Surroundings × Event)) :
    Related system (system.run inputs) := by
  induction inputs generalizing system with
  | nil => exact refl system
  | cons input rest induction =>
      exact trans (steps ⟨system, input.1, input.2⟩) (induction _)

/-- Such a relation also leads up to each step of the run, and on from it. -/
theorem related_of_mem_trace {system : System}
    {inputs : List (Surroundings × Event)} {step : Step}
    (member : step ∈ system.trace inputs) :
    Related system step.before ∧ Related step.after (system.run inputs) := by
  induction inputs generalizing system with
  | nil => cases member
  | cons input rest induction =>
      rcases List.mem_cons.mp member with equal | later
      · subst equal
        exact ⟨refl _, related_run Related refl trans steps _ rest⟩
      · have parts := induction later
        exact ⟨trans (steps ⟨system, input.1, input.2⟩) parts.1, parts.2⟩

/-- Of two steps of a run, one comes before the other. -/
theorem ordered_of_mem_trace {system : System}
    {inputs : List (Surroundings × Event)} {left right : Step}
    (leftMember : left ∈ system.trace inputs)
    (rightMember : right ∈ system.trace inputs) :
    left = right ∨ Related left.after right.before ∨
      Related right.after left.before := by
  induction inputs generalizing system with
  | nil => cases leftMember
  | cons input rest induction =>
      rcases List.mem_cons.mp leftMember with leftEqual | leftLater <;>
        rcases List.mem_cons.mp rightMember with rightEqual | rightLater
      · exact .inl (leftEqual.trans rightEqual.symm)
      · subst leftEqual
        exact .inr (.inl
          (related_of_mem_trace Related refl trans steps rightLater).1)
      · subst rightEqual
        exact .inr (.inr
          (related_of_mem_trace Related refl trans steps leftLater).1)
      · exact induction leftLater rightLater

end Relations

end System

end ClusterRouting
