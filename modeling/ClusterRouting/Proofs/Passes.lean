import ClusterRouting.Proofs.Trails

/-! Passes: a search from its first pass to its result.

A search goes through its passes until one of them settles it or the last one
has come to nothing. What it comes to and whom it forgets depends on the answers
of the routers only, whichever pass they belong to. -/

namespace ClusterRouting

namespace Discovery

structure Start (State : Type) where
  tried : Roster
  delay : Duration
  table : Table
  state : State

section Passes

variable {State : Type} (discovery : Discovery) (outside : Outside State)

def Start.survey (start : Start State) : Survey State (Finding × Roster) :=
  (discovery.pass .external start.tried).survey outside start.table
    start.state

def Start.next (start : Start State) : Start State :=
  let pass := start.survey discovery outside
  let delay := discovery.settings.nextDelay start.delay
  { tried := pass.result.2
    delay
    table := pass.table
    state := ((interlude delay).survey outside pass.table pass.state).state }

inductive Passes : List (Start State) → Survey State (Finding × Roster) → Prop
  | last (start : Start State) :
      Passes [start] (start.survey discovery outside)
  | again {start : Start State} {starts : List (Start State)}
      {survey : Survey State (Finding × Roster)}
      (nothing : (start.survey discovery outside).result.1 = .nothing)
      (passes : Passes (start.next discovery outside :: starts) survey) :
      Passes (start :: start.next discovery outside :: starts)
        (survey.following (start.survey discovery outside).visits)

theorem Passes.trail {start : Start State} {starts : List (Start State)}
    {survey : Survey State (Finding × Roster)}
    (passes : Passes discovery outside (start :: starts) survey) :
    Trail start.table start.tried survey := by
  have first (start : Start State) : Trail start.table start.tried
      (start.survey discovery outside) :=
    leavesTrail_pass outside discovery start.tried start.table start.state
  generalize listed : start :: starts = all at passes
  induction passes generalizing start starts with
  | last other =>
      cases listed
      exact first other
  | @again other rest survey nothing passes induction =>
      cases listed
      exact (first other).andThen nothing (induction rfl)

structure Concludes (last : Survey State (Finding × Roster))
    (survey : Survey State (Except Error Composition)) : Prop where
  result : survey.result = conclusion last.result
  table : survey.table = last.table
  visits : survey.visits = last.visits

theorem survey_accept (composition : Composition) (table : Table)
    (state : State) :
    ∃ later, (accept composition).survey outside table state =
      ⟨.ok composition, table, later, []⟩ := by
  unfold accept
  cases composition.hasWriters with
  | true => exact ⟨_, rfl⟩
  | false => exact ⟨_, rfl⟩

theorem concludes_closing (last : Survey State (Finding × Roster)) :
    Concludes last (((closing last.result).survey outside last.table
      last.state).following last.visits) := by
  rcases last with ⟨⟨finding, tried⟩, table, state, visits⟩
  have same : visits ++ [] = visits := List.append_nil visits
  cases finding with
  | found composition =>
      rcases survey_accept outside composition table state with ⟨later, equal⟩
      simp only [closing, equal]
      exact ⟨rfl, rfl, same⟩
  | fatal error => exact ⟨rfl, rfl, same⟩
  | nothing => exact ⟨rfl, rfl, same⟩

structure Searched (start : Start State) (limit : Nat)
    (survey : Survey State (Except Error Composition))
    (starts : List (Start State)) (last : Survey State (Finding × Roster)) :
    Prop where
  passes : Passes discovery outside (start :: starts) last
  concludes : Concludes last survey
  bounded : starts.length + 1 ≤ limit
  whole : last.result.1 = .nothing → starts.length + 1 = limit

theorem Searched.again {start : Start State} {limit : Nat}
    {survey : Survey State (Except Error Composition)}
    {starts : List (Start State)} {last : Survey State (Finding × Roster)}
    (nothing : (start.survey discovery outside).result.1 = .nothing)
    (searched : Searched discovery outside (start.next discovery outside)
      limit survey starts last) :
    Searched discovery outside start (limit + 1)
      (survey.following (start.survey discovery outside).visits)
      (start.next discovery outside :: starts)
      (last.following (start.survey discovery outside).visits) where
  passes := .again nothing searched.passes
  concludes := {
    result := searched.concludes.result
    table := searched.concludes.table
    visits := congrArg (_ ++ ·) searched.concludes.visits }
  bounded := Nat.succ_le_succ searched.bounded
  whole := fun ended => congrArg (· + 1) (searched.whole ended)

theorem passes_cases (start : Start State) (more : Nat) :
    let search := discovery.passes .external start.tried start.delay
      (more + 1)
    let pass := start.survey discovery outside
    let next := start.next discovery outside
    (pass.result.1 ≠ .nothing ∧
      search.survey outside start.table start.state =
        ((closing pass.result).survey outside pass.table
          pass.state).following pass.visits) ∨
    (pass.result.1 = .nothing ∧
      search.survey outside start.table start.state =
        ((discovery.passes .external next.tried next.delay more).survey
          outside next.table next.state).following pass.visits) := by
  simp only [passes_succ, Search.survey_bind, Start.next, Start.survey]
  rcases (discovery.pass .external start.tried).survey outside start.table
    start.state with ⟨⟨finding, tried⟩, table, state, visits⟩
  cases finding with
  | nothing => exact .inr ⟨rfl, rfl⟩
  | found composition => exact .inl ⟨nofun, rfl⟩
  | fatal error => exact .inl ⟨nofun, rfl⟩

theorem searched_passes (start : Start State) (more : Nat) :
    ∃ starts last, Searched discovery outside start (more + 1)
      ((discovery.passes .external start.tried start.delay more).survey
        outside start.table start.state) starts last := by
  induction more generalizing start with
  | zero =>
      rw [passes_zero, Search.survey_bind]
      exact ⟨[], _, .last start, concludes_closing outside _, Nat.le_refl 1,
        fun _ => rfl⟩
  | succ more induction =>
      rcases passes_cases discovery outside start more with
        ⟨settled, equal⟩ | ⟨nothing, equal⟩
      · rw [equal]
        exact ⟨[], _, .last start, concludes_closing outside _, by simp,
          fun nothing => absurd nothing settled⟩
      · rw [equal]
        rcases induction (start.next discovery outside) with
          ⟨starts, last, searched⟩
        exact ⟨_, _, searched.again discovery outside nothing⟩

end Passes

/-! ## Whole searches -/

section Supply

variable (discovery : Discovery) (provider : Provider)

theorem accept_supply (composition : Composition) :
    (accept composition).supply provider = accept composition := by
  unfold accept
  cases composition.hasWriters <;> rfl

theorem closing_supply (result : Finding × Roster) :
    (closing result).supply provider = closing result := by
  rcases result with ⟨finding, tried⟩
  cases finding with
  | found composition => exact accept_supply provider composition
  | fatal error => rfl
  | nothing => rfl

theorem passes_supply (tried : Roster) (delay : Duration) (more : Nat) :
    (discovery.passes .external tried delay more).supply provider =
      discovery.passes provider tried delay more := by
  induction more generalizing tried delay with
  | zero =>
      rw [passes_zero, passes_zero, Search.supply_bind, pass_supply]
      apply congrArg (discovery.pass provider tried >>= ·)
      exact funext fun result => closing_supply provider result
  | succ more induction =>
      rw [passes_succ, passes_succ, Search.supply_bind, pass_supply]
      apply congrArg (discovery.pass provider tried >>= ·)
      funext ⟨finding, tried⟩
      cases finding with
      | nothing =>
          simp only [← induction]
          exact Search.supply_bind provider _ _
      | found composition => exact closing_supply provider _
      | fatal error => exact closing_supply provider _

end Supply

section Observation

variable {State : Type} (discovery : Discovery) (provider : Provider)
  (outside : Outside State) (table : Table) (state : State)

/-- A search in which the answers of the provider can be seen. -/
def observe : Survey State (Except Error Composition) :=
  (discovery.search .external).survey (outside.through provider) table state

theorem outcome_observe :
    ((discovery.search provider).survey outside table state).outcome =
      (discovery.observe provider outside table state).outcome := by
  unfold search observe
  rw [← passes_supply]
  exact Search.survey_supply provider outside _ table state

def Start.first : Start State :=
  ⟨.empty, .zero, table, state⟩

theorem searched_observe :
    ∃ starts last, Searched discovery (outside.through provider)
      (.first table state) discovery.settings.passes
      (discovery.observe provider outside table state) starts last := by
  have positive : discovery.settings.passes - 1 + 1 =
      discovery.settings.passes :=
    Nat.sub_add_cancel (Nat.le_max_right _ 1)
  have searched := searched_passes discovery (outside.through provider)
    (.first table state) (discovery.settings.passes - 1)
  rw [positive] at searched
  exact searched

end Observation

structure Forgetful {State : Type} (table : Table)
    (survey : Survey State (Except Error Composition)) : Prop where
  failures : ∀ address,
    address ∈ Visit.failures survey.visits ↔
      ∃ error, .router address (.error error) ∈ survey.visits ∧
        ¬ error.Conclusive
  members : ∀ role, (survey.table.members role).toList =
    (table.members role).toList.filter
      (!(Visit.failures survey.visits).contains ·)
  expires : survey.table.expires = table.expires
  spared : ∀ before address reply after,
    survey.visits = before ++ .router address reply :: after →
      (Visit.router address reply).IsFinal →
        ∀ role, (survey.table.members role).toList =
          (table.members role).toList.filter
            (!(Visit.failures before).contains ·)

namespace Searched

variable {State : Type} {discovery : Discovery} {outside : Outside State}
  {start : Start State} {limit : Nat}
  {survey : Survey State (Except Error Composition)}
  {starts : List (Start State)} {last : Survey State (Finding × Roster)}
  (searched : Searched discovery outside start limit survey starts last)
include searched

theorem ends : Visit.Ends survey.visits last.result.1 := by
  rw [searched.concludes.visits]
  exact searched.passes.trail.ends

theorem forgets : survey.table =
    (Visit.failures survey.visits).foldl .forget start.table := by
  rw [searched.concludes.table, searched.concludes.visits]
  exact searched.passes.trail.forgets

theorem result {finding : Finding} (found : last.result.1 = finding) :
    survey.result = conclusion
      (finding, start.tried.insertAll (Visit.contacts survey.visits)) := by
  rw [searched.concludes.result, searched.concludes.visits, ← found]
  apply congrArg (fun tried => conclusion (last.result.1, tried))
  exact searched.passes.trail.tries

theorem settled {before after : List Visit} {visit : Visit}
    (final : visit.IsFinal)
    (visits : survey.visits = before ++ visit :: after) :
    (∀ other ∈ before, ¬ other.IsFinal) ∧ after = [] ∧
      Visit.Ends [visit] last.result.1 := by
  have ends := searched.ends
  rw [visits] at ends
  exact ends.of_final final

theorem forgetful : Forgetful start.table survey := by
  have members (role : Role) : (survey.table.members role).toList =
      (start.table.members role).toList.filter
        (!(Visit.failures survey.visits).contains ·) := by
    rw [searched.forgets]
    exact start.table.members_forgetAll _ role
  constructor
  · exact fun address => Visit.mem_failures
  · exact members
  · rw [searched.forgets]
    exact (Table.Shrinks.forgetAll start.table _).expires
  · intro before address reply after visits final role
    have rest := (searched.settled final visits).2.1
    rw [members role, visits, rest, Visit.failures_append,
      Visit.failures_final final, List.append_nil]

end Searched

section

variable {State : Type} (discovery : Discovery) (provider : Provider)
  (outside : Outside State) (table : Table) (state : State)

/-- A search takes the routers that fail out of all roles and leaves the rest
of the table alone, whatever it comes to. -/
theorem forgetful_observe :
    let survey := discovery.observe provider outside table state
    Forgetful table survey ∧
      ((discovery.search provider).survey outside table state).outcome =
        survey.outcome := by
  intro survey
  rcases discovery.searched_observe provider outside table state with
    ⟨starts, last, searched⟩
  constructor
  · exact searched.forgetful
  · exact discovery.outcome_observe provider outside table state

end

end Discovery

end ClusterRouting
