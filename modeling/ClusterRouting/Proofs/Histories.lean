import ClusterRouting.Proofs.Passes

/-! Histories: searches one after another, each of which leaves word to the
next.

A composition without writers may come from routers that are cut off from the
others. Until a search finds one with writers, every pass starts with the
initial router, however many searches fail in between. -/

namespace ClusterRouting

def Search.opening {Result : Type} : Search Result → Option Inquiry
  | .finish _ => none
  | .ask inquiry _ => some inquiry

namespace Discovery

structure Call (State : Type) where
  outside : Outside State
  table : Table
  state : State

def results {State : Type} (provider : Provider) (discovery : Discovery) :
    List (Call State) → List (Except Error Composition)
  | [] => []
  | call :: rest =>
      let result := ((discovery.search provider).survey call.outside
        call.table call.state).result
      result :: results provider (discovery.learn result) rest

def learnAll (discovery : Discovery)
    (results : List (Except Error Composition)) : Discovery :=
  results.foldl learn discovery

def lastFound? (results : List (Except Error Composition)) :
    Option Composition :=
  (results.filterMap Except.toOption).getLast?

theorem lastFound_ok (composition : Composition)
    (results : List (Except Error Composition)) :
    lastFound? (.ok composition :: results) =
      some ((lastFound? results).getD composition) :=
  List.getLast?_cons

/-- Of all results, only the composition that was found last counts. -/
theorem learnAll_eq (discovery : Discovery)
    (results : List (Except Error Composition)) :
    discovery.learnAll results = { discovery with
      writerless := ((lastFound? results).map (!·.hasWriters)).getD
        discovery.writerless } := by
  induction results generalizing discovery with
  | nil => rfl
  | cons result rest induction =>
      apply (induction (discovery.learn result)).trans
      cases result with
      | error error => rfl
      | ok composition =>
          rw [lastFound_ok]
          cases lastFound? rest with
          | none => rfl
          | some later => rfl

theorem startsWithInitial_learnAll (initialRouter : Address)
    (settings : Settings) (results : List (Except Error Composition)) :
    ({ initialRouter, settings : Discovery }.learnAll
        results).startsWithInitial = true ↔
      settings.routerOrder = .initialRouterFirst ∨
        ∃ composition, lastFound? results = some composition ∧
          composition.hasWriters = false := by
  rw [learnAll_eq, startsWithInitial, Bool.or_eq_true, beq_iff_eq]
  apply or_congr Iff.rfl
  cases lastFound? results with
  | none => simp
  | some composition => simp

/-- The order of a pass, if the table lists some known routers at its start. -/
structure PassOrder (discovery : Discovery) (initialFirst : Prop)
    (known : List Address) (opening : Option Inquiry) (visits : List Visit) :
    Prop where
  resolves : opening = some (.outside (.resolve discovery.initialRouter)) ↔
    initialFirst
  reads : opening = some .routers ↔ ¬ initialFirst
  fromInitial : initialFirst →
    ∃ reply later, visits = .resolver reply :: later ∧
      Visit.contacts later <+: discovery.seeds reply ++
        known.filter (!(discovery.seeds reply).contains ·)
  fromKnown : ¬ initialFirst →
    ∃ resolved,
      Visit.contacts visits <+: known ++
        resolved.filter (!known.contains ·) ∧
      ∀ reply, .resolver reply ∈ visits →
        discovery.seeds reply = resolved ∧
          ∃ before after, visits = before ++ .resolver reply :: after ∧
            Visit.contacts before = known ∧ ∀ visit ∈ before, visit.Fails
  /-- Without known routers there is only one order. -/
  shows : known ≠ [] →
    ((∃ reply later, visits = .resolver reply :: later) ↔ initialFirst)

namespace OrderlyPass

variable {State : Type} {discovery : Discovery} {known : List Address}
  {survey : Survey State (Finding × Roster)}
  (orderly : OrderlyPass discovery known survey)
include orderly

theorem reply_unique {first second : Except Error (List Address)}
    (firstly : .resolver first ∈ survey.visits)
    (secondly : .resolver second ∈ survey.visits) : first = second := by
  have resolution {reply : Except Error (List Address)}
      (member : .resolver reply ∈ survey.visits) :
      reply ∈ Visit.resolutions survey.visits :=
    List.mem_filterMap.mpr ⟨_, member, rfl⟩
  have once := orderly.once
  have firstOne := resolution firstly
  have secondOne := resolution secondly
  generalize Visit.resolutions survey.visits = replies at *
  match replies with
  | [] => cases firstOne
  | [only] =>
      rw [List.mem_singleton.mp firstOne, List.mem_singleton.mp secondOne]
  | _ :: _ :: _ => simp at once

theorem order_of_reply {reply : Except Error (List Address)}
    (asked : .resolver reply ∈ survey.visits) :
    Visit.contacts survey.visits <+:
      discovery.sequence known (discovery.seeds reply) := by
  apply orderly.order
  intro other member
  exact congrArg discovery.seeds (orderly.reply_unique member asked)

theorem fromInitial (starts : discovery.startsWithInitial = true)
    {reply : Except Error (List Address)} {later : List Visit}
    (visits : survey.visits = .resolver reply :: later) :
    Visit.contacts later <+: discovery.seeds reply ++
      known.filter (!(discovery.seeds reply).contains ·) := by
  have asked : .resolver reply ∈ survey.visits := by
    rw [visits]
    exact List.mem_cons_self
  have order := orderly.order_of_reply asked
  rw [visits, sequence, if_pos starts] at order
  exact order

theorem fromKnown (starts : discovery.startsWithInitial = false) :
    ∃ resolved,
      Visit.contacts survey.visits <+:
        known ++ resolved.filter (!known.contains ·) ∧
      ∀ reply, .resolver reply ∈ survey.visits →
        discovery.seeds reply = resolved := by
  have sequence (resolved : List Address) :
      discovery.sequence known resolved =
        known ++ resolved.filter (!known.contains ·) :=
    if_neg (Bool.eq_false_iff.mp starts)
  by_cases asked : ∃ reply, .resolver reply ∈ survey.visits
  · rcases asked with ⟨reply, asked⟩
    refine ⟨discovery.seeds reply, ?_, ?_⟩
    · rw [← sequence]
      exact orderly.order_of_reply asked
    · intro other member
      exact congrArg discovery.seeds (orderly.reply_unique member asked)
  · have unasked (reply : Except Error (List Address)) :
        .resolver reply ∉ survey.visits :=
      fun member => asked ⟨reply, member⟩
    refine ⟨[], ?_, fun reply member => absurd member (unasked reply)⟩
    rw [← sequence]
    exact orderly.order [] fun reply member => absurd member (unasked reply)

/-- Known routers that come first have been asked before the resolver. -/
theorem not_resolver_first (starts : discovery.startsWithInitial = false)
    (some : known ≠ []) :
    ¬ ∃ reply later, survey.visits = .resolver reply :: later := by
  rintro ⟨reply, later, visits⟩
  have asked : .resolver reply ∈ survey.visits := by
    rw [visits]
    exact List.mem_cons_self
  rcases orderly.late starts reply asked with
    ⟨before, after, split, contacts, fails⟩
  cases before with
  | nil => exact some contacts.symm
  | cons first rest =>
      rw [visits] at split
      cases split
      exact fails (.resolver reply) List.mem_cons_self

end OrderlyPass

section Pass

variable {State : Type} (discovery : Discovery) (outside : Outside State)
  (provider : Provider) (start : Start State)

theorem resolver_first (starts : discovery.startsWithInitial = true) :
    ∃ reply later, (start.survey discovery outside).visits =
      .resolver reply :: later := by
  rcases survey_resolveInitial outside start.table start.state discovery with
    ⟨reply, later, resolved⟩
  rw [Start.survey, pass, if_pos starts, initialRouterFirst_eq,
    Search.survey_bind, resolved]
  exact ⟨reply, _, rfl⟩

theorem passOrder_pass :
    PassOrder discovery (discovery.startsWithInitial = true)
      start.table.routers.toList
      (discovery.pass provider start.tried).opening
      (start.survey discovery outside).visits := by
  have orderly : OrderlyPass discovery start.table.routers.toList
      (start.survey discovery outside) :=
    orderly_external outside start.table start.state discovery start.tried
  by_cases starts : discovery.startsWithInitial = true
  · have opening : (discovery.pass provider start.tried).opening =
        some (.outside (.resolve discovery.initialRouter)) := by
      rw [pass, if_pos starts]
      rfl
    have first := resolver_first discovery outside start starts
    exact {
      resolves := iff_of_true opening starts
      reads := by
        rw [opening]
        exact iff_of_false nofun fun other => other starts
      fromInitial := by
        intro _
        rcases first with ⟨reply, later, visits⟩
        exact ⟨reply, later, visits, orderly.fromInitial starts visits⟩
      fromKnown := fun other => absurd starts other
      shows := fun _ => iff_of_true first starts }
  · have opening : (discovery.pass provider start.tried).opening =
        some .routers := by
      rw [pass, if_neg starts]
      rfl
    have unlike := Bool.eq_false_iff.mpr starts
    exact {
      resolves := by
        rw [opening]
        exact iff_of_false nofun starts
      reads := iff_of_true opening starts
      fromInitial := fun same => absurd same starts
      fromKnown := by
        intro _
        rcases orderly.fromKnown unlike with ⟨resolved, order, answers⟩
        refine ⟨resolved, order, fun reply member => ?_⟩
        exact ⟨answers reply member, orderly.late unlike reply member⟩
      shows := fun some =>
        iff_of_false (orderly.not_resolver_first unlike some) starts }

end Pass

/-- Every pass of every search starts with the initial router if and only if
the settings say so or the composition that was found last has no writers. -/
theorem passOrder_history {State : Type} (initialRouter : Address)
    (settings : Settings) (provider : Provider) (calls : List (Call State))
    (call : Call State) :
    let fresh : Discovery := { initialRouter, settings }
    let results := fresh.results provider calls
    let discovery := fresh.learnAll results
    let outside := call.outside.through provider
    let survey := discovery.observe provider call.outside call.table
      call.state
    (∃ starts last,
      Passes discovery outside (.first call.table call.state :: starts) last ∧
      last.visits = survey.visits ∧
      ∀ start ∈ Start.first call.table call.state :: starts,
        PassOrder discovery
          (settings.routerOrder = .initialRouterFirst ∨
            ∃ composition, lastFound? results = some composition ∧
              composition.hasWriters = false)
          start.table.routers.toList
          (discovery.pass provider start.tried).opening
          (start.survey discovery outside).visits) ∧
    ((discovery.search provider).survey call.outside call.table
      call.state).outcome = survey.outcome := by
  intro fresh results discovery outside survey
  rcases discovery.searched_observe provider call.outside call.table
    call.state with ⟨starts, last, searched⟩
  constructor
  · refine ⟨starts, last, searched.passes, ?_, ?_⟩
    · exact searched.concludes.visits.symm
    · intro start _
      rw [← startsWithInitial_learnAll initialRouter settings results]
      exact passOrder_pass discovery outside provider start
  · exact discovery.outcome_observe provider call.outside call.table
      call.state

end Discovery

end ClusterRouting
