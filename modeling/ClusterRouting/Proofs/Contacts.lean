import ClusterRouting.Proofs.Accounts
import ClusterRouting.Proofs.Failures

/-! Contacts: which routers one pass of a search asks, and in which order.

A pass is followed to its end while nobody else touches the table. The world
outside may answer as it likes, and in another way each time. A pass with the
external provider shows in its visits whom it asks, and a pass with any other
provider is the same one, with the provider in the place of the world. -/

namespace ClusterRouting

abbrev Outside (State : Type) :=
  (request : Request) → StateM State request.Reply

inductive Visit where
  | router (address : Address) (reply : Except Error Composition)
  | resolver (reply : Except Error (List Address))

structure Survey (State Result : Type) where
  result : Result
  table : Table
  state : State
  visits : List Visit

namespace Survey

variable {State Result : Type}

def following (visits : List Visit) (survey : Survey State Result) :
    Survey State Result :=
  { survey with visits := visits ++ survey.visits }

theorem following_following (first second : List Visit)
    (survey : Survey State Result) :
    (survey.following second).following first =
      survey.following (first ++ second) := by
  simp [following]

end Survey

namespace Visit

def contact? : Visit → Option Address
  | .router address _ => some address
  | .resolver _ => none

def resolution? : Visit → Option (Except Error (List Address))
  | .router _ _ => none
  | .resolver reply => some reply

/-- A router has failed in a way that another one could mend. -/
def Fails : Visit → Prop
  | .router _ (.error error) => error.isFatal = false
  | .router _ (.ok _) | .resolver _ => False

def ofReply : (request : Request) → request.Reply → List Visit
  | .compose address, reply => [.router address reply]
  | .resolve _, reply => [.resolver reply]
  | .acquire _, _ | .run _ _ _, _ | .release _, _ | .pause _, _ | .clock, _
  | .note _, _ => []

def contacts (visits : List Visit) : List Address :=
  visits.filterMap contact?

def resolutions (visits : List Visit) : List (Except Error (List Address)) :=
  visits.filterMap resolution?

theorem resolutions_eq_nil {visits : List Visit}
    (unresolved : ∀ reply, .resolver reply ∉ visits) :
    resolutions visits = [] := by
  apply List.filterMap_eq_nil_iff.mpr
  intro visit member
  cases visit with
  | router address reply => rfl
  | resolver reply => exact absurd member (unresolved reply)

@[simp] theorem contacts_append (first second : List Visit) :
    contacts (first ++ second) = contacts first ++ contacts second :=
  List.filterMap_append

end Visit

namespace Search

variable {State Result Later : Type} (outside : Outside State)

def survey (table : Table) (state : State) :
    Search Result → Survey State Result
  | .finish result => ⟨result, table, state, []⟩
  | .ask .routers resume => survey table state (resume table.routers.toList)
  | .ask (.forget address) resume =>
      survey (table.forget address) state (resume ())
  | .ask (.outside request) resume =>
      let replied := outside request state
      (survey table replied.2 (resume replied.1)).following
        (Visit.ofReply request replied.1)

theorem survey_bind (table : Table) (state : State) (search : Search Result)
    (next : Result → Search Later) :
    survey outside table state (search >>= next) =
      let first := survey outside table state search
      (survey outside first.table first.state
        (next first.result)).following first.visits := by
  induction search generalizing table state with
  | finish result => rfl
  | ask inquiry resume induction =>
      cases inquiry with
      | routers => exact induction _ table state
      | forget address => exact induction () (table.forget address) state
      | outside request =>
          have rest := induction (outside request state).1 table
            (outside request state).2
          exact (congrArg (Survey.following _) rest).trans
            (Survey.following_following _ _ _)

end Search

namespace Discovery

def seeds (discovery : Discovery) : Except Error (List Address) → List Address
  | .ok addresses => addresses
  | .error _ => [discovery.initialRouter]

def sequence (discovery : Discovery) (known resolved : List Address) :
    List Address :=
  if discovery.startsWithInitial then
    resolved ++ known.filter (!resolved.contains ·)
  else known ++ resolved.filter (!known.contains ·)

theorem nodup_sequence (discovery : Discovery) {known resolved : List Address}
    (knownOnce : known.Nodup) (resolvedOnce : resolved.Nodup) :
    (discovery.sequence known resolved).Nodup := by
  have joined {first second : List Address} (firstOnce : first.Nodup)
      (secondOnce : second.Nodup) :
      (first ++ second.filter (!first.contains ·)).Nodup := by
    refine List.nodup_append.mpr
      ⟨firstOnce, secondOnce.sublist List.filter_sublist, ?_⟩
    intro address early other late same
    subst same
    simp [early] at late
  unfold sequence
  split
  · exact joined resolvedOnce knownOnce
  · exact joined knownOnce resolvedOnce

structure Asking {State : Type} (routers : List Address) (table : Table)
    (survey : Survey State (Finding × Roster)) : Prop where
  order : Visit.contacts survey.visits <+: routers
  unresolved : ∀ reply, .resolver reply ∉ survey.visits
  whole : survey.result.1 = .nothing →
    Visit.contacts survey.visits = routers ∧
      (∀ visit ∈ survey.visits, visit.Fails) ∧
        survey.table = routers.foldl .forget table

section Asking

variable {State : Type} {table : Table} {router : Address}
  {rest : List Address} {survey : Survey State (Finding × Roster)}

theorem asking_of_final {reply : Except Error Composition}
    (visits : survey.visits = [.router router reply])
    (final : survey.result.1 ≠ .nothing) :
    Asking (router :: rest) table survey where
  order := by
    rw [visits]
    exact ⟨rest, rfl⟩
  unresolved := by simp [visits]
  whole := fun nothing => absurd nothing final

theorem Asking.cons {error : Error}
    (asking : Asking rest (table.forget router) survey)
    (mendable : error.isFatal = false) :
    Asking (router :: rest) table
      (survey.following [.router router (.error error)]) where
  order := List.cons_prefix_cons.mpr ⟨rfl, asking.order⟩
  unresolved := by simpa [Survey.following] using asking.unresolved
  whole := by
    intro nothing
    rcases asking.whole nothing with ⟨contacts, fails, forgotten⟩
    refine ⟨congrArg (router :: ·) contacts, ?_, forgotten⟩
    intro visit member
    rcases List.mem_cons.mp member with same | later
    · exact same ▸ mendable
    · exact fails visit later

end Asking

variable {State : Type} (outside : Outside State) (table : Table)
  (state : State)

inductive Answered (tried : Roster) (router : Address) (rest : List Address) :
    Except Error Composition → Survey State (Finding × Roster) → Prop
  | found (composition : Composition) (later : State) :
      Answered tried router rest (.ok composition)
        ⟨(.found composition, tried), table, later, []⟩
  | fatal (error : Error) (later : State) (fatal : error.isFatal = true) :
      Answered tried router rest (.error error)
        ⟨(.fatal error, tried), table, later, []⟩
  | mendable (error : Error) (later : State)
      (mendable : error.isFatal = false) :
      Answered tried router rest (.error error)
        ((askEach .external tried rest).survey outside (table.forget router)
          later)

theorem answered_askEach (tried : Roster) (router : Address)
    (rest : List Address) :
    ∃ reply survey,
      Answered outside table (tried.insertAll [router]) router rest reply
          survey ∧
        (askEach .external tried (router :: rest)).survey outside table
          state = survey.following [.router router reply] := by
  -- The visit to the router comes first; its answer decides the rest.
  change ∃ reply survey, _ ∧ Survey.following
    [.router router (outside (.compose router) state).1]
    (Search.survey outside table (outside (.compose router) state).2 _) = _
  rcases outside (.compose router) state with ⟨reply, state⟩
  refine ⟨reply, _, ?_, rfl⟩
  cases reply with
  | ok composition => exact .found composition state
  | error error =>
      cases fatal : error.isFatal with
      | true =>
          simp only [Dialogue.embed, Dialogue.andThen, fatal, if_true]
          exact .fatal error _ fatal
      | false =>
          simp only [Dialogue.embed, Dialogue.andThen, fatal,
            Bool.false_eq_true, if_false]
          exact .mendable error _ fatal

theorem asking_askEach (tried : Roster) (routers : List Address) :
    Asking routers table
      ((askEach .external tried routers).survey outside table state) := by
  induction routers generalizing tried table state with
  | nil =>
      have ended : (askEach .external tried []).survey outside table state =
          ⟨(.nothing, tried), table, state, []⟩ := rfl
      rw [ended]
      exact ⟨List.nil_prefix, by simp, fun _ => ⟨rfl, by simp, rfl⟩⟩
  | cons router rest induction =>
      rcases answered_askEach outside table state tried router rest with
        ⟨reply, survey, answered, equal⟩
      rw [equal]
      cases answered with
      | found composition later => exact asking_of_final rfl nofun
      | fatal error later fatal => exact asking_of_final rfl nofun
      | mendable error later mendable =>
          exact (induction (table.forget router) later _).cons mendable

theorem survey_resolveInitial (discovery : Discovery) :
    ∃ reply later, discovery.resolveInitial.survey outside table state =
      ⟨discovery.seeds reply, table, later, [.resolver reply]⟩ := by
  change ∃ reply later, Survey.following
    [.resolver (outside (.resolve discovery.initialRouter) state).1]
    (Search.survey outside table
      (outside (.resolve discovery.initialRouter) state).2 _) =
      ⟨discovery.seeds reply, table, later, [.resolver reply]⟩
  rcases outside (.resolve discovery.initialRouter) state with ⟨reply, state⟩
  refine ⟨reply, ?_⟩
  cases reply with
  | ok addresses => exact ⟨state, rfl⟩
  | error error => exact ⟨_, rfl⟩

theorem orElse_cases (search : Search (Finding × Roster))
    (next : Roster → Search (Finding × Roster)) :
    let first := search.survey outside table state
    ((orElse search next).survey outside table state = first ∧
        first.result.1 ≠ .nothing) ∨
      (first.result.1 = .nothing ∧
        (orElse search next).survey outside table state =
          ((next first.result.2).survey outside first.table
            first.state).following first.visits) := by
  simp only [orElse, Search.survey_bind]
  rcases search.survey outside table state with
    ⟨⟨finding, tried⟩, reached, later, visits⟩
  have same : visits ++ [] = visits := List.append_nil visits
  cases finding with
  | nothing => exact .inr ⟨rfl, rfl⟩
  | found composition => exact .inl ⟨congrArg (Survey.mk _ _ _) same, nofun⟩
  | fatal error => exact .inl ⟨congrArg (Survey.mk _ _ _) same, nofun⟩

theorem survey_orElse {routers : List Address}
    {search : Search (Finding × Roster)}
    {next : Roster → Search (Finding × Roster)}
    {first : Survey State (Finding × Roster)}
    (surveyed : search.survey outside table state = first)
    (asking : Asking routers table first) :
    ((orElse search next).survey outside table state = first ∧
        first.result.1 ≠ .nothing) ∨
      ∃ tried, Visit.contacts first.visits = routers ∧
        (∀ visit ∈ first.visits, visit.Fails) ∧
          (orElse search next).survey outside table state =
            ((next tried).survey outside (routers.foldl .forget table)
              first.state).following first.visits := by
  have cases := orElse_cases outside table state search next
  rw [surveyed] at cases
  rcases cases with settled | ⟨nothing, equal⟩
  · exact .inl settled
  · rcases asking.whole nothing with ⟨contacts, fails, forgotten⟩
    exact .inr ⟨first.result.2, contacts, fails, by rw [equal, forgotten]⟩

/-- What holds of a pass, if the table lists some known routers at its start.
The lists of `resolved` addresses are those that the resolver may have
answered; if it was not asked, that is any list. -/
structure OrderlyPass (discovery : Discovery) (known : List Address)
    (survey : Survey State (Finding × Roster)) : Prop where
  order : ∀ resolved,
    (∀ reply, .resolver reply ∈ survey.visits →
      discovery.seeds reply = resolved) →
    Visit.contacts survey.visits <+: discovery.sequence known resolved
  whole : survey.result.1 = .nothing → ∀ resolved,
    (∀ reply, .resolver reply ∈ survey.visits →
      discovery.seeds reply = resolved) →
    Visit.contacts survey.visits = discovery.sequence known resolved
  once : (Visit.resolutions survey.visits).length ≤ 1
  /-- If the known routers come first, all of them have failed before the
  resolver is asked. -/
  late : discovery.startsWithInitial = false → ∀ reply,
    .resolver reply ∈ survey.visits →
      ∃ before after, survey.visits = before ++ .resolver reply :: after ∧
        Visit.contacts before = known ∧ ∀ visit ∈ before, visit.Fails
  distinct :
    (∀ reply, .resolver reply ∈ survey.visits →
      (discovery.seeds reply).Nodup) →
    (Visit.contacts survey.visits).Nodup

section Orderly

variable {discovery : Discovery} {known : List Address}
  {survey : Survey State (Finding × Roster)} (knownOnce : known.Nodup)
include knownOnce

theorem orderly_of_resolved {before : List Visit}
    {reply : Except Error (List Address)}
    (unresolvedBefore : ∀ reply, .resolver reply ∉ before)
    (unresolvedAfter : ∀ reply, .resolver reply ∉ survey.visits)
    (order : Visit.contacts before ++ Visit.contacts survey.visits <+:
      discovery.sequence known (discovery.seeds reply))
    (whole : survey.result.1 = .nothing →
      Visit.contacts before ++ Visit.contacts survey.visits =
        discovery.sequence known (discovery.seeds reply))
    (late : discovery.startsWithInitial = false →
      Visit.contacts before = known ∧ ∀ visit ∈ before, visit.Fails) :
    OrderlyPass discovery known
      (survey.following (before ++ [.resolver reply])) := by
  have visits : (survey.following (before ++ [.resolver reply])).visits =
      before ++ .resolver reply :: survey.visits := by
    simp [Survey.following]
  have contacts : Visit.contacts (before ++ .resolver reply :: survey.visits) =
      Visit.contacts before ++ Visit.contacts survey.visits :=
    Visit.contacts_append _ _
  have only {other : Except Error (List Address)}
      (asked : .resolver other ∈ before ++ .resolver reply :: survey.visits) :
      other = reply := by
    have := unresolvedBefore other
    have := unresolvedAfter other
    simp_all
  have member : .resolver reply ∈ before ++ .resolver reply :: survey.visits :=
    List.mem_append_right _ List.mem_cons_self
  rw [← contacts] at order whole
  constructor
  · rw [visits]
    exact fun resolved answers => answers reply member ▸ order
  · rw [visits]
    exact fun nothing resolved answers => answers reply member ▸ whole nothing
  · have split : Visit.resolutions
        (before ++ .resolver reply :: survey.visits) =
          Visit.resolutions before ++
            reply :: Visit.resolutions survey.visits :=
      List.filterMap_append
    rw [visits, split, Visit.resolutions_eq_nil unresolvedBefore,
      Visit.resolutions_eq_nil unresolvedAfter]
    exact Nat.le_refl 1
  · rw [visits]
    intro starts other asked
    rw [only asked]
    exact ⟨before, survey.visits, rfl, late starts⟩
  · rw [visits]
    exact fun answers => order.sublist.nodup
      (discovery.nodup_sequence knownOnce (answers reply member))

theorem orderly_of_unresolved
    (unresolved : ∀ reply, .resolver reply ∉ survey.visits)
    (starts : discovery.startsWithInitial = false)
    (order : Visit.contacts survey.visits <+: known)
    (final : survey.result.1 ≠ .nothing) :
    OrderlyPass discovery known survey where
  order := by
    intro resolved _
    simp only [sequence, starts, Bool.false_eq_true, if_false]
    exact order.trans (List.prefix_append _ _)
  whole := fun nothing => absurd nothing final
  once := by
    rw [Visit.resolutions_eq_nil unresolved]
    exact Nat.zero_le 1
  late := fun _ reply asked => absurd asked (unresolved reply)
  distinct := fun _ => order.sublist.nodup knownOnce

end Orderly

theorem orderly_knownRoutersFirst (discovery : Discovery) (tried : Roster)
    (starts : discovery.startsWithInitial = false) :
    OrderlyPass discovery table.routers.toList
      ((discovery.knownRoutersFirst .external tried).survey outside table
        state) := by
  let known := table.routers.toList
  have asking := asking_askEach outside table state tried known
  have start (next : List Address → Search (Finding × Roster)) :
      (Search.routers >>= next).survey outside table state =
        (next known).survey outside table state := rfl
  rw [knownRoutersFirst_eq, start]
  rcases survey_orElse outside table state rfl asking with
    ⟨equal, final⟩ | ⟨reached, contacts, fails, equal⟩
  · rw [equal]
    exact orderly_of_unresolved table.routers.nodup asking.unresolved starts
      asking.order final
  · rw [equal]
    let forgotten := known.foldl .forget table
    let first := (askEach .external tried known).survey outside table state
    rcases survey_resolveInitial outside forgotten first.state discovery with
      ⟨reply, later, resolved⟩
    -- Here they are left out by the list that was read at the start.
    let others := (discovery.seeds reply).filter (!known.contains ·)
    have next := asking_askEach outside forgotten later reached others
    rw [Search.survey_bind, resolved]
    simp only [Survey.following_following]
    have sequence : discovery.sequence known (discovery.seeds reply) =
        known ++ others := by
      simp [Discovery.sequence, starts, others]
    refine orderly_of_resolved table.routers.nodup asking.unresolved
      next.unresolved ?_ ?_ fun _ => ⟨contacts, fails⟩
    · rw [contacts, sequence]
      exact (List.prefix_append_right_inj known).mpr next.order
    · intro nothing
      rw [contacts, sequence]
      exact congrArg (known ++ ·) (next.whole nothing).1

theorem orderly_initialRouterFirst (discovery : Discovery) (tried : Roster)
    (starts : discovery.startsWithInitial = true) :
    OrderlyPass discovery table.routers.toList
      ((discovery.initialRouterFirst .external tried).survey outside table
        state) := by
  rcases survey_resolveInitial outside table state discovery with
    ⟨reply, later, resolved⟩
  let seeds := discovery.seeds reply
  let others := table.routers.toList.filter (!seeds.contains ·)
  have asking := asking_askEach outside table later tried seeds
  have sequence : discovery.sequence table.routers.toList seeds =
      seeds ++ others := by
    simp [Discovery.sequence, starts, others]
  rw [initialRouterFirst_eq, Search.survey_bind, resolved]
  simp only
  rcases survey_orElse outside table later rfl asking with
    ⟨equal, final⟩ | ⟨reached, contacts, fails, equal⟩
  · rw [equal]
    refine @orderly_of_resolved _ _ _ _ table.routers.nodup [] reply (by simp)
      asking.unresolved ?_ (fun nothing => absurd nothing final)
      (by simp [starts])
    rw [sequence]
    exact asking.order.trans (List.prefix_append _ _)
  · rw [equal]
    let forgotten := seeds.foldl .forget table
    let first := (askEach .external tried seeds).survey outside table later
    -- The routers that have failed are no longer in the table, so that they
    -- need not be left out of those that are read from it.
    have left : forgotten.routers.toList = others :=
      table.members_forgetAll seeds .route
    let last := (askEach .external reached forgotten.routers.toList).survey
      outside forgotten first.state
    have next : Asking forgotten.routers.toList forgotten last :=
      asking_askEach outside forgotten first.state reached _
    have whole : Visit.contacts (first.visits ++ last.visits) =
        seeds ++ Visit.contacts last.visits := by
      rw [Visit.contacts_append, contacts]
    refine @orderly_of_resolved _ _ _ _ table.routers.nodup [] reply (by simp)
      ?_ ?_ ?_ (by simp [starts])
    · intro reply member
      rcases List.mem_append.mp member with early | late
      · exact asking.unresolved reply early
      · exact next.unresolved reply late
    · change Visit.contacts (first.visits ++ last.visits) <+: _
      rw [whole, sequence, ← left]
      exact (List.prefix_append_right_inj seeds).mpr next.order
    · intro nothing
      change Visit.contacts (first.visits ++ last.visits) = _
      rw [whole, sequence, ← left, (next.whole nothing).1]

theorem orderly_external (discovery : Discovery) (tried : Roster) :
    OrderlyPass discovery table.routers.toList
      ((discovery.pass .external tried).survey outside table state) := by
  unfold pass
  split
  · rename_i starts
    exact orderly_initialRouterFirst outside table state discovery tried starts
  · rename_i starts
    exact orderly_knownRoutersFirst outside table state discovery tried
      (Bool.eq_false_iff.mpr starts)

end Discovery

/-! ## Providers of all kinds -/

theorem Dialogue.andThen_assoc {Request : Type} {Reply : Request → Type}
    {First Second Third : Type} (dialogue : Dialogue Reply First)
    (next : First → Dialogue Reply Second)
    (last : Second → Dialogue Reply Third) :
    (dialogue.andThen next).andThen last =
      dialogue.andThen fun result => (next result).andThen last := by
  induction dialogue with
  | finish result => rfl
  | ask asked resume induction => exact congrArg (ask asked) (funext induction)

def Outside.through {State : Type} (outside : Outside State)
    (provider : Provider) : Outside State
  | .compose router => (provider router).run outside
  | request => outside request

def Survey.outcome {State Result : Type} (survey : Survey State Result) :
    Result × Table × State :=
  (survey.result, survey.table, survey.state)

namespace Search

/-- The search with a provider in the place of the world outside. -/
def supply {Result : Type} (provider : Provider) :
    Search Result → Search Result
  | .finish result => .finish result
  | .ask (.outside (.compose router)) resume =>
      (ofExchange (provider router)).andThen fun reply =>
        supply provider (resume reply)
  | .ask inquiry resume =>
      .ask inquiry fun reply => supply provider (resume reply)

variable {State Result Later : Type} (provider : Provider)

theorem supply_bind (search : Search Result) (next : Result → Search Later) :
    (search >>= next).supply provider =
      search.supply provider >>= fun result =>
        (next result).supply provider := by
  induction search with
  | finish result => rfl
  | ask inquiry resume induction =>
      cases inquiry with
      | routers => exact congrArg (Dialogue.ask _) (funext induction)
      | forget address => exact congrArg (Dialogue.ask _) (funext induction)
      | outside request =>
          cases request with
          | compose router =>
              refine Eq.trans ?_ (Dialogue.andThen_assoc _ _ _).symm
              exact congrArg _ (funext induction)
          | _ => exact congrArg (Dialogue.ask _) (funext induction)

variable (outside : Outside State)

theorem survey_ofExchange (exchange : Exchange Result) (table : Table)
    (state : State) :
    ((ofExchange exchange).survey outside table state).outcome =
      ((exchange.run outside state).1, table,
        (exchange.run outside state).2) := by
  induction exchange generalizing state with
  | finish result => rfl
  | ask request resume induction =>
      exact induction (outside request state).1 (outside request state).2

/-- It makes no difference whether the provider is a part of the search or of
the world outside. -/
theorem survey_supply (search : Search Result) (table : Table)
    (state : State) :
    ((search.supply provider).survey outside table state).outcome =
      (search.survey (outside.through provider) table state).outcome := by
  induction search generalizing table state with
  | finish result => rfl
  | ask inquiry resume induction =>
      cases inquiry with
      | routers => exact induction _ table state
      | forget address => exact induction () (table.forget address) state
      | outside request =>
          cases request with
          | compose router =>
              have first := survey_ofExchange outside (provider router) table
                state
              simp only [Survey.outcome, Prod.mk.injEq] at first
              have bound := survey_bind outside table state
                (ofExchange (provider router))
                fun reply => supply provider (resume reply)
              simp only [first] at bound
              exact (congrArg Survey.outcome bound).trans (induction _ table _)
          | _ => exact induction _ table _

end Search

namespace Discovery

variable (discovery : Discovery) (provider : Provider)

theorem orElse_supply (search : Search (Finding × Roster))
    (next : Roster → Search (Finding × Roster)) :
    (orElse search next).supply provider =
      orElse (search.supply provider) fun tried =>
        (next tried).supply provider := by
  unfold orElse
  rw [Search.supply_bind]
  refine congrArg (search.supply provider >>= ·) (funext ?_)
  rintro ⟨finding, tried⟩
  cases finding <;> rfl

theorem askEach_supply (tried : Roster) (routers : List Address) :
    (askEach .external tried routers).supply provider =
      askEach provider tried routers := by
  induction routers generalizing tried with
  | nil => rfl
  | cons router rest induction =>
      refine congrArg (Search.ofExchange (provider router) >>= ·) (funext ?_)
      intro reply
      cases reply with
      | ok composition => rfl
      | error error =>
          cases fatal : error.isFatal with
          | true =>
              simp only [Dialogue.embed, Dialogue.andThen, fatal, if_true]
              rfl
          | false =>
              simp only [Dialogue.embed, Dialogue.andThen, fatal,
                Bool.false_eq_true, if_false, ← induction]
              rfl

theorem resolveInitial_supply :
    discovery.resolveInitial.supply provider = discovery.resolveInitial := by
  refine congrArg (Dialogue.ask _) (funext ?_)
  intro reply
  cases reply <;> rfl

/-- A pass is the one that leaves all questions to the world outside, with the
provider in the place of the world. -/
theorem pass_supply (tried : Roster) :
    (discovery.pass .external tried).supply provider =
      discovery.pass provider tried := by
  have routers : Search.routers.supply provider = Search.routers := rfl
  unfold pass
  split
  · simp only [initialRouterFirst_eq, Search.supply_bind, orElse_supply,
      askEach_supply, resolveInitial_supply, routers]
  · simp only [knownRoutersFirst_eq, Search.supply_bind, orElse_supply,
      askEach_supply, resolveInitial_supply, routers]

/-- Every pass asks the routers in order, for any settings, provider and world
outside, and from any table on. -/
theorem orderlyPass_survey {State : Type} (outside : Outside State)
    (tried : Roster) (table : Table) (state : State) :
    let survey := (discovery.pass .external tried).survey
      (outside.through provider) table state
    OrderlyPass discovery table.routers.toList survey ∧
      ((discovery.pass provider tried).survey outside table state).outcome =
        survey.outcome := by
  constructor
  · exact orderly_external (outside.through provider) table state discovery
      tried
  · rw [← pass_supply]
    exact Search.survey_supply provider outside _ table state

end Discovery

end ClusterRouting
