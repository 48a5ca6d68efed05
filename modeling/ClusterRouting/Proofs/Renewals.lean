import ClusterRouting.Proofs.Consultations
import ClusterRouting.Proofs.Expiry
import ClusterRouting.Proofs.Requests

/-! Renewals: what a refresh that succeeds is good for.

With the provider that runs the routing procedure, a table that a refresh has
just installed has routers and readers and has not expired. So a caller who
reads, and who looks before anything else happens to the table, is sent to a
server. -/

namespace ClusterRouting

def Composition.Told (now : Timestamp) (composition : Composition) : Prop :=
  ∃ records, Provider.Sound now composition records

namespace Provider

theorem finds_settle (response : Except Error Procedure.Response)
    (now : Timestamp) :
    (Search.ofExchange (settle response)).Yields
      (fun now reply => ∀ composition, reply = .ok composition →
        composition.Told now) now := by
  rcases settle_cases response with ⟨error, equal⟩ | ⟨query, record, equal⟩
  · rw [equal]
    intro composition told
    cases told
  · rw [equal]
    intro composition told
    exact ⟨[record], validate_ok_iff.mp (mapError_eq_ok_iff.mp told)⟩

/-- The clock is read after the last reply that takes time. -/
theorem finds_procedure (context : Context) :
    (procedure context).Finds fun now composition => composition.Told now := by
  intro router now
  rw [procedure_eq]
  intro reply moment
  cases reply with
  | error error => rintro composition ⟨⟩
  | ok connection =>
      intro ran _ released last
      exact finds_settle _ last

end Provider

/-! ## Tables -/

structure Table.Usable (table : Table) (now : Timestamp) : Prop where
  routers : table.routers.toList ≠ []
  readers : table.readers.toList ≠ []
  expires : now ≤ table.expires

theorem Roster.update_ne_nil {roster : Roster} {incoming : List Address}
    (nonempty : incoming ≠ []) : (roster.update incoming).toList ≠ [] := by
  rcases List.exists_mem_of_ne_nil incoming nonempty with ⟨address, member⟩
  exact List.ne_nil_of_mem (mem_toList_update.mpr member)

theorem Composition.Told.usable {now : Timestamp} {composition : Composition}
    (told : composition.Told now) (table : Table) :
    (table.update composition).Usable now := by
  rcases told with ⟨_, record, parsed, routers, readers⟩
  rcases expires_of_parse parsed with ⟨ttl, expires⟩
  exact {
    routers := Roster.update_ne_nil routers
    readers := Roster.update_ne_nil readers
    expires := by
      change now ≤ composition.expires
      rw [expires]
      exact le_expiry now ttl }

/-! ## Callers -/

namespace Step

variable {step : Step} {caller place : Nat} {mode : AccessMode}

/-- A caller whose refresh has succeeded asks the pool for a server, if the
table has one when it looks. -/
theorem asked_of_look (event : step.event = .look caller)
    (waiting : step.before.callers[caller]? =
      some (.waiting (.acquire mode) place))
    {table : Table}
    (ended : step.before.balancer.refreshes[place]? =
      some (.ended (.ok table)))
    (servers : (step.before.balancer.table.servers mode).toList ≠ []) :
    ∃ address ∈ (step.before.balancer.table.servers mode).toList,
      step.asked caller = [address] ∧
        step.after.callers[caller]? =
          some (.connecting mode [] address) := by
  have there := (List.getElem?_eq_some_iff.mp waiting).1
  cases step.glance event with
  | early unfinished result =>
      exact absurd (unfinished _ _ _ waiting ended)
        (by simp [Refresh.isUnfinished])
  | goesOn purpose other found joined _ result =>
      cases waiting.symm.trans joined
      change step.result =
        step.before.attempt step.surroundings caller mode [] at result
      cases step.before.attempt_cases step.surroundings caller mode [] with
      | asks address selection notices listed unfailed equal =>
          rw [equal] at result
          refine ⟨address, listed, ?_, ?_⟩
          · rw [asked_of_result result]
            simp
          · simp [after_of_result result, System.setCaller, there]
      | lacks selection notices exhausted equal =>
          rcases List.exists_mem_of_ne_nil _ servers with ⟨address, member⟩
          exact absurd (exhausted address member) List.not_mem_nil
  | fails purpose other error joined failed result =>
      cases waiting.symm.trans joined
      cases ended.symm.trans failed
  | notices purpose other fault joined crashed result =>
      cases waiting.symm.trans joined
      cases ended.symm.trans crashed

end Step

/-- A caller who reads looks for the outcome of a refresh that has succeeded,
before anything else has happened to the table. -/
structure PromptLook (steps : List Step) (caller : Nat)
    (settling looking : Step) : Prop where
  undisturbed : ∃ earlier between later,
    steps = earlier ++ settling :: between ++ looking :: later ∧
      ∀ step ∈ between, step.deeds = []
  succeeded : ∃ place progress composition,
    settling.Settles place progress (.ok composition) ∧
      looking.before.callers[caller]? =
        some (.waiting (.acquire .read) place)
  looks : looking.event = .look caller

structure UsableRefreshes (steps : List Step) : Prop where
  parses : ∀ step ∈ steps, ∀ place progress composition,
    step.Settles place progress (.ok composition) →
      ∃ record, Composition.parse record step.surroundings.now =
        .ok composition
  usable : ∀ step ∈ steps, ∀ place progress composition,
    step.Settles place progress (.ok composition) →
      step.after.balancer.table.Usable step.surroundings.now
  serves : ∀ settling looking caller,
    PromptLook steps caller settling looking →
      ∃ address ∈ settling.after.balancer.table.readers.toList,
        looking.asked caller = [address]
  /-- The call does not come to an end before it has asked for a server. -/
  tries : ∀ settling looking caller,
    PromptLook steps caller settling looking →
      ∀ earlier step later, steps = earlier ++ step :: later →
        ∀ outcome, step.Ends caller outcome →
          Step.requests caller earlier ≠ []

/-- Of two elements of a list, one comes first. -/
theorem split_cases {Element : Type}
    {before after earlier later : List Element} {left right : Element}
    (equal : before ++ left :: after = earlier ++ right :: later) :
    left ∈ earlier ∨ left = right ∨ right ∈ before := by
  rcases List.append_eq_append_iff.mp equal with
    ⟨rest, prior, same⟩ | ⟨rest, prior, same⟩
  · cases rest with
    | nil => exact .inr (.inl (List.cons.inj same).1)
    | cons head tail =>
        rw [(List.cons.inj same).1, prior]
        exact .inl (by simp)
  · cases rest with
    | nil => exact .inr (.inl (List.cons.inj same).1.symm)
    | cons head tail =>
        rw [(List.cons.inj same).1, prior]
        exact .inr (.inr (by simp))

namespace System

theorem ended_run {system : System} {place : Nat}
    {outcome : Except Error Table}
    (ended : system.balancer.refreshes[place]? = some (.ended outcome))
    (inputs : List (Surroundings × Event)) :
    (system.run inputs).balancer.refreshes[place]? = some (.ended outcome) :=
  @run_preserves
    (fun system =>
      system.balancer.refreshes[place]? = some (.ended outcome))
    (fun _ => Step.ended_after) _ ended inputs

theorem table_of_undisturbed {system : System}
    {inputs : List (Surroundings × Event)}
    (undisturbed : ∀ step ∈ system.trace inputs, step.deeds = []) :
    (system.run inputs).balancer.table = system.balancer.table := by
  rw [run_table, List.flatMap_eq_nil_iff.mpr undisturbed]
  rfl

end System

namespace PromptLook

variable {system : System} {inputs : List (Surroundings × Event)}
  {caller : Nat} {settling looking : Step}
  (prompt : PromptLook (system.trace inputs) caller settling looking)
include prompt

/-- The caller finds the table that the refresh has installed. -/
theorem found :
    looking.before.balancer.table = settling.after.balancer.table ∧
      ∃ place table,
        looking.before.callers[caller]? =
            some (.waiting (.acquire .read) place) ∧
          looking.before.balancer.refreshes[place]? =
            some (.ended (.ok table)) := by
  rcases prompt.undisturbed with
    ⟨earlier, between, later, split, undisturbed⟩
  rcases prompt.succeeded with
    ⟨place, progress, composition, settles, waiting⟩
  rcases Step.settled settles with ⟨_, _, _, ended⟩
  rw [List.append_assoc, List.cons_append] at split
  rcases System.trace_split_cons split with ⟨_, _, rest, _, _, _, later⟩
  rcases System.trace_split_cons later.symm with
    ⟨second, input, _, _, rfl, rfl, _⟩
  exact ⟨System.table_of_undisturbed undisturbed, place, _, waiting,
    System.ended_run ended second⟩

theorem asks (readers : settling.after.balancer.table.readers.toList ≠ []) :
    ∃ address ∈ settling.after.balancer.table.readers.toList,
      looking.asked caller = [address] ∧
        looking.after.callers[caller]? =
          some (.connecting .read [] address) := by
  rcases prompt.found with ⟨table, place, found, waiting, ended⟩
  have asked := Step.asked_of_look prompt.looks waiting ended
  rw [table] at asked
  exact asked readers

/-- The call is still under way when the caller looks, so that a step that ends
it comes after. -/
theorem looking_of_ends
    (readers : settling.after.balancer.table.readers.toList ≠ [])
    {earlier later : List Step} {step : Step} {outcome : Outcome}
    (split : system.trace inputs = earlier ++ step :: later)
    (ends : step.Ends caller outcome) : looking ∈ earlier := by
  rcases prompt.asks readers with ⟨address, _, _, connecting⟩
  rcases prompt.found with ⟨_, place, _, waiting, _⟩
  rcases prompt.undisturbed with ⟨before, between, after, whole, _⟩
  rcases split_cases (whole.symm.trans split) with
    first | same | behind
  · exact first
  · rw [← same] at ends
    cases connecting.symm.trans ends.2
  · rcases System.trace_split_cons whole with
      ⟨first, input, _, _, reached, rfl, _⟩
    rw [reached] at behind
    -- A call that had ended before would not wait when the caller looks.
    have done := System.done_of_mem_trace behind ends.2
    cases waiting.symm.trans done

end PromptLook

namespace System

namespace Unused

variable {system : System} (unused : system.Unused)
  (finds : system.balancer.provider.Finds fun now composition =>
    composition.Told now)
  {inputs : List (Surroundings × Event)}
include unused finds

theorem told {step : Step} (member : step ∈ system.trace inputs)
    {place : Nat} {progress : Progress (Except Error Composition)}
    {composition : Composition}
    (settles : step.Settles place progress (.ok composition)) :
    composition.Told step.surroundings.now :=
  Step.property_of_settles (unused.justified finds member) settles

theorem usable {step : Step} (member : step ∈ system.trace inputs)
    {place : Nat} {progress : Progress (Except Error Composition)}
    {composition : Composition}
    (settles : step.Settles place progress (.ok composition)) :
    step.after.balancer.table.Usable step.surroundings.now := by
  rcases Step.settled settles with ⟨_, _, installed, _⟩
  rw [installed]
  exact (unused.told finds member settles).usable progress.table

theorem readers {caller : Nat} {settling looking : Step}
    (prompt : PromptLook (system.trace inputs) caller settling looking) :
    settling.after.balancer.table.readers.toList ≠ [] := by
  rcases prompt.undisturbed with ⟨_, _, _, split, _⟩
  rcases prompt.succeeded with ⟨_, _, _, settles, _⟩
  have member : settling ∈ system.trace inputs := by simp [split]
  exact (unused.usable finds member settles).readers

end Unused

/-- With the provider that runs the routing procedure, every refresh that
succeeds installs a table that can be used, whatever the routers tell and
whatever the clock shows. -/
theorem usableRefreshes_run (discovery : Discovery) (context : Context)
    (table : Table) (selection : Selection)
    (inputs : List (Surroundings × Event)) :
    UsableRefreshes ((opened discovery (Provider.procedure context) table
      selection).trace inputs) := by
  have unused : (opened discovery (Provider.procedure context) table
      selection).Unused := ⟨rfl, rfl⟩
  have finds := Provider.finds_procedure context
  exact {
    parses := by
      intro step member place progress composition settles
      rcases unused.told finds member settles with ⟨_, record, parsed, _, _⟩
      exact ⟨record, parsed⟩
    usable := fun _ member _ _ _ settles =>
      unused.usable finds member settles
    serves := by
      intro settling looking caller prompt
      rcases prompt.asks (unused.readers finds prompt) with
        ⟨address, listed, asked, _⟩
      exact ⟨address, listed, asked⟩
    tries := by
      intro settling looking caller prompt earlier step later split outcome
        ends
      have readers := unused.readers finds prompt
      have member := prompt.looking_of_ends readers split ends
      rcases prompt.asks readers with ⟨address, _, asked, _⟩
      have requested : address ∈ Step.requests caller earlier :=
        List.mem_flatMap.mpr ⟨looking, member, by simp [asked]⟩
      exact List.ne_nil_of_mem requested }

end System

/-- The only reader of a cluster without a leader is asked for. -/
example :
    let system := System.opened Handover.discovery (.procedure .empty)
      (.ofRouters [Handover.router]) Handover.selection
    let events : List Event := [.arrive (.acquire .read), .proceed,
      .answer (.acquired (.ok ⟨Handover.router, none, 0⟩)),
      .answer (.ran (.ok [Handover.leaderless])),
      .answer (.released (.ok ())), .look 0]
    Step.requests 0 (system.trace (events.map (Handover.surroundings, ·))) =
      [Handover.follower] := by
  decide +kernel

end ClusterRouting
