import ClusterRouting.Proofs.Flight

/-! Deeds: what changes the routing table, and of which addresses the pool's
connections are dropped with it.

A table changes in three ways only. A search forgets routers that fail, a
report leaves a server out, and a refresh installs a composition. -/

namespace ClusterRouting

def Search.forgotten {Result : Type} (now : Timestamp) (table : Table) :
    Search Result → List Address
  | .finish _ => []
  | .ask .routers resume => forgotten now table (resume table.routers.toList)
  | .ask (.forget address) resume =>
      address :: forgotten now (table.forget address) (resume ())
  | .ask (.outside .clock) resume => forgotten now table (resume now)
  | .ask (.outside (.note _)) resume => forgotten now table (resume ())
  | .ask (.outside _) _ => []

theorem Search.advance_table {Result : Type} (now : Timestamp) (table : Table)
    (search : Search Result) :
    (search.advance now table).table =
      (search.forgotten now table).foldl Table.forget table := by
  induction search generalizing table with
  | finish result => rfl
  | ask inquiry resume induction =>
      cases inquiry with
      | routers => exact induction _ table
      | forget address => exact induction () (table.forget address)
      | outside request =>
          cases request with
          | clock => exact induction now table
          | note notice => exact induction () table
          | acquire address => rfl
          | run connection query parameters => rfl
          | release connection => rfl
          | compose router => rfl
          | resolve address => rfl
          | pause delay => rfl

def Report.purged : Report → List Address
  | .unreachable address => [address]
  | .refusesWrites _ => []

def Table.report (table : Table) : Report → Table
  | .unreachable address => table.forget address
  | .refusesWrites address => table.removeWriter address

namespace Step

def purged (step : Step) : List Address :=
  Effect.purges step.effects

def forgotten (step : Step) : List Address :=
  match step.before.balancer.turn? step.event with
  | some (_, search) =>
      search.forgotten step.surroundings.now step.before.balancer.table
  | none => []

def reported? (step : Step) : Option Report :=
  match step.event with
  | .report report => some report
  | .pooled caller (.error error) =>
      match step.before.callers[caller]? with
      | some (.connecting _ _ address) =>
          if error.isConnectivity then some (.unreachable address) else none
      | _ => none
  | _ => none

def installed? (step : Step) : Option Composition :=
  match step.progress? with
  | some (_, progress) =>
      match progress.stop with
      | .finish (.ok composition) => some composition
      | _ => none
  | none => none

def searched (step : Step) : Table :=
  step.forgotten.foldl Table.forget step.before.balancer.table

inductive Change (step : Step) : Prop
  | searches
      (unreported : step.reported? = none)
      (uninstalled : step.installed? = none)
      (table : step.after.balancer.table = step.searched)
      (purged : step.purged = [])
  | reports (report : Report)
      (reported : step.reported? = some report)
      (unsearched : step.forgotten = [])
      (uninstalled : step.installed? = none)
      (table : step.after.balancer.table =
        step.before.balancer.table.report report)
      (purged : step.purged = report.purged)
  | installs (place : Nat)
      (progress : Progress (Except Error Composition))
      (composition : Composition)
      (settles : step.Settles place progress (.ok composition))
      (unreported : step.reported? = none)
      (installed : step.installed? = some composition)
      (table : step.after.balancer.table = step.searched.update composition)
      (purged : step.purged = (step.searched.removed composition).toList)

variable {step : Step}

theorem purged_of_result {system : System} {effects : List Effect}
    (equal : step.result = (system, effects)) :
    step.purged = Effect.purges effects := by
  rw [purged, effects_of_result equal]

theorem mem_purged {address : Address} :
    address ∈ step.purged ↔ .purge address ∈ step.effects :=
  Effect.mem_purges

theorem installed_iff {composition : Composition} :
    step.installed? = some composition ↔
      ∃ place progress, step.Settles place progress (.ok composition) := by
  unfold installed? Settles
  constructor
  · intro installed
    split at installed
    · rename_i place progress progressed
      split at installed
      · rename_i stop
        cases installed
        exact ⟨place, progress, progressed, stop⟩
      · cases installed
    · cases installed
  · rintro ⟨place, progress, progressed, stop⟩
    simp [progressed, stop]

/-- A step that is not meant for a refresh and on which nothing is left out. -/
theorem change_of_idle {system : System} {effects : List Effect}
    (turn : step.before.balancer.turn? step.event = none)
    (unreported : step.reported? = none)
    (equal : step.result = (system, effects))
    (table : system.balancer.table = step.before.balancer.table)
    (purged : Effect.purges effects = []) : step.Change := by
  have forgotten : step.forgotten = [] := by simp [Step.forgotten, turn]
  refine .searches unreported (by simp [installed?, progress?, turn]) ?_
    ((purged_of_result equal).trans purged)
  rw [after_of_result equal, table, searched, forgotten]
  rfl

theorem searched_of_progress {place : Nat}
    {progress : Progress (Except Error Composition)}
    (progressed : step.progress? = some (place, progress)) :
    step.searched = progress.table := by
  rcases turn_of_progress progressed with ⟨search, turn, rfl⟩
  rw [Search.advance_table, searched, forgotten, turn]

theorem change_turn {place : Nat}
    {search : Search (Except Error Composition)}
    (turn : step.before.balancer.turn? step.event = some (place, search)) :
    step.Change := by
  have result := step.result_of_carryOn turn
  have unreported : step.reported? = none := by
    unfold reported?
    split
    · rename_i event
      rw [event] at turn
      cases turn
    · rename_i event
      rw [event] at turn
      cases turn
    · rfl
  have progressed : step.progress? = some (place,
      search.advance step.surroundings.now step.before.balancer.table) := by
    simp [progress?, turn]
  have searched := searched_of_progress progressed
  rcases step.before.balancer.carryOn_cases step.surroundings.now place search
    with ⟨reached, stop, equal⟩ | ⟨request, resume, stop, equal⟩
  · have settles : step.Settles place _ reached := ⟨progressed, stop⟩
    have table := (settled settles).2.2.1
    rw [← searched] at table
    have purged := purged_of_result result
    rw [equal] at purged
    cases reached with
    | ok composition =>
        refine .installs place _ composition settles unreported
          (installed_iff.mpr ⟨place, _, settles⟩) table ?_
        simpa [← searched] using purged
    | error error =>
        exact .searches unreported (by simp [installed?, progressed, stop])
          table (by simpa using purged)
  · rw [equal] at result
    refine .searches unreported (by simp [installed?, progressed, stop]) ?_ ?_
    · rw [after_of_result result, searched]
    · simp [purged_of_result result]

/-- A caller for whom the table is fresh enough does not change it. -/
theorem change_of_advance {system : System} {caller : Nat}
    {result : System × List Effect}
    (advance : system.Advance step.surroundings caller result)
    (turn : step.before.balancer.turn? step.event = none)
    (unreported : step.reported? = none) (equal : step.result = result)
    (table : system.balancer.table = step.before.balancer.table) :
    step.Change := by
  rcases advance.moved with ⟨selection, state, moved, _⟩
  exact change_of_idle turn unreported equal (by rw [moved]; exact table)
    advance.purged

theorem change_arrival {purpose : Purpose}
    (event : step.event = .arrive purpose) (arrival : step.Arrival purpose) :
    step.Change := by
  have turn : step.before.balancer.turn? step.event = none := by
    rw [event]
    rfl
  have unreported : step.reported? = none := by simp [reported?, event]
  cases arrival with
  | refused closed result =>
      exact change_of_idle turn unreported result rfl rfl
  | joins place isOpen held result =>
      exact change_of_idle turn unreported result rfl rfl
  | starts text isOpen free stale result =>
      exact change_of_idle turn unreported result rfl rfl
  | enters isOpen free fresh result =>
      exact change_of_advance (System.advance_served _ _ _ purpose) turn
        unreported result rfl

theorem change_glance {caller : Nat} (event : step.event = .look caller)
    (glance : step.Glance caller) : step.Change := by
  have turn : step.before.balancer.turn? step.event = none := by
    rw [event]
    rfl
  have unreported : step.reported? = none := by simp [reported?, event]
  cases glance with
  | early unfinished result =>
      exact change_of_idle turn unreported result rfl rfl
  | goesOn purpose place table waiting ended result =>
      exact change_of_advance (System.advance_served _ _ _ purpose) turn
        unreported result rfl
  | fails purpose place error waiting ended result =>
      exact change_of_idle turn unreported result rfl rfl
  | notices purpose place fault waiting crashed result =>
      exact change_of_idle turn unreported result rfl rfl

theorem change_of_report {report : Report} {system : System}
    {effects : List Effect}
    (turn : step.before.balancer.turn? step.event = none)
    (reported : step.reported? = some report)
    (equal : step.result = (system, effects))
    (table : system.balancer.table =
      step.before.balancer.table.report report)
    (purged : Effect.purges effects = report.purged) :
    step.Change := by
  refine .reports report reported (by simp [forgotten, turn])
    (by simp [installed?, progress?, turn]) ?_
    ((purged_of_result equal).trans purged)
  rw [after_of_result equal, table]

theorem change_hearing {caller : Nat} {reply : Except Error Connection}
    (event : step.event = .pooled caller reply)
    (hearing : step.Hearing caller reply) : step.Change := by
  have turn : step.before.balancer.turn? step.event = none := by
    rw [event]
    rfl
  cases hearing with
  | stray reply idle result =>
      have unreported : step.reported? = none := by
        unfold reported?
        split
        · rename_i reported
          rw [event] at reported
          cases reported
        · rename_i heard
          rw [event] at heard
          cases heard
          split
          · rename_i connecting
            exact absurd connecting (idle _ _ _)
          · rfl
        · rfl
      exact change_of_idle turn unreported result rfl rfl
  | connects mode failed address connection connecting result =>
      exact change_of_idle turn (by simp [reported?, event]) result rfl rfl
  | retries mode failed address error text next connecting connectivity
      attempted result =>
      have reported : step.reported? = some (.unreachable address) := by
        simp [reported?, event, connecting, connectivity]
      have advance := System.advance_attempt
        ⟨{ step.before.balancer with
            table := step.before.balancer.table.forget address },
          step.before.callers⟩ step.surroundings caller mode
        (failed ++ [address])
      rw [← attempted] at advance
      rcases advance.moved with ⟨selection, state, moved, _⟩
      refine change_of_report turn reported result ?_ ?_
      · rw [moved]
        rfl
      · exact congrArg (address :: ·) advance.purged
  | surrenders mode failed address error connecting connectivity result =>
      exact change_of_idle turn
        (by simp [reported?, event, connecting, connectivity]) result rfl rfl

theorem change (step : Step) : step.Change := by
  cases step.course with
  | arrives purpose event arrival => exact change_arrival event arrival
  | looks caller event glance => exact change_glance event glance
  | hears caller reply event hearing => exact change_hearing event hearing
  | turns place search turn result => exact change_turn turn
  | crashes place refresh fault event held found unfinished result =>
      exact change_of_idle (by rw [event]; rfl) (by simp [reported?, event])
        result rfl rfl
  | reports report event result =>
      have turn : step.before.balancer.turn? step.event = none := by
        rw [event]
        rfl
      have reported : step.reported? = some report := by
        simp [reported?, event]
      cases report with
      | unreachable address =>
          exact change_of_report turn reported result rfl rfl
      | refusesWrites address =>
          exact change_of_report turn reported result rfl rfl
  | closes event result =>
      have turn : step.before.balancer.turn? step.event = none := by
        rw [event]
        rfl
      have unreported : step.reported? = none := by simp [reported?, event]
      rcases step.before.balancer.close_cases with same | closed
      · rw [same] at result
        exact change_of_idle turn unreported result rfl rfl
      · rw [closed] at result
        exact change_of_idle turn unreported result rfl rfl
  | idle event turn result =>
      have unreported : step.reported? = none := by
        rcases event with event | ⟨answer, event⟩ | ⟨fault, event⟩ <;>
          simp [reported?, event]
      exact change_of_idle turn unreported result rfl rfl

/-- A refresh that succeeds, from the table that its search has left. -/
theorem change_of_settles {place : Nat}
    {progress : Progress (Except Error Composition)}
    {composition : Composition}
    (settles : step.Settles place progress (.ok composition)) :
    step.after.balancer.table = progress.table.update composition ∧
      step.purged = (progress.table.removed composition).toList := by
  have installed := installed_iff.mpr ⟨place, progress, settles⟩
  rw [← searched_of_progress settles.1]
  cases step.change with
  | searches unreported uninstalled table purged =>
      rw [uninstalled] at installed
      cases installed
  | reports report reported unsearched uninstalled table purged =>
      rw [uninstalled] at installed
      cases installed
  | installs other reached found again unreported present table purged =>
      rw [present] at installed
      cases installed
      exact ⟨table, purged⟩

end Step

end ClusterRouting
