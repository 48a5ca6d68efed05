import ClusterRouting.Proofs.Contacts

/-! Trails: what the answers of routers leave behind.

A search keeps on record whom it asks, forgets the routers that fail, and ends
with the first answer that settles it. The trail of a part of a search says so
of that part, and the trails of parts that follow one another make up one. -/

namespace ClusterRouting

inductive Error.Conclusive : Error → Prop
  | protocol (message : String) : Conclusive (.protocol message)
  | configuration (message : String) : Conclusive (.configuration message)
  | authentication (message : String) : Conclusive (.authentication message)
  | security (code message : String)
      (begins : Text.begins "Neo.ClientError.Security" code = true) :
      Conclusive (.server code message)

theorem Error.isFatal_iff {error : Error} :
    error.isFatal = true ↔ error.Conclusive := by
  constructor
  · intro fatal
    cases error with
    | protocol message => exact .protocol message
    | configuration message => exact .configuration message
    | authentication message => exact .authentication message
    | server code message => exact .security code message fatal
    | _ => cases fatal
  · intro conclusive
    cases conclusive with
    | protocol message => rfl
    | configuration message => rfl
    | authentication message => rfl
    | security code message begins => exact begins

theorem Error.not_conclusive {error : Error}
    (mendable : error.isFatal = false) : ¬ error.Conclusive := by
  rw [← isFatal_iff, mendable]
  exact Bool.false_ne_true

namespace Visit

def IsFinal : Visit → Prop
  | .router _ (.ok _) => True
  | .router _ (.error error) => error.Conclusive
  | .resolver _ => False

def failure? : Visit → Option Address
  | .router address (.error error) =>
      if error.isFatal then none else some address
  | .router _ (.ok _) | .resolver _ => none

def failures (visits : List Visit) : List Address :=
  visits.filterMap failure?

@[simp] theorem failures_append (first second : List Visit) :
    failures (first ++ second) = failures first ++ failures second :=
  List.filterMap_append

theorem mem_failures {visits : List Visit} {address : Address} :
    address ∈ failures visits ↔
      ∃ error, .router address (.error error) ∈ visits ∧
        ¬ error.Conclusive := by
  simp only [failures, List.mem_filterMap, ← Error.isFatal_iff]
  constructor
  · rintro ⟨visit, member, failed⟩
    unfold failure? at failed
    split at failed
    · rename_i other error
      split at failed
      · cases failed
      · rename_i mendable
        cases failed
        exact ⟨error, member, mendable⟩
    · cases failed
    · cases failed
  · rintro ⟨error, member, mendable⟩
    exact ⟨_, member, if_neg mendable⟩

theorem failures_final {address : Address} {reply : Except Error Composition}
    (final : (router address reply).IsFinal) :
    failures [router address reply] = [] := by
  apply List.eq_nil_iff_forall_not_mem.mpr
  intro other failed
  rcases mem_failures.mp failed with ⟨error, member, mendable⟩
  cases List.mem_singleton.mp member
  exact mendable final

/-- What a search comes to by the answers of routers. Once one of them has
settled it, nobody is asked any more. -/
inductive Ends : List Visit → Discovery.Finding → Prop
  | found (address : Address) (composition : Composition) :
      Ends [.router address (.ok composition)] (.found composition)
  | fatal (address : Address) (error : Error)
      (conclusive : error.Conclusive) :
      Ends [.router address (.error error)] (.fatal error)
  | nothing : Ends [] .nothing
  | later {visit : Visit} {visits : List Visit} {finding : Discovery.Finding}
      (unsettled : ¬ visit.IsFinal) (ends : Ends visits finding) :
      Ends (visit :: visits) finding

namespace Ends

variable {before after visits : List Visit} {visit : Visit}
  {finding : Discovery.Finding}

theorem append (unsettled : ∀ visit ∈ before, ¬ visit.IsFinal)
    (ends : Ends visits finding) : Ends (before ++ visits) finding := by
  induction before with
  | nil => exact ends
  | cons visit rest induction =>
      apply later (unsettled visit List.mem_cons_self)
      apply induction
      exact fun other member => unsettled other (List.mem_cons_of_mem _ member)

theorem unsettled (ends : Ends visits .nothing) :
    ∀ visit ∈ visits, ¬ visit.IsFinal := by
  induction visits with
  | nil => simp
  | cons visit rest induction =>
      cases ends with
      | later unsettled ends =>
          exact List.forall_mem_cons.mpr ⟨unsettled, induction ends⟩

theorem eq_nothing (unsettled : ∀ visit ∈ visits, ¬ visit.IsFinal)
    (ends : Ends visits finding) : finding = .nothing := by
  induction ends with
  | found address composition =>
      exact absurd trivial (unsettled (.router address (.ok composition))
        List.mem_cons_self)
  | fatal address error conclusive =>
      exact absurd conclusive (unsettled (.router address (.error error))
        List.mem_cons_self)
  | nothing => rfl
  | later _ _ induction =>
      exact induction fun visit member =>
        unsettled visit (List.mem_cons_of_mem _ member)

/-- An answer that settles the search is the only one, and the last. -/
theorem of_final (final : visit.IsFinal)
    (ends : Ends (before ++ visit :: after) finding) :
    (∀ other ∈ before, ¬ other.IsFinal) ∧ after = [] ∧
      Ends [visit] finding := by
  induction before with
  | nil =>
      cases ends with
      | found address composition => exact ⟨by simp, rfl, .found _ _⟩
      | fatal address error conclusive =>
          exact ⟨by simp, rfl, .fatal _ _ conclusive⟩
      | later unsettled ends => exact absurd final unsettled
  | cons first rest induction =>
      rw [List.cons_append] at ends
      generalize split : rest ++ visit :: after = others at ends induction
      cases ends with
      | found address composition => simp at split
      | fatal address error conclusive => simp at split
      | later unsettled ends =>
          have later := induction ends
          exact ⟨List.forall_mem_cons.mpr ⟨unsettled, later.1⟩, later.2⟩

end Ends

end Visit

namespace Discovery

structure Trail {State : Type} (table : Table) (tried : Roster)
    (survey : Survey State (Finding × Roster)) : Prop where
  ends : Visit.Ends survey.visits survey.result.1
  tries : survey.result.2 = tried.insertAll (Visit.contacts survey.visits)
  forgets : survey.table =
    (Visit.failures survey.visits).foldl .forget table

namespace Trail

variable {State : Type} {table : Table} {tried : Roster}
  {survey : Survey State (Finding × Roster)}

theorem nothing (table : Table) (tried : Roster) (state : State) :
    Trail table tried ⟨(.nothing, tried), table, state, []⟩ where
  ends := .nothing
  tries := (tried.insertAll_nil).symm
  forgets := rfl

/-- The trail goes on where the visits before have left it. -/
theorem following {visits : List Visit}
    (unsettled : ∀ visit ∈ visits, ¬ visit.IsFinal)
    (trail : Trail ((Visit.failures visits).foldl .forget table)
      (tried.insertAll (Visit.contacts visits)) survey) :
    Trail table tried (survey.following visits) where
  ends := trail.ends.append unsettled
  tries := by
    apply trail.tries.trans
    rw [← Roster.insertAll_append, ← Visit.contacts_append]
    rfl
  forgets := by
    apply trail.forgets.trans
    rw [← List.foldl_append, ← Visit.failures_append]
    rfl

/-- A part that comes to nothing is followed by another. -/
theorem andThen {second : Survey State (Finding × Roster)}
    (trail : Trail table tried survey)
    (nothing : survey.result.1 = .nothing)
    (next : Trail survey.table survey.result.2 second) :
    Trail table tried (second.following survey.visits) := by
  have ends := trail.ends
  rw [nothing] at ends
  apply Trail.following ends.unsettled
  rw [← trail.forgets, ← trail.tries]
  exact next

end Trail

section Trails

variable {State : Type} (outside : Outside State)

def LeavesTrail (part : Roster → Search (Finding × Roster)) : Prop :=
  ∀ (tried : Roster) (table : Table) (state : State),
    Trail table tried ((part tried).survey outside table state)

theorem leavesTrail_askEach (routers : List Address) :
    LeavesTrail outside fun tried => askEach .external tried routers := by
  intro tried table state
  induction routers generalizing tried table state with
  | nil => exact .nothing table tried state
  | cons router rest induction =>
      rcases answered_askEach outside table state tried router rest with
        ⟨reply, survey, answered, equal⟩
      simp only [equal]
      cases answered with
      | found composition later => exact ⟨.found router composition, rfl, rfl⟩
      | fatal error later fatal =>
          have conclusive := Error.isFatal_iff.mp fatal
          refine ⟨.fatal router error conclusive, rfl, ?_⟩
          simp [Survey.following, Visit.failures, Visit.failure?, fatal]
      | mendable error later mendable =>
          have unsettled := Error.not_conclusive mendable
          have forgotten :
              Visit.failures [.router router (.error error)] = [router] := by
            simp [Visit.failures, Visit.failure?, mendable]
          apply Trail.following
          · exact List.forall_mem_singleton.mpr unsettled
          · rw [forgotten]
            exact induction (tried.insertAll [router]) (table.forget router)
              later

theorem leavesTrail_orElse {part next : Roster → Search (Finding × Roster)}
    (first : LeavesTrail outside part) (second : LeavesTrail outside next) :
    LeavesTrail outside fun tried => orElse (part tried) next := by
  intro tried table state
  have trail := first tried table state
  rcases orElse_cases outside table state (part tried) next with
    ⟨equal, _⟩ | ⟨nothing, equal⟩
  · simp only [equal]
    exact trail
  · simp only [equal]
    exact trail.andThen nothing (second _ _ _)

/-- To read the routers of the table leaves no trail. -/
theorem leavesTrail_routers
    {next : List Address → Roster → Search (Finding × Roster)}
    (trails : ∀ known, LeavesTrail outside (next known)) :
    LeavesTrail outside fun tried =>
      Search.routers >>= fun known => next known tried :=
  fun tried table state => trails table.routers.toList tried table state

theorem leavesTrail_resolveInitial (discovery : Discovery)
    {next : List Address → Roster → Search (Finding × Roster)}
    (trails : ∀ resolved, LeavesTrail outside (next resolved)) :
    LeavesTrail outside fun tried =>
      discovery.resolveInitial >>= fun resolved => next resolved tried := by
  intro tried table state
  rcases survey_resolveInitial outside table state discovery with
    ⟨reply, later, resolved⟩
  simp only [Search.survey_bind, resolved]
  apply Trail.following
  · exact List.forall_mem_singleton.mpr id
  · change Trail table (tried.insertAll []) _
    rw [tried.insertAll_nil]
    exact trails (discovery.seeds reply) tried table later

theorem leavesTrail_pass (discovery : Discovery) :
    LeavesTrail outside (discovery.pass .external) := by
  intro tried table state
  unfold pass
  split
  · rw [initialRouterFirst_eq]
    apply leavesTrail_resolveInitial
    intro resolved
    apply leavesTrail_orElse outside (leavesTrail_askEach outside resolved)
    apply leavesTrail_routers
    intro known
    exact leavesTrail_askEach outside known
  · rw [knownRoutersFirst_eq]
    apply leavesTrail_routers
    intro known
    apply leavesTrail_orElse outside (leavesTrail_askEach outside known)
    apply leavesTrail_resolveInitial
    intro resolved
    exact leavesTrail_askEach outside _

end Trails

end Discovery

end ClusterRouting
