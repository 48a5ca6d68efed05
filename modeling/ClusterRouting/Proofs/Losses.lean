import ClusterRouting.Proofs.Passes
import ClusterRouting.Proofs.Purges

/-! Losses: which readers and writers a search costs a table.

A router that fails is forgotten as a reader and writer too, whether or not its
failure tells that it is down. So a full pool, for one, costs a table servers
that could still be reached. -/

namespace ClusterRouting

namespace Error

/-- A failure that settles no search and does not tell that a server is down. -/
inductive Passing : Error → Prop
  | session (message : String) : Passing (.session message)
  | sessionExpired (message : String) : Passing (.sessionExpired message)
  | timeout (message : String) : Passing (.timeout message)
  | noServerAvailable (message : String) : Passing (.noServerAvailable message)
  | internal (message : String) : Passing (.internal message)
  | server (code message : String)
      (harmless : Text.begins "Neo.ClientError.Security" code = false) :
      Passing (.server code message)

variable {error : Error}

theorem Passing.not_conclusive (passing : error.Passing) :
    ¬ error.Conclusive := by
  apply Error.not_conclusive
  cases passing with
  | server code message harmless => exact harmless
  | _ => rfl

theorem connectivity_or_passing (mendable : ¬ error.Conclusive) :
    error.isConnectivity = true ∨ error.Passing := by
  rw [← isFatal_iff] at mendable
  cases error with
  | connection message => exact .inl rfl
  | serviceUnavailable message => exact .inl rfl
  | io message => exact .inl rfl
  | protocol message => exact absurd rfl mendable
  | configuration message => exact absurd rfl mendable
  | authentication message => exact absurd rfl mendable
  | server code message =>
      exact .inr (.server code message (Bool.eq_false_iff.mpr mendable))
  | session message => exact .inr (.session message)
  | sessionExpired message => exact .inr (.sessionExpired message)
  | timeout message => exact .inr (.timeout message)
  | noServerAvailable message => exact .inr (.noServerAvailable message)
  | internal message => exact .inr (.internal message)

end Error

/-- Only servers that were found to be down are no longer readers or writers
after a search. -/
def Survey.LosesOnlyUnreachable {State Result : Type} (table : Table)
    (survey : Survey State Result) : Prop :=
  ∀ mode address, address ∈ (table.servers mode).toList →
    address ∉ (survey.table.servers mode).toList →
      ∃ error, .router address (.error error) ∈ survey.visits ∧
        error.isConnectivity = true

namespace Discovery

namespace Forgetful

variable {State : Type} {table : Table}
  {survey : Survey State (Except Error Composition)}
  (forgetful : Forgetful table survey)
include forgetful

theorem mem_servers {mode : AccessMode} {address : Address} :
    address ∈ (survey.table.servers mode).toList ↔
      address ∈ (table.servers mode).toList ∧
        address ∉ Visit.failures survey.visits := by
  rw [← Table.members_role, ← Table.members_role, forgetful.members]
  simp

theorem losesOnlyUnreachable_iff :
    survey.LosesOnlyUnreachable table ↔
      ∀ address error, table.Serves address →
        .router address (.error error) ∈ survey.visits → error.Passing →
          ∃ other, .router address (.error other) ∈ survey.visits ∧
            other.isConnectivity = true := by
  constructor
  · rintro spares address error ⟨mode, listed⟩ member passing
    apply spares mode address listed
    rw [forgetful.mem_servers]
    rintro ⟨_, unfailed⟩
    apply unfailed
    exact (forgetful.failures address).mpr
      ⟨error, member, passing.not_conclusive⟩
  · intro accompanied mode address listed lost
    rw [forgetful.mem_servers] at lost
    have failed : address ∈ Visit.failures survey.visits :=
      Decidable.byContradiction fun unfailed => lost ⟨listed, unfailed⟩
    rcases (forgetful.failures address).mp failed with
      ⟨error, member, mendable⟩
    rcases Error.connectivity_or_passing mendable with down | passing
    · exact ⟨error, member, down⟩
    · exact accompanied address error ⟨mode, listed⟩ member passing

end Forgetful

/-- A search loses only servers that are down if and only if no reader or
writer has failed it in passing alone. -/
theorem losesOnlyUnreachable_observe {State : Type} (discovery : Discovery)
    (provider : Provider) (outside : Outside State) (table : Table)
    (state : State) :
    let survey := discovery.observe provider outside table state
    (survey.LosesOnlyUnreachable table ↔
      ∀ address error, table.Serves address →
        .router address (.error error) ∈ survey.visits → error.Passing →
          ∃ other, .router address (.error other) ∈ survey.visits ∧
            other.isConnectivity = true) ∧
    ((discovery.search provider).survey outside table state).outcome =
      survey.outcome := by
  intro survey
  rcases discovery.searched_observe provider outside table state with
    ⟨starts, last, searched⟩
  constructor
  · exact searched.forgetful.losesOnlyUnreachable_iff
  · exact discovery.outcome_observe provider outside table state

end Discovery

/-! ## A full pool

The initial router is a reader as well, and its pool is full. -/

namespace FullPool

def seed : Address := ⟨"seed", Address.standardPort⟩
def router : Address := ⟨"router", Address.standardPort⟩
def leader : Address := ⟨"leader", Address.standardPort⟩

def table : Table :=
  ⟨0, .ofList [router], .ofList [seed], .ofList [leader]⟩

def discovery : Discovery :=
  { initialRouter := seed
    settings :=
      { retryDelay := .zero, routerOrder := .initialRouterFirst } }

def reply : (request : Request) → request.Reply
  | .acquire _ => .error (.timeout "pool exhausted")
  | .run _ _ _ => .ok []
  | .release _ => .ok ()
  | .compose address =>
      if address = seed then .error (.timeout "pool exhausted")
      else .ok (.ofLists 0 [seed] [leader] [router])
  | .resolve address => .ok [address]
  | .pause _ => ()
  | .clock => (0 : Timestamp)
  | .note _ => ()

def outside : Outside Unit := fun request => pure (reply request)

end FullPool

def Visit.isDown : Visit → Bool
  | .router _ (.error error) => error.isConnectivity
  | .router _ (.ok _) | .resolver _ => false

/-- A search can cost a table a reader whose pool is full. -/
theorem Discovery.loses_reader_of_full_pool :
    ¬ ∀ (discovery : Discovery) (provider : Provider)
        (outside : Outside Unit) (table : Table),
      (discovery.observe provider outside table ()).LosesOnlyUnreachable
        table := by
  intro claim
  let survey :=
    FullPool.discovery.observe .external FullPool.outside FullPool.table ()
  have listed : FullPool.seed ∈ FullPool.table.readers.toList := by
    decide +kernel
  have lost : FullPool.seed ∉ survey.table.readers.toList := by
    decide +kernel
  have up : ∀ visit ∈ survey.visits, visit.isDown = false := by
    decide +kernel
  rcases claim _ _ _ _ .read FullPool.seed listed lost with
    ⟨error, member, down⟩
  have found := up (.router FullPool.seed (.error error)) member
  exact Bool.false_ne_true (found.symm.trans down)

end ClusterRouting
