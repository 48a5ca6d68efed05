import ClusterRouting.Proofs.Delays
import ClusterRouting.Proofs.Diaries
import ClusterRouting.Proofs.Passes
import Mathlib.Data.List.Chain

/-! Pauses: how many passes a search goes through, and how it rests in between.

A search is followed to its end in a diary. What it writes there splits up into
the entries of its passes, none of which rests, and one rest between any two of
them. The delays depend on the settings alone. Others may change the table all
the while: no pass begins or ends with that. -/

namespace ClusterRouting

namespace Discovery

/-! ## Passes without rest -/

structure Calm {State : Type} (diary : Diary State (Finding × Roster)) :
    Prop where
  ends : Visit.Ends (Entry.visits diary.entries) diary.result.1
  pauses : Entry.pauses diary.entries = []

structure Quiet (entries : List Entry) : Prop where
  unsettled : ∀ visit ∈ Entry.visits entries, ¬ visit.IsFinal
  pauses : Entry.pauses entries = []

namespace Calm

variable {State : Type} {diary : Diary State (Finding × Roster)}
  (calm : Calm diary)
include calm

theorem following {entries : List Entry} (quiet : Quiet entries) :
    Calm (diary.following entries) where
  ends := by
    change Visit.Ends (Entry.visits (entries ++ diary.entries)) diary.result.1
    rw [Entry.visits_append]
    exact calm.ends.append quiet.unsettled
  pauses := by
    change Entry.pauses (entries ++ diary.entries) = []
    rw [Entry.pauses_append, quiet.pauses, calm.pauses, List.append_nil]

theorem quiet (nothing : diary.result.1 = .nothing) :
    Quiet diary.entries where
  unsettled := by
    have ends := calm.ends
    rw [nothing] at ends
    exact ends.unsettled
  pauses := calm.pauses

end Calm

theorem Quiet.of_silent {entry : Entry} (unheard : entry.visit = [])
    (restless : entry.pause? = none) : Quiet [entry] where
  unsettled := by simp [Entry.visits, unheard]
  pauses := by simp [Entry.pauses, restless]

section Calm

variable {State : Type} (world : World State)

def StaysCalm (part : Roster → Search (Finding × Roster)) : Prop :=
  ∀ (tried : Roster) (state : State), Calm ((part tried).diary world state)

theorem staysCalm_askEach (routers : List Address) :
    StaysCalm world fun tried => askEach .external tried routers := by
  intro tried state
  induction routers generalizing tried state with
  | nil => exact ⟨.nothing, rfl⟩
  | cons router rest induction =>
      change Calm (Diary.following
        [⟨.outside (.compose router),
          (world (.outside (.compose router)) state).1⟩]
        (Search.diary world (world (.outside (.compose router)) state).2 _))
      -- The router has answered; its failure may call for the others.
      rcases world (.outside (.compose router)) state with ⟨reply, later⟩
      cases reply with
      | ok composition => exact ⟨.found router composition, rfl⟩
      | error error =>
          cases fatal : error.isFatal with
          | true =>
              simp only [Dialogue.embed, Dialogue.andThen, fatal, if_true]
              exact ⟨.fatal router error (Error.isFatal_iff.mp fatal), rfl⟩
          | false =>
              have failed := Error.not_conclusive fatal
              simp only [Dialogue.embed, Dialogue.andThen, fatal,
                Bool.false_eq_true, if_false]
              apply Calm.following
              · apply Calm.following
                · apply Calm.following
                  · exact induction _ _
                  · exact .of_silent rfl rfl
                · exact .of_silent rfl rfl
              · exact ⟨List.forall_mem_singleton.mpr failed, rfl⟩

theorem staysCalm_orElse {part next : Roster → Search (Finding × Roster)}
    (first : StaysCalm world part) (second : StaysCalm world next) :
    StaysCalm world fun tried => orElse (part tried) next := by
  intro tried state
  have calm := first tried state
  simp only [orElse, Search.diary_bind]
  revert calm
  rcases (part tried).diary world state with
    ⟨⟨finding, tried⟩, later, entries⟩
  intro calm
  cases finding with
  | nothing => exact (second tried later).following (calm.quiet rfl)
  | found composition => rwa [← Diary.following_ended] at calm
  | fatal error => rwa [← Diary.following_ended] at calm

theorem staysCalm_bind {First : Type} {search : Search First}
    {next : First → Roster → Search (Finding × Roster)}
    (quiet : ∀ state, Quiet (search.diary world state).entries)
    (calm : ∀ first, StaysCalm world (next first)) :
    StaysCalm world fun tried => search >>= fun first => next first tried := by
  intro tried state
  simp only [Search.diary_bind]
  exact (calm _ tried _).following (quiet state)

theorem quiet_routers (state : State) :
    Quiet (Search.routers.diary world state).entries :=
  .of_silent rfl rfl

theorem quiet_resolveInitial (discovery : Discovery) (state : State) :
    Quiet (discovery.resolveInitial.diary world state).entries := by
  change Quiet
    (⟨.outside (.resolve discovery.initialRouter),
      (world (.outside (.resolve discovery.initialRouter)) state).1⟩ ::
        (Search.diary world
          (world (.outside (.resolve discovery.initialRouter)) state).2
          _).entries)
  rcases world (.outside (.resolve discovery.initialRouter)) state with
    ⟨reply, later⟩
  cases reply with
  | ok addresses => exact ⟨List.forall_mem_singleton.mpr id, rfl⟩
  | error error => exact ⟨List.forall_mem_singleton.mpr id, rfl⟩

theorem staysCalm_initialRouterFirst (discovery : Discovery) :
    StaysCalm world fun tried =>
      discovery.initialRouterFirst .external tried := by
  simp only [initialRouterFirst_eq]
  apply staysCalm_bind world (quiet_resolveInitial world discovery)
  intro resolved
  apply staysCalm_orElse world (staysCalm_askEach world resolved)
  apply staysCalm_bind world (quiet_routers world)
  intro known
  exact staysCalm_askEach world known

theorem staysCalm_knownRoutersFirst (discovery : Discovery) :
    StaysCalm world fun tried =>
      discovery.knownRoutersFirst .external tried := by
  simp only [knownRoutersFirst_eq]
  apply staysCalm_bind world (quiet_routers world)
  intro known
  apply staysCalm_orElse world (staysCalm_askEach world known)
  apply staysCalm_bind world (quiet_resolveInitial world discovery)
  intro resolved
  exact staysCalm_askEach world _

theorem staysCalm_pass (discovery : Discovery) :
    StaysCalm world (discovery.pass .external) := by
  intro tried state
  unfold pass
  split
  · exact staysCalm_initialRouterFirst world discovery tried state
  · exact staysCalm_knownRoutersFirst world discovery tried state

end Calm

/-! ## Rounds -/

def resting (delay : Duration) : List Entry :=
  [⟨.outside (.note ⟨.info,
      "Unable to fetch new routing table, will try again in " ++
        toString delay.milliseconds ++ "ms"⟩), ()⟩,
    ⟨.outside (.pause delay), ()⟩]

structure Round (State : Type) where
  tried : Roster
  delay : Duration
  state : State

namespace Round

variable {State : Type}

def first (state : State) : Round State :=
  ⟨.empty, .zero, state⟩

variable (discovery : Discovery) (world : World State) (round : Round State)

def diary : Diary State (Finding × Roster) :=
  (discovery.pass .external round.tried).diary world round.state

def next : Round State :=
  let pass := round.diary discovery world
  let delay := discovery.settings.nextDelay round.delay
  { tried := pass.result.2
    delay
    state := ((interlude delay).diary world pass.state).state }

theorem calm_diary : Calm (round.diary discovery world) :=
  staysCalm_pass world discovery round.tried round.state

end Round

section Rounds

variable {State : Type} (discovery : Discovery) (world : World State)

def Follows (round later : Round State) : Prop :=
  (round.diary discovery world).result.1 = .nothing ∧
    later = round.next discovery world

def lap (round : Round State) : List Entry :=
  resting round.delay ++ (round.diary discovery world).entries

structure Paces (round : Round State) (limit : Nat)
    (diary : Diary State (Except Error Composition))
    (later : List (Round State)) (last : Round State) : Prop where
  chain : (round :: later).IsChain (Follows discovery world)
  final : (round :: later).getLast? = some last
  /-- Between two passes there is one rest, and after the last one none. -/
  entries : ∃ closing, diary.entries =
    (round.diary discovery world).entries ++
      later.flatMap (lap discovery world) ++ closing ∧
        Entry.visits closing = [] ∧ Entry.pauses closing = []
  result : diary.result = conclusion (last.diary discovery world).result
  bounded : later.length + 1 ≤ limit
  whole : (last.diary discovery world).result.1 = .nothing →
    later.length + 1 = limit

theorem diary_closing (result : Finding × Roster) (state : State) :
    let diary := (closing result).diary world state
    diary.result = conclusion result ∧
      Entry.visits diary.entries = [] ∧ Entry.pauses diary.entries = [] := by
  rcases result with ⟨finding, tried⟩
  cases finding with
  | found composition =>
      simp only [closing, accept]
      cases composition.hasWriters with
      | true => exact ⟨rfl, rfl, rfl⟩
      | false => exact ⟨rfl, rfl, rfl⟩
  | fatal error => exact ⟨rfl, rfl, rfl⟩
  | nothing => exact ⟨rfl, rfl, rfl⟩

theorem paces_closing (round : Round State) (limit : Nat) (positive : 1 ≤ limit)
    (whole : (round.diary discovery world).result.1 = .nothing → 1 = limit) :
    let pass := round.diary discovery world
    Paces discovery world round limit
      (((closing pass.result).diary world pass.state).following pass.entries)
      [] round := by
  intro pass
  have closed := diary_closing world pass.result pass.state
  exact {
    chain := .singleton round
    final := rfl
    entries := ⟨_, by simp [Diary.following, pass], closed.2⟩
    result := closed.1
    bounded := positive
    whole := whole }

theorem Paces.again {round : Round State} {limit : Nat}
    {diary : Diary State (Except Error Composition)}
    {later : List (Round State)} {last : Round State}
    (nothing : (round.diary discovery world).result.1 = .nothing)
    (paces : Paces discovery world (round.next discovery world) limit diary
      later last) :
    Paces discovery world round (limit + 1)
      ((diary.following (resting (round.next discovery world).delay)).following
        (round.diary discovery world).entries)
      (round.next discovery world :: later) last where
  chain := .cons_cons ⟨nothing, rfl⟩ paces.chain
  final := (List.getLast?_cons_cons).trans paces.final
  entries := by
    rcases paces.entries with ⟨closing, written, silent⟩
    refine ⟨closing, ?_, silent⟩
    simp [Diary.following, written, lap]
  result := paces.result
  bounded := Nat.succ_le_succ paces.bounded
  whole := fun ended => congrArg (· + 1) (paces.whole ended)

theorem diary_passes_cases (round : Round State) (more : Nat) :
    let search := discovery.passes .external round.tried round.delay
      (more + 1)
    let pass := round.diary discovery world
    let next := round.next discovery world
    (pass.result.1 ≠ .nothing ∧
      search.diary world round.state =
        ((closing pass.result).diary world pass.state).following
          pass.entries) ∨
    (pass.result.1 = .nothing ∧
      search.diary world round.state =
        (((discovery.passes .external next.tried next.delay more).diary world
          next.state).following (resting next.delay)).following
            pass.entries) := by
  simp only [passes_succ, Search.diary_bind, Round.next, Round.diary]
  rcases (discovery.pass .external round.tried).diary world round.state with
    ⟨⟨finding, tried⟩, state, entries⟩
  cases finding with
  | nothing => exact .inr ⟨rfl, rfl⟩
  | found composition => exact .inl ⟨nofun, rfl⟩
  | fatal error => exact .inl ⟨nofun, rfl⟩

theorem paces_passes (round : Round State) (more : Nat) :
    ∃ later last, Paces discovery world round (more + 1)
      ((discovery.passes .external round.tried round.delay more).diary world
        round.state) later last := by
  induction more generalizing round with
  | zero =>
      rw [passes_zero, Search.diary_bind]
      exact ⟨[], round, paces_closing discovery world round 1 (Nat.le_refl 1)
        fun _ => rfl⟩
  | succ more induction =>
      rcases diary_passes_cases discovery world round more with
        ⟨settled, equal⟩ | ⟨nothing, equal⟩
      · rw [equal]
        exact ⟨[], round, paces_closing discovery world round _ (by omega)
          fun nothing => absurd nothing settled⟩
      · rw [equal]
        rcases induction (round.next discovery world) with
          ⟨later, last, paces⟩
        exact ⟨_, last, paces.again discovery world nothing⟩

end Rounds

/-- The course of a whole search: its first pass, those that follow up to the
last one, and the delays between them. -/
structure Paced {State : Type} (discovery : Discovery) (world : World State)
    (state : State) (diary : Diary State (Except Error Composition))
    (later : List (Round State)) (last : Round State) : Prop extends
    Paces discovery world (.first state)
      (max 1 discovery.settings.maxRoutingFailures.toNat) diary later last where
  calm : ∀ round ∈ Round.first state :: later,
    Calm (round.diary discovery world)
  pauses : Entry.pauses diary.entries = later.map Round.delay
  delays : SteadyDelays discovery.settings (Entry.pauses diary.entries)
  exhausts : (∀ visit ∈ Entry.visits diary.entries, ¬ visit.IsFinal) →
    later.length + 1 = max 1 discovery.settings.maxRoutingFailures.toNat
  settled : ∀ (place : Nat) (round : Round State),
    (Round.first state :: later)[place]? = some round →
      (∃ visit ∈ Entry.visits (round.diary discovery world).entries,
        visit.IsFinal) →
        (Entry.pauses diary.entries).length = place ∧
          place = later.length ∧ round = last

section Paced

variable {State : Type} {discovery : Discovery} {world : World State}

theorem delay_of_chain {rounds : List (Round State)}
    (chain : rounds.IsChain (Follows discovery world)) {pass : Nat}
    (start : ∀ round ∈ rounds.head?,
      round.delay = discovery.settings.delay pass) :
    rounds.map Round.delay =
      (List.range' pass rounds.length).map discovery.settings.delay := by
  induction chain generalizing pass with
  | nil => rfl
  | singleton round => simpa using start
  | @cons_cons round next rest follows chain induction =>
      have first := start round rfl
      have second : next.delay = discovery.settings.delay (pass + 1) := by
        rw [follows.2, Settings.delay, ← first]
        rfl
      have others := induction (by simpa using second)
      rw [List.length_cons, List.range'_succ]
      exact congrArg₂ List.cons first others

theorem pauses_laps (later : List (Round State)) :
    Entry.pauses (later.flatMap (lap discovery world)) =
      later.map Round.delay := by
  induction later with
  | nil => rfl
  | cons round rest induction =>
      have calm := (round.calm_diary discovery world).pauses
      have rested : Entry.pauses (resting round.delay) = [round.delay] := rfl
      rw [List.flatMap_cons, Entry.pauses_append, induction, lap,
        Entry.pauses_append, rested, calm]
      rfl

/-- Only the last pass may come to something. -/
theorem nothing_of_chain {rounds : List (Round State)}
    (chain : rounds.IsChain (Follows discovery world)) {place : Nat}
    {round : Round State} (found : rounds[place]? = some round)
    (before : place + 1 < rounds.length) :
    (round.diary discovery world).result.1 = .nothing := by
  have follows := List.isChain_iff_getElem.mp chain place before
  rcases List.getElem?_eq_some_iff.mp found with ⟨_, rfl⟩
  exact follows.1

namespace Paces

variable {round last : Round State} {limit : Nat}
  {diary : Diary State (Except Error Composition)}
  {later : List (Round State)}
  (paces : Paces discovery world round limit diary later last)
include paces

theorem pauses : Entry.pauses diary.entries = later.map Round.delay := by
  rcases paces.entries with ⟨closing, written, silent⟩
  have calm := (round.calm_diary discovery world).pauses
  rw [written, Entry.pauses_append, Entry.pauses_append, silent.2, calm,
    pauses_laps, List.append_nil, List.nil_append]

theorem delays {pass : Nat}
    (start : round.delay = discovery.settings.delay pass) :
    later.map Round.delay =
      (List.range' (pass + 1) later.length).map discovery.settings.delay := by
  have every := delay_of_chain paces.chain (by simpa using start)
  rw [List.map_cons, List.length_cons, List.range'_succ, List.map_cons]
    at every
  exact (List.cons.inj every).2

theorem mem_entries {other : Round State} (member : other ∈ round :: later)
    {entry : Entry} (present : entry ∈ (other.diary discovery world).entries) :
    entry ∈ diary.entries := by
  rcases paces.entries with ⟨closing, written, silent⟩
  rw [written]
  apply List.mem_append_left
  rcases List.mem_cons.mp member with first | after
  · exact List.mem_append_left _ (first ▸ present)
  · apply List.mem_append_right
    exact List.mem_flatMap.mpr
      ⟨other, after, List.mem_append_right _ present⟩

/-- If nothing was settled, all passes were made. -/
theorem count_of_unsettled
    (unsettled : ∀ visit ∈ Entry.visits diary.entries, ¬ visit.IsFinal) :
    later.length + 1 = limit := by
  apply paces.whole
  have member := List.mem_of_getLast? paces.final
  apply (last.calm_diary discovery world).ends.eq_nothing
  intro visit heard
  rcases List.mem_flatMap.mp heard with ⟨entry, present, shown⟩
  exact unsettled visit
    (List.mem_flatMap.mpr ⟨entry, paces.mem_entries member present, shown⟩)

/-- A pass that settles the search is the last one. -/
theorem last_of_final {place : Nat} {other : Round State}
    (found : (round :: later)[place]? = some other) {visit : Visit}
    (heard : visit ∈ Entry.visits (other.diary discovery world).entries)
    (final : visit.IsFinal) : place = later.length ∧ other = last := by
  have bound := (List.getElem?_eq_some_iff.mp found).1
  have finish : ¬ place + 1 < (round :: later).length := by
    intro before
    have nothing := nothing_of_chain paces.chain found before
    have quiet := (other.calm_diary discovery world).quiet nothing
    exact quiet.unsettled visit heard final
  rw [List.length_cons] at bound finish
  have same : place = later.length := by omega
  have ended := paces.final
  rw [List.getLast?_eq_getElem?, List.length_cons, Nat.add_sub_cancel,
    ← same, found] at ended
  exact ⟨same, Option.some.inj ended⟩

end Paces

theorem Paces.paced {state : State}
    {diary : Diary State (Except Error Composition)}
    {later : List (Round State)} {last : Round State}
    (paces : Paces discovery world (.first state)
      (max 1 discovery.settings.maxRoutingFailures.toNat) diary later last) :
    Paced discovery world state diary later last where
  toPaces := paces
  calm := fun round _ => round.calm_diary discovery world
  pauses := paces.pauses
  delays := by
    have first : (Round.first state).delay = discovery.settings.delay 0 := rfl
    rw [paces.pauses, paces.delays first]
    exact discovery.settings.steadyDelays later.length
  exhausts := paces.count_of_unsettled
  settled := by
    rintro place round found ⟨visit, heard, final⟩
    rcases paces.last_of_final found heard final with ⟨rfl, rfl⟩
    refine ⟨?_, rfl, rfl⟩
    rw [paces.pauses, List.length_map]

end Paced

/-- Every search keeps its pace, for any settings and provider, and whatever the
world answers meanwhile. The provider is taken for a part of the world, so that
the diary shows what it answers and not how it comes by that. -/
theorem paced_search (discovery : Discovery) (provider : Provider)
    {State : Type} (world : World State) (state : State) :
    let asked := (discovery.search .external).diary (world.through provider)
      state
    (∃ later last,
      Paced discovery (world.through provider) state asked later last) ∧
      Dialogue.run world (discovery.search provider) state =
        (asked.result, asked.state) := by
  intro asked
  have count : discovery.settings.passes - 1 + 1 =
      max 1 discovery.settings.maxRoutingFailures.toNat := by
    unfold Settings.passes
    omega
  constructor
  · rcases paces_passes discovery (world.through provider) (.first state)
      (discovery.settings.passes - 1) with ⟨later, last, paces⟩
    rw [count] at paces
    exact ⟨later, last, paces.paced⟩
  · unfold search
    rw [← passes_supply, Search.run_supply]
    exact Search.run_eq_diary _ state _

end Discovery

end ClusterRouting
