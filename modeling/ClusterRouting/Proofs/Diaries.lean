import ClusterRouting.Proofs.Contacts

/-! Diaries: all that a search asks, and what it is told, in order.

The table belongs to the world that answers. So whoever else shares the table may
change it between any two inquiries of the search. The world has a state of its
own, and may answer the same inquiry in another way each time. -/

namespace ClusterRouting

abbrev World (State : Type) :=
  (inquiry : Inquiry) → StateM State inquiry.Reply

def World.through {State : Type} (world : World State)
    (provider : Provider) : World State
  | .outside (.compose router) =>
      (Search.ofExchange (provider router)).run world
  | inquiry => world inquiry

structure Entry where
  inquiry : Inquiry
  reply : inquiry.Reply

namespace Entry

def visit : Entry → List Visit
  | ⟨.outside request, reply⟩ => Visit.ofReply request reply
  | ⟨.routers, _⟩ | ⟨.forget _, _⟩ => []

def pause? : Entry → Option Duration
  | ⟨.outside (.pause delay), _⟩ => some delay
  | _ => none

def visits (entries : List Entry) : List Visit :=
  entries.flatMap visit

def pauses (entries : List Entry) : List Duration :=
  entries.filterMap pause?

@[simp] theorem visits_append (first second : List Entry) :
    visits (first ++ second) = visits first ++ visits second :=
  List.flatMap_append

@[simp] theorem pauses_append (first second : List Entry) :
    pauses (first ++ second) = pauses first ++ pauses second :=
  List.filterMap_append

end Entry

structure Diary (State Result : Type) where
  result : Result
  state : State
  entries : List Entry

namespace Diary

variable {State Result : Type}

def following (entries : List Entry) (diary : Diary State Result) :
    Diary State Result :=
  { diary with entries := entries ++ diary.entries }

theorem following_following (first second : List Entry)
    (diary : Diary State Result) :
    (diary.following second).following first =
      diary.following (first ++ second) := by
  simp [following]

theorem following_ended (entries : List Entry) (result : Result)
    (state : State) :
    following entries ⟨result, state, []⟩ = ⟨result, state, entries⟩ := by
  simp [following]

end Diary

namespace Search

variable {State Result Later : Type} (world : World State)

def diary (state : State) : Search Result → Diary State Result
  | .finish result => ⟨result, state, []⟩
  | .ask inquiry resume =>
      let replied := world inquiry state
      (diary replied.2 (resume replied.1)).following [⟨inquiry, replied.1⟩]

/-- To keep a diary makes no difference. -/
theorem run_eq_diary (state : State) (search : Search Result) :
    Dialogue.run world search state =
      ((search.diary world state).result, (search.diary world state).state) := by
  induction search generalizing state with
  | finish result => rfl
  | ask inquiry resume induction =>
      exact induction (world inquiry state).1 (world inquiry state).2

theorem diary_bind (state : State) (search : Search Result)
    (next : Result → Search Later) :
    (search >>= next).diary world state =
      let first := search.diary world state
      ((next first.result).diary world first.state).following
        first.entries := by
  induction search generalizing state with
  | finish result => rfl
  | ask inquiry resume induction =>
      have rest := induction (world inquiry state).1 (world inquiry state).2
      exact (congrArg (Diary.following _) rest).trans
        (Diary.following_following _ _ _)

theorem run_bind (state : State) (search : Search Result)
    (next : Result → Search Later) :
    Dialogue.run world (search >>= next) state =
      let first := Dialogue.run world search state
      Dialogue.run world (next first.1) first.2 := by
  simp only [run_eq_diary, diary_bind]
  rfl

/-- It makes no difference whether the provider is a part of the search or of
the world outside. -/
theorem run_supply (provider : Provider) (state : State)
    (search : Search Result) :
    Dialogue.run world (search.supply provider) state =
      Dialogue.run (world.through provider) search state := by
  induction search generalizing state with
  | finish result => rfl
  | ask inquiry resume induction =>
      cases inquiry with
      | routers => exact induction _ _
      | forget address => exact induction _ _
      | outside request =>
          cases request with
          | compose router =>
              have first := run_bind world state (ofExchange (provider router))
                fun reply => supply provider (resume reply)
              exact first.trans (induction _ _)
          | _ => exact induction _ _

end Search

end ClusterRouting
