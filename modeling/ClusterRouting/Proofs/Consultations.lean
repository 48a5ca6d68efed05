import ClusterRouting.Proofs.Contacts
import ClusterRouting.Proofs.Expiry
import ClusterRouting.Proofs.Purges

/-! Consultations: how one router is asked by the routing procedure.

A consultation takes one connection, runs one procedure on it and gives it back,
whatever the procedure comes to. What it tells in the end depends on the
procedure first, on the giving back second, and on the records last. -/

namespace ClusterRouting

structure Turn where
  request : Request
  reply : request.Reply

structure Minutes (State Result : Type) where
  result : Result
  state : State
  turns : List Turn

namespace Exchange

variable {State Result : Type} (outside : Outside State)

def minutes (state : State) : Exchange Result → Minutes State Result
  | .finish result => ⟨result, state, []⟩
  | .ask request resume =>
      let replied := outside request state
      let rest := minutes replied.2 (resume replied.1)
      { rest with turns := ⟨request, replied.1⟩ :: rest.turns }

/-- The minutes are those of the exchange as it is run. -/
theorem run_eq_minutes (exchange : Exchange Result) (state : State) :
    exchange.run outside state =
      ((minutes outside state exchange).result,
        (minutes outside state exchange).state) := by
  induction exchange generalizing state with
  | finish result => rfl
  | ask request resume induction =>
      exact induction (outside request state).1 (outside request state).2

/-- In a world without a state, the same requests always have the same
replies. -/
theorem minutes_steady (exchange : Exchange Result)
    (answer : (request : Request) → Id request.Reply) :
    let minutes := exchange.minutes (fun request => pure (answer request)) ()
    minutes.result = Id.run (exchange.run answer) ∧
      ∀ turn ∈ minutes.turns, turn.reply = answer turn.request := by
  induction exchange with
  | finish result => exact ⟨rfl, nofun⟩
  | ask request resume induction =>
      rcases induction (answer request) with ⟨result, replies⟩
      exact ⟨result, List.forall_mem_cons.mpr ⟨rfl, replies⟩⟩

end Exchange

theorem Text.begins_iff {start text : String} :
    begins start text = true ↔ start.toList <+: text.toList :=
  List.isPrefixOf_iff_prefix

inductive Error.RefusesProcedure : Error → Prop
  | server (code message : String)
      (client : "Neo.ClientError".toList <+: code.toList)
      (allowed : ¬ "Neo.ClientError.Security".toList <+: code.toList) :
      RefusesProcedure (.server code message)

namespace Procedure

variable {query : String} {error : Error} {released : Except Error Unit}

theorem isRefusal_iff :
    isRefusal error = true ↔ error.RefusesProcedure := by
  constructor
  · intro refusal
    cases error with
    | server code message =>
        simp only [isRefusal, Error.isClient, Error.isSecurity,
          Bool.and_eq_true, Bool.not_eq_true', ← Bool.not_eq_true,
          Text.begins_iff] at refusal
        exact .server code message refusal.1 refusal.2
    | _ => cases refusal
  · rintro ⟨code, message, client, allowed⟩
    simp only [isRefusal, Error.isClient, Error.isSecurity, Bool.and_eq_true,
      Bool.not_eq_true', ← Bool.not_eq_true, Text.begins_iff]
    exact ⟨client, allowed⟩

theorem conclude_of_refusal (refuses : error.RefusesProcedure) :
    conclude query (.error error) released = .ok ⟨query, .error error⟩ := by
  simp only [conclude, isRefusal_iff.mpr refuses, if_true]

theorem conclude_of_failure (accepts : ¬ error.RefusesProcedure) :
    conclude query (.error error) released = .error error := by
  have refusal : isRefusal error = false := by
    rw [← Bool.not_eq_true, isRefusal_iff]
    exact accepts
  simp only [conclude, refusal, Bool.false_eq_true, if_false]

end Procedure

/-- What follows the giving back of the connection, and what the consultation
tells, by what the procedure and the giving back came to. -/
inductive Verdict (query : String) :
    Except Error (List Record) → Except Error Unit →
      List Turn → Except Error Composition → Prop
  | failed (error : Error) (released : Except Error Unit)
      (accepts : ¬ error.RefusesProcedure) :
      Verdict query (.error error) released [] (.error error)
  | refused (error : Error) (released : Except Error Unit)
      (refuses : error.RefusesProcedure) :
      Verdict query (.error error) released []
        (.error ((Provider.Unusable.refused error).toError query))
  /-- The records are lost with the failure of the giving back. -/
  | unreleased (records : List Record) (error : Error) :
      Verdict query (.ok records) (.error error) [] (.error error)
  | miscounted (records : List Record) (count : records.length ≠ 1) :
      Verdict query (.ok records) (.ok ()) []
        (.error ((Provider.Unusable.recordCount records.length).toError query))
  | judged (record : Record) (now : Timestamp) :
      Verdict query (.ok [record]) (.ok ()) [⟨.clock, now⟩]
        ((Provider.validate now record).mapError
          (Provider.Unusable.toError query))

inductive Consultation (context : Context) (router : Address) :
    List Turn → Except Error Composition → Prop
  | unconnected (error : Error) :
      Consultation context router [⟨.acquire router, .error error⟩]
        (.error error)
  | connected (connection : Connection) (procedure : Procedure)
      (notice : Notice) (ran : Except Error (List Record))
      (released : Except Error Unit) (rest : List Turn)
      (result : Except Error Composition)
      (chosen : procedure = .forVersion context connection.version)
      (verdict : Verdict procedure.query ran released rest result) :
      Consultation context router
        (⟨.acquire router, .ok connection⟩ :: ⟨.note notice, ()⟩ ::
          ⟨.run connection procedure.query procedure.parameters, ran⟩ ::
            ⟨.release connection, released⟩ :: rest) result

namespace Provider

theorem soleRecord_of_length_ne {records : List Record}
    (count : records.length ≠ 1) :
    soleRecord (.ok records) = .error (.recordCount records.length) := by
  match records with
  | [] => rfl
  | [record] => exact absurd rfl count
  | first :: second :: rest => rfl

theorem process_of_length_ne (query : String) {records : List Record}
    (count : records.length ≠ 1) :
    process ⟨query, .ok records⟩ =
      return .error ((Unusable.recordCount records.length).toError query) := by
  simp only [process, soleRecord_of_length_ne count]

def settle :
    Except Error Procedure.Response → Exchange (Except Error Composition)
  | .error error => return .error error
  | .ok response => process response

/-- Either it is known already what is told, or there is a record to parse. -/
theorem settle_cases (response : Except Error Procedure.Response) :
    (∃ error, settle response = return .error error) ∨
      ∃ query record, settle response = do
        let now ← Exchange.clock
        return (validate now record).mapError (Unusable.toError query) := by
  cases response with
  | error error => exact .inl ⟨error, rfl⟩
  | ok response =>
      simp only [settle, process]
      cases soleRecord response.result with
      | error unusable => exact .inl ⟨_, rfl⟩
      | ok record => exact .inr ⟨response.query, record, rfl⟩

variable {State : Type} (outside : Outside State) (state : State)

theorem verdict_settle (query : String) (ran : Except Error (List Record))
    (released : Except Error Unit) :
    let minutes := Exchange.minutes outside state
      (settle (Procedure.conclude query ran released))
    Verdict query ran released minutes.turns minutes.result := by
  cases ran with
  | error error =>
      by_cases refuses : error.RefusesProcedure
      · rw [Procedure.conclude_of_refusal refuses]
        exact .refused error released refuses
      · rw [Procedure.conclude_of_failure refuses]
        exact .failed error released refuses
  | ok records =>
      cases released with
      | error error => exact .unreleased records error
      | ok done =>
          by_cases count : records.length = 1
          · rcases List.length_eq_one_iff.mp count with ⟨record, sole⟩
            subst sole
            exact .judged record (outside .clock state).1
          · simp only [Procedure.conclude, settle,
              process_of_length_ne query count]
            exact .miscounted records count

variable (context : Context) (router : Address)

theorem procedure_eq :
    procedure context router =
      Exchange.acquire router >>= fun
        | .error error => return .error error
        | .ok connection => Procedure.call context connection >>= settle := by
  refine congrArg (Exchange.acquire router >>= ·) (funext ?_)
  rintro (error | connection)
  · rfl
  · refine congrArg (Procedure.call context connection >>= ·) (funext ?_)
    rintro (error | response) <;> rfl

theorem consultation_procedure :
    let minutes := Exchange.minutes outside state (procedure context router)
    Consultation context router minutes.turns minutes.result := by
  rw [procedure_eq]
  -- The turn of the pool comes first; its reply decides the rest.
  change Consultation context router
    (⟨.acquire router, (outside (.acquire router) state).1⟩ ::
      (Exchange.minutes outside (outside (.acquire router) state).2 _).turns)
    (Exchange.minutes outside (outside (.acquire router) state).2 _).result
  rcases outside (.acquire router) state with ⟨reply, later⟩
  cases reply with
  | error error => exact .unconnected error
  | ok connection =>
      exact .connected connection _ _ _ _ _ _ rfl
        (verdict_settle outside _ _ _ _)

/-- A connection that a consultation has got is given back once, on every
path, and what the giving back comes to matters only after a success. -/
theorem consultation_minutes :
    let minutes := Exchange.minutes outside state (procedure context router)
    Consultation context router minutes.turns minutes.result ∧
      (procedure context router).run outside state =
        (minutes.result, minutes.state) :=
  ⟨consultation_procedure outside state context router,
    Exchange.run_eq_minutes outside _ state⟩

end Provider

/-! ## Verdicts -/

theorem Dialogue.run_bind {Request First Second : Type}
    {Reply : Request → Type} (answer : (asked : Request) → Id (Reply asked))
    (dialogue : Dialogue Reply First)
    (next : First → Dialogue Reply Second) :
    (dialogue >>= next).run answer =
      (next (dialogue.run answer)).run answer := by
  induction dialogue with
  | finish result => rfl
  | ask asked resume induction => exact induction (answer asked)

theorem Composition.hasRoutersAndReaders_iff {composition : Composition} :
    composition.hasRoutersAndReaders = true ↔
      composition.routers.toList ≠ [] ∧ composition.readers.toList ≠ [] := by
  simp [hasRoutersAndReaders, Roster.isEmpty]

inductive Provider.Sound (now : Timestamp) (composition : Composition) :
    List Record → Prop
  | record (record : Record)
      (parsed : Composition.parse record now = .ok composition)
      (routers : composition.routers.toList ≠ [])
      (readers : composition.readers.toList ≠ []) :
      Sound now composition [record]

/-- What a consultation tells, by the outcome of the procedure, the outcome of
giving the connection back, and the time. -/
structure ExactVerdict (query : String) (ran : Except Error (List Record))
    (released : Except Error Unit) (now : Timestamp)
    (told : Except Error Composition) : Prop where
  sound : ∀ composition, told = .ok composition ↔
    released = .ok () ∧
      ∃ records, ran = .ok records ∧ Provider.Sound now composition records
  refused : ∀ error, ran = .error error → error.RefusesProcedure →
    ∃ rest, told =
      .error (.serviceUnavailable ("Failed to run '" ++ query ++ rest))
  failed : ∀ error, ran = .error error → ¬ error.RefusesProcedure →
    told = .error error
  unreleased : ∀ records error, ran = .ok records → released = .error error →
    told = .error error
  unusable : ∀ records, ran = .ok records → released = .ok () →
    (∀ composition, ¬ Provider.Sound now composition records) →
      ∃ rest, told = .error (.protocol ("Failed to parse '" ++ query ++ rest))

namespace Provider

variable {now : Timestamp} {query : String}

theorem validate_ok_iff {record : Record} {composition : Composition} :
    validate now record = .ok composition ↔
      Sound now composition [record] := by
  constructor
  · intro valid
    simp only [validate] at valid
    split at valid
    · cases valid
    · rename_i parsed
      split at valid
      · rename_i complete
        cases valid
        rcases Composition.hasRoutersAndReaders_iff.mp complete with
          ⟨routers, readers⟩
        exact .record record parsed routers readers
      · cases valid
  · intro sound
    cases sound with
    | record record parsed routers readers =>
        have complete : composition.hasRoutersAndReaders = true :=
          Composition.hasRoutersAndReaders_iff.mpr ⟨routers, readers⟩
        simp only [validate, parsed, complete, if_true]

theorem validate_ne_refused {record : Record} {cause : Error} :
    validate now record ≠ .error (.refused cause) := by
  simp only [validate]
  split
  · nofun
  · split <;> nofun

/-- All but a refusal breaks the protocol. -/
theorem Unusable.toError_of_ne_refused {unusable : Unusable}
    (other : ∀ cause, unusable ≠ .refused cause) :
    ∃ rest, unusable.toError query =
      .protocol ("Failed to parse '" ++ query ++ rest) := by
  cases unusable with
  | refused cause => exact absurd rfl (other cause)
  | recordCount count =>
      exact ⟨_, by simp only [toError, String.append_assoc]; rfl⟩
  | unparsable cause =>
      exact ⟨_, by simp only [toError, String.append_assoc]; rfl⟩
  | incomplete =>
      exact ⟨_, by simp only [toError, String.append_assoc]; rfl⟩

theorem Unusable.toError_refused (cause : Error) :
    ∃ rest, (refused cause).toError query =
      .serviceUnavailable ("Failed to run '" ++ query ++ rest) :=
  ⟨_, by simp only [toError, String.append_assoc]; rfl⟩

theorem exactVerdict_of_error {error : Error} {released : Except Error Unit}
    {told : Except Error Composition}
    (refused : error.RefusesProcedure →
      told = .error ((Unusable.refused error).toError query))
    (failed : ¬ error.RefusesProcedure → told = .error error) :
    ExactVerdict query (.error error) released now told where
  sound := by
    intro composition
    by_cases refuses : error.RefusesProcedure
    · simp [refused refuses]
    · simp [failed refuses]
  refused := by
    rintro other ⟨rfl⟩ refuses
    rcases @Unusable.toError_refused query error with ⟨rest, equal⟩
    exact ⟨rest, by rw [refused refuses, equal]⟩
  failed := by
    rintro other ⟨rfl⟩ accepts
    exact failed accepts
  unreleased := nofun
  unusable := nofun

theorem exactVerdict_of_unreleased (records : List Record) (error : Error) :
    ExactVerdict query (.ok records) (.error error) now (.error error) where
  sound := by simp
  refused := nofun
  failed := nofun
  unreleased := by
    rintro others other ⟨⟩ ⟨rfl⟩
    rfl
  unusable := nofun

/-- A judgement that passes exactly the sound records, and takes none of the
others for a refusal, is told as it should be. -/
theorem exactVerdict_of_records {records : List Record}
    (judged : Except Unusable Composition)
    (sound : ∀ composition,
      judged = .ok composition ↔ Sound now composition records)
    (unrefused : ∀ cause, judged ≠ .error (.refused cause)) :
    ExactVerdict query (.ok records) (.ok ()) now
      (judged.mapError (Unusable.toError query)) where
  sound := by
    intro composition
    rw [mapError_eq_ok_iff, sound]
    simp
  refused := nofun
  failed := nofun
  unreleased := nofun
  unusable := by
    intro others same _ unsound
    cases same
    cases judged with
    | ok composition =>
        exact absurd ((sound composition).mp rfl) (unsound composition)
    | error unusable =>
        have other : ∀ cause, unusable ≠ .refused cause := by
          intro cause equal
          exact unrefused cause (congrArg Except.error equal)
        rcases @Unusable.toError_of_ne_refused query _ other with
          ⟨rest, equal⟩
        exact ⟨rest, congrArg Except.error equal⟩

theorem exactVerdict_of_record (record : Record) :
    ExactVerdict query (.ok [record]) (.ok ()) now
      ((validate now record).mapError (Unusable.toError query)) :=
  exactVerdict_of_records (validate now record) (fun _ => validate_ok_iff)
    (fun _ => validate_ne_refused)

theorem exactVerdict_of_length_ne {records : List Record}
    (count : records.length ≠ 1) :
    ExactVerdict query (.ok records) (.ok ()) now
      (.error ((Unusable.recordCount records.length).toError query)) := by
  have unsound (composition : Composition) :
      ¬ Sound now composition records := by
    intro sound
    cases sound
    exact count rfl
  exact exactVerdict_of_records (.error (.recordCount records.length))
    (fun composition => by simp [unsound composition]) (by simp)

/-- A verdict is exact at the moment at which the clock is read for it. -/
theorem exactVerdict_of_verdict {ran : Except Error (List Record)}
    {released : Except Error Unit} {turns : List Turn}
    {told : Except Error Composition}
    (verdict : Verdict query ran released turns told)
    (clock : ∀ moment, ⟨.clock, moment⟩ ∈ turns → moment = now) :
    ExactVerdict query ran released now told := by
  cases verdict with
  | failed error released accepts =>
      exact exactVerdict_of_error (fun refuses => absurd refuses accepts)
        (fun _ => rfl)
  | refused error released refuses =>
      exact exactVerdict_of_error (fun _ => rfl)
        (fun accepts => absurd refuses accepts)
  | unreleased records error => exact exactVerdict_of_unreleased records error
  | miscounted records count => exact exactVerdict_of_length_ne count
  | judged record moment =>
      have same := clock moment (List.mem_singleton.mpr rfl)
      rw [same]
      exact exactVerdict_of_record record

variable (answer : (request : Request) → Id request.Reply)

theorem exactVerdict_settle (ran : Except Error (List Record))
    (released : Except Error Unit) :
    ExactVerdict query ran released (answer .clock)
      (Id.run ((settle (Procedure.conclude query ran released)).run
        answer)) := by
  rcases (settle (Procedure.conclude query ran released)).minutes_steady answer
    with ⟨result, replies⟩
  rw [← result]
  apply exactVerdict_of_verdict (verdict_settle _ () query ran released)
  intro moment member
  exact replies _ member

/-- A router that has been reached tells a composition exactly if all goes
well, and else tells what has gone wrong first. -/
theorem exactVerdict_procedure (context : Context) (router : Address)
    (connection : Connection)
    (acquired : answer (.acquire router) = .ok connection) :
    let procedure := Procedure.forVersion context connection.version
    ExactVerdict procedure.query
      (answer (.run connection procedure.query procedure.parameters))
      (answer (.release connection)) (answer .clock)
      (Id.run ((Provider.procedure context router).run answer)) := by
  have connected : (Exchange.acquire router).run answer = .ok connection :=
    acquired
  rw [procedure_eq, Dialogue.run_bind, connected]
  exact exactVerdict_settle answer _ _

end Provider

namespace Handover

def member (role : Role) (address : Address) : Value :=
  .map [("role", .string role.name),
    ("addresses", .list [.string address.describe])]

def leaderless : Record :=
  .ofPairs [("ttl", .integer 300),
    ("servers", .list [member .route router, member .read follower])]

def answer : (request : Request) → Id request.Reply
  | .acquire address => .ok ⟨address, none, 0⟩
  | .run _ _ _ => .ok [leaderless]
  | .release _ => .ok ()
  | .compose _ => .ok (composition [] [])
  | .resolve address => .ok [address]
  | .clock => surroundings.now
  | .pause _ | .note _ => ()

end Handover

theorem Provider.exactVerdict_procedure_leaderless :
    let told := Id.run ((procedure .empty Handover.router).run
      Handover.answer)
    told.toOption =
        some (.ofLists 300000 [Handover.follower] [] [Handover.router]) ∧
      ExactVerdict Procedure.getRoutingTable (.ok [Handover.leaderless])
        (.ok ()) 0 told :=
  ⟨by decide +kernel,
    Provider.exactVerdict_procedure Handover.answer .empty Handover.router
      ⟨Handover.router, none, 0⟩ rfl⟩

end ClusterRouting
