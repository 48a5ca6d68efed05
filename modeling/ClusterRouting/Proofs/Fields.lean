import ClusterRouting.Proofs.Queries
import ClusterRouting.Settings.Serial
import Mathlib.Algebra.Group.Nat.Defs
import Mathlib.Data.List.Nodup
import Mathlib.Data.List.Perm.Subperm

/-! Fields: what the serial form of settings keeps of them.

Each field is written by itself and read by itself, so that it makes no
difference to a field which others are there. All that is lost is what the
delay has beyond whole milliseconds, or beyond 64 bits of them. -/

namespace ClusterRouting

/-! ## Values -/

namespace Json

theorem natural?_integer {bound number : Nat} (fits : number < bound) :
    (integer number).natural? bound = some number := by
  rw [natural?, if_pos ⟨Int.natCast_nonneg number, Int.ofNat_lt.mpr fits⟩]
  rfl

variable {fields left : List (String × Json)} {name : String} {value : Json}

/-- The last field with a name is the first one from behind. -/
theorem field?_eq_lookup (fields : List (String × Json)) (name : String) :
    field? fields name = fields.reverse.lookup name := by
  unfold field?
  induction fields.reverse with
  | nil => rfl
  | cons entry rest induction =>
      rw [List.find?_cons, List.lookup_cons, ← induction, BEq.comm]
      cases name == entry.1 <;> rfl

theorem field?_of_not_mem (absent : name ∉ fields.map (·.1)) :
    field? fields name = none := by
  rw [field?_eq_lookup, List.lookup_eq_none_iff]
  intro entry member
  rw [bne_iff_ne]
  intro named
  apply absent
  exact List.mem_map.mpr ⟨entry, List.mem_reverse.mp member, named.symm⟩

theorem field?_of_mem (once : (fields.map (·.1)).Nodup)
    (member : (name, value) ∈ fields) : field? fields name = some value := by
  rw [field?_eq_lookup]
  apply Value.lookup_of_mem
  · rw [List.map_reverse]
    exact List.nodup_reverse.mpr once
  · exact List.mem_reverse.mpr member

/-- Of the fields of an object, those that are left are found in whichever
order they are. -/
theorem field?_of_subperm (once : (fields.map (·.1)).Nodup)
    (part : left.Subperm fields) (member : (name, value) ∈ fields) :
    field? left name =
      if name ∈ left.map (·.1) then some value else none := by
  split
  · rename_i listed
    rcases List.mem_map.mp listed with ⟨⟨name, other⟩, inside, rfl⟩
    have same : other = value := by
      have equal := List.inj_on_of_nodup_map once (part.subset inside) member
      exact congrArg (·.2) (equal rfl)
    rcases part with ⟨between, perm, sublist⟩
    have onceLeft : (left.map (·.1)).Nodup :=
      (perm.map _).nodup_iff.mp ((sublist.map _).nodup once)
    rw [field?_of_mem onceLeft inside, same]
  · rename_i absent
    exact field?_of_not_mem absent

end Json

namespace Duration

def inMilliseconds (duration : Duration) : Duration :=
  .ofMilliseconds (.ofNat duration.milliseconds)

theorem ofJson?_toJson (duration : Duration) :
    ofJson? duration.toJson = some duration.inMilliseconds := by
  have small : duration.milliseconds % UInt64.size < UInt64.size :=
    Nat.mod_lt _ (by decide)
  rw [toJson, ofJson?, Json.natural?_integer small, Option.map_some,
    inMilliseconds]
  congr 2
  apply UInt64.toNat_inj.mp
  simp

theorem nanoseconds_inMilliseconds (duration : Duration) :
    duration.inMilliseconds.nanoseconds =
      duration.nanoseconds / 1000000 % 2 ^ 64 * 1000000 := by
  simp [inMilliseconds, ofMilliseconds, milliseconds]

theorem inMilliseconds_eq_iff {duration : Duration} :
    duration.inMilliseconds = duration ↔
      ∃ count < 2 ^ 64, duration.nanoseconds = count * 1000000 := by
  have same : duration.inMilliseconds = duration ↔
      duration.inMilliseconds.nanoseconds = duration.nanoseconds := by
    cases duration
    simp [inMilliseconds, ofMilliseconds]
  rw [same, nanoseconds_inMilliseconds]
  constructor
  · intro whole
    exact ⟨_, Nat.mod_lt _ (by decide), whole.symm⟩
  · intro whole
    rcases whole with ⟨count, small, equal⟩
    omega

end Duration

namespace Context

theorem addFields?_map {entries : List (String × String)}
    {context next : Context}
    (equal : next.entries = context.entries ++ entries) :
    addFields? context
      (entries.map fun (key, value) => (key, .text value)) = some next := by
  induction entries generalizing context with
  | nil =>
      rw [List.append_nil] at equal
      rw [ext equal]
      rfl
  | cons entry rest induction =>
      rcases entry with ⟨key, value⟩
      rcases exists_between equal with ⟨extended, added⟩
      have fresh : rest.any (·.1 == key) = false := by
        have once := next.nodup
        rw [equal, List.map_append, List.map_cons, List.nodup_append,
          List.nodup_cons] at once
        rw [List.any_eq_false]
        intro other member
        rw [beq_iff_eq]
        intro named
        exact once.2.1.1 (List.mem_map.mpr ⟨other, member, named⟩)
      rw [List.append_cons, ← added] at equal
      simp [addFields?, Json.text?, Function.comp_def, fresh,
        add?_eq_some_iff.mpr added, induction equal]

theorem ofJson?_toJson (context : Context) :
    ofJson? context.toJson = some context :=
  addFields?_map rfl

end Context

/-! ## Settings -/

inductive Setting where
  | maxRoutingFailures
  | retryDelay
  | backoff
  | routerOrder
  | policy
  | context
  deriving DecidableEq

namespace Setting

def all : List Setting :=
  [maxRoutingFailures, retryDelay, backoff, routerOrder, policy, context]

def name : Setting → String
  | maxRoutingFailures => "max_routing_failures"
  | retryDelay => "retry_timeout_delay"
  | backoff => "backoff"
  | routerOrder => "initial_router_order"
  | policy => "load_balancing"
  | context => "routing_context"

def Held : Setting → Type
  | maxRoutingFailures => UInt32
  | retryDelay => Duration
  | backoff => Backoff
  | routerOrder => RouterOrder
  | policy => Policy
  | context => Context

def get (settings : Settings) : (setting : Setting) → setting.Held
  | maxRoutingFailures => settings.maxRoutingFailures
  | retryDelay => settings.retryDelay
  | backoff => settings.backoff
  | routerOrder => settings.routerOrder
  | policy => settings.policy
  | context => settings.context

def write : (setting : Setting) → setting.Held → Json
  | maxRoutingFailures => fun count => .integer (UInt32.toNat count)
  | retryDelay => Duration.toJson
  | backoff => fun backoff => .text (Backoff.name backoff)
  | routerOrder => fun order => .text (RouterOrder.name order)
  | policy => fun policy => .text (Policy.name policy)
  | context => Context.toJson

def read? : (setting : Setting) → Json → Option setting.Held
  | maxRoutingFailures =>
      fun json => (json.natural? UInt32.size).map UInt32.ofNat
  | retryDelay => Duration.ofJson?
  | backoff => Backoff.ofJson?
  | routerOrder => RouterOrder.ofJson?
  | policy => Policy.ofJson?
  | context => Context.ofJson?

theorem mem_all (setting : Setting) : setting ∈ all := by
  cases setting <;> decide

theorem nodup_names : (all.map name).Nodup := by
  decide

def toSettings (value : (setting : Setting) → setting.Held) : Settings where
  maxRoutingFailures := value maxRoutingFailures
  retryDelay := value retryDelay
  backoff := value backoff
  routerOrder := value routerOrder
  policy := value policy
  context := value context

theorem get_toSettings (value : (setting : Setting) → setting.Held)
    (setting : Setting) : setting.get (toSettings value) = value setting := by
  cases setting <;> rfl

theorem toSettings_get (settings : Settings) :
    toSettings (fun setting => setting.get settings) = settings :=
  rfl

end Setting

namespace Settings

variable (settings : Settings)

def inMilliseconds : Settings :=
  { settings with retryDelay := settings.retryDelay.inMilliseconds }

theorem fields_toJson :
    settings.toJson.fields = Setting.all.map fun setting =>
      (setting.name, setting.write (setting.get settings)) :=
  rfl

theorem nodup_fields : (settings.toJson.fields.map (·.1)).Nodup := by
  rw [fields_toJson, List.map_map]
  exact Setting.nodup_names

theorem read?_write (setting : Setting) :
    setting.read? (setting.write (setting.get settings)) =
      some (setting.get settings.inMilliseconds) := by
  rcases settings with ⟨count, delay, backoff, order, policy, context⟩
  cases setting with
  | maxRoutingFailures =>
      change Option.map UInt32.ofNat
        ((Json.integer count.toNat).natural? UInt32.size) = some count
      rw [Json.natural?_integer count.toNat_lt_size, Option.map_some,
        UInt32.ofNat_toNat]
  | retryDelay => exact delay.ofJson?_toJson
  | backoff => cases backoff <;> rfl
  | routerOrder => cases order <;> rfl
  | policy => cases policy <;> rfl
  | context => exact context.ofJson?_toJson

variable {settings} {left : List (String × Json)}

/-- A setting that is left has its own value, and one that is not has the
standard value. -/
theorem readField_of_subperm (part : left.Subperm settings.toJson.fields)
    (setting : Setting) :
    readField (Json.field? left setting.name) setting.read? (setting.get {}) =
      some (if setting.name ∈ left.map (·.1) then
        setting.get settings.inMilliseconds else setting.get {}) := by
  have written : (setting.name, setting.write (setting.get settings)) ∈
      settings.toJson.fields := by
    rw [fields_toJson]
    exact List.mem_map_of_mem setting.mem_all
  rw [Json.field?_of_subperm settings.nodup_fields part written]
  split
  · exact settings.read?_write setting
  · rfl

theorem ofJson?_object (part : left.Subperm settings.toJson.fields) :
    ofJson? (.object left) = some (Setting.toSettings fun setting =>
      if setting.name ∈ left.map (·.1) then setting.get settings.inMilliseconds
      else setting.get {}) := by
  have reads := readField_of_subperm part
  rw [ofJson?, ofFields?]
  refine Option.bind_eq_some_iff.mpr ⟨_, reads .maxRoutingFailures, ?_⟩
  refine Option.bind_eq_some_iff.mpr ⟨_, reads .retryDelay, ?_⟩
  refine Option.bind_eq_some_iff.mpr ⟨_, reads .backoff, ?_⟩
  refine Option.bind_eq_some_iff.mpr ⟨_, reads .routerOrder, ?_⟩
  refine Option.bind_eq_some_iff.mpr ⟨_, reads .policy, ?_⟩
  refine Option.bind_eq_some_iff.mpr ⟨_, reads .context, ?_⟩
  rfl

theorem ofJson?_toJson (settings : Settings) :
    ofJson? settings.toJson = some settings.inMilliseconds := by
  have whole := ofJson?_object (List.Subperm.refl settings.toJson.fields)
  have present (setting : Setting) :
      setting.name ∈ settings.toJson.fields.map (·.1) := by
    rw [fields_toJson, List.map_map]
    exact List.mem_map_of_mem setting.mem_all
  simp only [present, if_true, Setting.toSettings_get] at whole
  exact whole

theorem inMilliseconds_eq_iff :
    settings.inMilliseconds = settings ↔
      settings.retryDelay.inMilliseconds = settings.retryDelay := by
  constructor
  · exact congrArg retryDelay
  · intro same
    rw [inMilliseconds, same]

end Settings

/-- The settings are the same but for the delay, of which the milliseconds are
left that fit into 64 bits. -/
structure Restores (settings restored : Settings) : Prop where
  delay : restored.retryDelay.nanoseconds =
    settings.retryDelay.nanoseconds / 1000000 % 2 ^ 64 * 1000000
  others : ∀ setting : Setting, setting ≠ .retryDelay →
    setting.get restored = setting.get settings

structure ExactSerial (settings : Settings) (outcome : Option Settings) :
    Prop where
  faithful : outcome = some settings ↔
    ∃ count < 2 ^ 64, settings.retryDelay.nanoseconds = count * 1000000
  restores : ∃ restored, outcome = some restored ∧ Restores settings restored
  /-- Whichever of the fields are left, and in whichever order, the others are
  as in the standard settings. -/
  part : ∀ restored, outcome = some restored →
    ∀ left : List (String × Json), left.Subperm settings.toJson.fields →
      ∃ read, Settings.ofJson? (.object left) = some read ∧
        ∀ setting : Setting, setting.get read =
          if setting.name ∈ left.map (·.1) then setting.get restored
          else setting.get {}

theorem Settings.restores_inMilliseconds (settings : Settings) :
    Restores settings settings.inMilliseconds where
  delay := settings.retryDelay.nanoseconds_inMilliseconds
  others := by
    intro setting other
    cases setting with
    | retryDelay => exact absurd rfl other
    | _ => rfl

theorem Settings.exactSerial_ofJson (settings : Settings) :
    ExactSerial settings (ofJson? settings.toJson) where
  faithful := by
    rw [ofJson?_toJson, Option.some.injEq, inMilliseconds_eq_iff,
      Duration.inMilliseconds_eq_iff]
  restores := ⟨_, settings.ofJson?_toJson, settings.restores_inMilliseconds⟩
  part := by
    intro restored found left part
    rw [ofJson?_toJson, Option.some.injEq] at found
    subst found
    exact ⟨_, ofJson?_object part, Setting.get_toSettings _⟩

example : Settings.ofJson? (.object []) = some {} := rfl

end ClusterRouting
