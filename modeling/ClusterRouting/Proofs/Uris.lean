import ClusterRouting.Proofs.Forms
import ClusterRouting.Proofs.Inquiries
import ClusterRouting.Proofs.Queries
import ClusterRouting.Proofs.Readings

/-! URIs: which of them name a router, and the balancers that they open.

Scheme, address and query are looked for one by one, each in the whole URI.
They lie where a reader of the URI would look for them, even if a path or a
query holds what marks the other parts. -/

namespace ClusterRouting

namespace Balancer

def schemes : List String :=
  ["zeta4g://", "zeta4g+s://", "zeta4g+ssc://"]

/-- The parts of a routing URI. The authority reaches up to the path or the
query, or to the end if there is neither. -/
structure Parts (uri scheme : String) (authority rest : List Char) :
    Prop where
  routing : scheme ∈ schemes
  split : uri.toList = scheme.toList ++ (authority ++ rest)
  plain : ∀ character ∈ authority, character ≠ '/' ∧ character ≠ '?'
  ends : ∀ first, rest.head? = some first → first = '/' ∨ first = '?'

variable {uri scheme : String} {authority rest text : List Char}

theorem isRoutingUri_iff :
    isRoutingUri uri = true ↔
      ∃ scheme ∈ schemes, scheme.toList <+: uri.toList := by
  simp [isRoutingUri, schemes, Text.begins_iff, or_assoc]

theorem after_scheme (routing : scheme ∈ schemes) :
    Text.after? "://".toList (scheme.toList ++ text) = some text := by
  simp only [schemes, List.mem_cons, List.not_mem_nil, or_false] at routing
  rcases routing with rfl | rfl | rfl <;> rfl

theorem takeWhile_authority
    (plain : ∀ character ∈ authority, character ≠ '/' ∧ character ≠ '?')
    (ends : ∀ first, rest.head? = some first → first = '/' ∨ first = '?') :
    ((authority ++ rest).takeWhile fun character =>
      character != '/' && character != '?') = authority := by
  apply Text.takeWhile_append
  · intro character member
    simpa using plain character member
  · intro first found
    rcases ends first found with rfl | rfl <;> rfl

theorem Parts.authority_eq (parts : Parts uri scheme authority rest) :
    Address.authority uri = String.ofList authority := by
  rw [Address.authority, parts.split, after_scheme parts.routing,
    Option.getD_some, takeWhile_authority parts.plain parts.ends]

theorem exists_parts (routing : isRoutingUri uri = true) :
    ∃ scheme authority rest, Parts uri scheme authority rest := by
  rcases isRoutingUri_iff.mp routing with ⟨scheme, member, text, split⟩
  let isPlain (character : Char) : Bool :=
    character != '/' && character != '?'
  refine ⟨scheme, text.takeWhile isPlain, text.dropWhile isPlain, member, ?_,
    ?_, ?_⟩
  · rw [List.takeWhile_append_dropWhile, split]
  · intro character member
    simpa [isPlain] using List.mem_takeWhile_imp member
  · intro first found
    have stopped := List.head?_dropWhile_not isPlain text
    rw [found] at stopped
    simpa [isPlain, imp_iff_not_or] using stopped

theorem Parts.isRoutingUri (parts : Parts uri scheme authority rest) :
    isRoutingUri uri = true :=
  isRoutingUri_iff.mpr
    ⟨scheme, parts.routing, parts.split ▸ List.prefix_append _ _⟩

/-! ## Opening -/

variable {settings : Settings} {balancer : Balancer}

def withContext (settings : Settings) (context : Context) : Settings :=
  { settings with
    context := if context.isDefined then context else settings.context }

theorem context_withContext (settings : Settings) (context : Context) :
    (withContext settings context).context =
      if context.entries = [] then settings.context else context := by
  unfold withContext Context.isDefined
  cases context.entries <;> rfl

theorem ofUri_eq_ok_iff :
    ofUri uri settings = .ok balancer ↔
      isRoutingUri uri = true ∧
        ∃ address context, Address.ofUri uri = .ok address ∧
          Context.ofUri uri = .ok context ∧
            balancer = ofRouter address (withContext settings context) := by
  unfold ofUri
  cases routing : Balancer.isRoutingUri uri with
  | false => simp
  | true =>
      simp only [if_true, bind_eq_ok_iff, mapError_eq_ok_iff, true_and,
        Except.ok.injEq]
      constructor
      · rintro ⟨address, parsed, context, read, rfl⟩
        exact ⟨address, context, parsed, read, rfl⟩
      · rintro ⟨address, context, parsed, read, rfl⟩
        exact ⟨address, parsed, context, read, rfl⟩

theorem ofUri_eq_error {error : Error}
    (failed : ofUri uri settings = .error error) :
    ∃ message, error = .configuration message := by
  unfold ofUri at failed
  split at failed
  · cases parsed : Address.ofUri uri with
    | error malformed =>
        rw [parsed] at failed
        cases failed
        exact ⟨malformed.message, rfl⟩
    | ok address =>
        cases read : Context.ofUri uri with
        | error malformed =>
            rw [parsed, read] at failed
            cases failed
            exact ⟨malformed.message, rfl⟩
        | ok context =>
            rw [parsed, read] at failed
            cases failed
  · cases failed
    exact ⟨_, rfl⟩

structure Opened (balancer : Balancer) (router : Address) (context : Context) :
    Prop where
  routers : balancer.table.routers.toList = [router]
  stale : ∀ now mode, balancer.table.isStaleFor now mode = true
  provider : balancer.provider = Provider.procedure context
  asks : ∀ inputs, ∀ step ∈ (System.mk balancer []).trace inputs,
    ∀ connection query parameters,
      .ask (.run connection query parameters) ∈ step.effects →
        Procedure.mk query parameters =
          .forVersion context connection.version

theorem opened_ofRouter (router : Address) (settings : Settings) :
    Opened (ofRouter router settings) router settings.context where
  routers := by
    exact eraseDups_of_nodup (List.nodup_singleton router)
  stale := by
    intro now mode
    cases mode <;> simp [ofRouter, Table.ofRouters, Table.isStaleFor,
      Table.servers, Roster.isEmpty]
  provider := rfl
  asks := by
    intro inputs step member connection query parameters asked
    have initial : (ofRouter router settings).Follows settings.context :=
      ⟨Provider.follows_procedure _, by simp [ofRouter]⟩
    exact System.follows_of_ask initial member asked

inductive IsQuery : List Char → Prop
  | none : IsQuery []
  | some {query : List Char} {entries : List (String × String)}
      (assigns : List.Forall₂ Context.Assigns (Context.segments query) entries)
      (once : (entries.map (·.1)).Nodup) : IsQuery ('?' :: query)

theorem exists_context {front written : List Char} (isQuery : IsQuery written)
    (unmarked : '?' ∉ front) (split : uri.toList = front ++ written) :
    ∃ context, Context.ofUri uri = .ok context := by
  cases isQuery with
  | none =>
      rw [List.append_nil] at split
      refine ⟨.empty, Context.ofUri_eq_ok_iff.mpr ?_⟩
      rw [Context.query_of_bare (split ▸ unmarked)]
      exact .nil
  | some assigns once =>
      refine ⟨⟨_, once⟩, Context.ofUri_eq_ok_iff.mpr ?_⟩
      rw [Context.query_of_split split unmarked]
      exact assigns

/-- The parts of a URI that is put together from them. -/
theorem parts_of_written {address : Address} {path : String}
    {written : List Char} (routing : scheme ∈ schemes)
    (slash : '/' ∉ address.host.toList) (mark : '?' ∉ address.host.toList)
    (leading : path.toList = [] ∨ path.toList.head? = some '/')
    (isQuery : IsQuery written)
    (split : uri.toList = scheme.toList ++
      (address.describe.toList ++ (path.toList ++ written))) :
    Parts uri scheme address.describe.toList (path.toList ++ written) where
  routing := routing
  split := split
  plain := by
    have slash := address.not_mem_describe slash (by decide) (by decide)
    have mark := address.not_mem_describe mark (by decide) (by decide)
    intro character member
    exact ⟨fun same => slash (same ▸ member), fun same => mark (same ▸ member)⟩
  ends := by
    intro first found
    rcases leading with empty | leading
    · rw [empty, List.nil_append] at found
      cases isQuery with
      | none => cases found
      | some assigns once =>
          cases found
          exact .inr rfl
    · rcases List.head?_eq_some_iff.mp leading with ⟨rest, equal⟩
      rw [equal] at found
      cases found
      exact .inl rfl

theorem mark_not_mem_scheme (routing : scheme ∈ schemes) :
    '?' ∉ scheme.toList := by
  simp only [schemes, List.mem_cons, List.not_mem_nil, or_false] at routing
  rcases routing with rfl | rfl | rfl <;> decide

structure ExactOpening (uri : String) (settings : Settings)
    (outcome : Except Error Balancer) : Prop where
  accepts : (∃ balancer, outcome = .ok balancer) ↔
    ∃ scheme authority rest, Parts uri scheme authority rest ∧
      (∃ address,
        Address.parse (String.ofList authority) = .ok address) ∧
      ∃ context, Context.ofUri uri = .ok context
  rejects : (∀ balancer, outcome ≠ .ok balancer) →
    ∃ message, outcome = .error (.configuration message)
  opens : ∀ balancer, outcome = .ok balancer →
    ∀ scheme authority rest, Parts uri scheme authority rest →
      ∀ address context,
        Address.parse (String.ofList authority) = .ok address →
          Context.ofUri uri = .ok context →
            Opened balancer address
              (if context.entries = [] then settings.context else context)
  /-- An address that can be read back comes back from every URI into which it
  is written. -/
  seeds : ∀ scheme ∈ schemes, ∀ (address : Address) (path query : String),
    Address.parse address.describe = .ok address →
      '/' ∉ address.host.toList → '?' ∉ address.host.toList →
        path.toList = [] ∨ path.toList.head? = some '/' →
          '?' ∉ path.toList → IsQuery query.toList →
            uri = scheme ++ address.describe ++ path ++ query →
              ∃ balancer, outcome = .ok balancer ∧
                balancer.table.routers.toList = [address]

theorem exactOpening_ofUri (uri : String) (settings : Settings) :
    ExactOpening uri settings (ofUri uri settings) where
  accepts := by
    constructor
    · rintro ⟨balancer, opened⟩
      rcases ofUri_eq_ok_iff.mp opened with
        ⟨routing, address, context, parsed, read, _⟩
      rcases exists_parts routing with ⟨scheme, authority, rest, parts⟩
      rw [Address.ofUri, parts.authority_eq] at parsed
      exact ⟨scheme, authority, rest, parts, ⟨address, parsed⟩, context, read⟩
    · rintro ⟨scheme, authority, rest, parts, ⟨address, parsed⟩, context, read⟩
      rw [← parts.authority_eq] at parsed
      exact ⟨_, ofUri_eq_ok_iff.mpr
        ⟨parts.isRoutingUri, address, context, parsed, read, rfl⟩⟩
  rejects := by
    intro rejected
    cases outcome : ofUri uri settings with
    | ok balancer => exact absurd outcome (rejected balancer)
    | error error =>
        rcases ofUri_eq_error outcome with ⟨message, rfl⟩
        exact ⟨message, rfl⟩
  opens := by
    intro balancer opened scheme authority rest parts address context parsed
      read
    rcases ofUri_eq_ok_iff.mp opened with
      ⟨_, address', context', parsed', read', rfl⟩
    rw [Address.ofUri, parts.authority_eq, parsed] at parsed'
    rw [read] at read'
    cases parsed'
    cases read'
    rw [← context_withContext]
    exact opened_ofRouter address _
  seeds := by
    intro scheme routing address path query readable slash mark leading
      unmarked isQuery equal
    have split : uri.toList = scheme.toList ++
        (address.describe.toList ++ (path.toList ++ query.toList)) := by
      simp [equal]
    have parts :=
      parts_of_written routing slash mark leading isQuery split
    have front : '?' ∉
        scheme.toList ++ (address.describe.toList ++ path.toList) := by
      have described := address.not_mem_describe mark (by decide) (by decide)
      simp [mark_not_mem_scheme routing, described, unmarked]
    have whole : uri.toList = (scheme.toList ++
        (address.describe.toList ++ path.toList)) ++ query.toList := by
      simp [split]
    rcases exists_context isQuery front whole with ⟨context, read⟩
    have parsed : Address.ofUri uri = .ok address := by
      rw [Address.ofUri, parts.authority_eq, String.ofList_toList, readable]
    exact ⟨_, ofUri_eq_ok_iff.mpr
      ⟨parts.isRoutingUri, address, context, parsed, read, rfl⟩,
      (opened_ofRouter address _).routers⟩

end Balancer

end ClusterRouting
