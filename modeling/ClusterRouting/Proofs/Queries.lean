import ClusterRouting.Procedure
import ClusterRouting.Proofs.Expiry
import ClusterRouting.Proofs.Texts
import Mathlib.Data.List.Forall2
import Mathlib.Data.List.Perm.Basic

/-! Queries: which queries of URIs are routing contexts, and what routers get
to see of them.

A query is a list of segments, each of which assigns a value to a key. Empty
segments do not count, and the order of the others makes no difference, since
no key occurs twice. -/

namespace ClusterRouting

namespace Context

def query (uri : String) : List Char :=
  (uri.toList.dropWhile (· != '?')).tail

def segments (query : List Char) : List (List Char) :=
  (query.splitOn '&').filter (!·.isEmpty)

/-- The segment assigns a value to a key: what follows its first equals sign to
what stands in front of it, neither of which is blank. -/
inductive Assigns : List Char → String × String → Prop
  | intro {left right : List Char} (first : '=' ∉ left)
      (key : Text.trim left ≠ []) (value : Text.trim right ≠ []) :
      Assigns (left ++ '=' :: right)
        (String.ofList (Text.trim left), String.ofList (Text.trim right))

theorem query_of_split {uri : String} {front rest : List Char}
    (split : uri.toList = front ++ '?' :: rest) (first : '?' ∉ front) :
    query uri = rest := by
  rw [query, split, List.dropWhile_append_of_pos (Text.bne_of_not_mem first),
    List.dropWhile_cons_of_neg (by decide), List.tail_cons]

theorem query_of_bare {uri : String} (bare : '?' ∉ uri.toList) :
    query uri = [] := by
  rw [query, List.dropWhile_eq_nil_iff.mpr (Text.bne_of_not_mem bare),
    List.tail_nil]

/-! ## Reading -/

variable {context next : Context} {key value uri : String}

theorem ext (same : context.entries = next.entries) : context = next := by
  rcases context with ⟨entries, nodup⟩
  rcases next with ⟨entries', nodup'⟩
  cases same
  rfl

theorem add?_eq_some_iff :
    context.add? key value = some next ↔
      next.entries = context.entries ++ [(key, value)] := by
  unfold add?
  split
  · rename_i known
    constructor
    · nofun
    · intro equal
      have once := next.nodup
      rw [equal, List.map_append, List.nodup_append] at once
      exact absurd rfl (once.2.2 key known key (by simp))
  · rw [Option.some.injEq]
    exact ⟨fun equal => equal ▸ rfl, fun equal => ext equal.symm⟩

/-- On the way to a context no key occurs twice either. -/
theorem exists_between {entry : String × String}
    {rest : List (String × String)}
    (equal : next.entries = context.entries ++ entry :: rest) :
    ∃ extended : Context, extended.entries = context.entries ++ [entry] := by
  have once := next.nodup
  rw [equal, List.append_cons, List.map_append] at once
  exact ⟨⟨_, (List.nodup_append.mp once).1⟩, rfl⟩

theorem assigns_iff {left right : List Char} {entry : String × String}
    (first : '=' ∉ left) :
    Assigns (left ++ '=' :: right) entry ↔
      (Text.trim left ≠ [] ∧ Text.trim right ≠ []) ∧
        entry = (String.ofList (Text.trim left),
          String.ofList (Text.trim right)) := by
  constructor
  · intro assigns
    generalize equal : left ++ '=' :: right = segment at assigns
    cases assigns with
    | intro first' key value =>
        rcases Text.eq_of_first first first' equal with ⟨rfl, rfl⟩
        exact ⟨⟨key, value⟩, rfl⟩
  · rintro ⟨⟨key, value⟩, rfl⟩
    exact .intro first key value

theorem addPairs_cons_eq_ok_iff {pair : List Char} {rest : List (List Char)} :
    addPairs uri context (pair :: rest) = .ok next ↔
      ∃ entry extended, Assigns pair entry ∧
        extended.entries = context.entries ++ [entry] ∧
          addPairs uri extended rest = .ok next := by
  rw [addPairs]
  cases cut : Text.cut? '=' pair with
  | none =>
      constructor
      · nofun
      · rintro ⟨_, _, ⟨_, _, _⟩, _⟩
        exact absurd (by simp) (Text.cut?_eq_none_iff.mp cut)
  | some parts =>
      rcases parts with ⟨left, right⟩
      rcases Text.cut?_eq_some_iff.mp cut with ⟨rfl, first⟩
      simp only [assigns_iff first, Bool.or_eq_true, List.isEmpty_iff]
      split
      · rename_i blank
        constructor
        · nofun
        · rintro ⟨_, _, ⟨⟨key, value⟩, _⟩, _⟩
          exact (blank.elim key value).elim
      · rename_i written
        rw [not_or] at written
        cases added : context.add? (String.ofList (Text.trim left))
            (String.ofList (Text.trim right)) with
        | none =>
            constructor
            · nofun
            · rintro ⟨_, extended, ⟨_, rfl⟩, equal, _⟩
              rw [add?_eq_some_iff.mpr equal] at added
              cases added
        | some extended =>
            constructor
            · intro found
              exact ⟨_, extended, ⟨written, rfl⟩,
                add?_eq_some_iff.mp added, found⟩
            · rintro ⟨_, extended', ⟨_, rfl⟩, equal, found⟩
              rw [add?_eq_some_iff.mpr equal] at added
              cases added
              exact found

theorem addPairs_eq_ok_iff {pairs : List (List Char)} :
    addPairs uri context pairs = .ok next ↔
      ∃ entries, List.Forall₂ Assigns pairs entries ∧
        next.entries = context.entries ++ entries := by
  induction pairs generalizing context with
  | nil =>
      rw [addPairs, Except.ok.injEq]
      simp only [List.forall₂_nil_left_iff, exists_eq_left, List.append_nil]
      exact ⟨fun equal => equal ▸ rfl, fun equal => ext equal.symm⟩
  | cons pair rest induction =>
      rw [addPairs_cons_eq_ok_iff]
      simp only [induction]
      constructor
      · rintro ⟨entry, extended, assigns, added, entries, all, equal⟩
        exact ⟨entry :: entries, .cons assigns all, by simp [equal, added]⟩
      · rintro ⟨_, _ | ⟨assigns, all⟩, equal⟩
        rename_i entry entries
        rcases exists_between equal with ⟨extended, added⟩
        rw [List.append_cons, ← added] at equal
        exact ⟨entry, extended, assigns, added, entries, all, equal⟩

theorem ofUri_eq : ofUri uri = addPairs uri empty (segments (query uri)) := by
  unfold ofUri segments
  by_cases marked : '?' ∈ uri.toList
  · rcases List.eq_append_cons_of_mem marked with ⟨front, rest, split, first⟩
    rw [query_of_split split first, split, Text.cut?_append first]
    simp only [Text.pieces_eq_splitOn]
  · rw [Text.cut?_eq_none_iff.mpr marked, query_of_bare marked]
    rfl

theorem ofUri_eq_ok_iff :
    ofUri uri = .ok context ↔
      List.Forall₂ Assigns (segments (query uri)) context.entries := by
  rw [ofUri_eq, addPairs_eq_ok_iff]
  simp [empty]

/-- Another order of the segments gives another order of the entries. -/
theorem ofUri_of_perm {other : String} (found : ofUri uri = .ok context)
    (reordered : (segments (query other)).Perm (segments (query uri))) :
    ∃ context', ofUri other = .ok context' ∧
      context'.entries.Perm context.entries := by
  rcases List.perm_comp_forall₂ reordered (ofUri_eq_ok_iff.mp found) with
    ⟨entries, all, perm⟩
  have once : (entries.map (·.1)).Nodup :=
    (perm.map _).nodup_iff.mpr context.nodup
  exact ⟨⟨entries, once⟩, ofUri_eq_ok_iff.mpr all, perm⟩

end Context

/-! ## Sending -/

namespace Version

theorem isBefore_iff {first second : Version} :
    first.isBefore second = true ↔
      first.major < second.major ∨
        first.major = second.major ∧
          (first.minor < second.minor ∨
            first.minor = second.minor ∧ first.patch < second.patch) := by
  simp only [isBefore, order, beq_iff_eq, Ordering.then_eq_lt,
    Std.compare_eq_lt, Std.compare_eq_iff_eq]

theorem isBefore_contextual_iff {version : Version} :
    version.isBefore contextual = true ↔
      version.major < 3 ∨ version.major = 3 ∧ version.minor < 2 := by
  have last : ¬ version.patch < contextual.patch := UInt32.not_lt_zero
  simp [isBefore_iff, contextual]

end Version

namespace Value

theorem lookup_of_mem {Held : Type} {entries : List (String × Held)}
    (once : (entries.map (·.1)).Nodup) {key : String} {held : Held}
    (member : (key, held) ∈ entries) : entries.lookup key = some held := by
  rcases List.append_of_mem member with ⟨before, after, rfl⟩
  refine List.lookup_eq_some_iff.mpr ⟨before, after, rfl, ?_⟩
  intro other earlier
  rw [List.map_append, List.nodup_append] at once
  rw [bne_iff_ne]
  intro equal
  exact once.2.2 other.1 (List.mem_map_of_mem earlier) key (by simp)
    equal.symm

theorem sameEntries_iff {left right : List (String × Value)} :
    sameEntries left right = true ↔
      ∀ entry ∈ left, ∃ other, right.lookup entry.1 = some other ∧
        same entry.2 other = true := by
  induction left with
  | nil => simp [sameEntries]
  | cons entry rest induction =>
      rw [sameEntries, Bool.and_eq_true, induction, List.forall_mem_cons]
      cases right.lookup entry.1 <;> simp

def ofTexts (entries : List (String × String)) : List (String × Value) :=
  entries.map fun (key, text) => (key, .string text)

/-- Maps with the same entries are the same, in whichever order these are. -/
theorem same_map_ofTexts {first second : List (String × String)}
    (once : (second.map (·.1)).Nodup) (perm : first.Perm second) :
    same (.map (ofTexts first)) (.map (ofTexts second)) = true := by
  have keys : ((ofTexts second).map (·.1)).Nodup := by
    simpa [ofTexts, Function.comp_def] using once
  rw [same, Bool.and_eq_true, beq_iff_eq, sameEntries_iff]
  constructor
  · simpa [ofTexts] using perm.length_eq
  · intro entry member
    rcases List.mem_map.mp member with ⟨⟨key, text⟩, listed, rfl⟩
    have found : (key, .string text) ∈ ofTexts second :=
      List.mem_map.mpr ⟨(key, text), perm.mem_iff.mp listed, rfl⟩
    exact ⟨_, lookup_of_mem keys found, by simp [same]⟩

end Value

/-- What comes of a URI whose query is read as a routing context, and what the
routing procedures make of it. -/
structure ExactQuery (uri : String) (outcome : Except Error Context) :
    Prop where
  bare : '?' ∉ uri.toList → outcome = .ok .empty
  accepts : (∃ context, outcome = .ok context) ↔
    ∃ entries,
      List.Forall₂ Context.Assigns (Context.segments (Context.query uri))
        entries ∧
      (entries.map (·.1)).Nodup
  rejects : (∀ context, outcome ≠ .ok context) →
    ∃ message, outcome = .error (.configuration message)
  sends : ∀ context version?, outcome = .ok context →
    (∀ version : Version, version? = some version →
      ¬ (version.major < 3 ∨ version.major = 3 ∧ version.minor < 2)) →
      ∃ entries,
        List.Forall₂ Context.Assigns (Context.segments (Context.query uri))
          entries ∧
        (entries.map (·.1)).Nodup ∧
        (Procedure.forVersion context version?).parameters =
          [("context", .map (Value.ofTexts entries))]
  withholds : ∀ context (version : Version), outcome = .ok context →
    version.major < 3 ∨ version.major = 3 ∧ version.minor < 2 →
      (Procedure.forVersion context (some version)).parameters = []
  unordered : ∀ context other, outcome = .ok context →
    (Context.segments (Context.query other)).Perm
      (Context.segments (Context.query uri)) →
      ∃ context', Context.ofUri other = .ok context' ∧
        context'.entries.Perm context.entries ∧
        context'.toValue.same context.toValue = true

theorem Context.exactQuery_ofUri (uri : String) :
    ExactQuery uri ((ofUri uri).mapError Malformed.toError) where
  bare := by
    intro bare
    rw [ofUri, Text.cut?_eq_none_iff.mpr bare]
    rfl
  accepts := by
    simp only [mapError_eq_ok_iff, ofUri_eq_ok_iff]
    constructor
    · rintro ⟨context, all⟩
      exact ⟨context.entries, all, context.nodup⟩
    · rintro ⟨entries, all, once⟩
      exact ⟨⟨entries, once⟩, all⟩
  rejects := by
    intro rejected
    cases outcome : ofUri uri with
    | ok context => exact absurd (by rw [outcome]; rfl) (rejected context)
    | error malformed => exact ⟨malformed.message, rfl⟩
  sends := by
    intro context version? found recent
    rw [mapError_eq_ok_iff, ofUri_eq_ok_iff] at found
    refine ⟨context.entries, found, context.nodup, ?_⟩
    cases version? with
    | none => rfl
    | some version =>
        have late := recent version rfl
        rw [← Version.isBefore_contextual_iff] at late
        simp only [Procedure.forVersion, if_neg late]
        rfl
  withholds := by
    intro context version _ early
    rw [← Version.isBefore_contextual_iff] at early
    simp only [Procedure.forVersion, if_pos early]
  unordered := by
    intro context other found reordered
    rw [mapError_eq_ok_iff] at found
    rcases ofUri_of_perm found reordered with ⟨context', found', perm⟩
    exact ⟨context', found', perm,
      Value.same_map_ofTexts context.nodup perm⟩

end ClusterRouting
