import ClusterRouting.Proofs.Accounts
import ClusterRouting.Proofs.Expiry
import ClusterRouting.Proofs.Forms
import ClusterRouting.Proofs.Rosters
import Mathlib.Data.List.Forall2

/-! Readings: which records are compositions, and what they say.

A record tells of a time to live and of a list of entries, each of which enrols
some addresses for a role. It is read if it tells of both, and rejected with a
protocol error otherwise. Nothing else that it holds is looked at. -/

namespace ClusterRouting

/-! ## What records tell -/

def Record.Shows (record : Record) (name : String) (value : Value) : Prop :=
  ∃ column : Nat, record.keys[column]? = some name ∧
    (∀ later : Nat, column < later → record.keys[later]? ≠ some name) ∧
      record.values[column]? = some value

def Value.Writes (value : Value) (address : Address) : Prop :=
  ∃ text, value = .string text ∧ Address.parse text = .ok address

def Value.Enrols (value : Value) (entry : Role × List Address) : Prop :=
  ∃ fields text values, value = .map fields ∧
    fields.lookup "role" = some (.string text) ∧
      Text.capitals text.toList = entry.1.name.toList ∧
        fields.lookup "addresses" = some (.list values) ∧
          List.Forall₂ Writes values entry.2

def Record.Tells (record : Record) (ttl : Int64)
    (entries : List (Role × List Address)) : Prop :=
  record.Shows "ttl" (.integer ttl) ∧
    ∃ servers, record.Shows "servers" (.list servers) ∧
      List.Forall₂ Value.Enrols servers entries

namespace Record

theorem lastIndex?_concat (keys : List String) (last key : String) :
    lastIndex? key (keys ++ [last]) =
      if last = key then some keys.length else lastIndex? key keys := by
  rw [lastIndex?, lastIndex?, List.reverse_append, List.reverse_singleton,
    List.singleton_append, List.findIdx?_cons]
  by_cases same : last = key
  · simp [same]
  · simp only [beq_eq_false_iff_ne.mpr same, if_neg same, Option.map_map,
      Bool.false_eq_true, if_false]
    apply Option.map_congr
    intro place _
    simp only [Function.comp_apply, List.length_append, List.length_singleton]
    omega

theorem lastIndex?_eq_some_iff {keys : List String} {key : String}
    {column : Nat} :
    lastIndex? key keys = some column ↔
      keys[column]? = some key ∧
        ∀ later : Nat, column < later → keys[later]? ≠ some key := by
  induction keys using List.reverseRecOn generalizing column with
  | nil => simp [lastIndex?]
  | append_singleton keys last induction =>
      rw [lastIndex?_concat]
      by_cases same : last = key
      · rw [if_pos same, same, Option.some.injEq]
        constructor
        · rintro rfl
          refine ⟨List.getElem?_concat_length, ?_⟩
          intro later after
          rw [List.getElem?_eq_none (by simp; omega)]
          exact (Option.some_ne_none key).symm
        · rintro ⟨found, last⟩
          have bound := (List.getElem?_eq_some_iff.mp found).1
          have final : ¬ column < keys.length := fun before =>
            last keys.length before List.getElem?_concat_length
          rw [List.length_append, List.length_singleton] at bound
          omega
      · have kept (place : Nat) :
            (keys ++ [last])[place]? = some key ↔ keys[place]? = some key := by
          rw [List.getElem?_append]
          split
          · exact Iff.rfl
          · rw [List.getElem?_singleton, List.getElem?_eq_none (by omega)]
            simp [same]
        rw [if_neg same, induction, kept]
        simp only [ne_eq, kept]

theorem get?_eq_some_iff {record : Record} {key : String} {value : Value} :
    record.get? key = some value ↔ record.Shows key value := by
  simp only [get?, Option.bind_eq_some_iff, lastIndex?_eq_some_iff, Shows,
    and_assoc]

end Record

namespace Value

variable {value : Value}

theorem integer?_eq_some_iff {number : Int64} :
    value.integer? = some number ↔ value = .integer number := by
  cases value <;> simp [integer?]

theorem string?_eq_some_iff {text : String} :
    value.string? = some text ↔ value = .string text := by
  cases value <;> simp [string?]

theorem list?_eq_some_iff {items : List Value} :
    value.list? = some items ↔ value = .list items := by
  cases value <;> simp [list?]

theorem map?_eq_some_iff {fields : List (String × Value)} :
    value.map? = some fields ↔ value = .map fields := by
  cases value <;> simp [map?]

end Value

theorem Role.parse?_eq_some_iff {text : String} {role : Role} :
    Role.parse? text = some role ↔
      Text.capitals text.toList = role.name.toList := by
  have names (first second : Role)
      (same : first.name.toList = second.name.toList) : first = second := by
    revert same
    cases first <;> cases second <;> decide
  unfold parse? Text.spells
  constructor
  · intro found
    exact eq_of_beq (List.find?_some found :)
  · intro written
    have named (other : Role) :
        (Text.capitals text.toList == other.name.toList) =
          decide (role = other) := by
      rw [written, Bool.eq_iff_iff, beq_iff_eq, decide_eq_true_iff]
      exact ⟨names role other, fun same => same ▸ rfl⟩
    simp only [named]
    cases role <;> decide

theorem bind_eq_ok_iff {Failure First Second : Type}
    {outcome : Except Failure First} {next : First → Except Failure Second}
    {result : Second} :
    outcome >>= next = .ok result ↔
      ∃ found, outcome = .ok found ∧ next found = .ok result := by
  cases outcome with
  | error failure => exact ⟨nofun, nofun⟩
  | ok found =>
      constructor
      · intro succeeded
        exact ⟨found, rfl, succeeded⟩
      · rintro ⟨_, ⟨⟩, succeeded⟩
        exact succeeded

theorem mapM_eq_ok_iff {Failure First Second : Type}
    {read : First → Except Failure Second} {values : List First}
    {results : List Second} :
    values.mapM read = .ok results ↔
      List.Forall₂ (fun value result => read value = .ok result) values
        results := by
  induction values generalizing results with
  | nil =>
      rw [List.mapM_nil, List.forall₂_nil_left_iff]
      exact ⟨fun same => (Except.ok.inj same).symm, fun same => same ▸ rfl⟩
  | cons value rest induction =>
      rw [List.mapM_cons, bind_eq_ok_iff]
      simp only [bind_eq_ok_iff, induction]
      constructor
      · rintro ⟨first, found, others, all, ⟨⟩⟩
        exact .cons found all
      · rintro (_ | ⟨found, all⟩)
        exact ⟨_, found, _, all, rfl⟩

namespace Composition

theorem require_eq_ok_iff {Held : Type} {held : Option Held}
    {malformed : Malformed} {value : Held} :
    require held malformed = .ok value ↔ held = some value := by
  cases held with
  | none => exact ⟨nofun, nofun⟩
  | some other => simp [require]

theorem readAddress_eq_ok_iff {value : Value} {address : Address} :
    readAddress value = .ok address ↔ value.Writes address := by
  simp only [readAddress, bind_eq_ok_iff, require_eq_ok_iff,
    Value.string?_eq_some_iff, Value.Writes]
  apply exists_congr
  intro text
  apply and_congr_right
  intro _
  cases Address.parse text with
  | ok found => simp
  | error cause => simp

theorem readEntry_eq_ok_iff {value : Value} {entry : Role × List Address} :
    readEntry value = .ok entry ↔ value.Enrols entry := by
  simp only [readEntry, bind_eq_ok_iff, require_eq_ok_iff,
    Role.parse?_eq_some_iff, mapM_eq_ok_iff, readAddress_eq_ok_iff,
    Option.bind_eq_some_iff, Value.map?_eq_some_iff,
    Value.string?_eq_some_iff, Value.list?_eq_some_iff]
  constructor
  · rintro ⟨fields, rfl, text, ⟨_, worded, rfl⟩, role, named, values,
      ⟨_, listed, rfl⟩, addresses, written, ⟨⟩⟩
    exact ⟨fields, text, values, rfl, worded, named, listed, written⟩
  · rintro ⟨fields, text, values, rfl, worded, named, listed, written⟩
    exact ⟨fields, rfl, text, ⟨_, worded, rfl⟩, entry.1, named, values,
      ⟨_, listed, rfl⟩, entry.2, written, rfl⟩

def ofEntries (expires : Timestamp) (entries : List (Role × List Address)) :
    Composition :=
  ofLists expires (ofRole .read entries) (ofRole .write entries)
    (ofRole .route entries)

theorem members_ofEntries (expires : Timestamp)
    (entries : List (Role × List Address)) (role : Role) :
    (ofEntries expires entries).members role =
      .ofList (ofRole role entries) := by
  cases role <;> rfl

variable {record : Record} {now : Timestamp} {composition : Composition}

theorem parse_eq_ok_iff :
    parse record now = .ok composition ↔
      ∃ ttl entries, record.Tells ttl entries ∧
        composition = ofEntries (expiry now ttl) entries := by
  simp only [parse, mapError_eq_ok_iff, read, bind_eq_ok_iff,
    require_eq_ok_iff, mapM_eq_ok_iff, readEntry_eq_ok_iff,
    Option.bind_eq_some_iff, Record.get?_eq_some_iff,
    Value.integer?_eq_some_iff, Value.list?_eq_some_iff]
  constructor
  · rintro ⟨ttl, ⟨_, timed, rfl⟩, servers, ⟨_, served, rfl⟩, entries, listed,
      ⟨⟩⟩
    exact ⟨ttl, entries, ⟨timed, servers, served, listed⟩, rfl⟩
  · rintro ⟨ttl, entries, ⟨timed, servers, served, listed⟩, rfl⟩
    exact ⟨ttl, ⟨_, timed, rfl⟩, servers, ⟨_, served, rfl⟩, entries, listed,
      rfl⟩

theorem parse_of_tells {ttl : Int64} {entries : List (Role × List Address)}
    (tells : record.Tells ttl entries) :
    parse record now = .ok (ofEntries (expiry now ttl) entries) :=
  parse_eq_ok_iff.mpr ⟨ttl, entries, tells, rfl⟩

/-- Nothing but a protocol error comes out of a record that is rejected. -/
theorem exists_reason_of_parse {error : Error}
    (failed : parse record now = .error error) :
    ∃ reason, error = .protocol
      ("Unable to parse routing record " ++ record.describe ++ ": " ++
        reason) := by
  rw [parse] at failed
  cases outcome : read record now with
  | ok composition =>
      rw [outcome] at failed
      cases failed
  | error malformed =>
      rw [outcome] at failed
      cases failed
      exact ⟨malformed.reason, rfl⟩

end Composition

/-! ## What else records hold -/

namespace Record

def widen (record : Record) (place : Nat) (name : String) (value : Value) :
    Record :=
  ⟨record.keys.insertIdx place name, record.values.insertIdx place value⟩

def shift (place column : Nat) : Nat :=
  if column < place then column else column + 1

theorem shift_lt_shift {place first second : Nat} :
    shift place first < shift place second ↔ first < second := by
  unfold shift
  split <;> split <;> omega

theorem getElem?_insertIdx_shift {Entry : Type} (entries : List Entry)
    (place : Nat) (extra : Entry) (column : Nat) :
    (entries.insertIdx place extra)[shift place column]? =
      entries[column]? := by
  rw [List.getElem?_insertIdx, shift]
  split
  · rfl
  · rw [if_neg (by omega), if_neg (by omega), Nat.add_sub_cancel]

/-- Whatever differs from the entry at `place` was there before. -/
theorem exists_shift {Entry : Type} {entries : List Entry} {place : Nat}
    {extra entry : Entry} (different : extra ≠ entry) {column : Nat}
    (found : (entries.insertIdx place extra)[column]? = some entry) :
    ∃ old, column = shift place old := by
  rcases Nat.lt_trichotomy column place with before | same | after
  · exact ⟨column, (if_pos before).symm⟩
  · rw [same, List.getElem?_insertIdx_self] at found
    split at found
    · exact absurd (Option.some.inj found) different
    · cases found
  · refine ⟨column - 1, ?_⟩
    rw [shift, if_neg (by omega)]
    omega

theorem shows_widen {record : Record} {place : Nat} {name other : String}
    {value extra : Value} (different : other ≠ name) :
    (record.widen place other extra).Shows name value ↔
      record.Shows name value := by
  constructor
  · rintro ⟨column, named, last, found⟩
    rcases exists_shift different named with ⟨old, rfl⟩
    rw [widen, getElem?_insertIdx_shift] at named found
    refine ⟨old, named, ?_, found⟩
    intro later after again
    apply last (shift place later) (shift_lt_shift.mpr after)
    rw [widen, getElem?_insertIdx_shift]
    exact again
  · rintro ⟨column, named, last, found⟩
    refine ⟨shift place column, ?_, ?_, ?_⟩
    · rw [widen, getElem?_insertIdx_shift]
      exact named
    · intro later after again
      rcases exists_shift different again with ⟨old, rfl⟩
      rw [widen, getElem?_insertIdx_shift] at again
      exact last old (shift_lt_shift.mp after) again
    · rw [widen, getElem?_insertIdx_shift]
      exact found

/-- A change of the value in one column makes no difference to what the change
keeps. -/
theorem exists_shows_modify {Kept : Value → Prop} {change : Value → Value}
    (kept : ∀ value, Kept (change value) ↔ Kept value) {record : Record}
    {column : Nat} {name : String} :
    (∃ value, Shows ⟨record.keys, record.values.modify column change⟩ name
        value ∧ Kept value) ↔
      ∃ value, record.Shows name value ∧ Kept value := by
  constructor
  · rintro ⟨_, ⟨place, named, last, found⟩, holds⟩
    rw [List.getElem?_modify, Option.map_eq_map, Option.map_eq_some_iff]
      at found
    rcases found with ⟨value, found, rfl⟩
    refine ⟨value, ⟨place, named, last, found⟩, ?_⟩
    split at holds
    · exact (kept value).mp holds
    · exact holds
  · rintro ⟨value, ⟨place, named, last, found⟩, holds⟩
    refine ⟨if column = place then change value else value,
      ⟨place, named, last, ?_⟩, ?_⟩
    · rw [List.getElem?_modify, found]
      rfl
    · split
      · exact (kept value).mpr holds
      · exact holds

end Record

theorem forall₂_modify {First Second : Type} {Fits : First → Second → Prop}
    {change : First → First}
    (kept : ∀ first second, Fits (change first) second ↔ Fits first second)
    (index : Nat) (firsts : List First) (seconds : List Second) :
    List.Forall₂ Fits (firsts.modify index change) seconds ↔
      List.Forall₂ Fits firsts seconds := by
  induction firsts generalizing index seconds with
  | nil => rw [List.modify_nil]
  | cons first firsts induction =>
      cases seconds with
      | nil => cases index <;> simp
      | cons second seconds =>
          cases index with
          | zero => simp [kept]
          | succ index => simp [induction]

namespace Value

def withKey (value : Value) (place : Nat) (key : String) (extra : Value) :
    Value :=
  match value with
  | .map fields => .map (fields.insertIdx place (key, extra))
  | value => value

def withKeyAt (value : Value) (index place : Nat) (key : String)
    (extra : Value) : Value :=
  match value with
  | .list items => .list (items.modify index (·.withKey place key extra))
  | value => value

theorem lookup_insertIdx {key other : String} (different : other ≠ key)
    (fields : List (String × Value)) (place : Nat) (extra : Value) :
    (fields.insertIdx place (other, extra)).lookup key = fields.lookup key := by
  have passed : (key == other) = false := beq_eq_false_iff_ne.mpr different.symm
  induction fields generalizing place with
  | nil =>
      cases place with
      | zero => simp [List.lookup_cons, passed]
      | succ place => rfl
  | cons field rest induction =>
      rcases field with ⟨name, value⟩
      cases place with
      | zero => simp [List.lookup_cons, passed]
      | succ place =>
          rw [List.insertIdx_succ_cons, List.lookup_cons, List.lookup_cons,
            induction]

variable {place : Nat} {key : String} {extra : Value}

theorem enrols_withKey (unread : key ≠ "role" ∧ key ≠ "addresses")
    (value : Value) (entry : Role × List Address) :
    (value.withKey place key extra).Enrols entry ↔ value.Enrols entry := by
  cases value with
  | map fields =>
      simp [withKey, Enrols, lookup_insertIdx unread.1,
        lookup_insertIdx unread.2]
  | _ => exact Iff.rfl

theorem withKeyAt_eq_integer_iff {value : Value} {index : Nat}
    {number : Int64} :
    value.withKeyAt index place key extra = .integer number ↔
      value = .integer number := by
  cases value <;> simp [withKeyAt]

theorem enrols_withKeyAt (unread : key ≠ "role" ∧ key ≠ "addresses")
    (value : Value) (index : Nat) (entries : List (Role × List Address)) :
    (∃ items, value.withKeyAt index place key extra = .list items ∧
        List.Forall₂ Enrols items entries) ↔
      ∃ items, value = .list items ∧ List.Forall₂ Enrols items entries := by
  cases value with
  | list items =>
      simp [withKeyAt, forall₂_modify (enrols_withKey unread)]
  | _ => exact Iff.rfl

end Value

/-- The second record holds more than the first, but nothing that is read. -/
inductive Record.ExtendsTo (record : Record) : Record → Prop
  | refl : record.ExtendsTo record
  | column {wider : Record} (part : record.ExtendsTo wider) (place : Nat)
      {name : String} (value : Value)
      (unread : name ≠ "ttl" ∧ name ≠ "servers") :
      record.ExtendsTo (wider.widen place name value)
  | key {wider : Record} (part : record.ExtendsTo wider)
      (column index place : Nat) {key : String} (value : Value)
      (unread : key ≠ "role" ∧ key ≠ "addresses") :
      record.ExtendsTo ⟨wider.keys,
        wider.values.modify column (·.withKeyAt index place key value)⟩

namespace Record

theorem tells_iff {record : Record} {ttl : Int64}
    {entries : List (Role × List Address)} :
    record.Tells ttl entries ↔
      (∃ value, record.Shows "ttl" value ∧ value = .integer ttl) ∧
        ∃ value, record.Shows "servers" value ∧
          ∃ servers, value = .list servers ∧
            List.Forall₂ Value.Enrols servers entries := by
  constructor
  · rintro ⟨timed, servers, served, listed⟩
    exact ⟨⟨_, timed, rfl⟩, _, served, servers, rfl, listed⟩
  · rintro ⟨⟨_, timed, rfl⟩, _, served, servers, rfl, listed⟩
    exact ⟨timed, servers, served, listed⟩

theorem tells_of_extendsTo {record wider : Record}
    (extended : record.ExtendsTo wider) (ttl : Int64)
    (entries : List (Role × List Address)) :
    wider.Tells ttl entries ↔ record.Tells ttl entries := by
  induction extended with
  | refl => exact Iff.rfl
  | column part place value unread induction =>
      rw [← induction, Tells, Tells, shows_widen unread.1]
      simp only [shows_widen unread.2]
  | key part column index place value unread induction =>
      rw [← induction, tells_iff, tells_iff]
      apply and_congr
      · exact exists_shows_modify fun _ => Value.withKeyAt_eq_integer_iff
      · exact exists_shows_modify fun value =>
          Value.enrols_withKeyAt unread value index entries

end Record

structure ExactReading (record : Record) (now : Timestamp)
    (outcome : Except Error Composition) : Prop where
  accepts : (∃ composition, outcome = .ok composition) ↔
    ∃ ttl entries, record.Tells ttl entries
  rejects : (¬ ∃ ttl entries, record.Tells ttl entries) →
    ∃ reason, outcome = .error (.protocol
      ("Unable to parse routing record " ++ record.describe ++ ": " ++
        reason))
  composes : ∀ ttl entries composition, record.Tells ttl entries →
    outcome = .ok composition →
      composition.expires = Composition.expiry now ttl ∧
        ∀ role, FirstOccurrences (Composition.ofRole role entries)
          (fun _ => True) (composition.members role).toList
  /-- The entries of a role alone decide who its members are. -/
  apart : ∀ ttl entries composition, record.Tells ttl entries →
    outcome = .ok composition →
      ∀ (other : Record) later ttl' entries' composition',
        other.Tells ttl' entries' →
          Composition.parse other later = .ok composition' →
            ∀ role : Role,
              entries.filter (·.1 == role) = entries'.filter (·.1 == role) →
                composition.members role = composition'.members role
  extras : ∀ wider, record.ExtendsTo wider →
    (Composition.parse wider now).toOption = outcome.toOption
  hosts : ∀ (host : Address.Host) address,
    ((Value.string host.text).Writes address ↔
        address = ⟨host.text, Address.standardPort⟩) ∧
      ((Value.string (host.text ++ ":7687")).Writes address ↔
        address = ⟨host.text, Address.standardPort⟩)

namespace Composition

theorem eq_ofEntries {record : Record} {now : Timestamp} {ttl : Int64}
    {entries : List (Role × List Address)} {composition : Composition}
    (tells : record.Tells ttl entries)
    (parsed : parse record now = .ok composition) :
    composition = ofEntries (expiry now ttl) entries := by
  rw [parse_of_tells tells] at parsed
  exact (Except.ok.inj parsed).symm

theorem toOption_eq_some_iff {Failure Result : Type}
    {outcome : Except Failure Result} {result : Result} :
    outcome.toOption = some result ↔ outcome = .ok result := by
  cases outcome <;> simp [Except.toOption]

/-- Every record is read exactly, at every moment. -/
theorem exactReading_parse (record : Record) (now : Timestamp) :
    ExactReading record now (parse record now) where
  accepts := by
    constructor
    · rintro ⟨composition, parsed⟩
      rcases parse_eq_ok_iff.mp parsed with ⟨ttl, entries, tells, _⟩
      exact ⟨ttl, entries, tells⟩
    · rintro ⟨ttl, entries, tells⟩
      exact ⟨_, parse_of_tells tells⟩
  rejects := by
    intro silent
    cases outcome : parse record now with
    | ok composition =>
        rcases parse_eq_ok_iff.mp outcome with ⟨ttl, entries, tells, _⟩
        exact absurd ⟨ttl, entries, tells⟩ silent
    | error error =>
        rcases exists_reason_of_parse outcome with ⟨reason, rfl⟩
        exact ⟨reason, rfl⟩
  composes := by
    intro ttl entries composition tells parsed
    rw [eq_ofEntries tells parsed]
    refine ⟨rfl, ?_⟩
    intro role
    rw [members_ofEntries]
    exact Roster.firstOccurrences_ofList _
  apart := by
    intro ttl entries composition tells parsed other later ttl' entries'
      composition' tells' parsed' role same
    rw [eq_ofEntries tells parsed, eq_ofEntries tells' parsed',
      members_ofEntries, members_ofEntries, ofRole, ofRole, same]
  extras := by
    intro wider extended
    apply Option.ext
    intro composition
    rw [toOption_eq_some_iff, toOption_eq_some_iff, parse_eq_ok_iff,
      parse_eq_ok_iff]
    simp only [Record.tells_of_extendsTo extended]
  hosts := by
    intro host address
    simp [Value.Writes, Address.parse_host, Address.parse_host_append, eq_comm]

end Composition

end ClusterRouting
