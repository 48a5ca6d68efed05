import ClusterRouting.Address
import ClusterRouting.Proofs.Texts

/-! Forms: how addresses are written and read.

The written form of an address tells it apart from all others, whatever its
host. What is read as an address has one of the documented forms, or departs
from them in a way that is let pass. -/

namespace ClusterRouting.Address

open Text (Numeral)

variable {text host part tail digits : List Char} {address : Address}
  {port : UInt16}

/-! ## Ports -/

def WritesPort (part : List Char) (port : UInt16) : Prop :=
  Numeral part port.toNat ∨
    ∃ digits, part = '+' :: digits ∧ Numeral digits port.toNat

namespace WritesPort

variable (writes : WritesPort part port)
include writes

theorem ne_nil : part ≠ [] := by
  rcases writes with numeral | ⟨digits, rfl, _⟩
  · exact numeral.nonempty
  · exact List.cons_ne_nil _ _

theorem colon_not_mem : ':' ∉ part := by
  rcases writes with numeral | ⟨digits, rfl, numeral⟩
  · exact numeral.not_mem (by decide)
  · rw [List.mem_cons, not_or]
    exact ⟨by decide, numeral.not_mem (by decide)⟩

end WritesPort

theorem readPort_eq_ok_iff :
    readPort text part = .ok port ↔ WritesPort part port := by
  have small : port.toNat < UInt16.size := port.toNat_lt_size
  have found : readPort text part = .ok port ↔
      Text.naturalBelow? UInt16.size part = some port.toNat := by
    unfold readPort
    cases read : Text.naturalBelow? UInt16.size part with
    | none => simp
    | some number =>
        have bound := (Text.naturalBelow?_eq_some_iff.mp read).2
        simp only [Except.ok.injEq, Option.some.injEq]
        constructor
        · rintro rfl
          exact (UInt16.toNat_ofNat_of_lt bound).symm
        · rintro rfl
          exact UInt16.ofNat_toNat
  rw [found, Text.naturalBelow?_eq_some_iff, and_iff_left small]
  rfl

def WritesTail (tail : List Char) (port : UInt16) : Prop :=
  (tail = [] ∧ port = standardPort) ∨
    (∃ part, tail = ':' :: part ∧ WritesPort part port) ∨
      WritesPort tail port

theorem readTail_eq_ok_iff :
    readTail text tail = .ok port ↔ WritesTail tail port := by
  have marked {part : List Char} : ¬ WritesPort (':' :: part) port :=
    fun writes => writes.colon_not_mem List.mem_cons_self
  have hollow : ¬ WritesPort [] port := fun writes => writes.ne_nil rfl
  unfold readTail WritesTail
  split
  · simp [hollow, eq_comm]
  · simp [marked, readPort_eq_ok_iff]
  · rename_i nonempty unmarked
    rw [readPort_eq_ok_iff]
    constructor
    · exact fun writes => .inr (.inr writes)
    · rintro (⟨rfl, _⟩ | ⟨part, rfl, _⟩ | writes)
      · exact absurd rfl nonempty
      · exact absurd rfl (unmarked part)
      · exact writes

/-! ## Reading -/

theorem map_port_eq_ok_iff {outcome : Except Malformed UInt16} :
    (outcome.map fun port => (⟨String.ofList host, port⟩ : Address)) =
        .ok address ↔
      address.host = String.ofList host ∧ outcome = .ok address.port := by
  rcases address with ⟨name, number⟩
  cases outcome with
  | error malformed => simp [Except.map]
  | ok port => simp [Except.map, eq_comm]

theorem map_port_eq_error_iff {outcome : Except Malformed UInt16}
    {malformed : Malformed} :
    (outcome.map fun port => (⟨String.ofList host, port⟩ : Address)) =
        .error malformed ↔
      outcome = .error malformed := by
  cases outcome <;> simp [Except.map]

theorem read_bracket (closed : ']' ∉ host) :
    read ('[' :: (host ++ ']' :: tail)) =
      (readTail ('[' :: (host ++ ']' :: tail)) tail).map
        fun port => ⟨String.ofList host, port⟩ := by
  rw [read, Text.cut?_append closed]

theorem read_bracket_eq_ok_iff {rest : List Char} :
    read ('[' :: rest) = .ok address ↔
      ∃ host tail, rest = host ++ ']' :: tail ∧ ']' ∉ host ∧
        address.host = String.ofList host ∧ WritesTail tail address.port := by
  constructor
  · intro found
    by_cases closes : ']' ∈ rest
    · rcases List.eq_append_cons_of_mem closes with ⟨host, tail, rfl, closed⟩
      rw [read_bracket closed, map_port_eq_ok_iff, readTail_eq_ok_iff] at found
      exact ⟨host, tail, rfl, closed, found⟩
    · rw [read, Text.cut?_eq_none_iff.mpr closes] at found
      cases found
  · rintro ⟨host, tail, rfl, closed, found⟩
    rw [read_bracket closed, map_port_eq_ok_iff, readTail_eq_ok_iff]
    exact found

theorem read_of_bare (nonempty : text ≠ []) (bare : text.head? ≠ some '[') :
    read text =
      match text.splitOn ':' with
      | [host] => .ok ⟨String.ofList host, standardPort⟩
      | [host, part] =>
          (readPort text part).map fun port => ⟨String.ofList host, port⟩
      | _ => .ok ⟨String.ofList text, standardPort⟩ := by
  rw [← Text.pieces_eq_splitOn]
  unfold read
  split
  · exact absurd rfl nonempty
  · exact absurd rfl bare
  · rfl

/-- Without brackets and colons the whole text is the host. -/
theorem read_host (nonempty : text ≠ []) (bare : text.head? ≠ some '[')
    (single : ':' ∉ text) :
    read text = .ok ⟨String.ofList text, standardPort⟩ := by
  rw [read_of_bare nonempty bare, List.splitOn_eq_singleton single]

theorem head?_nil_ne : ([] : List Char).head? ≠ some '[' :=
  nofun

theorem head?_append_colon (bare : host.head? ≠ some '[') :
    (host ++ ':' :: part).head? ≠ some '[' := by
  cases host with
  | nil => simp
  | cons first host => simpa using bare

theorem read_pair (bare : host.head? ≠ some '[') (single : ':' ∉ host)
    (last : ':' ∉ part) :
    read (host ++ ':' :: part) =
      (readPort (host ++ ':' :: part) part).map
        fun port => ⟨String.ofList host, port⟩ := by
  rw [read_of_bare (by simp) (head?_append_colon bare),
    List.splitOn_append_cons_self_of_not_mem single,
    List.splitOn_eq_singleton last]

theorem read_pair_eq_ok_iff (bare : host.head? ≠ some '[')
    (single : ':' ∉ host) (last : ':' ∉ part) :
    read (host ++ ':' :: part) = .ok address ↔
      address.host = String.ofList host ∧ WritesPort part address.port := by
  rw [read_pair bare single last, map_port_eq_ok_iff, readPort_eq_ok_iff]

/-- With two colons or more the whole text is the host. -/
theorem read_literal (bare : text.head? ≠ some '[')
    (colons : 2 ≤ text.count ':') :
    read text = .ok ⟨String.ofList text, standardPort⟩ := by
  have marked : ':' ∈ text := List.count_pos_iff.mp (by omega)
  rcases List.eq_append_cons_of_mem marked with ⟨host, part, rfl, single⟩
  have again : ':' ∈ part := by
    rw [List.count_append, List.count_eq_zero_of_not_mem single,
      List.count_cons_self] at colons
    exact List.count_pos_iff.mp (by omega)
  rcases List.eq_append_cons_of_mem again with ⟨second, rest, rfl, last⟩
  rw [read_of_bare (by simp) bare,
    List.splitOn_append_cons_self_of_not_mem single,
    List.splitOn_append_cons_self_of_not_mem last]
  cases pieces : rest.splitOn ':' with
  | nil => exact absurd pieces (List.splitOn_ne_nil _ _)
  | cons third others => rfl

inductive Layout : List Char → Prop
  | empty : Layout []
  | bracket (rest : List Char) : Layout ('[' :: rest)
  | host {text : List Char} (nonempty : text ≠ [])
      (bare : text.head? ≠ some '[') (single : ':' ∉ text) : Layout text
  | pair {host part : List Char} (bare : host.head? ≠ some '[')
      (single : ':' ∉ host) (last : ':' ∉ part) :
      Layout (host ++ ':' :: part)
  | literal {text : List Char} (bare : text.head? ≠ some '[')
      (colons : 2 ≤ text.count ':') : Layout text

theorem layout (text : List Char) : Layout text := by
  by_cases bracket : text.head? = some '['
  · rcases List.head?_eq_some_iff.mp bracket with ⟨rest, rfl⟩
    exact .bracket rest
  by_cases marked : ':' ∈ text
  · rcases List.eq_append_cons_of_mem marked with ⟨host, part, rfl, single⟩
    by_cases again : ':' ∈ part
    · apply Layout.literal bracket
      have more := List.count_pos_iff.mpr again
      rw [List.count_append, List.count_cons_self]
      omega
    · refine .pair ?_ single again
      cases host with
      | nil => simp
      | cons first host => exact bracket
  · rcases List.eq_nil_or_concat text with rfl | ⟨_, _, filled⟩
    · exact .empty
    · exact .host (by simp [filled]) bracket marked

/-! ## The documented forms -/

/-- The forms in which addresses are meant to be written. -/
inductive Documented : List Char → Address → Prop
  | host {host : List Char} (nonempty : host ≠ [])
      (bare : host.head? ≠ some '[') (single : ':' ∉ host) :
      Documented host ⟨String.ofList host, standardPort⟩
  | pair {host digits : List Char} {port : UInt16} (nonempty : host ≠ [])
      (bare : host.head? ≠ some '[') (single : ':' ∉ host)
      (numeral : Numeral digits port.toNat) :
      Documented (host ++ ':' :: digits) ⟨String.ofList host, port⟩
  | bracket {host : List Char} (nonempty : host ≠ []) (closed : ']' ∉ host) :
      Documented ('[' :: (host ++ [']'])) ⟨String.ofList host, standardPort⟩
  | bracketPair {host digits : List Char} {port : UInt16}
      (nonempty : host ≠ []) (closed : ']' ∉ host)
      (numeral : Numeral digits port.toNat) :
      Documented ('[' :: (host ++ ']' :: ':' :: digits))
        ⟨String.ofList host, port⟩
  | literal {host : List Char} (bare : host.head? ≠ some '[')
      (colons : 2 ≤ host.count ':') :
      Documented host ⟨String.ofList host, standardPort⟩

/-- What is read as an address although it has none of those forms. -/
inductive Tolerated : List Char → Address → Prop
  | hostless {part : List Char} {port : UInt16}
      (writes : WritesPort part port) : Tolerated (':' :: part) ⟨"", port⟩
  | signed {host digits : List Char} {port : UInt16} (nonempty : host ≠ [])
      (bare : host.head? ≠ some '[') (single : ':' ∉ host)
      (numeral : Numeral digits port.toNat) :
      Tolerated (host ++ ':' :: '+' :: digits) ⟨String.ofList host, port⟩
  | hollow {tail : List Char} {port : UInt16} (writes : WritesTail tail port) :
      Tolerated ('[' :: ']' :: tail) ⟨"", port⟩
  | bracketSigned {host digits : List Char} {port : UInt16}
      (nonempty : host ≠ []) (closed : ']' ∉ host)
      (numeral : Numeral digits port.toNat) :
      Tolerated ('[' :: (host ++ ']' :: ':' :: '+' :: digits))
        ⟨String.ofList host, port⟩
  /-- No colon stands between the bracket and the port. -/
  | joined {host part : List Char} {port : UInt16} (nonempty : host ≠ [])
      (closed : ']' ∉ host) (writes : WritesPort part port) :
      Tolerated ('[' :: (host ++ ']' :: part)) ⟨String.ofList host, port⟩

theorem documented_or_tolerated_of_bracket (closed : ']' ∉ host)
    (named : address.host = String.ofList host)
    (writes : WritesTail tail address.port) :
    Documented ('[' :: (host ++ ']' :: tail)) address ∨
      Tolerated ('[' :: (host ++ ']' :: tail)) address := by
  rcases address with ⟨name, port⟩
  cases named
  rcases List.eq_nil_or_concat host with rfl | ⟨_, _, filled⟩
  · exact .inr (.hollow writes)
  have nonempty : host ≠ [] := by simp [filled]
  rcases writes with ⟨rfl, rfl⟩ | ⟨part, rfl, numeral | ⟨digits, rfl, numeral⟩⟩ |
    writes
  · exact .inl (.bracket nonempty closed)
  · exact .inl (.bracketPair nonempty closed numeral)
  · exact .inr (.bracketSigned nonempty closed numeral)
  · exact .inr (.joined nonempty closed writes)

theorem documented_or_tolerated_of_pair (bare : host.head? ≠ some '[')
    (single : ':' ∉ host) (named : address.host = String.ofList host)
    (writes : WritesPort part address.port) :
    Documented (host ++ ':' :: part) address ∨
      Tolerated (host ++ ':' :: part) address := by
  rcases address with ⟨name, port⟩
  cases named
  rcases List.eq_nil_or_concat host with rfl | ⟨_, _, filled⟩
  · exact .inr (.hostless writes)
  have nonempty : host ≠ [] := by simp [filled]
  rcases writes with numeral | ⟨digits, rfl, numeral⟩
  · exact .inl (.pair nonempty bare single numeral)
  · exact .inr (.signed nonempty bare single numeral)

theorem documented_or_tolerated_of_read (found : read text = .ok address) :
    Documented text address ∨ Tolerated text address := by
  cases layout text with
  | empty => cases found
  | bracket rest =>
      rcases read_bracket_eq_ok_iff.mp found with
        ⟨host, tail, rfl, closed, named, writes⟩
      exact documented_or_tolerated_of_bracket closed named writes
  | host nonempty bare single =>
      rw [read_host nonempty bare single] at found
      cases found
      exact .inl (.host nonempty bare single)
  | pair bare single last =>
      rcases (read_pair_eq_ok_iff bare single last).mp found with ⟨named, writes⟩
      exact documented_or_tolerated_of_pair bare single named writes
  | literal bare colons =>
      rw [read_literal bare colons] at found
      cases found
      exact .inl (.literal bare colons)

theorem Documented.read_eq_ok (documented : Documented text address) :
    read text = .ok address := by
  cases documented with
  | host nonempty bare single => exact read_host nonempty bare single
  | pair nonempty bare single numeral =>
      exact (read_pair_eq_ok_iff bare single
        (numeral.not_mem (by decide))).mpr ⟨rfl, .inl numeral⟩
  | bracket nonempty closed =>
      exact read_bracket_eq_ok_iff.mpr
        ⟨_, [], rfl, closed, rfl, .inl ⟨rfl, rfl⟩⟩
  | bracketPair nonempty closed numeral =>
      exact read_bracket_eq_ok_iff.mpr
        ⟨_, _, rfl, closed, rfl, .inr (.inl ⟨_, rfl, .inl numeral⟩)⟩
  | literal bare colons => exact read_literal bare colons

theorem Tolerated.read_eq_ok (tolerated : Tolerated text address) :
    read text = .ok address := by
  cases tolerated with
  | hostless writes =>
      exact (read_pair_eq_ok_iff head?_nil_ne List.not_mem_nil
        writes.colon_not_mem).mpr ⟨rfl, writes⟩
  | signed nonempty bare single numeral =>
      have writes : WritesPort ('+' :: _) _ := .inr ⟨_, rfl, numeral⟩
      exact (read_pair_eq_ok_iff bare single writes.colon_not_mem).mpr
        ⟨rfl, writes⟩
  | hollow writes =>
      exact read_bracket_eq_ok_iff.mpr ⟨[], _, rfl, by simp, rfl, writes⟩
  | bracketSigned nonempty closed numeral =>
      exact read_bracket_eq_ok_iff.mpr ⟨_, _, rfl, closed, rfl,
        .inr (.inl ⟨_, rfl, .inr ⟨_, rfl, numeral⟩⟩)⟩
  | joined nonempty closed writes =>
      exact read_bracket_eq_ok_iff.mpr
        ⟨_, _, rfl, closed, rfl, .inr (.inr writes)⟩

theorem read_eq_ok_iff :
    read text = .ok address ↔
      Documented text address ∨ Tolerated text address :=
  ⟨documented_or_tolerated_of_read,
    fun forms => forms.elim (·.read_eq_ok) (·.read_eq_ok)⟩

namespace Documented

variable (documented : Documented text address)
include documented

theorem host_ne_nil : address.host.toList ≠ [] := by
  cases documented with
  | literal bare colons =>
      rw [String.toList_ofList]
      rintro rfl
      simp at colons
  | _ => simpa

/-- What a bracket opens in a documented form. -/
theorem of_bracket {rest : List Char} (equal : text = '[' :: rest) :
    ∃ host tail, rest = host ++ ']' :: tail ∧ host ≠ [] ∧ ']' ∉ host ∧
      (tail = [] ∨
        ∃ digits, tail = ':' :: digits ∧
          Numeral digits address.port.toNat) := by
  cases documented with
  | bracket nonempty closed =>
      exact ⟨_, [], (List.cons.inj equal).2.symm, nonempty, closed, .inl rfl⟩
  | bracketPair nonempty closed numeral =>
      exact ⟨_, _, (List.cons.inj equal).2.symm, nonempty, closed,
        .inr ⟨_, rfl, numeral⟩⟩
  | pair nonempty bare single numeral =>
      exact absurd (congrArg List.head? equal) (head?_append_colon bare)
  | host nonempty bare single =>
      exact absurd (congrArg List.head? equal) bare
  | literal bare colons => exact absurd (congrArg List.head? equal) bare

/-- What one colon separates in a documented form. -/
theorem of_pair (equal : text = host ++ ':' :: part)
    (bare : host.head? ≠ some '[') (single : ':' ∉ host)
    (last : ':' ∉ part) :
    host ≠ [] ∧ Numeral part address.port.toNat := by
  cases documented with
  | pair nonempty bare single' numeral =>
      rcases Text.eq_of_first single' single equal with ⟨rfl, rfl⟩
      exact ⟨nonempty, numeral⟩
  | host nonempty bare single' =>
      simp [equal] at single'
  | literal bare colons =>
      rw [equal, List.count_append, List.count_cons_self,
        List.count_eq_zero_of_not_mem single,
        List.count_eq_zero_of_not_mem last] at colons
      omega
  | bracket nonempty closed =>
      exact absurd rfl (equal ▸ head?_append_colon bare)
  | bracketPair nonempty closed numeral =>
      exact absurd rfl (equal ▸ head?_append_colon bare)

end Documented

/-- No text has a documented form and departs from all of them. -/
theorem Documented.not_tolerated {other : Address}
    (documented : Documented text address) : ¬ Tolerated text other := by
  intro tolerated
  cases tolerated with
  | hostless writes =>
      have parts := documented.of_pair (List.nil_append _).symm
        head?_nil_ne List.not_mem_nil writes.colon_not_mem
      exact parts.1 rfl
  | signed nonempty bare single numeral =>
      have writes : WritesPort ('+' :: _) _ := .inr ⟨_, rfl, numeral⟩
      exact (documented.of_pair rfl bare single writes.colon_not_mem).2.ne_cons
        (by decide) rfl
  | hollow writes =>
      rcases documented.of_bracket rfl with
        ⟨host, tail, equal, nonempty, closed, _⟩
      exact nonempty
        (Text.eq_of_first List.not_mem_nil closed equal).1.symm
  | bracketSigned nonempty closed numeral =>
      rcases documented.of_bracket rfl with
        ⟨host, tail, equal, _, closed', rest⟩
      rcases Text.eq_of_first closed closed' equal with ⟨rfl, same⟩
      rcases rest with rfl | ⟨digits, rfl, signed⟩
      · cases same
      · cases same
        exact signed.ne_cons (by decide) rfl
  | joined nonempty closed writes =>
      rcases documented.of_bracket rfl with
        ⟨host, tail, equal, _, closed', rest⟩
      rcases Text.eq_of_first closed closed' equal with ⟨rfl, rfl⟩
      rcases rest with rfl | ⟨digits, rfl, _⟩
      · exact writes.ne_nil rfl
      · exact writes.colon_not_mem List.mem_cons_self

inductive Fault : List Char → Malformed → Prop
  | empty : Fault [] .empty
  | unclosed {rest : List Char} (unclosed : ']' ∉ rest) :
      Fault ('[' :: rest) (.unclosed (String.ofList ('[' :: rest)))
  | bracketPort {host tail : List Char} (closed : ']' ∉ host)
      (fault : ∀ port, ¬ WritesTail tail port) :
      Fault ('[' :: (host ++ ']' :: tail))
        (.port (String.ofList ('[' :: (host ++ ']' :: tail))))
  | port {host part : List Char} (bare : host.head? ≠ some '[')
      (single : ':' ∉ host) (last : ':' ∉ part)
      (fault : ∀ port, ¬ WritesPort part port) :
      Fault (host ++ ':' :: part) (.port (String.ofList (host ++ ':' :: part)))

theorem readPort_eq_error {malformed : Malformed}
    (failed : readPort text part = .error malformed) :
    malformed = .port (String.ofList text) := by
  unfold readPort at failed
  split at failed
  · cases failed
  · exact (Except.error.inj failed).symm

theorem readTail_eq_error {malformed : Malformed}
    (failed : readTail text tail = .error malformed) :
    malformed = .port (String.ofList text) := by
  unfold readTail at failed
  split at failed
  · cases failed
  · exact readPort_eq_error failed
  · exact readPort_eq_error failed

theorem fault_of_read {malformed : Malformed}
    (failed : read text = .error malformed) : Fault text malformed := by
  have unread {address : Address} : read text ≠ .ok address := by
    rw [failed]
    nofun
  cases layout text with
  | empty =>
      cases failed
      exact .empty
  | bracket rest =>
      by_cases closes : ']' ∈ rest
      · rcases List.eq_append_cons_of_mem closes with ⟨host, tail, rfl, closed⟩
        rw [read_bracket closed, map_port_eq_error_iff] at failed
        rw [readTail_eq_error failed]
        apply Fault.bracketPort closed
        intro port writes
        rw [readTail_eq_ok_iff.mpr writes] at failed
        cases failed
      · rw [read, Text.cut?_eq_none_iff.mpr closes] at failed
        cases failed
        exact .unclosed closes
  | host nonempty bare single =>
      exact absurd (read_host nonempty bare single) unread
  | pair bare single last =>
      rw [read_pair bare single last, map_port_eq_error_iff] at failed
      rw [readPort_eq_error failed]
      apply Fault.port bare single last
      intro port writes
      rw [readPort_eq_ok_iff.mpr writes] at failed
      cases failed
  | literal bare colons => exact absurd (read_literal bare colons) unread

structure ExactForms (text : String)
    (outcome : Except Malformed Address) : Prop where
  accepts : ∀ address, outcome = .ok address ↔
    Documented (Text.trim text.toList) address ∨
      Tolerated (Text.trim text.toList) address
  rejects : (∀ address, ¬ Documented (Text.trim text.toList) address) →
    (∀ address, ¬ Tolerated (Text.trim text.toList) address) →
      ∃ malformed, Fault (Text.trim text.toList) malformed ∧
        outcome.mapError Malformed.toError =
          .error (.configuration malformed.message)
  hosted : ∀ address, Documented (Text.trim text.toList) address →
    address.host.toList ≠ []
  /-- The documented forms tell all unless the text departs from them. -/
  faithful : (∀ address, outcome = .ok address ↔
      Documented (Text.trim text.toList) address) ↔
    ∀ address, ¬ Tolerated (Text.trim text.toList) address

theorem exactForms_parse (text : String) : ExactForms text (parse text) where
  accepts := fun _ => read_eq_ok_iff
  rejects := by
    intro undocumented untolerated
    cases outcome : parse text with
    | ok address =>
        rcases read_eq_ok_iff.mp outcome with documented | tolerated
        · exact absurd documented (undocumented address)
        · exact absurd tolerated (untolerated address)
    | error malformed => exact ⟨malformed, fault_of_read outcome, rfl⟩
  hosted := fun _ documented => documented.host_ne_nil
  faithful := by
    constructor
    · intro faithful address tolerated
      have documented := (faithful address).mp tolerated.read_eq_ok
      exact documented.not_tolerated tolerated
    · intro untolerated address
      exact read_eq_ok_iff.trans (or_iff_left (untolerated address))

/-- A port right behind the bracket is read, though no form allows it. -/
theorem reads_port_behind_bracket :
    parse "[::1]7687" = .ok ⟨"::1", 7687⟩ ∧
      ∀ address,
        ¬ Documented (Text.trim "[::1]7687".toList) address := by
  have numeral : Numeral "7687".toList (7687 : UInt16).toNat :=
    Text.numeral_iff.mpr ⟨by decide, rfl⟩
  have tolerated : Tolerated "[::1]7687".toList ⟨"::1", 7687⟩ :=
    @Tolerated.joined "::1".toList _ _ (by decide) (by decide) (.inl numeral)
  have trimmed : Text.trim "[::1]7687".toList = "[::1]7687".toList := by
    decide
  rw [parse, trimmed]
  exact ⟨tolerated.read_eq_ok,
    fun _ documented => documented.not_tolerated tolerated⟩

/-! ## The written form -/

def portDigits (address : Address) : List Char :=
  (toString address.port.toNat).toList

theorem numeral_portDigits (address : Address) :
    Numeral address.portDigits address.port.toNat :=
  Text.numeral_toString _

theorem colon_not_mem_portDigits (address : Address) :
    ':' ∉ address.portDigits :=
  address.numeral_portDigits.not_mem (by decide)

theorem trim_append_port (text : List Char) (address : Address) :
    Text.trim (text ++ ':' :: address.portDigits) =
      text.dropWhile Text.isBlank ++ ':' :: address.portDigits := by
  apply Text.trim_append _ (by decide)
  intro character member
  exact Text.isBlank_of_isDigit
    (address.numeral_portDigits.digits character member)

def writtenHost (address : Address) : List Char :=
  if ':' ∈ address.host.toList then
    '[' :: (address.host.toList ++ [']'])
  else address.host.toList

theorem toList_describe (address : Address) :
    address.describe.toList =
      address.writtenHost ++ ':' :: address.portDigits := by
  unfold describe writtenHost portDigits
  rw [List.contains_eq_mem]
  split
  · simp_all
  · simp_all

theorem colon_mem_writtenHost (address : Address) :
    ':' ∈ address.writtenHost ↔ ':' ∈ address.host.toList := by
  unfold writtenHost
  split <;> simp_all

/-- Besides the host there are only brackets, a colon and digits. -/
theorem not_mem_describe {mark : Char} (address : Address)
    (absent : mark ∉ address.host.toList) (brackets : mark ∉ "[]:".toList)
    (other : mark.isDigit = false) : mark ∉ address.describe.toList := by
  have digits := address.numeral_portDigits.not_mem other
  simp only [String.reduceToList, List.mem_cons, List.not_mem_nil, or_false,
    not_or] at brackets
  rw [toList_describe, writtenHost]
  split <;> simp [absent, brackets, digits]

theorem describe_injective : Function.Injective describe := by
  intro first second same
  have texts := congrArg String.toList same
  rw [toList_describe, toList_describe] at texts
  rcases Text.eq_of_last first.colon_not_mem_portDigits
    second.colon_not_mem_portDigits texts with ⟨hosts, digits⟩
  have ports : first.port.toNat = second.port.toNat := by
    rw [← first.numeral_portDigits.value, digits,
      second.numeral_portDigits.value]
  have marked : ':' ∈ first.host.toList ↔ ':' ∈ second.host.toList := by
    rw [← colon_mem_writtenHost, hosts, colon_mem_writtenHost]
  have names : first.host.toList = second.host.toList := by
    unfold writtenHost at hosts
    by_cases colon : ':' ∈ first.host.toList
    · simpa [colon, marked.mp colon] using hosts
    · simpa [colon, mt marked.mpr colon] using hosts
  rcases first with ⟨name, port⟩
  rcases second with ⟨name', port'⟩
  rw [mk.injEq]
  exact ⟨String.toList_injective names, UInt16.toNat_inj.mp ports⟩

variable {address : Address}

theorem parse_describe_of_colon (colon : ':' ∈ address.host.toList) :
    parse address.describe = .ok address ↔ ']' ∉ address.host.toList := by
  have text : address.describe.toList =
      '[' :: ((address.host.toList ++ [']']) ++ ':' :: address.portDigits) := by
    rw [toList_describe, writtenHost, if_pos colon, List.cons_append]
  have trimmed : Text.trim address.describe.toList =
      '[' :: (address.host.toList ++ ']' :: ':' :: address.portDigits) := by
    rw [text, ← List.cons_append, trim_append_port,
      List.dropWhile_cons_of_neg (by decide)]
    simp
  rw [parse, trimmed, read_bracket_eq_ok_iff]
  constructor
  · rintro ⟨host, tail, _, closed, named, _⟩
    rwa [named, String.toList_ofList]
  · intro closed
    exact ⟨_, _, rfl, closed, String.ofList_toList.symm,
      .inr (.inl ⟨_, rfl, .inl address.numeral_portDigits⟩)⟩

/-- A bracket in front makes the host that is read shorter than the text up to
the port. -/
theorem read_bracket_ne {rest : List Char}
    (single : ':' ∉ address.host.toList)
    (longer : rest.length < address.host.toList.length) :
    read ('[' :: (rest ++ ':' :: part)) ≠ .ok address := by
  intro found
  rcases read_bracket_eq_ok_iff.mp found with ⟨host, tail, equal, _, named, _⟩
  rw [named, String.toList_ofList] at single longer
  rcases List.append_eq_append_iff.mp equal with
    ⟨between, split, marked⟩ | ⟨between, split, _⟩
  · cases between with
    | nil =>
        rw [split, List.append_nil] at longer
        exact absurd longer (Nat.lt_irrefl _)
    | cons mark between =>
        cases (List.cons.inj marked).1
        exact single (split ▸ by simp)
  · rw [split, List.length_append] at longer
    omega

theorem dropWhile_isBlank_eq_self_iff :
    text.dropWhile Text.isBlank = text ↔
      ∀ first, text.head? = some first → Text.isBlank first = false := by
  cases text with
  | nil => simp
  | cons first rest => simp [List.dropWhile_eq_self_iff]

theorem parse_describe_of_not_colon (single : ':' ∉ address.host.toList) :
    parse address.describe = .ok address ↔
      address.host.toList.head? ≠ some '[' ∧
        ∀ first, address.host.toList.head? = some first →
          Text.isBlank first = false := by
  have trimmed : Text.trim address.describe.toList =
      address.host.toList.dropWhile Text.isBlank ++
        ':' :: address.portDigits := by
    rw [toList_describe, writtenHost, if_neg single, trim_append_port]
  have shorter :=
    List.length_dropWhile_le Text.isBlank address.host.toList
  have part : ':' ∉ address.host.toList.dropWhile Text.isBlank :=
    fun member => single ((List.dropWhile_suffix _).mem member)
  rw [parse, trimmed, ← dropWhile_isBlank_eq_self_iff]
  constructor
  · intro found
    by_cases bracket :
        (address.host.toList.dropWhile Text.isBlank).head? = some '['
    · rcases List.head?_eq_some_iff.mp bracket with ⟨rest, equal⟩
      rw [equal] at found shorter
      exact absurd found (read_bracket_ne single shorter)
    · rw [read_pair_eq_ok_iff bracket part address.colon_not_mem_portDigits]
        at found
      have kept : address.host.toList =
          address.host.toList.dropWhile Text.isBlank := by
        conv_lhs => rw [found.1, String.toList_ofList]
      exact ⟨kept ▸ bracket, kept.symm⟩
  · rintro ⟨bare, kept⟩
    rw [kept, read_pair_eq_ok_iff bare single address.colon_not_mem_portDigits]
    exact ⟨String.ofList_toList.symm, .inl address.numeral_portDigits⟩

structure FaithfulForm (address : Address) : Prop where
  reads : parse address.describe = .ok address ↔
    (':' ∈ address.host.toList ∧ ']' ∉ address.host.toList) ∨
      (':' ∉ address.host.toList ∧ address.host.toList.head? ≠ some '[' ∧
        ∀ first, address.host.toList.head? = some first →
          Text.isBlank first = false)
  tells : ∀ other : Address, other.describe = address.describe →
    other = address

theorem faithfulForm_describe (address : Address) : FaithfulForm address where
  reads := by
    by_cases colon : ':' ∈ address.host.toList
    · simp [parse_describe_of_colon colon, colon]
    · simp [parse_describe_of_not_colon colon, colon]
  tells := fun _ same => describe_injective same

/-! ## Hosts -/

structure Host where
  text : String
  nonempty : text.toList ≠ []
  trimmed : Text.trim text.toList = text.toList
  single : ':' ∉ text.toList
  bare : text.toList.head? ≠ some '['

theorem parse_host (host : Host) :
    parse host.text = .ok ⟨host.text, standardPort⟩ := by
  rw [parse, host.trimmed, read_host host.nonempty host.bare host.single,
    String.ofList_toList]

/-- To name the standard port makes no difference. -/
theorem parse_host_append (host : Host) :
    parse (host.text ++ ":7687") = .ok ⟨host.text, standardPort⟩ := by
  have written : describe ⟨host.text, standardPort⟩ = host.text ++ ":7687" := by
    have port : toString standardPort.toNat = "7687" := by decide
    rw [describe, if_neg (by simpa using host.single), port,
      String.append_assoc]
    rfl
  rw [← written, parse_describe_of_not_colon host.single]
  refine ⟨host.bare, ?_⟩
  intro first found
  rcases List.head?_eq_some_iff.mp found with ⟨rest, split⟩
  exact Text.isBlank_head (split ▸ host.trimmed)

example : parse "a:7687" = parse "a" := by decide +kernel

end ClusterRouting.Address
