import ClusterRouting.Text
import ClusterRouting.Text.Numeral
import Mathlib.Data.List.DropRight

/-! Texts: how they are trimmed, cut at marks and read as numbers.

A text is cut at the first of its marks, or at all of them. Either way the
parts without marks are all that there is to choose: a text is put together
from them in one way only. -/

namespace ClusterRouting.Text

/-! ## Blanks -/

/-- From a mark on that is not blank there may be no blank at all, and then
there is something to trim in front of the mark only. -/
theorem trim_append (text : List Char) {mark : Char} {rest : List Char}
    (start : isBlank mark = false)
    (finish : ∀ character ∈ rest, isBlank character = false) :
    trim (text ++ mark :: rest) = text.dropWhile isBlank ++ mark :: rest := by
  have front : (text ++ mark :: rest).dropWhile isBlank =
      text.dropWhile isBlank ++ mark :: rest := by
    rw [List.dropWhile_append, List.dropWhile_cons_of_neg (by simp [start])]
    split
    · rename_i blank
      rw [List.isEmpty_iff.mp blank, List.nil_append]
    · rfl
  rw [trim, front]
  apply List.rdropWhile_eq_self_iff.mpr
  intro nonempty
  rw [List.getLast_append_of_ne_nil _ (List.cons_ne_nil mark rest)]
  rcases List.mem_cons.mp (List.getLast_mem (List.cons_ne_nil mark rest)) with
    same | member
  · simp [same, start]
  · simp [finish _ member]

theorem isBlank_head {head : Char} {rest : List Char}
    (trimmed : trim (head :: rest) = head :: rest) : isBlank head = false := by
  have start : (head :: rest).dropWhile isBlank = head :: rest := by
    apply (List.dropWhile_suffix isBlank).eq_of_length_le
    have kept := List.length_dropWhile_le isBlank
      ((head :: rest).dropWhile isBlank).reverse
    have whole := congrArg List.length trimmed
    rw [trim, List.length_reverse] at whole
    rw [List.length_reverse] at kept
    omega
  simpa using List.dropWhile_eq_self_iff.mp start

theorem isBlank_of_isDigit {character : Char}
    (digit : character.isDigit = true) : isBlank character = false := by
  have range : 48 ≤ character.toNat ∧ character.toNat ≤ 57 :=
    Char.isDigit_iff_toNat.mp digit
  simp only [isBlank, Bool.or_eq_false_iff, Bool.and_eq_false_imp,
    decide_eq_true_eq, decide_eq_false_iff_not, beq_eq_false_iff_ne]
  omega

/-! ## Marks -/

variable {mark : Char} {text before after : List Char}

theorem bne_of_not_mem (absent : mark ∉ text) :
    ∀ character ∈ text, (character != mark) = true := by
  intro character member
  rw [bne_iff_ne]
  intro same
  exact absent (same ▸ member)

theorem cut?_eq_none_iff : cut? mark text = none ↔ mark ∉ text := by
  induction text with
  | nil => simp [cut?]
  | cons head rest induction =>
      by_cases same : head = mark
      · simp [cut?, same]
      · simp [cut?, same, induction, Ne.symm same]

theorem cut?_eq_some_iff :
    cut? mark text = some (before, after) ↔
      text = before ++ mark :: after ∧ mark ∉ before := by
  induction text generalizing before with
  | nil => simp [cut?]
  | cons head rest induction =>
      by_cases same : head = mark
      · subst same
        cases before with
        | nil => simp [cut?, eq_comm]
        | cons first before => simp +contextual [cut?, eq_comm]
      · cases before with
        | nil => simp [cut?, same]
        | cons first before =>
            rw [cut?, if_neg same, Option.map_eq_some_iff, List.mem_cons,
              not_or, List.cons_append, List.cons.injEq]
            constructor
            · rintro ⟨⟨_, _⟩, found, ⟨⟩⟩
              rcases induction.mp found with ⟨rfl, absent⟩
              exact ⟨⟨rfl, rfl⟩, Ne.symm same, absent⟩
            · rintro ⟨⟨rfl, rest⟩, _, absent⟩
              exact ⟨(before, after), induction.mpr ⟨rest, absent⟩, rfl⟩

theorem cut?_append (absent : mark ∉ before) :
    cut? mark (before ++ mark :: after) = some (before, after) :=
  cut?_eq_some_iff.mpr ⟨rfl, absent⟩

/-- A text has one first mark. -/
theorem eq_of_first {before' after' : List Char} (absent : mark ∉ before)
    (absent' : mark ∉ before')
    (same : before ++ mark :: after = before' ++ mark :: after') :
    before = before' ∧ after = after' := by
  have cut : cut? mark (before ++ mark :: after) = some (before, after) :=
    cut?_append absent
  rw [same, cut?_append absent'] at cut
  simpa [eq_comm] using cut

/-- A text has one last mark. -/
theorem eq_of_last {before' after' : List Char} (absent : mark ∉ after)
    (absent' : mark ∉ after')
    (same : before ++ mark :: after = before' ++ mark :: after') :
    before = before' ∧ after = after' := by
  have reversed := congrArg List.reverse same
  simp only [List.reverse_append, List.reverse_cons, List.append_assoc,
    List.singleton_append] at reversed
  have parts := eq_of_first (by simpa using absent) (by simpa using absent')
    reversed
  exact ⟨List.reverse_injective parts.2, List.reverse_injective parts.1⟩

/-- The pieces of a text are those of the library's `List.splitOn`. -/
theorem pieces_eq_splitOn (mark : Char) (text : List Char) :
    pieces (· == mark) text = text.splitOn mark := by
  rw [List.splitOn_eq_splitOnP]
  induction text with
  | nil => rfl
  | cons head rest induction =>
      rw [pieces, List.splitOnP_cons_eq_if_modifyHead, induction]
      split
      · rfl
      · cases split : rest.splitOnP (· == mark) with
        | nil => exact absurd split (List.splitOnP_ne_nil _ _)
        | cons first others => rfl

/-- A text is taken up to the first character that does not belong to it. -/
theorem takeWhile_append {belongs : Char → Bool}
    (inside : ∀ character ∈ before, belongs character = true)
    (stops : ∀ first, after.head? = some first → belongs first = false) :
    (before ++ after).takeWhile belongs = before := by
  rw [List.takeWhile_append_of_pos inside]
  cases after with
  | nil => rw [List.takeWhile_nil, List.append_nil]
  | cons first rest =>
      rw [List.takeWhile_cons_of_neg (by simp [stops first rfl]),
        List.append_nil]

theorem afterLast_append (absent : mark ∉ after) :
    afterLast mark (before ++ mark :: after) = after := by
  have reversed : (before ++ mark :: after).reverse =
      after.reverse ++ mark :: before.reverse := by
    simp
  rw [afterLast, reversed, takeWhile_append, List.reverse_reverse]
  · exact bne_of_not_mem (by simpa using absent)
  · intro first found
    cases found
    simp

/-- What pieces with marks between them are made of. -/
theorem mem_intercalate {pieces : List (List Char)} {character : Char}
    (member : character ∈ [mark].intercalate pieces) :
    character = mark ∨ ∃ piece ∈ pieces, character ∈ piece := by
  induction pieces with
  | nil => cases member
  | cons piece rest induction =>
      cases rest with
      | nil =>
          rw [List.intercalate_singleton] at member
          exact .inr ⟨piece, List.mem_cons_self, member⟩
      | cons second others =>
          rw [List.intercalate_cons_cons, List.mem_append, List.mem_append,
            List.mem_singleton] at member
          rcases member with (inside | same) | behind
          · exact .inr ⟨piece, List.mem_cons_self, inside⟩
          · exact .inl same
          · rcases induction behind with same | ⟨other, listed, inside⟩
            · exact .inl same
            · exact .inr ⟨other, List.mem_cons_of_mem piece listed, inside⟩

/-! ## Numbers -/

structure Numeral (text : List Char) (number : Nat) : Prop where
  nonempty : text ≠ []
  digits : ∀ character ∈ text, character.isDigit = true
  value : Nat.ofDigitChars 10 text 0 = number

theorem digits?_eq_some_iff {leading number : Nat} :
    digits? leading text = some number ↔
      (∀ character ∈ text, character.isDigit = true) ∧
        Nat.ofDigitChars 10 text leading = number := by
  induction text generalizing leading with
  | nil => simp [digits?]
  | cons head rest induction =>
      rw [digits?, digit?, List.forall_mem_cons, Nat.ofDigitChars_cons]
      split
      · rename_i digit
        simp [induction, digit]
      · rename_i other
        simp [other]

theorem numeral_iff {number : Nat} :
    Numeral text number ↔ text ≠ [] ∧ digits? 0 text = some number := by
  rw [digits?_eq_some_iff]
  exact ⟨fun ⟨nonempty, digits, value⟩ => ⟨nonempty, digits, value⟩,
    fun ⟨nonempty, digits, value⟩ => ⟨nonempty, digits, value⟩⟩

namespace Numeral

variable {number : Nat} (numeral : Numeral text number)
include numeral

theorem not_mem (other : mark.isDigit = false) : mark ∉ text :=
  fun member => absurd (numeral.digits mark member) (by simp [other])

theorem ne_cons (other : mark.isDigit = false) {rest : List Char} :
    text ≠ mark :: rest :=
  fun equal => numeral.not_mem other (equal ▸ List.mem_cons_self)

/-- There are no blanks around a number to be trimmed. -/
theorem trim_eq : trim text = text := by
  cases text with
  | nil => rfl
  | cons first rest =>
      have plain : ∀ character ∈ first :: rest, isBlank character = false :=
        fun character member =>
          isBlank_of_isDigit (numeral.digits character member)
      rw [List.forall_mem_cons] at plain
      exact trim_append [] plain.1 plain.2

end Numeral

theorem natural?_eq_some_iff {number : Nat} :
    natural? text = some number ↔
      Numeral text number ∨
        ∃ digits, text = '+' :: digits ∧ Numeral digits number := by
  have unsigned {rest : List Char} : ¬ Numeral ('+' :: rest) number :=
    fun numeral => numeral.ne_cons (by decide) rfl
  unfold natural?
  split
  · simp [unsigned, @numeral_iff []]
  · rename_i rest nonempty
    simp [unsigned, @numeral_iff rest, show rest ≠ [] from nonempty]
  · simp [@numeral_iff []]
  · rename_i alone signed nonempty
    rw [numeral_iff, and_iff_right (show text ≠ [] from nonempty)]
    refine (or_iff_left ?_).symm
    rintro ⟨digits, equal, _⟩
    exact signed digits equal

theorem naturalBelow?_eq_some_iff {bound number : Nat} :
    naturalBelow? bound text = some number ↔
      (Numeral text number ∨
        ∃ digits, text = '+' :: digits ∧ Numeral digits number) ∧
        number < bound := by
  rw [naturalBelow?, Option.filter_eq_some_iff, natural?_eq_some_iff,
    decide_eq_true_iff]

theorem Numeral.naturalBelow?_eq {number : Nat} (numeral : Numeral text number)
    (bound : Nat) :
    naturalBelow? bound text =
      if number < bound then some number else none := by
  rw [naturalBelow?, natural?_eq_some_iff.mpr (.inl numeral),
    Option.filter_some]
  simp only [decide_eq_true_eq]

theorem numeral_toString (number : Nat) :
    Numeral (toString number).toList number := by
  rw [Nat.toString_eq_ofList_toDigits, String.toList_ofList]
  exact ⟨Nat.toDigits_ne_nil,
    fun _ member => Nat.isDigit_of_mem_toDigits (by decide) (by decide) member,
    Nat.ofDigitChars_ten_toDigits⟩

end ClusterRouting.Text
