/-
**Numbers in decimal digits.**

The decimal digits of a number, as they are written, are read back as the number.

* `isDigit_of_mem_toDigits`: they are ASCII digits;
* `ofDigits_toDigits`: their value is the number;
* `head?_toDigits_ne_zero`: no zero stands in front of the others;
* `Denotes` says which texts are numerals of a number, and `word?_eq_some_iff` that these are the
  ones that are read. The digits of a number denote it (`denotes_toDigits`).
-/

import InfoModel.Text.Numeral
import Mathlib.Data.List.Basic
import Mathlib.Data.List.Induction
import Mathlib.Data.Nat.Digits.Defs

namespace InfoModel.Text.Numeral

theorem isDigit_eq_isDigit (char : Char) : isDigit char = char.isDigit := rfl

/-- The digits of a number are ASCII digits. -/
theorem isDigit_of_mem_toDigits {number : Nat} {char : Char}
    (member : char ∈ Nat.toDigits 10 number) : isDigit char = true := by
  rw [isDigit_eq_isDigit]
  exact Nat.isDigit_of_mem_toDigits (by decide) (by decide) member

theorem digit_digitChar {value : Nat} (small : value < 10) : digit (Nat.digitChar value) = value :=
  Nat.toNat_digitChar_sub_48_of_lt_ten small

/-- One digit more is ten times the value and the digit. -/
theorem ofDigits_append_singleton (digits : List Char) (char : Char) :
    ofDigits (digits ++ [char]) = 10 * ofDigits digits + digit char := by
  unfold ofDigits
  rw [List.foldl_append]
  rfl

/-- **The value of the digits of a number is the number.** -/
theorem ofDigits_toDigits (number : Nat) : ofDigits (Nat.toDigits 10 number) = number := by
  induction number using Nat.strongRecOn with
  | ind number ih =>
      rw [Nat.toDigits_eq_if (by decide)]
      by_cases small : number < 10
      · rw [if_pos small]
        show 10 * 0 + digit (Nat.digitChar number) = number
        rw [digit_digitChar small]
        omega
      · rw [if_neg small, ofDigits_append_singleton, ih _ (by omega),
          digit_digitChar (Nat.mod_lt _ (by decide))]
        omega

/-- **No zero stands in front of the other digits of a number.** -/
theorem head?_toDigits_ne_zero {number : Nat} (large : 10 ≤ number) :
    (Nat.toDigits 10 number).head? ≠ some '0' := by
  induction number using Nat.strongRecOn with
  | ind number ih =>
      rw [Nat.toDigits_of_base_le (by decide) large,
        List.head?_append_of_ne_nil _ Nat.toDigits_ne_nil]
      by_cases small : number / 10 < 10
      · rw [Nat.toDigits_of_lt_base small]
        intro zero
        have isZero : number / 10 = 0 := Nat.digitChar_eq_zero.mp (Option.some.inj zero)
        omega
      · exact ih _ (by omega) (by omega)

/-- A number whose digits start with a zero has no other digit. -/
theorem length_toDigits_of_head?_eq_zero (number : Nat)
    (zero : (Nat.toDigits 10 number).head? = some '0') : (Nat.toDigits 10 number).length = 1 := by
  have small : number < 10 := Nat.lt_of_not_le fun large => head?_toDigits_ne_zero large zero
  rw [Nat.toDigits_of_lt_base small]
  rfl

/-! ### Numerals -/

/-- **A text denotes a number**: by its decimal digits, at least one, behind a plus sign or not. -/
def Denotes (text : List Char) (number : Nat) : Prop :=
  ∃ digits, (text = digits ∨ text = '+' :: digits) ∧ digits ≠ [] ∧
    (∀ char ∈ digits, isDigit char = true) ∧ Nat.ofDigits 10 (digits.reverse.map digit) = number

/-- The value of digits by their places, the last one first. -/
theorem ofDigits_eq (digits : List Char) :
    ofDigits digits = Nat.ofDigits 10 (digits.reverse.map digit) := by
  induction digits using List.reverseRecOn with
  | nil => rfl
  | append_singleton digits char ih =>
      rw [ofDigits_append_singleton, ih, List.reverse_concat, List.map_cons, Nat.ofDigits_cons]
      exact Nat.add_comm _ _

/-- No sign stands in front of digits. -/
theorem unsigned_of_digits {digits : List Char} (areDigits : ∀ char ∈ digits, isDigit char = true) :
    unsigned digits = digits := by
  unfold unsigned
  split
  · cases areDigits '+' List.mem_cons_self
  · rfl

theorem eq_unsigned_or (text : List Char) : text = unsigned text ∨ text = '+' :: unsigned text := by
  unfold unsigned
  split
  · exact Or.inr rfl
  · exact Or.inl rfl

theorem value?_eq_some_iff {text : List Char} {number : Nat} :
    value? text = some number ↔ Denotes text number := by
  have read : value? text = some number ↔ unsigned text ≠ [] ∧
      (∀ char ∈ unsigned text, isDigit char = true) ∧ ofDigits (unsigned text) = number := by
    simp [value?, and_assoc]
  rw [read, ofDigits_eq]
  apply Iff.intro
  · intro ⟨nonempty, areDigits, value⟩
    exact ⟨unsigned text, eq_unsigned_or text, nonempty, areDigits, value⟩
  · intro ⟨digits, written, nonempty, areDigits, value⟩
    have same : unsigned text = digits := by
      rcases written with plain | signed
      · rw [plain]
        exact unsigned_of_digits areDigits
      · rw [signed]
        rfl
    rw [same]
    exact ⟨nonempty, areDigits, value⟩

/-- **The numerals of words are read.** -/
theorem word?_eq_some_iff {text : List Char} {word : UInt32} :
    word? text = some word ↔ Denotes text word.toNat := by
  rw [← value?_eq_some_iff]
  unfold word?
  cases value? text with
  | none => simp
  | some number =>
      by_cases fits : number < UInt32.size
      · simp only [if_pos fits, Option.some.injEq]
        apply Iff.intro
        · intro same
          rw [← same, UInt32.toNat_ofNat_of_lt' fits]
        · intro same
          rw [same, UInt32.ofNat_toNat]
      · simp only [if_neg fits, Option.some.injEq]
        apply Iff.intro
        · nofun
        · intro same
          exact absurd (same ▸ word.toNat_lt_size) fits

/-- A text denotes at most one number. -/
theorem Denotes.unique {text : List Char} {number other : Nat} (first : Denotes text number)
    (second : Denotes text other) : number = other := by
  have found := value?_eq_some_iff.mpr first
  rw [value?_eq_some_iff.mpr second] at found
  exact (Option.some.inj found).symm

/-- The digits of a number denote it. -/
theorem denotes_toDigits (number : Nat) : Denotes (Nat.toDigits 10 number) number := by
  refine ⟨_, Or.inl rfl, Nat.toDigits_ne_nil, fun _ => isDigit_of_mem_toDigits, ?_⟩
  rw [← ofDigits_eq, ofDigits_toDigits]

/-- A numeral holds digits and plus signs only. -/
theorem Denotes.mem {text : List Char} {number : Nat} (denotes : Denotes text number) {char : Char}
    (member : char ∈ text) : isDigit char = true ∨ char = '+' := by
  obtain ⟨digits, written, -, areDigits, -⟩ := denotes
  rcases written with rfl | rfl
  · exact Or.inl (areDigits char member)
  · rcases List.mem_cons.mp member with sign | inDigits
    · exact Or.inr sign
    · exact Or.inl (areDigits char inDigits)

end InfoModel.Text.Numeral
