/-
**Integers of any size in JSON texts.**

* `Significand.Holds`: while every digit fits, a word holds the value of the digits taken;
* `integer_cases`: so digits that become a natural number are the digits of this number, and all
  other digits become something else;
* `read_toString`: the decimal text of an integer is read as its sign and digits.
-/

import InfoModel.Proofs.Json.Nesting

namespace InfoModel.Json

namespace Numeral

open Text.Numeral (isDigit digit ofDigits)

/-- The word holds the value of the digits taken, unless some did not fit. -/
def Significand.Holds (significand : Significand) (taken : Nat) : Prop :=
  significand.full = false → significand.value.toNat = taken

/-- One digit more is held, or does not fit. -/
theorem Significand.Holds.take {significand : Significand} {taken : Nat}
    (holds : significand.Holds taken) (char : Char) :
    (significand.take char).Holds (10 * taken + digit char) := by
  unfold Significand.take
  by_cases fits : significand.fits char = true
  · rw [if_pos fits]
    intro notFull
    simp only [Significand.fits, Bool.and_eq_true, decide_eq_true_eq] at fits
    show (significand.value * 10 + UInt64.ofNat (digit char)).toNat = _
    have size : UInt64.size = 2 ^ 64 := rfl
    have value := holds notFull
    rw [UInt64.toNat_add, UInt64.toNat_mul, UInt64.toNat_ofNat_of_lt' (by omega)]
    simp only [UInt64.reduceToNat]
    omega
  · rw [if_neg fits]
    nofun

/-- All digits are held, or one of them does not fit. -/
theorem Significand.Holds.foldl {significand : Significand} {taken : Nat}
    (holds : significand.Holds taken) (digits : List Char) :
    (digits.foldl Significand.take significand).Holds (ofDigitsFrom taken digits) := by
  induction digits generalizing significand taken with
  | nil => exact holds
  | cons char digits ih => exact ih (holds.take char)

/-- **What digits become**: the natural number whose digits they are, or no natural number. -/
theorem integer_cases (negative : Bool) (digits : List Char) :
    (∃ word, integer negative digits = .number (.natural word) ∧ negative = false ∧
      word.toNat = ofDigits digits) ∨
    (∃ magnitude, integer negative digits = .number (.negative magnitude)) ∨
    (∃ bits, integer negative digits = .number (.double bits)) ∨
    integer negative digits = .unreadable := by
  have start : ({} : Significand).Holds 0 := fun _ => rfl
  have holds := start.foldl digits
  unfold integer
  generalize digits.foldl Significand.take {} = significand at holds
  dsimp only
  cases full : significand.full with
  | true =>
      rw [if_pos rfl]
      cases Double.ofParts negative significand.value significand.exponent with
      | none => exact Or.inr (Or.inr (Or.inr rfl))
      | some bits => exact Or.inr (Or.inr (Or.inl ⟨bits, rfl⟩))
  | false =>
      rw [if_neg Bool.false_ne_true]
      cases negative with
      | false => exact Or.inl ⟨significand.value, rfl, rfl, holds full⟩
      | true =>
          rw [if_neg (by decide)]
          by_cases small : (0 < significand.value && significand.value.toNat ≤ Nat.pow 2 63) = true
          · rw [if_pos small]
            exact Or.inr (Or.inl ⟨significand.value, rfl⟩)
          rw [if_neg small]
          cases Double.ofParts true significand.value significand.exponent with
          | none => exact Or.inr (Or.inr (Or.inr rfl))
          | some bits => exact Or.inr (Or.inr (Or.inl ⟨bits, rfl⟩))

/-- Digits become a leaf. -/
theorem depth_integer (negative : Bool) (digits : List Char) :
    (integer negative digits).depth = 0 := by
  rcases integer_cases negative digits with ⟨_, same, -⟩ | ⟨_, same⟩ | ⟨_, same⟩ | same <;>
    rw [same] <;> rfl

end Numeral

/-- The characters of an integer: a minus sign if it is below zero, and its digits. -/
theorem toList_toString (number : Int) : (toString number).toList
    = (if number < 0 then ['-'] else []) ++ Nat.toDigits 10 number.natAbs := by
  cases number with
  | ofNat number =>
      have notNegative : ¬ Int.ofNat number < 0 := Int.not_lt.mpr (Int.natCast_nonneg number)
      rw [if_neg notNegative]
      show (toString number).toList = _
      simp
  | negSucc number =>
      rw [if_pos (Int.negSucc_lt_zero number)]
      show ("-" ++ toString (number + 1)).toList = _
      simp

/-- An integer is made of digits and a minus sign. -/
theorem numeric_of_mem_toString {number : Int} {char : Char}
    (member : char ∈ (toString number).toList) :
    char = '-' ∨ Text.Numeral.isDigit char = true := by
  rw [toList_toString, List.mem_append] at member
  rcases member with sign | inDigits
  · by_cases negative : number < 0
    · rw [if_pos negative] at sign
      exact Or.inl (List.mem_singleton.mp sign)
    · rw [if_neg negative] at sign
      cases sign
  · exact Or.inr (Text.Numeral.isDigit_of_mem_toDigits inDigits)

theorem parse_toString (number : Int) : parse (toString number)
    = .ok (Numeral.integer (decide (number < 0)) (Nat.toDigits 10 number.natAbs)) := by
  have ends : Numeral.Ends [] := fun _ first => nomatch first
  have split : Numeral.read? (toString number).toList
      = some (Numeral.integer (decide (number < 0)) (Nat.toDigits 10 number.natAbs), []) := by
    rw [toList_toString]
    simpa using Numeral.read?_digits ends (decide (number < 0))
      (fun _ => Text.Numeral.isDigit_of_mem_toDigits) Nat.toDigits_ne_nil
      (Text.Numeral.length_toDigits_of_head?_eq_zero number.natAbs)
  have nonempty : (toString number).toList ≠ [] := by
    rw [toList_toString]
    exact List.append_ne_nil_of_right_ne_nil _ Nat.toDigits_ne_nil
  obtain ⟨first, others, chars⟩ := List.exists_cons_of_ne_nil nonempty
  have numeric := numeric_of_mem_toString (chars ▸ List.mem_cons_self : first ∈ _)
  rw [chars, ← leaf?_of_numeric numeric] at split
  unfold parse
  dsimp only
  rw [chars, value_of_leaf _ (skipBlanks_of_numeric numeric others)
    (ne_of_numeric numeric (by decide)) (ne_of_numeric numeric (by decide)) split]
  rfl

/-- **The decimal text of an integer is read as its sign and digits.** -/
theorem read_toString (number : Int) : read (toString number)
    = .ok (Numeral.integer (decide (number < 0)) (Nat.toDigits 10 number.natAbs)) := by
  rw [read_of_parse (parse_toString number), upTo_eq_self]
  rw [Numeral.depth_integer]
  exact Nat.zero_le _

end InfoModel.Json
