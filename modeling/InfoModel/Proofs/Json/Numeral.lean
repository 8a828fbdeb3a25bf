/-
**A number is read from its digits.**

* `Numeral.foldl_take`: the digits of a number that a word holds are all taken;
* `Numeral.read?_digits`: they are split off in front of anything that does not go on with a number
  (`Numeral.Ends`);
* `Number.isExact` leaves out doubles, which are not told by their digits. Other numbers are read
  from their text (`Number.read?_text`).
-/

import InfoModel.Json.Printer
import InfoModel.Json.Reader
import InfoModel.Proofs.Text.Numeral

namespace InfoModel.Json

namespace Numeral

open Text.Numeral (isDigit digit ofDigits)

/-- Nothing that could go on with a number stands in front. -/
def Ends (rest : List Char) : Prop :=
  ∀ char ∈ rest.head?, isDigit char = false ∧ char ≠ '.' ∧ char ≠ 'e' ∧ char ≠ 'E'

theorem ends_cons {char : Char}
    (other : isDigit char = false ∧ char ≠ '.' ∧ char ≠ 'e' ∧ char ≠ 'E') (rest : List Char) :
    Ends (char :: rest) := by
  rintro _ ⟨⟩
  exact other

/-- The value of digits behind other digits. -/
def ofDigitsFrom (taken : Nat) (digits : List Char) : Nat :=
  digits.foldl (fun value char => 10 * value + digit char) taken

theorem le_ofDigitsFrom (taken : Nat) (digits : List Char) : taken ≤ ofDigitsFrom taken digits := by
  induction digits generalizing taken with
  | nil => exact Nat.le_refl taken
  | cons char digits ih =>
      have later := ih (10 * taken + digit char)
      show taken ≤ ofDigitsFrom (10 * taken + digit char) digits
      omega

/-- Digits of a number that a word holds are all taken. -/
theorem foldl_take {digits : List Char} {taken : Nat}
    (fits : ofDigitsFrom taken digits < UInt64.size) :
    digits.foldl Significand.take { value := .ofNat taken }
      = { value := .ofNat (ofDigitsFrom taken digits) } := by
  induction digits generalizing taken with
  | nil => rfl
  | cons char digits ih =>
      have next : 10 * taken + digit char < UInt64.size :=
        Nat.lt_of_le_of_lt (le_ofDigitsFrom _ digits) fits
      have value : (UInt64.ofNat taken).toNat = taken :=
        UInt64.toNat_ofNat_of_lt' (by omega)
      have step : Significand.take { value := .ofNat taken } char
          = { value := .ofNat (10 * taken + digit char) } := by
        unfold Significand.take Significand.fits
        rw [if_pos (by simp [value]; omega), UInt64.ofNat_add, UInt64.ofNat_mul, UInt64.mul_comm]
        rfl
      rw [List.foldl_cons, step]
      exact ih fits

/-- The digits of a word are all taken. -/
theorem foldl_take_toDigits (value : UInt64) :
    (Nat.toDigits 10 value.toNat).foldl Significand.take {} = { value := value } := by
  have total : ofDigitsFrom 0 (Nat.toDigits 10 value.toNat) = value.toNat :=
    Text.Numeral.ofDigits_toDigits value.toNat
  have taken : (Nat.toDigits 10 value.toNat).foldl Significand.take { value := .ofNat 0 }
      = { value := .ofNat (ofDigitsFrom 0 (Nat.toDigits 10 value.toNat)) } :=
    foldl_take (by rw [total]; exact value.toNat_lt_size)
  rw [total, UInt64.ofNat_toNat] at taken
  exact taken

theorem integer_natural (value : UInt64) :
    integer false (Nat.toDigits 10 value.toNat) = .number (.natural value) := by
  unfold integer
  rw [foldl_take_toDigits]
  rfl

theorem integer_negative {magnitude : UInt64} (nonzero : 0 < magnitude)
    (small : magnitude.toNat ≤ Nat.pow 2 63) :
    integer true (Nat.toDigits 10 magnitude.toNat) = .number (.negative magnitude) := by
  unfold integer
  rw [foldl_take_toDigits]
  simp [nonzero, small]

section Ends

variable {rest : List Char} (ends : Ends rest)

include ends

/-- All digits in front are taken. -/
theorem takeWhile_append {digits : List Char} (areDigits : ∀ char ∈ digits, isDigit char = true) :
    (digits ++ rest).takeWhile isDigit = digits := by
  have noDigit : rest.takeWhile isDigit = [] := by
    cases rest with
    | nil => rfl
    | cons char rest => simp [(ends char rfl).1]
  rw [List.takeWhile_append_of_pos areDigits, noDigit, List.append_nil]

/-- Nothing but the digits in front is taken. -/
theorem dropWhile_append {digits : List Char} (areDigits : ∀ char ∈ digits, isDigit char = true) :
    (digits ++ rest).dropWhile isDigit = rest := by
  have noDigit : rest.dropWhile isDigit = rest := by
    cases rest with
    | nil => rfl
    | cons char rest => simp [(ends char rfl).1]
  rw [List.dropWhile_append_of_pos areDigits, noDigit]

theorem fraction?_of_ends : fraction? rest = some ([], rest) := by
  unfold fraction?
  split
  · exact absurd rfl (ends '.' rfl).2.1
  · rfl

theorem exponent?_of_ends : exponent? rest = some (none, rest) := by
  unfold exponent?
  split
  · exact absurd rfl (ends 'e' rfl).2.2.1
  · exact absurd rfl (ends 'E' rfl).2.2.2
  · rfl

/-- **Digits are split off** a text that does not go on with a number behind them. -/
theorem read?_digits {digits : List Char} (negative : Bool)
    (areDigits : ∀ char ∈ digits, isDigit char = true) (nonempty : digits ≠ [])
    (noZero : digits.head? = some '0' → digits.length = 1) :
    read? ((if negative then ['-'] else []) ++ (digits ++ rest))
      = some (integer negative digits, rest) := by
  have valid : (digits.isEmpty || (digits.head? == some '0' && decide (digits.length > 1)))
      = false := by
    rw [List.isEmpty_eq_false_iff.mpr nonempty, Bool.false_or, Bool.and_eq_false_iff]
    by_cases zero : digits.head? = some '0'
    · exact Or.inr (by simp [noZero zero])
    · exact Or.inl (by simpa using zero)
  unfold read?
  split
  rename_i isNegative text parts
  have same : negative = isNegative ∧ digits ++ rest = text := by
    cases negative with
    | true =>
        cases parts
        exact ⟨rfl, rfl⟩
    | false =>
        rw [if_neg Bool.false_ne_true, List.nil_append] at parts
        split at parts
        · -- a minus sign is no digit
          rename_i minus
          obtain ⟨first, others, rfl⟩ := List.exists_cons_of_ne_nil nonempty
          obtain rfl : first = '-' := (List.cons.inj minus).1
          cases areDigits '-' List.mem_cons_self
        · cases parts
          exact ⟨rfl, rfl⟩
  obtain ⟨rfl, rfl⟩ := same
  dsimp only
  rw [takeWhile_append ends areDigits, dropWhile_append ends areDigits, valid,
    fraction?_of_ends ends]
  dsimp only
  rw [exponent?_of_ends ends]
  rfl

end Ends

end Numeral

/-! ### Exact numbers -/

/-- The number is a word, signed or not, so that its digits say which. -/
def Number.isExact : Number → Bool
  | .natural _ => true
  | .negative magnitude => 0 < magnitude && magnitude.toNat ≤ Nat.pow 2 63
  | .double _ => false

/-- The text of a number starts with a digit or a minus sign. -/
theorem Number.text_starts {number : Number} (exact : number.isExact = true) :
    ∃ first others, number.text.toList = first :: others ∧
      (first = '-' ∨ Text.Numeral.isDigit first = true) := by
  cases number with
  | natural value =>
      obtain ⟨first, others, digits⟩ :=
        List.exists_cons_of_ne_nil (Nat.toDigits_ne_nil : Nat.toDigits 10 value.toNat ≠ [])
      refine ⟨first, others, by simpa [text] using digits, Or.inr ?_⟩
      exact Text.Numeral.isDigit_of_mem_toDigits (digits ▸ List.mem_cons_self)
  | negative magnitude => exact ⟨'-', _, by simp [text]; rfl, Or.inl rfl⟩
  | double bits => cases exact

/-- **A number is read from its text.** -/
theorem Number.read?_text {number : Number} {rest : List Char} (exact : number.isExact = true)
    (ends : Numeral.Ends rest) :
    Numeral.read? (number.text.toList ++ rest) = some (.number number, rest) := by
  cases number with
  | natural value =>
      have text : (Number.natural value).text.toList ++ rest
          = (if false then ['-'] else []) ++ (Nat.toDigits 10 value.toNat ++ rest) := by
        simp [Number.text]
      rw [text, Numeral.read?_digits ends false (fun _ => Text.Numeral.isDigit_of_mem_toDigits)
        Nat.toDigits_ne_nil (Text.Numeral.length_toDigits_of_head?_eq_zero _), Numeral.integer_natural]
  | negative magnitude =>
      have text : (Number.negative magnitude).text.toList ++ rest
          = (if true then ['-'] else []) ++ (Nat.toDigits 10 magnitude.toNat ++ rest) := by
        simp [Number.text]
      simp only [isExact, Bool.and_eq_true, decide_eq_true_eq] at exact
      rw [text, Numeral.read?_digits ends true (fun _ => Text.Numeral.isDigit_of_mem_toDigits)
        Nat.toDigits_ne_nil (Text.Numeral.length_toDigits_of_head?_eq_zero _),
        Numeral.integer_negative exact.1 exact.2]
  | double bits => cases exact

/-- A digit or a minus sign is no other character. -/
theorem ne_of_numeric {first char : Char}
    (numeric : first = '-' ∨ Text.Numeral.isDigit first = true)
    (other : char ≠ '-' ∧ Text.Numeral.isDigit char = false) : first ≠ char := by
  rintro rfl
  rcases numeric with minus | digit
  · exact other.1 minus
  · rw [other.2] at digit
    cases digit

end InfoModel.Json
