/-
**The order of texts is the order of their bytes.**

Texts are compared character by character, by code point. Comparing their bytes in UTF-8 gives the
same, since a character with a smaller code point has a smaller byte where the two encodings differ
first:

* `utf8EncodeChar_eq`: an encoding is a first byte, which counts the bytes that follow, and then the
  code point in digits of six bits;
* `digits_lt`: digits compare as the numbers that they stand for;
* `first_lt_of_following_lt`: of two characters, the one with more bytes has the larger first byte;
* `bytes_lt_iff`: so texts compare as their bytes.
-/

import Mathlib.Algebra.Group.Nat.Defs
import Mathlib.Data.List.Lex

namespace InfoModel.Text.Utf8

/-- The bytes of a text, in UTF-8. -/
def bytes (text : String) : List UInt8 :=
  text.toUTF8.data.toList

theorem bytes_eq (text : String) : bytes text = text.toList.flatMap String.utf8EncodeChar := by
  unfold bytes
  rw [String.toUTF8_eq_toByteArray]
  conv_lhs => rw [← String.ofList_toList (s := text)]
  rw [String.toByteArray_ofList, List.utf8Encode, List.toList_data_toByteArray]

/-! ### Encodings -/

/-- The number of bytes behind the first byte of a code point. -/
def following (value : Nat) : Nat :=
  if value ≤ 127 then 0 else if value ≤ 2047 then 1 else if value ≤ 65535 then 2 else 3

/-- What the first byte adds to the highest digit, to count the bytes that follow. -/
def mark : Nat → Nat
  | 0 => 0
  | 1 => 192
  | 2 => 224
  | _ => 240

/-- The last digits of a number, of six bits each, as bytes that follow a first one. -/
def digits : Nat → Nat → List UInt8
  | 0, _ => []
  | count + 1, value => .ofNat (value / 64 ^ count % 64 + 128) :: digits count value

theorem toNat_le (char : Char) : char.val.toNat ≤ 1114111 := by
  have valid := char.valid
  unfold UInt32.isValidChar Nat.isValidChar at valid
  omega

/-- **An encoding is a first byte with its mark, and then digits.** -/
theorem utf8EncodeChar_eq (char : Char) :
    String.utf8EncodeChar char =
      .ofNat (char.val.toNat / 64 ^ following char.val.toNat + mark (following char.val.toNat)) ::
        digits (following char.val.toNat) char.val.toNat := by
  have bound := toNat_le char
  unfold String.utf8EncodeChar following
  generalize char.val.toNat = value at bound
  split_ifs with one two three
  · simp [digits, mark, one]
  · have high : value / 64 % 32 = value / 64 := by omega
    simp [digits, mark, high, one, two]
  · have high : value / 4096 % 16 = value / 4096 := by omega
    simp [digits, mark, high, one, two, three]
  · have high : value / 262144 % 8 = value / 262144 := by omega
    simp [digits, mark, high, one, two, three]

/-! ### Bytes -/

/-- A smaller byte decides, and an equal one leaves it to the bytes behind. -/
theorem ofNat_cons_lt {low high : Nat} (isByte : high < 256) {rest others : List UInt8}
    (below : low < high ∨ low = high ∧ rest < others) :
    UInt8.ofNat low :: rest < UInt8.ofNat high :: others := by
  rw [List.cons_lt_cons_iff]
  refine below.imp (fun less => ?_) (And.imp_left (congrArg UInt8.ofNat))
  rw [UInt8.lt_iff_toNat_lt, UInt8.toNat_ofNat', UInt8.toNat_ofNat']
  omega

/-- **Digits compare as the numbers that they stand for**, whatever is behind them. -/
theorem digits_lt {count value other : Nat} (less : value % 64 ^ count < other % 64 ^ count)
    (rest others : List UInt8) :
    digits count value ++ rest < digits count other ++ others := by
  induction count with
  | zero => simp [Nat.mod_one] at less
  | succ count ih =>
      rw [Nat.mod_pow_succ, Nat.mod_pow_succ] at less
      refine ofNat_cons_lt (by omega) ?_
      rcases Nat.lt_trichotomy (value / 64 ^ count % 64) (other / 64 ^ count % 64) with
        below | same | above
      · exact Or.inl (by omega)
      · rw [same] at less
        exact Or.inr ⟨by rw [same], ih (by omega)⟩
      · -- a larger digit outweighs all digits behind it
        have outweighs := Nat.mul_le_mul_left (64 ^ count) (Nat.succ_le_of_lt above)
        have bound := Nat.mod_lt other (Nat.pow_pos (n := count) (show 0 < 64 by omega))
        rw [Nat.mul_succ] at outweighs
        omega

theorem following_mono {value other : Nat} (le : value ≤ other) :
    following value ≤ following other := by
  unfold following
  split_ifs <;> omega

/-- The first byte is a byte. -/
theorem first_lt {value : Nat} (bound : value ≤ 1114111) :
    value / 64 ^ following value + mark (following value) < 256 := by
  unfold following
  split_ifs <;> simp only [mark] <;> omega

/-- **With more bytes to follow, the first byte is larger.** -/
theorem first_lt_of_following_lt {value other : Nat} (fewer : following value < following other) :
    value / 64 ^ following value + mark (following value) <
      other / 64 ^ following other + mark (following other) := by
  unfold following at fewer ⊢
  split_ifs at fewer ⊢ <;> simp only [mark] <;> omega

/-- **The smaller character has the smaller bytes**, whatever is behind them. -/
theorem utf8EncodeChar_lt {first second : Char} (less : first < second)
    (rest others : List UInt8) :
    String.utf8EncodeChar first ++ rest < String.utf8EncodeChar second ++ others := by
  have isByte := first_lt (toNat_le second)
  rw [Char.lt_def, UInt32.lt_iff_toNat_lt] at less
  rw [utf8EncodeChar_eq, utf8EncodeChar_eq, List.cons_append, List.cons_append]
  refine ofNat_cons_lt isByte ?_
  rcases (following_mono less.le).lt_or_eq with fewer | same
  · exact Or.inl (first_lt_of_following_lt fewer)
  · rw [← same]
    have whole := Nat.div_add_mod first.val.toNat (64 ^ following first.val.toNat)
    have wholeOther := Nat.div_add_mod second.val.toNat (64 ^ following first.val.toNat)
    rcases (Nat.div_le_div_right (c := 64 ^ following first.val.toNat) less.le).lt_or_eq with
      below | equal
    · exact Or.inl (by omega)
    · rw [equal] at whole
      exact Or.inr ⟨by rw [equal], digits_lt (by omega) rest others⟩

/-! ### Texts -/

theorem flatMap_utf8EncodeChar_lt {first second : List Char} (less : first < second) :
    first.flatMap String.utf8EncodeChar < second.flatMap String.utf8EncodeChar := by
  induction first generalizing second with
  | nil =>
      cases second with
      | nil => exact absurd less (List.lt_irrefl [])
      | cons char others =>
          rw [List.flatMap_cons, utf8EncodeChar_eq]
          exact List.nil_lt_cons _ _
  | cons char rest ih =>
      cases second with
      | nil => exact absurd less (List.not_lt_nil _)
      | cons other others =>
          rw [List.flatMap_cons, List.flatMap_cons]
          rcases List.cons_lt_cons_iff.mp less with smaller | ⟨rfl, further⟩
          · exact utf8EncodeChar_lt smaller _ _
          · exact List.append_left_lt (ih further)

/-- **Texts compare as their bytes.** -/
theorem bytes_lt_iff {first second : String} : bytes first < bytes second ↔ first < second := by
  have ascending : ∀ {low high : String}, low < high → bytes low < bytes high := by
    intro low high less
    rw [bytes_eq, bytes_eq]
    exact flatMap_utf8EncodeChar_lt less
  refine ⟨fun less => ?_, ascending⟩
  by_contra notBelow
  by_cases above : second < first
  · exact List.lt_asymm less (ascending above)
  · have same : first = second := String.le_antisymm above notBelow
    rw [same] at less
    exact List.lt_irrefl _ less

end InfoModel.Text.Utf8
