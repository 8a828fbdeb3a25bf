/-
**Decimal numerals.**

Unsigned decimal numerals as they are written inside other notations: an optional plus sign and at
least one ASCII digit, leading zeros allowed.

* `Numeral.value?` reads a numeral of any size;
* `Numeral.word?` reads one that fits 32 bits.
-/

namespace InfoModel.Text.Numeral

/-- One of the ten ASCII digits. -/
def isDigit (char : Char) : Bool :=
  '0' ≤ char && char ≤ '9'

/-- The value of an ASCII digit. -/
def digit (char : Char) : Nat :=
  char.toNat - '0'.toNat

/-- The value of a run of digits, most significant first. -/
def ofDigits (digits : List Char) : Nat :=
  digits.foldl (fun value char => 10 * value + digit char) 0

/-- The digits of a numeral: all of it, less one plus sign in front. -/
def unsigned : List Char → List Char
  | '+' :: digits => digits
  | digits => digits

/-- The value of a numeral, if the text is one. -/
def value? (text : List Char) : Option Nat :=
  let digits := unsigned text
  if !digits.isEmpty && digits.all isDigit then some (ofDigits digits) else none

/-- The value of a numeral below `2 ^ 32`, if the text is one. -/
def word? (text : List Char) : Option UInt32 :=
  match value? text with
  | some value => if value < UInt32.size then some (UInt32.ofNat value) else none
  | none => none

end InfoModel.Text.Numeral
