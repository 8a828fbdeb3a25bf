/-
**Numbers of JSON texts.**

A number literal is read digit by digit into a word of 64 bits and a power of ten. A literal without
fraction and exponent that fits a word, signed or not, keeps its exact value; any other literal is
the double that the word gives when it is scaled by the power of ten in double arithmetic.

* `Numeral.read?` splits a number literal off a text;
* `Significand.take` adds a digit as long as the word holds it, and `Double.scaled` scales the word.
-/

import InfoModel.Json.Basic
import InfoModel.Text.Numeral

namespace InfoModel

namespace Double

/-- A double times a power of ten, by one step per 308 decimal places; nothing if it overflows. -/
def scaled : Nat → Float → Int → Option Float
  | 0, _, _ => some 0.0
  | fuel + 1, value, exponent =>
    if exponent.natAbs ≤ 308 then
      let power := Float.ofScientific 1 false exponent.natAbs
      if 0 ≤ exponent then
        let product := value * power
        if product.isInf then none else some product
      else some (value / power)
    else if value == 0.0 then some value
    else if 0 ≤ exponent then none
    else scaled fuel (value / Float.ofScientific 1 false 308) (exponent + 308)

/-- The bits of a word times a power of ten. -/
def ofParts (negative : Bool) (significand : UInt64) (exponent : Int) : Option UInt64 :=
  (scaled 4 significand.toFloat exponent).map fun value =>
    (if negative then -value else value).toBits

end Double

namespace Json.Numeral

open Text.Numeral (isDigit digit)

/-- The leading digits of a number, as far as a word holds them. -/
structure Significand where
  /-- The number of the digits taken. -/
  value : UInt64 := 0
  /-- The power of ten that the digits left out and the digits after the point make up. -/
  exponent : Int := 0
  /-- A digit did not fit, so that no later digit counts. -/
  full : Bool := false

/-- The word holds one more digit. -/
def Significand.fits (significand : Significand) (char : Char) : Bool :=
  !significand.full && significand.value.toNat * 10 + digit char < UInt64.size

/-- Takes a digit in front of the point. -/
def Significand.take (significand : Significand) (char : Char) : Significand :=
  if significand.fits char then
    { significand with value := significand.value * 10 + UInt64.ofNat (digit char) }
  else { significand with exponent := significand.exponent + 1, full := true }

/-- Takes a digit behind the point. -/
def Significand.takeBehind (significand : Significand) (char : Char) : Significand :=
  if significand.fits char then
    { significand with
      value := significand.value * 10 + UInt64.ofNat (digit char)
      exponent := significand.exponent - 1 }
  else { significand with full := true }

/-- A number without fraction and exponent. -/
def integer (negative : Bool) (digits : List Char) : Json :=
  let significand := digits.foldl Significand.take {}
  let double := match Double.ofParts negative significand.value significand.exponent with
    | some bits => Json.number (.double bits)
    | none => .unreadable
  if significand.full then double
  else if !negative then .number (.natural significand.value)
  else if 0 < significand.value && significand.value.toNat ≤ Nat.pow 2 63 then
    .number (.negative significand.value)
  else double

/-- The digits of an exponent and its sign. -/
structure Exponent where
  negative : Bool
  digits : List Char

/-- The bound beyond which an exponent is not added up. -/
def exponentLimit : Nat := 2147483647

/-- A number with a fraction or an exponent. -/
def fractional (negative : Bool) (whole fraction : List Char) (power : Option Exponent) : Json :=
  let front := whole.foldl Significand.take {}
  let significand := fraction.foldl Significand.takeBehind { front with full := false }
  let bits := match power with
    | none => Double.ofParts negative significand.value significand.exponent
    | some power =>
      let size := Text.Numeral.ofDigits power.digits
      if size ≤ exponentLimit then
        Double.ofParts negative significand.value
          (if power.negative then significand.exponent - size else significand.exponent + size)
      else if significand.value == 0 || power.negative then Double.ofParts negative 0 0
      else none
  match bits with
  | some bits => .number (.double bits)
  | none => .unreadable

/-- The fraction of a literal: the digits behind a point, at least one. -/
def fraction? (text : List Char) : Option (List Char × List Char) :=
  match text with
  | '.' :: rest =>
    let digits := rest.takeWhile isDigit
    if digits.isEmpty then none else some (digits, rest.dropWhile isDigit)
  | _ => some ([], text)

/-- The exponent of a literal: a mark, a sign or none, and at least one digit. -/
def exponent? (text : List Char) : Option (Option Exponent × List Char) :=
  match text with
  | 'e' :: rest => some rest |>.bind signed
  | 'E' :: rest => some rest |>.bind signed
  | _ => some (none, text)
where
  /-- The sign and digits behind the mark. -/
  signed (text : List Char) : Option (Option Exponent × List Char) :=
    let (negative, rest) := match text with
      | '-' :: rest => (true, rest)
      | '+' :: rest => (false, rest)
      | rest => (false, rest)
    let digits := rest.takeWhile isDigit
    if digits.isEmpty then none else some (some ⟨negative, digits⟩, rest.dropWhile isDigit)

/-- Splits a number literal off a text. A leading zero stands alone in front of the point. -/
def read? (text : List Char) : Option (Json × List Char) :=
  let (negative, text) := match text with
    | '-' :: rest => (true, rest)
    | rest => (false, rest)
  let whole := text.takeWhile isDigit
  let rest := text.dropWhile isDigit
  if whole.isEmpty || (whole.head? == some '0' && whole.length > 1) then none
  else
    match fraction? rest with
    | none => none
    | some (fraction, rest) =>
      match exponent? rest with
      | none => none
      | some (power, rest) =>
        if fraction.isEmpty && power.isNone then some (integer negative whole, rest)
        else some (fractional negative whole fraction power, rest)

end Json.Numeral

end InfoModel
