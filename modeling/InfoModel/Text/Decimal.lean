/-
**Decimals as doubles.**

* `Decimal.nearest?` is the double nearest to a run of digits times a power of ten, if the doubles
  reach that far.
-/

import InfoModel.Text.Numeral

namespace InfoModel.Text.Decimal

/-- The places to which a decimal can reach on either side of the point without being zero or beyond
the doubles. -/
def placeLimit : Int := 400

/-- The double nearest to digits times a power of ten. -/
def nearest? (digits : List Char) (exponent : Int) : Option Float :=
  let significant := digits.dropWhile (· == '0')
  let places : Int := significant.length + exponent
  if significant.isEmpty || places < -placeLimit then some 0.0
  else if placeLimit < places then none
  else
    let value := Float.ofScientific (Numeral.ofDigits significant) (exponent < 0) exponent.natAbs
    if value.isFinite then some value else none

/-- The value of digits behind a sign or none. -/
def signed? (text : List Char) : Option Int :=
  let digits := match text with
    | '+' :: rest => rest
    | '-' :: rest => rest
    | rest => rest
  if digits.isEmpty || !digits.all Numeral.isDigit then none
  else
    let value : Int := Numeral.ofDigits digits
    some (if text.head? = some '-' then -value else value)

end InfoModel.Text.Decimal
