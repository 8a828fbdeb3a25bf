/-
**The text of a double.**

The fewest decimal digits that read back as the same double, found by exact arithmetic on natural
numbers, and their layout.

* `Binary.readsBack` says when a decimal lies among the reals that round to a double;
* `Binary.shortest` takes the first decimal grid with such a point beside the value, and of two
  points the nearer;
* `Double.text` lays the digits out: positional for decimal exponents from -5 up to 15, with one
  digit after the point at least, else with an exponent `e`.
-/

namespace InfoModel.Double

/-- A finite non-negative double, `mantissa * 2 ^ exponent`. -/
structure Binary where
  /-- The integer significand. -/
  mantissa : Nat
  /-- The power of two that scales it. -/
  exponent : Int
  /-- The gap to the double below is half the gap to the double above. -/
  narrowBelow : Bool

/-- The double of finite bits, without its sign. -/
def Binary.ofBits (bits : UInt64) : Binary :=
  let exponent := ((bits >>> 52) &&& 0x7FF).toNat
  let fraction := (bits &&& 0xFFFFFFFFFFFFF).toNat
  if exponent == 0 then ⟨fraction, -1074, false⟩
  else ⟨Nat.pow 2 52 + fraction, (exponent : Int) - 1075, fraction == 0 && exponent > 1⟩

/-- The decimal `digits * 10 ^ exponent`. -/
structure Decimal where
  digits : Nat
  exponent : Int

/-- Compares `first * 10 ^ tens` with `second * 2 ^ twos`. -/
def compareScaled (first : Nat) (tens : Int) (second : Nat) (twos : Int) : Ordering :=
  compare (first * Nat.pow 10 tens.toNat * Nat.pow 2 (-twos).toNat)
    (second * Nat.pow 2 twos.toNat * Nat.pow 10 (-tens).toNat)

/-- The decimal lies among the reals that round to the double: between the midpoints to its
neighbours, ends included when the significand is even. -/
def Binary.readsBack (double : Binary) (decimal : Decimal) : Bool :=
  let low := if double.narrowBelow then 4 * double.mantissa - 1 else 4 * double.mantissa - 2
  let high := 4 * double.mantissa + 2
  let closed := double.mantissa % 2 == 0
  let above := compareScaled decimal.digits decimal.exponent low (double.exponent - 2)
  let below := compareScaled decimal.digits decimal.exponent high (double.exponent - 2)
  (above == .gt || (closed && above == .eq)) && (below == .lt || (closed && below == .eq))

/-- The least decimal exponent above the double, searched from an estimate. -/
def Binary.scale (double : Binary) : Int :=
  let bits : Int := (Nat.log2 double.mantissa : Int) + double.exponent
  let estimate : Int := bits * 30103 / 100000 - 1
  let step : Nat := ((List.range 6).find? fun step =>
    compareScaled 1 (estimate + (step : Nat)) double.mantissa double.exponent == .gt).getD 6
  estimate + step

/-- The point of a decimal grid nearest to the double among the two beside it that read back. -/
def Binary.onGrid (double : Binary) (grid : Int) : Option Decimal :=
  let numerator := double.mantissa * Nat.pow 2 double.exponent.toNat * Nat.pow 10 (-grid).toNat
  let denominator := Nat.pow 2 (-double.exponent).toNat * Nat.pow 10 grid.toNat
  let quotient := numerator / denominator
  let lower : Decimal := ⟨quotient, grid⟩
  let upper : Decimal := ⟨quotient + 1, grid⟩
  match double.readsBack lower, double.readsBack upper with
  | true, true =>
    if 2 * numerator < (2 * quotient + 1) * denominator then some lower
    else if 2 * numerator == (2 * quotient + 1) * denominator && quotient % 2 == 0 then some lower
    else some upper
  | true, false => some lower
  | false, true => some upper
  | false, false => none

/-- The decimal of fewest digits that reads back as the double; its exact value if there is none
within seventeen digits. -/
def Binary.shortest (double : Binary) : Decimal :=
  let scale := double.scale
  match (List.range 17).findSome? fun count => double.onGrid (scale - (count + 1 : Nat)) with
  | some decimal => decimal
  | none =>
    ⟨double.mantissa * Nat.pow 2 double.exponent.toNat * Nat.pow 5 (-double.exponent).toNat,
      min double.exponent 0⟩

/-- Moves the zeros at the end of the digits into the exponent. -/
def Decimal.strip : Nat → Decimal → Decimal
  | 0, decimal => decimal
  | fuel + 1, decimal =>
    if decimal.digits != 0 && decimal.digits % 10 == 0 then
      strip fuel ⟨decimal.digits / 10, decimal.exponent + 1⟩
    else decimal

/-- The text of a decimal that is not zero. -/
def Decimal.text (decimal : Decimal) : String :=
  let digits := toString decimal.digits
  let point : Int := digits.length + decimal.exponent
  if 0 ≤ decimal.exponent && point ≤ 16 then
    digits ++ "".pushn '0' decimal.exponent.toNat ++ ".0"
  else if 0 < point && point ≤ 16 then
    String.ofList (digits.toList.take point.toNat) ++ "." ++
      String.ofList (digits.toList.drop point.toNat)
  else if -5 < point && point ≤ 0 then
    "0." ++ "".pushn '0' (-point).toNat ++ digits
  else
    let exponent := "e" ++ toString (point - 1)
    match digits.toList with
    | [] => exponent
    | [lead] => String.ofList [lead] ++ exponent
    | lead :: rest => String.ofList (lead :: '.' :: rest) ++ exponent

/-- The double is finite. -/
def isFinite (bits : UInt64) : Bool :=
  ((bits >>> 52) &&& 0x7FF) != 0x7FF

/-- The text of a finite double. -/
def text (bits : UInt64) : String :=
  let sign := if bits >>> 63 == 1 then "-" else ""
  let double := Binary.ofBits bits
  if double.mantissa == 0 then sign ++ "0.0"
  else sign ++ (double.shortest.strip 20).text

end InfoModel.Double
