/-
**What plain scalars stand for.**

A plain scalar is null, a truth value, a number or a text, as its characters say.

* `CoreSchema.resolve` decides between them. A number is an integer, in decimal, hexadecimal, octal
  or binary digits, or a float; an integer with a zero in front of other digits is a text, and so is
  a float beyond the doubles;
* `CoreSchema.natural?` reads an integer without minus sign.
-/

import InfoModel.Json.Basic
import InfoModel.Json.Reader
import InfoModel.Text.Decimal

namespace InfoModel.Yaml.CoreSchema

open Text.Numeral (isDigit)

/-- What a plain scalar stands for. -/
inductive Meaning where
  | null
  | bool (value : Bool)
  | number (value : Json.Number)
  /-- An integer beyond 64 bits. -/
  | wide
  | text

/-- The words for null. -/
def isNull (text : List Char) : Bool :=
  ["null".toList, "Null".toList, "NULL".toList, "~".toList].contains text

/-- The truth value of a word. -/
def bool? (text : List Char) : Option Bool :=
  if ["true".toList, "True".toList, "TRUE".toList].contains text then some true
  else if ["false".toList, "False".toList, "FALSE".toList].contains text then some false
  else none

/-- The value of digits to a base up to 16. -/
def ofBase? (base : Nat) (digits : List Char) : Option Nat :=
  if digits.isEmpty then none
  else
    digits.foldl
      (fun value char =>
        match value, Json.hexValue? char with
        | some value, some digit => if digit < base then some (base * value + digit) else none
        | _, _ => none)
      (some 0)

/-- The value of digits behind the sign of their base, or of decimal digits. -/
def magnitude? : List Char → Option Nat
  | '0' :: 'x' :: digits => ofBase? 16 digits
  | '0' :: 'o' :: digits => ofBase? 8 digits
  | '0' :: 'b' :: digits => ofBase? 2 digits
  | digits => ofBase? 10 digits

/-- The text without a sign in front. -/
def unsigned : List Char → List Char
  | '+' :: rest => rest
  | '-' :: rest => rest
  | text => text

/-- Decimal digits with a zero in front. They make no number. -/
def hasLeadingZero (text : List Char) : Bool :=
  match unsigned text with
  | '0' :: digit :: rest => (digit :: rest).all isDigit
  | _ => false

/-- The value of an integer without minus sign. -/
def natural? (text : List Char) : Option Nat :=
  if hasLeadingZero text then none
  else
    match text with
    | '+' :: digits => magnitude? digits
    | digits => magnitude? digits

/-- The magnitude of an integer with a minus sign. -/
def negated? (text : List Char) : Option Nat :=
  if hasLeadingZero text then none
  else
    match text with
    | '-' :: digits => magnitude? digits
    | _ => none

/-- An integer below these bounds is kept, in 64 bits or as one that is too wide for them. -/
def integer? (text : List Char) : Option Meaning :=
  match natural? text, negated? text with
  | some value, _ =>
    if value < Nat.pow 2 64 then some (.number (.natural (UInt64.ofNat value)))
    else if value < Nat.pow 2 128 then some .wide
    else none
  | none, some 0 => some (.number (.natural 0))
  | none, some value =>
    if value ≤ Nat.pow 2 63 then some (.number (.negative (UInt64.ofNat value)))
    else if value ≤ Nat.pow 2 127 then some .wide
    else none
  | none, none => none

/-- The parts of a decimal: its digits without the point, and the number of places behind the
point. -/
def decimal? (text : List Char) : Option (List Char × Nat) :=
  let whole := text.takeWhile isDigit
  let fraction? := match text.dropWhile isDigit with
    | [] => some []
    | '.' :: fraction => if fraction.all isDigit then some fraction else none
    | _ => none
  match fraction? with
  | some fraction =>
    if whole.isEmpty && fraction.isEmpty then none else some (whole ++ fraction, fraction.length)
  | none => none

/-- A mark in front of an exponent. -/
def isExponentMark (char : Char) : Bool :=
  char == 'e' || char == 'E'

/-- The magnitude of a float. -/
def floatMagnitude? (text : List Char) : Option Float :=
  let mantissa := text.takeWhile (!isExponentMark ·)
  let exponent? := match text.dropWhile (!isExponentMark ·) with
    | [] => some 0
    | _ :: exponent => Text.Decimal.signed? exponent
  match decimal? mantissa, exponent? with
  | some (digits, places), some exponent => Text.Decimal.nearest? digits (exponent - places)
  | _, _ => none

/-- The words for infinity. -/
def isInfinity (text : List Char) : Bool :=
  [".inf".toList, ".Inf".toList, ".INF".toList].contains text

/-- The words for the value that is no number. -/
def isNan (text : List Char) : Bool :=
  [".nan".toList, ".NaN".toList, ".NAN".toList].contains text

/-- The value of a float. -/
def float? (text : List Char) : Option Float :=
  let infinity : Float := 1.0 / 0.0
  if isNan text then some (0.0 / 0.0)
  else
    match text with
    | '-' :: rest => if isInfinity rest then some (-infinity) else (floatMagnitude? rest).map (- ·)
    | '+' :: rest => if isInfinity rest then some infinity else floatMagnitude? rest
    | rest => if isInfinity rest then some infinity else floatMagnitude? rest

/-- What a plain scalar stands for. -/
def resolve (text : List Char) : Meaning :=
  if text.isEmpty || isNull text then .null
  else
    match bool? text, integer? text with
    | some value, _ => .bool value
    | none, some meaning => meaning
    | none, none =>
      if hasLeadingZero text then .text
      else
        match float? text with
        | some value => .number (.double value.toBits)
        | none => .text

end InfoModel.Yaml.CoreSchema
