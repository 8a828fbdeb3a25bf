/-
**Occurrence notation.**

How often a member may occur is written `1`, `0..1`, `1..*`: a bound that counts for both ends, or
two bounds with `..` between them. `*`, `n` and `N` stand for "no limit". Blanks around the whole
and around each bound do not count.

* `Occurrence.read?` reads the notation and says what is wrong with a text that is none;
* `Occurrence.text` writes an occurrence. An occurrence keeps of its upper bound only whether it is
  above one, so a minimum above one with a single occurrence is written as text that reads back as
  nothing.
-/

import InfoModel.Text.Blank
import InfoModel.Text.Numeral

namespace InfoModel

/-- How often a member may occur. -/
structure Occurrence where
  /-- The least number of occurrences. -/
  min : UInt32
  /-- More than one occurrence is allowed. -/
  multi : Bool
deriving DecidableEq, Inhabited

/-- What is wrong with an occurrence notation. -/
inductive OccurrenceFlaw where
  | empty
  | lowerNotNumber
  | upperNotNumber
  | upperBelowLower
  | upperZero
deriving DecidableEq

/-- A text that is no occurrence notation, as it was written. -/
structure OccurrenceFault where
  /-- The text as written. -/
  written : String
  /-- What is wrong with it. -/
  flaw : OccurrenceFlaw
deriving DecidableEq

/-- The wording of a flaw. -/
def OccurrenceFlaw.message : OccurrenceFlaw → String
  | .empty => "empty notation"
  | .lowerNotNumber => "lower bound is not a number"
  | .upperNotNumber => "upper bound is not a number or '*'"
  | .upperBelowLower => "upper bound is lower than the lower bound"
  | .upperZero => "upper bound must be at least 1"

/-- The report on a text that is no notation. -/
def OccurrenceFault.message (fault : OccurrenceFault) : String :=
  "Invalid occurrence notation '" ++ fault.written ++ "': " ++ fault.flaw.message

namespace Occurrence

/-- Exactly one. -/
def required : Occurrence := ⟨1, false⟩

/-- At most one. -/
def optional : Occurrence := ⟨0, false⟩

/-- Any number. -/
def many : Occurrence := ⟨0, true⟩

/-- The bound "no limit". -/
def isUnbounded (bound : List Char) : Bool :=
  bound == ['*'] || bound == ['n'] || bound == ['N']

/-- The texts before and after the first `..`. -/
def splitRange : List Char → Option (List Char × List Char)
  | '.' :: '.' :: rest => some ([], rest)
  | char :: rest => (splitRange rest).map fun (lower, upper) => (char :: lower, upper)
  | [] => none

/-- The two bounds of a notation without surrounding blanks. A single bound counts for both ends,
and "no limit" alone starts at zero. -/
def bounds (text : List Char) : List Char × List Char :=
  match splitRange text with
  | some (lower, upper) => (Text.trim lower, Text.trim upper)
  | none => if isUnbounded text then (['0'], text) else (text, text)

/-- The occurrence between two bounds. -/
def between (lower upper : List Char) : Except OccurrenceFlaw Occurrence :=
  match Text.Numeral.word? lower with
  | none => .error .lowerNotNumber
  | some min =>
    if isUnbounded upper then .ok ⟨min, true⟩
    else
      match Text.Numeral.word? upper with
      | none => .error .upperNotNumber
      | some max =>
        if max < min then .error .upperBelowLower
        else if max = 0 then .error .upperZero
        else .ok ⟨min, max > 1⟩

/-- The occurrence that the characters of a notation stand for. -/
def ofChars (text : List Char) : Except OccurrenceFlaw Occurrence :=
  let trimmed := Text.trim text
  if trimmed.isEmpty then .error .empty
  else
    let (lower, upper) := bounds trimmed
    between lower upper

/-- Reads an occurrence notation. -/
def read? (written : String) : Except OccurrenceFault Occurrence :=
  match ofChars written.toList with
  | .ok occurrence => .ok occurrence
  | .error flaw => .error ⟨written, flaw⟩

/-- Writes an occurrence: the minimum and `..*` when it may occur more than once, else the minimum
and `..1`, and a plain `1` for exactly one. -/
def text (occurrence : Occurrence) : String :=
  let min := toString occurrence.min.toNat
  if occurrence.multi then min ++ "..*"
  else if occurrence.min = 1 then "1"
  else min ++ "..1"

end Occurrence

end InfoModel
