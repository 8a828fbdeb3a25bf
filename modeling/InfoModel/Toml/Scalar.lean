/-
**Scalars of TOML texts.**

Each reader takes what it reads off the front of a text and gives the rest.

* `Toml.string?` reads the four kinds of strings;
* `Toml.moment?` reads dates and times, `Toml.float?` and `Toml.integer?` numbers. Underscores may
  stand between digits.
-/

import InfoModel.Json.Reader
import InfoModel.Text.Decimal
import InfoModel.Toml.Value

namespace InfoModel.Toml

open Text.Numeral (isDigit ofDigits)

/-! ### Blanks -/

/-- A space or a tab. -/
def isBlank (char : Char) : Bool :=
  char == ' ' || char == '\t'

/-- A character that may stand in a comment: no control character but the tab. -/
def isShown (char : Char) : Bool :=
  let code := char.toNat
  code == 0x09 || (0x20 ≤ code && code ≤ 0x7E) || 0x80 ≤ code

/-- The text without blanks in front. -/
def skipBlanks (text : List Char) : List Char :=
  text.dropWhile isBlank

/-- The text without a comment in front. -/
def skipComment (text : List Char) : List Char :=
  match text with
  | '#' :: rest => rest.dropWhile isShown
  | rest => rest

/-- The text behind a line break. -/
def newline? : List Char → Option (List Char)
  | '\n' :: rest => some rest
  | '\r' :: '\n' :: rest => some rest
  | _ => none

/-- The text behind the end of a line, with blanks and a comment in front. -/
def lineEnd? (text : List Char) : Option (List Char) :=
  match skipComment (skipBlanks text) with
  | [] => some []
  | rest => newline? rest

/-- The text without blanks, comments and line breaks in front. -/
def skipLines : Nat → List Char → List Char
  | 0, text => text
  | fuel + 1, text =>
    let text := skipBlanks text
    match newline? (skipComment text) with
    | some rest => skipLines fuel rest
    | none => text

/-! ### Strings -/

/-- The character that another one stands for behind a backslash. -/
def escaped? : Char → Option Char
  | 'b' => some (Char.ofNat 8)
  | 't' => some '\t'
  | 'n' => some '\n'
  | 'f' => some (Char.ofNat 12)
  | 'r' => some '\r'
  | '"' => some '"'
  | '\\' => some '\\'
  | _ => none

/-- The character of a code of so many hexadecimal digits, and the text behind it. -/
def coded? (length : Nat) (text : List Char) : Option (Char × List Char) := do
  let digits ← (text.take length).mapM Json.hexValue?
  let code := digits.foldl (fun code digit => 16 * code + digit) 0
  if digits.length != length || (0xD800 ≤ code && code ≤ 0xDFFF) || 0x10FFFF < code then none
  else return (Char.ofNat code, text.drop length)

/-- The character that stands behind a backslash, and the text behind it. -/
def escape? : List Char → Option (Char × List Char)
  | 'u' :: rest => coded? 4 rest
  | 'U' :: rest => coded? 8 rest
  | char :: rest => (escaped? char).map (·, rest)
  | [] => none

/-- The rest of a string of one line, up to its closing quote. -/
def basicFrom? : Nat → List Char → List Char → Option (List Char × List Char)
  | 0, _, _ => none
  | fuel + 1, done, text =>
    match text with
    | [] => none
    | '"' :: rest => some (done.reverse, rest)
    | '\\' :: rest =>
      match escape? rest with
      | some (char, rest) => basicFrom? fuel (char :: done) rest
      | none => none
    | char :: rest => if isShown char then basicFrom? fuel (char :: done) rest else none

/-- The text behind blanks and line breaks, if there is at least one line break. -/
def behindBreaks? : Nat → List Char → Option (List Char)
  | 0, _ => none
  | fuel + 1, text =>
    (newline? (skipBlanks text)).map fun rest => (behindBreaks? fuel rest).getD (skipBlanks rest)

/-- Takes at most five quotes that end a string of several lines: those in front of the last three
belong to the string. -/
def closing? (quote : Char) (text : List Char) : Option (List Char × List Char) :=
  let quotes := (text.takeWhile (· == quote)).take 5
  if quotes.length < 3 then none else some (quotes.drop 3, text.drop quotes.length)

/-- The rest of a string of several lines. With escapes a backslash at the end of a line joins the
line with the next words; without, it stands for itself. -/
def linesFrom? (quote : Char) (escapes : Bool) :
    Nat → List Char → List Char → Option (List Char × List Char)
  | 0, _, _ => none
  | fuel + 1, done, text =>
    match closing? quote text with
    | some (quotes, rest) => some (done.reverse ++ quotes, rest)
    | none =>
      match newline? text, text with
      | some rest, _ => linesFrom? quote escapes fuel ('\n' :: done) rest
      | none, [] => none
      | none, char :: rest =>
        if escapes && char == '\\' then
          match behindBreaks? (rest.length + 1) rest with
          | some rest => linesFrom? quote escapes fuel done rest
          | none =>
            match escape? rest with
            | some (char, rest) => linesFrom? quote escapes fuel (char :: done) rest
            | none => none
        else if isShown char then linesFrom? quote escapes fuel (char :: done) rest
        else none

/-- A string of several lines behind its opening quotes. A line break there does not count. -/
def lines? (quote : Char) (escapes : Bool) (text : List Char) : Option (List Char × List Char) :=
  linesFrom? quote escapes (text.length + 1) [] ((newline? text).getD text)

/-- A string of one line in double quotes, behind the quote. -/
def basic? (text : List Char) : Option (List Char × List Char) :=
  basicFrom? (text.length + 1) [] text

/-- A string of one line in single quotes, behind the quote. -/
def literal? (text : List Char) : Option (List Char × List Char) :=
  let value := text.takeWhile fun char => isShown char && char != '\''
  match text.drop value.length with
  | '\'' :: rest => some (value, rest)
  | _ => none

/-- A string. -/
def string? : List Char → Option (String × List Char)
  | '"' :: '"' :: '"' :: rest =>
    (lines? '"' true rest).map fun (value, rest) => (String.ofList value, rest)
  | '\'' :: '\'' :: '\'' :: rest =>
    (lines? '\'' false rest).map fun (value, rest) => (String.ofList value, rest)
  | '"' :: rest => (basic? rest).map fun (value, rest) => (String.ofList value, rest)
  | '\'' :: rest => (literal? rest).map fun (value, rest) => (String.ofList value, rest)
  | _ => none

/-! ### Numbers -/

/-- Digits behind digits, with single underscores in front of them. -/
def moreDigits (isDigit : Char → Bool) : List Char → List Char × List Char
  | '_' :: char :: rest =>
    if isDigit char then
      let (digits, rest) := moreDigits isDigit rest
      (char :: digits, rest)
    else ([], '_' :: char :: rest)
  | char :: rest =>
    if isDigit char then
      let (digits, rest) := moreDigits isDigit rest
      (char :: digits, rest)
    else ([], char :: rest)
  | [] => ([], [])

/-- At least one digit, with single underscores between digits. -/
def digits? (isDigit : Char → Bool) : List Char → Option (List Char × List Char)
  | char :: rest =>
    if isDigit char then
      let (digits, rest) := moreDigits isDigit rest
      some (char :: digits, rest)
    else none
  | [] => none

/-- A sign, and whether it is a minus. -/
def sign : List Char → Bool × List Char
  | '-' :: rest => (true, rest)
  | '+' :: rest => (false, rest)
  | text => (false, text)

/-- Decimal digits without a zero in front of others. -/
def decimal? : List Char → Option (List Char × List Char)
  | '0' :: rest => some (['0'], rest)
  | text => digits? isDigit text

/-- The integers that a number may be: those of 64 bits with sign. -/
def bounded? (value : Int) : Option Int :=
  if -(Int.pow 2 63) ≤ value && value < Int.pow 2 63 then some value else none

/-- An integer to a base, behind the sign of the base. -/
def based? (base : Nat) (text : List Char) : Option (Int × List Char) := do
  let isDigit (char : Char) := (Json.hexValue? char).any (· < base)
  let (digits, rest) ← digits? isDigit text
  let value := digits.foldl (fun value char => base * value + (Json.hexValue? char).getD 0) 0
  return (← bounded? value, rest)

/-- An integer. -/
def integer? : List Char → Option (Int × List Char)
  | '0' :: 'x' :: rest => based? 16 rest
  | '0' :: 'o' :: rest => based? 8 rest
  | '0' :: 'b' :: rest => based? 2 rest
  | text => do
    let (negative, text) := sign text
    let (digits, rest) ← decimal? text
    let magnitude : Int := ofDigits digits
    return (← bounded? (if negative then -magnitude else magnitude), rest)

/-- The fraction of a float. -/
def fraction? : List Char → Option (List Char × List Char)
  | '.' :: rest => digits? isDigit rest
  | _ => none

/-- The exponent of a float. -/
def exponent? : List Char → Option (Int × List Char)
  | char :: rest =>
    if char == 'e' || char == 'E' then do
      let (negative, rest) := sign rest
      let (digits, rest) ← digits? isDigit rest
      let magnitude : Int := ofDigits digits
      return (if negative then -magnitude else magnitude, rest)
    else none
  | [] => none

/-- The digits, places and exponent of a float, of which the fraction or the exponent is there. -/
def floatParts? (text : List Char) : Option (List Char × Int × List Char) := do
  let (whole, rest) ← decimal? text
  match fraction? rest with
  | some (fraction, rest) =>
    let (exponent, rest) ← match rest with
      | 'e' :: _ => exponent? rest
      | 'E' :: _ => exponent? rest
      | _ => some (0, rest)
    return (whole ++ fraction, exponent - fraction.length, rest)
  | none =>
    let (exponent, rest) ← exponent? rest
    return (whole, exponent, rest)

/-- A float. A number beyond the doubles is none, unless it is negative. -/
def float? (text : List Char) : Option (Float × List Char) :=
  let (negative, unsigned) := sign text
  let infinity : Float := 1.0 / 0.0
  let signed := fun (value : Float) => if negative then -value else value
  match unsigned with
  | 'i' :: 'n' :: 'f' :: rest => some (signed infinity, rest)
  | 'n' :: 'a' :: 'n' :: rest => some (signed (0.0 / 0.0), rest)
  | _ =>
    match floatParts? unsigned with
    | none => none
    | some (digits, exponent, rest) =>
      match Text.Decimal.nearest? digits exponent with
      | some value => some (signed value, rest)
      | none => if negative then some (-infinity, rest) else none

/-! ### Dates and times -/

/-- A number of exactly so many digits that lies between bounds. -/
def counted? (length lowest highest : Nat) (text : List Char) : Option (Nat × List Char) :=
  let digits := text.take length
  let value := ofDigits digits
  if digits.length == length && digits.all isDigit && lowest ≤ value && value ≤ highest then
    some (value, text.drop length)
  else none

/-- The text behind a sign that it has to start with. -/
def behind? (char : Char) : List Char → Option (List Char)
  | first :: rest => if first == char then some rest else none
  | [] => none

/-- The number of days of a month. -/
def daysOf (year month : Nat) : Nat :=
  if month == 2 then
    if year % 4 == 0 && (year % 100 != 0 || year % 400 == 0) then 29 else 28
  else if month == 4 || month == 6 || month == 9 || month == 11 then 30
  else 31

/-- The text behind a date. -/
def date? (text : List Char) : Option (List Char) := do
  let (year, rest) ← counted? 4 0 9999 text
  let (month, rest) ← counted? 2 1 12 (← behind? '-' rest)
  let (_, rest) ← counted? 2 1 (daysOf year month) (← behind? '-' rest)
  return rest

/-- The text behind the fraction of a second, if there is one. -/
def skipFraction (text : List Char) : List Char :=
  match text with
  | '.' :: rest => if rest.head?.any isDigit then rest.dropWhile isDigit else text
  | _ => text

/-- The text behind a time. -/
def time? (text : List Char) : Option (List Char) := do
  let (_, rest) ← counted? 2 0 23 text
  let (_, rest) ← counted? 2 0 59 (← behind? ':' rest)
  let (_, rest) ← counted? 2 0 60 (← behind? ':' rest)
  return skipFraction rest

/-- The text behind the hours and minutes of an offset. -/
def offset? (text : List Char) : Option (List Char) := do
  let (_, rest) ← counted? 2 0 23 text
  let (_, rest) ← counted? 2 0 59 (← behind? ':' rest)
  return rest

/-- The text behind an offset, if there is one. -/
def skipOffset? : List Char → Option (List Char)
  | 'Z' :: rest => some rest
  | 'z' :: rest => some rest
  | '+' :: rest => offset? rest
  | '-' :: rest => offset? rest
  | text => some text

/-- The text behind a date and the time behind it, if there is one. -/
def dateTime? (text : List Char) : Option (List Char) := do
  let behind ← date? text
  match behind with
  | char :: rest =>
    if char == 'T' || char == 't' || char == ' ' then
      match time? rest with
      | some last => skipOffset? last
      | none => return behind
    else return behind
  | [] => return []

/-- A date, a time or both, as written. -/
def moment? (text : List Char) : Option (String × List Char) :=
  let rest? := match dateTime? text with
    | some rest => some rest
    | none => time? text
  rest?.map fun rest => (String.ofList (text.take (text.length - rest.length)), rest)

end InfoModel.Toml
