/-
**Written scalars.**

How a text is written as a scalar of a block, so that it reads back as that text. A text of several
lines is a literal block, and a text that would read back as something else is quoted.

* `WrittenScalar.style` chooses between the ways to write a text;
* `WrittenScalar.text` writes it.

Single quotes are enough for most texts. Where a character cannot be shown, or a space stands next
to a line break, double quotes with escapes are needed.
-/

import InfoModel.Yaml.CoreSchema
import InfoModel.Yaml.Token

namespace InfoModel.Yaml.WrittenScalar

/-- A character that can be written as it is. -/
def isShown (char : Char) : Bool :=
  let code := char.toNat
  code == 0x0A || (0x20 ≤ code && code ≤ 0x7E) || (0xA0 ≤ code && code ≤ 0xD7FF) ||
    (0xE000 ≤ code && code ≤ 0xFFFD && code != 0xFEFF) || 0x10000 ≤ code

/-- The characters that say more than themselves at the start of a scalar. -/
def isIndicator (char : Char) : Bool :=
  "#,[]\x7b\x7d&*!|>'\"%@".toList.contains char || char.toNat == 0x60

/-- Somewhere in the text this holds for a character and the next one. -/
def hasPair (condition : Char → Char → Bool) : List Char → Bool
  | first :: second :: rest => condition first second || hasPair condition (second :: rest)
  | _ => false

/-- Behind the first character something starts that is no part of a plain scalar: a comment behind
a gap, or a value behind a colon. -/
def breaksOff (text : List Char) : Bool :=
  hasPair (fun first second => isGap (some first) && second == '#') text ||
    hasPair (fun first second => first == ':' && isGap (some second)) text ||
    text.getLast? == some ':'

/-- The start of the text is no start of a plain scalar. -/
def startsOtherwise (text : List Char) : Bool :=
  match text with
  | [] => false
  | first :: rest =>
    isIndicator first ||
      ((first == '?' || first == '-') && isGap rest.head?) ||
      text.take 3 == ['-', '-', '-'] || text.take 3 == ['.', '.', '.']

/-- A space or a line break stands at one of the ends. -/
def hasBareEnd (text : List Char) : Bool :=
  let isBare (char : Option Char) := char.any fun char => char == ' ' || isBreak char
  isBare text.head? || isBare text.getLast?

/-- A line break stands in the text. -/
def isBroken (text : List Char) : Bool :=
  text.any isBreak

/-- A character cannot be written as it is, or a space stands in front of a line break. -/
def needsEscapes (text : List Char) : Bool :=
  !text.all isShown || hasPair (fun first second => first == ' ' && isBreak second) text

/-- The text may be plain inside a block. -/
def allowsPlain (text : List Char) : Bool :=
  !(hasBareEnd text || isBroken text || needsEscapes text || startsOtherwise text ||
    breaksOff text)

/-- The text may stand in single quotes. -/
def allowsSingle (text : List Char) : Bool :=
  !(needsEscapes text || hasPair (fun first second => isBreak first && second == ' ') text)

/-- The text may be a literal block. -/
def allowsLiteral (text : List Char) : Bool :=
  !(text.isEmpty || text.getLast? == some ' ' || needsEscapes text)

/-- The text is that of a plain scalar which stands for it. -/
def standsForItself (text : List Char) : Bool :=
  match CoreSchema.resolve text with
  | .text => !CoreSchema.hasLeadingZero text
  | _ => false

/-- The single quotes of a text, or double ones where single ones are not enough. -/
def quotedStyle (text : List Char) : Style :=
  if allowsSingle text then .singleQuoted else .doubleQuoted

/-- The way to write a text. -/
def style (text : List Char) : Style :=
  if text.contains '\n' then
    if allowsLiteral text then .literal else .doubleQuoted
  else if standsForItself text && allowsPlain text then .plain
  else quotedStyle text

/-! ### Writing -/

/-- A hexadecimal digit in upper case. -/
def hexDigit (value : Nat) : Char :=
  if value < 10 then Char.ofNat (value + 48) else Char.ofNat (value + 55)

/-- So many hexadecimal digits of a number. -/
def hexDigits : Nat → Nat → List Char
  | 0, _ => []
  | count + 1, value => hexDigits count (value / 16) ++ [hexDigit (value % 16)]

/-- The letters of the characters that have one for their escape. -/
def escapeLetters : List (Nat × Char) :=
  [(0x00, '0'), (0x07, 'a'), (0x08, 'b'), (0x09, 't'), (0x0A, 'n'), (0x0B, 'v'), (0x0C, 'f'),
    (0x0D, 'r'), (0x1B, 'e'), (0x22, '"'), (0x5C, '\\'), (0x85, 'N'), (0xA0, '_'), (0x2028, 'L'),
    (0x2029, 'P')]

/-- The escape of a character. -/
def escape (char : Char) : List Char :=
  let code := char.toNat
  match escapeLetters.find? fun entry => entry.1 == code with
  | some (_, letter) => ['\\', letter]
  | none =>
    if code < 0x100 then '\\' :: 'x' :: hexDigits 2 code
    else if code < 0x10000 then '\\' :: 'u' :: hexDigits 4 code
    else '\\' :: 'U' :: hexDigits 8 code

/-- A character inside double quotes. -/
def doubleQuotedChar (char : Char) : List Char :=
  if !isShown char || isBreak char || char == '"' || char == '\\' then escape char else [char]

/-- Spaces. -/
def spaces (count : Nat) : List Char :=
  List.replicate count ' '

/-- The characters inside single quotes. Behind line breaks the text goes on at the indentation. -/
def singleQuotedChars (indent : Nat) : Bool → List Char → List Char
  | atBreak, [] => if atBreak then spaces indent else []
  | atBreak, char :: rest =>
    if isBreak char then
      (if char == '\n' && !atBreak then ['\n'] else []) ++
        char :: singleQuotedChars indent true rest
    else
      (if atBreak then spaces indent else []) ++
        (if char == '\'' then ['\'', '\''] else [char]) ++ singleQuotedChars indent false rest

/-- The lines of a literal block at their indentation; empty lines are not indented. -/
def literalChars (indent : Nat) : Bool → List Char → List Char
  | _, [] => []
  | atBreak, char :: rest =>
    if isBreak char then char :: literalChars indent true rest
    else (if atBreak then spaces indent else []) ++ char :: literalChars indent false rest

/-- What has to be told about a literal block: its indentation where its first line does not show
it, and how many of its last line breaks belong to it where it is not one. -/
def literalHeader (text : List Char) : List Char :=
  (if text.head?.any fun char => char == ' ' || isBreak char then ['2'] else []) ++
    match text.reverse with
    | [] => ['-']
    | [_] => if isBroken text then ['+'] else ['-']
    | last :: before :: _ => if !isBreak last then ['-'] else if isBreak before then ['+'] else []

/-- The text without the line feed at its end, which the line after it brings. -/
def withoutLastBreak (text : List Char) : List Char :=
  if text.getLast? == some '\n' then text.dropLast else text

/-- A text as a scalar whose further lines have an indentation. -/
def text (indent : Nat) (value : String) : String :=
  let chars := value.toList
  String.ofList <|
    match style chars with
    | .plain => chars
    | .singleQuoted => '\'' :: singleQuotedChars indent false chars ++ ['\'']
    | .doubleQuoted => '"' :: chars.flatMap doubleQuotedChar ++ ['"']
    | .literal | .folded =>
      '|' :: literalHeader chars ++ '\n' :: withoutLastBreak (literalChars indent true chars)

/-- The bytes of the longest key in front of its colon. -/
def keyLimit : Nat := 128

/-- A text may be a key in front of its colon: it stands on one line and is not too long. -/
def isSimpleKey (value : String) : Bool :=
  !isBroken value.toList && value.utf8ByteSize ≤ keyLimit

end InfoModel.Yaml.WrittenScalar
