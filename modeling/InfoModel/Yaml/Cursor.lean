/-
**A place in a YAML text.**

The characters that are left and the line and column of the first of them. Line breaks are line
feed, carriage return, the pair of both, next line (U+0085), and the line and paragraph separators
(U+2028, U+2029).

* `Cursor.next` passes a character, `Cursor.nextLine` a line break;
* `Gap.text` says what blanks and line breaks between two words of a text stand for.
-/

namespace InfoModel.Yaml

/-- A place in a text. -/
structure Cursor where
  /-- The characters from here on. -/
  rest : List Char
  /-- The number of characters in front. -/
  index : Nat := 0
  line : Nat := 0
  column : Nat := 0
deriving Inhabited

/-- A space or a tab. -/
def isBlank (char : Char) : Bool :=
  char == ' ' || char == '\t'

/-- A character that ends a line. -/
def isBreak (char : Char) : Bool :=
  char == '\r' || char == '\n' || char.toNat == 0x85 || char.toNat == 0x2028 ||
    char.toNat == 0x2029

/-- A blank, a line break, or the end of the text. -/
def isGap : Option Char → Bool
  | none => true
  | some char => isBlank char || isBreak char

/-- A line break, or the end of the text. -/
def isLineEnd : Option Char → Bool
  | none => true
  | some char => isBreak char

/-- A letter, digit, hyphen or underscore of ASCII. -/
def isWordChar (char : Char) : Bool :=
  char.isAlphanum || char == '-' || char == '_'

/-- The characters that a text may hold. -/
def isAllowed (char : Char) : Bool :=
  let code := char.toNat
  code == 0x09 || code == 0x0A || code == 0x0D || (0x20 ≤ code && code ≤ 0x7E) || code == 0x85 ||
    (0xA0 ≤ code && code ≤ 0xFFFD) || 0x10000 ≤ code

namespace Cursor

/-- The first character from here on. -/
def peek (cursor : Cursor) : Option Char :=
  cursor.rest.head?

/-- The character some places further on. -/
def peekAt (cursor : Cursor) (offset : Nat) : Option Char :=
  (cursor.rest.drop offset).head?

/-- Here stands this character. -/
def at? (cursor : Cursor) (char : Char) : Bool :=
  cursor.peek == some char

/-- Passes characters of one line. -/
def advance (cursor : Cursor) (count : Nat) : Cursor :=
  { cursor with
    rest := cursor.rest.drop count
    index := cursor.index + count
    column := cursor.column + count }

/-- Passes a character. -/
def next (cursor : Cursor) : Cursor :=
  cursor.advance 1

/-- Passes a line break; a carriage return with a line feed is one. -/
def nextLine (cursor : Cursor) : Cursor :=
  let count := match cursor.rest with
    | '\r' :: '\n' :: _ => 2
    | _ => 1
  { rest := cursor.rest.drop count
    index := cursor.index + count
    line := cursor.line + 1
    column := 0 }

/-- What the line break here stands for: the separators for themselves, any other for a line feed.
-/
def breakChar (cursor : Cursor) : List Char :=
  match cursor.peek with
  | some char => if char.toNat == 0x2028 || char.toNat == 0x2029 then [char] else ['\n']
  | none => []

/-- The characters from here on that satisfy a condition. -/
def takeWhile (cursor : Cursor) (condition : Char → Bool) : List Char :=
  cursor.rest.takeWhile condition

/-- Passes the characters that satisfy a condition, none of which is a line break. -/
def skipWhile (cursor : Cursor) (condition : Char → Bool) : Cursor :=
  cursor.advance (cursor.takeWhile condition).length

/-- At the start of a line stand three equal signs, `---` or `...`, and a gap. -/
def atMarker (cursor : Cursor) (sign : Char) : Bool :=
  cursor.column == 0 &&
    (cursor.rest.take 3 == [sign, sign, sign]) && isGap (cursor.peekAt 3)

/-- At the start of a line stands a mark of a document's start or end. -/
def atDocumentMarker (cursor : Cursor) : Bool :=
  cursor.atMarker '-' || cursor.atMarker '.'

end Cursor

/-- Blanks and line breaks between two words of a text. -/
structure Gap where
  /-- The blanks in front of the first line break, last one first. -/
  blanks : List Char := []
  /-- The first line break. -/
  firstBreak : List Char := []
  /-- The other line breaks. -/
  laterBreaks : List Char := []
  /-- There is a line break. -/
  broken : Bool := false

/-- What a gap stands for: one line feed for a space, any other line breaks for all but the first
line feed, and blanks on one line for themselves. -/
def Gap.text (gap : Gap) : List Char :=
  if gap.broken then
    if gap.firstBreak == ['\n'] then
      if gap.laterBreaks.isEmpty then [' '] else gap.laterBreaks
    else gap.firstBreak ++ gap.laterBreaks
  else gap.blanks.reverse

/-- Adds the line break here to a gap. -/
def Gap.addBreak (gap : Gap) (cursor : Cursor) : Gap :=
  if gap.broken then { gap with laterBreaks := gap.laterBreaks ++ cursor.breakChar }
  else { gap with blanks := [], firstBreak := cursor.breakChar, broken := true }

/-- Adds the blank here to a gap; blanks behind a line break do not count. -/
def Gap.addBlank (gap : Gap) (char : Char) : Gap :=
  if gap.broken then gap else { gap with blanks := char :: gap.blanks }

end InfoModel.Yaml
