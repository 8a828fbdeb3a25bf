/-
**Tokens of YAML texts.**

The signs and words that a text is made of. Where blocks start and end is told by tokens of their
own, because the text says it by indentation only.

* `Token.anchorName?`, `Token.tag?` and `Token.directive?` read the tokens that consist of a sign
  and a name.
-/

import InfoModel.Yaml.Scalar

namespace InfoModel.Yaml

/-- The ways to write a scalar. -/
inductive Style where
  | plain
  | singleQuoted
  | doubleQuoted
  | literal
  | folded
deriving DecidableEq

/-- A token of a text. -/
inductive Token where
  | streamEnd
  /-- The version of the language that a document is in. -/
  | version (major minor : Nat)
  /-- What the handle of a tag stands for. -/
  | tagHandle (handle expansion : String)
  | documentStart
  | documentEnd
  | blockSequenceStart
  | blockMappingStart
  | blockEnd
  | flowSequenceStart
  | flowSequenceEnd
  | flowMappingStart
  | flowMappingEnd
  | blockEntry
  | flowEntry
  | key
  | value
  | reference (name : String)
  | anchor (name : String)
  | tag (handle suffix : String)
  | scalar (style : Style) (text : String)
deriving DecidableEq, Inhabited

namespace Token

/-! ### Anchors and aliases -/

/-- A character that may follow a name. -/
def endsName (char : Option Char) : Bool :=
  isGap char || char.any fun char =>
    char == '?' || char == ':' || char == ',' || char == ']' || char == '\x7d' || char == '%' ||
      char == '@' || char.toNat == 0x60

/-- The name behind the sign of an anchor or alias. -/
def anchorName? (cursor : Cursor) : Option (String × Cursor) :=
  let name := cursor.next.takeWhile isWordChar
  let behind := cursor.next.advance name.length
  if name.isEmpty || !endsName behind.peek then none else some (String.ofList name, behind)

/-! ### Tags -/

/-- The sign between the bytes of a code. -/
def isUriChar (inBrackets : Bool) (char : Char) : Bool :=
  isWordChar char || ";/?:@&=+$.!~*'()".toList.contains char ||
    (inBrackets && (char == ',' || char == '[' || char == ']'))

/-- A byte written as a percent sign and two hexadecimal digits. -/
def percentByte? : List Char → Option (UInt8 × List Char)
  | '%' :: high :: low :: rest =>
    match Json.hexValue? high, Json.hexValue? low with
    | some high, some low => some (UInt8.ofNat (16 * high + low), rest)
    | _, _ => none
  | _ => none

/-- The number of bytes of a character that starts with a byte. -/
def byteCount? (byte : UInt8) : Option Nat :=
  if byte &&& 0x80 == 0 then some 1
  else if byte &&& 0xE0 == 0xC0 then some 2
  else if byte &&& 0xF0 == 0xE0 then some 3
  else if byte &&& 0xF8 == 0xF0 then some 4
  else none

/-- Further bytes of a character. -/
def percentBytes? : Nat → List Char → Option (List UInt8)
  | 0, _ => some []
  | count + 1, text =>
    match percentByte? text with
    | some (byte, rest) =>
      if byte &&& 0xC0 == 0x80 then (percentBytes? count rest).map (byte :: ·) else none
    | none => none

/-- A character written by its bytes, and the number of its bytes. -/
def percentChar? (text : List Char) : Option (Char × Nat) := do
  let (first, rest) ← percentByte? text
  let count ← byteCount? first
  let others ← percentBytes? (count - 1) rest
  let decoded ← String.fromUTF8? ⟨(first :: others).toArray⟩
  return (← decoded.toList.head?, count)

/-- The characters of a resource name from here on. -/
def uriFrom? (inBrackets : Bool) : Nat → List Char → Cursor → Option (List Char × Cursor)
  | 0, done, cursor => some (done.reverse, cursor)
  | fuel + 1, done, cursor =>
    match cursor.peek with
    | none => some (done.reverse, cursor)
    | some char =>
      if char == '%' then
        match percentChar? cursor.rest with
        | some (decoded, count) =>
          uriFrom? inBrackets fuel (decoded :: done) (cursor.advance (3 * count))
        | none => none
      else if isUriChar inBrackets char then uriFrom? inBrackets fuel (char :: done) cursor.next
      else some (done.reverse, cursor)

/-- A resource name from here on. -/
def uri? (inBrackets : Bool) (cursor : Cursor) : Option (List Char × Cursor) :=
  uriFrom? inBrackets (cursor.rest.length + 1) [] cursor

/-- A handle from here on: an exclamation mark, a name, and another exclamation mark if there is
one. -/
def handle? (cursor : Cursor) : Option (List Char × Cursor) :=
  if !cursor.at? '!' then none
  else
    let name := cursor.next.takeWhile isWordChar
    let behind := cursor.next.advance name.length
    if behind.at? '!' then some ('!' :: name ++ ['!'], behind.next) else some ('!' :: name, behind)

/-- The handle and suffix of a tag. Without a second exclamation mark the name belongs to the
suffix, and a lone exclamation mark is all suffix. -/
def tagParts? (cursor : Cursor) : Option (List Char × List Char × Cursor) := do
  if cursor.peekAt 1 == some '<' then
    let (suffix, behind) ← uri? true (cursor.advance 2)
    if suffix.isEmpty || !behind.at? '>' then none else return ([], suffix, behind.next)
  else
    let (handle, behind) ← handle? cursor
    let (rest, last) ← uri? false behind
    if 2 ≤ handle.length && handle.getLast? == some '!' then
      if rest.isEmpty then none else return (handle, rest, last)
    else
      let suffix := handle.drop 1 ++ rest
      if suffix.isEmpty then return ([], ['!'], last) else return (['!'], suffix, last)

/-- A tag from its exclamation mark on. -/
def tag? (inFlow : Bool) (cursor : Cursor) : Option (Token × Cursor) := do
  let (handle, suffix, behind) ← tagParts? cursor
  if isGap behind.peek || (inFlow && behind.at? ',') then
    return (.tag (String.ofList handle) (String.ofList suffix), behind)
  else none

/-! ### Directives -/

/-- The number of digits that a version has at most. -/
def versionDigits : Nat := 9

/-- A number of a version. -/
def versionNumber? (cursor : Cursor) : Option (Nat × Cursor) :=
  let digits := cursor.takeWhile Text.Numeral.isDigit
  if digits.isEmpty || versionDigits < digits.length then none
  else some (Text.Numeral.ofDigits digits, cursor.advance digits.length)

/-- The version behind the name of its directive. -/
def version? (cursor : Cursor) : Option (Token × Cursor) := do
  let (major, behind) ← versionNumber? (cursor.skipWhile isBlank)
  if !behind.at? '.' then none
  else
    let (minor, behind) ← versionNumber? behind.next
    return (.version major minor, behind)

/-- The handle and its expansion behind the name of their directive. -/
def tagHandle? (cursor : Cursor) : Option (Token × Cursor) := do
  let (handle, behind) ← handle? (cursor.skipWhile isBlank)
  if handle != ['!'] && (handle.length < 2 || handle.getLast? != some '!') then none
  else if !behind.peek.any isBlank then none
  else
    let (expansion, behind) ← uri? true (behind.skipWhile isBlank)
    if expansion.isEmpty || !isGap behind.peek then none
    else return (.tagHandle (String.ofList handle) (String.ofList expansion), behind)

/-- A directive from its percent sign to the end of its line. -/
def directive? (cursor : Cursor) : Option (Token × Cursor) := do
  let name := cursor.next.takeWhile isWordChar
  let behind := cursor.next.advance name.length
  let (token, behind) ←
    if name == "YAML".toList then version? behind
    else if name == "TAG".toList then tagHandle? behind
    else none
  let behind := behind.skipWhile isBlank
  let behind := if behind.at? '#' then behind.skipWhile fun char => !isBreak char else behind
  if !isLineEnd behind.peek then none
  else return (token, if behind.rest.isEmpty then behind else behind.nextLine)

end Token

end InfoModel.Yaml
