/-
**Reading JSON.**

A strict reader of the JSON grammar over the characters of a text. A text that breaks off or goes
wrong still tells what it held up to that place, as a `Fragment`.

* `Json.parse` gives the value of a text by the grammar alone, or the fragment before the fault;
* `Json.read` looks into arrays and objects no deeper than `Json.nestingLimit`. What is nested
  deeper has to be well written, but has no value.

A text in quotes may name characters by `\u` and four hexadecimal digits; two such codes may stand
for one character as a surrogate pair. Half a pair is well written, but the text has no value then.
-/

import InfoModel.Json.Numeral

namespace InfoModel.Json

/-- What a text held up to the place where it goes wrong. -/
inductive Fragment where
  /-- A value that was read to its end. -/
  | whole (value : Json)
  /-- An array that was not closed. -/
  | array (items : List Fragment)
  /-- An object that was not closed. -/
  | object (members : List (String × Fragment))
  /-- Nothing that could be read. -/
  | missing

instance : Inhabited Fragment := ⟨.missing⟩

/-- The text without the blanks that JSON allows between its parts. -/
def skipBlanks (text : List Char) : List Char :=
  text.dropWhile fun char => char == ' ' || char == '\n' || char == '\t' || char == '\r'

/-- The value of a hexadecimal digit. -/
def hexValue? (char : Char) : Option Nat :=
  if '0' ≤ char && char ≤ '9' then some (char.toNat - 48)
  else if 'a' ≤ char && char ≤ 'f' then some (char.toNat - 87)
  else if 'A' ≤ char && char ≤ 'F' then some (char.toNat - 55)
  else none

/-- The value of four hexadecimal digits. -/
def hexCode? (first second third fourth : Char) : Option Nat := do
  return ((← hexValue? first) * 16 + (← hexValue? second)) * 256 +
    (← hexValue? third) * 16 + (← hexValue? fourth)

/-- The code of a character that stands for another one behind a backslash. -/
def escapeCode? : Char → Option Nat
  | '"' => some 34
  | '\\' => some 92
  | '/' => some 47
  | 'b' => some 8
  | 'f' => some 12
  | 'n' => some 10
  | 'r' => some 13
  | 't' => some 9
  | _ => none

/-- The codes of a text up to its closing quote, and what follows. Control characters below U+0020
may not stand in it. -/
def codes? : List Char → Option (List Nat × List Char)
  | [] => none
  | '"' :: rest => some ([], rest)
  | '\\' :: 'u' :: first :: second :: third :: fourth :: rest =>
    match hexCode? first second third fourth, codes? rest with
    | some code, some (codes, rest) => some (code :: codes, rest)
    | _, _ => none
  | '\\' :: char :: rest =>
    match escapeCode? char, codes? rest with
    | some code, some (codes, rest) => some (code :: codes, rest)
    | _, _ => none
  | char :: rest =>
    if char.toNat < 32 || char == '\\' then none
    else
      match codes? rest with
      | some (codes, rest) => some (char.toNat :: codes, rest)
      | none => none

/-- The first half of a surrogate pair. -/
def isHighSurrogate (code : Nat) : Bool :=
  0xD800 ≤ code && code < 0xDC00

/-- The second half of a surrogate pair. -/
def isLowSurrogate (code : Nat) : Bool :=
  0xDC00 ≤ code && code < 0xE000

/-- The characters of codes, if no half of a surrogate pair stands alone. -/
def ofCodes? : List Nat → Option (List Char)
  | [] => some []
  | high :: low :: rest =>
    if isHighSurrogate high then
      if isLowSurrogate low then
        (ofCodes? rest).map (Char.ofNat (0x10000 + (high - 0xD800) * 0x400 + (low - 0xDC00)) :: ·)
      else none
    else if isLowSurrogate high then none
    else (ofCodes? (low :: rest)).map (Char.ofNat high :: ·)
  | [code] =>
    if isHighSurrogate code || isLowSurrogate code then none else some [Char.ofNat code]

/-- The rest of a text behind a word that it has to start with. -/
def behindWord? : List Char → List Char → Option (List Char)
  | [], text => some text
  | char :: word, first :: text => if char = first then behindWord? word text else none
  | _ :: _, [] => none

/-- A value without items or members. -/
def leaf? (text : List Char) : Option (Json × List Char) :=
  match text with
  | 'n' :: _ => (behindWord? ['n', 'u', 'l', 'l'] text).map ((.null, ·))
  | 't' :: _ => (behindWord? ['t', 'r', 'u', 'e'] text).map ((.bool true, ·))
  | 'f' :: _ => (behindWord? ['f', 'a', 'l', 's', 'e'] text).map ((.bool false, ·))
  | '"' :: rest =>
    (codes? rest).map fun (codes, rest) =>
      match ofCodes? codes with
      | some chars => (.string (String.ofList chars), rest)
      | none => (.unreadable, rest)
  | _ => Numeral.read? text

/-- The name of a member and the text behind the colon. -/
def name? (text : List Char) : Option (String × Option (List Char)) :=
  match skipBlanks text with
  | '"' :: rest =>
    match codes? rest with
    | some (codes, rest) =>
      match ofCodes? codes, skipBlanks rest with
      | some chars, ':' :: rest => some (String.ofList chars, some rest)
      | some chars, _ => some (String.ofList chars, none)
      | none, _ => none
    | none => none
  | _ => none

mutual

/-- Reads a value, at most `fuel` containers and separators deep into the text. -/
def value : Nat → List Char → Except Fragment (Json × List Char)
  | 0, _ => .error .missing
  | fuel + 1, text =>
    match skipBlanks text with
    | '[' :: rest =>
      match skipBlanks rest with
      | ']' :: rest => .ok (.array [], rest)
      | _ => items fuel [] rest
    | '\x7b' :: rest =>
      match skipBlanks rest with
      | '\x7d' :: rest => .ok (.object [], rest)
      | _ => members fuel [] rest
    | text =>
      match leaf? text with
      | some (value, rest) => .ok (value, rest)
      | none => .error .missing

/-- Reads the items of an array behind the ones already read, which are kept last one first. -/
def items : Nat → List Json → List Char → Except Fragment (Json × List Char)
  | 0, done, _ => .error (.array (done.reverse.map .whole))
  | fuel + 1, done, text =>
    match value fuel text with
    | .error fragment => .error (.array (done.reverse.map .whole ++ [fragment]))
    | .ok (item, rest) =>
      match skipBlanks rest with
      | ',' :: rest => items fuel (item :: done) rest
      | ']' :: rest => .ok (.array (item :: done).reverse, rest)
      | _ => .error (.array ((item :: done).reverse.map .whole))

/-- Reads the members of an object behind the ones already read, which are kept last one first. -/
def members : Nat → List (String × Json) → List Char → Except Fragment (Json × List Char)
  | 0, done, _ => .error (.object (done.reverse.map fun (name, value) => (name, .whole value)))
  | fuel + 1, done, text =>
    let before := fun (done : List (String × Json)) =>
      done.reverse.map fun (name, value) => (name, Fragment.whole value)
    match name? text with
    | none => .error (.object (before done))
    | some (name, none) => .error (.object (before done ++ [(name, .missing)]))
    | some (name, some rest) =>
      match value fuel rest with
      | .error fragment => .error (.object (before done ++ [(name, fragment)]))
      | .ok (item, rest) =>
        match skipBlanks rest with
        | ',' :: rest => members fuel ((name, item) :: done) rest
        | '\x7d' :: rest => .ok (.object ((name, item) :: done).reverse, rest)
        | _ => .error (.object (before ((name, item) :: done)))

end

/-- How many arrays and objects are looked into, one inside the other. -/
def nestingLimit : Nat := 127

mutual

/-- The fragment down to a depth: nothing is read of deeper arrays and objects that are not closed.
-/
def Fragment.upTo : Nat → Fragment → Fragment
  | depth, .whole value => .whole (value.upTo depth)
  | depth + 1, .array items => .array (fragmentsUpTo depth items)
  | depth + 1, .object members => .object (fragmentMembersUpTo depth members)
  | _, _ => .missing

/-- The fragments of an array down to a depth. -/
def fragmentsUpTo (depth : Nat) : List Fragment → List Fragment
  | [] => []
  | item :: rest => item.upTo depth :: fragmentsUpTo depth rest

/-- The members of an object down to a depth. -/
def fragmentMembersUpTo (depth : Nat) : List (String × Fragment) → List (String × Fragment)
  | [] => []
  | (name, value) :: rest => (name, value.upTo depth) :: fragmentMembersUpTo depth rest

end

/-- The value of a text that holds one value and blanks; otherwise the fragment before the fault. -/
def parse (text : String) : Except Fragment Json :=
  let chars := text.toList
  match value (chars.length + 1) chars with
  | .error fragment => .error fragment
  | .ok (result, rest) =>
    match skipBlanks rest with
    | [] => .ok result
    | _ => .error (.whole result)

/-- Reads a text, looking into it as deep as the limit. -/
def read (text : String) : Except Fragment Json :=
  match parse text with
  | .ok value => .ok (value.upTo nestingLimit)
  | .error fragment => .error (fragment.upTo nestingLimit)

end InfoModel.Json
