/-
**Reading TOML.**

A document is a list of lines: headers that open a table, and keys with their values, which go into
the table that is open. Names are set once; what is opened and extended how often follows from how
a table came to be (`Toml.Origin`).

* `Toml.read` gives the entries of a document, or nothing for a text that is none.
-/

import InfoModel.Toml.Scalar

namespace InfoModel.Toml

/-- A character of a name without quotes. -/
def isNameChar (char : Char) : Bool :=
  char.isAlphanum || char == '-' || char == '_'

/-- A name, with or without quotes. -/
def name? (text : List Char) : Option (String × List Char) :=
  match text with
  | '"' :: rest => (basic? rest).map fun (name, rest) => (String.ofList name, rest)
  | '\'' :: rest => (literal? rest).map fun (name, rest) => (String.ofList name, rest)
  | _ =>
    let name := text.takeWhile isNameChar
    if name.isEmpty then none else some (String.ofList name, text.drop name.length)

/-- A key: names with dots between them. -/
structure Key where
  /-- The names in front of the last one. -/
  path : List String
  name : String

/-- A key, with blanks around its names. -/
def key? : Nat → List Char → Option (Key × List Char)
  | 0, _ => none
  | fuel + 1, text => do
    let (name, rest) ← name? (skipBlanks text)
    match skipBlanks rest with
    | '.' :: rest =>
      let (key, rest) ← key? fuel rest
      return (⟨name :: key.path, key.name⟩, rest)
    | rest => return (⟨[], name⟩, rest)

/-- A value that consists of no other values. -/
def scalar? (text : List Char) : Option (Value × List Char) :=
  match text with
  | '"' :: _ => (string? text).map fun (value, rest) => (.string value, rest)
  | '\'' :: _ => (string? text).map fun (value, rest) => (.string value, rest)
  | 't' :: 'r' :: 'u' :: 'e' :: rest => some (.boolean true, rest)
  | 'f' :: 'a' :: 'l' :: 's' :: 'e' :: rest => some (.boolean false, rest)
  | _ =>
    match moment? text, float? text, integer? text with
    | some (written, rest), _, _ => some (.moment written, rest)
    | none, some (value, rest), _ => some (.float value.toBits, rest)
    | none, none, some (value, rest) => some (.integer value, rest)
    | none, none, none => none

mutual

/-- Reads a value. -/
def value? : Nat → List Char → Option (Value × List Char)
  | 0, _ => none
  | fuel + 1, text =>
    match text with
    | '[' :: rest =>
      match skipLines (rest.length + 1) rest with
      | ']' :: rest => some (.array [], rest)
      | _ => items? fuel [] rest
    | '\x7b' :: rest =>
      match skipBlanks rest with
      | '\x7d' :: rest => some (.table .inline [], rest)
      | _ => inline? fuel .inline [] rest
    | _ => scalar? text

/-- Reads the items of an array behind those already read, which are kept last one first. A comma
may follow the last item. -/
def items? : Nat → List Value → List Char → Option (Value × List Char)
  | 0, _, _ => none
  | fuel + 1, done, text =>
    match value? fuel (skipLines (text.length + 1) text) with
    | none => none
    | some (item, rest) =>
      match skipLines (rest.length + 1) rest with
      | ']' :: rest => some (.array (item :: done).reverse, rest)
      | ',' :: rest =>
        match skipLines (rest.length + 1) rest with
        | ']' :: rest => some (.array (item :: done).reverse, rest)
        | _ => items? fuel (item :: done) rest
      | _ => none

/-- Reads the entries of a table in braces into what has been read so far. -/
def inline? : Nat → Origin → Entries → List Char → Option (Value × List Char)
  | 0, _, _, _ => none
  | fuel + 1, origin, entries, text =>
    match key? (text.length + 1) text with
    | some (key, '=' :: rest) =>
      match value? fuel (skipBlanks rest) with
      | none => none
      | some (value, rest) =>
        match addAt key.path key.name value origin entries, skipBlanks rest with
        | some (origin, entries), ',' :: rest => inline? fuel origin entries rest
        | some (origin, entries), '\x7d' :: rest => some (.table origin entries, rest)
        | _, _ => none
    | _ => none

end

/-- A document up to a place: its entries, and the path to the table that is open. -/
structure Draft where
  entries : Entries := []
  /-- The path to the open table; the document itself without names. -/
  path : List String := []

/-- Changes the document. -/
def Draft.change? (draft : Draft) (change : Change) : Option Draft :=
  (change .header draft.entries).map fun (_, entries) => { draft with entries }

/-- Opens a table by its header. -/
def Draft.openBy? (draft : Draft) (key : Key) (change : String → Change) : Option Draft :=
  (draft.change? (alterAt .passage (change key.name) key.path)).map fun draft =>
    { draft with path := key.path ++ [key.name] }

/-- Adds an entry to the open table. -/
def Draft.add? (draft : Draft) (key : Key) (value : Value) : Option Draft :=
  draft.change? (alterAt .passage (addAt key.path key.name value) draft.path)

/-- Reads a line that is neither empty nor a comment. -/
def line? (draft : Draft) (text : List Char) : Option (Draft × List Char) :=
  match text with
  | '[' :: '[' :: rest =>
    match key? (rest.length + 1) rest with
    | some (key, ']' :: ']' :: rest) =>
      (draft.openBy? key openNext).bind fun draft => (lineEnd? rest).map (draft, ·)
    | _ => none
  | '[' :: rest =>
    match key? (rest.length + 1) rest with
    | some (key, ']' :: rest) =>
      (draft.openBy? key openTable).bind fun draft => (lineEnd? rest).map (draft, ·)
    | _ => none
  | _ =>
    match key? (text.length + 1) text with
    | some (key, '=' :: rest) =>
      match value? (rest.length + 1) (skipBlanks rest) with
      | some (value, rest) =>
        (draft.add? key value).bind fun draft => (lineEnd? rest).map (draft, ·)
      | none => none
    | _ => none

/-- Reads the lines of a document into what has been read so far. -/
def lines : Nat → Draft → List Char → Option Entries
  | 0, _, _ => none
  | fuel + 1, draft, text =>
    match skipBlanks text with
    | [] => some draft.entries
    | text =>
      match lineEnd? text with
      | some rest => lines fuel draft rest
      | none =>
        match line? draft text with
        | some (draft, rest) => lines fuel draft rest
        | none => none

/-- The text without a byte order mark in front. -/
def skipMark (text : List Char) : List Char :=
  match text with
  | [] => []
  | first :: rest => if first.toNat == 0xFEFF then rest else first :: rest

/-- The document of a text, a table. -/
def read (text : String) : Option Value :=
  let chars := skipMark text.toList
  (lines (chars.length + 1) {} chars).map (.table .header)

end InfoModel.Toml
