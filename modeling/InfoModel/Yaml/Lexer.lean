/-
**Splitting YAML texts into tokens.**

A lexer goes through a text from token to token. Blocks start and end with the indentation of their
lines: a block that starts is put into the list of tokens, and one that ends gets an end token.
That a scalar or collection is the key of a mapping shows only at the colon behind it. So the lexer
remembers where a key may have started, and puts the key's token there when the colon comes.

* `Token.scan` gives the tokens of a text. A text that goes wrong has no token at the end of the
  stream, and no token from the place on where a key may have started that the fault leaves open.
-/

import InfoModel.Yaml.Token

namespace InfoModel.Yaml

/-- A place where a key may have started. -/
structure PendingKey where
  /-- The line can only be right if this is a key. -/
  required : Bool
  /-- The number of tokens in front. -/
  number : Nat
  /-- The place in the text. -/
  cursor : Cursor

/-- The number of characters that a key has at most. -/
def PendingKey.limit : Nat := 1024

/-- The place can no longer be the start of a key when the text has gone on to here: a key stands on
one line and is not too long. -/
def PendingKey.isOver (key : PendingKey) (cursor : Cursor) : Bool :=
  key.cursor.line < cursor.line || key.cursor.index + PendingKey.limit < cursor.index

/-- How far a text has been split. -/
structure Lexer where
  /-- The place in the text. -/
  cursor : Cursor
  /-- The start of a key inside the innermost flow collection, or in the block. -/
  pending : Option PendingKey := none
  /-- The starts of keys further out, one per open flow collection, innermost first. -/
  outer : List (Option PendingKey) := []
  /-- A key may start here. -/
  keyAllowed : Bool := true
  /-- The column of the innermost block; -1 outside of all blocks. -/
  indent : Int := -1
  /-- The columns of the blocks around it, innermost first. -/
  indents : List Int := []
  /-- The tokens, last one first. -/
  tokens : List Token := []
  /-- The number of tokens. -/
  count : Nat := 0
  /-- The number of tokens that no key before them can change any more. -/
  settled : Nat := 0

namespace Lexer

/-- The place is inside a flow collection. -/
def inFlow (lexer : Lexer) : Bool :=
  !lexer.outer.isEmpty

/-- Adds a token. -/
def add (lexer : Lexer) (token : Token) : Lexer :=
  { lexer with tokens := token :: lexer.tokens, count := lexer.count + 1 }

/-- Puts a token in front of those from a number on. -/
def insertAt (lexer : Lexer) (number : Nat) (token : Token) : Lexer :=
  let behind := lexer.count - number
  { lexer with
    tokens := lexer.tokens.take behind ++ token :: lexer.tokens.drop behind
    count := lexer.count + 1 }

/-- Goes on to a place. -/
def moveTo (lexer : Lexer) (cursor : Cursor) : Lexer :=
  { lexer with cursor }

/-- Says whether a key may start here. -/
def allowKey (lexer : Lexer) (keyAllowed : Bool) : Lexer :=
  { lexer with keyAllowed }

/-! ### Starts of keys -/

/-- The start of a key as far as it is still open; a required key may not get lost. -/
def openKey? (cursor : Cursor) : Option PendingKey → Option (Option PendingKey)
  | none => some none
  | some key =>
    if key.isOver cursor then if key.required then none else some none else some (some key)

/-- Forgets the starts of keys that can be none any more. -/
def dropOver? (lexer : Lexer) : Option Lexer := do
  let pending ← openKey? lexer.cursor lexer.pending
  let outer ← lexer.outer.mapM (openKey? lexer.cursor)
  return { lexer with pending, outer }

/-- The number of the first token that may still get a key in front. -/
def firstOpen (lexer : Lexer) : Nat :=
  (lexer.pending :: lexer.outer).foldl
    (fun number key => match key with
      | some key => min number key.number
      | none => number)
    lexer.count

/-- Settles the tokens that no key can change any more. -/
def settle (lexer : Lexer) : Lexer :=
  { lexer with settled := max lexer.settled lexer.firstOpen }

/-- Closes the start of a key; a required key may not get lost. -/
def closeKey? (lexer : Lexer) : Option Lexer :=
  match lexer.pending with
  | some key => if key.required then none else some { lexer with pending := none }
  | none => some lexer

/-- Remembers this place as the start of a key, where a key may start. -/
def startKey? (lexer : Lexer) : Option Lexer :=
  if lexer.keyAllowed then do
    let required := !lexer.inFlow && lexer.indent == lexer.cursor.column
    let lexer ← lexer.closeKey?
    return { lexer with pending := some ⟨required, lexer.count, lexer.cursor⟩ }
  else some lexer

/-! ### Blocks -/

/-- Starts a block at a column in front of the tokens from a number on, if the column lies inside
the innermost block. -/
def startBlock (lexer : Lexer) (column number : Nat) (token : Token) : Lexer :=
  if !lexer.inFlow && lexer.indent < column then
    { lexer.insertAt number token with
      indent := column
      indents := lexer.indent :: lexer.indents }
  else lexer

/-- Ends the blocks that lie to the right of a column; `left` are the columns of the blocks around
the innermost one. -/
def endBlocksFrom (lexer : Lexer) (column : Int) : List Int → Lexer
  | [] => lexer
  | indent :: left =>
    if column < lexer.indent then
      endBlocksFrom { lexer.add .blockEnd with indent, indents := left } column left
    else lexer

/-- Ends the blocks that lie to the right of a column. -/
def endBlocks (lexer : Lexer) (column : Int) : Lexer :=
  if lexer.inFlow then lexer else lexer.endBlocksFrom column lexer.indents

/-! ### Tokens -/

/-- Passes blanks, comments and line breaks up to the next token. Tabs do not count as blanks where
a key may start in a block; a line break lets a key start there. -/
def skipGap : Nat → Lexer → Lexer
  | 0, lexer => lexer
  | fuel + 1, lexer =>
    let cursor := lexer.cursor.skipWhile fun char =>
      char == ' ' || (char == '\t' && (lexer.inFlow || !lexer.keyAllowed))
    let cursor := if cursor.at? '#' then cursor.skipWhile fun char => !isBreak char else cursor
    if cursor.peek.any isBreak then
      skipGap fuel ((lexer.moveTo cursor.nextLine).allowKey (lexer.keyAllowed || !lexer.inFlow))
    else lexer.moveTo cursor

/-- Adds the token of a sign of some characters. -/
def sign (lexer : Lexer) (length : Nat) (token : Token) : Lexer :=
  (lexer.add token).moveTo (lexer.cursor.advance length)

/-- Leaves all blocks. -/
def leaveBlocks? (lexer : Lexer) : Option Lexer := do
  return (← (lexer.endBlocks (-1)).closeKey?).allowKey false

/-- The end of the text, which ends its last line. -/
def streamEnd? (lexer : Lexer) : Option Lexer := do
  let cursor := lexer.cursor
  let last :=
    if cursor.column == 0 then cursor else { cursor with line := cursor.line + 1, column := 0 }
  return ((← lexer.leaveBlocks?).add .streamEnd).moveTo last

/-- A mark between documents. -/
def documentMark? (lexer : Lexer) (token : Token) : Option Lexer := do
  return (← lexer.leaveBlocks?).sign 3 token

/-- A directive. -/
def directive? (lexer : Lexer) : Option Lexer := do
  let lexer ← lexer.leaveBlocks?
  let (token, cursor) ← Token.directive? lexer.cursor
  return (lexer.add token).moveTo cursor

/-- The opening bracket of a flow collection. -/
def flowStart? (lexer : Lexer) (token : Token) : Option Lexer := do
  let lexer ← lexer.startKey?
  let lexer := { lexer with pending := none, outer := lexer.pending :: lexer.outer }
  return (lexer.allowKey true).sign 1 token

/-- The closing bracket of a flow collection. -/
def flowEnd? (lexer : Lexer) (token : Token) : Option Lexer := do
  let lexer ← lexer.closeKey?
  let lexer := match lexer.outer with
    | pending :: outer => { lexer with pending, outer }
    | [] => lexer
  return (lexer.allowKey false).sign 1 token

/-- A comma between the items of a flow collection. -/
def flowEntry? (lexer : Lexer) : Option Lexer := do
  return ((← lexer.closeKey?).allowKey true).sign 1 .flowEntry

/-- Starts the block of a sign that opens an item or key, which has to stand where a key may. -/
def openBlock? (lexer : Lexer) (token : Token) : Option Lexer :=
  if lexer.inFlow then some lexer
  else if lexer.keyAllowed then some (lexer.startBlock lexer.cursor.column lexer.count token)
  else none

/-- The hyphen in front of an item. -/
def blockEntry? (lexer : Lexer) : Option Lexer := do
  let lexer ← (← lexer.openBlock? .blockSequenceStart).closeKey?
  return (lexer.allowKey true).sign 1 .blockEntry

/-- The question mark in front of a key. -/
def key? (lexer : Lexer) : Option Lexer := do
  let lexer ← (← lexer.openBlock? .blockMappingStart).closeKey?
  return (lexer.allowKey !lexer.inFlow).sign 1 .key

/-- The colon in front of a value, behind a key or alone. -/
def value? (lexer : Lexer) : Option Lexer :=
  match lexer.pending with
  | some key =>
    let lexer := lexer.insertAt key.number .key
    let lexer := lexer.startBlock key.cursor.column key.number .blockMappingStart
    some (({ lexer with pending := none }.allowKey false).sign 1 .value)
  | none => do
    let lexer ← lexer.openBlock? .blockMappingStart
    return (lexer.allowKey !lexer.inFlow).sign 1 .value

/-- An anchor or an alias. -/
def named? (lexer : Lexer) (token : String → Token) : Option Lexer := do
  let lexer ← lexer.startKey?
  let (name, cursor) ← Token.anchorName? lexer.cursor
  return ((lexer.allowKey false).add (token name)).moveTo cursor

/-- A tag. -/
def tag? (lexer : Lexer) : Option Lexer := do
  let lexer ← lexer.startKey?
  let (token, cursor) ← Token.tag? lexer.inFlow lexer.cursor
  return ((lexer.allowKey false).add token).moveTo cursor

/-- A block scalar. -/
def blockScalar? (lexer : Lexer) (folded : Bool) : Option Lexer := do
  let lexer ← lexer.closeKey?
  let (text, cursor) ← Scalar.block? folded lexer.indent lexer.cursor
  let style := if folded then Style.folded else .literal
  return ((lexer.allowKey true).add (.scalar style text)).moveTo cursor

/-- A scalar in quotes. -/
def quoted? (lexer : Lexer) (single : Bool) : Option Lexer := do
  let lexer ← lexer.startKey?
  let (text, cursor) ← Scalar.quoted? single lexer.cursor
  let style := if single then Style.singleQuoted else .doubleQuoted
  return ((lexer.allowKey false).add (.scalar style text)).moveTo cursor

/-- A plain scalar. A key may start behind it if a line break follows. -/
def plain? (lexer : Lexer) : Option Lexer := do
  let lexer ← lexer.startKey?
  let (text, broken, cursor) ←
    Scalar.plain? lexer.inFlow (lexer.indent + 1).toNat lexer.cursor
  return ((lexer.allowKey broken).add (.scalar .plain text)).moveTo cursor

/-- The signs that no plain scalar starts with, but for some in front of a word. -/
def isIndicator (char : Char) : Bool :=
  "-?:,[]\x7b\x7d#&*!|>'\"%@".toList.contains char || char.toNat == 0x60

/-- A plain scalar may start with this character in front of that one. -/
def startsPlain (inFlow : Bool) (char : Char) (next : Option Char) : Bool :=
  !(isBlank char || isBreak char || isIndicator char) ||
    (char == '-' && !next.any isBlank) ||
    (!inFlow && (char == '?' || char == ':') && !isGap next)

/-- The token that starts with a character. -/
def startingWith? (lexer : Lexer) (char : Char) : Option Lexer :=
  let next := lexer.cursor.peekAt 1
  let opensHere := lexer.inFlow || isGap next
  if lexer.cursor.column == 0 && char == '%' then lexer.directive?
  else if lexer.cursor.atMarker '-' then lexer.documentMark? .documentStart
  else if lexer.cursor.atMarker '.' then lexer.documentMark? .documentEnd
  else if char == '[' then lexer.flowStart? .flowSequenceStart
  else if char == '\x7b' then lexer.flowStart? .flowMappingStart
  else if char == ']' then lexer.flowEnd? .flowSequenceEnd
  else if char == '\x7d' then lexer.flowEnd? .flowMappingEnd
  else if char == ',' then lexer.flowEntry?
  else if char == '-' && isGap next then lexer.blockEntry?
  else if char == '?' && opensHere then lexer.key?
  else if char == ':' && opensHere then lexer.value?
  else if char == '*' then lexer.named? .reference
  else if char == '&' then lexer.named? .anchor
  else if char == '!' then lexer.tag?
  else if char == '|' && !lexer.inFlow then lexer.blockScalar? false
  else if char == '>' && !lexer.inFlow then lexer.blockScalar? true
  else if char == '\'' then lexer.quoted? true
  else if char == '"' then lexer.quoted? false
  else if startsPlain lexer.inFlow char next then lexer.plain?
  else none

/-- Goes on by a token, with the ends of blocks in front of it. -/
def next? (lexer : Lexer) : Option Lexer := do
  let lexer ← (lexer.skipGap (lexer.cursor.rest.length + 1)).dropOver?
  let lexer := lexer.endBlocks lexer.cursor.column
  match lexer.cursor.peek with
  | none => lexer.streamEnd?
  | some char => lexer.startingWith? char

/-- The tokens that are settled, in order. -/
def settledTokens (lexer : Lexer) : List Token :=
  (lexer.tokens.drop (lexer.count - lexer.settled)).reverse

/-- The tokens from here on to the end of the stream, or as far as they are settled where the text
goes wrong. -/
def run : Nat → Lexer → List Token
  | 0, lexer => lexer.settledTokens
  | fuel + 1, lexer =>
    match lexer.dropOver? with
    | none => lexer.settledTokens
    | some lexer =>
      let lexer := lexer.settle
      if lexer.tokens.head? == some .streamEnd then lexer.settledTokens
      else
        match lexer.next? with
        | none => lexer.settledTokens
        | some lexer => run fuel lexer

end Lexer

/-- The text without a byte order mark in front of it, which moves the first line by a column. -/
def Cursor.ofText (text : List Char) : Cursor :=
  match text with
  | [] => ⟨[], 0, 0, 0⟩
  | first :: rest =>
    if first.toNat == 0xFEFF then ⟨rest, 1, 0, 1⟩ else ⟨first :: rest, 0, 0, 0⟩

/-- The tokens of a text, up to its end or to a fault. -/
def Token.scan (text : String) : List Token :=
  let chars := text.toList
  if chars.all isAllowed then Lexer.run (2 * chars.length + 4) { cursor := Cursor.ofText chars }
  else []

end InfoModel.Yaml
