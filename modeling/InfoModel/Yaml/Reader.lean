/-
**Reading YAML.**

The grammar of documents over the tokens of a text. A document that goes wrong is read up to the
fault; the collections that are open there are given with what they hold so far.

* `Yaml.read` gives the first document of a text, and says whether the text is sound: it has to be
  well-formed to its end and may not hold another document.

An alias stands for the node that its anchor marks. A tag is a handle and a suffix; the handle has
to be known or declared in front of the document.
-/

import InfoModel.Yaml.Lexer
import InfoModel.Yaml.Node

namespace InfoModel.Yaml

/-- The document of a text. -/
structure Reading where
  root : Node
  /-- The text goes wrong nowhere and holds nothing else. -/
  sound : Bool

/-- How far a document has been read. -/
structure Reader where
  /-- The tokens that are left. -/
  tokens : List Token
  /-- The nodes that are marked by an anchor, last one first. -/
  anchors : List (String × Node) := []

/-- A part that was read, and what is left, or the part up to the place where the text goes wrong.
-/
abbrev Reader.Step (α : Type) := Except α (α × Reader)

/-- What the handles of tags stand for. -/
abbrev TagHandles := List (String × String)

/-- The handles that need no declaration. -/
def TagHandles.standard : TagHandles :=
  [("!", "!"), ("!!", "tag:yaml.org,2002:")]

/-- The tag of a handle and a suffix: the suffix alone without handle. A lone exclamation mark is no
tag. -/
def TagHandles.resolve? (handles : TagHandles) (handle suffix : String) :
    Option (Option String) :=
  if handle.isEmpty then some (if suffix == "!" then none else some suffix)
  else
    match handles.find? fun entry => entry.1 == handle with
    | some (_, expansion) => some (some (expansion ++ suffix))
    | none => none

/-- What stands in front of a node. -/
structure Properties where
  /-- The name that marks the node. -/
  anchor : Option String := none
  tag : Option String := none
  /-- There is something in front of the node. -/
  present : Bool := false

/-- The anchor and tag in front of a node, in either order. -/
def properties? (handles : TagHandles) : List Token → Option (Properties × List Token)
  | .anchor name :: .tag handle suffix :: rest =>
    (handles.resolve? handle suffix).map fun tag => (⟨some name, tag, true⟩, rest)
  | .tag handle suffix :: .anchor name :: rest =>
    (handles.resolve? handle suffix).map fun tag => (⟨some name, tag, true⟩, rest)
  | .anchor name :: rest => some (⟨some name, none, true⟩, rest)
  | .tag handle suffix :: rest =>
    (handles.resolve? handle suffix).map fun tag => (⟨none, tag, true⟩, rest)
  | rest => some ({}, rest)

namespace Reader

/-- Goes on behind the first token. -/
def skip (reader : Reader) : Reader :=
  { reader with tokens := reader.tokens.drop 1 }

/-- The first token is one of these. -/
def isAt (reader : Reader) (tokens : List Token) : Bool :=
  reader.tokens.head?.any tokens.contains

/-- Marks a node by an anchor. -/
def mark (reader : Reader) (anchor : Option String) (node : Node) : Reader :=
  match anchor with
  | some name => { reader with anchors := (name, node) :: reader.anchors }
  | none => reader

/-- Gives a collection that has been marked before it was read its node; `before` is the number of
anchors in front of its own. -/
def complete (reader : Reader) (anchor : Option String) (before : Nat) (node : Node) : Reader :=
  match anchor with
  | some name =>
    { reader with anchors := reader.anchors.set (reader.anchors.length - 1 - before) (name, node) }
  | none => reader

/-- The node that a name marks. -/
def marked? (reader : Reader) (name : String) : Option Node :=
  (reader.anchors.find? fun entry => entry.1 == name).map (·.2)

/-- A node at a place where one may be left out: nothing is written if one of these tokens follows.
-/
def unlessAt (ends : List Token) (read : Reader → Step Node) (reader : Reader) : Step Node :=
  if reader.tokens.isEmpty then .error .cut
  else if reader.isAt ends then .ok (.empty, reader)
  else read reader

/-- The value behind a key: nothing is written without a colon. -/
def valueUnlessAt (ends : List Token) (read : Reader → Step Node) (reader : Reader) : Step Node :=
  match reader.tokens with
  | [] => .error .cut
  | .value :: _ => unlessAt ends read reader.skip
  | _ => .ok (.empty, reader)

/-- A key and its value; the value is cut off where the key goes wrong. -/
def pair (key value : Reader → Step Node) (reader : Reader) : Step (Node × Node) :=
  match key reader with
  | .error key => .error (key, .cut)
  | .ok (key, reader) =>
    match value reader with
    | .error value => .error (key, value)
    | .ok (value, reader) => .ok ((key, value), reader)

/-- A collection of what was read, whole or up to a fault. It was marked in front of its content, as
something endless, and gets its node now. -/
def collected {α : Type} (build : List α → Node) (anchor : Option String) (before : Nat) :
    Step (List α) → Step Node
  | .error items => .error (build items)
  | .ok (items, reader) => .ok (build items, reader.complete anchor before (build items))

/-- The tokens that end an item of a block. -/
def itemEnds : List Token := [.blockEntry, .blockEnd]

/-- The tokens that end a key or value of a block. -/
def pairEnds : List Token := [.key, .value, .blockEnd]

/-- The tokens that end an item of a list without indentation of its own. -/
def indentlessEnds : List Token := .blockEntry :: pairEnds

mutual

/-- Reads a node. Block collections may start only inside blocks, and a list that is not indented
only behind a key. -/
def node (handles : TagHandles) : Nat → Bool → Bool → Reader → Step Node
  | 0, _, _, _ => .error .cut
  | fuel + 1, inBlock, behindKey, reader =>
    match reader.tokens with
    | .reference name :: _ =>
      match reader.marked? name with
      | some node => .ok (node, reader.skip)
      | none => .error .cut
    | tokens =>
      match properties? handles tokens with
      | none => .error .cut
      | some (properties, tokens) =>
        let before := reader.anchors.length
        let reader := { reader with tokens }
        let marked := reader.mark properties.anchor .endless
        let sequence := collected (.sequence properties.tag) properties.anchor before
        let mapping := collected (.mapping properties.tag) properties.anchor before
        match tokens with
        | [] => .error .cut
        | .scalar style text :: _ =>
          let node := Node.scalar style properties.tag text
          .ok (node, reader.skip.mark properties.anchor node)
        | .flowSequenceStart :: _ => sequence (flowItems handles fuel true [] marked.skip)
        | .flowMappingStart :: _ => mapping (flowPairs handles fuel true [] marked.skip)
        | first :: _ =>
          if behindKey && first == .blockEntry then
            sequence (indentlessItems handles fuel [] marked)
          else if inBlock && first == .blockSequenceStart then
            sequence (blockItems handles fuel [] marked.skip)
          else if inBlock && first == .blockMappingStart then
            mapping (blockPairs handles fuel [] marked.skip)
          else if properties.present then
            let node := Node.scalar .plain properties.tag ""
            .ok (node, reader.mark properties.anchor node)
          else .error .cut

/-- Reads the items of a block behind those already read, which are kept last one first. -/
def blockItems (handles : TagHandles) : Nat → List Node → Reader → Step (List Node)
  | 0, done, _ => .error done.reverse
  | fuel + 1, done, reader =>
    match reader.tokens with
    | .blockEntry :: _ =>
      match unlessAt itemEnds (node handles fuel true false) reader.skip with
      | .error part => .error (part :: done).reverse
      | .ok (item, reader) => blockItems handles fuel (item :: done) reader
    | .blockEnd :: _ => .ok (done.reverse, reader.skip)
    | _ => .error done.reverse

/-- Reads the items of a list that is not indented, up to the first token that starts no item. -/
def indentlessItems (handles : TagHandles) : Nat → List Node → Reader → Step (List Node)
  | 0, done, _ => .error done.reverse
  | fuel + 1, done, reader =>
    match reader.tokens with
    | .blockEntry :: _ =>
      match unlessAt indentlessEnds (node handles fuel true false) reader.skip with
      | .error part => .error (part :: done).reverse
      | .ok (item, reader) => indentlessItems handles fuel (item :: done) reader
    | [] => .error done.reverse
    | _ => .ok (done.reverse, reader)

/-- Reads the pairs of a block. -/
def blockPairs (handles : TagHandles) :
    Nat → List (Node × Node) → Reader → Step (List (Node × Node))
  | 0, done, _ => .error done.reverse
  | fuel + 1, done, reader =>
    match reader.tokens with
    | .key :: _ =>
      match pair (unlessAt pairEnds (node handles fuel true true))
          (valueUnlessAt pairEnds (node handles fuel true true)) reader.skip with
      | .error part => .error (part :: done).reverse
      | .ok (entry, reader) => blockPairs handles fuel (entry :: done) reader
    | .blockEnd :: _ => .ok (done.reverse, reader.skip)
    | _ => .error done.reverse

/-- Reads the items of a flow list; all but the first follow a comma. -/
def flowItems (handles : TagHandles) : Nat → Bool → List Node → Reader → Step (List Node)
  | 0, _, done, _ => .error done.reverse
  | fuel + 1, first, done, reader =>
    if reader.isAt [.flowSequenceEnd] then .ok (done.reverse, reader.skip)
    else if !first && !reader.isAt [.flowEntry] then .error done.reverse
    else
      let reader := if first then reader else reader.skip
      if reader.isAt [.flowSequenceEnd] then .ok (done.reverse, reader.skip)
      else
        match flowItem handles fuel reader with
        | .error part => .error (part :: done).reverse
        | .ok (item, reader) => flowItems handles fuel false (item :: done) reader

/-- Reads an item of a flow list: a node, or a key with a value as a mapping of its own. Where the
key is left out, the token in its place is passed over. -/
def flowItem (handles : TagHandles) : Nat → Reader → Step Node
  | 0, _ => .error .cut
  | fuel + 1, reader =>
    match reader.tokens with
    | .key :: _ =>
      let key := fun (reader : Reader) =>
        if reader.isAt [.value, .flowEntry, .flowSequenceEnd] then .ok (.empty, reader.skip)
        else node handles fuel false false reader
      let value := valueUnlessAt [.flowEntry, .flowSequenceEnd] (node handles fuel false false)
      match pair key value reader.skip with
      | .error part => .error (.mapping none [part])
      | .ok (entry, reader) => .ok (.mapping none [entry], reader)
    | _ => node handles fuel false false reader

/-- Reads the pairs of a flow mapping; all but the first follow a comma. -/
def flowPairs (handles : TagHandles) :
    Nat → Bool → List (Node × Node) → Reader → Step (List (Node × Node))
  | 0, _, done, _ => .error done.reverse
  | fuel + 1, first, done, reader =>
    if reader.isAt [.flowMappingEnd] then .ok (done.reverse, reader.skip)
    else if !first && !reader.isAt [.flowEntry] then .error done.reverse
    else
      let reader := if first then reader else reader.skip
      if reader.isAt [.flowMappingEnd] then .ok (done.reverse, reader.skip)
      else
        match flowPair handles fuel reader with
        | .error part => .error (part :: done).reverse
        | .ok (entry, reader) => flowPairs handles fuel false (entry :: done) reader

/-- Reads a pair of a flow mapping. Without a sign of a key the node has no value. -/
def flowPair (handles : TagHandles) : Nat → Reader → Step (Node × Node)
  | 0, _ => .error (.cut, .cut)
  | fuel + 1, reader =>
    match reader.tokens with
    | .key :: _ =>
      pair (unlessAt [.value, .flowEntry, .flowMappingEnd] (node handles fuel false false))
        (valueUnlessAt [.flowEntry, .flowMappingEnd] (node handles fuel false false)) reader.skip
    | _ =>
      pair (node handles fuel false false)
        (fun reader => if reader.tokens.isEmpty then .error .cut else .ok (.empty, reader)) reader

end

end Reader

/-- The directives in front of a document: the version, at most once and known, and the handles,
each at most once. -/
def directives? (versioned : Bool) (handles : TagHandles) :
    List Token → Option (TagHandles × List Token)
  | .version major minor :: rest =>
    if versioned || major != 1 || (minor != 1 && minor != 2) then none
    else directives? true handles rest
  | .tagHandle handle expansion :: rest =>
    if handles.any fun entry => entry.1 == handle then none
    else directives? versioned (handles ++ [(handle, expansion)]) rest
  | rest => some (handles, rest)

/-- The token is part of what stands in front of a document. -/
def Token.isDocumentHead : Token → Bool
  | .version .. | .tagHandle .. | .documentStart => true
  | _ => false

/-- The token ends a document that holds nothing. -/
def Token.endsDocument (token : Token) : Bool :=
  token.isDocumentHead || token == .documentEnd || token == .streamEnd

/-- Only the end of a document follows. -/
def isLastDocument (tokens : List Token) : Bool :=
  tokens.dropWhile (· == .documentEnd) == [.streamEnd]

/-- The node of a document from its tokens on. -/
def readRoot (handles : TagHandles) (tokens : List Token) : Reading :=
  match Reader.node handles (3 * tokens.length + 4) true false ⟨tokens, []⟩ with
  | .ok (root, reader) => ⟨root, isLastDocument reader.tokens⟩
  | .error root => ⟨root, false⟩

/-- The document behind its mark. -/
def readContent (handles : TagHandles) (tokens : List Token) : Reading :=
  match tokens with
  | [] => ⟨.cut, false⟩
  | first :: _ =>
    if first.endsDocument then ⟨.empty, isLastDocument tokens⟩ else readRoot handles tokens

/-- The first document of some tokens. -/
def readTokens (tokens : List Token) : Reading :=
  match tokens with
  | [] => ⟨.cut, false⟩
  | first :: _ =>
    if first == .streamEnd then ⟨.empty, true⟩
    else if first.isDocumentHead then
      match directives? false [] tokens with
      | some (handles, .documentStart :: rest) =>
        readContent (handles ++ TagHandles.standard) rest
      | _ => ⟨.cut, false⟩
    else readRoot TagHandles.standard tokens

/-- The first document of a text. -/
def read (text : String) : Reading :=
  readTokens (Token.scan text)

end InfoModel.Yaml
