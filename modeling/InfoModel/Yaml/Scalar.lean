/-
**Scalars of YAML texts.**

The scanning of the five ways to write a scalar: plain, in single or double quotes, and as a literal
or folded block.

* `Scalar.plain?`, `Scalar.quoted?` and `Scalar.block?` read a scalar from a place in a text and
  give the place behind it.
-/

import InfoModel.Yaml.Cursor
import InfoModel.Json.Reader

namespace InfoModel.Yaml.Scalar

/-- The blanks and line breaks from here on. Inside a plain scalar of a block no tab may stand in
front of the column where the block's content starts. -/
def gap? (tabsFrom : Nat) : Nat → Gap → Cursor → Option (Gap × Cursor)
  | 0, gap, cursor => some (gap, cursor)
  | fuel + 1, gap, cursor =>
    match cursor.peek with
    | none => some (gap, cursor)
    | some char =>
      if isBlank char then
        if gap.broken && cursor.column < tabsFrom && char == '\t' then none
        else gap? tabsFrom fuel (gap.addBlank char) cursor.next
      else if isBreak char then gap? tabsFrom fuel (gap.addBreak cursor) cursor.nextLine
      else some (gap, cursor)

/-! ### Plain scalars -/

/-- An indicator of flow collections. -/
def isFlowIndicator (char : Char) : Bool :=
  char == ',' || char == '[' || char == ']' || char == '\x7b' || char == '\x7d'

/-- A character that no colon may touch inside a flow collection. -/
def touchesColon (char : Char) : Bool :=
  isFlowIndicator char || char == '?'

/-- The characters of a plain scalar up to a gap or an indicator. Inside a flow collection a colon
may not touch an indicator or a question mark. -/
def plainRun? (inFlow : Bool) : List Char → Option (List Char)
  | [] => some []
  | char :: rest =>
    if isBlank char || isBreak char then some []
    else if inFlow && char == ':' && rest.head?.any touchesColon then none
    else if char == ':' && isGap rest.head? then some []
    else if inFlow && isFlowIndicator char then some []
    else (plainRun? inFlow rest).map (char :: ·)

/-- The rest of a plain scalar, behind the characters read so far and a gap. -/
def plainFrom? (inFlow : Bool) (indent : Nat) :
    Nat → List Char → Gap → Cursor → Option (List Char × Gap × Cursor)
  | 0, done, gap, cursor => some (done, gap, cursor)
  | fuel + 1, done, gap, cursor =>
    if cursor.atDocumentMarker || cursor.at? '#' then some (done, gap, cursor)
    else
      match plainRun? inFlow cursor.rest with
      | none => none
      | some run =>
        let (done, gap) := if run.isEmpty then (done, gap) else (done ++ gap.text ++ run, {})
        let cursor := cursor.advance run.length
        if !cursor.peek.any (fun char => isBlank char || isBreak char) then
          some (done, gap, cursor)
        else
          match gap? indent fuel gap cursor with
          | none => none
          | some (gap, cursor) =>
            if !inFlow && cursor.column < indent then some (done, gap, cursor)
            else plainFrom? inFlow indent fuel done gap cursor

/-- A plain scalar of a block with this indent: its text, whether a line break follows it, and the
place behind it. -/
def plain? (inFlow : Bool) (indent : Nat) (cursor : Cursor) :
    Option (String × Bool × Cursor) :=
  (plainFrom? inFlow indent (cursor.rest.length + 1) [] {} cursor).map
    fun (text, gap, cursor) => (String.ofList text, gap.broken, cursor)

/-! ### Quoted scalars -/

/-- The character that another one stands for behind a backslash. -/
def escaped? : Char → Option Char
  | '0' => some (Char.ofNat 0)
  | 'a' => some (Char.ofNat 7)
  | 'b' => some (Char.ofNat 8)
  | 't' => some '\t'
  | '\t' => some '\t'
  | 'n' => some '\n'
  | 'v' => some (Char.ofNat 11)
  | 'f' => some (Char.ofNat 12)
  | 'r' => some '\r'
  | 'e' => some (Char.ofNat 27)
  | ' ' => some ' '
  | '"' => some '"'
  | '/' => some '/'
  | '\\' => some '\\'
  | 'N' => some (Char.ofNat 0x85)
  | '_' => some (Char.ofNat 0xA0)
  | 'L' => some (Char.ofNat 0x2028)
  | 'P' => some (Char.ofNat 0x2029)
  | _ => none

/-- The number of hexadecimal digits behind the letter of a code. -/
def codeLength? : Char → Option Nat
  | 'x' => some 2
  | 'u' => some 4
  | 'U' => some 8
  | _ => none

/-- The character of a hexadecimal code of the given length. -/
def coded? (length : Nat) (text : List Char) : Option Char :=
  let digits := text.take length
  if digits.length != length then none
  else
    match digits.mapM Json.hexValue? with
    | none => none
    | some values =>
      let code := values.foldl (fun code value => 16 * code + value) 0
      if (0xD800 ≤ code && code ≤ 0xDFFF) || code > 0x10FFFF then none
      else some (Char.ofNat code)

/-- The characters of a quoted scalar from here on up to a gap or the closing quote, and whether an
escaped line break ends them. -/
def quotedRun? (single : Bool) :
    Nat → List Char → Cursor → Option (List Char × Bool × Cursor)
  | 0, done, cursor => some (done.reverse, false, cursor)
  | fuel + 1, done, cursor =>
    match cursor.rest with
    | [] => some (done.reverse, false, cursor)
    | char :: rest =>
      if isBlank char || isBreak char then some (done.reverse, false, cursor)
      else if single then
        if char == '\'' then
          if rest.head? == some '\'' then quotedRun? single fuel ('\'' :: done) (cursor.advance 2)
          else some (done.reverse, false, cursor)
        else quotedRun? single fuel (char :: done) cursor.next
      else if char == '"' then some (done.reverse, false, cursor)
      else if char == '\\' then
        match rest with
        | [] => none
        | letter :: code =>
          if isBreak letter then some (done.reverse, true, cursor.next.nextLine)
          else
            match codeLength? letter with
            | some length =>
              match coded? length code with
              | some value => quotedRun? single fuel (value :: done) (cursor.advance (length + 2))
              | none => none
            | none =>
              match escaped? letter with
              | some value => quotedRun? single fuel (value :: done) (cursor.advance 2)
              | none => none
      else quotedRun? single fuel (char :: done) cursor.next

/-- The rest of a quoted scalar. -/
def quotedFrom? (single : Bool) : Nat → List Char → Cursor → Option (List Char × Cursor)
  | 0, _, _ => none
  | fuel + 1, done, cursor =>
    if cursor.atDocumentMarker || cursor.rest.isEmpty then none
    else
      match quotedRun? single (cursor.rest.length + 1) [] cursor with
      | none => none
      | some (run, escapedBreak, cursor) =>
        let done := done ++ run
        if cursor.at? (if single then '\'' else '"') then some (done, cursor.next)
        else
          match gap? 0 (cursor.rest.length + 1) { broken := escapedBreak } cursor with
          | none => none
          | some (gap, cursor) =>
            -- behind an escaped line break all further breaks count
            let text := if escapedBreak then gap.laterBreaks else gap.text
            quotedFrom? single fuel (done ++ text) cursor

/-- A scalar in quotes, from its opening quote on. -/
def quoted? (single : Bool) (cursor : Cursor) : Option (String × Cursor) :=
  (quotedFrom? single (cursor.rest.length + 1) [] cursor.next).map
    fun (text, cursor) => (String.ofList text, cursor)

/-! ### Block scalars -/

/-- What happens to the line breaks at the end of a block. -/
inductive Chomping where
  /-- All are left out. -/
  | strip
  /-- One stays. -/
  | clip
  /-- All stay. -/
  | keep
deriving DecidableEq

/-- The chomping indicator here, if there is one. -/
def chomping? (cursor : Cursor) : Option Chomping :=
  match cursor.peek with
  | some '+' => some .keep
  | some '-' => some .strip
  | _ => none

/-- The indentation indicator here, if there is one. -/
def increment? (cursor : Cursor) : Option Nat :=
  match cursor.peek with
  | some char => if '0' ≤ char && char ≤ '9' then some (char.toNat - 48) else none
  | none => none

/-- The indicators behind the sign of a block: chomping and indentation, in either order. An
indentation of zero is refused. -/
def header? (cursor : Cursor) : Option (Chomping × Nat × Cursor) :=
  let (chomping, increment, cursor) : Chomping × Option Nat × Cursor :=
    match chomping? cursor with
    | some chomping =>
      match increment? cursor.next with
      | some increment => (chomping, some increment, cursor.advance 2)
      | none => (chomping, none, cursor.next)
    | none =>
      match increment? cursor with
      | some increment =>
        match chomping? cursor.next with
        | some chomping => (chomping, some increment, cursor.advance 2)
        | none => (.clip, some increment, cursor.next)
      | none => (.clip, none, cursor)
  match increment with
  | some 0 => none
  | some increment => some (chomping, increment, cursor)
  | none => some (chomping, 0, cursor)

/-- Passes the indentation of lines and empty lines of a block. With an indent of zero the indent is
still to be found; `widest` is the widest indentation met. Tabs may not take part. -/
def blockGap? (indent : Nat) :
    Nat → Nat → List Char → Cursor → Option (Nat × List Char × Cursor)
  | 0, widest, breaks, cursor => some (widest, breaks, cursor)
  | fuel + 1, widest, breaks, cursor =>
    let spaces := (cursor.takeWhile (· == ' ')).length
    let passed := if indent == 0 then spaces else min spaces (indent - cursor.column)
    let cursor := cursor.advance passed
    let widest := max widest cursor.column
    if (indent == 0 || cursor.column < indent) && cursor.at? '\t' then none
    else if cursor.peek.any isBreak then
      blockGap? indent fuel widest (breaks ++ cursor.breakChar) cursor.nextLine
    else some (widest, breaks, cursor)

/-- The lines of a block behind what was read so far. -/
def blockLines? (folded : Bool) (indent : Nat) :
    Nat → List Char → List Char → List Char → Bool → Cursor →
      Option (List Char × List Char × List Char × Cursor)
  | 0, done, leading, trailing, _, cursor => some (done, leading, trailing, cursor)
  | fuel + 1, done, leading, trailing, afterBlank, cursor =>
    if cursor.column != indent || cursor.rest.isEmpty then some (done, leading, trailing, cursor)
    else
      let blank := cursor.peek.any isBlank
      let done :=
        if folded && leading == ['\n'] && !afterBlank && !blank then
          done ++ (if trailing.isEmpty then [' '] else []) ++ trailing
        else done ++ leading ++ trailing
      let line := cursor.takeWhile fun char => !isBreak char
      let behind := cursor.advance line.length
      let leading := behind.breakChar
      let behind := if behind.rest.isEmpty then behind else behind.nextLine
      match blockGap? indent (behind.rest.length + 1) 0 [] behind with
      | none => none
      | some (_, trailing, cursor) =>
        blockLines? folded indent fuel (done ++ line) leading trailing blank cursor

/-- A block scalar from its sign on, inside a block of this indent. -/
def block? (folded : Bool) (parent : Int) (cursor : Cursor) : Option (String × Cursor) := do
  let (chomping, increment, cursor) ← header? cursor.next
  let cursor := cursor.skipWhile isBlank
  let cursor := if cursor.at? '#' then cursor.skipWhile fun char => !isBreak char else cursor
  if !isLineEnd cursor.peek then none
  else
    let cursor := if cursor.rest.isEmpty then cursor else cursor.nextLine
    let given : Nat := if increment == 0 then 0 else (max parent 0).toNat + increment
    let (widest, trailing, cursor) ← blockGap? given (cursor.rest.length + 1) 0 [] cursor
    let indent : Nat := if given == 0 then max (max widest (parent + 1).toNat) 1 else given
    let (text, leading, trailing, cursor) ←
      blockLines? folded indent (cursor.rest.length + 1) [] [] trailing false cursor
    let text := if chomping == .strip then text else text ++ leading
    let text := if chomping == .keep then text ++ trailing else text
    return (String.ofList text, cursor)

end InfoModel.Yaml.Scalar
