import HandlerDocs.Yaml.Tag

/-!
# YAML tokens

A text is cut into tokens: indicators, scalars, and marks for the start and the end of the blocks
that only the indentation shows. Whether a scalar or flow collection is a key is known only when the
colon behind it is reached; the marks of the key are then put in front of its tokens. Such a colon
has to follow on the same line and within 1024 bytes. An anchor or a tag stands in front of what it
belongs to, and is a part of the key if that is one.

* `Scan` — a text that is being cut into tokens.
* `tokens?` — the tokens of a text.
-/

namespace HandlerDocs.Yaml

/-- How a scalar is written, as far as that matters. -/
inductive Style
  /-- Without quotes. -/
  | plain
  /-- On lines of its own, which are kept. -/
  | literal
  | other
  deriving DecidableEq, Repr

/-- A part of a text. -/
inductive Token
  /-- The directive for a version of YAML. -/
  | version (major minor : Nat)
  /-- The directive that says what a handle stands for. -/
  | handle (name : String) (text : TagText)
  | documentStart
  | documentEnd
  | blockSequence
  | blockMapping
  | blockEnd
  | blockItem
  | flowSequence
  | flowSequenceEnd
  | flowMapping
  | flowMappingEnd
  | flowSeparator
  | key
  | value
  /-- A name for what stands behind it. -/
  | anchor (name : String)
  /-- What was given a name. -/
  | reference (name : String)
  | tag (handle : String) (suffix : TagText)
  | scalar (text : String) (style : Style)
  deriving DecidableEq, Repr

/-- A place where a key may have started. -/
structure PossibleKey where
  /-- Whether nothing but a key may stand there. -/
  isRequired : Bool
  /-- The number of tokens before it. -/
  position : Nat
  /-- The place of its start. -/
  place : Place
  deriving DecidableEq, Repr

/-- A text that is being cut into tokens. -/
structure Scan where
  /-- The text that is not yet cut. -/
  rest : List Char
  /-- The place where it starts. -/
  place : Place := {}
  /-- The columns of the open blocks, innermost first. -/
  blocks : List Nat := []
  /-- Whether a key may start at the next token. -/
  keyAllowed : Bool := true
  /-- The key that may have started in the innermost flow collection, or outside of all. -/
  possibleKey : Option PossibleKey := none
  /-- The same for each collection around it; there is one for every open flow collection. -/
  outerKeys : List (Option PossibleKey) := []
  /-- The tokens so far. -/
  tokens : Array Token := #[]
  deriving Repr

namespace Scan

/-- Whether a flow collection is open. -/
def inFlow (st : Scan) : Bool :=
  !st.outerKeys.isEmpty

/-- Skips a number of characters. -/
def skip (n : Nat) (st : Scan) : Scan :=
  { st with place := st.place.advance n st.rest, rest := st.rest.drop n }

/-- Adds a token that a number of characters stand for. -/
def emit (token : Token) (n : Nat) (st : Scan) : Scan :=
  { st.skip n with tokens := st.tokens.push token }

/-- The state in which a key may, or may not, start at the next token. -/
def allowKey (keyAllowed : Bool) (st : Scan) : Scan :=
  { st with keyAllowed }

/-! ### Keys -/

/-- Gives up the key that may have started, unless it is required. -/
def dropKey? (st : Scan) : Option Scan :=
  if st.possibleKey.any (·.isRequired) then none else some { st with possibleKey := none }

/-- Whether a key that may have started at one place cannot end at another. -/
def isStale (place : Place) (key : PossibleKey) : Bool :=
  key.place.line < place.line || key.place.byte + 1024 < place.byte

/-- Gives up the keys that cannot end at the current place, unless one of them is required. -/
def dropStaleKeys? (st : Scan) : Option Scan :=
  let stale := isStale st.place
  let isLost (key : Option PossibleKey) := key.any fun k => stale k && k.isRequired
  if (st.possibleKey :: st.outerKeys).any isLost then none
  else
    let fresh (key : Option PossibleKey) := key.filter (!stale ·)
    some { st with possibleKey := fresh st.possibleKey, outerKeys := st.outerKeys.map fresh }

/-- Notes that a key may start here. -/
def saveKey? (st : Scan) : Option Scan := do
  if st.keyAllowed then
    let isRequired := !st.inFlow && st.blocks.head? == some st.place.column
    let key := { isRequired, position := st.tokens.size, place := st.place }
    return { ← st.dropKey? with possibleKey := some key }
  else return st

/-! ### Blocks -/

/-- Opens a block at a column if it is inside of all open ones, with its mark in front of the tokens
from `position` on. -/
def openBlock (token : Token) (column position : Nat) (st : Scan) : Scan :=
  if st.inFlow || st.blocks.head?.any (column ≤ ·) then st
  else
    { st with
      blocks := column :: st.blocks
      tokens := st.tokens.insertIdxIfInBounds position token }

/-- Opens a block whose first indicator stands here. -/
def openBlockHere? (token : Token) (st : Scan) : Option Scan :=
  if st.inFlow then some st
  else if st.keyAllowed then some (st.openBlock token st.place.column st.tokens.size)
  else none

/-- Closes the blocks of which `isOver` holds. -/
def closeBlocks (isOver : Nat → Bool) (st : Scan) : Scan :=
  if st.inFlow then st
  else
    let (closed, blocks) := st.blocks.span isOver
    { st with blocks, tokens := st.tokens ++ Array.replicate closed.length .blockEnd }

/-! ### The space between tokens -/

/-- Skips blanks, comments and the ends of lines, and a byte order mark at the start of a line.
Where a key may start in a block, a tab is no blank. -/
def skipFiller (inFlow inComment keyAllowed : Bool) (place : Place) (s : List Char) :
    Bool × Place × List Char :=
  match s with
  | [] => (keyAllowed, place, [])
  | '\r' :: '\n' :: rest =>
    skipFiller inFlow false (keyAllowed || !inFlow) ⟨place.byte + 2, place.line + 1, 0⟩ rest
  | c :: rest =>
    if isBreak c then skipFiller inFlow false (keyAllowed || !inFlow) (place.next c) rest
    else if inComment || c = '#' then skipFiller inFlow true keyAllowed (place.next c) rest
    else if c = ' ' || (c = '\t' && (inFlow || !keyAllowed)) ||
        (c = '\ufeff' && place.column = 0) then
      skipFiller inFlow false keyAllowed (place.next c) rest
    else (keyAllowed, place, s)

/-- Goes to the start of the next token. -/
def nextToken? (st : Scan) : Option Scan := do
  let (keyAllowed, place, rest) := skipFiller st.inFlow false st.keyAllowed st.place st.rest
  let st ← dropStaleKeys? { st with keyAllowed, place, rest }
  return st.closeBlocks (place.column < ·)

/-! ### Tokens -/

/-- Closes everything at the end of the text. -/
def finish? (st : Scan) : Option (List Token) := do
  let st ← (st.closeBlocks fun _ => true).dropKey?
  return st.tokens.toList

/-- Reads the mark of a document. -/
def documentMark? (token : Token) (st : Scan) : Option Scan := do
  let st ← (st.closeBlocks fun _ => true).dropKey?
  return (st.allowKey false).emit token 3

/-- Reads a part of a version, which has at most nine digits. -/
def readVersionPart? (s : List Char) : Option (Nat × List Char) :=
  match s.takeWhile Char.isDigit with
  | [] => none
  | digits =>
    if 9 < digits.length then none
    else some (digits.foldl (fun n c => n * 10 + (c.toNat - '0'.toNat)) 0, s.dropWhile Char.isDigit)

/-- Reads the version behind the name of its directive, with the end of the line. -/
def readVersion? (s : List Char) : Option (Token × List Char) := do
  let (major, rest) ← readVersionPart? (s.dropWhile isBlank)
  match rest with
  | '.' :: rest =>
    let (minor, rest) ← readVersionPart? rest
    return (.version major minor, ← endLine? rest)
  | _ => none

/-- Reads a directive behind its `%`. -/
def readDirective? : List Char → Option (Token × List Char)
  | 'Y' :: 'A' :: 'M' :: 'L' :: c :: rest => if isBlank c then readVersion? rest else none
  | 'T' :: 'A' :: 'G' :: c :: rest => do
    let (name, text, rest) ← if isBlank c then readHandle? rest else none
    return (.handle name text, rest)
  | _ => none

/-- Reads a directive. -/
def directive? (st : Scan) : Option Scan := do
  let st ← (st.closeBlocks fun _ => true).dropKey?
  let (token, rest) ← readDirective? st.rest.tail
  return (st.allowKey false).emit token (st.rest.length - rest.length)

/-- Whether a text goes on as it may behind an anchor. -/
def endsAnchor (s : List Char) : Bool :=
  startsBlank s || s.head?.any "?:,]\x7d%@\x60".toList.contains

/-- Reads the name of an anchor or a reference. -/
def name? (token : String → Token) (st : Scan) : Option Scan := do
  let st ← st.saveKey?
  let name := st.rest.tail.takeWhile isWordChar
  if name.isEmpty || !endsAnchor (st.rest.tail.dropWhile isWordChar) then none
  else return (st.allowKey false).emit (token (String.ofList name)) (name.length + 1)

/-- Reads a tag. -/
def tag? (st : Scan) : Option Scan := do
  let st ← st.saveKey?
  let (handle, suffix, rest) ← readTag? st.rest.tail
  if startsBlank rest || (st.inFlow && rest.head? == some ',') then
    return (st.allowKey false).emit (.tag handle suffix) (st.rest.length - rest.length)
  else none

/-- Reads the start of a flow collection. -/
def openFlow? (token : Token) (st : Scan) : Option Scan := do
  let st ← st.saveKey?
  let st := { st with outerKeys := st.possibleKey :: st.outerKeys, possibleKey := none }
  return (st.allowKey true).emit token 1

/-- Reads the end of a flow collection. -/
def closeFlow? (token : Token) (st : Scan) : Option Scan := do
  let st ← st.dropKey?
  let st :=
    match st.outerKeys with
    | [] => st
    | key :: outerKeys => { st with possibleKey := key, outerKeys }
  return (st.allowKey false).emit token 1

/-- Reads a comma. -/
def flowSeparator? (st : Scan) : Option Scan := do
  let st ← st.dropKey?
  return (st.allowKey true).emit .flowSeparator 1

/-- Reads the indicator of an item of a block. -/
def blockItem? (st : Scan) : Option Scan := do
  let st ← (← st.openBlockHere? .blockSequence).dropKey?
  return (st.allowKey true).emit .blockItem 1

/-- Reads the indicator of a key. -/
def key? (st : Scan) : Option Scan := do
  let st ← (← st.openBlockHere? .blockMapping).dropKey?
  return (st.allowKey !st.inFlow).emit .key 1

/-- Reads the indicator of a value. -/
def value? (st : Scan) : Option Scan :=
  match st.possibleKey with
  | some key =>
    let tokens := st.tokens.insertIdxIfInBounds key.position .key
    let st := { st with tokens, possibleKey := none }
    let st := st.openBlock .blockMapping key.place.column key.position
    some ((st.allowKey false).emit .value 1)
  | none => do
    let st ← st.openBlockHere? .blockMapping
    return (st.allowKey !st.inFlow).emit .value 1

/-- Adds a scalar that ends in front of `rest`. -/
def emitScalar (text : List Char) (style : Style) (rest : List Char) (st : Scan) : Scan :=
  st.emit (.scalar (String.ofList text) style) (st.rest.length - rest.length)

/-- Reads a quoted scalar. -/
def quoted? (st : Scan) : Option Scan := do
  let st ← st.saveKey?
  let (text, rest) ← readQuoted? st.rest
  return (st.allowKey false).emitScalar text .other rest

/-- Reads a plain scalar. -/
def plain? (st : Scan) : Option Scan := do
  let st ← st.saveKey?
  let indent := st.blocks.head?.elim 0 (· + 1)
  let (text, rest, atLineEnd) ← readPlain? st.inFlow indent st.place.column .none st.rest
  return (st.allowKey atLineEnd).emitScalar text .plain rest

/-- Reads a block scalar. -/
def block? (folds : Bool) (st : Scan) : Option Scan := do
  let st ← st.dropKey?
  let outer : Int := st.blocks.head?.elim (-1) Int.ofNat
  let (text, rest) ← readBlock? folds outer st.rest.tail
  return (st.allowKey true).emitScalar text (if folds then .other else .literal) rest

/-- The indicators, with which no plain scalar starts. -/
def indicators : List Char :=
  ['-', '?', ':', ',', '[', ']', '\x7b', '\x7d', '#', '&', '*', '!', '|', '>', '\'', '"', '%', '@',
    '\x60']

/-- Reads one token. -/
def token? (st : Scan) : Option Scan :=
  match st.rest with
  | [] => none
  | c :: rest =>
    if st.place.column = 0 && startsDocumentMark st.rest then
      st.documentMark? (if c = '-' then .documentStart else .documentEnd)
    else if st.place.column = 0 && c = '%' then st.directive?
    else
      match c with
      | '[' => st.openFlow? .flowSequence
      | ']' => st.closeFlow? .flowSequenceEnd
      | '\x7b' => st.openFlow? .flowMapping
      | '\x7d' => st.closeFlow? .flowMappingEnd
      | ',' => st.flowSeparator?
      | '\'' | '"' => st.quoted?
      | '-' => if startsBlank rest then st.blockItem? else st.plain?
      | '?' => if st.inFlow || startsBlank rest then st.key? else st.plain?
      | ':' => if st.inFlow || startsBlank rest then st.value? else st.plain?
      | '&' => st.name? .anchor
      | '*' => st.name? .reference
      | '!' => st.tag?
      | '|' => if st.inFlow then none else st.block? false
      | '>' => if st.inFlow then none else st.block? true
      | c => if isBlank c || indicators.contains c then none else st.plain?

/-- Reads all tokens, of which there are fewer than `bound`. -/
def tokensWithin? : Nat → Scan → Option (List Token)
  | 0, _ => none
  | bound + 1, st => do
    let st ← st.nextToken?
    if st.rest.isEmpty then st.finish? else (← st.token?).tokensWithin? bound

end Scan

/-- The tokens of a text. Every token has a character of its own. -/
def tokens? (text : String) : Option (List Token) :=
  let s := text.toList
  if s.all isTextChar then Scan.tokensWithin? (s.length + 1) { rest := s } else none

end HandlerDocs.Yaml
