import HandlerDocs.Yaml.Token

/-!
# YAML nodes

A document is one node: a scalar, a sequence, a mapping, or a reference to a node that was given a
name by an anchor. A place where a node is expected but left out has an empty plain scalar. Of the
tags only those of scalars are kept.

A reference is to the last node with its name in front of it, and it may stand inside of that node.
The nodes with names are numbered, and references are by number; the number of a node is that of the
names before it, so that a name that is given again can share its number with another one, and then
the node that starts last has it.

* `Node` — the content of a document.
* `Node.ofTokens?` — the node that tokens stand for.
* `Node.link?` — replaces names by numbers.
* `readDocument?` — the only document of a text.
-/

namespace HandlerDocs.Yaml

/-! ### Nodes -/

/-- The content of a document. -/
inductive Node
  | scalar (style : Style) (tag : Option TagText) (text : String)
  | sequence (items : List Node)
  | mapping (entries : List (Node × Node))
  /-- A node that is given a name. -/
  | anchored (name : String) (node : Node)
  | reference (name : String)
  deriving Repr, Inhabited

/-- What stands in front of a node. -/
structure Properties where
  /-- The name that it is given. -/
  anchor : Option String := none
  /-- Its tag, in which no handle is left. -/
  tag : Option TagText := none
  deriving DecidableEq, Repr

/-- Reads what stands in front of a node, in either order. -/
def Properties.read : List Token → Properties × List Token
  | .anchor name :: .tag _ text :: tokens | .tag _ text :: .anchor name :: tokens =>
    ({ anchor := some name, tag := some text }, tokens)
  | .anchor name :: tokens => ({ anchor := some name }, tokens)
  | .tag _ text :: tokens => ({ tag := some text }, tokens)
  | tokens => ({}, tokens)

namespace Node

/-- A node that is left out. -/
def empty : Node :=
  scalar .plain none ""

/-- A node with a name, if there is one. -/
def named (name : Option String) (node : Node) : Node :=
  match name with
  | some name => anchored name node
  | none => node

/-- The node that starts at the front of tokens, and the tokens behind it. -/
abbrev Reading :=
  Option (Node × List Token)

/-- Whether tokens start with one of several. -/
def startsWith (marks : List Token) (tokens : List Token) : Bool :=
  tokens.head?.any marks.contains

/-- The tokens in front of which a key or value of a block mapping is left out. -/
def blockEntryMarks : List Token :=
  [.key, .value, .blockEnd]

/-- The tokens in front of which an item of a sequence that is not indented is left out. -/
def flushItemMarks : List Token :=
  [.blockItem, .key, .value, .blockEnd]

/-- The tokens behind a separator of a flow collection, or its end. -/
def afterSeparator? (isFirst : Bool) : List Token → Option (List Token)
  | .flowSeparator :: tokens => if isFirst then some (.flowSeparator :: tokens) else some tokens
  | tokens => if isFirst then some tokens else none

/-- Reads a node that is left out behind what stands in front of it. -/
def readNothing (properties : Properties) (tokens : List Token) : Reading :=
  if properties = {} then none else some (scalar .plain properties.tag "", tokens)

mutual

/-- Reads a node. Inside of flow collections there are no blocks (`inBlock` is false); a sequence
that is the key or value of a block mapping need not be indented (`mayBeFlush`). The recursion is at
most `bound` calls deep; a token takes at most five of them. -/
def readWithin (bound : Nat) (inBlock mayBeFlush : Bool) (tokens : List Token) : Reading :=
  match bound, tokens with
  | 0, _ => none
  | _ + 1, .reference name :: tokens => some (reference name, tokens)
  | bound + 1, tokens => do
    let (properties, tokens) := Properties.read tokens
    let (node, tokens) ← readContent bound properties inBlock mayBeFlush tokens
    return (named properties.anchor node, tokens)

/-- Reads a node behind what stands in front of it. The tag `!` says nothing about a scalar. A node
of which nothing but its properties is there is an empty scalar. -/
def readContent (bound : Nat) (properties : Properties) (inBlock mayBeFlush : Bool)
    (tokens : List Token) : Reading :=
  match bound, tokens with
  | 0, _ => none
  | _ + 1, .scalar text style :: tokens =>
    some (scalar style (properties.tag.filter (· != [some '!'])) text, tokens)
  | bound + 1, .flowSequence :: tokens => readFlowItems bound true [] tokens
  | bound + 1, .flowMapping :: tokens => readFlowEntries bound true [] tokens
  | bound + 1, token :: others =>
    if token = .blockItem && mayBeFlush then readFlushItems bound [] tokens
    else if token = .blockSequence && inBlock then readBlockItems bound [] others
    else if token = .blockMapping && inBlock then readBlockEntries bound [] others
    else readNothing properties tokens
  | _ + 1, [] => readNothing properties []

/-- Reads a node that may be left out in front of the `marks`. -/
def readUnless (bound : Nat) (marks : List Token) (inBlock mayBeFlush : Bool)
    (tokens : List Token) : Reading :=
  match bound with
  | 0 => none
  | bound + 1 =>
    if startsWith marks tokens then some (empty, tokens)
    else readWithin bound inBlock mayBeFlush tokens

/-- Reads the items of a block sequence behind the `done` ones, which are in reverse. -/
def readBlockItems (bound : Nat) (done : List Node) (tokens : List Token) : Reading :=
  match bound, tokens with
  | _, .blockEnd :: tokens => some (sequence done.reverse, tokens)
  | bound + 1, .blockItem :: tokens => do
    let (item, tokens) ← readUnless bound [.blockItem, .blockEnd] true false tokens
    readBlockItems bound (item :: done) tokens
  | _, _ => none

/-- Reads the items of a sequence that is not indented. -/
def readFlushItems (bound : Nat) (done : List Node) (tokens : List Token) : Reading :=
  match bound, tokens with
  | bound + 1, .blockItem :: tokens => do
    let (item, tokens) ← readUnless bound flushItemMarks true false tokens
    readFlushItems bound (item :: done) tokens
  | 0, .blockItem :: _ => none
  | _, tokens => some (sequence done.reverse, tokens)

/-- Reads the value of an entry, which is left out without its indicator. -/
def readValue (bound : Nat) (marks : List Token) (inBlock : Bool) (tokens : List Token) : Reading :=
  match bound, tokens with
  | bound + 1, .value :: tokens => readUnless bound marks inBlock inBlock tokens
  | _, tokens => some (empty, tokens)

/-- Reads the entries of a block mapping. -/
def readBlockEntries (bound : Nat) (done : List (Node × Node)) (tokens : List Token) : Reading :=
  match bound, tokens with
  | _, .blockEnd :: tokens => some (mapping done.reverse, tokens)
  | bound + 1, .key :: tokens => do
    let (key, tokens) ← readUnless bound blockEntryMarks true true tokens
    let (value, tokens) ← readValue bound blockEntryMarks true tokens
    readBlockEntries bound ((key, value) :: done) tokens
  | _, _ => none

/-- Reads the items of a flow sequence. An item with a key is a mapping of one entry; where its key
is left out, the token in its place is passed over. -/
def readFlowItems (bound : Nat) (isFirst : Bool) (done : List Node) (tokens : List Token) :
    Reading :=
  match bound, tokens with
  | _, .flowSequenceEnd :: tokens => some (sequence done.reverse, tokens)
  | 0, _ => none
  | bound + 1, tokens => do
    match ← afterSeparator? isFirst tokens with
    | .flowSequenceEnd :: tokens => some (sequence done.reverse, tokens)
    | .key :: tokens =>
      let (key, tokens) ←
        if startsWith [.value, .flowSeparator, .flowSequenceEnd] tokens then
          some (empty, tokens.tail)
        else readWithin bound false false tokens
      let (value, tokens) ← readValue bound [.flowSeparator, .flowSequenceEnd] false tokens
      readFlowItems bound false (mapping [(key, value)] :: done) tokens
    | tokens =>
      let (item, tokens) ← readWithin bound false false tokens
      readFlowItems bound false (item :: done) tokens

/-- Reads the entries of a flow mapping. -/
def readFlowEntries (bound : Nat) (isFirst : Bool) (done : List (Node × Node))
    (tokens : List Token) : Reading :=
  match bound, tokens with
  | _, .flowMappingEnd :: tokens => some (mapping done.reverse, tokens)
  | 0, _ => none
  | bound + 1, tokens => do
    match ← afterSeparator? isFirst tokens with
    | .flowMappingEnd :: tokens => some (mapping done.reverse, tokens)
    | .key :: tokens =>
      let (key, tokens) ←
        readUnless bound [.value, .flowSeparator, .flowMappingEnd] false false tokens
      let (value, tokens) ← readValue bound [.flowSeparator, .flowMappingEnd] false tokens
      readFlowEntries bound false ((key, value) :: done) tokens
    | tokens =>
      let (key, tokens) ← readWithin bound false false tokens
      readFlowEntries bound false ((key, empty) :: done) tokens

end

/-- Reads a node of a document that may be left out. -/
def read? (tokens : List Token) : Reading :=
  readUnless (5 * (tokens.length + 1)) [.documentStart, .documentEnd] true false tokens

/-- Reads the content of a document behind its mark. -/
def readMarked? : List Token → Reading
  | [] => some (empty, [])
  | tokens => read? tokens

/-! ### Directives -/

/-- What handles stand for without a directive. -/
def coreHandles : List (String × TagText) :=
  [("!", [some '!']), ("!!", coreTag "")]

/-- Reads the directives of a document and its mark: its version and what handles stand for, neither
of them more than once. -/
def readDirectives? (hasVersion : Bool) (handles : List (String × TagText)) :
    List Token → Option (List (String × TagText) × List Token)
  | .version major minor :: tokens =>
    if !hasVersion && major = 1 && (minor = 1 || minor = 2) then
      readDirectives? true handles tokens
    else none
  | .handle name text :: tokens =>
    if (handles.lookup name).isSome then none
    else readDirectives? hasVersion (handles ++ [(name, text)]) tokens
  | .documentStart :: tokens => some (handles ++ coreHandles, tokens)
  | _ => none

/-- The token without the handle of a tag. -/
def expandHandle? (handles : List (String × TagText)) : Token → Option Token
  | .tag "" text => some (.tag "" text)
  | .tag handle suffix => (handles.lookup handle).map fun text => .tag "" (text ++ suffix)
  | token => some token

/-- The content of the only document that tokens stand for. A document may start with its mark, in
front of which its directives may stand, and has content unless it does. -/
def ofTokens? (tokens : List Token) : Option Node := do
  let (node, tokens) ←
    match tokens with
    | [] => some (empty, [])
    | .documentEnd :: _ => none
    | .version .. :: _ | .handle .. :: _ | .documentStart :: _ => do
      let (handles, tokens) ← readDirectives? false [] tokens
      readMarked? (← tokens.mapM (expandHandle? handles))
    | tokens => do read? (← tokens.mapM (expandHandle? coreHandles))
  if tokens.all (· == .documentEnd) then return node else none

end Node

/-! ### References -/

/-- A node in which references are by number. -/
inductive Value
  | scalar (style : Style) (tag : Option TagText) (text : String)
  | sequence (items : List Value)
  | mapping (entries : List (Value × Value))
  | reference (number : Nat)
  deriving Repr, Inhabited

/-- What becomes of something when its names are replaced. -/
structure Linked (α : Type) where
  /-- The thing with numbers for names. -/
  content : α
  /-- The numbers of the names that were given, each name once. -/
  numbers : List (String × Nat)
  /-- The values in it with their numbers, in the order in which they start. -/
  targets : List (Nat × Value) := []

namespace Node

mutual

/-- Replaces the names in a node. A name has to be given before it is used. -/
def link? (numbers : List (String × Nat)) : Node → Option (Linked Value)
  | scalar style tag text => some { content := .scalar style tag text, numbers }
  | sequence items => do
    let linked ← linkAll? numbers items
    return { linked with content := .sequence linked.content }
  | mapping entries => do
    let linked ← linkEntries? numbers entries
    return { linked with content := .mapping linked.content }
  | anchored name node => do
    let number := numbers.length
    let linked ← node.link? ((name, number) :: numbers.filter (·.1 != name))
    return { linked with targets := (number, linked.content) :: linked.targets }
  | reference name => do return { content := .reference (← numbers.lookup name), numbers }

/-- Replaces the names in nodes, one after the other. -/
def linkAll? (numbers : List (String × Nat)) : List Node → Option (Linked (List Value))
  | [] => some { content := [], numbers }
  | node :: nodes => do
    let first ← node.link? numbers
    let others ← linkAll? first.numbers nodes
    return { others with
      content := first.content :: others.content
      targets := first.targets ++ others.targets }

/-- Replaces the names in the entries of a mapping. -/
def linkEntries? (numbers : List (String × Nat)) :
    List (Node × Node) → Option (Linked (List (Value × Value)))
  | [] => some { content := [], numbers }
  | (key, value) :: entries => do
    let first ← key.link? numbers
    let second ← value.link? first.numbers
    let others ← linkEntries? second.numbers entries
    return { others with
      content := (first.content, second.content) :: others.content
      targets := first.targets ++ second.targets ++ others.targets }

end

end Node

/-- A value in a document. -/
structure Document where
  /-- The value. -/
  value : Value
  /-- The values that are referred to, by their numbers; of several with one number the first
  counts. -/
  targets : List (Nat × Value)

namespace Document

/-- The document of a node. -/
def ofNode? (node : Node) : Option Document := do
  let linked ← node.link? []
  return { value := linked.content, targets := linked.targets.reverse }

/-- Another value in the document. -/
def withValue (d : Document) (value : Value) : Document :=
  { d with value }

/-- The value, or what it refers to. What is referred to is no reference itself. -/
def content (d : Document) : Value :=
  match d.value with
  | .reference number => (d.targets.lookup number).getD d.value
  | value => value

end Document

/-- The only document of a text. -/
def readDocument? (text : String) : Option Document := do
  Document.ofNode? (← Node.ofTokens? (← tokens? text))

end HandlerDocs.Yaml
