/-!
# YAML scalars

A scalar is a text in one of five styles. Inside a scalar that spans lines, the **gap** between two
words is folded: a single break becomes a space, and of several breaks all but the first stay.

* `isTextChar` — the characters that a text may have.
* `isBreak`, `lineBreak` — the ends of lines, and how they are kept in the text of a scalar.
* `Place` — a place in a text, by line, column and byte.
* `readQuoted?` — scalars between single or double quotes.
* `readPlain?` — scalars without quotes.
* `readBlock?` — scalars on indented lines of their own, kept (`|`) or folded (`>`).
-/

namespace HandlerDocs.Yaml

/-! ### Characters and lines -/

/-- Whether a text may have a character: everything but most of the controls. -/
def isTextChar (c : Char) : Bool :=
  let n := c.toNat
  n = 0x09 || n = 0x0A || n = 0x0D || (0x20 ≤ n && n ≤ 0x7E) || n = 0x85 ||
    (0xA0 ≤ n && n ≤ 0xFFFD) || 0x10000 ≤ n

/-- Whether a character ends a line. -/
def isBreak (c : Char) : Bool :=
  c = '\r' || c = '\n' || c = '\u0085' || c = '\u2028' || c = '\u2029'

/-- Whether a character is a space or a tab. -/
def isBlank (c : Char) : Bool :=
  c = ' ' || c = '\t'

/-- Whether the text ends or has a blank or a break at its front. -/
def startsBlank : List Char → Bool
  | [] => true
  | c :: _ => isBlank c || isBreak c

/-- The end of a line as it is kept in a scalar: only the two separators of Unicode stay as they
are. -/
def lineBreak (c : Char) : Char :=
  if c = '\u2028' || c = '\u2029' then c else '\n'

/-- Whether a text starts with the mark of the start or the end of a document. -/
def startsDocumentMark : List Char → Bool
  | '-' :: '-' :: '-' :: rest => startsBlank rest
  | '.' :: '.' :: '.' :: rest => startsBlank rest
  | _ => false

/-- A place in a text. -/
structure Place where
  /-- The number of bytes before it. -/
  byte : Nat := 0
  /-- The number of lines before it. -/
  line : Nat := 0
  /-- The number of characters before it in its line. -/
  column : Nat := 0
  deriving DecidableEq, Repr

/-- The place behind one character. -/
def Place.next (place : Place) (c : Char) : Place :=
  if isBreak c then ⟨place.byte + c.utf8Size, place.line + 1, 0⟩
  else { place with byte := place.byte + c.utf8Size, column := place.column + 1 }

/-- The place behind a number of characters of a text. A carriage return with a line feed is one
break. -/
def Place.advance (place : Place) : Nat → List Char → Place
  | 0, _ | _, [] => place
  | n + 1, '\r' :: '\n' :: rest =>
    advance { place with byte := place.byte + 1 } n ('\n' :: rest)
  | n + 1, c :: rest => advance (place.next c) n rest

/-! ### Gaps -/

/-- What was read since the last word. -/
inductive Gap
  /-- Nothing. -/
  | none
  /-- Blanks on one line. -/
  | blanks (text : List Char)
  /-- The end of a line, unless it was escaped, and the ends of the empty lines behind it. -/
  | breaks (first : Option Char) (more : List Char)
  deriving DecidableEq, Repr

namespace Gap

/-- The gap with one more blank; blanks at the start of a line do not count. -/
def addBlank (c : Char) : Gap → Gap
  | none => blanks [c]
  | blanks text => blanks (text ++ [c])
  | breaks first more => breaks first more

/-- The gap with one more end of a line; blanks before it do not count. -/
def addBreak (c : Char) : Gap → Gap
  | none | blanks _ => breaks (some (lineBreak c)) []
  | breaks first more => breaks first (more ++ [lineBreak c])

/-- The text that a gap stands for. -/
def folded : Gap → List Char
  | none => []
  | blanks text => text
  | breaks (some '\n') [] => [' ']
  | breaks (some '\n') more => more
  | breaks (some c) more => c :: more
  | breaks Option.none more => more

/-- Whether a gap has the end of a line. -/
def hasBreak : Gap → Bool
  | breaks _ _ => true
  | _ => false

end Gap

/-- The text of a scalar and the text behind it. -/
abbrev ScalarReading :=
  Option (List Char × List Char)

/-- Puts text in front of what was read. -/
def appendTo (s : List Char) (reading : ScalarReading) : ScalarReading :=
  reading.map fun (text, rest) => (s ++ text, rest)

/-! ### Quoted scalars -/

/-- The value of a hexadecimal digit. -/
def hexValue? (c : Char) : Option Nat :=
  if c.isDigit then some (c.toNat - '0'.toNat)
  else if 'a' ≤ c ∧ c ≤ 'f' then some (c.toNat - 'a'.toNat + 10)
  else if 'A' ≤ c ∧ c ≤ 'F' then some (c.toNat - 'A'.toNat + 10)
  else none

/-- The character whose code is written in hexadecimal digits. -/
def codedChar? (digits : List Char) : Option Char := do
  let code ← digits.foldlM (fun n c => (hexValue? c).map (n * 16 + ·)) 0
  if h : code.isValidChar then some (Char.ofNatAux code h) else none

/-- The character that a letter behind a backslash stands for. -/
def escapedChar? : Char → Option Char
  | '0' => some '\x00'
  | 'a' => some '\x07'
  | 'b' => some '\x08'
  | 't' | '\t' => some '\t'
  | 'n' => some '\n'
  | 'v' => some '\x0b'
  | 'f' => some '\x0c'
  | 'r' => some '\r'
  | 'e' => some '\x1b'
  | ' ' => some ' '
  | '"' => some '"'
  | '/' => some '/'
  | '\\' => some '\\'
  | 'N' => some '\u0085'
  | '_' => some '\u00a0'
  | 'L' => some '\u2028'
  | 'P' => some '\u2029'
  | _ => none

/-- Reads an escaped character in front of what was read. -/
def appendEscaped (gap : Gap) (c : Option Char) (reading : ScalarReading) : ScalarReading :=
  c.bind fun c => appendTo (gap.folded ++ [c]) reading

/-- Reads a scalar between single quotes behind its opening quote. The mark of a document must not
stand at the start of a line. -/
def readSingleQuoted? (lineStart : Bool) (gap : Gap) (s : List Char) : ScalarReading :=
  if lineStart && startsDocumentMark s then none
  else
    match s with
    | [] => none
    | '\'' :: '\'' :: rest =>
      appendTo (gap.folded ++ ['\'']) (readSingleQuoted? false .none rest)
    | '\'' :: rest => some (gap.folded, rest)
    | '\r' :: '\n' :: rest => readSingleQuoted? true (gap.addBreak '\n') rest
    | c :: rest =>
      if isBreak c then readSingleQuoted? true (gap.addBreak c) rest
      else if isBlank c then readSingleQuoted? false (gap.addBlank c) rest
      else appendTo (gap.folded ++ [c]) (readSingleQuoted? false .none rest)

/-- Reads a scalar between double quotes behind its opening quote. -/
def readDoubleQuoted? (lineStart : Bool) (gap : Gap) (s : List Char) : ScalarReading :=
  if lineStart && startsDocumentMark s then none
  else
    match s with
    | [] => none
    | '"' :: rest => some (gap.folded, rest)
    | '\\' :: '\r' :: '\n' :: rest =>
      appendTo gap.folded (readDoubleQuoted? true (.breaks none []) rest)
    | '\\' :: 'x' :: a :: b :: rest =>
      appendEscaped gap (codedChar? [a, b]) (readDoubleQuoted? false .none rest)
    | '\\' :: 'u' :: a :: b :: c :: d :: rest =>
      appendEscaped gap (codedChar? [a, b, c, d]) (readDoubleQuoted? false .none rest)
    | '\\' :: 'U' :: a :: b :: c :: d :: e :: f :: g :: h :: rest =>
      appendEscaped gap (codedChar? [a, b, c, d, e, f, g, h]) (readDoubleQuoted? false .none rest)
    | '\\' :: c :: rest =>
      if isBreak c then appendTo gap.folded (readDoubleQuoted? true (.breaks none []) rest)
      else appendEscaped gap (escapedChar? c) (readDoubleQuoted? false .none rest)
    | '\r' :: '\n' :: rest => readDoubleQuoted? true (gap.addBreak '\n') rest
    | c :: rest =>
      if isBreak c then readDoubleQuoted? true (gap.addBreak c) rest
      else if isBlank c then readDoubleQuoted? false (gap.addBlank c) rest
      else appendTo (gap.folded ++ [c]) (readDoubleQuoted? false .none rest)

/-- Reads a quoted scalar off the front of a text. -/
def readQuoted? : List Char → ScalarReading
  | '\'' :: rest => readSingleQuoted? false .none rest
  | '"' :: rest => readDoubleQuoted? false .none rest
  | _ => none

/-! ### Plain scalars -/

/-- Whether a character separates the parts of flow collections. -/
def isFlowIndicator (c : Char) : Bool :=
  c = ',' || c = '[' || c = ']' || c = '\x7b' || c = '\x7d'

/-- Whether a plain scalar ends in front of a text: at a colon with a blank behind it, and inside
flow collections at their separators. -/
def endsPlain (inFlow : Bool) : List Char → Bool
  | [] => true
  | ':' :: rest => startsBlank rest
  | c :: _ => inFlow && isFlowIndicator c

/-- Whether a text has a colon that a flow collection does not allow inside a plain scalar. -/
def startsBadColon (inFlow : Bool) : List Char → Bool
  | ':' :: c :: _ => inFlow && (isFlowIndicator c || c = '?')
  | _ => false

/-- Whether a plain scalar ends behind a gap: where a comment, the mark of a document or a line of
outer blocks starts. -/
def endsBehindGap (inFlow : Bool) (indent column : Nat) : List Char → Bool
  | [] => true
  | '#' :: _ => true
  | s => (!inFlow && column < indent) || (column = 0 && startsDocumentMark s)

/-- Reads a plain scalar. Its lines behind the first are indented by `indent` columns. The result
tells also whether the scalar ended behind the end of a line. -/
def readPlain? (inFlow : Bool) (indent column : Nat) (gap : Gap) (s : List Char) :
    Option (List Char × List Char × Bool) :=
  match s with
  | [] => some ([], [], gap.hasBreak)
  | '\r' :: '\n' :: rest => readPlain? inFlow indent 0 (gap.addBreak '\n') rest
  | c :: rest =>
    if isBreak c then readPlain? inFlow indent 0 (gap.addBreak c) rest
    else if isBlank c then
      if gap.hasBreak && column < indent && c = '\t' then none
      else readPlain? inFlow indent (column + 1) (gap.addBlank c) rest
    else if gap ≠ .none && endsBehindGap inFlow indent column (c :: rest) then
      some ([], c :: rest, gap.hasBreak)
    else if startsBadColon inFlow (c :: rest) then none
    else if endsPlain inFlow (c :: rest) then some ([], c :: rest, gap.hasBreak)
    else
      (readPlain? inFlow indent (column + 1) .none rest).map fun (text, rest, atLineEnd) =>
        (gap.folded ++ c :: text, rest, atLineEnd)

/-! ### Block scalars -/

/-- What happens to the breaks at the end of a block scalar. -/
inductive Chomping
  /-- All go. -/
  | strip
  /-- The first stays. -/
  | clip
  /-- All stay. -/
  | keep
  deriving DecidableEq, Repr

/-- The line of a block scalar that is read next, given what was read before. -/
structure BlockState where
  /-- Whether lines are folded. -/
  folds : Bool
  /-- What happens at the end. -/
  chomping : Chomping
  /-- The indentation, or zero as long as it is not known. -/
  indent : Nat
  /-- The indentation of the block around the scalar. -/
  outer : Int
  /-- The break of the last line. -/
  lastBreak : List Char := []
  /-- The breaks of the empty lines behind the last line. -/
  emptyLines : List Char := []
  /-- Whether the last line starts with a blank. -/
  lastStartsBlank : Bool := false
  /-- The greatest column of the empty lines while the indentation is not known. -/
  widest : Nat := 0
  deriving DecidableEq, Repr

namespace BlockState

/-- The state with the indentation known. -/
def fixIndent (st : BlockState) (column : Nat) : BlockState :=
  if st.indent = 0 then
    { st with indent := max (max (max st.widest column) (st.outer + 1).toNat) 1 }
  else st

/-- The text between the last line and a line that starts with a character. -/
def between (st : BlockState) (c : Char) : List Char :=
  if st.folds && st.lastBreak == ['\n'] && !st.lastStartsBlank && !isBlank c then
    if st.emptyLines.isEmpty then [' '] else st.emptyLines
  else st.lastBreak ++ st.emptyLines

/-- The text behind the last line. -/
def tail (st : BlockState) : List Char :=
  match st.chomping with
  | .strip => []
  | .clip => st.lastBreak
  | .keep => st.lastBreak ++ st.emptyLines

/-- The state inside a line that starts with a character. -/
def enterLine (st : BlockState) (c : Char) : BlockState :=
  { st with lastBreak := [], emptyLines := [], lastStartsBlank := isBlank c }

/-- The state behind a line. -/
def leaveLine (st : BlockState) (c : Char) : BlockState :=
  { st with lastBreak := [lineBreak c] }

/-- The state behind an empty line. -/
def addEmptyLine (st : BlockState) (column : Nat) (c : Char) : BlockState :=
  { st with emptyLines := st.emptyLines ++ [lineBreak c], widest := max st.widest column }

end BlockState

/-- Reads the lines of a block scalar, either inside a line (`inLine`) or in front of one. -/
def readBlockLines? (st : BlockState) (inLine : Bool) (column : Nat) (s : List Char) :
    ScalarReading :=
  match s with
  | [] => some (st.tail, [])
  | '\r' :: '\n' :: rest =>
    if inLine then readBlockLines? (st.leaveLine '\n') false 0 rest
    else readBlockLines? (st.addEmptyLine column '\n') false 0 rest
  | c :: rest =>
    if isBreak c then
      if inLine then readBlockLines? (st.leaveLine c) false 0 rest
      else readBlockLines? (st.addEmptyLine column c) false 0 rest
    else if inLine then appendTo [c] (readBlockLines? st true (column + 1) rest)
    else if (st.indent = 0 || column < st.indent) && c = ' ' then
      readBlockLines? st false (column + 1) rest
    else if (st.indent = 0 || column < st.indent) && c = '\t' then none
    else
      let known := st.fixIndent column
      if column = known.indent then
        appendTo (known.between c ++ [c])
          (readBlockLines? (known.enterLine c) true (column + 1) rest)
      else some (known.tail, c :: rest)

/-- Reads the marks behind the indicator of a block scalar: how it ends and how far its lines are
indented, in any order. -/
def readBlockHeader? (s : List Char) : Option (Chomping × Nat × List Char) :=
  let chomping? : Char → Option Chomping
    | '+' => some .keep
    | '-' => some .strip
    | _ => none
  let digit? (c : Char) : Option Nat := if c.isDigit then some (c.toNat - '0'.toNat) else none
  match s with
  | [] => some (.clip, 0, [])
  | a :: rest =>
    match chomping? a, digit? a with
    | some chomping, _ =>
      match rest with
      | b :: rest' =>
        match digit? b with
        | some 0 => none
        | some n => some (chomping, n, rest')
        | none => some (chomping, 0, rest)
      | [] => some (chomping, 0, [])
    | none, some 0 => none
    | none, some n =>
      match rest with
      | b :: rest' =>
        match chomping? b with
        | some chomping => some (chomping, n, rest')
        | none => some (.clip, n, rest)
      | [] => some (.clip, n, [])
    | none, none => some (.clip, 0, s)

/-- The text behind the end of a line that has only blanks and a comment. -/
def endLine? (s : List Char) : Option (List Char) :=
  let rest := match s.dropWhile isBlank with
    | '#' :: rest => rest.dropWhile (!isBreak ·)
    | rest => rest
  match rest with
  | [] => some []
  | '\r' :: '\n' :: rest => some rest
  | c :: rest => if isBreak c then some rest else none

/-- Reads a block scalar behind its indicator, inside a block with an indentation. -/
def readBlock? (folds : Bool) (outer : Int) (s : List Char) : ScalarReading := do
  let (chomping, increment, rest) ← readBlockHeader? s
  let rest ← endLine? rest
  let indent := if increment = 0 then 0 else (max outer 0).toNat + increment
  readBlockLines? { folds, chomping, indent, outer } false 0 rest

end HandlerDocs.Yaml
