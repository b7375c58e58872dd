import HandlerDocs.Toml.Literal

/-!
# TOML assignments

A text is read as assignments `key = value`, one on a line, with blank lines and comments between
them. Values are strings, whole numbers, truth values and arrays; tables and the other kinds of
values have no place here and are refused like any malformed text.

* `readAssignments?` — the assignments of a text, in order; no key occurs twice.
-/

namespace HandlerDocs.Toml

/-- The values of keys. -/
inductive Value
  | text (s : String)
  | integer (n : Int)
  | truth (b : Bool)
  | array (items : List Value)
  deriving Repr, Inhabited

/-! ### Blanks and comments -/

/-- Whether a comment may go on with a character. -/
def isCommentChar (c : Char) : Bool :=
  isTextChar c

/-- The text behind a comment that may stand at the front. -/
def dropComment : List Char → List Char
  | '#' :: rest => rest.dropWhile isCommentChar
  | s => s

/-- The text behind the end of a line, if the line has nothing more but spaces and a comment. -/
def endLine? (s : List Char) : Option (List Char) :=
  match dropComment (s.dropWhile isSpace) with
  | [] => some []
  | '\n' :: rest | '\r' :: '\n' :: rest => some rest
  | _ => none

/-- Drops spaces, line breaks and comments at the front of a text; inside a comment (`inComment`)
only a line break ends it. A text has no end inside an array, so that a comment in its last line is
as bad as any other text there. -/
def dropFiller (inComment : Bool) : List Char → List Char
  | [] => []
  | '\r' :: '\n' :: rest => dropFiller false rest
  | c :: rest =>
    if c = '\n' then dropFiller false rest
    else if inComment then if isCommentChar c then dropFiller true rest else c :: rest
    else if c = '#' then dropFiller true rest
    else if isSpace c then dropFiller false rest
    else c :: rest

/-! ### Values -/

/-- Whether a number or a truth value may have a character. -/
def isWordChar (c : Char) : Bool :=
  c.isAlphanum || c == '_' || c == '+' || c == '-' || c == '.' || c == ':'

/-- The value that a word stands for. -/
def wordValue? (word : List Char) : Option Value :=
  if word = ['t', 'r', 'u', 'e'] then some (.truth true)
  else if word = ['f', 'a', 'l', 's', 'e'] then some (.truth false)
  else (readInteger? word).map .integer

mutual

/-- Reads a value off the front of a text. The recursion is at most `bound` calls deep; a character
takes at most two of them. -/
def readValueWithin? (bound : Nat) (s : List Char) : Option (Value × List Char) :=
  match bound, s with
  | 0, _ => none
  | bound + 1, '[' :: rest => do
    let (items, rest) ← readItemsWithin? bound (dropFiller false rest)
    return (.array items, rest)
  | _ + 1, '"' :: rest => do
    let (value, rest) ← readString? ('"' :: rest)
    return (.text (String.ofList value), rest)
  | _ + 1, '\'' :: rest => do
    let (value, rest) ← readString? ('\'' :: rest)
    return (.text (String.ofList value), rest)
  | _ + 1, s => do
    return (← wordValue? (s.takeWhile isWordChar), s.dropWhile isWordChar)

/-- Reads the items of an array up to its closing bracket. -/
def readItemsWithin? (bound : Nat) (s : List Char) : Option (List Value × List Char) :=
  match bound, s with
  | 0, _ => none
  | _ + 1, ']' :: rest => some ([], rest)
  | bound + 1, s => do
    let (item, rest) ← readValueWithin? bound s
    match dropFiller false rest with
    | ',' :: rest =>
      let (items, rest) ← readItemsWithin? bound (dropFiller false rest)
      return (item :: items, rest)
    | ']' :: rest => return ([item], rest)
    | _ => none

end

/-! ### Assignments -/

/-- Whether an unquoted key may have a character. -/
def isKeyChar (c : Char) : Bool :=
  c.isAlphanum || c == '_' || c == '-'

/-- Reads a key off the front of a text. -/
def readKey? (s : List Char) : Option (String × List Char) :=
  match s with
  | '"' :: _ | '\'' :: _ => do
    let (key, rest) ← readShortString? s
    return (String.ofList key, rest)
  | _ =>
    match s.takeWhile isKeyChar with
    | [] => none
    | key => some (String.ofList key, s.dropWhile isKeyChar)

/-- Reads an assignment off the front of a text, with the end of its line. -/
def readAssignment? (s : List Char) : Option ((String × Value) × List Char) := do
  let (key, rest) ← readKey? s
  match rest.dropWhile isSpace with
  | '=' :: rest =>
    let (value, rest) ← readValueWithin? (2 * s.length) (rest.dropWhile isSpace)
    return ((key, value), ← endLine? rest)
  | _ => none

/-- Reads the lines of a text with fewer than `bound` characters. The `seen` keys have a value. -/
def readLinesWithin? (bound : Nat) (seen : List String) (s : List Char) :
    Option (List (String × Value)) :=
  match bound with
  | 0 => none
  | bound + 1 =>
    match s.dropWhile isSpace with
    | [] => some []
    | '#' :: rest => do readLinesWithin? bound seen (← endLine? ('#' :: rest))
    | '\n' :: rest | '\r' :: '\n' :: rest => readLinesWithin? bound seen rest
    | s => do
      let ((key, value), rest) ← readAssignment? s
      if key ∈ seen then none
      else return (key, value) :: (← readLinesWithin? bound (key :: seen) rest)

/-- The assignments of a text. A byte order mark may stand at its front. -/
def readAssignments? (text : String) : Option (List (String × Value)) :=
  let s := match text.toList with
    | '\ufeff' :: rest => rest
    | s => s
  readLinesWithin? (s.length + 1) [] s

end HandlerDocs.Toml
