import HandlerDocs.Text.Alphanumeric
import HandlerDocs.Text.Basic
import HandlerDocs.TypeRef.Basic

/-!
# Reading type text

The text of a type is, blanks between its parts aside:

* `?`, alone or with a bound; `? extends T` reads as `T`, and `? super T` as a wildcard;
* a dotted name, then perhaps arguments between `<` and `>`, then any number of `[]` or `...`, each
  of which makes an array. A primitive keyword without arguments is that primitive type.

Reading goes from left to right and never has to undo a decision, so every failure is one place in
the text at which no further character fits: the **rest** of the text from there on. The offset and
the character of a `TypeTextError` are read off that rest.

* `TypeRef.parse` — reads a whole text.
* `TypeRef.readType` — reads a type off the front of a text.
* `TypeTextError.message` — the wording of the failures.
-/

namespace HandlerDocs

/-- Why a text is not the text of a type. -/
inductive TypeTextError
  /-- There are only blanks. -/
  | empty
  /-- The character at an offset does not fit. -/
  | unexpected (found : Char) (offset : Nat) (text : String)
  /-- More characters are needed. -/
  | unexpectedEnd (text : String)
  deriving DecidableEq, Repr

namespace TypeTextError

/-- The failure of reading a text that got stuck in front of a rest. -/
def ofRest (text : String) : List Char → TypeTextError
  | [] => unexpectedEnd text
  | c :: r => unexpected c (text.toList.length - (c :: r).length) text

/-- The wording of a failure. -/
def message : TypeTextError → String
  | empty => "Empty type reference"
  | unexpected found offset text =>
    "Unexpected character '" ++ found.toString ++ "' at offset " ++ toString offset ++
      " in type '" ++ text ++ "'"
  | unexpectedEnd text => "Unexpected end of type '" ++ text ++ "'"

end TypeTextError

namespace TypeRef

open Text

/-! ### Names -/

/-- Whether an identifier may start with a character. -/
def isIdentifierStart (c : Char) : Bool :=
  isAlphabetic c || c == '_' || c == '$'

/-- Whether an identifier may go on with a character. -/
def isIdentifierPart (c : Char) : Bool :=
  isAlphanumeric c || c == '_' || c == '$'

/-- What an identifier may start with, it may also go on with. -/
theorem isIdentifierPart_of_start {c : Char} (h : isIdentifierStart c = true) :
    isIdentifierPart c = true := by
  simp only [isIdentifierStart, isIdentifierPart, isAlphanumeric, Bool.or_eq_true] at *
  rcases h with (h | h) | h <;> simp [h]

/-- The result of reading off the front of a text: what was read with the text behind it, or the
rest of the text at which reading got stuck. -/
abbrev Reading :=
  Except (List Char)

/-- Reads the rest of a dotted name behind its first character. Three dots in a row belong to the
array marks and end the name. -/
def readNameRest : List Char → Reading (List Char × List Char)
  | '.' :: '.' :: '.' :: r => .ok ([], '.' :: '.' :: '.' :: r)
  | '.' :: c :: r =>
    if isIdentifierStart c then do
      let (more, r) ← readNameRest r
      return ('.' :: c :: more, r)
    else .error (c :: r)
  | ['.'] => .error []
  | c :: r =>
    if isIdentifierPart c then do
      let (more, r) ← readNameRest r
      return (c :: more, r)
    else .ok ([], c :: r)
  | [] => .ok ([], [])

/-- The type with a name and arguments: a primitive keyword without arguments is a primitive
type. -/
def ofName (name : String) (arguments : List TypeRef) : TypeRef :=
  match arguments, Primitive.ofKeyword? name with
  | [], some p => .primitive p
  | arguments, _ => .named name arguments

/-! ### Array marks -/

/-- Reads array marks and the blanks around them, and counts them. Inside a bracket (`isOpen`) only
its end is left to come. -/
def readDimensions (isOpen : Bool) : List Char → Reading (Nat × List Char)
  | [] => if isOpen then .error [] else .ok (0, [])
  | '.' :: '.' :: '.' :: r =>
    if isOpen then .error ('.' :: '.' :: '.' :: r)
    else do
      let (count, r) ← readDimensions false r
      return (count + 1, r)
  | c :: r =>
    if isBlank c then readDimensions isOpen r
    else if isOpen then
      if c = ']' then do
        let (count, r) ← readDimensions false r
        return (count + 1, r)
      else .error (c :: r)
    else if c = '[' then readDimensions true r
    else .ok (0, c :: r)

/-- An array with a number of layers around an element. -/
def arrayed (element : TypeRef) : Nat → TypeRef
  | 0 => element
  | layers + 1 => .array (element.arrayed layers)

/-! ### Types -/

mutual

/-- Reads a type off the front of a text with fewer than `bound` characters. -/
def readTypeWithin (bound : Nat) (s : List Char) : Reading (TypeRef × List Char) :=
  match bound, trimStart s with
  | 0, rest => .error rest
  | _, [] => .error []
  | bound + 1, '?' :: r => readWildcardWithin bound (trimStart r)
  | bound + 1, c :: r =>
    if isIdentifierStart c then do
      let (more, r) ← readNameRest r
      let (arguments, r) ← readArgumentsWithin bound (trimStart r)
      let (layers, r) ← readDimensions false r
      return ((ofName (String.ofList (c :: more)) arguments).arrayed layers, r)
    else .error (c :: r)

/-- Reads what may follow the `?` of a wildcard: a bound, or nothing at all. -/
def readWildcardWithin (bound : Nat) (s : List Char) : Reading (TypeRef × List Char) :=
  match bound with
  | 0 => .ok (.wildcard, s)
  | bound + 1 =>
    if s.takeWhile isIdentifierPart = ['e', 'x', 't', 'e', 'n', 'd', 's'] then
      readTypeWithin bound (s.dropWhile isIdentifierPart)
    else if s.takeWhile isIdentifierPart = ['s', 'u', 'p', 'e', 'r'] then do
      let (_, r) ← readTypeWithin bound (s.dropWhile isIdentifierPart)
      return (.wildcard, r)
    else .ok (.wildcard, s)

/-- Reads the arguments that may follow a name. -/
def readArgumentsWithin (bound : Nat) (s : List Char) : Reading (List TypeRef × List Char) :=
  match bound, s with
  | bound + 1, '<' :: r =>
    match trimStart r with
    | '>' :: r => .ok ([], r)
    | r => do
      let (argument, r) ← readTypeWithin bound r
      let (more, r) ← readMoreArgumentsWithin bound (trimStart r)
      return (argument :: more, r)
  | _, s => .ok ([], s)

/-- Reads the arguments behind the first one, up to the closing bracket. -/
def readMoreArgumentsWithin (bound : Nat) (s : List Char) : Reading (List TypeRef × List Char) :=
  match bound, s with
  | 0, rest => .error rest
  | _ + 1, '>' :: r => .ok ([], r)
  | bound + 1, ',' :: r => do
    let (argument, r) ← readTypeWithin bound r
    let (more, r) ← readMoreArgumentsWithin bound (trimStart r)
    return (argument :: more, r)
  | _ + 1, rest => .error rest

end

/-- Reads a type off the front of a text. Every step of the grammar takes at least one character, so
the number of characters bounds the steps. -/
def readType (s : List Char) : Reading (TypeRef × List Char) :=
  readTypeWithin (s.length + 1) s

/-- Reads a text as a type. Blanks may surround it, nothing else may follow it. -/
def parse (text : String) : Except TypeTextError TypeRef :=
  if allBlank text.toList then .error .empty
  else
    match readType text.toList with
    | .error rest => .error (.ofRest text rest)
    | .ok (type, r) =>
      match trimStart r with
      | [] => .ok type
      | rest => .error (.ofRest text rest)

end TypeRef

end HandlerDocs
