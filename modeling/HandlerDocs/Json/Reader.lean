import HandlerDocs.Json.Tree

/-!
# Reading JSON

* `readText` — reads a text as far as it is JSON.
* `readValue` — reads a value off the front of a text.
* `readString?` — reads a string.
-/

namespace HandlerDocs.Json

/-- Whether a character may stand between the parts of a text. -/
def isSpace (c : Char) : Bool :=
  c == ' ' || c == '\n' || c == '\t' || c == '\r'

/-- A text without the spaces at its front. -/
def dropSpace (s : List Char) : List Char :=
  s.dropWhile isSpace

/-! ### Strings -/

/-- The value of a hexadecimal digit. -/
def hexValue? (c : Char) : Option Nat :=
  if c.isDigit then some (c.toNat - '0'.toNat)
  else if 'a' ≤ c ∧ c ≤ 'f' then some (c.toNat - 'a'.toNat + 10)
  else if 'A' ≤ c ∧ c ≤ 'F' then some (c.toNat - 'A'.toNat + 10)
  else none

/-- The code written in four hexadecimal digits. -/
def codeUnit? (digits : List Char) : Option Nat :=
  digits.foldlM (fun n c => (hexValue? c).map (n * 16 + ·)) 0

/-- The character that a letter behind a backslash stands for. -/
def escapedChar? : Char → Option Char
  | '"' => some '"'
  | '\\' => some '\\'
  | '/' => some '/'
  | 'b' => some '\x08'
  | 'f' => some '\x0c'
  | 'n' => some '\n'
  | 'r' => some '\r'
  | 't' => some '\t'
  | _ => none

/-- Puts a code in front of what was read. -/
def cons? (code : Option Nat) (reading : Option (List Nat × List Char)) :
    Option (List Nat × List Char) := do
  let (codes, rest) ← reading
  return ((← code) :: codes, rest)

/-- Reads a string behind its opening quote, as codes of which some may be surrogates. -/
def readCodes? : List Char → Option (List Nat × List Char)
  | '"' :: rest => some ([], rest)
  | '\\' :: 'u' :: a :: b :: c :: d :: rest => cons? (codeUnit? [a, b, c, d]) (readCodes? rest)
  | '\\' :: c :: rest => cons? ((escapedChar? c).map Char.toNat) (readCodes? rest)
  | c :: rest => if c.toNat < 0x20 then none else cons? (some c.toNat) (readCodes? rest)
  | [] => none

/-- Whether a code is the first half of a pair of surrogates. -/
def isHighSurrogate (code : Nat) : Bool :=
  0xD800 ≤ code && code < 0xDC00

/-- Whether a code is the second half of a pair of surrogates. -/
def isLowSurrogate (code : Nat) : Bool :=
  0xDC00 ≤ code && code < 0xE000

/-- The characters of codes, when surrogates come in pairs only. -/
def chars? : List Nat → Option (List Char)
  | [] => some []
  | high :: low :: rest =>
    if isHighSurrogate high then
      if isLowSurrogate low then
        (chars? rest).map
          (Char.ofNat (0x10000 + (high - 0xD800) * 0x400 + (low - 0xDC00)) :: ·)
      else none
    else if isLowSurrogate high then none
    else (chars? (low :: rest)).map (Char.ofNat high :: ·)
  | [code] =>
    if isHighSurrogate code || isLowSurrogate code then none else some [Char.ofNat code]

/-- Reads a string behind its opening quote. -/
def readString (s : List Char) : Step :=
  match readCodes? s with
  | none => stuck
  | some (codes, rest) =>
    match chars? codes with
    | some chars => (.text (String.ofList chars), some rest)
    | none => (.unreadable, some rest)

/-! ### Values -/

/-- Reads a value that is spelled as a word. -/
def readWord (word : List Char) (value : Tree) (s : List Char) : Step :=
  if word.isPrefixOf s then (value, some (s.drop word.length)) else stuck

mutual

/-- Reads a value off the front of a text. The recursion is at most `bound` calls deep; a character
takes at most two of them. -/
def readValueWithin (bound : Nat) (s : List Char) : Step :=
  match bound, dropSpace s with
  | bound + 1, '[' :: rest => readItemsWithin bound [] (dropSpace rest)
  | bound + 1, '\x7b' :: rest => readEntriesWithin bound [] (dropSpace rest)
  | _, '"' :: rest => readString rest
  | _, 'n' :: rest => readWord ['n', 'u', 'l', 'l'] .null ('n' :: rest)
  | _, 't' :: rest => readWord ['t', 'r', 'u', 'e'] (.truth true) ('t' :: rest)
  | _, 'f' :: rest => readWord ['f', 'a', 'l', 's', 'e'] (.truth false) ('f' :: rest)
  | _, s => readNumber s

/-- Reads the items of an array behind the `done` ones, which are in reverse. -/
def readItemsWithin (bound : Nat) (done : List Tree) (s : List Char) : Step :=
  match bound, done, s with
  | _, [], ']' :: rest => (.array [] true, some rest)
  | bound + 1, done, s =>
    match readValueWithin bound s with
    | (item, none) => (.array (item :: done).reverse false, none)
    | (item, some rest) =>
      match dropSpace rest with
      | ']' :: rest => (.array (item :: done).reverse true, some rest)
      | ',' :: rest => readItemsWithin bound (item :: done) (dropSpace rest)
      | _ => (.array (item :: done).reverse false, none)
  | 0, done, _ => (.array done.reverse false, none)

/-- Reads the entries of an object behind the `done` ones, which are in reverse. -/
def readEntriesWithin (bound : Nat) (done : List (Tree × Tree)) (s : List Char) : Step :=
  match bound, done, s with
  | _, [], '\x7d' :: rest => (.object [] true, some rest)
  | bound + 1, done, '"' :: rest =>
    match readString rest with
    | (key, none) => (.object ((key, .broken) :: done).reverse false, none)
    | (key, some rest) =>
      match dropSpace rest with
      | ':' :: rest =>
        match readValueWithin bound rest with
        | (value, none) => (.object ((key, value) :: done).reverse false, none)
        | (value, some rest) =>
          match dropSpace rest with
          | '\x7d' :: rest => (.object ((key, value) :: done).reverse true, some rest)
          | ',' :: rest => readEntriesWithin bound ((key, value) :: done) (dropSpace rest)
          | _ => (.object ((key, value) :: done).reverse false, none)
      | _ => (.object ((key, .broken) :: done).reverse false, none)
  | bound + 1, done, s =>
    (.object (((readValueWithin bound s).1, .broken) :: done).reverse false, none)
  | 0, done, _ => (.object done.reverse false, none)

end

/-- Reads a value off the front of a text. -/
def readValue (s : List Char) : Step :=
  readValueWithin (2 * (s.length + 1)) s

/-- A text as far as it is JSON, and whether nothing but spaces follows its value. -/
def readText (text : String) : Tree × Bool :=
  match readValue text.toList with
  | (tree, none) => (tree, false)
  | (tree, some rest) => (tree, (dropSpace rest).isEmpty)

end HandlerDocs.Json
