/-!
# TOML literals

The four kinds of TOML strings, and whole numbers. A basic string (`"`) has escapes, a literal one
(`'`) has none; with the quote written three times a string may span lines, and a line break right
behind the opening quotes does not belong to it.

* `readString?` — reads a string off the front of a text.
* `readInteger?` — reads a word as a whole number of 64 bits.
-/

namespace HandlerDocs.Toml

/-! ### Characters -/

/-- Whether a character may stand in a string or a comment: everything but controls other than the
tab. -/
def isTextChar (c : Char) : Bool :=
  c = '\t' || (0x20 ≤ c.toNat && c.toNat ≠ 0x7F)

/-- Whether a character is a space or a tab. -/
def isSpace (c : Char) : Bool :=
  c = ' ' || c = '\t'

/-- The value of a digit in a base up to sixteen. -/
def digitValue? (base : Nat) (c : Char) : Option Nat :=
  let value? :=
    if c.isDigit then some (c.toNat - '0'.toNat)
    else if 'a' ≤ c ∧ c ≤ 'f' then some (c.toNat - 'a'.toNat + 10)
    else if 'A' ≤ c ∧ c ≤ 'F' then some (c.toNat - 'A'.toNat + 10)
    else none
  value?.filter (· < base)

/-- The character whose code is written in hexadecimal digits. -/
def codedChar? (digits : List Char) : Option Char := do
  let code ← digits.foldlM (fun n c => (digitValue? 16 c).map (n * 16 + ·)) 0
  if h : code.isValidChar then some (Char.ofNatAux code h) else none

/-- The character that a letter behind a backslash stands for. -/
def escapedChar? : Char → Option Char
  | 'b' => some '\x08'
  | 't' => some '\t'
  | 'n' => some '\n'
  | 'f' => some '\x0c'
  | 'r' => some '\r'
  | '"' => some '"'
  | '\\' => some '\\'
  | _ => none

/-! ### Strings -/

/-- What was read of a string, with the text behind it. -/
abbrev StringReading :=
  Option (List Char × List Char)

/-- Puts a character in front of what was read. -/
def cons? (c : Option Char) (reading : StringReading) : StringReading := do
  let (s, rest) ← reading
  return ((← c) :: s, rest)

/-- Reads a basic string behind its opening quote. -/
def readBasic? : List Char → StringReading
  | '"' :: rest => some ([], rest)
  | '\\' :: 'u' :: a :: b :: c :: d :: rest => cons? (codedChar? [a, b, c, d]) (readBasic? rest)
  | '\\' :: 'U' :: a :: b :: c :: d :: e :: f :: g :: h :: rest =>
    cons? (codedChar? [a, b, c, d, e, f, g, h]) (readBasic? rest)
  | '\\' :: c :: rest => cons? (escapedChar? c) (readBasic? rest)
  | c :: rest => if isTextChar c then cons? (some c) (readBasic? rest) else none
  | [] => none

/-- Reads a literal string behind its opening quote. -/
def readLiteral? : List Char → StringReading
  | '\'' :: rest => some ([], rest)
  | c :: rest => if isTextChar c then cons? (some c) (readLiteral? rest) else none
  | [] => none

/-- Three quotes end a string of several lines; up to two more in front of them belong to it. -/
def closing? (quote : Char) : List Char → Option (List Char × List Char)
  | a :: b :: c :: d :: e :: rest =>
    if a = quote ∧ b = quote ∧ c = quote then
      if d = quote ∧ e = quote then some ([quote, quote], rest)
      else if d = quote then some ([quote], e :: rest)
      else some ([], d :: e :: rest)
    else none
  | [a, b, c, d] =>
    if a = quote ∧ b = quote ∧ c = quote then
      if d = quote then some ([quote], []) else some ([], [d])
    else none
  | [a, b, c] => if a = quote ∧ b = quote ∧ c = quote then some ([], []) else none
  | _ => none

/-- Where reading is inside a basic string of several lines. -/
inductive LineState
  /-- In the text. -/
  | text
  /-- Behind a backslash and spaces: the line has to end. -/
  | lineEnd
  /-- Behind the end of such a line: blanks do not belong to the string. -/
  | indentation
  deriving DecidableEq, Repr

/-- Reads a basic string of several lines behind its opening quotes. -/
def readLines? (state : LineState) (s : List Char) : StringReading :=
  if let some found := if state = .lineEnd then none else closing? '"' s then some found
  else
    match s with
    | [] => none
    | '\r' :: '\n' :: rest | '\n' :: rest =>
      if state = .text then cons? (some '\n') (readLines? .text rest)
      else readLines? .indentation rest
    | '\\' :: 'u' :: a :: b :: c :: d :: rest =>
      if state = .lineEnd then none
      else cons? (codedChar? [a, b, c, d]) (readLines? .text rest)
    | '\\' :: 'U' :: a :: b :: c :: d :: e :: f :: g :: h :: rest =>
      if state = .lineEnd then none
      else cons? (codedChar? [a, b, c, d, e, f, g, h]) (readLines? .text rest)
    | '\\' :: '\r' :: '\n' :: rest | '\\' :: '\n' :: rest =>
      if state = .lineEnd then none else readLines? .indentation rest
    | '\\' :: c :: rest =>
      if state = .lineEnd then none
      else if isSpace c then readLines? .lineEnd rest
      else cons? (escapedChar? c) (readLines? .text rest)
    | c :: rest =>
      if state = .text then
        if isTextChar c then cons? (some c) (readLines? .text rest) else none
      else if isSpace c then readLines? state rest
      else if state = .indentation ∧ isTextChar c then cons? (some c) (readLines? .text rest)
      else none

/-- Reads a literal string of several lines behind its opening quotes. -/
def readLiteralLines? (s : List Char) : StringReading :=
  if let some found := closing? '\'' s then some found
  else
    match s with
    | [] => none
    | '\r' :: '\n' :: rest | '\n' :: rest => cons? (some '\n') (readLiteralLines? rest)
    | c :: rest => if isTextChar c then cons? (some c) (readLiteralLines? rest) else none

/-- The text behind a line break at its front. -/
def dropLineBreak : List Char → List Char
  | '\r' :: '\n' :: rest | '\n' :: rest => rest
  | s => s

/-- Reads a string on one line. -/
def readShortString? : List Char → StringReading
  | '"' :: rest => readBasic? rest
  | '\'' :: rest => readLiteral? rest
  | _ => none

/-- Reads a string of any kind. -/
def readString? : List Char → StringReading
  | '"' :: '"' :: '"' :: rest => readLines? .text (dropLineBreak rest)
  | '\'' :: '\'' :: '\'' :: rest => readLiteralLines? (dropLineBreak rest)
  | s => readShortString? s

/-! ### Whole numbers -/

/-- Reads digits, between which single underscores may stand. -/
def readDigits? (base : Nat) (value : Nat) (behindDigit : Bool) : List Char → Option Nat
  | [] => if behindDigit then some value else none
  | '_' :: rest => if behindDigit then readDigits? base value false rest else none
  | c :: rest =>
    match digitValue? base c with
    | some digit => readDigits? base (value * base + digit) true rest
    | none => none

/-- Reads digits of which the first is no zero, or a zero alone. -/
def readDecimal? : List Char → Option Nat
  | ['0'] => some 0
  | '0' :: _ => none
  | s => readDigits? 10 0 false s

/-- Reads a word as a whole number of 64 bits with a sign. -/
def readInteger? (word : List Char) : Option Int := do
  let value : Int ← match word with
    | '0' :: 'x' :: digits => Int.ofNat <$> readDigits? 16 0 false digits
    | '0' :: 'o' :: digits => Int.ofNat <$> readDigits? 8 0 false digits
    | '0' :: 'b' :: digits => Int.ofNat <$> readDigits? 2 0 false digits
    | '-' :: digits => (fun n => -Int.ofNat n) <$> readDecimal? digits
    | '+' :: digits => Int.ofNat <$> readDecimal? digits
    | digits => Int.ofNat <$> readDecimal? digits
  if -0x8000000000000000 ≤ value ∧ value < 0x8000000000000000 then some value else none

end HandlerDocs.Toml
