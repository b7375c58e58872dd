import HandlerDocs.Yaml.Scalar

/-!
# YAML tags

A **tag** is a handle and a suffix; the directives of a document say which text a handle stands for.
Both texts are written in the characters of a URI, of which any can be escaped: an escape is the
octets of one character in UTF-8, each behind a `%`. Octets that have the shape of a character but
are none are kept as something that is no character. A null character ends a text.

* `readUri?` — reads the text of a tag, or of what a handle stands for.
* `readTag?` — reads a tag behind its `!`.
* `readHandle?` — reads a handle and what it stands for.
-/

namespace HandlerDocs.Yaml

/-- The text of a tag: its characters, with `none` for octets that are no character. -/
abbrev TagText :=
  List (Option Char)

/-- A tag of YAML itself. -/
def coreTag (name : String) : TagText :=
  ("tag:yaml.org,2002:" ++ name).toList.map some

/-! ### Escapes -/

/-- Whether a character can be in the name of an anchor or a handle. -/
def isWordChar (c : Char) : Bool :=
  c.isAlphanum || c = '_' || c = '-'

/-- Whether a character can be in the text of a tag. The indicators of flow collections can be in it
only where its end is marked. -/
def isUriChar (isMarked : Bool) (c : Char) : Bool :=
  isWordChar c || ";/?:@&=+$.!~*'()%".toList.contains c || (isMarked && ",[]".toList.contains c)

/-- The octets of a text in which octets are escaped. -/
def octets? : List Char → Option (List Nat)
  | [] => some []
  | '%' :: a :: b :: rest => do
    let octet := 16 * (← hexValue? a) + (← hexValue? b)
    return octet :: (← octets? rest)
  | '%' :: _ => none
  | c :: rest => do return c.toNat :: (← octets? rest)

/-- The character with a code that is not smaller than `least`. -/
def charOfCode? (least code : Nat) : Option Char :=
  if h : least ≤ code ∧ code.isValidChar then some (Char.ofNatAux code h.2) else none

/-- The text whose octets in UTF-8 are given. In the middle of a character, `left` more octets
belong to it, `code` is what those before say of its code, and `least` is the smallest code that is
written with so many octets. -/
def decode? (left least code : Nat) : List Nat → Option TagText
  | [] => if left = 0 then some [] else none
  | octet :: rest =>
    match left with
    | 0 =>
      if octet < 0x80 then do return charOfCode? 0 octet :: (← decode? 0 0 0 rest)
      else if octet / 0x20 = 0x06 then decode? 1 0x80 (octet % 0x20) rest
      else if octet / 0x10 = 0x0E then decode? 2 0x800 (octet % 0x10) rest
      else if octet / 0x08 = 0x1E then decode? 3 0x10000 (octet % 0x08) rest
      else none
    | left + 1 =>
      let code := 0x40 * code + octet % 0x40
      if octet / 0x40 ≠ 0x02 then none
      else if left = 0 then do return charOfCode? least code :: (← decode? 0 0 0 rest)
      else decode? left least code rest

/-! ### Reading -/

/-- Reads the text of a tag. -/
def readUri? (isMarked : Bool) (s : List Char) : Option (TagText × List Char) := do
  let text ← decode? 0 0 0 (← octets? (s.takeWhile (isUriChar isMarked)))
  return (text.takeWhile (· != some '\x00'), s.dropWhile (isUriChar isMarked))

/-- Reads the text of a tag, which has at least one character. -/
def readSomeUri? (isMarked : Bool) (s : List Char) : Option (TagText × List Char) :=
  if s.head?.any (isUriChar isMarked) then readUri? isMarked s else none

/-- Reads a tag behind its `!`. A tag between angles has no handle, and neither has `!` by
itself. -/
def readTag? (s : List Char) : Option (String × TagText × List Char) :=
  match s, s.dropWhile isWordChar with
  | '<' :: rest, _ => do
    match ← readSomeUri? true rest with
    | (text, '>' :: rest) => some ("", text, rest)
    | _ => none
  | _, '!' :: rest => do
    let (suffix, rest) ← readSomeUri? false rest
    return ("!" ++ String.ofList (s.takeWhile isWordChar) ++ "!", suffix, rest)
  | _, _ => do
    match ← readUri? false s with
    | ([], rest) => some ("", [some '!'], rest)
    | (suffix, rest) => some ("!", suffix, rest)

/-- Reads a handle and what it stands for, with the end of the line. -/
def readHandle? (s : List Char) : Option (String × TagText × List Char) := do
  let (handle, rest) ←
    match s.dropWhile isBlank with
    | '!' :: rest =>
      match rest.takeWhile isWordChar, rest.dropWhile isWordChar with
      | word, '!' :: rest => some ("!" ++ String.ofList word ++ "!", rest)
      | [], rest => some ("!", rest)
      | _, _ => none
    | _ => none
  if rest.head?.any isBlank then
    let (text, rest) ← readSomeUri? true (rest.dropWhile isBlank)
    if startsBlank rest then return (handle, text, ← endLine? rest) else none
  else none

end HandlerDocs.Yaml
