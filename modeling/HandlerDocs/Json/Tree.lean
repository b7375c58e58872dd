import HandlerDocs.Json.Decimal
import HandlerDocs.Text.Quoted

/-!
# JSON as it is read

A JSON text is read from the front, and the first thing in it that is wrong decides what is
reported. A `Tree` therefore holds a text up to the place where it stops being JSON: there stands a
`broken` value, and the arrays and objects around it are not closed. A value that is JSON but cannot
be represented, a string with half a surrogate pair or a number out of range, is `unreadable`, which
matters only to those who ask for it.

A number without fraction and exponent that fits 64 bits is read exactly. Any other number is read
as a float: as many of its digits as fit 64 bits, multiplied or divided by a power of ten.

* `Tree` — values, whole or broken.
* `Tree.description?` — a value in the words of an error message.
* `readNumber` — reads a number off the front of a text.
-/

namespace HandlerDocs.Json

/-! ### Values -/

/-- A JSON value as far as its text is JSON. -/
inductive Tree
  | null
  | truth (b : Bool)
  /-- A whole number of 64 bits, with or without sign. -/
  | integer (n : Int)
  /-- Any other number, by its decimal text. -/
  | real (decimal : String)
  | text (s : String)
  /-- A value that is JSON but cannot be represented. -/
  | unreadable
  /-- Items of an array, and whether its end was reached. -/
  | array (items : List Tree) (closed : Bool)
  /-- Entries of an object, and whether its end was reached. A key that is no text stands in front
  of a broken value. -/
  | object (entries : List (Tree × Tree)) (closed : Bool)
  /-- The place where the text stops being JSON. -/
  | broken
  deriving Repr, Inhabited

namespace Tree

/-- A value in the words of an error message; broken and unreadable values have none. -/
def description? : Tree → Option String
  | null => some "null"
  | truth b => some ("boolean \x60" ++ toString b ++ "\x60")
  | integer n => some ("integer \x60" ++ toString n ++ "\x60")
  | real decimal => some ("floating point \x60" ++ decimal ++ "\x60")
  | text s => some ("string " ++ Text.quoted s)
  | array _ _ => some "sequence"
  | object _ _ => some "map"
  | unreadable | broken => none

/-- Whether the text goes on behind a value. -/
def isWhole : Tree → Bool
  | array _ closed | object _ closed => closed
  | broken => false
  | _ => true

end Tree

/-! ### The value of a number -/

/-- The value of a decimal digit. -/
def digitValue (c : Char) : Nat :=
  c.toNat - '0'.toNat

/-- Appends digits to a number as long as it fits 64 bits, and counts those that are left over. -/
def appendFitting (n : Nat) : List Char → Nat × Nat
  | [] => (n, 0)
  | c :: rest =>
    let next := n * 10 + digitValue c
    if next < 0x10000000000000000 then appendFitting next rest else (n, rest.length + 1)

/-- A number times a power of ten, if it is in the range of floats. A float has no more than three
factors `1e308` in it, so that as many steps are enough. -/
def scaled? (x : Float) (exponent : Int) : Nat → Option Float
  | 0 => some 0.0
  | steps + 1 =>
    if exponent.natAbs ≤ 308 then
      let power := Float.ofScientific 1 false exponent.natAbs
      if exponent < 0 then some (x / power)
      else if (x * power).isInf then none
      else some (x * power)
    else if x == 0.0 then some x
    else if 0 ≤ exponent then none
    else scaled? (x / 1e308) (exponent + 308) steps

/-- The float with given digits in front of and behind the point, and an exponent, if it is in
range. -/
def floatValue? (whole fraction : List Char) (exponent : Int) : Option Float :=
  let (significand, leftOver) := appendFitting 0 whole
  let (significand, dropped) := appendFitting significand fraction
  let scale : Int := Int.ofNat leftOver - Int.ofNat (fraction.length - dropped)
  if 0x80000000 ≤ exponent.natAbs then
    if significand ≠ 0 ∧ 0 < exponent then none else some 0.0
  else scaled? significand.toUInt64.toFloat (scale + exponent) 4

/-- The value of a number that is no whole number of 64 bits. -/
def realValue (negative : Bool) (whole fraction : List Char) (exponent : Int) : Tree :=
  match floatValue? whole fraction exponent with
  | some x => .real (decimalText (if negative then -x else x))
  | none => .unreadable

/-- The value of a number without fraction and exponent. -/
def wholeValue (negative : Bool) (whole : List Char) : Tree :=
  let n := whole.foldl (fun n c => n * 10 + digitValue c) 0
  if negative then
    if 0 < n ∧ n ≤ 0x8000000000000000 then .integer (-Int.ofNat n) else realValue true whole [] 0
  else if n < 0x10000000000000000 then .integer n
  else realValue false whole [] 0

/-! ### Reading -/

/-- A value read off the front of a text, with the text behind it when the text goes on. -/
abbrev Step :=
  Tree × Option (List Char)

/-- The text stops being JSON. -/
def stuck : Step :=
  (.broken, none)

/-- The digits at the front of a text, of which there has to be one. -/
def readDigits? (s : List Char) : Option (List Char × List Char) :=
  match s.takeWhile Char.isDigit with
  | [] => none
  | digits => some (digits, s.dropWhile Char.isDigit)

/-- The fraction that may follow the whole part of a number. -/
def readFraction? : List Char → Option (List Char × List Char)
  | '.' :: rest => readDigits? rest
  | s => some ([], s)

/-- The exponent that may follow the digits of a number. -/
def readExponent? : List Char → Option (Option Int × List Char)
  | 'e' :: rest | 'E' :: rest => do
    let (sign, rest) : Int × List Char := match rest with
      | '-' :: rest => (-1, rest)
      | '+' :: rest => (1, rest)
      | rest => (1, rest)
    let (digits, rest) ← readDigits? rest
    return (some (sign * Int.ofNat (digits.foldl (fun n c => n * 10 + digitValue c) 0)), rest)
  | s => some (none, s)

/-- Reads a number behind its sign. -/
def readUnsigned (negative : Bool) (s : List Char) : Step :=
  let parts? := do
    let (whole, rest) ← readDigits? s
    if whole.length ≠ 1 ∧ whole.head? = some '0' then none
    else
      let (fraction, rest) ← readFraction? rest
      let (exponent, rest) ← readExponent? rest
      return (whole, fraction, exponent, rest)
  match parts? with
  | none => stuck
  | some (whole, [], none, rest) => (wholeValue negative whole, some rest)
  | some (whole, fraction, exponent, rest) =>
    (realValue negative whole fraction (exponent.getD 0), some rest)

/-- Reads a number off the front of a text. -/
def readNumber : List Char → Step
  | '-' :: rest => readUnsigned true rest
  | s => readUnsigned false s

end HandlerDocs.Json
