import HandlerDocs.Json.Reader
import HandlerDocs.Snapshot.Declarations

/-!
# Snapshots in JSON

The first thing in the text that is no JSON or does not fit decides what is reported. A record is an
object, or an array of its fields in their order. A key is checked when it is read, a field that is
missing is noticed at the end of its object.

* `JsonProblem.message?` — the wording of a problem; text that is no JSON has none.
* `Declarations.ofJson` — reads the declarations in a text.
-/

namespace HandlerDocs

open Json (Tree)

/-- Why a JSON text is no snapshot. -/
inductive JsonProblem
  /-- The text is no JSON, or goes on behind its value. -/
  | malformed
  /-- A value is of another type than the expected one. -/
  | invalidType (found expected : String)
  /-- An array in place of a record is too short. -/
  | invalidLength (length : Nat) (record : String) (fields : Nat)
  /-- A record has no value for a field. -/
  | missingField (key : String)
  /-- A record has two values for a field. -/
  | duplicateField (key : String)
  /-- A record has no such field. -/
  | unknownField (key : String) (known : List String)
  /-- A word is none of the known ones. -/
  | unknownWord (word : String) (known : List String)
  /-- A text is no type. -/
  | invalidTypeText (e : TypeTextError)
  deriving DecidableEq, Repr

namespace JsonProblem

/-- A name in an error message. -/
def marked (name : String) : String :=
  "\x60" ++ name ++ "\x60"

/-- The wording of a problem that has one. -/
def message? : JsonProblem → Option String
  | malformed => none
  | invalidType found expected => some ("invalid type: " ++ found ++ ", expected " ++ expected)
  | invalidLength length record fields =>
    some ("invalid length " ++ toString length ++ ", expected struct " ++ record ++ " with " ++
      toString fields ++ " elements")
  | missingField key => some ("missing field " ++ marked key)
  | duplicateField key => some ("duplicate field " ++ marked key)
  | unknownField key known =>
    some ("unknown field " ++ marked key ++ ", expected " ++ " or ".intercalate (known.map marked))
  | unknownWord word known =>
    some ("unknown variant " ++ marked word ++ ", expected one of " ++
      ", ".intercalate (known.map marked))
  | invalidTypeText e => some e.message

/-- The problem of a value that is not of the expected type. -/
def unexpected (expected : String) (value : Tree) : JsonProblem :=
  match value.description? with
  | some found => invalidType found expected
  | none => malformed

end JsonProblem

namespace Json.Tree

/-! ### Texts, truth values and lists -/

/-- Reads a text. -/
def readText : Tree → Except JsonProblem String
  | text s => .ok s
  | value => .error (.unexpected "a string" value)

/-- Reads a truth value. -/
def readTruth : Tree → Except JsonProblem Bool
  | truth b => .ok b
  | value => .error (.unexpected "a boolean" value)

/-- Reads a value that may be null. -/
def readOptional {α : Type} (read : Tree → Except JsonProblem α) :
    Tree → Except JsonProblem (Option α)
  | null => .ok none
  | value => (read value).map some

/-- Refuses an array or object whose end was not reached. -/
def checkClosed (closed : Bool) : Except JsonProblem Unit :=
  if closed then .ok () else .error .malformed

/-- Reads a list. -/
def readList {α : Type} (read : Tree → Except JsonProblem α) : Tree → Except JsonProblem (List α)
  | array items closed => do
    let values ← items.mapM read
    checkClosed closed
    return values
  | value => .error (.unexpected "a sequence" value)

/-- Reads the key of an entry. -/
def readKey : Tree → Except JsonProblem String
  | text s => .ok s
  | _ => .error .malformed

/-- Reads texts by keys. -/
def readTexts : Tree → Except JsonProblem (List (String × String))
  | object entries closed => do
    let pairs ← entries.mapM fun entry => do
      let key ← readKey entry.1
      return (key, ← entry.2.readText)
    checkClosed closed
    return pairs
  | value => .error (.unexpected "a map" value)

/-! ### Words -/

/-- The value of one of several words. -/
def valueOfWord {α : Type} (words : List (String × α)) (word : String) : Except JsonProblem α :=
  match words.lookup word with
  | some value => .ok value
  | none => .error (.unknownWord word (words.map (·.1)))

/-- Reads one of several words: a text, or the only key of an object whose value is null. -/
def readWord {α : Type} (words : List (String × α)) : Tree → Except JsonProblem α
  | text s => valueOfWord words s
  | object (entry :: others) closed => do
    let word ← valueOfWord words (← readKey entry.1)
    match entry.2 with
    | null => if closed && others.isEmpty then return word else .error .malformed
    | value => .error (.unexpected "unit" value)
  | _ => .error .malformed

/-! ### Records -/

/-- Fills a record with the entries of an object. The `seen` keys are filled. -/
def fillEntries {α : Type} (r : Record Tree JsonProblem α) (closed : Bool) (seen : List String)
    (record : α) : List (Tree × Tree) → Except JsonProblem α
  | [] => do
    checkClosed closed
    match r.missing? seen with
    | some key => .error (.missingField key)
    | none => return record
  | entry :: rest => do
    let key ← readKey entry.1
    match r.field? key with
    | some field =>
      if seen.contains key then .error (.duplicateField key)
      else fillEntries r closed (key :: seen) (← field.fill entry.2 record) rest
    | none =>
      if r.refusesOthers then .error (.unknownField key (r.fields.map (·.key)))
      else if entry.2.isWhole then fillEntries r closed seen record rest
      else .error .malformed

/-- Fills the fields of a record in their order with the items of an array. -/
def fillItems {α : Type} (r : Record Tree JsonProblem α) (closed : Bool) (filled : Nat)
    (record : α) : List (RecordField Tree JsonProblem α) → List Tree → Except JsonProblem α
  | [], [] => do
    checkClosed closed
    return record
  | [], _ :: _ => .error .malformed
  | field :: fields, [] => do
    checkClosed closed
    if field.isRequired then .error (.invalidLength filled r.name r.fields.length)
    else fillItems r closed (filled + 1) record fields []
  | field :: fields, item :: items => do
    fillItems r closed (filled + 1) (← field.fill item record) fields items

/-- Reads a record. -/
def readRecord {α : Type} (r : Record Tree JsonProblem α) : Tree → Except JsonProblem α
  | object entries closed => fillEntries r closed [] r.start entries
  | array items closed => fillItems r closed 0 r.start r.fields items
  | value => .error (.unexpected ("struct " ++ r.name) value)

instance : Format Tree JsonProblem where
  text := readText
  truth := readTruth
  word := readWord
  optional := readOptional
  list := readList
  texts := readTexts
  record := readRecord
  refuse := .invalidTypeText

end Json.Tree

/-- Reads the declarations in a JSON text. -/
def Declarations.ofJson (text : String) : Except JsonProblem Declarations := do
  let (tree, atEnd) := Json.readText text
  let declarations ← Declarations.read tree
  if atEnd then return declarations else .error .malformed

end HandlerDocs
