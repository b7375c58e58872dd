import HandlerDocs.Snapshot.Declarations
import HandlerDocs.Yaml.Node

/-!
# Snapshots in YAML

Where a text is wanted, any scalar is read as it is written. A record is a mapping; lists, records
and mappings may be left out. A reference is read as what it refers to, however often that happens.
A tag matters where a word is wanted, which it can be instead of the text, and where the value may
be null. A text that is no snapshot is refused without saying why.

* `Declarations.ofYaml` — reads the declarations in a text.
-/

namespace HandlerDocs

/-- A YAML text is no snapshot. -/
inductive YamlProblem
  | refused
  deriving DecidableEq, Repr

namespace Yaml.Document

/-! ### Scalars -/

/-- Reads a text. -/
def readText (d : Document) : Except YamlProblem String :=
  match d.content with
  | .scalar _ _ text => .ok text
  | _ => .error .refused

/-- The scalars that are true. -/
def truths : List String :=
  ["true", "True", "TRUE"]

/-- The scalars that are false. -/
def falsities : List String :=
  ["false", "False", "FALSE"]

/-- The scalars that stand for no value, like one that is left out. -/
def nulls : List String :=
  ["~", "null", "Null", "NULL"]

/-- Whether a scalar can be a truth value: it has no quotes, or is on lines of its own and has the
tag of truth values. -/
def isTruth (style : Style) (tag : Option TagText) : Bool :=
  style = .plain || (style = .literal && tag = some (coreTag "bool"))

/-- Reads a truth value. -/
def readTruth (d : Document) : Except YamlProblem Bool :=
  match d.content with
  | .scalar style tag text =>
    if isTruth style tag && truths.contains text then .ok true
    else if isTruth style tag && falsities.contains text then .ok false
    else .error .refused
  | _ => .error .refused

/-- The word that a tag is, which is one of the document and not of YAML. -/
def wordOfTag? : Option TagText → Option String
  | some (some '!' :: rest) => (rest.mapM id).map String.ofList
  | _ => none

/-- Reads one of several words. Behind a tag that is a word there is no value. -/
def readWord {α : Type} (words : List (String × α)) (d : Document) : Except YamlProblem α :=
  match d.content with
  | .scalar style tag text =>
    let word? : Option String :=
      match wordOfTag? tag with
      | none => some text
      | some word => if style = .plain && ("" :: nulls).contains text then some word else none
    match word?.bind fun word => words.lookup word with
    | some value => .ok value
    | none => .error .refused
  | _ => .error .refused

/-- Reads a value that may be null. With the tag of null it has to be, and with any other tag it is
not. -/
def readOptional {α : Type} (read : Document → Except YamlProblem α) (d : Document) :
    Except YamlProblem (Option α) :=
  match d.content with
  | .scalar .plain none text =>
    if ("" :: nulls).contains text then .ok none else (read d).map some
  | .scalar .plain (some tag) text =>
    if tag ≠ coreTag "null" then (read d).map some
    else if nulls.contains text then .ok none
    else .error .refused
  | _ => (read d).map some

/-! ### Collections -/

/-- The items of a sequence that may be left out. -/
def items (d : Document) : Except YamlProblem (List Document) :=
  match d.content with
  | .sequence items => .ok (items.map d.withValue)
  | .scalar .plain _ "" => .ok []
  | _ => .error .refused

/-- The entries of a mapping that may be left out. -/
def entries (d : Document) : Except YamlProblem (List (Document × Document)) :=
  match d.content with
  | .mapping entries => .ok (entries.map fun entry => (d.withValue entry.1, d.withValue entry.2))
  | .scalar .plain _ "" => .ok []
  | _ => .error .refused

/-- Reads a list. -/
def readList {α : Type} (read : Document → Except YamlProblem α) (d : Document) :
    Except YamlProblem (List α) := do
  (← d.items).mapM read

/-- Reads texts by keys. -/
def readTexts (d : Document) : Except YamlProblem (List (String × String)) := do
  (← d.entries).mapM fun entry => do
    return (← entry.1.readText, ← entry.2.readText)

/-- Fills a record with the entries of a mapping. The `seen` keys are filled. -/
def fillEntries {α : Type} (r : Record Document YamlProblem α) (seen : List String) (record : α) :
    List (Document × Document) → Except YamlProblem α
  | [] => if (r.missing? seen).isSome then .error .refused else .ok record
  | entry :: rest => do
    let key ← entry.1.readText
    match r.field? key with
    | some field =>
      if seen.contains key then .error .refused
      else fillEntries r (key :: seen) (← field.fill entry.2 record) rest
    | none => if r.refusesOthers then .error .refused else fillEntries r seen record rest

/-- Reads a record. -/
def readRecord {α : Type} (r : Record Document YamlProblem α) (d : Document) :
    Except YamlProblem α := do
  fillEntries r [] r.start (← d.entries)

instance : Format Document YamlProblem where
  text := readText
  truth := readTruth
  word := readWord
  optional := readOptional
  list := readList
  texts := readTexts
  record := readRecord
  refuse _ := .refused

end Yaml.Document

/-- Reads the declarations in a YAML text. -/
def Declarations.ofYaml (text : String) : Except YamlProblem Declarations :=
  match Yaml.readDocument? text with
  | some document => Declarations.read document
  | none => .error .refused

end HandlerDocs
