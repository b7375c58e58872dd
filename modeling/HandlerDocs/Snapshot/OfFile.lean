import HandlerDocs.Snapshot.Declarations
import HandlerDocs.Snapshot.OfJson
import HandlerDocs.Snapshot.OfYaml

/-!
# Snapshot files

The name of a file says how its text is read: as JSON, as YAML, or as the first of both that fits.

* `Snapshot.ofFile` — the snapshot in a file.
* `SnapshotError.message?` — the wording of the errors that have one.
-/

namespace HandlerDocs

/-- Why there is no snapshot in a file. -/
inductive SnapshotError
  /-- The file cannot be read. -/
  | unreadable
  /-- The text is refused as JSON. -/
  | json (problem : JsonProblem)
  /-- The text is refused as YAML, or in both formats. -/
  | refused
  deriving DecidableEq, Repr

/-- The wording of an error that has one. -/
def SnapshotError.message? : SnapshotError → Option String
  | json problem => problem.message?.map ("Serialization error: " ++ ·)
  | unreadable | refused => none

namespace Snapshot

/-- The snapshot that a JSON text lists. -/
def ofJson (text : String) : Except JsonProblem Snapshot :=
  (Declarations.ofJson text).map ofDeclarations

/-- The snapshot that a YAML text lists. -/
def ofYaml (text : String) : Except YamlProblem Snapshot :=
  (Declarations.ofYaml text).map ofDeclarations

/-- The format of a snapshot file. -/
inductive FileFormat
  | json
  | yaml
  | unknown
  deriving DecidableEq, Repr

/-- The format that the name of a file tells, by its end alone. -/
def FileFormat.ofName (name : String) : FileFormat :=
  let endsWith (ending : String) := ending.toList.isSuffixOf name.toList
  if endsWith ".json" then json
  else if endsWith ".yaml" || endsWith ".yml" then yaml
  else unknown

/-- The snapshot that a text in some format lists. -/
def ofText (format : FileFormat) (text : String) : Except SnapshotError Snapshot :=
  match format with
  | .json => (ofJson text).mapError .json
  | .yaml => (ofYaml text).mapError fun _ => .refused
  | .unknown =>
    match ofJson text with
    | .ok snapshot => .ok snapshot
    | .error _ => (ofYaml text).mapError fun _ => .refused

/-- The snapshot in a file, given its name and, if it can be read, its content. -/
def ofFile (name : String) (content : Option String) : Except SnapshotError Snapshot :=
  match content with
  | none => .error .unreadable
  | some text => ofText (.ofName name) text

end Snapshot

end HandlerDocs
