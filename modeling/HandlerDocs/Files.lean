/-!
# A file system

`Files` are the text files and directories of a file system, and the directory that is worked in. A
file is named by a path: names between slashes, where `.` stays in a directory and `..` goes to the
one around it. A path with a slash in front starts at the root, every other path in the working
directory.

* `Files.read?` — the text of a file.
* `Files.write` — writes a file, with the directories on its path. Directories that were made stay
  even when the file cannot be written.
* `Files.textAt?_setFile` — writing a file changes no other text.
* `Files.changedSince` — the files in the working directory that are new or have another text.
-/

namespace HandlerDocs

/-- The text files and directories of a file system. -/
structure Files where
  /-- The texts of the files, by the names on the way to them from the root. -/
  texts : List (List String × String) := []
  /-- The names on the way to each directory but the root. -/
  directories : List (List String) := [["work"]]
  /-- The names on the way to the directory that is worked in. -/
  workingDirectory : List String := ["work"]
  deriving DecidableEq, Repr

namespace Files

/-! ### Places -/

/-- Whether the names lead to a directory. No names lead to the root. -/
def isDirectory (files : Files) (names : List String) : Bool :=
  names.isEmpty || files.directories.contains names

/-- The text of the file to which the names lead. -/
def textAt? (files : Files) (names : List String) : Option String :=
  files.texts.lookup names

/-- Whether a text can be a path: it has no null character and at most 4095 bytes. -/
def isPath (path : String) : Bool :=
  !path.toList.contains '\x00' && path.utf8ByteSize ≤ 4095

/-- Whether a name can be given to a file or directory: it has at most 255 bytes. -/
def isName (name : String) : Bool :=
  name.utf8ByteSize ≤ 255

/-- The parts of a path between its slashes. -/
def parts (path : String) : List String :=
  (path.toList.splitOn '/').map String.ofList

/-- The directory in which a path starts: the root if it has a slash in front. -/
def start (files : Files) (path : String) : List String :=
  if path.toList.head? = some '/' then [] else files.workingDirectory

/-- Whether a part of a path is the name of something inside of a directory. -/
def isInner (part : String) : Bool :=
  part ≠ "" && part ≠ "." && part ≠ ".."

/-- The directory that is reached by the parts of a path, from the directory to which the names
`here` lead. The root has no directory around it and is left to itself. -/
def enter? (files : Files) (here : List String) : List String → Option (List String)
  | [] => some here
  | part :: rest =>
    if part = ".." then enter? files here.dropLast rest
    else if isInner part then
      if files.isDirectory (here ++ [part]) then enter? files (here ++ [part]) rest else none
    else enter? files here rest

/-! ### Reading -/

/-- The text of the file with a path. -/
def read? (files : Files) (path : String) : Option String := do
  let name ← (parts path).getLast?
  let here ← files.enter? (files.start path) (parts path).dropLast
  if isInner name && isPath path then files.textAt? (here ++ [name]) else none

/-! ### Writing -/

/-- Makes the directory to which the names lead, unless it is there. -/
def makeDirectory? (files : Files) (names : List String) : Option Files :=
  if files.isDirectory names then some files
  else if (files.textAt? names).isSome || !names.all isName then none
  else some { files with directories := files.directories ++ [names] }

/-- Makes the directories on a path, as far as that is possible. The result tells the directory that
is reached. -/
def makeDirectories (files : Files) (here : List String) :
    List String → Option (List String) × Files
  | [] => (some here, files)
  | part :: rest =>
    if part = ".." then makeDirectories files here.dropLast rest
    else if isInner part then
      match files.makeDirectory? (here ++ [part]) with
      | some files => makeDirectories files (here ++ [part]) rest
      | none => (none, files)
    else makeDirectories files here rest

/-- The texts with one of them exchanged, or added behind the others. -/
def setText (names : List String) (text : String) :
    List (List String × String) → List (List String × String)
  | [] => [(names, text)]
  | entry :: rest =>
    if entry.1 = names then (names, text) :: rest else entry :: setText names text rest

/-- The text that was set is found, and the others are kept. -/
theorem lookup_setText (names : List String) (text : String)
    (texts : List (List String × String)) (other : List String) :
    (setText names text texts).lookup other =
      if other = names then some text else texts.lookup other := by
  induction texts with
  | nil => by_cases h : other = names <;> simp [setText, List.lookup_cons, h, beq_eq_false_iff_ne.2]
  | cons entry rest ih =>
    obtain ⟨key, old⟩ := entry
    by_cases hk : key = names
    · subst hk
      by_cases h : other = key
      · simp [setText, h]
      · simp [setText, List.lookup_cons, h, beq_eq_false_iff_ne.2 h]
    · by_cases h : other = key
      · subst h
        simp [setText, hk]
      · simp [setText, List.lookup_cons, hk, beq_eq_false_iff_ne.2 h, ih]

/-- Writes a file to which the names lead, unless there is a directory. -/
def setFile? (files : Files) (names : List String) (text : String) : Option Files :=
  if files.isDirectory names || !names.all isName then none
  else some { files with texts := setText names text files.texts }

/-- A file that was written has its new text, and the other files keep theirs. -/
theorem textAt?_setFile {files written : Files} {names : List String} {text : String}
    (h : files.setFile? names text = some written) (other : List String) :
    written.textAt? other = if other = names then some text else files.textAt? other := by
  unfold setFile? at h
  split at h
  · exact absurd h (by simp)
  · obtain rfl : { files with texts := setText names text files.texts } = written := by
      simpa using h
    exact lookup_setText names text files.texts other

/-- The parts of a path without those at its end that stay where they are. -/
def dropStays (parts : List String) : List String :=
  (parts.reverse.dropWhile fun part => part = "" || part = ".").reverse

/-- Makes the directories around a file, none of them unless their path can be one. -/
def makeParents (files : Files) (path : String) : Option (List String) × Files :=
  let parents := dropStays (dropStays (parts path)).dropLast
  if isPath ("/".intercalate parents) then files.makeDirectories (files.start path) parents
  else (none, files)

/-- Writes a file and the directories on its path, and tells whether the file was written. -/
def write (files : Files) (path text : String) : Bool × Files :=
  match files.makeParents path with
  | (none, files) => (false, files)
  | (some here, files) =>
    match (parts path).getLast? with
    | none => (false, files)
    | some name =>
      if isInner name && isPath path then
        match files.setFile? (here ++ [name]) text with
        | some files => (true, files)
        | none => (false, files)
      else (false, files)

/-- A file system with files, by their paths. -/
def ofList (entries : List (String × String)) : Files :=
  entries.foldl (fun files entry => (files.write entry.1 entry.2).2) {}

/-- The files in the working directory that are new or have another text, by their paths. -/
def changedSince (files before : Files) : List (String × String) :=
  let changed := files.texts.filter fun entry => before.textAt? entry.1 != some entry.2
  let inside := changed.filter fun entry => files.workingDirectory.isPrefixOf entry.1
  inside.map fun entry =>
    ("/".intercalate (entry.1.drop files.workingDirectory.length), entry.2)

end Files

end HandlerDocs
