import HandlerDocs.CommandLine

/-!
# The program

The command line on the files and streams of the system. The files that a command reads are read
before it runs.
-/

namespace HandlerDocs

/-- The text of a file, if it can be read. -/
def readSystemFile? (path : String) : IO (Option String) := do
  try
    return some (← IO.FS.readFile path)
  catch _ =>
    return none

/-- Whether an action succeeds. -/
def succeeds (action : IO Unit) : IO Bool := do
  try
    action
    return true
  catch _ =>
    return false

/-- Writes a file of the system, and the directories on its path. -/
def saveSystemFile (path text : String) : IO Bool :=
  succeeds do
    let directory := "/".intercalate (((path.toList.splitOn '/').map String.ofList).dropLast)
    unless directory.isEmpty do
      IO.FS.createDirAll directory
    IO.FS.writeFile path text

/-- The host that uses the files and streams of the system. -/
def systemHost : Host IO where
  print text := succeeds do
    let stream ← IO.getStdout
    stream.putStr text
    stream.flush
  save := saveSystemFile
  report text := IO.eprintln text

end HandlerDocs

open HandlerDocs in
/-- Runs the program. -/
def main (arguments : List String) : IO UInt32 := do
  let paths := (Command.ofArguments arguments).toOption.elim [] Command.inputs
  let contents ← paths.mapM fun path => do return (path, ← readSystemFile? path)
  let code ← run systemHost (fun path => (contents.lookup path).join) arguments
  return code.toUInt32
