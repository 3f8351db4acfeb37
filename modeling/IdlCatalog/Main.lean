/-
# IdlCatalog.Main — the program

Looks at the disk once for every path of the command line, runs, and prints. Everything that is
decided is decided in `Invocation.run`.
-/
import IdlCatalog.CommandLine.Run

namespace IdlCatalog

/-- The fault that a failed read shows. -/
def ReadFault.ofError : IO.Error → ReadFault
  | .noFileOrDirectory .. => .missing
  | .inappropriateType .. => .throughFile
  | e => .other (toString e)

/-- The text of a file on disk. -/
def readText (path : String) : IO (Except ReadFault String) := do
  try
    return decodeText (← IO.FS.readBinFile path)
  catch e =>
    return .error (.ofError e)

/-- What a path leads to on disk. -/
def lookOnDisk (path : String) : IO Place := do
  let file := System.mkFilePath [path]
  if ← file.isDir then
    let mut files := #[]
    for entry in ← file.readDir do
      unless ← entry.path.isDir do
        files := files.push (entry.fileName, ← readText entry.path.toString)
    return .directory files.toList
  else
    return .file (← readText path)

end IdlCatalog

open IdlCatalog in
/-- Runs the command line. A usage error ends with code two. -/
def main (args : List String) : IO UInt32 := do
  match Invocation.ofArguments? args with
  | none =>
    IO.eprintln "usage: parse PATH... [--library NAME] [--json] [--trace]"
    IO.eprintln "       compare --baseline PATH... --candidate PATH... [--trace]"
    return 2
  | some invocation =>
    let mut places : List (String × Place) := []
    for path in invocation.paths do
      places := (path, ← lookOnDisk path) :: places
    let result := invocation.run fun path =>
      ((places.find? fun entry => entry.1 = path).map (·.2)).getD (.file (.error .missing))
    IO.print result.output
    IO.eprint result.errors
    return UInt32.ofNat result.code
