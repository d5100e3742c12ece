/-
PlanScript.Main — the program.

The command line is read, what its path leads to is loaded, and the answer
is written. Diagnostics are painted on a terminal that is not dumb, unless
`NO_COLOR` is set.
-/
import PlanScript.Command.Run

namespace PlanScript.Main

/-- The reason of a failed read. -/
def readError : IO.Error → ReadError
  | .noFileOrDirectory .. => .notFound
  | .inappropriateType .. => .notAFolder
  | .permissionDenied .. => .denied
  | e => .other (toString e).toList

/-- The bytes of the file that an entry is rooted at. -/
def loadFile (entry : IO.FS.DirEntry) : IO Tree := do
  try return .file (.ok (← IO.FS.readBinFile entry.root))
  catch e => return .file (.error (readError e))

/-- The fixtures in the folder that an entry is rooted at, and in the folders
below it. A folder that cannot be listed counts as empty. -/
partial def loadFolder (entry : IO.FS.DirEntry) : IO Tree := do
  let entries ← try entry.root.readDir catch _ => pure #[]
  let children ← entries.toList.filterMapM fun e => do
    let inner : IO.FS.DirEntry := { root := e.path, fileName := e.fileName }
    let name := e.fileName.toList
    if ← inner.root.isDir then return some (name, ← loadFolder inner)
    else if Suite.isFixtureName name then return some (name, ← loadFile inner)
    else return none
  return .folder children

/-- What the path of a request leads to. Only a suite looks into folders. -/
def find (request : Command.Request) (path : String) : IO (Except ReadError Tree) := do
  let entry : IO.FS.DirEntry := { root := path, fileName := "" }
  if ← entry.root.isDir then
    match request.job with
    | .parse _ => return .ok (.folder [])
    | .test _ => return .ok (← loadFolder entry)
  else
    match ← loadFile entry with
    | .file (.error .notFound) => return .error .notFound
    | .file (.error .notAFolder) => return .error .notAFolder
    | tree => return .ok tree

/-- All bytes of a stream, after those already read. -/
partial def readAll (stream : IO.FS.Stream) (done : ByteArray) : IO ByteArray := do
  let bytes ← stream.read 65536
  if bytes.isEmpty then return done
  readAll stream (done ++ bytes)

/-- Whether the environment allows painting. -/
def paints : IO Bool := do
  return (← IO.getEnv "NO_COLOR").isNone
    && ((← IO.getEnv "TERM").getD "dumb") != "dumb"

/-- The answer to a command line. -/
def respond (arguments : List String) : IO Command.Outcome := do
  let terminal : Command.Terminal := { painted := ← paints, logged := true }
  match Command.readArguments (arguments.map String.toList) with
  | .error r => return Command.refuse r
  | .ok request =>
    let found ← match request.path? with
      | some path => find request (String.ofList path)
      | none => pure (.ok (.file (.ok (← readAll (← IO.getStdin) .empty))))
    return Command.answer {} terminal request found

end PlanScript.Main

/-- Runs the program. -/
def main (arguments : List String) : IO UInt32 := do
  let outcome ← PlanScript.Main.respond arguments
  IO.print (String.ofList outcome.output)
  IO.eprint (String.ofList outcome.errors)
  return outcome.exit.toUInt32
