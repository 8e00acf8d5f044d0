import DavCourier.Command.Run
import DavCourier.Http.Connection
import DavCourier.Repository.Environment
import DavCourier.Transfer.Session

/-!
# The program

The program reads its settings from the environment and from the file `.env`, carries out
the command of its arguments, and keeps the local files in step with the disk of the
command. It reaches no network, so every request is answered as by `Http.unreachable`.

The disk has what is found on the way to the files of the command and below them. It refuses
nothing : what the system refuses comes to light when a file is read or written.
-/

namespace DavCourier.Program

open Command Transfer

/-- The variables of the environment that settings are read from. -/
def environment : IO Environment := do
  let names := ["DAV_REPOSITORY_URL", "DAV_USERNAME", "DAV_PASSWORD", "DAV_TIMEOUT_SECONDS"]
  let values ← names.mapM fun name => return (name, ← IO.getEnv name)
  let env := values.filterMap fun (name, value) => value.map (name, ·)
  let content ← (some <$> IO.FS.readFile ".env") <|> pure none
  return (content.map (EnvFile.load env)).getD env

/-- The local paths that a command reads, and those that it writes. -/
def localPaths : Invocation → List String × List String
  | .put file _ => ([file], [])
  | .putDirectory directory _ => ([directory], [])
  | .get _ destination => ([], [destination])
  | _ => ([], [])

/-- The disk with the directory or the file at a path, without what is below it. -/
def loadOne (disk : Local.Disk) (path : String) : IO Local.Disk := do
  let place := (← IO.currentDir) / path
  if ← place.isDir then return (disk.makeAll path.toList).1
  else if ← place.pathExists then
    let content ← IO.FS.readBinFile place
    return (disk.write path.toList content.toList).1
  else return disk

/-- The disk with what is at a path and around it. -/
def loadAround (disk : Local.Disk) (path : String) : IO Local.Disk :=
  let around := (Local.Disk.enclosingAll path.length path.toList).map String.ofList
  (path :: around).reverse.foldlM loadOne disk

/-- The disk with what is at a path and below it. -/
partial def loadBelow (disk : Local.Disk) (path : String) : IO Local.Disk := do
  let disk ← loadOne disk path
  let place := (← IO.currentDir) / path
  if ← place.isDir then
    (← place.readDir).foldlM (fun disk e => loadBelow disk s!"{path}/{e.fileName}") disk
  else return disk

/-- The disk with the current directory and those around it. -/
def emptyDisk : IO Local.Disk := do
  let here := (Text.splitAt '/' (← IO.currentDir).toString.toList).filter (!List.isEmpty ·)
  if h : ∀ name ∈ here, Local.IsFileName name then return .blank here h
  else return .blank [] nofun

/-- The disk that a command starts from. -/
def load (invocation : Invocation) : IO Local.Disk := do
  let (read, written) := localPaths invocation
  let disk ← (read ++ written).foldlM loadAround (← emptyDisk)
  read.foldlM loadBelow disk

/-- The path of a place from the root. -/
def pathOf (place : Local.Place) : String :=
  String.ofList ('/' :: Text.join '/' place)

/-- Writes what a command changed. -/
def store (before after : Local.Disk) : IO Unit := do
  for (place, entry) in before.entries do
    if entry != .directory && (after.at? place).isNone then IO.FS.removeFile (pathOf place)
  for (place, entry) in after.entries do
    if before.at? place = some entry then continue
    match entry with
    | .directory => IO.FS.createDirAll (pathOf place)
    | .file content => IO.FS.writeBinFile (pathOf place) ⟨content.toArray⟩

/-- Reports why the program stops, and the status that it ends with. -/
def stop (message : String) (hint : Option String) : IO UInt32 := do
  if let some hint := hint then IO.eprintln s!"Hint: {hint}"
  IO.eprintln s!"Error: {message}"
  return 1

/-- Carries a command out in a repository. -/
def carryOut (s : Settings) (r : Repository) (invocation : Invocation) : IO UInt32 := do
  let disk ← load invocation
  let answer (_ : Unit) (request : Http.Request) : Http.Answer × Unit :=
    (Http.exchange Http.unreachable s.credentials? request, ())
  let (outcome, _) := (invocation.run r disk).run answer ()
  store disk outcome.disk
  IO.print outcome.output
  match outcome.result with
  | .ok () => return 0
  | .error (.transfer failure) => stop failure.message failure.kind.suggestion?
  | .error trouble => stop trouble.message none

/-- Runs the program with arguments. -/
def run (arguments : List String) : IO UInt32 := do
  match Invocation.read arguments with
  | .error (.help text) => IO.print text; return 0
  | .error misuse => IO.eprint misuse.message; return UInt32.ofNat misuse.exitCode
  | .ok invocation =>
    match Settings.ofEnvironment? (← environment) with
    | none => stop missingUrl none
    | some s =>
      match openSession s with
      | .error failure => stop failure.message none
      | .ok r => carryOut s r invocation

end DavCourier.Program

def main (arguments : List String) : IO UInt32 :=
  DavCourier.Program.run arguments
