import ReviewDesk.CommandLine.Basic
import ReviewDesk.Digest.Sha256
import Std.Time.DateTime.Timestamp

/-!
The program at the command line. It works in the current folder and has no network: the services
that a command asks are out of its reach. Accounts last as long as the program runs.
-/
namespace ReviewDesk.Main

open CommandLine

/-- Variables that mean something to the program. -/
def knownVariables : List String :=
  Settings.sources.map (·.2) ++ ["GITHUB_TOKEN", "GH_TOKEN"]

def readEnvironment : IO Environment := do
  let found ← knownVariables.filterMapM fun name => do
    return (← IO.getEnv name).map (name, ·)
  let file ← (IO.FS.readFile ".env").toBaseIO
  return match file with
    | .ok text => Environment.withFile found text
    | .error _ => found

/-- What the current folder holds under a path. -/
partial def loadPath (w : Workspace) (path : String) : IO Workspace := do
  let here := (← IO.currentDir) / path
  let place := SourcePath.pieces path
  if ← here.isDir then
    let w := { w with folders := w.folders ++ [place] }
    (← here.readDir).foldlM (fun w entry => loadPath w (path ++ "/" ++ entry.fileName)) w
  else if ← here.pathExists then
    let bytes ← IO.FS.readBinFile here
    return { w with files := w.files ++ [(place, bytes.toList)] }
  else
    return w

/-- The files and folders that arguments name. -/
def loadWorkspace (args : List String) : IO Workspace :=
  (args.filter fun a => !a.startsWith "-" && !a.startsWith "/").foldlM loadPath {}

/-- A random identifier of version 4 for each number. -/
def identifier (seed : List UInt8) (n : Nat) : Uuid :=
  let bytes := Digest.sha256 (seed ++ Text.utf8Bytes (toString n))
  let raw := (bytes.take 16).foldl (fun m b => 256 * m + b.toNat) 0
  let low := 0x8000000000000000 + raw % 0x4000000000000000
  let middle := 0x4000 + raw / 0x10000000000000000 % 0x1000
  let high := raw / 0x100000000000000000000
  Uuid.ofNat ((high * 0x10000 + middle) * 0x10000000000000000 + low)

def readClock : IO Moment := do
  let nanoseconds := (← Std.Time.Timestamp.now).toNanosecondsSinceUnixEpoch.val
  return Moment.utc (nanoseconds / 1000)

/-- The lines that are typed, if the command asks for any. -/
def readTyped (w : Workspace) (args : List String) : IO (List String) := do
  match Command.read w args with
  | some (.createAdmin _ _ none) =>
    return Session.typedLines (← (← IO.getStdin).readToEnd)
  | _ => return []

def startSession (args : List String) : IO Session := do
  let seed ← IO.getRandomBytes 16
  let workspace ← loadWorkspace args
  return {
    desk := { now := ← readClock, ids := identifier seed.toList, model := {} }
    workspace
    environment := ← readEnvironment
    typed := ← readTyped workspace args }

/-- Writes the files that a command has made. -/
def saveFiles (before after : Workspace) : IO Unit :=
  (after.files.filter fun f => !before.files.contains f).forM fun (place, bytes) =>
    IO.FS.writeBinFile ("/".intercalate place) ⟨bytes.toArray⟩

/-- Shows how a command ended, and gives its code. -/
def conclude (outcome : Outcome) : IO UInt32 := do
  IO.print outcome.out
  IO.eprint outcome.err
  match outcome.ending with
  | .exit 2 =>
    IO.eprintln "usage: serve | create-admin | review | auth-check"
    return 2
  | .exit code => return UInt32.ofNat code
  | .crash (.failure failure) => IO.eprintln failure.message; return 1
  | .crash (.writing _) => IO.eprintln "The report cannot be written there."; return 1

end ReviewDesk.Main

def main (args : List String) : IO UInt32 := do
  let session ← ReviewDesk.Main.startSession args
  let (outcome, after) := (ReviewDesk.CommandLine.run args).run session
  ReviewDesk.Main.saveFiles session.workspace after.workspace
  ReviewDesk.Main.conclude outcome
