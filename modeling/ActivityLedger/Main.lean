import ActivityLedger.Command.Run
import ActivityLedger.Files.Image
import Std.Time.DateTime.Timestamp

/-!
# The program

Reads the files that a run needs, does the run, and writes its database and its
report.
-/

namespace ActivityLedger.Main

def knownVariables : List String := [
  "HOME", "XDG_DATA_HOME", "TURSO_AUTH_TOKEN", "TRACKING_DB_PATH", "TRACKING_DATABASE__PATH",
  "TRACKING_DATABASE__AUTH_TOKEN_ENV", "TRACKING_DATABASE__BUSY_TIMEOUT_MS",
  "TRACKING_QUERY__MAX_RANGE_DAYS"]

/-- The number of the first day of 1970. -/
def firstDay : Int := 719163

def today : IO (Option Date) := do
  let seconds := (← Std.Time.Timestamp.now).toSecondsSinceUnixEpoch.val
  return Date.ofNumber? (firstDay + seconds / 86400)

def withDirectory (files : Files) (path : String) : Files :=
  match files.makeDirectories path with
  | .ok next => next
  | .error _ => files

/-- The files with the one at a path as it is found. -/
def readFile (files : Files) (path : String) : IO Files := do
  try
    if ← (← IO.FS.realPath path).isDir then return withDirectory files path
    let files := withDirectory files ((Path.parent? path).getD "")
    return files.write path (.ofBytes (← IO.FS.readBinFile path).toList)
  catch _ => return files

def writeDatabase (files : Files) (name : String) : IO Unit := do
  match files.find name with
  | .ok (.file (.database database)) =>
      if let some parent := Path.parent? name then
        unless parent = "" do IO.FS.createDirAll parent
      IO.FS.writeBinFile name ⟨(FileContent.database database).toBytes.toArray⟩
  | _ => return

def settingsPaths (arguments : List String) : List String :=
  match Command.Line.read arguments with
  | .ok line =>
      line.settingsFile.toList.flatMap fun path =>
        path :: (Settings.longer path).map fun entry => entry.1
  | .error _ => []

/-- Does the run that the arguments ask for, and gives its code. -/
def run (arguments : List String) : IO UInt32 := do
  let environment ← knownVariables.filterMapM fun name => do
    return (← IO.getEnv name).map fun value => (name, value)
  let some today ← today | throw (IO.userError "the calendar has ended")
  let files ← (settingsPaths arguments).foldlM readFile FileTree.empty
  let path? := Command.databaseFile? environment arguments files
  let name? := path?.bind Files.fileName?
  let files ← (path?.toList ++ name?.toList).foldlM readFile files
  let (report, files) := Command.run ⟨environment, today⟩ arguments files
  name?.toList.forM (writeDatabase files)
  IO.print report.output
  if let some error := report.error then
    IO.eprintln ("Error: " ++ (error.report?.or error.message?).getD error.title)
  return UInt32.ofNat report.code

end ActivityLedger.Main

def main (arguments : List String) : IO UInt32 := ActivityLedger.Main.run arguments
