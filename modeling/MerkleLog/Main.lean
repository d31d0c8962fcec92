import MerkleLog.Console.Run

/-!
# The program

Reads the files that a command may need, runs the command over them, and carries its effects out.
-/

open MerkleLog MerkleLog.Console

/-- The path of a place on the disk. -/
def pathOf (place : Location) : String :=
  "/" ++ "/".intercalate place

/-- What is found at a path of the disk. -/
def entryOnDisk (path : String) : IO (Option Entry) := do
  match ← EIO.toBaseIO (IO.FS.readBinFile path) with
  | .ok content => return some (.file content.toList)
  | .error (.noFileOrDirectory ..) => return none
  | .error (.inappropriateType _ osCode _) =>
    return if osCode = 21 then some .directory else none
  | .error cause => throw cause

/-- What the disk holds on the way along some paths, seen from a directory. -/
def filesOnDisk (working : Location) (paths : List Path) : IO Files := do
  let mut entries := []
  for place in paths.flatMap (Files.placesOn ⟨working, []⟩) do
    if let some entry ← entryOnDisk (pathOf place) then
      entries := (place, entry) :: entries
  return ⟨working, entries⟩

/-- Write the newest entries of some files to the disk, oldest of them first. -/
def writeToDisk (files : Files) (count : Nat) : IO Unit := do
  for (place, entry) in (files.entries.take count).reverse do
    if let .file content := entry then
      IO.FS.writeBinFile (pathOf place) content.toByteArray

/-- The settings of the environment and of the dotenv file in the working directory. -/
def settingsOnDisk : IO (Except Settings.Refusal Settings) := do
  let environment ← Settings.allVariables.filterMapM fun name => do
    return (← IO.getEnv name).map fun value => (name, value)
  let dotenv ←
    match ← entryOnDisk ".env" with
    | some (.file content) =>
      match Utf8.decode content with
      | .ok text => pure (some text)
      | .error fault => throw (IO.userError fault.message)
    | _ => pure none
  return Settings.load environment dotenv

/-- The paths that a command line names. -/
def pathsOf (args : List String) : List Path :=
  match Request.ofArguments? args with
  | some (.invoke _ name words) =>
    match name.errand? words with
    | some (.run command) => command.paths
    | _ => []
  | _ => []

/-- Run the program in the working directory. -/
def main (args : List String) : IO UInt32 := do
  match ← settingsOnDisk with
  | .error (.faults faults) =>
    IO.eprintln (Fault.report "Settings" faults)
    return 1
  | .error .nullInName =>
    IO.eprintln "the name of the hash algorithm holds a null character"
    return 1
  | .ok settings =>
    let working := (Path.ofString (toString (← IO.currentDir))).names
    let files ← filesOnDisk working (pathsOf args)
    match settings.hash? with
    | none =>
      IO.eprintln ("no implementation of " ++ settings.hashAlgorithm)
      return 1
    | some h =>
      let report := run settings h args files
      writeToDisk report.session.files
        (report.session.files.entries.length - files.entries.length)
      IO.print report.session.output
      for line in report.session.lines do
        IO.eprintln line
      match report.stop with
      | .usage =>
        IO.eprintln helpText
        return 2
      | .exit status => return status.toUInt32
      | .failure cause =>
        IO.eprintln cause.message
        return 1
