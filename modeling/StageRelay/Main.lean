import StageRelay.CommandLine
import StageRelay.Registry.Seed

/-!
# The program

Publishes the stages of a seed into a directory.
-/

namespace StageRelay.Program

/-- Reads the settings of a run. -/
def readSettings : Option String → IO (Except SettingsError Settings)
  | none => return .ok {}
  | some path => do
    let bytes? ← (some <$> IO.FS.readBinFile path) <|> pure none
    return Settings.load (bytes?.map fun bytes ↦ bytes.toList)

/-- Tells why settings are refused. -/
def explain : SettingsError → String
  | .io => "IO error"
  | .malformed => "Parse error"
  | .refused complaints => Complaint.summary complaints

/-- Reads the resources that a run starts from. -/
def readStore : Option String → IO (Except SeedError Store)
  | none => return .ok {}
  | some path => do
    match ← (some <$> IO.FS.readFile path) <|> pure none with
    | none => return .error .notFound
    | some text => return Store.ofSeed text

/-- Publishes into a directory. -/
def publish (s : Settings) (store : Store) : IO Unit := do
  let directory := (← IO.currentDir) / s.output.directory
  IO.FS.createDirAll directory
  let old := (← directory.readDir).toList.map IO.FS.DirEntry.fileName
  let before : FileStore := { files? := some (Dict.ofEntries (old.map fun name ↦ (name, ""))) }
  let after := (Pipeline.ofSettings s store).firstDeeds.foldl FileStore.after before
  let files := after.files?.getD []
  for name in old do
    if (files.find? name).isNone then IO.FS.removeFile (directory / name)
  for (name, content) in files do
    if !content.isEmpty then IO.FS.writeFile (directory / name) content

/-- Runs with the settings at a path. -/
def runWith (path? : Option String) : IO UInt32 := do
  match ← readSettings path? with
  | .error e =>
    IO.eprintln (explain e)
    return 1
  | .ok s =>
    match ← readStore s.registry.seedFile with
    | .error e =>
      IO.eprintln e.name
      return 1
    | .ok store =>
      publish s store
      return 0

end StageRelay.Program

def main (arguments : List String) : IO UInt32 :=
  match StageRelay.Command.read none arguments with
  | .help => do
    IO.print StageRelay.Command.helpText
    return 0
  | .misuse argument => do
    IO.eprintln ("unexpected argument: " ++ argument)
    return 2
  | .run path? => StageRelay.Program.runWith path?
