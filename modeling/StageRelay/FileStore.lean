import StageRelay.Assoc
import StageRelay.Configuration
import StageRelay.Text.Quoted
import StageRelay.Text.Split

/-!
# Publishing to files

A configuration is buffered until the next flush and then written as one file, whose name alone
tells which stage it belongs to. Names that would not map back to the same stage are refused.

The names that are looked at are those a configuration is published under. The file is named after
the names in the configuration itself, which may have slashes in them; then where the file comes to
stand depends on the directories that there are.
-/

namespace StageRelay

/-- Why a configuration is not published. -/
inductive SyncError where
  | io
  | rejected (reason : String)
deriving DecidableEq, Repr

/-- The text of an error; what the file system says is not part of it. -/
def SyncError.message : SyncError → String
  | .io => "IO error"
  | .rejected reason => "Downstream rejected configuration: " ++ reason

namespace FileName

/-- The end of every file name. -/
def suffix : List Char := ['.', 'j', 's', 'o', 'n']

/-- What stands between the gateway and the stage. -/
def separator : List Char := ['_', '_']

/-- The bytes that a file name has at most. -/
def maxBytes : Nat := 255

/-- Whether a text starts with another one. -/
def startsWith : List Char → List Char → Bool
  | [], _ => true
  | _ :: _, [] => false
  | p :: ps, c :: cs => p == c && startsWith ps cs

/-- The text before and after the first occurrence of the separator. -/
def splitOnce : List Char → Option (List Char × List Char)
  | [] => none
  | c :: cs =>
    if startsWith separator (c :: cs) then some ([], cs.drop 1)
    else (splitOnce cs).map fun (before, after) ↦ (c :: before, after)

/-- Whether a gateway or stage can be told from a file name. -/
def isSafe (name : String) : Bool :=
  let cs := name.toList
  !cs.isEmpty && (splitOnce cs).isNone && !cs.any (fun c ↦ c == '/' || c == '\\')
    && !startsWith ['.'] cs

/-- The file name of a stage. -/
def ofStage (gateway stage : String) : String :=
  String.ofList (gateway.toList ++ separator ++ stage.toList ++ suffix)

/-- The key of the stage that a file name belongs to. -/
def stageKey? (file : String) : Option String :=
  let cs := file.toList
  if startsWith suffix.reverse cs.reverse then
    (splitOnce (cs.take (cs.length - suffix.length))).map fun (gateway, stage) ↦
      String.ofList (gateway ++ '/' :: stage)
  else none

/-- The path of a file name below a directory; a name that starts with a slash is a path of
its own. -/
def path (directory file : String) : String :=
  if startsWith ['/'] file.toList then file else directory ++ "/" ++ file

/-- The last part of a path. -/
def ofPath (path : String) : String :=
  String.ofList (path.toList.reverse.takeWhile (· ≠ '/')).reverse

/-- What stands before the last part of a path, with the slash. -/
def before (path : String) : String :=
  String.ofList (path.toList.reverse.dropWhile (· ≠ '/')).reverse

end FileName

/-- A directory: the one that configurations are published in, or another one. -/
inductive Directory where
  | output
  | other (path : String)
deriving DecidableEq, Repr

/-- Where a path leads from the directory as long as there are no directories besides it and those
above it. -/
def Directory.ofPath? (path : String) : Option Directory :=
  let up := ['.', '.']
  let steps := (Text.splitOn '/' path.toList).filter fun step ↦ !step.isEmpty && step != ['.']
  if steps.any (· ≠ up) then none
  else if FileName.startsWith ['/'] path.toList then some (.other "/")
  else if steps.isEmpty then some .output
  else some (.other (String.ofList (Text.joinWith ['/'] steps)))

/-- Refuses a name that cannot be told from a file name. -/
def FileName.check (name : String) : Except SyncError Unit :=
  if FileName.isSafe name then .ok ()
  else .error (.rejected ("name " ++ Text.quote name ++ " cannot be stored as a file name"))

/-- Configurations that wait for a flush, by stage, and the files of the directory; without files
the path of the directory is taken by something else. Files that are written into other directories
are kept apart. -/
structure FileStore where
  pending : Dict Configuration := []
  files? : Option (Dict String) := some []
  /-- The directory that a path ending with a slash leads to, if there is one to write to. -/
  lead : String → Option Directory := Directory.ofPath?
  strays : Assoc (Directory × String) String := []

namespace FileStore

/-- Buffers a configuration. -/
def sync (s : FileStore) (gateway stage : String) (c : Configuration) :
    Except SyncError FileStore := do
  FileName.check gateway
  FileName.check stage
  return { s with pending := s.pending.insert (gateway ++ "/" ++ stage) c }

/-- Whether there can be a file of this name: it is not too long and has no zero character. -/
def isWritable (file : String) : Bool :=
  (FileName.ofPath file).utf8ByteSize ≤ FileName.maxBytes && !file.toList.contains '\x00'

/-- The directory of a file and its name there, if it can be written. -/
def place? (s : FileStore) (file : String) : Option (Directory × String) :=
  if isWritable file then
    let before := FileName.before file
    let directory? := if before = "" then some .output else s.lead before
    directory?.map fun directory ↦ (directory, FileName.ofPath file)
  else none

/-- Puts a file into the directory. -/
def write (s : FileStore) (name content : String) : FileStore :=
  { s with files? := s.files?.map (Dict.insert name content) }

/-- Puts a file into some directory. -/
def put (s : FileStore) (place : Directory × String) (content : String) : FileStore :=
  match place.1 with
  | .output => s.write place.2 content
  | .other _ => { s with strays := s.strays.insert place content }

/-- Writes documents one after the other until one cannot be written. -/
def writeAll : List Configuration → FileStore → Except SyncError Unit × FileStore
  | [], s => (.ok (), s)
  | c :: rest, s =>
    match s.place? (FileName.ofStage c.gateway c.stage) with
    | some place => writeAll rest (s.put place c.document)
    | none => (.error .io, s)

/-- Writes what was buffered, in the order of the stages. The buffer is empty afterwards, whether
that succeeds or not. -/
def flush (s : FileStore) : Except SyncError Unit × FileStore :=
  if s.pending.isEmpty then (.ok (), s)
  else
    match s.files? with
    | none => (.error .io, { s with pending := [] })
    | some _ => writeAll (s.pending.map Prod.snd) { s with pending := [] }

/-- Removes the files of stages other than the existing ones, and no other files. -/
def prune (s : FileStore) (existing : List String) : Except SyncError FileStore :=
  match s.files? with
  | none => .error .io
  | some files =>
    .ok { s with
      files? := some (files.filter fun f ↦
        match FileName.stageKey? f.1 with
        | some key => existing.contains key
        | none => true) }

end FileStore

end StageRelay
