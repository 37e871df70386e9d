import ElementMarkup.Command.Run

/-!
# The program

Reads the files that the command line names, runs the command on them, and writes what it wrote.
-/

set_option autoImplicit false

open ElementMarkup ElementMarkup.Command

/-- The files that a command line names, the one to be written among them. -/
def namedPaths : Line → List Path
  | .request _ r =>
    ([r.input].filter (· ≠ "-") ++ r.config.toList ++ r.context.toList ++ r.output.toList).map
      Path.ofString
  | _ => []

def usesStandardInput : Line → Bool
  | .request _ r => r.input = "-"
  | _ => false

def withAncestors (p : Path) : List Path := (List.range (p.names.length + 1)).map p.upTo

def folderCode : UInt32 := 21

def addPath (folder : Folder) (p : Path) : IO Folder := do
  try
    let bytes ← IO.FS.readBinFile p.text
    return { folder with files := (p.place, bytes.toList) :: folder.files }
  catch e =>
    match e with
    | .inappropriateType _ code _ =>
      if code = folderCode then return { folder with folders := p.place :: folder.folders }
      else return folder
    | _ => return folder

def writeChanges (before after : Folder) : IO Unit := do
  for p in after.folders do
    if !before.folders.contains p then
      IO.FS.createDirAll p.text
  for (p, bytes) in after.files do
    if !before.files.contains (p, bytes) then
      IO.FS.createDirAll p.parent.text
      IO.FS.writeBinFile p.text ⟨bytes.toArray⟩

/-- The text of a stream up to its end. -/
partial def readAllLines (stream : IO.FS.Stream) : IO String := do
  let line ← stream.getLine
  if line.isEmpty then return "" else return line ++ (← readAllLines stream)

def main (args : List String) : IO UInt32 := do
  let line := readLine args
  let folder ← ((namedPaths line).flatMap withAncestors).eraseDups.foldlM addPath ⟨[], []⟩
  let stdin ←
    if usesStandardInput line then readAllLines (← IO.getStdin) else pure ""
  let result := run args folder stdin
  IO.eprint result.errors
  IO.print result.output
  writeChanges folder result.folder
  match result.ending with
  | .refused message => IO.eprintln message
  | .crashed failure => IO.eprintln failure.message
  | _ => pure ()
  return result.ending.code
