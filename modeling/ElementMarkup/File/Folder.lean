import ElementMarkup.File.Path
import ElementMarkup.Text.Quoted

/-!
# Folders

The files that a command can see, by their places, and the folders among them. A path is followed
name by name, and every place on its way must be a folder. A path that leads to no file is refused,
and so is one that leads to a folder where a file is asked for. The system may refuse any path for
reasons of its own.
-/

set_option autoImplicit false

namespace ElementMarkup

structure Folder where
  files : List (Path × List UInt8)
  folders : List Path

structure Refusal where
  kind : String
  text : String
  deriving DecidableEq, Repr

inductive FileFault where
  | absent
  | exists
  | notAFolder
  | isAFolder
  /-- The path is not handed to the system at all. -/
  | nullCharacter
  | refused (refusal : Refusal)
  deriving DecidableEq, Repr

structure FileError where
  fault : FileFault
  path : Path
  deriving DecidableEq, Repr

def FileFault.kind : FileFault → String
  | .absent => "FileNotFoundError"
  | .exists => "FileExistsError"
  | .notAFolder => "NotADirectoryError"
  | .isAFolder => "IsADirectoryError"
  | .nullCharacter => "ValueError"
  | .refused r => r.kind

def FileFault.text : FileFault → String
  | .absent => "[Errno 2] No such file or directory"
  | .exists => "[Errno 17] File exists"
  | .notAFolder => "[Errno 20] Not a directory"
  | .isAFolder => "[Errno 21] Is a directory"
  | .nullCharacter => "embedded null byte"
  | .refused r => r.text

def FileError.message (e : FileError) : String :=
  match e.fault with
  | .nullCharacter => e.fault.text
  | fault => fault.text ++ ": " ++ Text.quoted e.path.text

def Folder.isFile (f : Folder) (place : Path) : Bool := f.files.any fun (q, _) => q = place

def Folder.isFolder (f : Folder) (place : Path) : Bool :=
  place.isAncestral || f.folders.contains place || f.files.any fun (q, _) => q.isBelow place

def Folder.walk (f : Folder) (here : Path) : List String → Except FileFault Path
  | [] => .ok here
  | name :: rest =>
    if f.isFolder here then f.walk (here.step name) rest
    else if f.isFile here then .error .notAFolder
    else .error .absent

def Folder.withFile (f : Folder) (place : Path) (bytes : List UInt8) : Folder :=
  { f with files := (place, bytes) :: f.files.filter fun (q, _) => q ≠ place }

inductive Access where
  | read
  | write
  | make
  deriving DecidableEq, Repr

/-- A folder, and what the system has against paths for other reasons than what there is: rights
that are missing, names that are too long, links that lead in a circle. -/
structure Disk where
  folder : Folder
  refuses : Access → Path → Option Refusal

def Folder.disk (f : Folder) : Disk := ⟨f, fun _ _ => none⟩

namespace Disk

def locate (d : Disk) (a : Access) (p : Path) : Except FileError Path :=
  if p.hasNull then .error ⟨.nullCharacter, p⟩
  else
    match d.refuses a p with
    | some r => .error ⟨.refused r, p⟩
    | none =>
      match d.folder.walk p.origin p.names with
      | .ok place => .ok place
      | .error fault => .error ⟨fault, p⟩

def read (d : Disk) (p : Path) : Except FileError (List UInt8) := do
  let place ← d.locate .read p
  match d.folder.files.find? fun (q, _) => q = place with
  | some (_, bytes) => return bytes
  | none => throw ⟨if d.folder.isFolder place then .isAFolder else .absent, p⟩

def ensure (d : Disk) (p : Path) : Except FileError Disk := do
  let place ← d.locate .make p
  if d.folder.isFolder place then return d
  else if d.folder.isFile place then throw ⟨.exists, p⟩
  else return { d with folder := { d.folder with folders := place :: d.folder.folders } }

/-- Makes the folder of the first names of a path with those that it stands in. Folders that were
made before a failure stay. -/
def makeUpTo (d : Disk) (p : Path) : Nat → Except FileError Unit × Disk
  | 0 => (.ok (), d)
  | n + 1 =>
    match d.ensure (p.upTo (n + 1)) with
    | .ok made => (.ok (), made)
    | .error ⟨.absent, _⟩ =>
      match d.makeUpTo p n with
      | (.error e, made) => (.error e, made)
      | (.ok (), made) =>
        match made.ensure (p.upTo (n + 1)) with
        | .ok made => (.ok (), made)
        | .error e => (.error e, made)
    | .error e => (.error e, d)

def put (d : Disk) (p : Path) (bytes : List UInt8) : Except FileError Disk := do
  let place ← d.locate .write p
  if d.folder.isFolder place then throw ⟨.isAFolder, p⟩
  return { d with folder := d.folder.withFile place bytes }

def write (d : Disk) (p : Path) (bytes : List UInt8) : Except FileError Unit × Disk :=
  match d.makeUpTo p (p.names.length - 1) with
  | (.error e, made) => (.error e, made)
  | (.ok (), made) =>
    match made.put p bytes with
    | .ok written => (.ok (), written)
    | .error e => (.error e, made)

end Disk

structure OpenMode where
  writes : Bool
  creates : Bool
  exclusive : Bool
  truncates : Bool

def OpenMode.ofBits (flags : Nat) : OpenMode :=
  ⟨flags % 4 != 0, flags.testBit 6, flags.testBit 7, flags.testBit 9⟩

/-- Opens a file; one that is not there may be made, and one that is there may be emptied. -/
def Disk.openFile (d : Disk) (p : Path) (m : OpenMode) : Except FileError Disk := do
  let place ← d.locate (if m.writes then .write else .read) p
  let emptied : Disk := { d with folder := d.folder.withFile place [] }
  if d.folder.isFolder place then
    if m.creates && m.exclusive then throw ⟨.exists, p⟩
    else if m.writes || m.creates then throw ⟨.isAFolder, p⟩
    else return d
  else if d.folder.isFile place then
    if m.creates && m.exclusive then throw ⟨.exists, p⟩
    else return if m.truncates then emptied else d
  else if m.creates then return emptied
  else throw ⟨.absent, p⟩

end ElementMarkup
