import Resharing.Bytes
import Resharing.Table

/-!
# Folders

One directory of a file system. A name leads to a directory or to a file, and a file
keeps its identity when its name changes: who has opened it goes on writing to the same
file.

## Main definitions

* `Folder`: names, files and their contents
* `Folder.read`, `Folder.truncate`, `Folder.write`, `Folder.rename`: what can be done
* `FileFault`: why it cannot be done
-/

namespace Resharing

/-- Why an operation on a folder fails. -/
inductive FileFault where
  | missing
  /-- There is something of that name already. -/
  | present
  | isDirectory
  | notDirectory
  | nameTooLong
  deriving DecidableEq, Repr

/-- The wording of a failed operation. -/
def FileFault.message : FileFault → String
  | .missing => "No such file or directory (os error 2)"
  | .present => "File exists (os error 17)"
  | .notDirectory => "Not a directory (os error 20)"
  | .isDirectory => "Is a directory (os error 21)"
  | .nameTooLong => "File name too long (os error 36)"

/-- What a name leads to. -/
inductive FolderEntry where
  | directory
  | file (number : Nat)
  deriving DecidableEq, Repr

/-- A directory and the files that have been in it. -/
structure Folder where
  entries : Table String FolderEntry
  contents : Table Nat Bytes
  files : Nat

namespace Folder

def empty : Folder := ⟨.empty, .empty, 0⟩

instance : Inhabited Folder := ⟨empty⟩

def nameLimit : Nat := 255

def tooLong (name : String) : Bool := nameLimit < name.utf8ByteSize

def content (folder : Folder) (file : Nat) : Bytes := (folder.contents.find? file).getD []

/-- The content of the file of a name. -/
def read (folder : Folder) (name : String) : Except FileFault Bytes :=
  if tooLong name then .error .nameTooLong
  else
    match folder.entries.find? name with
    | none => .error .missing
    | some .directory => .error .isDirectory
    | some (.file file) => .ok (folder.content file)

/-- Opens the file of a name and empties it; a missing one is made. -/
def truncate (folder : Folder) (name : String) : Except FileFault (Nat × Folder) :=
  if tooLong name then .error .nameTooLong
  else
    match folder.entries.find? name with
    | some .directory => .error .isDirectory
    | some (.file file) =>
      .ok (file, { folder with contents := folder.contents.insert file [] })
    | none =>
      .ok (folder.files,
        { entries := folder.entries.insert name (.file folder.files)
          contents := folder.contents.insert folder.files []
          files := folder.files + 1 })

/-- Writes bytes over the beginning of an open file. -/
def write (folder : Folder) (file : Nat) (bytes : Bytes) : Folder :=
  let rest := (folder.content file).drop bytes.length
  { folder with contents := folder.contents.insert file (bytes ++ rest) }

/-- Gives the file of a name another name. A file that had it before is lost. -/
def rename (folder : Folder) (source target : String) : Except FileFault Folder :=
  if tooLong source ∨ tooLong target then .error .nameTooLong
  else
    match folder.entries.find? source, folder.entries.find? target with
    | none, _ => .error .missing
    | some (.file _), some .directory => .error .isDirectory
    | some entry, _ =>
      .ok { folder with entries := (folder.entries.erase source).insert target entry }

def makeDirectory (folder : Folder) (name : String) : Except FileFault Folder :=
  if tooLong name then .error .nameTooLong
  else if folder.entries.contains name then .error .present
  else .ok { folder with entries := folder.entries.insert name .directory }

def names (folder : Folder) : List String :=
  (folder.entries.entries.map (·.1)).mergeSort fun left right => decide (left ≤ right)

/-- The folder with files of the given names and contents. -/
def ofFiles (files : List (String × Bytes)) : Folder :=
  files.foldl
    (fun folder (name, bytes) =>
      match folder.truncate name with
      | .ok (file, folder) => folder.write file bytes
      | .error _ => folder)
    empty

end Folder

end Resharing
