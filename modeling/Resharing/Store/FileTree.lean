import Resharing.Store.Folder

/-!
# Directories in a tree of files

A path is followed step by step, from the root or from the working directory. Directories on
the way that do not exist are made; a file on the way, or one at the end, is a fault.

## Main definitions

* `FileTree`: what is known of a file system
* `FileTree.locate`: where a path leads
* `FileTree.openFolder`: the directory at a path
-/

namespace Resharing

/-- A place in a file system: the names on the way from the root. -/
abbrev Place := List String

/-- What is known of a file system. Elsewhere it has nothing but empty directories. -/
structure FileTree where
  working : Place
  folders : List (Place × Folder)
  files : List Place

namespace FileTree

/-- The bytes from which on a path is too long. -/
def pathLimit : Nat := 4096

/-- What the directory of a place is known to hold. -/
def folderAt (tree : FileTree) (place : Place) : Folder :=
  (tree.folders.lookup place).getD .empty

/-- Whether there is a file at a place. -/
def isFile (tree : FileTree) (place : Place) : Bool :=
  tree.files.contains place ||
    match (tree.folderAt place.dropLast).entries.find? (place.getLastD "") with
    | some (.file _) => true
    | _ => false

/-- Where steps lead from a place. A file can be left in no direction, not even to stay. -/
def follow (tree : FileTree) (place : Place) : List String → Except FileFault Place
  | [] => if tree.isFile place then .error .present else .ok place
  | step :: rest =>
    if tree.isFile place then .error .notDirectory
    else if step = "." then tree.follow place rest
    else if step = ".." then tree.follow place.dropLast rest
    else if Folder.tooLong step then .error .nameTooLong
    else tree.follow (place ++ [step]) rest

def steps (path : String) : List String := (path.splitOn "/").filter (· ≠ "")

def locate (tree : FileTree) (path : String) : Except FileFault Place :=
  if pathLimit ≤ path.utf8ByteSize then .error .nameTooLong
  else tree.follow (if path.startsWith "/" then [] else tree.working) (steps path)

/-- The directory at a path, which is made if nothing is there. -/
def openFolder (tree : FileTree) (path : String) : Except FileFault Folder :=
  (tree.locate path).map tree.folderAt

end FileTree

end Resharing
