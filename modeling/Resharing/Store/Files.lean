import Resharing.Store.Basic
import Resharing.Store.Folder

/-!
# Stores of files

The value under a key is the content of a file whose name is the key in base sixteen.
A value is written to a temporary file, which then takes the key's name. Putting goes
in three steps, so that several can be interleaved.

## Main definitions

* `FileStore.fileName`, `FileStore.temporaryName`
* `FileStore.Put`, `FileStore.Put.step`: putting, step by step
* `FileStore.store`: the store in a folder
-/

namespace Resharing.FileStore

def fileName (key : Bytes) : String := Hex.encode key

/-- The name of the temporary file of a key. -/
def temporaryName (key : Bytes) : String := fileName key ++ ".tmp"

/-- How far putting a value has come. -/
inductive PutPhase where
  /-- The temporary file is to be opened. -/
  | begun
  /-- The temporary file is open and empty. -/
  | opened (file : Nat)
  | written
  | ended (result : Except FileFault Unit)

/-- The putting of a value under a key. -/
structure Put where
  key : Bytes
  value : Bytes
  phase : PutPhase

/-- Takes the next step. The file of the empty key would be the folder itself. -/
def Put.step (put : Put) (folder : Folder) : Put × Folder :=
  match put.phase with
  | .begun =>
    if put.key = [] then ({ put with phase := .ended (.error .notDirectory) }, folder)
    else
      -- A put of the same key that is under way has the same file open, which is emptied.
      match folder.truncate (temporaryName put.key) with
      | .ok (file, folder) => ({ put with phase := .opened file }, folder)
      | .error fault => ({ put with phase := .ended (.error fault) }, folder)
  | .opened file => ({ put with phase := .written }, folder.write file put.value)
  | .written =>
    -- Another put of the key may have taken the temporary name away.
    match folder.rename (temporaryName put.key) (fileName put.key) with
    | .ok folder => ({ put with phase := .ended (.ok ()) }, folder)
    | .error fault => ({ put with phase := .ended (.error fault) }, folder)
  | .ended _ => (put, folder)

/-- The result of a put that is over. -/
def Put.result (put : Put) : Except FileFault Unit :=
  match put.phase with
  | .ended result => result
  | _ => .ok ()

/-- Puts a value under a key, alone. -/
def put (key value : Bytes) (folder : Folder) : Except FileFault Unit × Folder :=
  let (first, folder) := Put.step ⟨key, value, .begun⟩ folder
  let (second, folder) := first.step folder
  let (third, folder) := second.step folder
  (third.result, folder)

def get (key : Bytes) (folder : Folder) : Except FileFault (Option Bytes) :=
  if key = [] then .error .isDirectory
  else
    match folder.read (fileName key) with
    | .ok value => .ok (some value)
    | .error .missing => .ok none
    | .error fault => .error fault

/-- A folder with the files of some keys and values. -/
def ofEntries (entries : List (Bytes × Bytes)) : Folder :=
  .ofFiles (entries.map fun (key, value) => (fileName key, value))

/-- The keys and values whose files are in a folder. -/
def entries (folder : Folder) : List (Bytes × Bytes) :=
  folder.names.filterMap fun name => do
    return (← (Hex.decode name).toOption, ← (folder.read name).toOption)

/-- Makes a directory where the file of a key would be. -/
def obstruct (key : Bytes) (folder : Folder) : Folder :=
  ((folder.makeDirectory (fileName key)).toOption).getD folder

/-- A failed operation as a failure of the store. -/
def blame {α : Type} (result : Except FileFault α) : Except Error α :=
  result.mapError fun fault => .storage fault.message

def store : Store Folder where
  get key := ExceptT.mk fun folder => (blame (get key folder), folder)
  put key value := ExceptT.mk fun folder =>
    let (result, folder) := put key value folder
    (blame result, folder)

end Resharing.FileStore
