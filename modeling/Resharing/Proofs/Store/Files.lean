import Resharing.Proofs.Store.Keeping
import Resharing.Proofs.Table.Entries
import Resharing.Proofs.Text.Hex
import Resharing.Store.Files

/-!
# A folder keeps what is put

A value is written to a temporary file, which takes the name of its key at the end. The names of
different keys are different, and no temporary name is that of a key, so putting a value touches
neither the value under another key nor the file that another put has left behind. It succeeds if
and only if the names are short enough and no directory is in the way.

## Main definitions

* `Folder.Sound`: names lead to different files
* `FileStore.content`: what is under a key
* `FileStore.Admits`: a value can be put under a key
* `FileStore.Stored`: what putting a value leaves

## Main results

* `Folder.Sound.truncate`, `Folder.Sound.rename`: what opening and renaming a file do
* `FileStore.keeps_store`: a folder keeps what is put
* `FileStore.shows_store`: what is there can be got
* `FileStore.usable_iff`: which keys have files with short names
* `FileStore.serves_store`: it does not fail where no directory is in the way
* `FileStore.clear_ofEntries`: nor is one in a folder that is made of files
-/

namespace Resharing

/-! ### Folders -/

namespace Folder

variable {folder : Folder} {name source target : String} {file : Nat}

/-- Every file that has a name has been made, and has one name. -/
structure Sound (folder : Folder) : Prop where
  numbered : ∀ {name file}, folder.entries.find? name = some (.file file) → file < folder.files
  unshared : ∀ {name other file}, folder.entries.find? name = some (.file file) →
    folder.entries.find? other = some (.file file) → name = other

theorem sound_empty : empty.Sound := ⟨nofun, nofun⟩

/-- A name may lead to a file to which no other name leads. -/
theorem sound_of_names {next : Folder} {rest : String → Option FolderEntry}
    (names : ∀ other, next.entries.find? other =
      if other = name then some (.file file) else rest other)
    (made : file < next.files)
    (numbered : ∀ other number, rest other = some (.file number) → number < next.files)
    (unshared : ∀ left right number, rest left = some (.file number) →
      rest right = some (.file number) → left = right)
    (alone : ∀ other, rest other ≠ some (.file file)) : next.Sound := by
  constructor
  · intro other number leads
    rw [names] at leads
    split_ifs at leads
    · cases leads
      exact made
    · exact numbered _ _ leads
  · intro left right number leads leadsToo
    rw [names] at leads leadsToo
    split_ifs at leads leadsToo with isNew isNewToo isNewToo
    · rw [isNew, isNewToo]
    · cases leads
      exact absurd leadsToo (alone right)
    · cases leadsToo
      exact absurd leads (alone left)
    · exact unshared _ _ _ leads leadsToo

theorem content_insert (entries : Table String FolderEntry) (files : Nat) (bytes : Bytes)
    (number : Nat) :
    (Folder.mk entries (folder.contents.insert file bytes) files).content number =
      if number = file then bytes else folder.content number := by
  simp only [content, Table.find?_insert, beq_iff_eq]
  split_ifs <;> rfl

/-- A file that can be opened is empty then. A missing one is made. -/
theorem Sound.truncate (sound : folder.Sound) (short : tooLong name = false)
    (free : folder.entries.find? name ≠ some .directory) :
    ∃ file next, folder.truncate name = .ok (file, next) ∧ next.Sound ∧
      (∀ other, next.entries.find? other =
        if other = name then some (.file file) else folder.entries.find? other) ∧
      ∀ number, next.content number = if number = file then [] else folder.content number := by
  unfold Folder.truncate
  cases present : folder.entries.find? name with
  | none =>
    have named : ∀ other, (folder.entries.insert name (.file folder.files)).find? other =
        if other = name then some (.file folder.files) else folder.entries.find? other := by
      intro other
      simp only [Table.find?_insert, beq_iff_eq]
    refine ⟨folder.files, ⟨folder.entries.insert name (.file folder.files),
      folder.contents.insert folder.files [], folder.files + 1⟩, by simp [short], ?_, named,
      content_insert _ _ _⟩
    apply sound_of_names named (Nat.lt_succ_self _)
    · intro other number leads
      exact Nat.lt_succ_of_lt (sound.numbered leads)
    · intro left right number leads leadsToo
      exact sound.unshared leads leadsToo
    · intro other leads
      exact absurd (sound.numbered leads) (Nat.lt_irrefl _)
  | some entry =>
    cases entry with
    | directory => exact absurd present free
    | file file =>
      refine ⟨file, { folder with contents := folder.contents.insert file [] }, by simp [short],
        ⟨sound.numbered, sound.unshared⟩, ?_, content_insert _ _ _⟩
      intro other
      split_ifs with same
      · rw [same]
        exact present
      · rfl

theorem content_write (folder : Folder) (file : Nat) (bytes : Bytes) (number : Nat) :
    (folder.write file bytes).content number =
      if number = file then bytes ++ (folder.content file).drop bytes.length
      else folder.content number :=
  content_insert _ _ _ _

/-- Writing changes no name. -/
theorem Sound.write (sound : folder.Sound) (file : Nat) (bytes : Bytes) :
    (folder.write file bytes).Sound := ⟨sound.numbered, sound.unshared⟩

/-- A file that takes another name is found under this one only. -/
theorem Sound.rename (sound : folder.Sound) (short : tooLong source = false)
    (shortToo : tooLong target = false) (there : folder.entries.find? source = some (.file file))
    (free : folder.entries.find? target ≠ some .directory) :
    ∃ next, folder.rename source target = .ok next ∧ next.Sound ∧
      (∀ other, next.entries.find? other =
        if other = target then some (.file file)
        else if other = source then none else folder.entries.find? other) ∧
      ∀ number, next.content number = folder.content number := by
  have named : ∀ other,
      ((folder.entries.erase source).insert target (.file file)).find? other =
        if other = target then some (.file file)
        else if other = source then none else folder.entries.find? other := by
    intro other
    simp only [Table.find?_insert, Table.find?_erase, beq_iff_eq]
  refine ⟨{ folder with entries := (folder.entries.erase source).insert target (.file file) }, ?_,
    ?_, named, fun _ => rfl⟩
  · unfold Folder.rename
    rw [there]
    cases lost : folder.entries.find? target with
    | none => simp [short, shortToo]
    | some entry =>
      cases entry with
      | directory => exact absurd lost free
      | file => simp [short, shortToo]
  · have made : file < folder.files := sound.numbered there
    refine sound_of_names named made ?_ ?_ ?_
    · intro other number leads
      split_ifs at leads
      exact sound.numbered leads
    · intro left right number leads leadsToo
      split_ifs at leads leadsToo
      exact sound.unshared leads leadsToo
    · intro other leads
      split_ifs at leads with gone
      exact gone (sound.unshared leads there)

/-- A file that is opened has a short name, at which there is no directory. -/
theorem truncate_eq_ok {opened : Nat × Folder} (done : folder.truncate name = .ok opened) :
    tooLong name = false ∧ folder.entries.find? name ≠ some .directory := by
  unfold Folder.truncate at done
  split_ifs at done with long
  refine ⟨by simpa using long, fun directory => ?_⟩
  simp [directory] at done

/-- Opening a file that is there opens that file. -/
theorem eq_of_truncate {opened : Nat × Folder} (done : folder.truncate name = .ok opened)
    (there : folder.entries.find? name = some (.file file)) : opened.1 = file := by
  unfold Folder.truncate at done
  split_ifs at done
  rw [there] at done
  rw [← Except.ok.inj done]

/-- A file that is renamed takes a short name, at which there was no directory. -/
theorem rename_eq_ok {next : Folder} (done : folder.rename source target = .ok next) :
    tooLong target = false ∧
      (folder.entries.find? source = some (.file file) →
        folder.entries.find? target ≠ some .directory) := by
  unfold Folder.rename at done
  split_ifs at done with long
  refine ⟨?_, fun there directory => ?_⟩
  · simpa using (not_or.mp long).2
  · simp [there, directory] at done

/-- A folder in which there are files only. -/
structure Plain (folder : Folder) : Prop extends folder.Sound where
  plain : ∀ name, folder.entries.find? name ≠ some .directory

theorem Plain.make {opened : Nat × Folder} (only : folder.Plain)
    (made : folder.truncate name = .ok opened) (bytes : Bytes) :
    (opened.2.write opened.1 bytes).Plain := by
  obtain ⟨file, next, again, sound, names, -⟩ :=
    only.toSound.truncate (truncate_eq_ok made).1 (only.plain name)
  obtain rfl := Except.ok.inj (made.symm.trans again)
  refine ⟨sound.write file bytes, fun other directory => ?_⟩
  have there : next.entries.find? other = some .directory := directory
  rw [names] at there
  split_ifs at there with same
  · cases there
  · exact only.plain other there

theorem plain_ofFiles (files : List (String × Bytes)) : (ofFiles files).Plain := by
  refine List.foldlRecOn files _ ⟨sound_empty, nofun⟩ fun folder only entry _ => ?_
  obtain ⟨name, bytes⟩ := entry
  cases made : folder.truncate name with
  | error fault => simpa only [made] using only
  | ok opened => simpa only [made] using only.make made bytes

end Folder

/-! ### Stores of files -/

namespace FileStore

open Folder

variable {folder next : Folder} {key value : Bytes} {keys : Bytes → Prop} {file : Nat}

theorem fileName_injective : Function.Injective fileName := Hex.encode_injective

/-- No key has the name of a temporary file. -/
theorem fileName_ne_temporaryName {other : Bytes} : fileName key ≠ temporaryName other :=
  Hex.encode_ne_of_mem (by simp [temporaryName, String.toList_append])

/-- What is under a key. -/
def content (folder : Folder) (key : Bytes) : Option Bytes :=
  match folder.entries.find? (fileName key) with
  | some (.file file) => some (folder.content file)
  | _ => none

/-- What is under a key is seen in its name and in the file that the name leads to. -/
theorem content_congr (named : next.entries.find? (fileName key) =
      folder.entries.find? (fileName key))
    (same : ∀ number, folder.entries.find? (fileName key) = some (.file number) →
      next.content number = folder.content number) : content next key = content folder key := by
  unfold content
  rw [named]
  cases present : folder.entries.find? (fileName key) with
  | none => rfl
  | some entry =>
    cases entry with
    | directory => rfl
    | file number => exact congrArg some (same number present)

/-- A value can be put under a key: its files have short names, and no directory is in the way. -/
structure Admits (folder : Folder) (key : Bytes) : Prop where
  nonempty : key ≠ []
  short : tooLong (fileName key) = false
  shortToo : tooLong (temporaryName key) = false
  free : folder.entries.find? (fileName key) ≠ some .directory
  freeToo : folder.entries.find? (temporaryName key) ≠ some .directory

/-- Opening the temporary file of a key changes nothing under any key. -/
theorem Admits.exists_opened (admits : Admits folder key) (sound : folder.Sound) :
    ∃ file opened, folder.truncate (temporaryName key) = .ok (file, opened) ∧ opened.Sound ∧
      (∀ name, opened.entries.find? name =
        if name = temporaryName key then some (.file file) else folder.entries.find? name) ∧
      opened.content file = [] ∧ ∀ other, content opened other = content folder other := by
  obtain ⟨file, opened, truncated, openSound, names, contents⟩ :=
    sound.truncate admits.shortToo admits.freeToo
  refine ⟨file, opened, truncated, openSound, names, (contents file).trans (if_pos rfl),
    fun other => ?_⟩
  have named : opened.entries.find? (fileName other) = folder.entries.find? (fileName other) :=
    (names _).trans (if_neg fileName_ne_temporaryName)
  refine content_congr named fun number leads => (contents number).trans (if_neg ?_)
  -- The file that is opened has the temporary name, and so no other.
  rintro rfl
  exact fileName_ne_temporaryName
    (openSound.unshared (named.trans leads) ((names (temporaryName key)).trans (if_pos rfl)))

/-- Nor does writing to the temporary file. -/
theorem content_write_temporary (sound : folder.Sound)
    (there : folder.entries.find? (temporaryName key) = some (.file file)) (bytes other : Bytes) :
    content (folder.write file bytes) other = content folder other := by
  refine content_congr rfl fun number leads => (content_write _ _ _ _).trans (if_neg ?_)
  rintro rfl
  exact fileName_ne_temporaryName (sound.unshared leads there)

/-- A value has been put under a key: nothing else has changed, but the temporary file is gone. -/
structure Stored (folder : Folder) (key value : Bytes) (next : Folder) : Prop where
  sound : next.Sound
  directories : ∀ name, next.entries.find? name = some .directory →
    folder.entries.find? name = some .directory
  content : ∀ other, content next other = if other = key then some value else content folder other

/-- What writing the temporary file and renaming it come to: the key's name leads to that file,
its temporary name nowhere, and other names where they did. -/
theorem Stored.of_renamed {opened : Folder} {file : Nat} (sound : next.Sound)
    (openSound : opened.Sound)
    (openNames : ∀ name, opened.entries.find? name =
      if name = temporaryName key then some (.file file) else folder.entries.find? name)
    (names : ∀ name, next.entries.find? name =
      if name = fileName key then some (.file file)
      else if name = temporaryName key then none else opened.entries.find? name)
    (written : next.content file = value)
    (unwritten : ∀ number, number ≠ file → next.content number = folder.content number) :
    Stored folder key value next := by
  have outside : ∀ name, name ≠ fileName key → name ≠ temporaryName key →
      next.entries.find? name = folder.entries.find? name := by
    intro name final passing
    rw [names, if_neg final, if_neg passing, openNames, if_neg passing]
  refine ⟨sound, fun name directory => ?_, fun other => ?_⟩
  · have final : name ≠ fileName key := by
      rintro rfl
      simp [names] at directory
    have passing : name ≠ temporaryName key := by
      rintro rfl
      simp [names] at directory
    rwa [outside name final passing] at directory
  · by_cases same : other = key
    · rw [if_pos same, same, FileStore.content, names, if_pos rfl]
      exact congrArg some written
    · have final : fileName other ≠ fileName key := fun equal => same (fileName_injective equal)
      rw [if_neg same]
      refine content_congr (outside _ final fileName_ne_temporaryName) fun number present => ?_
      -- The temporary file has one name, which is not that of another key.
      have foreign : number ≠ file := by
        rintro rfl
        have found : opened.entries.find? (fileName other) = some (.file number) :=
          (openNames _).trans ((if_neg fileName_ne_temporaryName).trans present)
        have foundToo := (openNames (temporaryName key)).trans (if_pos rfl)
        exact fileName_ne_temporaryName (openSound.unshared found foundToo)
      exact unwritten number foreign

/-- Where a value can be put, putting it succeeds. -/
theorem Admits.exists_stored (admits : Admits folder key) (sound : folder.Sound) (value : Bytes) :
    ∃ next, put key value folder = (.ok (), next) ∧ Stored folder key value next := by
  obtain ⟨file, opened, truncated, openSound, openNames, openContent⟩ :=
    sound.truncate admits.shortToo admits.freeToo
  have temporary : (opened.write file value).entries.find? (temporaryName key) =
      some (.file file) := (openNames _).trans (if_pos rfl)
  have vacant : (opened.write file value).entries.find? (fileName key) ≠ some .directory := by
    intro directory
    exact admits.free ((if_neg fileName_ne_temporaryName).symm.trans
      ((openNames _).symm.trans directory))
  obtain ⟨next, renamed, nextSound, nextNames, nextContent⟩ :=
    (openSound.write file value).rename admits.shortToo admits.short temporary vacant
  refine ⟨next, ?_, .of_renamed nextSound openSound openNames nextNames ?_ fun number foreign => ?_⟩
  · simp only [put, Put.step, if_neg admits.nonempty, truncated, renamed, Put.result]
  · rw [nextContent, content_write, if_pos rfl, openContent, if_pos rfl, List.drop_nil,
      List.append_nil]
  · rw [nextContent, content_write, if_neg foreign, openContent, if_neg foreign]

/-- Where a value cannot be put, putting it fails. -/
theorem admits_of_put (sound : folder.Sound) (done : put key value folder = (.ok (), next)) :
    Admits folder key := by
  by_cases empty : key = []
  · simp [put, Put.step, empty, Put.result] at done
  rcases truncated : folder.truncate (temporaryName key) with fault | ⟨file, opened⟩
  · simp [put, Put.step, empty, truncated, Put.result] at done
  rcases renamed : (opened.write file value).rename (temporaryName key) (fileName key) with
    fault | last
  · simp [put, Put.step, empty, truncated, renamed, Put.result] at done
  obtain ⟨shortToo, freeToo⟩ := truncate_eq_ok truncated
  obtain ⟨short, free⟩ := rename_eq_ok renamed
  obtain ⟨number, other, again, -, names, -⟩ := sound.truncate shortToo freeToo
  obtain ⟨rfl, rfl⟩ := Prod.mk.inj (Except.ok.inj (truncated.symm.trans again))
  have temporary : (opened.write file value).entries.find? (temporaryName key) =
      some (.file file) := (names _).trans (if_pos rfl)
  refine ⟨empty, short, shortToo, fun directory => free temporary ?_, freeToo⟩
  exact (names _).trans ((if_neg fileName_ne_temporaryName).trans directory)

theorem get_eq_ok {found : Option Bytes} (got : get key folder = .ok found) :
    found = content folder key := by
  unfold get Folder.read at got
  unfold content
  split_ifs at got with empty long
  cases present : folder.entries.find? (fileName key) with
  | none => simpa [present] using got.symm
  | some entry =>
    cases entry with
    | directory => simp [present] at got
    | file number => simpa [present] using got.symm

/-- Where a value can be put, getting tells what is there. -/
theorem Admits.get_eq (admits : Admits folder key) :
    get key folder = .ok (content folder key) := by
  unfold get content Folder.read
  rw [if_neg admits.nonempty, admits.short]
  cases present : folder.entries.find? (fileName key) with
  | none => rfl
  | some entry =>
    cases entry with
    | directory => exact absurd present admits.free
    | file => rfl

/-! ### The store in a folder -/

theorem blame_eq_ok {α : Type} {result : Except FileFault α} {a : α}
    (unblamed : blame result = .ok a) : result = .ok a := by
  cases result with
  | ok => exact congrArg Except.ok (Except.ok.inj unblamed)
  | error => cases unblamed

theorem perform_get (key : Bytes) (folder : Folder) :
    (store.get key).perform folder = (blame (get key folder), folder) := rfl

theorem perform_put (key value : Bytes) (folder : Folder) :
    (store.put key value).perform folder =
      (blame (put key value folder).1, (put key value folder).2) := rfl

theorem blame_eq_error {α : Type} {result : Except FileFault α} {error : Error}
    (blamed : blame result = .error error) : ∃ reason, error = .storage reason := by
  cases result with
  | ok => cases blamed
  | error fault => exact ⟨fault.message, (Except.error.inj blamed).symm⟩

theorem blamesStorage_store : store.BlamesStorage where
  get {key folder error next} failed := by
    rw [perform_get] at failed
    exact blame_eq_error (Prod.mk.inj failed).1
  put {key value folder error next} failed := by
    rw [perform_put] at failed
    exact blame_eq_error (Prod.mk.inj failed).1

/-- A folder keeps what is put. -/
theorem keeps_store : store.Keeps Folder.Sound content where
  get {key folder found next} _ got := by
    rw [perform_get] at got
    obtain ⟨told, same⟩ := Prod.mk.inj got
    exact ⟨get_eq_ok (blame_eq_ok told), same.symm⟩
  put {key value folder next} sound done := by
    rw [perform_put] at done
    obtain ⟨told, same⟩ := Prod.mk.inj done
    have success : put key value folder = (.ok (), next) := Prod.ext (blame_eq_ok told) same
    obtain ⟨last, again, stored⟩ := (admits_of_put sound success).exists_stored sound value
    obtain rfl := (Prod.mk.inj (success.symm.trans again)).2
    exact ⟨stored.sound, stored.content⟩

/-! ### Where nothing is in the way -/

/-- A key whose files have short names. -/
structure Usable (key : Bytes) : Prop where
  nonempty : key ≠ []
  short : key.length ≤ 125

/-- The keys of which a value can be put are those whose temporary files have short names. -/
theorem usable_iff : Usable key ↔ key ≠ [] ∧ tooLong (temporaryName key) = false := by
  have size := Hex.utf8ByteSize_encode key
  have ending : (".tmp" : String).utf8ByteSize = 4 := by decide
  have long : tooLong (temporaryName key) = false ↔ key.length ≤ 125 := by
    simp only [tooLong, nameLimit, temporaryName, fileName, String.utf8ByteSize_append, size,
      ending, decide_eq_false_iff_not]
    omega
  rw [long]
  exact ⟨fun usable => ⟨usable.nonempty, usable.short⟩, fun both => ⟨both.1, both.2⟩⟩

theorem Usable.short_fileName (usable : Usable key) : tooLong (fileName key) = false := by
  have size := Hex.utf8ByteSize_encode key
  have bound := usable.short
  simp only [tooLong, nameLimit, fileName, size, decide_eq_false_iff_not]
  omega

/-- What is under a usable key can be got in every folder. -/
theorem shows_store (usable : ∀ {key}, keys key → Usable key) :
    store.Shows keys (fun _ => True) content where
  get {key folder bytes} among _ there := by
    unfold content at there
    rw [perform_get, get, Folder.read, if_neg (usable among).nonempty,
      (usable among).short_fileName]
    cases present : folder.entries.find? (fileName key) with
    | none => simp [present] at there
    | some entry =>
      cases entry with
      | directory => simp [present] at there
      | file number =>
        rw [present] at there
        cases there
        rfl

/-- A folder that is made of one file holds its value. -/
theorem content_ofEntries_singleton (usable : Usable key) (value other : Bytes) :
    content (ofEntries [(key, value)]) other = if other = key then some value else none := by
  have made : ofEntries [(key, value)] =
      ⟨⟨[(fileName key, .file 0)]⟩, ⟨[(0, value)]⟩, 1⟩ := by
    simp [ofEntries, ofFiles, truncate, usable.short_fileName, empty, Table.empty, Table.find?,
      Table.insert, Table.insertInto, write, Folder.content]
  rw [made, content]
  by_cases same : other = key
  · simp [same, Table.find?, Folder.content]
  · have differ : fileName other ≠ fileName key := fun equal => same (fileName_injective equal)
    simp [same, Table.find?, List.lookup_cons, beq_false_of_ne differ]

/-- No directory is where the files of some keys are to be. -/
structure Clear (keys : Bytes → Prop) (folder : Folder) : Prop extends folder.Sound where
  free : ∀ {key}, keys key → folder.entries.find? (fileName key) ≠ some .directory
  freeToo : ∀ {key}, keys key → folder.entries.find? (temporaryName key) ≠ some .directory

/-- Files are in nobody's way. -/
theorem clear_ofEntries (keys : Bytes → Prop) (entries : List (Bytes × Bytes)) :
    Clear keys (ofEntries entries) := by
  obtain ⟨sound, plain⟩ : (ofEntries entries).Plain := plain_ofFiles _
  exact ⟨sound, fun _ => plain _, fun _ => plain _⟩

theorem Clear.admits (clear : Clear keys folder) (among : keys key) (usable : Usable key) :
    Admits folder key :=
  ⟨usable.nonempty, usable.short_fileName, (usable_iff.mp usable).2, clear.free among,
    clear.freeToo among⟩

/-- A folder does not fail where no directory is in the way. -/
theorem serves_store (usable : ∀ {key}, keys key → Usable key) :
    store.Serves keys (Clear keys) where
  get {key folder} among clear := by
    have admits := clear.admits among (usable among)
    refine ⟨content folder key, ?_⟩
    rw [perform_get, admits.get_eq]
    rfl
  put {key folder} value among clear := by
    obtain ⟨next, done, stored⟩ :=
      (clear.admits among (usable among)).exists_stored clear.toSound value
    refine ⟨next, ?_, stored.sound, fun among => ?_, fun among => ?_⟩
    · rw [perform_put, done]
      rfl
    · exact fun directory => clear.free among (stored.directories _ directory)
    · exact fun directory => clear.freeToo among (stored.directories _ directory)

end FileStore

end Resharing
