import Resharing.Proofs.Store.Files
import Resharing.Store.FileTree

/-!
# A directory remembers what was put

One user puts and gets, and now and then opens the directory again. A put may fail on its way: the
temporary file cannot be opened, not all of the value can be written to it, or it cannot be renamed.
Whatever it leaves behind has a temporary name, which is nobody's, and the next put of the key
empties it. So what is got is what a store in memory would tell that has only been told of the puts
that succeeded.

## Main definitions

* `FileStore.Attempts`: what can come of a put
* `FileStore.Event`, `FileStore.Runs`: what one user does, and the directory then
* `FileStore.remembered`: a store in memory after the puts that succeeded

## Main results

* `FileStore.Attempts.of_error`: a put that fails changes nothing that can be got
* `FileStore.Attempts.of_ok`: a put that succeeds changes what is under its key
* `FileStore.Runs.agrees`: the directory and the store in memory hold the same
* `FileStore.answers_as_memory`: they give the same answers
-/

namespace Resharing.FileStore

open Folder

variable {start folder next : Folder} {key value bytes : Bytes} {keys : Bytes → Prop}

/-! ### Puts that may fail -/

/-- What can come of putting a value under a key, by how far the put comes. -/
inductive Attempts (key value : Bytes) (folder : Folder) : Except Error Unit → Folder → Prop
  | whole {result : Except Error Unit} {next : Folder}
      (performed : (store.put key value).perform folder = (result, next)) :
      Attempts key value folder result next
  /-- The temporary file cannot be opened. -/
  | unopened (reason : String) : Attempts key value folder (.error (.storage reason)) folder
  /-- The temporary file is open, and these bytes are what can be written to it. -/
  | unwritten {file : Nat} {opened : Folder}
      (first : Put.step ⟨key, value, .begun⟩ folder = (⟨key, value, .opened file⟩, opened))
      (bytes : Bytes) (reason : String) :
      Attempts key value folder (.error (.storage reason)) (opened.write file bytes)
  /-- The temporary file is written, and cannot be renamed. -/
  | unrenamed {file : Nat} {opened written : Folder}
      (first : Put.step ⟨key, value, .begun⟩ folder = (⟨key, value, .opened file⟩, opened))
      (second : Put.step ⟨key, value, .opened file⟩ opened = (⟨key, value, .written⟩, written))
      (reason : String) : Attempts key value folder (.error (.storage reason)) written

/-- Where no directory is in the way, the temporary file can be opened and written, which changes
nothing under any key. -/
theorem Clear.drafted (clear : Clear keys folder) (among : keys key) (usable : Usable key)
    {file : Nat} {opened : Folder}
    (first : Put.step ⟨key, value, .begun⟩ folder = (⟨key, value, .opened file⟩, opened))
    (bytes : Bytes) :
    Clear keys (opened.write file bytes) ∧
      ∀ other, content (opened.write file bytes) other = content folder other := by
  have admits := clear.admits among usable
  obtain ⟨number, next, truncated, sound, names, -, same⟩ := admits.exists_opened clear.toSound
  have step : Put.step ⟨key, value, .begun⟩ folder = (⟨key, value, .opened number⟩, next) := by
    simp only [Put.step, if_neg admits.nonempty, truncated]
  obtain ⟨put, rfl⟩ := Prod.mk.inj (first.symm.trans step)
  obtain rfl := PutPhase.opened.inj (Put.mk.inj put).2.2
  have there : opened.entries.find? (temporaryName key) = some (.file file) :=
    (names _).trans (if_pos rfl)
  have directories : ∀ name, opened.entries.find? name = some .directory →
      folder.entries.find? name = some .directory := by
    intro name directory
    rw [names] at directory
    split_ifs at directory
    · cases directory
    · exact directory
  refine ⟨⟨sound.write file bytes, fun among directory => ?_, fun among directory => ?_⟩,
    fun other => (content_write_temporary sound there bytes other).trans (same other)⟩
  · exact clear.free among (directories _ directory)
  · exact clear.freeToo among (directories _ directory)

/-- A put that nothing stops succeeds. -/
theorem Clear.exists_put (clear : Clear keys folder) (among : keys key) (usable : Usable key)
    (value : Bytes) : ∃ next, (store.put key value).perform folder = (.ok (), next) ∧
      Stored folder key value next := by
  obtain ⟨next, done, stored⟩ := (clear.admits among usable).exists_stored clear.toSound value
  refine ⟨next, ?_, stored⟩
  rw [perform_put, done]
  rfl

namespace Attempts

variable {error : Error}

/-- A put that fails changes nothing that can be got. -/
theorem of_error (attempts : Attempts key value folder (.error error) next)
    (clear : Clear keys folder) (among : keys key) (usable : Usable key) :
    Clear keys next ∧ ∀ other, content next other = content folder other := by
  cases attempts with
  | whole performed =>
    obtain ⟨last, done, -⟩ := clear.exists_put among usable value
    rw [done] at performed
    cases performed
  | unopened => exact ⟨clear, fun _ => rfl⟩
  | unwritten first bytes => exact clear.drafted among usable first bytes
  | unrenamed first second =>
    obtain ⟨-, rfl⟩ := Prod.mk.inj second
    exact clear.drafted among usable first value

/-- A put that succeeds changes what is under its key, and nothing else. -/
theorem of_ok (attempts : Attempts key value folder (.ok ()) next) (clear : Clear keys folder)
    (among : keys key) (usable : Usable key) :
    Clear keys next ∧
      ∀ other, content next other = if other = key then some value else content folder other := by
  cases attempts with
  | whole performed =>
    obtain ⟨last, done, stored⟩ := clear.exists_put among usable value
    rw [done] at performed
    obtain ⟨-, rfl⟩ := Prod.mk.inj performed
    refine ⟨⟨stored.sound, fun among directory => ?_, fun among directory => ?_⟩, stored.content⟩
    · exact clear.free among (stored.directories _ directory)
    · exact clear.freeToo among (stored.directories _ directory)

end Attempts

/-! ### What one user does -/

/-- What a user has done, and what has come of it. -/
inductive Event where
  | put (key value : Bytes) (result : Except Error Unit)
  | get (key : Bytes) (answer : Except Error (Option Bytes))
  | reopen

/-- The key that a user has named. -/
def Event.key? : Event → Option Bytes
  | .put key _ _ | .get key _ => some key
  | .reopen => none

/-- What one user does from a directory on, and the directory then. It may be opened again by any
path that leads there. -/
inductive Runs (start : Folder) : List Event → Folder → Prop
  | start : Runs start [] start
  | put {events : List Event} {folder next : Folder} {key value : Bytes}
      {result : Except Error Unit} (runs : Runs start events folder)
      (attempts : Attempts key value folder result next) :
      Runs start (events ++ [.put key value result]) next
  | get {events : List Event} {folder next : Folder} {key : Bytes}
      {answer : Except Error (Option Bytes)} (runs : Runs start events folder)
      (performed : (store.get key).perform folder = (answer, next)) :
      Runs start (events ++ [.get key answer]) next
  | reopen {events : List Event} {folder next : Folder} {tree : FileTree} {path : String}
      {place : Place} (runs : Runs start events folder) (located : tree.locate path = .ok place)
      (there : tree.folderAt place = folder) (opened : tree.openFolder path = .ok next) :
      Runs start (events ++ [.reopen]) next

/-- A store in memory is told of a put that has succeeded. -/
def Event.recall (memory : Table Bytes Bytes) : Event → Table Bytes Bytes
  | .put key value (.ok ()) => ((Store.ofTable.put key value).perform memory).2
  | _ => memory

/-- A store in memory after the puts that have succeeded. -/
def remembered (memory : Table Bytes Bytes) (events : List Event) : Table Bytes Bytes :=
  events.foldl Event.recall memory

/-- A directory in which nothing is in the way, and a store in memory with the same values. -/
structure Agrees (folder : Folder) (memory : Table Bytes Bytes) : Prop where
  clear : Clear Usable folder
  same : ∀ key, Usable key → content folder key = memory.find? key

variable {memory : Table Bytes Bytes} {events : List Event} {event : Event}

theorem remembered_concat :
    remembered memory (events ++ [event]) = event.recall (remembered memory events) :=
  List.foldl_append

namespace Agrees

/-- What is got from the directory is what the store in memory tells. -/
theorem perform_get (agrees : Agrees folder memory) (usable : Usable key) :
    (store.get key).perform folder = (((Store.ofTable.get key).perform memory).1, folder) := by
  have told : ((Store.ofTable.get key).perform memory).1 = .ok (memory.find? key) := rfl
  rw [FileStore.perform_get, (agrees.clear.admits usable usable).get_eq,
    agrees.same key usable, told]
  rfl

theorem put {result : Except Error Unit} (agrees : Agrees folder memory) (usable : Usable key)
    (attempts : Attempts key value folder result next) :
    Agrees next ((Event.put key value result).recall memory) := by
  cases result with
  | error error =>
    obtain ⟨clear, same⟩ := attempts.of_error agrees.clear usable usable
    exact ⟨clear, fun other among => (same other).trans (agrees.same other among)⟩
  | ok =>
    obtain ⟨clear, changed⟩ := attempts.of_ok agrees.clear usable usable
    have told : (Event.put key value (.ok ())).recall memory = memory.insert key value := rfl
    refine ⟨clear, fun other among => ?_⟩
    rw [changed, told, Table.find?_insert]
    simp only [beq_iff_eq, agrees.same other among]

end Agrees

/-- The directory and the store in memory go on holding the same. -/
theorem Runs.agrees (runs : Runs start events folder) (agrees : Agrees start memory)
    (usable : ∀ event ∈ events, ∀ key ∈ event.key?, Usable key) :
    Agrees folder (remembered memory events) := by
  induction runs with
  | start => exact agrees
  | put runs attempts ih =>
    obtain ⟨earlier, last⟩ := List.forall_mem_append.mp usable
    rw [remembered_concat]
    exact (ih earlier).put (last _ List.mem_cons_self _ rfl) attempts
  | get runs performed ih =>
    obtain ⟨earlier, last⟩ := List.forall_mem_append.mp usable
    rw [(ih earlier).perform_get (last _ List.mem_cons_self _ rfl)] at performed
    obtain ⟨-, rfl⟩ := Prod.mk.inj performed
    rw [remembered_concat]
    exact ih earlier
  | reopen runs located there opened ih =>
    rw [FileTree.openFolder, located] at opened
    obtain rfl := Except.ok.inj opened
    rw [remembered_concat, there]
    exact ih (List.forall_mem_append.mp usable).1

/-- An event that has others behind it, or that is the last one. -/
theorem eq_or_of_concat {before later : List Event} {last : Event}
    (split : events ++ [last] = before ++ event :: later) :
    (before = events ∧ event = last) ∨ ∃ rest, events = before ++ event :: rest := by
  rcases List.eq_nil_or_concat later with rfl | ⟨rest, final, rfl⟩
  · obtain ⟨rfl, same⟩ := List.append_inj' split rfl
    exact .inl ⟨rfl, (List.head_eq_of_cons_eq same).symm⟩
  · rw [List.concat_eq_append, ← List.cons_append, ← List.append_assoc] at split
    exact .inr ⟨rest, (List.append_inj' split rfl).1⟩

/-- An answer has been given from the directory as the earlier events left it. -/
theorem Runs.answered {before later : List Event} {answer : Except Error (Option Bytes)}
    (runs : Runs start events folder) (split : events = before ++ .get key answer :: later) :
    ∃ earlier next, Runs start before earlier ∧
      (store.get key).perform earlier = (answer, next) := by
  induction runs generalizing later with
  | start => exact absurd split.symm (by simp)
  | put runs attempts ih =>
    obtain ⟨-, ⟨⟩⟩ | ⟨rest, rfl⟩ := eq_or_of_concat split
    exact ih rfl
  | get runs performed ih =>
    obtain ⟨rfl, ⟨⟩⟩ | ⟨rest, rfl⟩ := eq_or_of_concat split
    · exact ⟨_, _, runs, performed⟩
    · exact ih rfl
  | reopen runs located there opened ih =>
    obtain ⟨-, ⟨⟩⟩ | ⟨rest, rfl⟩ := eq_or_of_concat split
    exact ih rfl

/-- Whatever puts fail on the way, and however often the directory is opened again, every answer is
the one that a store in memory gives that has been told of the puts that succeeded. A put that
nothing stops succeeds, one that fails changes no answer, and the file of a key is neither that of
another key nor a temporary one. -/
theorem answers_as_memory (agrees : Agrees start memory) (runs : Runs start events folder)
    (usable : ∀ event ∈ events, ∀ key ∈ event.key?, Usable key) :
    (∀ before key answer later, events = before ++ .get key answer :: later →
      answer = ((Store.ofTable.get key).perform (remembered memory before)).1) ∧
    (∀ key value, Usable key → ∃ next, (store.put key value).perform folder = (.ok (), next)) ∧
    (∀ key value error next, Usable key → Attempts key value folder (.error error) next →
      ∀ other, Usable other →
        ((store.get other).perform next).1 = ((store.get other).perform folder).1) ∧
    (∀ key name file, folder.entries.find? (fileName key) = some (.file file) →
      folder.entries.find? name = some (.file file) → name = fileName key) ∧
    ∀ key other, (fileName key = fileName other → key = other) ∧
      fileName key ≠ temporaryName other := by
  have now := runs.agrees agrees usable
  refine ⟨?_, fun key value among => ?_, ?_, ?_, fun key other => ⟨?_, fileName_ne_temporaryName⟩⟩
  · rintro before key answer later rfl
    obtain ⟨earlier, next, runs, performed⟩ := runs.answered rfl
    obtain ⟨first, second⟩ := List.forall_mem_append.mp usable
    have agreed := runs.agrees agrees first
    rw [agreed.perform_get (second _ List.mem_cons_self _ rfl)] at performed
    exact (Prod.mk.inj performed).1.symm
  · obtain ⟨next, done, -⟩ := now.clear.exists_put among among value
    exact ⟨next, done⟩
  · intro key value error next among attempts other amongToo
    rw [now.perform_get amongToo, (now.put among attempts).perform_get amongToo]
    rfl
  · intro key name file there thereToo
    exact now.clear.unshared thereToo there
  · exact fun same => fileName_injective same

/-- A dot leads to the working directory, unless that is a file. -/
theorem locate_dot {tree : FileTree} (free : tree.isFile tree.working = false) :
    tree.locate "." = .ok tree.working := by
  have steps : FileTree.steps "." = ["."] := by
    simp only [FileTree.steps, String.splitOn]
    rw [String.splitOnAux, String.splitOnAux]
    decide
  have relative : ".".startsWith "/" = false := by simp
  rw [FileTree.locate, if_neg (by decide), steps, relative]
  simp [FileTree.follow, free]

theorem agrees_empty : Agrees .empty .empty :=
  ⟨clear_ofEntries Usable [], fun _ _ => rfl⟩

/-- A value is put, another one only in part, and the directory is opened again. -/
def interrupted : List Event :=
  [.put [107] [1] (.ok ()), .put [107] [2, 2] (.error (.storage "disk full")), .reopen]

/-- The directory then: the part that was written is still in the temporary file. -/
def leftover : Folder :=
  ⟨⟨[("6b", .file 0), ("6b.tmp", .file 1)]⟩, ⟨[(0, [1]), (1, [2])]⟩, 2⟩

theorem answers_as_memory_interrupted :
    Agrees .empty .empty ∧ Runs .empty (interrupted ++ [.get [107] (.ok (some [1]))]) leftover ∧
      (∀ event ∈ interrupted ++ [.get [107] (.ok (some [1]))], ∀ key ∈ event.key?, Usable key) ∧
      .ok (some [1]) = ((Store.ofTable.get [107]).perform (remembered .empty interrupted)).1 := by
  let tree : FileTree := ⟨["data"], [(["data"], leftover)], []⟩
  let stored : Folder := ⟨⟨[("6b", .file 0)]⟩, ⟨[(0, [1])]⟩, 1⟩
  let opened : Folder := ⟨⟨[("6b", .file 0), ("6b.tmp", .file 1)]⟩, ⟨[(0, [1]), (1, [])]⟩, 2⟩
  have runs : Runs .empty (interrupted ++ [.get [107] (.ok (some [1]))]) leftover := by
    have put : (store.put [107] [1]).perform .empty = (.ok (), stored) := rfl
    have first : Put.step ⟨[107], [2, 2], .begun⟩ stored =
        (⟨[107], [2, 2], .opened 1⟩, opened) := rfl
    have partly : Runs .empty (interrupted.take 2) leftover :=
      .put (.put .start (.whole put)) (.unwritten first [2] "disk full")
    have located : tree.locate "." = .ok ["data"] := locate_dot rfl
    have reopened : Runs .empty interrupted leftover :=
      .reopen partly located rfl (congrArg (Except.map tree.folderAt) located)
    exact .get reopened rfl
  have usable : ∀ event ∈ interrupted ++ [.get [107] (.ok (some [1]))],
      ∀ key ∈ event.key?, Usable key := by
    have short : Usable [107] := ⟨by decide, by decide⟩
    simp [interrupted, Event.key?, short]
  exact ⟨agrees_empty, runs, usable,
    (answers_as_memory agrees_empty runs usable).1 interrupted [107] _ [] rfl⟩

end Resharing.FileStore
