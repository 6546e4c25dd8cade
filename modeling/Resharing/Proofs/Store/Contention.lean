import Mathlib.Data.List.Induction
import Mathlib.Logic.Function.Basic
import Resharing.Proofs.Store.Files

/-!
# Two puts of one key at the same time

Two users of a directory put values under one key. Each opens the temporary file, writes it and
renames it, and between any two of these steps the other may take some of his own. The temporary
name is that of the key, so whoever opens the file while the other has it under way opens the same
file and empties it.

If the two are never under way together, they are as good as one after the other. If they are, one
of them renames the file and the other finds no file to rename; what is under the key meanwhile may
be empty, and what is there in the end may be one value written over the other.

## Main definitions

* `FileStore.Contest`: two puts of one key in a folder
* `FileStore.Contest.run`: what comes of them when they take turns by a schedule
* `FileStore.Contest.Overlapping`: they are under way together at some time
* `FileStore.Put.Alone`: where a put stands that nobody has interfered with
* `FileStore.Contest.Apart`, `FileStore.Contest.Met`: where two puts stand that have not been
  under way together, and where they stand that have

## Main results

* `FileStore.Put.Alone.step`: a step of a put that nobody interferes with
* `FileStore.Contest.Apart.turn`, `FileStore.Contest.Met.turn`: a step of one of two puts
* `FileStore.Contest.apart_or_met`: where two puts stand after any schedule
* `FileStore.Contest.contending_puts`: what two puts come to, and what is read meanwhile
-/

namespace Resharing.FileStore

open Folder

variable {start folder next : Folder} {key value bytes : Bytes} {file number : Nat}
  {before : Option Bytes}

/-! ### Folders in which one key is put -/

/-- Bytes written over the beginning of others. -/
def overlay (bytes under : Bytes) : Bytes := bytes ++ under.drop bytes.length

@[simp] theorem overlay_nil (bytes : Bytes) : overlay bytes [] = bytes := by simp [overlay]

/-- A value can be put under a key, and what is under other keys is what was there at the start. -/
structure Kept (start : Folder) (key : Bytes) (folder : Folder) : Prop where
  sound : folder.Sound
  admits : Admits folder key
  others : ∀ other, other ≠ key → content folder other = content start other

namespace Kept

/-- The temporary file can be opened, which is the one that was there. -/
theorem exists_opened (kept : Kept start key folder) :
    ∃ file next, folder.truncate (temporaryName key) = .ok (file, next) ∧ Kept start key next ∧
      next.entries.find? (temporaryName key) = some (.file file) ∧ next.content file = [] ∧
      content next key = content folder key ∧
      ∀ number, folder.entries.find? (temporaryName key) = some (.file number) → number = file := by
  obtain ⟨file, next, opened, sound, names, empty, same⟩ := kept.admits.exists_opened kept.sound
  have there : next.entries.find? (temporaryName key) = some (.file file) :=
    (names _).trans (if_pos rfl)
  refine ⟨file, next, opened, ⟨sound, ⟨kept.admits.nonempty, kept.admits.short,
    kept.admits.shortToo, ?_, ?_⟩,
    fun other differ => (same other).trans (kept.others other differ)⟩,
    there, empty, same key, fun number leads => (eq_of_truncate opened leads).symm⟩
  · rw [names, if_neg fileName_ne_temporaryName]
    exact kept.admits.free
  · simp [there]

/-- Writing to a file that is under no other key. -/
theorem write (kept : Kept start key folder) {name : String}
    (there : folder.entries.find? name = some (.file file))
    (own : ∀ other, other ≠ key → fileName other ≠ name) (bytes : Bytes) :
    Kept start key (folder.write file bytes) := by
  refine ⟨kept.sound.write file bytes, ⟨kept.admits.nonempty, kept.admits.short,
    kept.admits.shortToo, kept.admits.free, kept.admits.freeToo⟩, fun other differ => ?_⟩
  have same : content (folder.write file bytes) other = content folder other := by
    refine content_congr rfl fun number leads => ?_
    have foreign : number ≠ file := by
      rintro rfl
      exact own other differ (kept.sound.unshared leads there)
    rw [content_write, if_neg foreign]
  exact same.trans (kept.others other differ)

/-- Writing to the temporary file. -/
theorem write_temporary (kept : Kept start key folder)
    (there : folder.entries.find? (temporaryName key) = some (.file file)) (bytes : Bytes) :
    Kept start key (folder.write file bytes) ∧
      content (folder.write file bytes) key = content folder key :=
  ⟨kept.write there (fun _ _ => fileName_ne_temporaryName) bytes,
    content_write_temporary kept.sound there bytes key⟩

/-- The temporary file can be renamed. -/
theorem exists_renamed (kept : Kept start key folder)
    (there : folder.entries.find? (temporaryName key) = some (.file file)) :
    ∃ next, folder.rename (temporaryName key) (fileName key) = .ok next ∧ Kept start key next ∧
      next.entries.find? (temporaryName key) = none ∧
      next.entries.find? (fileName key) = some (.file file) ∧
      next.content file = folder.content file := by
  obtain ⟨next, renamed, sound, names, contents⟩ :=
    kept.sound.rename kept.admits.shortToo kept.admits.short there kept.admits.free
  have gone : next.entries.find? (temporaryName key) = none :=
    (names _).trans ((if_neg (Ne.symm fileName_ne_temporaryName)).trans (if_pos rfl))
  have final : next.entries.find? (fileName key) = some (.file file) :=
    (names _).trans (if_pos rfl)
  refine ⟨next, renamed, ⟨sound, ⟨kept.admits.nonempty, kept.admits.short, kept.admits.shortToo,
    ?_, ?_⟩, fun other differ => ?_⟩, gone, final, contents file⟩
  · simp [final]
  · simp [gone]
  · refine (content_congr ?_ fun number _ => contents number).trans (kept.others other differ)
    rw [names, if_neg fun same => differ (fileName_injective same),
      if_neg fileName_ne_temporaryName]

theorem rename_missing (kept : Kept start key folder)
    (gone : folder.entries.find? (temporaryName key) = none) :
    folder.rename (temporaryName key) (fileName key) = .error .missing := by
  simp [rename, kept.admits.short, kept.admits.shortToo, gone]

end Kept

theorem content_of_file (there : folder.entries.find? (fileName key) = some (.file file)) :
    content folder key = some (folder.content file) := by
  rw [content, there]

/-! ### One put -/

/-- The temporary file is open or written, and not yet renamed. -/
def PutPhase.Underway : PutPhase → Prop
  | .opened _ | .written => True
  | _ => False

/-- The value has been written. -/
def PutPhase.Wrote : PutPhase → Prop
  | .written | .ended _ => True
  | _ => False

/-- The put writes, or has written, to a file. -/
def PutPhase.Holds (file : Nat) : PutPhase → Prop
  | .begun => False
  | .opened number => number = file
  | _ => True

/-- How many steps have been taken. -/
def PutPhase.rank : PutPhase → Nat
  | .begun => 0
  | .opened _ => 1
  | .written => 2
  | .ended _ => 3

/-- How far a put has come that nobody has interfered with since it began, when there was `before`
under its key. -/
def PutPhase.Alone (folder : Folder) (key value : Bytes) (before : Option Bytes) : PutPhase → Prop
  | .begun => content folder key = before
  | .opened file => folder.entries.find? (temporaryName key) = some (.file file) ∧
      folder.content file = [] ∧ content folder key = before
  | .written => ∃ file, folder.entries.find? (temporaryName key) = some (.file file) ∧
      folder.content file = value ∧ content folder key = before
  | .ended result => result = .ok () ∧ content folder key = some value

namespace PutPhase.Alone

variable {phase : PutPhase}

/-- What is under the key is what was there before, or the value that is put. -/
theorem content_eq (alone : phase.Alone folder key value before) :
    content folder key = before ∨ content folder key = some value := by
  cases phase with
  | begun => exact .inl alone
  | opened file => exact .inl alone.2.2
  | written =>
    obtain ⟨file, -, -, same⟩ := alone
    exact .inl same
  | ended result => exact .inr alone.2

/-- A put that is over has succeeded. -/
theorem of_ended (alone : phase.Alone folder key value before) (ended : 3 ≤ phase.rank) :
    phase = .ended (.ok ()) ∧ content folder key = some value := by
  cases phase with
  | ended result =>
    obtain ⟨rfl, there⟩ := alone
    exact ⟨rfl, there⟩
  | _ => simp [rank] at ended

/-- A put that is under way holds the temporary file. -/
theorem of_underway (alone : phase.Alone folder key value before) (underway : phase.Underway) :
    ∃ file, folder.entries.find? (temporaryName key) = some (.file file) ∧ phase.Holds file ∧
      content folder key = before := by
  cases phase with
  | opened file => exact ⟨file, alone.1, rfl, alone.2.2⟩
  | written =>
    obtain ⟨file, there, -, same⟩ := alone
    exact ⟨file, there, trivial, same⟩
  | _ => exact underway.elim

end PutPhase.Alone

namespace Put

variable {put : Put}

/-- Three steps are enough. -/
theorem rank_step (put : Put) (folder : Folder) :
    min 3 (put.phase.rank + 1) ≤ (put.step folder).1.phase.rank := by
  unfold step
  split
  case h_1 phase =>
    rw [phase]
    split_ifs
    · exact Nat.min_le_left _ _
    · split
      · exact Nat.min_le_right _ _
      · exact Nat.min_le_left _ _
  case h_2 phase =>
    rw [phase]
    exact Nat.min_le_right _ _
  case h_3 phase =>
    rw [phase]
    split <;> exact Nat.min_le_left _ _
  case h_4 phase =>
    rw [phase]
    exact Nat.min_le_left _ _

theorem step_begun (phase : put.phase = .begun) (nonempty : put.key ≠ [])
    (opened : folder.truncate (temporaryName put.key) = .ok (file, next)) :
    put.step folder = ({ put with phase := .opened file }, next) := by
  simp only [step, phase, if_neg nonempty, opened]

theorem step_opened (phase : put.phase = .opened file) :
    put.step folder = ({ put with phase := .written }, folder.write file put.value) := by
  simp only [step, phase]

theorem step_renamed (phase : put.phase = .written)
    (renamed : folder.rename (temporaryName put.key) (fileName put.key) = .ok next) :
    put.step folder = ({ put with phase := .ended (.ok ()) }, next) := by
  simp only [step, phase, renamed]

theorem step_missing (phase : put.phase = .written)
    (missing : folder.rename (temporaryName put.key) (fileName put.key) = .error .missing) :
    put.step folder = ({ put with phase := .ended (.error .missing) }, folder) := by
  simp only [step, phase, missing]

theorem step_ended {result : Except FileFault Unit} (phase : put.phase = .ended result) :
    put.step folder = (put, folder) := by
  simp only [step, phase]

/-- A step of a put that nobody interferes with. -/
theorem alone_step (put : Put) (alone : put.phase.Alone folder put.key put.value before)
    (kept : Kept start put.key folder) :
    (put.step folder).1.phase.Alone (put.step folder).2 put.key put.value before ∧
      Kept start put.key (put.step folder).2 := by
  cases phase : put.phase with
  | begun =>
    rw [phase] at alone
    obtain ⟨file, next, opened, later, there, empty, same, -⟩ := kept.exists_opened
    rw [step_begun phase kept.admits.nonempty opened]
    exact ⟨⟨there, empty, same.trans alone⟩, later⟩
  | opened file =>
    rw [phase] at alone
    obtain ⟨there, empty, same⟩ := alone
    obtain ⟨later, unchanged⟩ := kept.write_temporary there put.value
    rw [step_opened phase]
    refine ⟨⟨file, there, ?_, unchanged.trans same⟩, later⟩
    rw [content_write, if_pos rfl, empty, List.drop_nil, List.append_nil]
  | written =>
    rw [phase] at alone
    obtain ⟨file, there, written, -⟩ := alone
    obtain ⟨next, renamed, later, -, final, kept⟩ := kept.exists_renamed there
    rw [step_renamed phase renamed]
    refine ⟨⟨rfl, ?_⟩, later⟩
    rw [content_of_file final, kept, written]
  | ended result =>
    rw [step_ended phase]
    exact ⟨alone, kept⟩

end Put

/-! ### Two puts -/

/-- Who puts. -/
inductive Writer where
  | first
  | second
  deriving DecidableEq

/-- The other one of the two. -/
def Writer.rival : Writer → Writer
  | .first => .second
  | .second => .first

theorem Writer.rival_ne (writer : Writer) : writer.rival ≠ writer := by cases writer <;> nofun

@[simp] theorem Writer.rival_rival (writer : Writer) : writer.rival.rival = writer := by
  cases writer <;> rfl

theorem Writer.eq_or_eq_rival (other writer : Writer) : other = writer ∨ other = writer.rival := by
  cases other <;> cases writer <;> decide

/-- Two puts of one key in a folder, and how far each has come. -/
structure Contest where
  key : Bytes
  values : Writer → Bytes
  phases : Writer → PutPhase
  folder : Folder

namespace Contest

def begin (key : Bytes) (values : Writer → Bytes) (folder : Folder) : Contest :=
  ⟨key, values, fun _ => .begun, folder⟩

/-- The put of one of the two. -/
def put (contest : Contest) (writer : Writer) : Put :=
  ⟨contest.key, contest.values writer, contest.phases writer⟩

/-- One of the two takes the next step. -/
def turn (contest : Contest) (writer : Writer) : Contest :=
  { contest with
    phases := Function.update contest.phases writer
      ((contest.put writer).step contest.folder).1.phase
    folder := ((contest.put writer).step contest.folder).2 }

/-- The two take turns by a schedule. -/
def run (contest : Contest) (schedule : List Writer) : Contest := schedule.foldl turn contest

/-- Both puts have the temporary file under way. -/
def Meets (contest : Contest) : Prop := ∀ writer, (contest.phases writer).Underway

/-- At some time both puts have the temporary file under way. -/
def Overlapping (contest : Contest) (schedule : List Writer) : Prop :=
  ∃ early, early <+: schedule ∧ (contest.run early).Meets

variable {contest : Contest} {writer other : Writer} {schedule : List Writer}
  {values : Writer → Bytes}

theorem run_concat : contest.run (schedule ++ [writer]) = (contest.run schedule).turn writer :=
  List.foldl_append

theorem overlapping_concat : contest.Overlapping (schedule ++ [writer]) ↔
    contest.Overlapping schedule ∨ ((contest.run schedule).turn writer).Meets := by
  simp only [Overlapping, List.prefix_concat_iff, or_and_right, exists_or, exists_eq_left,
    run_concat]
  exact or_comm

@[simp] theorem key_run : (contest.run schedule).key = contest.key := by
  induction schedule generalizing contest with
  | nil => rfl
  | cons writer rest ih => exact ih

@[simp] theorem values_run : (contest.run schedule).values = contest.values := by
  induction schedule generalizing contest with
  | nil => rfl
  | cons writer rest ih => exact ih

theorem phases_turn_self : (contest.turn writer).phases writer =
    ((contest.put writer).step contest.folder).1.phase :=
  Function.update_self _ _ _

theorem phases_turn_rival :
    (contest.turn writer).phases writer.rival = contest.phases writer.rival :=
  Function.update_of_ne writer.rival_ne _ _

/-- What holds of both puts after a turn: it has to be shown of the one that has changed. -/
theorem forall_phases_turn {p : Writer → PutPhase → Prop}
    (self : p writer ((contest.turn writer).phases writer))
    (rival : p writer.rival (contest.phases writer.rival)) :
    ∀ other, p other ((contest.turn writer).phases other) := by
  intro other
  rcases other.eq_or_eq_rival writer with rfl | rfl
  · exact self
  · rwa [phases_turn_rival]

/-- Nothing happens in the turn of a writer whose put is over. -/
theorem turn_of_ended {result : Except FileFault Unit}
    (ended : contest.phases writer = .ended result) : contest.turn writer = contest := by
  have stays : (contest.put writer).step contest.folder = (contest.put writer, contest.folder) :=
    Put.step_ended ended
  have phase : (contest.put writer).phase = contest.phases writer := rfl
  rw [turn, stays]
  simp only [phase, Function.update_eq_self]

theorem rank_turn (contest : Contest) (writer other : Writer) :
    min 3 ((contest.phases other).rank + if other = writer then 1 else 0) ≤
      ((contest.turn writer).phases other).rank := by
  rcases other.eq_or_eq_rival writer with rfl | rfl
  · rw [if_pos rfl, phases_turn_self]
    exact (contest.put other).rank_step contest.folder
  · rw [if_neg writer.rival_ne, phases_turn_rival]
    exact Nat.min_le_right _ _

/-- A put is over after three turns of its own. -/
theorem rank_run (contest : Contest) (schedule : List Writer) (writer : Writer) :
    min 3 (schedule.count writer) ≤ ((contest.run schedule).phases writer).rank := by
  induction schedule using List.reverseRecOn with
  | nil => exact Nat.zero_le _
  | append_singleton schedule last ih =>
    have step := rank_turn (contest.run schedule) last writer
    rw [run_concat, List.count_append, List.count_singleton]
    simp only [beq_iff_eq, eq_comm (a := last)]
    split_ifs at step ⊢ <;> omega

/-- The first turn of a writer opens the temporary file, which is the one that is there. -/
theorem turn_of_begun (kept : Kept start contest.key contest.folder)
    (begun : contest.phases writer = .begun) :
    ∃ file, (contest.turn writer).phases writer = .opened file ∧
      Kept start contest.key (contest.turn writer).folder ∧
      (contest.turn writer).folder.entries.find? (temporaryName contest.key) = some (.file file) ∧
      (contest.turn writer).folder.content file = [] ∧
      content (contest.turn writer).folder contest.key = content contest.folder contest.key ∧
      ∀ number, contest.folder.entries.find? (temporaryName contest.key) = some (.file number) →
        number = file := by
  obtain ⟨file, next, opened, later, there, empty, same, earlier⟩ := kept.exists_opened
  have step : (contest.put writer).step contest.folder = _ :=
    Put.step_begun begun kept.admits.nonempty opened
  have left : (contest.turn writer).folder = next := by rw [turn, step]
  refine ⟨file, ?_, left ▸ later, left ▸ there, left ▸ empty, left ▸ same, earlier⟩
  rw [phases_turn_self, step]

/-! ### Two puts that are not under way together -/

/-- One put stands alone: the other has not begun, or it is over and all went well. -/
inductive Apart (start : Folder) (contest : Contest) : Prop
  | before (writer : Writer) (waiting : contest.phases writer.rival = .begun)
      (alone : (contest.phases writer).Alone contest.folder contest.key (contest.values writer)
        (content start contest.key))
  | after (writer : Writer) (done : contest.phases writer.rival = .ended (.ok ()))
      (alone : (contest.phases writer).Alone contest.folder contest.key (contest.values writer)
        (some (contest.values writer.rival)))

/-! ### Two puts that have been under way together -/

/-- What can be in a file that has been written by those who `wrote` since it was emptied. -/
inductive Blend (values : Writer → Bytes) (wrote : Writer → Prop) : Bytes → Prop
  | empty (writer : Writer) (unwritten : ¬ wrote writer) : Blend values wrote []
  | one (writer : Writer) (written : wrote writer) : Blend values wrote (values writer)
  | both (writer : Writer) (written : ∀ writer, wrote writer) :
      Blend values wrote (overlay (values writer) (values writer.rival))

/-- The file that both write still has its temporary name. -/
structure Pending (start : Folder) (contest : Contest) (file : Nat) : Prop where
  there : contest.folder.entries.find? (temporaryName contest.key) = some (.file file)
  same : content contest.folder contest.key = content start contest.key
  meets : contest.Meets

/-- One of the two has renamed the file that both write. The other has nothing to rename. -/
structure Decided (contest : Contest) (winner : Writer) (file : Nat) : Prop where
  gone : contest.folder.entries.find? (temporaryName contest.key) = none
  there : contest.folder.entries.find? (fileName contest.key) = some (.file file)
  won : contest.phases winner = .ended (.ok ())
  lost : (contest.phases winner.rival).Underway ∨
    contest.phases winner.rival = .ended (.error .missing)

/-- Both puts have opened one file. -/
structure Met (start : Folder) (contest : Contest) (file : Nat) : Prop where
  holds : ∀ writer, (contest.phases writer).Holds file
  blend : Blend contest.values (fun writer => (contest.phases writer).Wrote)
    (contest.folder.content file)
  place : Pending start contest file ∨ ∃ winner, Decided contest winner file

/-- Whoever opens the file that the other one has under way empties it. -/
theorem met_of_opened (phase : contest.phases writer = .opened file)
    (underway : (contest.phases writer.rival).Underway)
    (holds : (contest.phases writer.rival).Holds file) (empty : contest.folder.content file = [])
    (there : contest.folder.entries.find? (temporaryName contest.key) = some (.file file))
    (same : content contest.folder contest.key = content start contest.key) :
    contest.Meets ∧ contest.Met start file := by
  have meets : contest.Meets := by
    intro other
    rcases other.eq_or_eq_rival writer with rfl | rfl
    · rw [phase]
      exact trivial
    · exact underway
  refine ⟨meets, fun other => ?_, ?_, .inl ⟨there, same, meets⟩⟩
  · rcases other.eq_or_eq_rival writer with rfl | rfl
    · rw [phase]
      exact rfl
    · exact holds
  · rw [empty]
    refine .empty writer ?_
    rw [phase]
    exact id

variable (kept : Kept start contest.key contest.folder)

namespace Apart

theorem not_meets (apart : contest.Apart start) : ¬ contest.Meets := by
  intro meets
  cases apart with
  | before writer waiting alone =>
    have underway := meets writer.rival
    rw [waiting] at underway
    exact underway
  | after writer done alone =>
    have underway := meets writer.rival
    rw [done] at underway
    exact underway

include kept

/-- A put that stands alone takes a step. -/
theorem turn_self (alone : (contest.phases writer).Alone contest.folder contest.key
      (contest.values writer) before) :
    ((contest.turn writer).phases writer).Alone (contest.turn writer).folder contest.key
        (contest.values writer) before ∧
      Kept start contest.key (contest.turn writer).folder := by
  rw [phases_turn_self]
  exact (contest.put writer).alone_step alone kept

/-- The first turn of a writer who has waited opens the file that the other one has under way, or
makes his the put that stands alone. -/
theorem turn_of_waiting (waiting : contest.phases writer.rival = .begun)
    (alone : (contest.phases writer).Alone contest.folder contest.key (contest.values writer)
      (content start contest.key)) :
    Kept start contest.key (contest.turn writer.rival).folder ∧
      ((contest.turn writer.rival).Apart start ∨ (contest.turn writer.rival).Meets ∧
        ∃ file, (contest.turn writer.rival).Met start file) := by
  obtain ⟨file, phase, later, there, empty, same, earlier⟩ := turn_of_begun kept waiting
  have unmoved : (contest.turn writer.rival).phases writer.rival.rival =
      contest.phases writer.rival.rival := phases_turn_rival
  rw [writer.rival_rival] at unmoved
  refine ⟨later, ?_⟩
  cases before : contest.phases writer with
  | begun =>
    rw [before] at alone
    refine .inl (.before writer.rival ?_ ?_)
    · rw [writer.rival_rival, unmoved, before]
    · rw [phase]
      exact ⟨there, empty, same.trans alone⟩
  | ended result =>
    rw [before] at alone
    obtain ⟨rfl, put⟩ := alone
    refine .inl (.after writer.rival ?_ ?_)
    · rw [writer.rival_rival, unmoved, before]
    · rw [phase, writer.rival_rival]
      exact ⟨there, empty, same.trans put⟩
  | _ =>
    -- The file that is opened is the one that the other writer holds.
    have underway : (contest.phases writer).Underway := by rw [before]; exact trivial
    obtain ⟨number, open_, holds, unchanged⟩ := alone.of_underway underway
    obtain rfl := earlier number open_
    refine .inr (.imp_right (⟨_, ·⟩) (met_of_opened phase ?_ ?_ empty there ?_))
    · rw [writer.rival_rival, unmoved]
      exact underway
    · rw [writer.rival_rival, unmoved]
      exact holds
    · exact same.trans unchanged

/-- A turn leaves two puts apart, unless it opens the file that the other one has under way. -/
theorem turn (apart : contest.Apart start) (mover : Writer) :
    Kept start contest.key (contest.turn mover).folder ∧
      ((contest.turn mover).Apart start ∨
        (contest.turn mover).Meets ∧ ∃ file, (contest.turn mover).Met start file) := by
  cases apart with
  | before writer waiting alone =>
    rcases mover.eq_or_eq_rival writer with rfl | rfl
    · obtain ⟨still, later⟩ := turn_self kept alone
      exact ⟨later, .inl (.before mover (phases_turn_rival.trans waiting) still)⟩
    · exact turn_of_waiting kept waiting alone
  | after writer done alone =>
    rcases mover.eq_or_eq_rival writer with rfl | rfl
    · obtain ⟨still, later⟩ := turn_self kept alone
      exact ⟨later, .inl (.after mover (phases_turn_rival.trans done) still)⟩
    · rw [turn_of_ended done]
      exact ⟨kept, .inl (.after writer done alone)⟩

end Apart

namespace Blend

variable {wrote wrote' : Writer → Prop}

/-- What is written over what others have written. -/
theorem write (blend : Blend values wrote bytes) (unwritten : ¬ wrote writer)
    (written : wrote' writer) (rival : wrote' writer.rival ↔ wrote writer.rival) :
    Blend values wrote' (overlay (values writer) bytes) := by
  cases blend with
  | empty =>
    rw [overlay_nil]
    exact .one writer written
  | one other wroteOther =>
    rcases other.eq_or_eq_rival writer with rfl | rfl
    · exact absurd wroteOther unwritten
    · refine .both writer fun each => ?_
      rcases each.eq_or_eq_rival writer with rfl | rfl
      · exact written
      · exact rival.mpr wroteOther
  | both other all => exact absurd (all writer) unwritten

/-- What can be in a file is told by who has written it, and not by what else they have done. -/
theorem congr (blend : Blend values wrote bytes) (same : ∀ writer, wrote' writer ↔ wrote writer) :
    Blend values wrote' bytes := by
  rwa [funext fun writer => propext (same writer)]

end Blend

namespace Met

/-- A put is not over that has still something to do. -/
theorem eq_rival_of_won {winner : Writer} (won : contest.phases winner = .ended (.ok ()))
    (underway : (contest.phases writer).Underway) : winner = writer.rival := by
  rcases winner.eq_or_eq_rival writer with rfl | rfl
  · rw [won] at underway
    exact underway.elim
  · rfl

include kept

/-- A writer writes the file that both have opened, wherever it is. -/
theorem turn_of_opened (met : contest.Met start file)
    (phase : contest.phases writer = .opened file) :
    Kept start contest.key (contest.turn writer).folder ∧ (contest.turn writer).Met start file := by
  obtain ⟨holds, blend, place⟩ := met
  have step : (contest.put writer).step contest.folder = _ := Put.step_opened phase
  have now : (contest.turn writer).phases writer = .written := by rw [phases_turn_self, step]
  have left : (contest.turn writer).folder =
      contest.folder.write file (contest.values writer) := by rw [turn, step]; rfl
  have unwritten : ¬ (contest.phases writer).Wrote := by rw [phase]; exact id
  have underway : (contest.phases writer).Underway := by rw [phase]; exact trivial
  have still : ∀ other, ((contest.turn writer).phases other).Holds file :=
    forall_phases_turn (now ▸ trivial) (holds _)
  have mixed : Blend contest.values (fun other => ((contest.turn writer).phases other).Wrote)
      ((contest.turn writer).folder.content file) := by
    rw [left, content_write, if_pos rfl]
    refine blend.write unwritten ?_ ?_
    · rw [now]
      exact trivial
    · rw [phases_turn_rival]
  -- The file has its temporary name, or the other writer has put it under the key by now.
  rcases place with ⟨there, same, meets⟩ | ⟨winner, gone, there, won, -⟩
  · obtain ⟨later, unchanged⟩ := kept.write_temporary there (contest.values writer)
    refine ⟨left ▸ later, still, mixed, .inl ⟨?_, ?_, ?_⟩⟩
    · rw [left]
      exact there
    · rw [left]
      exact unchanged.trans same
    · exact forall_phases_turn (now ▸ trivial) (meets _)
  · obtain rfl := eq_rival_of_won won underway
    have later := kept.write there (fun other differ same => differ (fileName_injective same))
      (contest.values writer)
    refine ⟨left ▸ later, still, mixed, .inr ⟨writer.rival, ?_, ?_, ?_, .inl ?_⟩⟩
    · rw [left]
      exact gone
    · rw [left]
      exact there
    · rw [phases_turn_rival, won]
    · rw [writer.rival_rival, now]
      exact trivial

/-- A writer renames the file that both have opened, unless the other one has done so. -/
theorem turn_of_written (met : contest.Met start file)
    (phase : contest.phases writer = .written) :
    Kept start contest.key (contest.turn writer).folder ∧ (contest.turn writer).Met start file := by
  obtain ⟨holds, blend, place⟩ := met
  have underway : (contest.phases writer).Underway := by rw [phase]; exact trivial
  have settled : ∀ result, (contest.turn writer).phases writer = .ended result →
      (∀ other, ((contest.turn writer).phases other).Holds file) ∧
      ∀ other, ((contest.turn writer).phases other).Wrote ↔ (contest.phases other).Wrote := by
    intro result now
    refine ⟨forall_phases_turn (now ▸ trivial) (holds _),
      forall_phases_turn (p := fun other left => left.Wrote ↔ (contest.phases other).Wrote) ?_
        Iff.rfl⟩
    rw [now, phase]
    exact Iff.rfl
  rcases place with ⟨there, -, meets⟩ | ⟨winner, gone, there, won, -⟩
  · obtain ⟨next, renamed, later, gone, final, unwritten⟩ := kept.exists_renamed there
    have step : (contest.put writer).step contest.folder = _ := Put.step_renamed phase renamed
    have now : (contest.turn writer).phases writer = .ended (.ok ()) := by
      rw [phases_turn_self, step]
    have left : (contest.turn writer).folder = next := by rw [turn, step]
    obtain ⟨still, wrote⟩ := settled _ now
    refine ⟨left ▸ later, still, ?_, .inr ⟨writer, left ▸ gone, left ▸ final, now, .inl ?_⟩⟩
    · rw [left, unwritten]
      exact blend.congr wrote
    · rw [phases_turn_rival]
      exact meets _
  · obtain rfl := eq_rival_of_won won underway
    have step : (contest.put writer).step contest.folder = _ :=
      Put.step_missing phase (kept.rename_missing gone)
    have now : (contest.turn writer).phases writer = .ended (.error .missing) := by
      rw [phases_turn_self, step]
    have left : (contest.turn writer).folder = contest.folder := by rw [turn, step]
    obtain ⟨still, wrote⟩ := settled _ now
    refine ⟨left ▸ kept, still, ?_, .inr ⟨writer.rival, ?_, ?_, ?_, .inr ?_⟩⟩
    · rw [left]
      exact blend.congr wrote
    · rw [left]
      exact gone
    · rw [left]
      exact there
    · rw [phases_turn_rival, won]
    · rw [writer.rival_rival, now]

/-- Two puts that have been under way together have their turns. -/
theorem turn (met : contest.Met start file) (mover : Writer) :
    Kept start contest.key (contest.turn mover).folder ∧ (contest.turn mover).Met start file := by
  have held := met.holds mover
  cases phase : contest.phases mover with
  | begun =>
    rw [phase] at held
    exact held.elim
  | opened number =>
    rw [phase] at held
    obtain rfl : number = file := held
    exact met.turn_of_opened kept phase
  | written => exact met.turn_of_written kept phase
  | ended result =>
    rw [turn_of_ended phase]
    exact ⟨kept, met⟩

end Met

/-! ### Any schedule -/

/-- Where two puts stand after any schedule. -/
theorem apart_or_met (sound : folder.Sound) (admits : Admits folder key)
    (values : Writer → Bytes) (schedule : List Writer) :
    Kept folder key ((begin key values folder).run schedule).folder ∧
      (¬ (begin key values folder).Overlapping schedule ∧
          ((begin key values folder).run schedule).Apart folder ∨
        (begin key values folder).Overlapping schedule ∧
          ∃ file, ((begin key values folder).run schedule).Met folder file) := by
  -- From the end of the schedule: the last turn is taken from where the others have led.
  induction schedule using List.reverseRecOn with
  | nil =>
    have apart : (begin key values folder).Apart folder := .before .first rfl rfl
    refine ⟨⟨sound, admits, fun _ _ => rfl⟩, .inl ⟨?_, apart⟩⟩
    rintro ⟨early, none, meets⟩
    obtain rfl := List.prefix_nil.mp none
    exact apart.not_meets meets
  | append_singleton schedule mover ih =>
    obtain ⟨kept, standing⟩ := ih
    have own : Kept folder ((begin key values folder).run schedule).key
        ((begin key values folder).run schedule).folder := by rwa [key_run]
    rw [overlapping_concat, run_concat]
    rcases standing with ⟨unmet, apart⟩ | ⟨overlapped, file, met⟩
    · obtain ⟨later, still | ⟨meets, met⟩⟩ := apart.turn own mover
      · rw [key_run] at later
        exact ⟨later, .inl ⟨not_or.mpr ⟨unmet, still.not_meets⟩, still⟩⟩
      · rw [key_run] at later
        exact ⟨later, .inr ⟨.inr meets, met⟩⟩
    · obtain ⟨later, still⟩ := met.turn own mover
      rw [key_run] at later
      exact ⟨later, .inr ⟨.inl overlapped, file, still⟩⟩

/-- Two puts that are not under way together leave what was there before, or one of the values. -/
theorem Apart.content_eq (apart : contest.Apart start) :
    content contest.folder contest.key = content start contest.key ∨
      ∃ writer, content contest.folder contest.key = some (contest.values writer) := by
  cases apart with
  | before writer waiting alone => exact alone.content_eq.imp_right (⟨writer, ·⟩)
  | after writer done alone =>
    rcases alone.content_eq with there | there
    · exact .inr ⟨writer.rival, there⟩
    · exact .inr ⟨writer, there⟩

/-- Two puts that are over and have not been under way together have succeeded. -/
theorem Apart.of_over (apart : contest.Apart start)
    (ended : ∀ writer, 3 ≤ (contest.phases writer).rank) :
    (∀ writer, contest.phases writer = .ended (.ok ())) ∧
      ∃ writer, content contest.folder contest.key = some (contest.values writer) := by
  cases apart with
  | before writer waiting alone =>
    have late := ended writer.rival
    rw [waiting] at late
    exact absurd late (by decide)
  | after writer done alone =>
    obtain ⟨ended, there⟩ := alone.of_ended (ended writer)
    refine ⟨fun other => ?_, writer, there⟩
    rcases other.eq_or_eq_rival writer with rfl | rfl
    · exact ended
    · exact done

/-- Two puts that have been under way together leave what was there before, or what can be in
the file that both have opened. -/
theorem Met.content_eq (met : contest.Met start file) :
    content contest.folder contest.key = content start contest.key ∨
      ∃ bytes, content contest.folder contest.key = some bytes ∧
        Blend contest.values (fun writer => (contest.phases writer).Wrote) bytes := by
  rcases met.place with pending | ⟨winner, decided⟩
  · exact .inl pending.same
  · exact .inr ⟨_, content_of_file decided.there, met.blend⟩

/-- One of two puts that are over and have been under way together has found no file to rename. -/
theorem Met.of_over (met : contest.Met start file)
    (ended : ∀ writer, 3 ≤ (contest.phases writer).rank) :
    (∃ winner, contest.phases winner = .ended (.ok ()) ∧
      contest.phases winner.rival = .ended (.error .missing)) ∧
      ∃ bytes, content contest.folder contest.key = some bytes ∧
        Blend contest.values (fun _ => True) bytes := by
  have idle : ∀ writer, ¬ (contest.phases writer).Underway := by
    intro writer underway
    have late := ended writer
    cases phase : contest.phases writer <;> rw [phase] at underway late
    case begun | ended => exact underway
    all_goals simp [PutPhase.rank] at late
  rcases met.place with pending | ⟨winner, decided⟩
  · exact absurd (pending.meets .first) (idle .first)
  · refine ⟨⟨winner, decided.won, decided.lost.resolve_left (idle _)⟩, _,
      content_of_file decided.there, met.blend.congr fun writer => ?_⟩
    rcases writer.eq_or_eq_rival winner with rfl | rfl
    · rw [decided.won]
      exact Iff.rfl
    · rw [decided.lost.resolve_left (idle _)]
      exact Iff.rfl

/-- Two puts of one key, by any schedule. If they are never under way together, both succeed, and
what is read at any time is what was there before or one of the two values. If they are, one of
them succeeds and the other finds no file to rename, and what is read may also be nothing or one
value written over the other. What is under other keys is left alone. -/
theorem contending_puts (sound : folder.Sound) (admits : Admits folder key)
    (values : Writer → Bytes) (schedule : List Writer) :
    let contest := (begin key values folder).run schedule
    (∀ other, other ≠ key → content contest.folder other = content folder other) ∧
    (¬ (begin key values folder).Overlapping schedule →
      (∃ found, get key contest.folder = .ok found ∧
        (found = content folder key ∨ ∃ writer, found = some (values writer))) ∧
      ((∀ writer, 3 ≤ schedule.count writer) →
        (∀ writer, contest.phases writer = .ended (.ok ())) ∧
        ∃ writer, get key contest.folder = .ok (some (values writer)))) ∧
    ((begin key values folder).Overlapping schedule →
      (∃ found, get key contest.folder = .ok found ∧
        (found = content folder key ∨ found = some [] ∨ ∃ writer, found = some (values writer) ∨
          found = some (overlay (values writer) (values writer.rival)))) ∧
      ((∀ writer, 3 ≤ schedule.count writer) →
        (∃ winner, contest.phases winner = .ended (.ok ()) ∧
          contest.phases winner.rival = .ended (.error .missing)) ∧
        ∃ writer, get key contest.folder = .ok (some (values writer)) ∨
          get key contest.folder = .ok (some (overlay (values writer) (values writer.rival))))) := by
  intro contest
  -- Puts that are never together stay apart, all others meet in one file.
  obtain ⟨kept, standing⟩ := apart_or_met sound admits values schedule
  have key_eq : contest.key = key := key_run
  have values_eq : contest.values = values := values_run
  have finished (complete : ∀ writer, 3 ≤ schedule.count writer) (writer : Writer) :
      3 ≤ (contest.phases writer).rank := by
    have rank := rank_run (begin key values folder) schedule writer
    rwa [Nat.min_eq_left (complete writer)] at rank
  rw [kept.admits.get_eq]
  refine ⟨kept.others, fun unmet => ?_, fun overlapping => ?_⟩
  · have apart : contest.Apart folder :=
      (standing.resolve_right fun other => unmet other.1).2
    refine ⟨⟨_, rfl, ?_⟩, fun complete => ?_⟩
    · have read := apart.content_eq
      rwa [key_eq, values_eq] at read
    · obtain ⟨ended, writer, there⟩ := apart.of_over (finished complete)
      rw [key_eq, values_eq] at there
      exact ⟨ended, writer, congrArg Except.ok there⟩
  · obtain ⟨file, met⟩ : ∃ file, contest.Met folder file :=
      (standing.resolve_left fun other => other.1 overlapping).2
    refine ⟨⟨_, rfl, ?_⟩, fun complete => ?_⟩
    · rcases met.content_eq with same | ⟨bytes, there, blend⟩
      · rw [key_eq] at same
        exact .inl same
      · rw [key_eq] at there
        rw [values_eq] at blend
        rw [there]
        cases blend with
        | empty => exact .inr (.inl rfl)
        | one writer => exact .inr (.inr ⟨writer, .inl rfl⟩)
        | both writer => exact .inr (.inr ⟨writer, .inr rfl⟩)
    · obtain ⟨ended, bytes, there, blend⟩ := met.of_over (finished complete)
      rw [key_eq] at there
      rw [values_eq] at blend
      rw [there]
      refine ⟨ended, ?_⟩
      cases blend with
      | empty writer unwritten => exact absurd trivial unwritten
      | one writer => exact ⟨writer, .inl rfl⟩
      | both writer => exact ⟨writer, .inr rfl⟩

/-- Two puts in an empty folder. The first value is the longer one. -/
def rivals : Contest := begin [107] (fun | .first => [1, 1] | .second => [2]) .empty

/-- Each step of the one is followed by the same step of the other. -/
def alternating : List Writer := [.first, .second, .first, .second, .first, .second]

theorem contending_puts_alternating :
    Folder.empty.Sound ∧ Admits .empty [107] ∧ rivals.Overlapping alternating ∧
      (∀ writer, 3 ≤ alternating.count writer) ∧
      ∃ winner, (rivals.run alternating).phases winner = .ended (.ok ()) ∧
        (rivals.run alternating).phases winner.rival = .ended (.error .missing) := by
  have admits : Admits .empty [107] :=
    ⟨by decide, by decide +kernel, by decide +kernel, nofun, nofun⟩
  have overlapping : rivals.Overlapping alternating :=
    ⟨[.first, .second], ⟨_, rfl⟩, fun writer => by cases writer <;> exact trivial⟩
  have complete : ∀ writer, 3 ≤ alternating.count writer := by
    intro writer
    cases writer <;> decide
  exact ⟨Folder.sound_empty, admits, overlapping, complete,
    (((contending_puts Folder.sound_empty admits _ alternating).2.2 overlapping).2 complete).1⟩

/-- Two puts that share the temporary file tear what is under the key: in the end one finds no file
to rename and a value is read that nobody has put, and whoever reads when one has emptied the file
that the other renames reads nothing. -/
theorem shared_temporary_file_tears :
    (rivals.run alternating).phases .second = .ended (.error .missing) ∧
      get [107] (rivals.run alternating).folder = .ok (some [2, 1]) ∧
      get [107] (rivals.run [.first, .first, .second, .first]).folder = .ok (some []) :=
  ⟨rfl, rfl, rfl⟩

end Contest

end Resharing.FileStore
