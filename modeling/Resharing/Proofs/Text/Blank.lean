import Mathlib.Data.List.DropRight
import Resharing.Text.Blank

/-!
# What trimming leaves

A trimmed text is told here by what it is and not by how it is found: the text is it with blanks
around it, and neither its first character nor its last is blank. There is only one such part
of a text, so blanks that are put around a text make no difference to it.

## Main definitions

* `Text.Trims`: what is left of a text when it is trimmed

## Main results

* `Text.trimChars_eq_iff`, `Text.trim_eq_iff`: trimming leaves that and nothing else
* `Text.Trims.surround`: blanks around a text make no difference
* `Text.Trims.count_eq`: a character that is not blank is never lost
-/

namespace Resharing.Text

variable {text core before after : List Char} {c : Char}

/-- A text is its core with blanks around it, and the core has no blank at either end. -/
structure Trims (text core : List Char) : Prop where
  around : ∃ before after, text = before ++ core ++ after ∧
    ∀ c ∈ before ++ after, isBlank c = true
  first : ∀ c ∈ core.head?, isBlank c = false
  last : ∀ c ∈ core.getLast?, isBlank c = false

private theorem not_isBlank_head?_trimStart (text : List Char) :
    ∀ c ∈ (trimStart text).head?, isBlank c = false := by
  intro c first
  have stops := List.head?_dropWhile_not isBlank text
  rwa [show (text.dropWhile isBlank).head? = some c from first] at stops

theorem trims_trimChars (text : List Char) : Trims text (trimChars text) := by
  have front : text.takeWhile isBlank ++ trimStart text = text := List.takeWhile_append_dropWhile
  have back : trimChars text ++ (trimStart text).rtakeWhile isBlank = trimStart text :=
    List.rdropWhile_append_rtakeWhile
  constructor
  · refine ⟨text.takeWhile isBlank, (trimStart text).rtakeWhile isBlank, ?_, fun c member => ?_⟩
    · rw [List.append_assoc, back, front]
    · rcases List.mem_append.mp member with front | back
      · exact List.mem_takeWhile_imp front
      · exact List.mem_rtakeWhile_imp back
  · intro c first
    apply not_isBlank_head?_trimStart text
    rw [← back, List.head?_append, Option.mem_def.mp first]
    rfl
  · intro c last
    obtain ⟨inhabited, rfl⟩ := List.mem_getLast?_eq_getLast last
    exact Bool.eq_false_iff.mpr (List.rdropWhile_last_not isBlank (trimStart text) inhabited)

private theorem trimEnd_append_of_blank (blank : ∀ c ∈ after, isBlank c = true) :
    trimEnd (text ++ after) = trimEnd text := by
  rw [trimEnd, List.reverse_append, List.dropWhile_append_of_pos, trimEnd]
  exact fun c member => blank c (List.mem_reverse.mp member)

/-- There is nothing else that trimming could leave. -/
theorem Trims.trimChars_eq (trims : Trims text core) : trimChars text = core := by
  obtain ⟨⟨before, after, rfl, blank⟩, first, last⟩ := trims
  have front : trimStart (before ++ core ++ after) = trimStart (core ++ after) := by
    rw [List.append_assoc]
    exact List.dropWhile_append_of_pos fun c member => blank c (List.mem_append_left _ member)
  have behind : ∀ c ∈ after, isBlank c = true :=
    fun c member => blank c (List.mem_append_right _ member)
  rw [trimChars, front]
  cases core with
  | nil =>
    have empty : trimStart ([] ++ after) = [] := List.dropWhile_eq_nil_iff.mpr behind
    rw [empty]
    rfl
  | cons c rest =>
    have stays : trimStart (c :: rest ++ after) = c :: rest ++ after :=
      List.dropWhile_cons_of_neg (by simp [first c rfl])
    rw [stays, trimEnd_append_of_blank behind]
    refine List.rdropWhile_eq_self_iff.mpr fun inhabited => ?_
    simp [last _ (List.getLast_mem_getLast? inhabited)]

theorem trimChars_eq_iff : trimChars text = core ↔ Trims text core :=
  ⟨fun same => same ▸ trims_trimChars text, Trims.trimChars_eq⟩

theorem trim_eq_iff {text core : String} : trim text = core ↔ Trims text.toList core.toList := by
  rw [← trimChars_eq_iff, trim, ← String.toList_inj, String.toList_ofList]

/-- A text without blanks stays as it is. -/
theorem trim_eq_self {text : String} (solid : ∀ c ∈ text.toList, isBlank c = false) :
    trim text = text :=
  trim_eq_iff.mpr ⟨⟨[], [], by simp, by simp⟩, fun c first => solid c (List.mem_of_head? first),
    fun c last => solid c (List.mem_of_getLast? last)⟩

/-- Blanks that are put around a text make no difference. -/
theorem Trims.surround (trims : Trims text core) (front : ∀ c ∈ before, isBlank c = true)
    (back : ∀ c ∈ after, isBlank c = true) : Trims (before ++ text ++ after) core := by
  obtain ⟨⟨left, right, rfl, blank⟩, first, last⟩ := trims
  refine ⟨⟨before ++ left, right ++ after, by simp only [List.append_assoc], ?_⟩, first, last⟩
  simp only [List.mem_append] at blank ⊢
  rintro c ((outer | inner) | (inner | outer))
  · exact front c outer
  · exact blank c (.inl inner)
  · exact blank c (.inr inner)
  · exact back c outer

/-- A character that is not blank is never lost. -/
theorem Trims.count_eq (trims : Trims text core) (solid : isBlank c = false) :
    core.count c = text.count c := by
  obtain ⟨⟨before, after, rfl, blank⟩, -, -⟩ := trims
  have none : (before ++ after).count c = 0 := by
    refine List.count_eq_zero_of_not_mem fun member => ?_
    simp [blank c member] at solid
  rw [List.count_append] at none
  simp only [List.count_append]
  omega

/-- Nothing is left exactly if everything is blank. -/
theorem trims_nil_iff : Trims text [] ↔ ∀ c ∈ text, isBlank c = true := by
  constructor
  · rintro ⟨⟨before, after, rfl, blank⟩, -, -⟩
    simpa using blank
  · exact fun blank => ⟨⟨text, [], by simp, by simpa using blank⟩, by simp, by simp⟩

end Resharing.Text
