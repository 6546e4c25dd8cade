import Mathlib.Data.Prod.Lex
import Mathlib.Order.Lattice.Nat
import Resharing.Time.Duration

/-!
# Spans of time by their nanoseconds

A span keeps its seconds and its nanoseconds apart, and so does everything that is done to it:
spans are compared by their seconds first, and multiplied with a carry from one part to the
other. Here a span is told by its nanoseconds altogether. No two spans have the same number of
them, the longest span has the most, and every smaller number is that of a span. The order of
spans is the order of these numbers, and a multiple of a span has as many as the product says,
or as the longest span if that is too many for any span.

## Main definitions

* `Duration.Capped`: the span of a number of nanoseconds, or the longest one

## Main results

* `Duration.total_injective`, `Duration.exists_total_iff`: the numbers of nanoseconds that spans
  have
* `Duration.total_le_total_iff`: the order of spans is that of their nanoseconds
* `Duration.total_scale`, `Duration.capped_scale`: what a multiple of a span is
* `Duration.scale_le_scale`: longer spans have longer multiples
-/

namespace Resharing.Duration

variable {span left right : Duration} {nanos factor : Nat}

/-! ### A span as a number -/

theorem total_div (span : Duration) : span.total / nanosPerSecond = span.seconds := by
  rw [total, Nat.mul_comm, Nat.mul_add_div (by decide), Nat.div_eq_of_lt span.nanoseconds_lt]
  rfl

theorem total_mod (span : Duration) : span.total % nanosPerSecond = span.nanoseconds := by
  rw [total, Nat.mul_comm, Nat.mul_add_mod, Nat.mod_eq_of_lt span.nanoseconds_lt]

theorem total_injective : Function.Injective total := by
  intro left right same
  have seconds := congrArg (· / nanosPerSecond) same
  have nanoseconds := congrArg (· % nanosPerSecond) same
  simp only [total_div, total_mod] at seconds nanoseconds
  cases left
  cases right
  congr

/-- The longest span is a nanosecond short of what its seconds cannot count any more. -/
theorem total_longest : longest.total + 1 = UInt64.size * nanosPerSecond := by
  decide

theorem total_le_longest (span : Duration) : span.total ≤ longest.total := by
  apply Nat.le_of_lt_succ
  rw [Nat.succ_eq_add_one, total_longest, ← Nat.div_lt_iff_lt_mul (by decide), total_div]
  exact span.seconds_lt

/-- Every number up to that of the longest span is the number of a span. -/
theorem exists_total_iff : (∃ span : Duration, span.total = nanos) ↔ nanos ≤ longest.total := by
  constructor
  · rintro ⟨span, rfl⟩
    exact span.total_le_longest
  · intro within
    have seconds : nanos / nanosPerSecond < UInt64.size := by
      apply (Nat.div_lt_iff_lt_mul (by decide)).mpr
      rw [← total_longest]
      exact Nat.lt_succ_of_le within
    exact ⟨⟨nanos / nanosPerSecond, nanos % nanosPerSecond, seconds, Nat.mod_lt _ (by decide)⟩,
      Nat.div_add_mod' nanos nanosPerSecond⟩

/-! ### The order of spans -/

/-- The parts of a span in the order in which they are compared. -/
def key (span : Duration) : Nat ×ₗ Nat := toLex (span.seconds, span.nanoseconds)

theorem key_injective : Function.Injective key := by
  intro left right same
  have parts := Prod.mk.inj (toLex.injective same)
  cases left
  cases right
  congr
  · exact parts.1
  · exact parts.2

/-- Spans are compared by their seconds and, if these agree, by their nanoseconds. -/
instance : LinearOrder Duration := LinearOrder.lift' key key_injective

theorem le_iff : left ≤ right ↔ left.seconds < right.seconds ∨
    left.seconds = right.seconds ∧ left.nanoseconds ≤ right.nanoseconds :=
  Prod.Lex.toLex_le_toLex

/-- The order of spans is that of their nanoseconds, because the nanoseconds beside the seconds
never make a second. -/
theorem total_le_total_iff : left.total ≤ right.total ↔ left ≤ right := by
  have small := left.nanoseconds_lt
  have alsoSmall := right.nanoseconds_lt
  rw [le_iff]
  simp only [total, nanosPerSecond] at small alsoSmall ⊢
  omega

/-! ### Multiples -/

/-- The span of a number of nanoseconds, or the longest span if none has that many. -/
inductive Capped (nanos : Nat) : Duration → Prop
  | exact {span : Duration} (same : span.total = nanos) : Capped nanos span
  | beyond (none : ∀ span : Duration, span.total ≠ nanos) : Capped nanos longest

theorem capped_iff : Capped nanos span ↔ span.total = min nanos longest.total := by
  constructor
  · intro capped
    cases capped with
    | exact same =>
      rw [← same]
      exact (min_eq_left span.total_le_longest).symm
    | beyond none =>
      have more : ¬ nanos ≤ longest.total := fun within =>
        have ⟨span, same⟩ := exists_total_iff.mpr within
        none span same
      exact (min_eq_right (Nat.le_of_not_le more)).symm
  · intro least
    rcases Nat.le_total nanos longest.total with within | more
    · exact .exact (least.trans (min_eq_left within))
    · obtain rfl : span = longest := total_injective (least.trans (min_eq_right more))
      by_cases same : longest.total = nanos
      · exact .exact same
      · apply Capped.beyond
        rintro other rfl
        exact same (Nat.le_antisymm more other.total_le_longest)

/-- There is only one such span. -/
theorem Capped.unique (capped : Capped nanos left) (also : Capped nanos right) : left = right :=
  total_injective ((capped_iff.mp capped).trans (capped_iff.mp also).symm)

/-- The seconds of a product are those of the seconds and those carried over. -/
theorem mul_total_div (span : Duration) (factor : Nat) :
    span.total * factor / nanosPerSecond =
      span.seconds * factor + span.nanoseconds * factor / nanosPerSecond := by
  have split : span.total * factor =
      nanosPerSecond * (span.seconds * factor) + span.nanoseconds * factor := by
    rw [total, Nat.add_mul, Nat.mul_comm span.seconds, Nat.mul_assoc]
  rw [split, Nat.mul_add_div (by decide)]

theorem mul_total_mod (span : Duration) (factor : Nat) :
    span.total * factor % nanosPerSecond = span.nanoseconds * factor % nanosPerSecond := by
  rw [← Nat.mod_mul_mod, total_mod]

/-- A multiple has as many nanoseconds as the product says, but never more than the longest
span. -/
theorem total_scale (span : Duration) (factor : Nat) :
    (span.scale factor).total = min (span.total * factor) longest.total := by
  have carried := span.mul_total_div factor
  have fits_iff : span.total * factor / nanosPerSecond < UInt64.size ↔
      span.total * factor ≤ longest.total := by
    rw [Nat.div_lt_iff_lt_mul (by decide), ← total_longest, Nat.lt_succ_iff]
  rw [scale]
  split_ifs with fits
  · rw [← carried] at fits
    rw [min_eq_left (fits_iff.mp fits)]
    calc _ = span.total * factor / nanosPerSecond * nanosPerSecond +
          span.total * factor % nanosPerSecond := by rw [carried, mul_total_mod]; rfl
      _ = span.total * factor := Nat.div_add_mod' _ _
  · rw [← carried, fits_iff, Nat.not_le] at fits
    exact (min_eq_right fits.le).symm

theorem capped_scale (span : Duration) (factor : Nat) :
    Capped (span.total * factor) (span.scale factor) :=
  capped_iff.mpr (span.total_scale factor)

/-- The cap does not disturb the order, so longer spans have longer multiples. -/
theorem scale_le_scale {more : Nat} (longer : left ≤ right) (greater : factor ≤ more) :
    left.scale factor ≤ right.scale more := by
  rw [← total_le_total_iff, total_scale, total_scale]
  apply min_le_min_right
  exact Nat.mul_le_mul (total_le_total_iff.mpr longer) greater

end Resharing.Duration
