import Resharing.Proofs.Time.Duration
import Resharing.Registration.Retry

/-!
# How delays grow

The delay after a number of failures is the base delay times a power of two. It is computed in
words: the number of failures and the seconds have sixty-four bits, the power and the nanoseconds
thirty-two, and seconds and nanoseconds are multiplied apart and put together by a carry. Two
of the steps are checked, and if one of their results is too great for a word, the delay is the
longest span. The other results are taken to fit. They do, from the least base delay to the
greatest and after any number of failures, so that the delay is the exact product or the longest
span, and neither the cap on the power nor that on the delay ever makes it shorter than an earlier
one.

## Main definitions

* `Word.hold?`: the word that holds a number, if one can
* `Duration.scaleInWords?`, `Retry.delayInWords?`: multiples and delays as they are computed

## Main results

* `Duration.scaleInWords?_eq`, `Retry.delayInWords?_eq`: nothing else comes out in words
* `Retry.delayAfter_le_delayAfter`: delays grow with the failures and with the base delay
* `Retry.delays_exact`: what the delays are
-/

namespace Resharing

/-! ### Words -/

namespace Word

variable {number : Nat} {word : UInt64}

/-- The word that holds a number, if one can. -/
def hold? (number : Nat) : Option UInt64 :=
  if number < UInt64.size then some (.ofNat number) else none

/-- The product of two words, if a word can hold it. -/
def product? (left right : UInt64) : Option UInt64 := hold? (left.toNat * right.toNat)

/-- The sum of two words, if a word can hold it. -/
def sum? (left right : UInt64) : Option UInt64 := hold? (left.toNat + right.toNat)

/-- The word before a word. There is none before zero, which stays. -/
def previous (word : UInt64) : UInt64 := if word = 0 then 0 else word - 1

/-- A power of two, if its exponent shifts a one within thirty-two bits. -/
def power? (exponent : UInt32) : Option UInt32 :=
  if exponent < 32 then some (1 <<< exponent) else none

theorem hold?_of_lt (fits : number < UInt64.size) :
    ∃ word, hold? number = some word ∧ word.toNat = number :=
  ⟨.ofNat number, if_pos fits, UInt64.toNat_ofNat_of_lt' fits⟩

theorem hold?_of_le (great : UInt64.size ≤ number) : hold? number = none :=
  if_neg (Nat.not_lt.mpr great)

/-- A product and a sum that are checked one after the other come to one check at the end: what is
added to a product that is too great already does not make it smaller. -/
theorem sum?_product? (left right carry : UInt64) :
    (product? left right).bind (sum? · carry) =
      hold? (left.toNat * right.toNat + carry.toNat) := by
  rcases Nat.lt_or_ge (left.toNat * right.toNat) UInt64.size with fits | great
  · obtain ⟨product, held, same⟩ := hold?_of_lt fits
    rw [product?, held, Option.bind_some, sum?, same]
  · rw [product?, hold?_of_le great, Option.bind_none,
      hold?_of_le (great.trans (Nat.le_add_right _ _))]

theorem toNat_previous (word : UInt64) : (previous word).toNat = word.toNat - 1 := by
  rw [previous]
  split_ifs with zero
  · rw [zero]
    rfl
  · apply UInt64.toNat_sub_of_le
    rw [UInt64.le_iff_toNat_le]
    exact Nat.one_le_iff_ne_zero.mpr fun none => zero (UInt64.toNat_inj.mp none)

theorem toNat_min (left right : UInt64) :
    (min left right).toNat = min left.toNat right.toNat := by
  change (if left ≤ right then left else right).toNat = min left.toNat right.toNat
  split_ifs with below
  · exact (min_eq_left (UInt64.le_iff_toNat_le.mp below)).symm
  · rw [UInt64.le_iff_toNat_le, Nat.not_le] at below
    exact (min_eq_right below.le).symm

theorem power?_of_lt {exponent : UInt32} (small : exponent.toNat < 32) :
    ∃ power, power? exponent = some power ∧ power.toNat = 2 ^ exponent.toNat := by
  refine ⟨1 <<< exponent, if_pos (UInt32.lt_iff_toNat_lt.mpr small), ?_⟩
  have fits : 2 ^ exponent.toNat < 2 ^ 32 := Nat.pow_lt_pow_right (by decide) small
  rw [UInt32.toNat_shiftLeft, Nat.mod_eq_of_lt small, UInt32.toNat_one, Nat.one_shiftLeft,
    Nat.mod_eq_of_lt fits]

end Word

/-! ### Spans in words -/

namespace Duration

open Word

/-- A span of so many seconds and nanoseconds. Whole seconds among the nanoseconds are carried
over, which has to fit. -/
def ofWords? (seconds : UInt64) (nanoseconds : UInt32) : Option Duration :=
  if small : nanoseconds.toNat < nanosPerSecond then
    some ⟨seconds.toNat, nanoseconds.toNat, seconds.toNat_lt, small⟩
  else do
    -- A multiple never comes here, because only a remainder of the nanoseconds is handed over.
    let seconds ← sum? seconds (nanoseconds / 1000000000).toUInt64
    return ⟨seconds.toNat, nanoseconds.toNat % nanosPerSecond, seconds.toNat_lt,
      Nat.mod_lt _ (by decide)⟩

theorem ofWords?_of_lt {seconds : UInt64} {nanoseconds : UInt32}
    (small : nanoseconds.toNat < nanosPerSecond) :
    ofWords? seconds nanoseconds =
      some ⟨seconds.toNat, nanoseconds.toNat, seconds.toNat_lt, small⟩ :=
  dif_pos small

/-- A multiple of a span. The product of the nanoseconds has to fit; if that of the seconds does
not, or not with what is carried over to it, it is the longest span. -/
def scaleInWords? (span : Duration) (factor : UInt32) : Option Duration := do
  let nanoseconds ← product? (.ofNat span.nanoseconds) factor.toUInt64
  let seconds? := (product? (.ofNat span.seconds) factor.toUInt64).bind
    (sum? · (nanoseconds / 1000000000))
  match seconds? with
  | some seconds => ofWords? seconds (nanoseconds % 1000000000).toUInt32
  | none => return longest

/-- Less than a second of nanoseconds times a word of thirty-two bits fits into sixty-four. -/
theorem exists_product (span : Duration) (factor : UInt32) :
    ∃ nanoseconds, product? (.ofNat span.nanoseconds) factor.toUInt64 = some nanoseconds ∧
      nanoseconds.toNat = span.nanoseconds * factor.toNat := by
  have small := span.nanoseconds_lt
  have word : (UInt64.ofNat span.nanoseconds).toNat = span.nanoseconds :=
    UInt64.toNat_ofNat_of_lt' (small.trans (by decide))
  rw [product?, word, UInt32.toNat_toUInt64]
  apply hold?_of_lt
  calc span.nanoseconds * factor.toNat ≤ nanosPerSecond * 2 ^ 32 :=
        Nat.mul_le_mul small.le factor.toNat_lt.le
    _ < UInt64.size := by decide

theorem scaleInWords?_eq (span : Duration) (factor : UInt32) :
    span.scaleInWords? factor = some (span.scale factor.toNat) := by
  obtain ⟨nanoseconds, product, same⟩ := span.exists_product factor
  have seconds : (UInt64.ofNat span.seconds).toNat = span.seconds :=
    UInt64.toNat_ofNat_of_lt' span.seconds_lt
  have carry : (nanoseconds / 1000000000).toNat =
      span.nanoseconds * factor.toNat / nanosPerSecond := by
    rw [UInt64.toNat_div, same]
    rfl
  -- What is left of the nanoseconds is less than a second, so thirty-two bits lose nothing of it.
  have rest : (nanoseconds % 1000000000).toUInt32.toNat =
      span.nanoseconds * factor.toNat % nanosPerSecond := by
    rw [UInt64.toNat_toUInt32, UInt64.toNat_mod, same]
    exact Nat.mod_eq_of_lt ((Nat.mod_lt _ (by decide)).trans (by decide))
  have small : (nanoseconds % 1000000000).toUInt32.toNat < nanosPerSecond := by
    rw [rest]
    exact Nat.mod_lt _ (by decide)
  rw [scaleInWords?, product]
  simp only [Option.bind_eq_bind, Option.bind_some, sum?_product?, seconds, carry,
    UInt32.toNat_toUInt64]
  rw [scale]
  split_ifs with fits
  · obtain ⟨carried, held, total⟩ := hold?_of_lt fits
    simp only [held, ofWords?_of_lt small, total, rest]
  · rw [hold?_of_le (Nat.le_of_not_lt fits)]
    rfl

end Duration

/-! ### Delays -/

namespace Retry

open Word

/-- The delay after a number of failures as it is computed, unless a result that has to fit into a
word does not. -/
def delayInWords? (retry : Retry) (failures : UInt64) : Option Duration := do
  let factor ← power? (min (previous failures) 16).toUInt32
  retry.baseDelay.scaleInWords? factor

theorem doublings_eq (failures : Nat) : doublings failures = min (max failures 1 - 1) 16 := by
  rw [doublings]
  omega

theorem toNat_min_previous (failures : UInt64) :
    (min (previous failures) 16).toUInt32.toNat = doublings failures.toNat := by
  rw [UInt64.toNat_toUInt32, toNat_min, toNat_previous]
  -- The exponent is at most sixteen, so it does not need more than thirty-two bits.
  exact Nat.mod_eq_of_lt ((Nat.min_le_right _ _).trans_lt (by decide))

/-- No result is ever too great where it has to fit, and what is computed is the delay. -/
theorem delayInWords?_eq (retry : Retry) (failures : UInt64) :
    retry.delayInWords? failures = some (retry.delayAfter failures.toNat) := by
  have exponent := toNat_min_previous failures
  have small : (min (previous failures) 16).toUInt32.toNat < 32 := by
    rw [exponent]
    exact (Nat.min_le_right _ _).trans_lt (by decide)
  obtain ⟨factor, power, same⟩ := power?_of_lt small
  rw [delayInWords?, power, Option.bind_eq_bind, Option.bind_some, Duration.scaleInWords?_eq,
    same, exponent]
  rfl

theorem capped_delayAfter (retry : Retry) (failures : Nat) :
    Duration.Capped (retry.baseDelay.total * 2 ^ min (max failures 1 - 1) 16)
      (retry.delayAfter failures) := by
  rw [← doublings_eq]
  exact retry.baseDelay.capped_scale _

/-- Neither the cap on the doublings nor the longest span lets a delay become shorter. -/
theorem delayAfter_le_delayAfter {retry other : Retry} {failures more : Nat}
    (longer : retry.baseDelay ≤ other.baseDelay) (later : failures ≤ more) :
    retry.delayAfter failures ≤ other.delayAfter more := by
  apply Duration.scale_le_scale longer
  apply Nat.pow_le_pow_right (by decide)
  exact min_le_min_right 16 (Nat.sub_le_sub_right later 1)

/-- The delay after a number of failures is the base delay times a power of two, with at most
sixteen doublings, or the longest span if no span is as long as that. It is computed in words
without an overflow, its nanoseconds stay below a second, and it grows with the number of failures
and with the base delay. -/
theorem delays_exact (retry : Retry) (failures : UInt64) :
    let product := retry.baseDelay.total * 2 ^ min (max failures.toNat 1 - 1) 16
    let delay := retry.delayAfter failures.toNat
    retry.delayInWords? failures = some delay ∧
    (∀ span, Duration.Capped product span ↔ delay = span) ∧
    delay.nanoseconds < nanosPerSecond ∧
    ∀ (other : Retry) (more : UInt64), retry.baseDelay ≤ other.baseDelay → failures ≤ more →
      delay ≤ other.delayAfter more.toNat := by
  intro product delay
  have capped : Duration.Capped product delay := retry.capped_delayAfter failures.toNat
  refine ⟨retry.delayInWords?_eq failures, fun span => ⟨capped.unique, fun same => same ▸ capped⟩,
    delay.nanoseconds_lt, fun other more longer later => ?_⟩
  exact delayAfter_le_delayAfter longer (UInt64.le_iff_toNat_le.mp later)

/-- Twice 2^63 seconds is a nanosecond more than the longest span. -/
example : (Retry.backoff 5 ⟨2 ^ 63, 0, by decide, by decide⟩).delayAfter 2 = .longest := by
  decide

end Retry

end Resharing
