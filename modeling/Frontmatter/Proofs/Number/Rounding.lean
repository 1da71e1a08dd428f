import Frontmatter.Number.Binary64
import Mathlib.Algebra.Order.Field.Power
import Mathlib.Data.Int.Log
import Mathlib.Data.Rat.Floor
import Mathlib.Tactic.Linarith
import Mathlib.Tactic.NormNum
import Mathlib.Tactic.Positivity
import Mathlib.Tactic.Ring

/-! # Which numbers are rounded to integers

A quotient is rounded to the nearest multiple of its last place, and beyond the greatest finite
number to an infinity. `exponentFor_eq` says what the last place is. The result is an integer
exactly if the quotient is small enough to stay finite and lies within half a unit of its last place
of an integer: `isInteger_ofRatio_iff`, and `isInteger_ofDecimal_iff` for decimal numbers. Of those
with few digits these are the integers (`roundsToInteger_div_iff`). -/

namespace Frontmatter

namespace Binary64

variable {num den m k : Nat} {e : Int} {x : ℚ} {negative : Bool}

/-! ## The nearest integer -/

/-- A quotient is the integer below it and a fraction. -/
theorem div_eq_add_mod_div (num : Nat) (hden : 0 < den) :
    (num : ℚ) / den = (num / den : Nat) + (num % den : Nat) / (den : ℚ) := by
  have hpos : (0 : ℚ) < den := Nat.cast_pos.mpr hden
  have hsum : (num : ℚ) = den * (num / den : Nat) + (num % den : Nat) := by
    exact_mod_cast (Nat.div_add_mod num den).symm
  rw [div_eq_iff hpos.ne', add_mul, div_mul_cancel₀ _ hpos.ne', mul_comm, ← hsum]

/-- A quotient is rounded to an integer at most one half away, and to an odd one that is nearer than
that. -/
theorem roundedQuotient_nearest (num : Nat) (hden : 0 < den) :
    |(num : ℚ) / den - roundedQuotient num den| ≤ 1 / 2
      ∧ (roundedQuotient num den % 2 = 1 →
        |(num : ℚ) / den - roundedQuotient num den| < 1 / 2) := by
  have hpos : (0 : ℚ) < den := Nat.cast_pos.mpr hden
  have hlow : (0 : ℚ) ≤ (num % den : Nat) / (den : ℚ) := by positivity
  have hhigh : ((num % den : Nat) : ℚ) / den < 1 := by
    rw [div_lt_one hpos]
    exact_mod_cast Nat.mod_lt num hden
  rw [roundedQuotient, div_eq_add_mod_div num hden]
  generalize num / den = q
  generalize num % den = s at *
  have hbelow : 2 * s < den → (s : ℚ) / den < 1 / 2 := by
    intro h
    rw [div_lt_div_iff₀ hpos two_pos, one_mul]
    exact_mod_cast (by omega : s * 2 < den)
  have habove : den < 2 * s → 1 / 2 < (s : ℚ) / den := by
    intro h
    rw [div_lt_div_iff₀ two_pos hpos, one_mul]
    exact_mod_cast (by omega : den < s * 2)
  have htie : 2 * s = den → (s : ℚ) / den = 1 / 2 := by
    intro h
    rw [div_eq_div_iff hpos.ne' two_ne_zero, one_mul]
    exact_mod_cast (by omega : s * 2 = den)
  split
  · have h := hbelow ‹_›
    have hlt : |(q : ℚ) + s / den - q| < 1 / 2 := by
      rw [abs_lt]
      constructor <;> linarith
    exact ⟨hlt.le, fun _ => hlt⟩
  · split
    · have h := habove ‹_›
      have hlt : |(q : ℚ) + s / den - (q + 1 : Nat)| < 1 / 2 := by
        rw [abs_lt]
        push_cast
        constructor <;> linarith
      exact ⟨hlt.le, fun _ => hlt⟩
    · -- A tie goes to the even one of the two.
      have h := htie (by omega)
      split
      · rename_i heven
        refine ⟨?_, fun hodd => absurd hodd (by omega)⟩
        rw [abs_le]
        constructor <;> linarith
      · rename_i heven
        refine ⟨?_, fun hodd => absurd hodd (by omega)⟩
        rw [abs_le]
        push_cast
        constructor <;> linarith

/-- An even integer is rounded to from half a unit on both sides. -/
theorem roundedQuotient_eq_iff (hden : 0 < den) (hm : m % 2 = 0) :
    roundedQuotient num den = m ↔ |(num : ℚ) / den - m| ≤ 1 / 2 := by
  obtain ⟨hle, hlt⟩ := roundedQuotient_nearest num hden
  generalize roundedQuotient num den = r at *
  constructor
  · rintro rfl
    exact hle
  · intro hnear
    rw [abs_le] at hle hnear
    have hup : (r : ℚ) ≤ m + 1 := by linarith
    have hdown : (m : ℚ) ≤ r + 1 := by linarith
    have hup' : r ≤ m + 1 := by exact_mod_cast hup
    have hdown' : m ≤ r + 1 := by exact_mod_cast hdown
    -- A neighbour of an even integer is odd, and therefore nearer.
    by_contra hne
    have hodd : r % 2 = 1 := by omega
    have hnearer := abs_lt.mp (hlt hodd)
    have hup : (r : ℚ) < m + 1 := by linarith
    have hdown : (m : ℚ) < r + 1 := by linarith
    have hup' : r < m + 1 := by exact_mod_cast hup
    have hdown' : m < r + 1 := by exact_mod_cast hdown
    omega

/-- An even integer is reached by rounding from half a unit below it on. -/
theorem le_roundedQuotient_iff (num : Nat) (hden : 0 < den) (hm : m % 2 = 0) :
    m ≤ roundedQuotient num den ↔ (m : ℚ) - 1 / 2 ≤ num / den := by
  obtain ⟨hle, hlt⟩ := roundedQuotient_nearest num hden
  generalize roundedQuotient num den = r at *
  rw [abs_le] at hle
  constructor
  · intro h
    have h : (m : ℚ) ≤ r := by exact_mod_cast h
    linarith
  · intro h
    by_contra hnot
    have hbelow : (r : ℚ) + 1 ≤ m := by exact_mod_cast Nat.not_le.mp hnot
    -- Only the odd number right below could be rounded to instead.
    have habove : (m : ℚ) ≤ r + 1 := by linarith
    have hr : m = r + 1 := by
      exact_mod_cast le_antisymm habove hbelow
    have hnearer := abs_lt.mp (hlt (by omega))
    linarith

/-! ## The last place -/

/-- The exponent of the last place that a double of a size has: 53 bits, or fewer where the exponent
would be too small. -/
def lastPlace (x : ℚ) : Int :=
  max (Int.log 2 x - 52) leastExponent

/-- The unit of that last place. -/
def lastUnit (x : ℚ) : ℚ :=
  2 ^ lastPlace x

/-- The unit of the last place is positive. -/
theorem lastUnit_pos (x : ℚ) : 0 < lastUnit x := by
  rw [lastUnit]
  positivity

/-- A quotient scaled by a power of two. -/
theorem scaledRatio_div (num den : Nat) (e : Int) :
    ((scaledRatio num den e).1 : ℚ) / (scaledRatio num den e).2 = num / den / 2 ^ e := by
  rw [scaledRatio]
  split
  · rename_i he
    obtain ⟨n, rfl⟩ := Int.eq_ofNat_of_zero_le he
    simp [div_div]
  · rename_i he
    obtain ⟨n, hn⟩ := Int.eq_ofNat_of_zero_le (by omega : 0 ≤ -e)
    obtain rfl : e = -n := by omega
    simp [mul_div_right_comm]

/-- A scaled quotient keeps a positive denominator. -/
theorem scaledRatio_snd_pos (num : Nat) (hden : 0 < den) (e : Int) :
    0 < (scaledRatio num den e).2 := by
  rw [scaledRatio]
  split
  · exact Nat.mul_pos hden (Nat.pow_pos two_pos)
  · exact hden

/-- The binary logarithm of a quotient is told by those of its parts, up to one. -/
theorem log_div_bounds (hnum : 0 < num) (hden : 0 < den) :
    (Nat.log2 num : Int) - Nat.log2 den - 1 ≤ Int.log 2 ((num : ℚ) / den)
      ∧ Int.log 2 ((num : ℚ) / den) ≤ (Nat.log2 num : Int) - Nat.log2 den := by
  have hpos : (0 : ℚ) < den := Nat.cast_pos.mpr hden
  have hquot : (0 : ℚ) < (num : ℚ) / den := by positivity
  have hnumLow : (2 : ℚ) ^ (Nat.log2 num : Int) ≤ num := by
    exact_mod_cast Nat.log2_self_le hnum.ne'
  have hnumHigh : (num : ℚ) < 2 ^ ((Nat.log2 num : Int) + 1) := by
    exact_mod_cast (Nat.lt_log2_self (n := num))
  have hdenLow : (2 : ℚ) ^ (Nat.log2 den : Int) ≤ den := by
    exact_mod_cast Nat.log2_self_le hden.ne'
  have hdenHigh : (den : ℚ) < 2 ^ ((Nat.log2 den : Int) + 1) := by
    exact_mod_cast (Nat.lt_log2_self (n := den))
  constructor
  · rw [← Int.zpow_le_iff_le_log Nat.one_lt_two hquot, le_div_iff₀ hpos]
    calc (2 : ℚ) ^ ((Nat.log2 num : Int) - Nat.log2 den - 1) * den
        ≤ 2 ^ ((Nat.log2 num : Int) - Nat.log2 den - 1) * 2 ^ ((Nat.log2 den : Int) + 1) := by
          gcongr
      _ = 2 ^ (Nat.log2 num : Int) := by
          rw [← zpow_add₀ two_ne_zero]
          congr 1
          omega
      _ ≤ num := hnumLow
  · rw [← Int.lt_add_one_iff, ← Int.lt_zpow_iff_log_lt Nat.one_lt_two hquot, div_lt_iff₀ hpos]
    calc (num : ℚ) < 2 ^ ((Nat.log2 num : Int) + 1) := hnumHigh
      _ = 2 ^ ((Nat.log2 num : Int) - Nat.log2 den + 1) * 2 ^ (Nat.log2 den : Int) := by
          rw [← zpow_add₀ two_ne_zero]
          congr 1
          omega
      _ ≤ 2 ^ ((Nat.log2 num : Int) - Nat.log2 den + 1) * den := by
          gcongr

/-- A quotient is rounded at the last place of its size. -/
theorem exponentFor_eq (hnum : 0 < num) (hden : 0 < den) :
    exponentFor num den = lastPlace ((num : ℚ) / den) := by
  have hquot : (0 : ℚ) < (num : ℚ) / den := by positivity
  obtain ⟨hlow, hhigh⟩ := log_div_bounds hnum hden
  rw [exponentFor, lastPlace]
  congr 1
  set guess : Int := (Nat.log2 num : Int) - Nat.log2 den - 52 with hguess
  -- The mantissa falls short of 53 bits exactly if the logarithm is the smaller one.
  have hshort : (scaledRatio num den guess).1 / (scaledRatio num den guess).2 < Nat.pow 2 52
      ↔ Int.log 2 ((num : ℚ) / den) < guess + 52 := by
    have hpos := scaledRatio_snd_pos num hden guess
    have hcast : (0 : ℚ) < (scaledRatio num den guess).2 := Nat.cast_pos.mpr hpos
    rw [Nat.div_lt_iff_lt_mul hpos, ← Int.lt_zpow_iff_log_lt Nat.one_lt_two hquot,
      ← @Nat.cast_lt ℚ, Nat.cast_mul, ← div_lt_iff₀ hcast, scaledRatio_div,
      div_lt_iff₀ (by positivity), Nat.cast_ofNat, zpow_add₀ two_ne_zero, mul_comm]
    norm_num
  split
  · have h := hshort.mp ‹_›
    omega
  · have h := mt hshort.mpr ‹_›
    omega

/-! ## Quotients -/

/-- Half a unit beyond the greatest finite number. -/
def overflow : ℚ :=
  (2 ^ 54 - 1) * 2 ^ 970

/-- Integers of 53 bits do not overflow. -/
theorem lt_overflow : (2 : ℚ) ^ 53 < overflow := by
  rw [overflow]
  calc (2 : ℚ) ^ 53 < 2 ^ 54 - 1 := by norm_num
    _ ≤ (2 ^ 54 - 1) * 2 ^ 970 := le_mul_of_one_le_right (by norm_num) (one_le_pow₀ one_le_two)

/-- Numbers of more than 1024 bits in front of the point overflow. -/
theorem overflow_le : overflow ≤ (2 : ℚ) ^ 1024 := by
  rw [overflow, show 1024 = 54 + 970 from rfl, pow_add]
  exact mul_le_mul_of_nonneg_right (by norm_num) (by positivity)

/-- A number that is not negative is rounded to an integer: it does not overflow, and an integer is
at most half a unit of the last place away. -/
def RoundsToInteger (x : ℚ) : Prop :=
  x < overflow ∧ ∃ k : Nat, |x - k| ≤ lastUnit x / 2

/-- The mantissa that a quotient has at an exponent. -/
def mantissaAt (num den : Nat) (e : Int) : Nat :=
  roundedQuotient (scaledRatio num den e).1 (scaledRatio num den e).2

/-- A number has 53 bits at most in front of its last place. -/
theorem lt_mul_lastUnit (x : ℚ) : x < 2 ^ 53 * lastUnit x := by
  calc x < 2 ^ (Int.log 2 x + 1) := by
        exact_mod_cast Int.lt_zpow_succ_log_self Nat.one_lt_two x
    _ ≤ 2 ^ (53 + lastPlace x) :=
        zpow_le_zpow_right₀ one_le_two (by rw [lastPlace]; omega)
    _ = 2 ^ 53 * lastUnit x := by
        rw [zpow_add₀ two_ne_zero, lastUnit]
        norm_num

/-- Rounding may carry into the next binary place, but not beyond it. -/
theorem mantissaAt_le (num : Nat) (hden : 0 < den) :
    mantissaAt num den (lastPlace ((num : ℚ) / den)) ≤ Nat.pow 2 53 := by
  have hpos := lastUnit_pos ((num : ℚ) / den)
  obtain ⟨hle, -⟩ := roundedQuotient_nearest
    (scaledRatio num den (lastPlace ((num : ℚ) / den))).1
    (scaledRatio_snd_pos num hden (lastPlace ((num : ℚ) / den)))
  rw [scaledRatio_div, ← mantissaAt, abs_le] at hle
  have hsize : (num : ℚ) / den / lastUnit ((num : ℚ) / den) < 2 ^ 53 := by
    rw [div_lt_iff₀ hpos]
    exact lt_mul_lastUnit _
  rw [lastUnit] at hsize
  have hlt : (mantissaAt num den (lastPlace ((num : ℚ) / den)) : ℚ) < 2 ^ 53 + 1 := by linarith
  exact Nat.le_of_lt_succ (by exact_mod_cast hlt)

/-- The mantissa is carried exactly from half a unit below 53 bits on. -/
theorem mantissaAt_eq_iff (num : Nat) (hden : 0 < den) :
    mantissaAt num den (lastPlace ((num : ℚ) / den)) = Nat.pow 2 53
      ↔ (2 ^ 53 - 1 / 2) * lastUnit ((num : ℚ) / den) ≤ num / den := by
  have hle := mantissaAt_le num hden
  have hiff := le_roundedQuotient_iff (scaledRatio num den (lastPlace (num / den))).1
    (scaledRatio_snd_pos num hden (lastPlace ((num : ℚ) / den)))
    (by decide : Nat.pow 2 53 % 2 = 0)
  rw [scaledRatio_div, ← mantissaAt, le_div_iff₀ (by positivity)] at hiff
  rw [← lastUnit] at hiff
  constructor
  · intro h
    have := hiff.mp h.ge
    norm_num at this ⊢
    exact this
  · intro h
    refine le_antisymm hle (hiff.mpr ?_)
    norm_num at h ⊢
    exact h

/-- Carrying into the next binary place does not change whether a number is an integer. -/
theorem isInteger_carried (negative : Bool) (e : Int) :
    (finite negative (Nat.pow 2 52) (e + 1)).isInteger
      = (finite negative (Nat.pow 2 53) e).isInteger := by
  rw [isInteger, isInteger]
  by_cases he : 0 ≤ e
  · simp [he, (by omega : 0 ≤ e + 1)]
  · obtain ⟨n, hn⟩ := Int.eq_ofNat_of_zero_le (by omega : 0 ≤ -(e + 1))
    obtain rfl : e = -(n + 1 : Nat) := by omega
    -- Both the mantissa and what has to divide it are halved.
    have hpow : Nat.pow 2 53 % Nat.pow 2 (n + 1) = 2 * (Nat.pow 2 52 % Nat.pow 2 n) := by
      rw [Nat.pow_eq, Nat.pow_eq, Nat.pow_eq, Nat.pow_eq, Nat.pow_succ 2 n, Nat.mul_comm _ 2,
        ← Nat.mul_mod_mul_left, ← Nat.pow_succ']
    have hn' : (-(-((n + 1 : Nat) : Int) + 1)).toNat = n := by omega
    have hn'' : (-(-((n + 1 : Nat) : Int))).toNat = n + 1 := by omega
    rw [hn', hn'', hpow, decide_eq_false he]
    by_cases hzero : n = 0
    · subst hzero
      simp
    · rw [decide_eq_false (by omega), Bool.false_or, Bool.false_or, Bool.eq_iff_iff, beq_iff_eq,
        beq_iff_eq]
      omega

/-- Within the finite numbers, a quotient becomes an integer exactly if an integer is at most half a
unit of its last place away. -/
theorem isInteger_mantissaAt_iff (num : Nat) (hden : 0 < den) (negative : Bool) :
    (finite negative (mantissaAt num den (lastPlace ((num : ℚ) / den)))
        (lastPlace ((num : ℚ) / den))).isInteger = true
      ↔ ∃ k : Nat, |(num : ℚ) / den - k| ≤ lastUnit ((num : ℚ) / den) / 2 := by
  set x : ℚ := (num : ℚ) / den with hx
  have hnonneg : 0 ≤ x := by positivity
  rw [isInteger, lastUnit]
  by_cases he : 0 ≤ lastPlace x
  · -- Half a unit is half of one at least.
    refine iff_of_true (by simp [he]) ⟨⌊x + 1 / 2⌋₊, ?_⟩
    have hlow := Nat.floor_le (by positivity : 0 ≤ x + 1 / 2)
    have hhigh := Nat.lt_floor_add_one (x + 1 / 2)
    have hunit : (1 : ℚ) ≤ 2 ^ lastPlace x := one_le_zpow₀ one_le_two he
    rw [abs_le]
    constructor <;> linarith
  · obtain ⟨n, hn⟩ := Int.eq_ofNat_of_zero_le (by omega : 0 ≤ -lastPlace x)
    have hlast : lastPlace x = -n := by omega
    have hn' : n ≠ 0 := by omega
    have hunit : (2 : ℚ) ^ lastPlace x = (2 ^ n)⁻¹ := by rw [hlast]; simp
    have hpow : (0 : ℚ) < 2 ^ n := by positivity
    -- The mantissa is a multiple of an even number exactly if it is rounded to one.
    have hmultiple : ∀ k : Nat, mantissaAt num den (lastPlace x) = Nat.pow 2 n * k
        ↔ |x - k| ≤ 2 ^ lastPlace x / 2 := by
      intro k
      have heven : Nat.pow 2 n * k % 2 = 0 := by
        obtain ⟨m, rfl⟩ := Nat.exists_eq_succ_of_ne_zero hn'
        rw [Nat.pow_eq, Nat.pow_succ, Nat.mul_right_comm, Nat.mul_mod_left]
      rw [mantissaAt, roundedQuotient_eq_iff (scaledRatio_snd_pos num hden _) heven,
        scaledRatio_div, ← hx, hunit, div_inv_eq_mul]
      have hscale : x * 2 ^ n - (Nat.pow 2 n * k : Nat) = (x - k) * 2 ^ n := by
        rw [Nat.pow_eq]
        push_cast
        ring
      rw [hscale, abs_mul, abs_of_pos hpow, ← le_div_iff₀ hpow]
      rw [div_right_comm, one_div]
    rw [decide_eq_false he, Bool.false_or, beq_iff_eq, hn, Int.toNat_natCast,
      ← Nat.dvd_iff_mod_eq_zero]
    exact exists_congr hmultiple

/-- The mantissa and the exponent that a quotient is rounded to. -/
def carried (num den : Nat) : Nat × Int :=
  let e := lastPlace ((num : ℚ) / den)
  if mantissaAt num den e = Nat.pow 2 53 then (Nat.pow 2 52, e + 1) else (mantissaAt num den e, e)

/-- A quotient becomes what it is rounded to, or infinite where the exponent is too great. -/
theorem ofRatio_eq (hnum : 0 < num) (hden : 0 < den) (negative : Bool) :
    ofRatio negative num den
      = if greatestExponent < (carried num den).2 then .infinite negative
        else .finite negative (carried num den).1 (carried num den).2 := by
  rw [ofRatio, if_neg hnum.ne', if_neg hden.ne', exponentFor_eq hnum hden]
  rfl

/-- A number whose last place is not the greatest has room for a carry. -/
theorem lt_overflow_of_lastPlace_lt (h : lastPlace x < greatestExponent) : x < overflow := by
  calc x < 2 ^ 53 * 2 ^ lastPlace x := lt_mul_lastUnit x
    _ ≤ 2 ^ 53 * 2 ^ (970 : Int) := by
        refine mul_le_mul_of_nonneg_left (zpow_le_zpow_right₀ one_le_two ?_) (by positivity)
        rw [greatestExponent] at h
        omega
    _ < overflow := by
        rw [overflow, zpow_ofNat]
        exact mul_lt_mul_of_pos_right (by norm_num) (by positivity)

/-- A number whose last place is beyond the greatest has more than 1024 bits. -/
theorem overflow_le_of_lt_lastPlace (hx : 0 < x) (h : greatestExponent < lastPlace x) :
    overflow ≤ x := by
  have hlog : (1024 : Int) ≤ Int.log 2 x := by
    rw [lastPlace, leastExponent, greatestExponent] at h
    omega
  calc overflow ≤ 2 ^ (1024 : Int) := overflow_le
    _ ≤ x := by exact_mod_cast (Int.zpow_le_iff_le_log Nat.one_lt_two hx).mpr hlog

/-- The number from which on a mantissa is carried beyond the greatest last place. -/
theorem carry_at_greatestExponent : ((2 : ℚ) ^ 53 - 1 / 2) * 2 ^ greatestExponent = overflow := by
  rw [overflow, greatestExponent, zpow_ofNat, pow_succ 2 970]
  generalize (2 : ℚ) ^ 970 = p
  ring

/-- A quotient becomes infinite exactly from half a unit beyond the greatest finite number on. -/
theorem greatestExponent_lt_carried_iff (hnum : 0 < num) (hden : 0 < den) :
    greatestExponent < (carried num den).2 ↔ overflow ≤ (num : ℚ) / den := by
  have hquot : (0 : ℚ) < (num : ℚ) / den := by positivity
  have hmantissa := mantissaAt_eq_iff num hden
  rw [carried]
  generalize (num : ℚ) / den = x at *
  rcases lt_trichotomy (lastPlace x) greatestExponent with he | he | he
  · refine iff_of_false ?_ (not_le.mpr (lt_overflow_of_lastPlace_lt he))
    split <;> simp only <;> omega
  · -- At the greatest exponent the carry decides.
    rw [lastUnit, he, carry_at_greatestExponent] at hmantissa
    rw [he, ← hmantissa]
    split
    · exact iff_of_true (by simp) ‹_›
    · exact iff_of_false (by simp) ‹_›
  · refine iff_of_true ?_ (overflow_le_of_lt_lastPlace hquot he)
    split <;> simp only <;> omega

/-- Zeros of both signs are integers. -/
theorem isInteger_zero (negative : Bool) : (zero negative).isInteger = true := by
  rw [zero, isInteger, Nat.zero_mod, beq_self_eq_true, Bool.or_true]

/-- A zero is rounded to an integer, which is itself. -/
theorem roundsToInteger_zero : RoundsToInteger 0 := by
  refine ⟨lt_trans (by positivity) lt_overflow, 0, ?_⟩
  rw [Nat.cast_zero, sub_zero, abs_zero]
  exact (half_pos (lastUnit_pos 0)).le

/-- **A quotient is rounded to an integer exactly if it does not overflow and lies within half a
unit of its last place of one.** -/
theorem isInteger_ofRatio_iff (num : Nat) (hden : 0 < den) (negative : Bool) :
    (ofRatio negative num den).isInteger = true ↔ RoundsToInteger ((num : ℚ) / den) := by
  rcases Nat.eq_zero_or_pos num with rfl | hnum
  · rw [ofRatio, if_pos rfl, Nat.cast_zero, zero_div]
    exact iff_of_true (isInteger_zero negative) roundsToInteger_zero
  · rw [ofRatio_eq hnum hden, RoundsToInteger, ← isInteger_mantissaAt_iff num hden negative]
    have hoverflow := greatestExponent_lt_carried_iff hnum hden
    split
    · rename_i hinfinite
      exact iff_of_false (by simp [isInteger]) fun h => h.1.not_ge (hoverflow.mp hinfinite)
    · rename_i hfinite
      rw [and_iff_right (not_le.mp (mt hoverflow.mpr hfinite)), carried]
      split
      · rename_i hcarry
        rw [isInteger_carried, hcarry]
      · rfl

/-! ## Decimal numbers -/

/-- The number of decimal digits bounds a number from below. -/
theorem pow_length_le {n size : Nat} (hn : n ≠ 0) (hsize : size < (Nat.toDigits 10 n).length) :
    10 ^ size ≤ n := by
  rcases Nat.eq_zero_or_pos size with rfl | hpos
  · rw [Nat.pow_zero]
    exact Nat.pos_of_ne_zero hn
  · rw [← not_lt, ← Nat.length_toDigits_le_iff (by decide) hpos]
    omega

/-- A number of more than 310 digits before the point overflows. -/
theorem overflow_le_of_size {digits places : Nat} (hdigits : digits ≠ 0)
    (hsize : 310 + places < (Nat.toDigits 10 digits).length) :
    overflow ≤ (digits : ℚ) / 10 ^ places := by
  -- The first digit alone is worth more than the greatest finite number.
  have hpow : 10 ^ (310 + places) ≤ digits := pow_length_le hdigits hsize
  have hcast : (10 : ℚ) ^ (310 + places) ≤ digits := by exact_mod_cast hpow
  rw [le_div_iff₀ (by positivity)]
  refine le_trans ?_ hcast
  rw [pow_add]
  refine mul_le_mul_of_nonneg_right ?_ (by positivity)
  calc overflow ≤ 2 ^ 1024 := overflow_le
    _ ≤ 10 ^ 310 := by exact_mod_cast (by decide +kernel : 2 ^ 1024 ≤ 10 ^ 310)

/-- A number with 330 zeros behind the point is less than half the least unit. -/
theorem roundsToInteger_of_size {digits places : Nat}
    (hsize : (Nat.toDigits 10 digits).length + 330 < places) :
    RoundsToInteger ((digits : ℚ) / 10 ^ places) := by
  have hnonneg : (0 : ℚ) ≤ (digits : ℚ) / 10 ^ places := by positivity
  have hlt : digits < 10 ^ (Nat.toDigits 10 digits).length := by
    rw [← Nat.length_toDigits_le_iff (by decide) (List.length_pos_of_ne_nil (Nat.toDigits_ne_nil))]
  -- Half the least unit is greater than the number that starts at the 330th place.
  have hvalue : (digits : ℚ) / 10 ^ places ≤ (2 ^ 1075)⁻¹ := by
    have hpow : digits * 2 ^ 1075 ≤ 10 ^ places :=
      calc digits * 2 ^ 1075
          ≤ 10 ^ (Nat.toDigits 10 digits).length * 10 ^ 330 :=
            Nat.mul_le_mul hlt.le (by decide +kernel)
        _ ≤ 10 ^ places := by
            rw [← Nat.pow_add]
            exact Nat.pow_le_pow_right (by decide) hsize.le
    rw [div_le_iff₀ (by positivity), inv_mul_eq_div, le_div_iff₀ (by positivity)]
    exact_mod_cast hpow
  have hunit : ((2 : ℚ) ^ 1075)⁻¹ ≤ lastUnit ((digits : ℚ) / 10 ^ places) / 2 := by
    rw [lastUnit, le_div_iff₀ two_pos, ← zpow_natCast, ← zpow_neg, ← zpow_add_one₀ two_ne_zero]
    exact zpow_le_zpow_right₀ one_le_two (le_max_right _ _)
  refine ⟨hvalue.trans_lt ?_, 0, ?_⟩
  · calc ((2 : ℚ) ^ 1075)⁻¹ ≤ 1 := inv_le_one_of_one_le₀ (one_le_pow₀ one_le_two)
      _ ≤ 2 ^ 53 := one_le_pow₀ one_le_two
      _ < overflow := lt_overflow
  · rw [Nat.cast_zero, sub_zero, abs_of_nonneg hnonneg]
    exact hvalue.trans hunit

/-- **A decimal number is rounded to an integer exactly if it does not overflow and lies within half
a unit of its last place of one.** -/
theorem isInteger_ofDecimal_iff (negative : Bool) (digits places : Nat) :
    (ofDecimal negative digits (-(places : Int))).isInteger = true
      ↔ RoundsToInteger ((digits : ℚ) / 10 ^ places) := by
  rw [ofDecimal]
  split
  · rename_i hzero
    subst hzero
    rw [Nat.cast_zero, zero_div]
    exact iff_of_true (isInteger_zero negative) roundsToInteger_zero
  · rename_i hdigits
    split
    · rename_i hlarge
      exact iff_of_false (by simp [isInteger])
        fun h => h.1.not_ge (overflow_le_of_size hdigits (by omega))
    · split
      · rename_i hsmall
        exact iff_of_true (isInteger_zero negative) (roundsToInteger_of_size (by omega))
      · split
        · obtain rfl : places = 0 := by omega
          rw [isInteger_ofRatio_iff _ one_pos]
          simp
        · rw [Nat.pow_eq, isInteger_ofRatio_iff _ (Nat.pow_pos (by decide)), Int.neg_neg,
            Int.toNat_natCast, Nat.cast_pow, Nat.cast_ofNat]

/-! ## Decimal numbers that keep their fraction -/

/-- An integer stays one unless it overflows. -/
theorem roundsToInteger_natCast_iff (k : Nat) : RoundsToInteger k ↔ (k : ℚ) < overflow := by
  refine ⟨And.left, fun h => ⟨h, k, ?_⟩⟩
  rw [sub_self, abs_zero]
  exact (half_pos (lastUnit_pos _)).le

/-- With few digits, the last decimal place is worth more than half a unit of the last binary
one. -/
theorem lastUnit_half_lt {digits places : Nat} (hpos : 0 < digits) (hdigits : digits < 2 ^ 53)
    (hplaces : places ≤ 323) : lastUnit ((digits : ℚ) / 10 ^ places) / 2 < 1 / 10 ^ places := by
  have hten : (0 : ℚ) < 10 ^ places := by positivity
  have hvalue : (0 : ℚ) < (digits : ℚ) / 10 ^ places := by positivity
  rw [lastUnit, lastPlace]
  rcases le_total leastExponent (Int.log 2 ((digits : ℚ) / 10 ^ places) - 52) with hle | hle
  · -- The number has all its 53 bits.
    rw [max_eq_left hle, zpow_sub₀ two_ne_zero, div_div]
    have hlog : (2 : ℚ) ^ Int.log 2 ((digits : ℚ) / 10 ^ places) ≤ digits / 10 ^ places := by
      exact_mod_cast Int.zpow_log_le_self Nat.one_lt_two hvalue
    have hcast : (digits : ℚ) < 2 ^ 53 := by exact_mod_cast hdigits
    calc (2 : ℚ) ^ Int.log 2 ((digits : ℚ) / 10 ^ places) / (2 ^ (52 : Int) * 2)
        ≤ digits / 10 ^ places / (2 ^ (52 : Int) * 2) := by gcongr
      _ < 2 ^ 53 / 10 ^ places / (2 ^ (52 : Int) * 2) := by gcongr
      _ = 1 / 10 ^ places := by
          rw [div_right_comm]
          norm_num
  · -- The unit is the least one.
    have hpow : 10 ^ places < 2 ^ 1075 :=
      calc 10 ^ places ≤ 10 ^ 323 := Nat.pow_le_pow_right (by decide) hplaces
        _ < 2 ^ 1075 := by decide +kernel
    have hcast : (10 : ℚ) ^ places < 2 ^ 1075 := by exact_mod_cast hpow
    rw [max_eq_right hle, leastExponent, div_eq_mul_inv, ← zpow_sub_one₀ two_ne_zero, one_div]
    exact (inv_lt_inv₀ (by positivity) hten).mpr hcast

/-- A decimal number of few digits is rounded to an integer only if it is one. -/
theorem roundsToInteger_div_iff {digits places : Nat} (hdigits : digits < 2 ^ 53)
    (hplaces : places ≤ 323) :
    RoundsToInteger ((digits : ℚ) / 10 ^ places) ↔ 10 ^ places ∣ digits := by
  have hten : (0 : ℚ) < 10 ^ places := by positivity
  constructor
  · rintro ⟨-, k, hk⟩
    by_contra hnot
    have hpos : 0 < digits := Nat.pos_of_ne_zero fun hzero => hnot (hzero ▸ dvd_zero _)
    -- Otherwise the number is a decimal place away from every integer at least.
    have hne : (digits : Int) - k * 10 ^ places ≠ 0 := by
      intro h
      refine hnot ⟨k, ?_⟩
      rw [mul_comm]
      exact_mod_cast sub_eq_zero.mp h
    have hapart : (1 : ℚ) ≤ |(digits : ℚ) - k * 10 ^ places| := by
      exact_mod_cast Int.one_le_abs hne
    have hscale : (digits : ℚ) / 10 ^ places - k = (digits - k * 10 ^ places) / 10 ^ places := by
      rw [sub_div, mul_div_cancel_right₀ _ hten.ne']
    rw [hscale, abs_div, abs_of_pos hten] at hk
    have hhalf := lastUnit_half_lt hpos hdigits hplaces
    exact (hk.trans_lt hhalf).not_ge ((div_le_div_iff_of_pos_right hten).mpr hapart)
  · rintro ⟨k, rfl⟩
    rw [Nat.cast_mul, Nat.cast_pow, Nat.cast_ofNat, mul_div_cancel_left₀ _ hten.ne',
      roundsToInteger_natCast_iff]
    have hk : k ≤ 10 ^ places * k := Nat.le_mul_of_pos_left k (by positivity)
    have hcast : (k : ℚ) < 2 ^ 53 := by exact_mod_cast hk.trans_lt hdigits
    exact hcast.trans lt_overflow

end Binary64

end Frontmatter
