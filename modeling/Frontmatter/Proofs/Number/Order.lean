import Frontmatter.Number.Decimal
import Mathlib.Algebra.Order.Field.Power
import Mathlib.Data.Rat.Cast.Order
import Mathlib.Order.WithBot
import Mathlib.Tactic.Positivity

/-! # The order of doubles

A double stands at a rational number, or at one of the two ends of the line (`place?`). Two finite
numbers are compared as multiples of the least unit, which is the order of the rational numbers
(`lt_finite_iff`), and infinities are compared as the ends: `lt_iff` says that one double is less
than another exactly if its place is before the other's. Not a number has no place. All this holds
of numbers whose exponent a double can have, such as every one that is read from a numeral
(`isDouble_ofDecimal`). -/

namespace Frontmatter

namespace Binary64

variable {negative negative' : Bool} {m n : Nat} {e f : Int} {x y : Binary64}

/-- The rational number that a sign, a mantissa and an exponent stand for. -/
def value (negative : Bool) (m : Nat) (e : Int) : ℚ :=
  (if negative then -(m : ℚ) else m) * 2 ^ e

/-- Where a double stands: a finite number at its value, and an infinity at an end of the line. -/
def place? : Binary64 → Option (WithBot (WithTop ℚ))
  | .finite negative m e => some ((value negative m e : WithTop ℚ) : WithBot (WithTop ℚ))
  | .infinite negative => some (if negative then ⊥ else ⊤)
  | .nan => none

/-- The exponent of a finite number is one that a double can have, as far as small ones go. -/
def IsDouble : Binary64 → Prop
  | .finite _ _ e => leastExponent ≤ e
  | .infinite _ => True
  | .nan => True

/-! ## Comparing -/

/-- A finite number is the number of its ticks times the least unit. -/
theorem value_eq_ticks_mul (he : leastExponent ≤ e) :
    value negative m e = ticks negative m e * 2 ^ leastExponent := by
  -- Every exponent is the least one and some number of doublings.
  obtain ⟨k, hk⟩ := Int.eq_ofNat_of_zero_le (Int.sub_nonneg_of_le he)
  obtain rfl : e = leastExponent + k := by omega
  have hpow : (2 : ℚ) ^ (leastExponent + k) = 2 ^ k * 2 ^ leastExponent := by
    rw [zpow_add₀ two_ne_zero, zpow_natCast, mul_comm]
  have hexponent : (leastExponent + k - leastExponent).toNat = k := by omega
  rw [value, ticks, hpow, hexponent]
  cases negative <;> simp [mul_assoc]

/-- **Finite numbers are compared in the order of their values.** -/
theorem lt_finite_iff (he : leastExponent ≤ e) (hf : leastExponent ≤ f) :
    (finite negative m e).lt (finite negative' n f) = true
      ↔ value negative m e < value negative' n f := by
  have hunit : (0 : ℚ) < 2 ^ leastExponent := by positivity
  rw [lt, decide_eq_true_iff, value_eq_ticks_mul he, value_eq_ticks_mul hf,
    mul_lt_mul_iff_left₀ hunit, Int.cast_lt]

/-- **Doubles are compared in the order of their places.** Nothing compares with not a number, which
has none. -/
theorem lt_iff (hx : x.IsDouble) (hy : y.IsDouble) :
    x.lt y = true ↔ ∃ a b, x.place? = some a ∧ y.place? = some b ∧ a < b := by
  -- Next to an infinity its sign decides, and between finite numbers their values do.
  cases x with
  | nan => simp [lt, place?]
  | infinite negative =>
      cases y with
      | nan => simp [lt, place?]
      | infinite negative' => cases negative <;> cases negative' <;> simp [lt, place?]
      | finite negative' n f => cases negative <;> simp [lt, place?]
  | finite negative m e =>
      cases y with
      | nan => simp [lt, place?]
      | infinite negative' =>
          have htop : ((value negative m e : WithTop ℚ) : WithBot (WithTop ℚ)) < ⊤ :=
            WithBot.coe_lt_coe.mpr (WithTop.coe_lt_top _)
          cases negative' <;> simp [lt, place?, htop]
      | finite negative' n f => simp [lt_finite_iff hx hy, place?]

/-! ## Numbers that are read -/

/-- A zero is a double. -/
theorem isDouble_zero (negative : Bool) : (zero negative).IsDouble :=
  le_refl leastExponent

/-- A rounded quotient is a double. -/
theorem isDouble_ofRatio (negative : Bool) (num den : Nat) :
    (ofRatio negative num den).IsDouble := by
  have hleast : leastExponent ≤ exponentFor num den := le_max_right _ _
  rw [ofRatio]
  split
  · exact isDouble_zero negative
  · split
    · trivial
    · dsimp only
      -- A mantissa that is rounded up to the next power of two makes the exponent greater.
      split
      · split
        · trivial
        · exact Int.le_add_one hleast
      · split
        · trivial
        · exact hleast

/-- A number that is read from a decimal numeral is a double. -/
theorem isDouble_ofDecimal (negative : Bool) (digits : Nat) (power : Int) :
    (ofDecimal negative digits power).IsDouble := by
  rw [ofDecimal]
  split
  · exact isDouble_zero negative
  · split
    · trivial
    · split
      · exact isDouble_zero negative
      · split
        · exact isDouble_ofRatio _ _ _
        · exact isDouble_ofRatio _ _ _

end Binary64

end Frontmatter
