/-! # Binary64 numbers

Double precision numbers as exact data: a finite one is a sign, a mantissa and a power of two. Every
operation is exact arithmetic on natural numbers followed by one rounding to nearest, ties to the
even mantissa (`Binary64.ofRatio`), so that each result can be computed and reasoned about without
floating point primitives. -/

namespace Frontmatter

/-- A double precision number. -/
inductive Binary64 where
  /-- The number `± mantissa · 2 ^ exponent`. -/
  | finite (negative : Bool) (mantissa : Nat) (exponent : Int)
  /-- An infinity. -/
  | infinite (negative : Bool)
  /-- Not a number. -/
  | nan
  deriving DecidableEq, Repr, Inhabited

namespace Binary64

/-! ## Rounding -/

/-- The least exponent of a finite number. -/
def leastExponent : Int := -1074

/-- The greatest exponent of a finite number. -/
def greatestExponent : Int := 971

/-- The zero of a sign. -/
def zero (negative : Bool) : Binary64 := .finite negative 0 leastExponent

/-- The quotient of two natural numbers rounded to the nearest one, a tie to the even one. -/
def roundedQuotient (num den : Nat) : Nat :=
  let q := num / den
  let twice := 2 * (num % den)
  if twice < den then q
  else if den < twice then q + 1
  else if q % 2 = 0 then q else q + 1

/-- The quotient `num / den / 2 ^ e` as numerator and denominator. -/
def scaledRatio (num den : Nat) (e : Int) : Nat × Nat :=
  if 0 ≤ e then (num, den * Nat.pow 2 e.toNat) else (num * Nat.pow 2 (-e).toNat, den)

/-- The exponent at which the quotient `num / den` has a mantissa of 53 bits, but at least
`leastExponent`. -/
def exponentFor (num den : Nat) : Int :=
  let guess : Int := (Nat.log2 num : Int) - (Nat.log2 den : Int) - 52
  let scaled := scaledRatio num den guess
  let exact := if scaled.1 / scaled.2 < Nat.pow 2 52 then guess - 1 else guess
  max exact leastExponent

/-- The double nearest to `± num / den`, a tie to the even mantissa; beyond the greatest finite
number it is an infinity. -/
def ofRatio (negative : Bool) (num den : Nat) : Binary64 :=
  if num = 0 then zero negative
  else if den = 0 then .infinite negative
  else
    let e := exponentFor num den
    let scaled := scaledRatio num den e
    let m := roundedQuotient scaled.1 scaled.2
    let carried : Nat × Int := if m = Nat.pow 2 53 then (Nat.pow 2 52, e + 1) else (m, e)
    if greatestExponent < carried.2 then .infinite negative
    else .finite negative carried.1 carried.2

/-- The double nearest to `± digits · 10 ^ power`. Powers that cannot matter are cut off first. -/
def ofDecimal (negative : Bool) (digits : Nat) (power : Int) : Binary64 :=
  let size : Int := (Nat.toDigits 10 digits).length
  if digits = 0 then zero negative
  else if 310 < size + power then .infinite negative
  else if size + power < -330 then zero negative
  else if 0 ≤ power then ofRatio negative (digits * Nat.pow 10 power.toNat) 1
  else ofRatio negative digits (Nat.pow 10 (-power).toNat)

/-- The double nearest to an integer. -/
def ofInt (n : Int) : Binary64 :=
  ofRatio (n < 0) n.natAbs 1

/-! ## Arithmetic -/

/-- Whether the sign is negative; not a number has no sign. -/
def isNegative : Binary64 → Bool
  | .finite negative _ _ => negative
  | .infinite negative => negative
  | .nan => false

/-- Whether a number is neither an infinity nor not a number. -/
def isFinite : Binary64 → Bool
  | .finite _ _ _ => true
  | _ => false

/-- Whether a number is a zero of either sign. -/
def isZero : Binary64 → Bool
  | .finite _ m _ => m = 0
  | _ => false

/-- The number with the other sign. -/
def neg : Binary64 → Binary64
  | .finite negative m e => .finite (!negative) m e
  | .infinite negative => .infinite (!negative)
  | .nan => .nan

/-- The magnitude of a finite number as numerator and denominator. -/
def ratio (mantissa : Nat) (exponent : Int) : Nat × Nat :=
  scaledRatio mantissa 1 (-exponent)

/-- The rounded product. -/
def mul : Binary64 → Binary64 → Binary64
  | .nan, _ => .nan
  | _, .nan => .nan
  | .infinite s, y => if y.isZero then .nan else .infinite (s != y.isNegative)
  | x, .infinite s => if x.isZero then .nan else .infinite (s != x.isNegative)
  | .finite s m e, .finite t n f =>
    let r := ratio (m * n) (e + f)
    ofRatio (s != t) r.1 r.2

/-- The rounded quotient. -/
def div : Binary64 → Binary64 → Binary64
  | .nan, _ => .nan
  | _, .nan => .nan
  | .infinite s, y => if y.isFinite then .infinite (s != y.isNegative) else .nan
  | .finite s _ _, .infinite t => zero (s != t)
  | .finite s m e, .finite t n f =>
    if m = 0 ∧ n = 0 then .nan
    else
      let r := scaledRatio m n (f - e)
      ofRatio (s != t) r.1 r.2

/-- A finite number as an integer multiple of `2 ^ leastExponent`. -/
def ticks (negative : Bool) (mantissa : Nat) (exponent : Int) : Int :=
  let size : Int := (mantissa * Nat.pow 2 (exponent - leastExponent).toNat : Nat)
  if negative then -size else size

/-- Whether one number is less than another; nothing compares with not a number. Finite numbers are
compared exactly, as multiples of `2 ^ leastExponent`. -/
def lt : Binary64 → Binary64 → Bool
  | .nan, _ => false
  | _, .nan => false
  | .infinite s, .infinite t => s && !t
  | .infinite s, .finite _ _ _ => s
  | .finite _ _ _, .infinite t => !t
  | .finite s m e, .finite t n f => ticks s m e < ticks t n f

/-- Whether two numbers are equal as numbers: zeros of both signs are, and not a number equals
itself. -/
def same : Binary64 → Binary64 → Bool
  | .nan, .nan => true
  | .infinite s, .infinite t => s == t
  | .finite s m e, .finite t n f => ticks s m e == ticks t n f
  | _, _ => false

/-- Whether a number is an integer; infinities and not a number are none. -/
def isInteger : Binary64 → Bool
  | .finite _ m e => 0 ≤ e || m % Nat.pow 2 (-e).toNat == 0
  | _ => false

/-- The nearest integer, a half away from zero; other than finite numbers stay as they are. -/
def round : Binary64 → Binary64
  | .finite s m e =>
    if 0 ≤ e then .finite s m e
    else
      let unit := Nat.pow 2 (-e).toNat
      ofRatio s ((2 * m + unit) / (2 * unit)) 1
  | x => x

/-! ## Bits -/

/-- The 64 bits of a number in the interchange format. -/
def bits : Binary64 → Nat
  | .finite s m e =>
    let sign := if s then Nat.pow 2 63 else 0
    if m < Nat.pow 2 52 then sign + m
    else sign + (e - leastExponent + 1).toNat * Nat.pow 2 52 + (m - Nat.pow 2 52)
  | .infinite s => (if s then Nat.pow 2 63 else 0) + 2047 * Nat.pow 2 52
  | .nan => 2047 * Nat.pow 2 52 + Nat.pow 2 51

end Binary64

end Frontmatter
