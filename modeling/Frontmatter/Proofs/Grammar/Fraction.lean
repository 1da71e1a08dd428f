import Frontmatter.Proofs.Grammar.Written
import Frontmatter.Proofs.Number.Rounding

/-! # Numbers that may not have a fraction

Whether a number has a fraction is asked of the double that its numeral is rounded to. So what
counts is not whether the digits behind the point are zeros, but whether the value of the numeral
rounds to an integer: `NumberGrammar.fraction_reported_iff`. The two are the same for numerals of
few digits. A fraction beyond the precision of the double is not seen, and a whole number beyond its
range is taken for one with a fraction. -/

namespace Frontmatter

open Binary64 (RoundsToInteger overflow)

namespace Decimal

variable {s numeral : Text} {n : Numeral}

/-! ## The value of digits -/

/-- In front of others, digits count by as many places as there are others. -/
theorem digitsValue_append (s t : Text) :
    digitsValue (s ++ t) = 10 ^ t.length * digitsValue s + digitsValue t := by
  change Nat.ofDigitChars 10 (s ++ t) 0 = _
  rw [Nat.ofDigitChars_append, Nat.ofDigitChars_eq_ofDigitChars_zero]
  rfl

/-- The first digit counts by its place. -/
theorem digitsValue_cons (c : Char) (s : Text) :
    digitsValue (c :: s) = 10 ^ s.length * (c.toNat - '0'.toNat) + digitsValue s := by
  have h := digitsValue_append [c] s
  rwa [List.singleton_append, show digitsValue [c] = c.toNat - '0'.toNat from Nat.zero_add _] at h

/-- The value of a digit. -/
theorem exists_digit {c : Char} (hc : c.isDigit = true) :
    c.toNat - '0'.toNat < 10 ∧ (c.toNat - '0'.toNat = 0 ↔ c = '0') := by
  rw [Char.isDigit, Bool.and_eq_true, decide_eq_true_eq, decide_eq_true_eq] at hc
  obtain ⟨hlow, hhigh⟩ := hc
  have hlow : 48 ≤ c.toNat := hlow
  have hhigh : c.toNat ≤ 57 := hhigh
  have hzero : '0'.toNat = 48 := rfl
  refine ⟨by omega, fun h => ?_, ?_⟩
  · rw [← Char.toNat_inj]
    omega
  · rintro rfl
    rfl

/-- Digits are worth less than ten to the power of their number. -/
theorem digitsValue_lt (hs : ∀ c ∈ s, c.isDigit = true) : digitsValue s < 10 ^ s.length := by
  induction s with
  | nil => exact one_pos
  | cons c s ih =>
      have hc := (exists_digit (hs c List.mem_cons_self)).1
      have hrest := ih fun d hd => hs d (List.mem_cons_of_mem c hd)
      rw [digitsValue_cons, List.length_cons, Nat.pow_succ]
      have hle : 10 ^ s.length * (c.toNat - '0'.toNat) ≤ 10 ^ s.length * 9 :=
        Nat.mul_le_mul_left _ (by omega)
      omega

/-- Digits are worth nothing exactly if they are zeros. -/
theorem digitsValue_eq_zero_iff (hs : ∀ c ∈ s, c.isDigit = true) :
    digitsValue s = 0 ↔ ∀ c ∈ s, c = '0' := by
  induction s with
  | nil => exact iff_of_true rfl (by simp)
  | cons c s ih =>
      have hc := (exists_digit (hs c List.mem_cons_self)).2
      have hpow : 10 ^ s.length ≠ 0 := by positivity
      rw [digitsValue_cons, Nat.add_eq_zero_iff, Nat.mul_eq_zero, or_iff_right hpow, hc,
        ih fun d hd => hs d (List.mem_cons_of_mem c hd), List.forall_mem_cons]

namespace Numeral

/-- The value of a numeral, without its sign. -/
def value (n : Numeral) : ℚ :=
  (digitsValue (n.whole ++ n.fraction) : ℚ) / 10 ^ n.fraction.length

/-- All digits behind the point are zeros. -/
def IsWhole (n : Numeral) : Prop :=
  ∀ c ∈ n.fraction, c = '0'

/-- The digits fit into the mantissa of a double, and the place of the last one is worth more than
half the least double. -/
def IsShort (n : Numeral) : Prop :=
  digitsValue (n.whole ++ n.fraction) < 2 ^ 53 ∧ n.fraction.length ≤ 323

/-- A numeral is whole exactly if the digits as a whole are divisible by the power of ten that the
point divides them by. -/
theorem isWhole_iff_dvd (hdigits : ∀ c ∈ n.whole ++ n.fraction, c.isDigit = true) :
    n.IsWhole ↔ 10 ^ n.fraction.length ∣ digitsValue (n.whole ++ n.fraction) := by
  have hfraction : ∀ c ∈ n.fraction, c.isDigit = true :=
    fun c hc => hdigits c (List.mem_append_right _ hc)
  -- The digits before the point are divisible anyway, and those behind it are worth too little.
  rw [IsWhole, ← digitsValue_eq_zero_iff hfraction, digitsValue_append,
    Nat.dvd_add_right (Nat.dvd_mul_right _ _)]
  constructor
  · intro h
    rw [h]
    exact dvd_zero _
  · exact fun h => Nat.eq_zero_of_dvd_of_lt h (digitsValue_lt hfraction)

/-- A short numeral is rounded to an integer exactly if it is whole. -/
theorem IsShort.roundsToInteger_iff (hshort : n.IsShort)
    (hdigits : ∀ c ∈ n.whole ++ n.fraction, c.isDigit = true) :
    RoundsToInteger n.value ↔ n.IsWhole := by
  rw [isWhole_iff_dvd hdigits, value, Binary64.roundsToInteger_div_iff hshort.1 hshort.2]

/-- A whole numeral is rounded to an integer exactly if it does not overflow. -/
theorem IsWhole.roundsToInteger_iff (hwhole : n.IsWhole)
    (hdigits : ∀ c ∈ n.whole ++ n.fraction, c.isDigit = true) :
    RoundsToInteger n.value ↔ n.value < overflow := by
  obtain ⟨k, hk⟩ := (isWhole_iff_dvd hdigits).mp hwhole
  have hvalue : n.value = k := by
    rw [value, hk, Nat.cast_mul, Nat.cast_pow, Nat.cast_ofNat]
    exact mul_div_cancel_left₀ _ (by positivity)
  rw [hvalue, Binary64.roundsToInteger_natCast_iff]

/-- The double of a numeral is an integer exactly if its value rounds to one. -/
theorem Spells.isInteger_iff (hn : n.Spells numeral) :
    n.toBinary64.isInteger = true ↔ RoundsToInteger n.value := by
  rw [toBinary64, hn.power_eq, Int.zero_sub, Binary64.isInteger_ofDecimal_iff, value]

end Numeral

end Decimal

open Decimal (IsUnsigned Numeral)

/-- The digits before and behind the point are in the text. -/
theorem Decimal.IsUnsigned.mem_of_mem_append {whole fraction body : Text} {c : Char}
    (hbody : IsUnsigned whole fraction body) (hc : c ∈ whole ++ fraction) : c ∈ body := by
  cases hbody with
  | whole hne => rwa [List.append_nil] at hc
  | pointed hne =>
      rw [List.mem_append] at hc ⊢
      exact hc.imp_right (List.mem_cons_of_mem _)

/-- The digits of a number with a unit are ASCII digits. -/
theorem IsQuantity.isDigit {t numeral unit : Text} {n : Numeral}
    (h : IsQuantity t n numeral unit) : ∀ c ∈ n.whole ++ n.fraction, c.isDigit = true := by
  obtain ⟨⟨⟨sign, body, rfl, -, hbody⟩, hdigits, -⟩, hascii, -⟩ := h
  exact fun c hc => hascii c (List.mem_append_right _ (hbody.mem_of_mem_append hc)) (hdigits c hc)

/-- What is taken apart and read as a number is a number with a unit. -/
theorem Quantity.isQuantity_of_parse? {t numeral unit : Text} {n : Numeral}
    (h : parse? t = some ⟨numeral, unit⟩) (hn : Decimal.numeral? numeral = some n) :
    IsQuantity t n numeral unit := by
  obtain ⟨⟨numeral', rest⟩, hsplit, hunit⟩ := Option.bind_eq_some_iff.mp h
  have hlongest := splitNumeral?_eq_some_iff.mp hsplit
  dsimp only at hunit
  split at hunit
  · exact absurd hunit (by simp)
  · rename_i hfeed
    injection hunit with hunit
    injection hunit with hnumeral hunit
    subst hnumeral
    obtain ⟨m, hm⟩ := hlongest.exists_spells
    obtain ⟨hascii, rfl⟩ := hm.numeral?_eq_some_iff.mp hn
    exact ⟨hm, hascii, rest, hlongest, hfeed, hunit⟩

namespace NumberGrammar

variable {g : NumberGrammar} {value : Text}

/-- A text is a number whose unit is fine and which lies within the bounds. -/
def IsFitting (g : NumberGrammar) (t : Text) (n : Numeral) : Prop :=
  ∃ numeral unit, IsQuantity t n numeral unit ∧ g.UnitFits unit ∧ ¬ g.Outside n.toBinary64

/-- A number is accepted exactly if its value rounds to an integer, besides what else is asked of
it. -/
theorem fault?_eq_none_iff_roundsToInteger (hg : g.allowDecimals = false) :
    g.fault? value = none ↔ ∃ n, g.IsFitting (Text.trim value) n ∧ RoundsToInteger n.value := by
  constructor
  · intro h
    -- Only one of the reports is that nothing is wrong.
    cases reports_of_fault?_eq h with
    | valid hquantity hunit hin hwhole =>
        have hinteger := hwhole.resolve_left (by simp [hg])
        exact ⟨_, ⟨_, _, hquantity, hunit, hin⟩, hquantity.spells.isInteger_iff.mp hinteger⟩
  · rintro ⟨n, ⟨numeral, unit, hquantity, hunit, hin⟩, hround⟩
    have hinteger := hquantity.spells.isInteger_iff.mpr hround
    exact (Reports.valid hquantity hunit hin (.inr hinteger)).fault?_eq

/-- A fraction is reported exactly if the value does not round to an integer, and nothing else is
wrong. -/
theorem exists_fault?_eq_decimalNotAllowed_iff (hg : g.allowDecimals = false) :
    (∃ x unit, g.fault? value = some (.decimalNotAllowed x unit))
      ↔ ∃ n, g.IsFitting (Text.trim value) n ∧ ¬ RoundsToInteger n.value := by
  constructor
  · rintro ⟨x, unit, h⟩
    cases reports_of_fault?_eq h with
    | decimalNotAllowed hquantity hunit hin _ hinteger =>
        refine ⟨_, ⟨_, _, hquantity, hunit, hin⟩, fun hround => ?_⟩
        exact absurd (hquantity.spells.isInteger_iff.mpr hround) (by simp [hinteger])
  · rintro ⟨n, ⟨numeral, unit, hquantity, hunit, hin⟩, hround⟩
    have hinteger : n.toBinary64.isInteger = false := by
      rw [← Bool.not_eq_true, hquantity.spells.isInteger_iff]
      exact hround
    exact ⟨_, _, (Reports.decimalNotAllowed hquantity hunit hin hg hinteger).fault?_eq⟩

/-- Where a number may not have a fraction, one whose unit and bounds are fine is accepted if its
value rounds to an integer, and reported to have a fraction if it does not. For a short numeral this
is whether all digits behind the point are zeros. Such a numeral of any length is accepted unless it
overflows. -/
theorem fraction_reported_iff_not_rounded_away (g : NumberGrammar) (hg : g.allowDecimals = false)
    (value : Text) :
    (g.fault? value = none
        ↔ ∃ n, g.IsFitting (Text.trim value) n ∧ RoundsToInteger n.value)
      ∧ ((∃ x unit, g.fault? value = some (.decimalNotAllowed x unit))
        ↔ ∃ n, g.IsFitting (Text.trim value) n ∧ ¬ RoundsToInteger n.value)
      ∧ ∀ n, g.IsFitting (Text.trim value) n →
        (n.IsShort → (RoundsToInteger n.value ↔ n.IsWhole))
          ∧ (n.IsWhole → (RoundsToInteger n.value ↔ n.value < overflow)) := by
  refine ⟨fault?_eq_none_iff_roundsToInteger hg, exists_fault?_eq_decimalNotAllowed_iff hg, ?_⟩
  rintro n ⟨numeral, unit, hquantity, -⟩
  exact ⟨fun hshort => hshort.roundsToInteger_iff hquantity.isDigit,
    fun hwhole => hwhole.roundsToInteger_iff hquantity.isDigit⟩

/-- Whole numbers of kilometres, up to 42. -/
def kilometres : NumberGrammar :=
  { units := ["km"], unitPolicy := .optional, min := none, max := some (.ofInt 42)
    allowDecimals := false }

/-- A point is no fraction. -/
theorem fraction_reported_iff_not_rounded_away_of_kilometres :
    kilometres.allowDecimals = false
      ∧ (∃ n, kilometres.IsFitting (Text.trim "42.00 km".toList) n ∧ RoundsToInteger n.value)
      ∧ ∃ n, kilometres.IsFitting (Text.trim "41.50".toList) n ∧ ¬ RoundsToInteger n.value :=
  ⟨rfl,
    (fraction_reported_iff_not_rounded_away kilometres rfl "42.00 km".toList).1.mp
      (by decide +kernel),
    (fraction_reported_iff_not_rounded_away kilometres rfl "41.50".toList).2.1.mp
      ⟨.ofInt 42, [], by decide +kernel⟩⟩

/-- Whole numbers without a unit, of any size. -/
def wholeNumbers : NumberGrammar :=
  { units := [], unitPolicy := .optional, min := none, max := none, allowDecimals := false }

/-- The fraction of this numeral is beyond the precision of a double. -/
def fine : Numeral :=
  ⟨false, "70", "00000000000000000001", 0⟩

/-- This numeral is beyond the range of a double. -/
def huge : Numeral :=
  ⟨false, '1' :: List.replicate 309 '0', [], 0⟩

/-- A number with a fraction is accepted, and a whole number is reported to have one. -/
theorem fraction_missed_and_imagined :
    IsQuantity (Text.trim "70.00000000000000000001".toList) fine "70.00000000000000000001".toList []
      ∧ ¬ fine.IsWhole ∧ wholeNumbers.fault? "70.00000000000000000001".toList = none
      ∧ IsQuantity (Text.trim huge.whole) huge huge.whole [] ∧ huge.IsWhole
      ∧ wholeNumbers.fault? huge.whole = some (.decimalNotAllowed (.infinite false) []) := by
  refine ⟨Quantity.isQuantity_of_parse? (by decide +kernel) (by decide +kernel), ?_,
    by decide +kernel, Quantity.isQuantity_of_parse? (by decide +kernel) (by decide +kernel), ?_,
    by decide +kernel⟩
  · intro h
    exact absurd (h '1' (by decide)) (by decide)
  · exact fun c hc => absurd hc List.not_mem_nil

end NumberGrammar

end Frontmatter
