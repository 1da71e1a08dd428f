import Frontmatter.Proofs.Grammar.Numeral
import Frontmatter.Proofs.Number.Order
import Frontmatter.Proofs.Text.Trim

/-! # What is reported on numbers

A value is a number with a unit if the longest numeral at its head is made of ASCII digits and no
line feed follows, save in the white space behind the numeral; `IsQuantity` says so without the code
that takes values apart. `NumberGrammar.Reports` says which report a value gets, with a constructor
for each case. The main statement is `NumberGrammar.fault?_eq_iff_reports`: these are the reports
that are made, on every value. The bounds of a number are bounds in the order of the rational
numbers, which is `NumberGrammar.outside_toBinary64_iff`. -/

namespace Frontmatter

open Decimal (AsciiDigits Numeral)

/-! ## Quantities -/

/-- A text is a number with a unit behind it: the longest numeral at its head is made of ASCII
digits, and the rest is the unit with white space around it. -/
structure IsQuantity (t : Text) (n : Numeral) (numeral unit : Text) : Prop where
  /-- The numeral spells the number. -/
  spells : n.Spells numeral
  /-- The digits are ASCII digits. -/
  ascii : AsciiDigits numeral
  /-- Behind the numeral and white space there is the unit and no line feed. -/
  exists_rest : ∃ rest, LongestNumeral t numeral rest ∧ '\n' ∉ Text.trimStart rest
    ∧ Text.trim rest = unit

/-- A text starts with a numeral and is no number with a unit: it has digits of other scripts, or a
line feed in its unit. -/
def IsBroken (t : Text) : Prop :=
  ∃ numeral rest, LongestNumeral t numeral rest
    ∧ (¬ AsciiDigits numeral ∨ '\n' ∈ Text.trimStart rest)

/-- A text does not start with a numeral. -/
def HasNoNumeral (t : Text) : Prop :=
  ∀ (n : Numeral) (numeral : Text), n.Spells numeral → ¬ numeral <+: t

namespace Quantity

variable {t numeral rest unit : Text} {n : Numeral}

/-- A text is taken apart behind its longest numeral. -/
theorem parse?_of_longestNumeral (h : LongestNumeral t numeral rest) :
    parse? t = if '\n' ∈ Text.trimStart rest then none else some ⟨numeral, Text.trim rest⟩ := by
  rw [parse?, splitNumeral?_eq_some_iff.mpr h]
  rfl

/-- A text without a numeral at its head is not taken apart. -/
theorem parse?_of_hasNoNumeral (h : HasNoNumeral t) : parse? t = none := by
  rw [parse?, splitNumeral?_eq_none_iff.mpr h]
  rfl

/-- A numeral in ASCII digits is read as the double of the number that it spells. -/
theorem number?_of_spells (hn : n.Spells numeral) (hascii : AsciiDigits numeral) :
    number? ⟨numeral, unit⟩ = some n.toBinary64 := by
  rw [number?, hn.numeral?_eq_some hascii]
  rfl

/-- A numeral with digits of other scripts is not read as a number. -/
theorem number?_of_not_ascii (hn : n.Spells numeral) (hascii : ¬ AsciiDigits numeral) :
    number? ⟨numeral, unit⟩ = none := by
  have hnone : Decimal.numeral? numeral = none := by
    by_contra hne
    exact hascii (hn.asciiDigits_of_numeral? hne)
  rw [number?, hnone]
  rfl

/-- A text either has no numeral at its head, or is broken, or is a number with a unit. -/
theorem trichotomy (t : Text) :
    HasNoNumeral t ∨ IsBroken t ∨ ∃ n numeral unit, IsQuantity t n numeral unit := by
  cases hsplit : splitNumeral? t with
  | none => exact .inl (splitNumeral?_eq_none_iff.mp hsplit)
  | some p =>
      have hlongest : LongestNumeral t p.1 p.2 := splitNumeral?_eq_some_iff.mp hsplit
      obtain ⟨n, hn⟩ := hlongest.exists_spells
      refine .inr ?_
      by_cases hbroken : ¬ AsciiDigits p.1 ∨ '\n' ∈ Text.trimStart p.2
      · exact .inl ⟨p.1, p.2, hlongest, hbroken⟩
      · rw [not_or, not_not] at hbroken
        exact .inr ⟨n, p.1, _, hn, hbroken.1, p.2, hlongest, hbroken.2, rfl⟩

end Quantity

/-! ## Reports -/

namespace NumberGrammar

variable {g : NumberGrammar} {value t numeral unit : Text} {n : Numeral} {r : Option Rejection}

/-- A unit may stand behind a number. -/
inductive UnitFits (g : NumberGrammar) : Text → Prop where
  /-- There is no unit, and none has to be there. -/
  | none : g.units = [] ∨ g.unitPolicy ≠ .required → UnitFits g []
  /-- The unit is one of those that may be there. -/
  | some {unit : Text} :
      unit ≠ [] → unit ∈ g.units → g.unitPolicy ≠ .forbidden → UnitFits g unit

/-- A number lies below the least one or above the greatest one, in the order that
`Binary64.lt_finite_iff` and `Binary64.lt_iff` relate to that of the rational numbers. -/
def Outside (g : NumberGrammar) (x : Binary64) : Prop :=
  (∃ min, g.min = some min ∧ x.lt min = true) ∨ ∃ max, g.max = some max ∧ max.lt x = true

/-- The double of a numeral lies outside the bounds exactly if its place is before that of the least
number or behind that of the greatest one. A bound that is not a number has no place and excludes
nothing. -/
theorem outside_toBinary64_iff (n : Numeral) (hmin : ∀ min, g.min = some min → min.IsDouble)
    (hmax : ∀ max, g.max = some max → max.IsDouble) :
    g.Outside n.toBinary64
      ↔ ∃ a, n.toBinary64.place? = some a
        ∧ ((∃ b, g.min.bind Binary64.place? = some b ∧ a < b)
          ∨ ∃ b, g.max.bind Binary64.place? = some b ∧ b < a) := by
  have hn : n.toBinary64.IsDouble := Binary64.isDouble_ofDecimal _ _ _
  simp only [Option.bind_eq_some_iff]
  constructor
  · rintro (⟨min, hbound, hlt⟩ | ⟨max, hbound, hlt⟩)
    · obtain ⟨a, b, ha, hb, hlt⟩ := (Binary64.lt_iff hn (hmin min hbound)).mp hlt
      exact ⟨a, ha, .inl ⟨b, ⟨min, hbound, hb⟩, hlt⟩⟩
    · obtain ⟨b, a, hb, ha, hlt⟩ := (Binary64.lt_iff (hmax max hbound) hn).mp hlt
      exact ⟨a, ha, .inr ⟨b, ⟨max, hbound, hb⟩, hlt⟩⟩
  · rintro ⟨a, ha, ⟨b, ⟨min, hbound, hb⟩, hlt⟩ | ⟨b, ⟨max, hbound, hb⟩, hlt⟩⟩
    · exact .inl ⟨min, hbound, (Binary64.lt_iff hn (hmin min hbound)).mpr ⟨a, b, ha, hb, hlt⟩⟩
    · exact .inr ⟨max, hbound, (Binary64.lt_iff (hmax max hbound) hn).mpr ⟨b, a, hb, ha, hlt⟩⟩

/-- What is reported on a value without white space around it. -/
inductive Reports (g : NumberGrammar) (t : Text) : Option Rejection → Prop where
  /-- The value does not start with a numeral. -/
  | noNumeral : HasNoNumeral t → Reports g t (some (.invalidNumber g.sample))
  /-- The numeral is not made of ASCII digits, or there is a line feed in the unit. -/
  | broken : IsBroken t → Reports g t (some (.invalidNumber g.sample))
  /-- A unit has to be there and is not. -/
  | unitRequired {n : Numeral} {numeral : Text} :
      IsQuantity t n numeral [] → g.units ≠ [] → g.unitPolicy = .required →
        Reports g t (some (.unitRequired (g.withUnit numeral) g.units))
  /-- A unit is there and may not. -/
  | noUnitExpected {n : Numeral} {numeral unit : Text} :
      IsQuantity t n numeral unit → unit ≠ [] → g.units = [] ∨ g.unitPolicy = .forbidden →
        Reports g t (some (.noUnitExpected numeral))
  /-- The unit is none of those that may be there. -/
  | invalidUnit {n : Numeral} {numeral unit : Text} :
      IsQuantity t n numeral unit → unit ≠ [] → g.units ≠ [] → g.unitPolicy ≠ .forbidden →
        unit ∉ g.units → Reports g t (some (.invalidUnit g.units))
  /-- The unit is fine, and the number lies outside the bounds. -/
  | outOfRange {n : Numeral} {numeral unit : Text} :
      IsQuantity t n numeral unit → g.UnitFits unit → g.Outside n.toBinary64 →
        Reports g t (some (.outOfRange g.min g.max))
  /-- The unit and the bounds are fine, and the number has a fraction and may not. -/
  | decimalNotAllowed {n : Numeral} {numeral unit : Text} :
      IsQuantity t n numeral unit → g.UnitFits unit → ¬ g.Outside n.toBinary64 →
        g.allowDecimals = false → n.toBinary64.isInteger = false →
          Reports g t (some (.decimalNotAllowed n.toBinary64.round unit))
  /-- All is fine. -/
  | valid {n : Numeral} {numeral unit : Text} :
      IsQuantity t n numeral unit → g.UnitFits unit → ¬ g.Outside n.toBinary64 →
        g.allowDecimals = true ∨ n.toBinary64.isInteger = true → Reports g t none

/-- The test of the bounds fails exactly on the numbers outside. -/
theorem inBounds_eq_false_iff {x : Binary64} : g.inBounds x = false ↔ g.Outside x := by
  rw [inBounds, Outside, Bool.and_eq_false_iff, Bool.not_eq_false', Bool.not_eq_false',
    Option.any_eq_true, Option.any_eq_true]

/-- The test of the bounds passes exactly on the numbers that are not outside. -/
theorem inBounds_eq_true_iff {x : Binary64} : g.inBounds x = true ↔ ¬ g.Outside x := by
  rw [← inBounds_eq_false_iff, Bool.not_eq_false]

/-- What is wrong with a number with a unit is wrong with the unit or with the number. -/
theorem fault?_of_isQuantity (h : IsQuantity (Text.trim value) n numeral unit) :
    g.fault? value
      = (g.unitFault? ⟨numeral, unit⟩).or (g.numberFault? n.toBinary64 unit) := by
  obtain ⟨hn, hascii, rest, hlongest, hfeed, rfl⟩ := h
  rw [fault?, Quantity.parse?_of_longestNumeral hlongest, if_neg hfeed]
  dsimp only
  rw [Quantity.number?_of_spells hn hascii]

/-- A value without a numeral at its head is reported to be no number. -/
theorem fault?_of_hasNoNumeral (h : HasNoNumeral (Text.trim value)) :
    g.fault? value = some (.invalidNumber g.sample) := by
  rw [fault?, Quantity.parse?_of_hasNoNumeral h]

/-- A value with digits of other scripts, or with a line feed in its unit, is reported to be no
number. -/
theorem fault?_of_isBroken (h : IsBroken (Text.trim value)) :
    g.fault? value = some (.invalidNumber g.sample) := by
  obtain ⟨numeral, rest, hlongest, hbroken⟩ := h
  obtain ⟨n, hn⟩ := hlongest.exists_spells
  rw [fault?, Quantity.parse?_of_longestNumeral hlongest]
  by_cases hfeed : '\n' ∈ Text.trimStart rest
  · rw [if_pos hfeed]
  · rw [if_neg hfeed]
    dsimp only
    rw [Quantity.number?_of_not_ascii hn (hbroken.resolve_right hfeed)]

/-- Nothing is wrong with a unit exactly if it fits. -/
theorem unitFault?_eq_none_iff : g.unitFault? ⟨numeral, unit⟩ = none ↔ g.UnitFits unit := by
  rw [unitFault?]
  constructor
  · intro h
    split at h
    · rename_i hunit
      obtain rfl : unit = [] := hunit
      split at h
      · exact absurd h (by simp)
      · rename_i hnot
        rw [not_and_or, not_not] at hnot
        exact .none hnot
    · rename_i hunit
      split at h
      · exact absurd h (by simp)
      · rename_i hnot
        rw [not_or] at hnot
        split at h
        · rename_i hmem
          exact .some hunit (List.contains_iff_mem.mp hmem) hnot.2
        · exact absurd h (by simp)
  · rintro (⟨hnone⟩ | ⟨hunit, hmem, hpolicy⟩)
    · rw [if_pos rfl, if_neg (by rwa [not_and_or, not_not])]
    · have hunits : g.units ≠ [] := List.ne_nil_of_mem hmem
      rw [if_neg hunit, if_neg (by rw [not_or]; exact ⟨hunits, hpolicy⟩),
        if_pos (List.contains_iff_mem.mpr hmem)]

/-- Where the unit fits, only the number can be at fault. -/
theorem fault?_of_unitFits (h : IsQuantity (Text.trim value) n numeral unit)
    (hunit : g.UnitFits unit) : g.fault? value = g.numberFault? n.toBinary64 unit := by
  rw [fault?_of_isQuantity h, unitFault?_eq_none_iff.mpr hunit, Option.none_or]

/-- A report that a value gets is the one that is made. -/
theorem Reports.fault?_eq (h : g.Reports (Text.trim value) r) : g.fault? value = r := by
  cases h with
  | noNumeral h => exact fault?_of_hasNoNumeral h
  | broken h => exact fault?_of_isBroken h
  | unitRequired h hunits hpolicy =>
      rw [fault?_of_isQuantity h, unitFault?, if_pos rfl, if_pos ⟨hunits, hpolicy⟩, Option.some_or]
  | noUnitExpected h hunit hnone =>
      rw [fault?_of_isQuantity h, unitFault?, if_neg hunit, if_pos hnone, Option.some_or]
  | invalidUnit h hunit hunits hpolicy hmem =>
      rw [fault?_of_isQuantity h, unitFault?, if_neg hunit,
        if_neg (by rw [not_or]; exact ⟨hunits, hpolicy⟩), if_neg (by simpa using hmem),
        Option.some_or]
  | outOfRange h hunit hout =>
      rw [fault?_of_unitFits h hunit, numberFault?, inBounds_eq_false_iff.mpr hout]
      rfl
  | decimalNotAllowed h hunit hin hwhole hinteger =>
      rw [fault?_of_unitFits h hunit, numberFault?, inBounds_eq_true_iff.mpr hin, hwhole, hinteger]
      rfl
  | valid h hunit hin hwhole =>
      rw [fault?_of_unitFits h hunit, numberFault?, inBounds_eq_true_iff.mpr hin]
      rcases hwhole with hwhole | hwhole <;> simp [hwhole]

/-- Every value gets a report. -/
theorem exists_reports (g : NumberGrammar) (t : Text) : ∃ r, g.Reports t r := by
  rcases Quantity.trichotomy t with hnone | hbroken | ⟨n, numeral, unit, h⟩
  · exact ⟨_, .noNumeral hnone⟩
  · exact ⟨_, .broken hbroken⟩
  by_cases hfits : g.UnitFits unit
  · by_cases hout : g.Outside n.toBinary64
    · exact ⟨_, .outOfRange h hfits hout⟩
    · by_cases hwhole : g.allowDecimals = true ∨ n.toBinary64.isInteger = true
      · exact ⟨_, .valid h hfits hout hwhole⟩
      · rw [not_or, Bool.not_eq_true, Bool.not_eq_true] at hwhole
        exact ⟨_, .decimalNotAllowed h hfits hout hwhole.1 hwhole.2⟩
  · by_cases hunit : unit = []
    · subst hunit
      have hrequired : ¬ (g.units = [] ∨ g.unitPolicy ≠ .required) := fun h => hfits (.none h)
      rw [not_or, not_not] at hrequired
      exact ⟨_, .unitRequired h hrequired.1 hrequired.2⟩
    · by_cases hnone : g.units = [] ∨ g.unitPolicy = .forbidden
      · exact ⟨_, .noUnitExpected h hunit hnone⟩
      · rw [not_or] at hnone
        exact ⟨_, .invalidUnit h hunit hnone.1 hnone.2 fun hmem => hfits (.some hunit hmem hnone.2)⟩

/-- What is made of a value is a report that it gets. -/
theorem reports_of_fault?_eq (h : g.fault? value = r) : g.Reports (Text.trim value) r := by
  obtain ⟨made, hmade⟩ := g.exists_reports (Text.trim value)
  rwa [← h, hmade.fault?_eq]

/-- What is reported on a value, or that nothing is, is what the longest numeral at its head and the
unit behind it call for. The unit counts before the bounds, and these before the fraction. -/
theorem fault?_eq_iff_reports (g : NumberGrammar) (value : Text) (r : Option Rejection) :
    g.fault? value = r ↔ g.Reports (Text.trim value) r := by
  constructor
  · rintro rfl
    obtain ⟨r, h⟩ := g.exists_reports (Text.trim value)
    rwa [h.fault?_eq]
  · exact Reports.fault?_eq

/-- The numeral takes the point, and what looks like an exponent is the unit. -/
example : (withUnits ["km".toList]).fault? " 5.km" = none
    ∧ (withUnits ["km".toList]).fault? "1e5" = some (.invalidUnit ["km".toList]) := by
  decide

end NumberGrammar

end Frontmatter
