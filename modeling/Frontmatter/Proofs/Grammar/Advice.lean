import Frontmatter.Proofs.Grammar.Sample

/-! # Following advice about units

A number whose unit is missing is rejected with a sample that has one, and a number with a unit that
may not stand is rejected with the numeral alone. Both are read back as the same numeral, the first
with the unit behind it (`NumberGrammar.fault?_append`), so that the unit is fine from then on:
`NumberGrammar.advice_settles_unit` says that whoever follows the advice gets a number that is
accepted, or rejected for its value only. -/

namespace Frontmatter

open Decimal (AsciiDigits Numeral)
open Quantity (IsTail)

/-- A rejection is about the value of a number, and about neither its numeral nor its unit. -/
inductive Rejection.IsAboutValue : Rejection → Prop where
  /-- The number lies outside its bounds. -/
  | outOfRange (min max : Option Binary64) : IsAboutValue (.outOfRange min max)
  /-- The number has a fraction and must not. -/
  | decimalNotAllowed (whole : Binary64) (unit : Text) :
      IsAboutValue (.decimalNotAllowed whole unit)

namespace NumberGrammar

variable {g : NumberGrammar} {value sample numeral u : Text} {units : List Text} {n : Numeral}
  {why : Rejection}

/-! ## What advice is about -/

/-- The unit is asked for where a numeral stands alone and one of the units has to follow. -/
theorem exists_of_unitRequired (h : g.fault? value = some (.unitRequired sample units)) :
    ∃ n numeral, IsQuantity (Text.trim value) n numeral [] ∧ g.units ≠ []
      ∧ g.unitPolicy = .required ∧ sample = g.withUnit numeral := by
  cases reports_of_fault?_eq h with
  | unitRequired hq hunits hpolicy => exact ⟨_, _, hq, hunits, hpolicy, rfl⟩

/-- The numeral is asked for alone where a unit follows it and none may. -/
theorem exists_of_noUnitExpected (h : g.fault? value = some (.noUnitExpected numeral)) :
    ∃ n unit, IsQuantity (Text.trim value) n numeral unit ∧ unit ≠ []
      ∧ (g.units = [] ∨ g.unitPolicy = .forbidden) := by
  cases reports_of_fault?_eq h with
  | noUnitExpected hq hunit hnone => exact ⟨_, _, hq, hunit, hnone⟩

/-! ## What following it leads to -/

/-- What is wrong with a number whose unit is fine is about its value. -/
theorem isAboutValue_of_numberFault? {x : Binary64} (h : g.numberFault? x u = some why) :
    why.IsAboutValue := by
  rw [numberFault?] at h
  split at h
  · obtain rfl := Option.some.inj h
    exact .outOfRange _ _
  · split at h
    · obtain rfl := Option.some.inj h
      exact .decimalNotAllowed _ _
    · exact absurd h (by simp)

/-- A numeral with a unit that fits, or alone if it may, is judged by its value. -/
theorem fault?_append (hn : n.Spells numeral) (hascii : AsciiDigits numeral) (htail : IsTail [] u)
    (hfits : g.UnitFits u) :
    g.fault? (numeral ++ u) = g.numberFault? n.toBinary64 u := by
  have htrim : Text.trim (numeral ++ u) = numeral ++ u :=
    hn.trim_append (Text.trim_eq_self_iff.mp htail.trim_eq).2
  have hq : IsQuantity (numeral ++ u) n numeral u := htail.isQuantity hn hascii
  exact fault?_of_unitFits (by rwa [htrim]) hfits

/-- **Following the advice about a unit settles the unit.** Where a unit is asked for, the sample is
the numeral of the value with the first unit behind it, and where the numeral is asked for alone, it
is the numeral of the value. If the first unit is plain, either is accepted or rejected for the
value of the number, and never again for its numeral or its unit. -/
theorem advice_settles_unit (g : NumberGrammar)
    (hplain : ∀ u, g.units.head? = some u → IsPlainUnit u) (value : Text) :
    (∀ sample units, g.fault? value = some (.unitRequired sample units) →
        (∃ n numeral u, IsQuantity (Text.trim value) n numeral [] ∧ g.units.head? = some u
            ∧ sample = numeral ++ u)
          ∧ ∀ why, g.fault? sample = some why → why.IsAboutValue)
      ∧ ∀ numeral, g.fault? value = some (.noUnitExpected numeral) →
          (∃ n unit, IsQuantity (Text.trim value) n numeral unit ∧ unit ≠ [])
            ∧ ∀ why, g.fault? numeral = some why → why.IsAboutValue := by
  constructor
  · intro sample units h
    obtain ⟨n, numeral, hq, hunits, hpolicy, rfl⟩ := exists_of_unitRequired h
    obtain ⟨u, others, hcons⟩ := List.exists_cons_of_ne_nil hunits
    have hhead : g.units.head? = some u := by rw [hcons]; rfl
    have hallowed : g.unitPolicy ≠ .forbidden := by rw [hpolicy]; exact UnitPolicy.noConfusion
    have hsample : g.withUnit numeral = numeral ++ u := by
      rw [withUnit, hcons]
      exact if_neg hallowed
    -- The sample is split where it was put together, since no numeral goes on into a plain unit.
    have hu := hplain u hhead
    have hfits : g.UnitFits u := .some hu.ne_nil (List.mem_of_head? hhead) hallowed
    refine ⟨⟨n, numeral, u, hq, hhead, hsample⟩, fun why hwhy => ?_⟩
    rw [hsample, fault?_append hq.spells hq.ascii hu.isTail hfits] at hwhy
    exact isAboutValue_of_numberFault? hwhy
  · intro numeral h
    obtain ⟨n, unit, hq, hunit, hnone⟩ := exists_of_noUnitExpected h
    -- Where no unit may stand, none is asked for either.
    have hfits : g.UnitFits [] :=
      .none (hnone.imp_right fun hforbidden => by
        rw [hforbidden]
        exact UnitPolicy.noConfusion)
    refine ⟨⟨n, unit, hq, hunit⟩, fun why hwhy => ?_⟩
    have halone := fault?_append hq.spells hq.ascii .nil hfits
    rw [List.append_nil] at halone
    exact isAboutValue_of_numberFault? (halone.symm.trans hwhy)

/-- Up to 42 kilometres or miles. -/
def distances : NumberGrammar :=
  { withUnits ["km", "mi"] with max := some (.ofInt 42) }

/-- Whole numbers without a unit. -/
def counts : NumberGrammar :=
  { withUnits [] with allowDecimals := false }

/-- A numeral that gets its unit turns out to be too great, and one that loses its unit to have a
fraction. -/
theorem advice_settles_unit_of_distances_and_counts :
    IsPlainUnit "km" ∧ distances.fault? " +50. " = some (.unitRequired "+50.km" ["km", "mi"])
      ∧ distances.fault? "+50.km" = some (.outOfRange none (some (.ofInt 42)))
      ∧ (Rejection.outOfRange none (some (.ofInt 42))).IsAboutValue
      ∧ counts.fault? "2.5 laps" = some (.noUnitExpected "2.5")
      ∧ counts.fault? "2.5" = some (.decimalNotAllowed (.ofInt 3) [])
      ∧ (Rejection.decimalNotAllowed (.ofInt 3) []).IsAboutValue := by
  have hkm : IsPlainUnit "km" := by
    refine ⟨by decide, by decide, by decide, fun c hc => ?_⟩
    obtain rfl : 'k' = c := Option.some.inj hc
    rw [Decimal.IsMark]
    decide
  have hplain : ∀ u, distances.units.head? = some u → IsPlainUnit u := by
    intro u hu
    obtain rfl : "km".toList = u := Option.some.inj hu
    exact hkm
  have hnone : ∀ u, counts.units.head? = some u → IsPlainUnit u := fun u hu =>
    absurd hu (by simp [counts, withUnits])
  have hasked : distances.fault? " +50. " = some (.unitRequired "+50.km" ["km", "mi"]) := by
    decide +kernel
  have hgreat : distances.fault? "+50.km" = some (.outOfRange none (some (.ofInt 42))) := by
    decide +kernel
  have hunwanted : counts.fault? "2.5 laps" = some (.noUnitExpected "2.5") := by decide +kernel
  have hfraction : counts.fault? "2.5" = some (.decimalNotAllowed (.ofInt 3) []) := by
    decide +kernel
  exact ⟨hkm, hasked, hgreat,
    ((advice_settles_unit distances hplain " +50. ").1 _ _ hasked).2 _ hgreat, hunwanted, hfraction,
    ((advice_settles_unit counts hnone "2.5 laps").2 _ hunwanted).2 _ hfraction⟩

end NumberGrammar

end Frontmatter
