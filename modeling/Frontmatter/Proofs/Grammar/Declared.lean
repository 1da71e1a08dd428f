import Frontmatter.Proofs.Grammar.Written

/-! # What declarations declare

A declaration states the values of an enum or the units of a number as parameters between commas,
and the checker takes values apart in ways of its own. `Candidate.params_tidy` says what is known of
the parameters, and `FieldGrammar.declared_parameters_are_accepted` that the two agree: what is
declared is accepted as it was declared, and another unit, or none, is not. -/

namespace Frontmatter

open Decimal (AsciiDigits Numeral)
open Quantity (IsTail)

/-- The parameters that a type has. -/
def CandidateType.params : CandidateType → List Text
  | .number units => units
  | .boolean => []
  | .enum values => values

/-- A type has the parameters that stand behind its name, if it takes any. -/
theorem CandidateType.params_subset_of_ofName? {name : Text} {params : List Text}
    {type : CandidateType} (h : ofName? name params = some type) : type.params ⊆ params := by
  rw [ofName?] at h
  split_ifs at h
  · obtain rfl := Option.some.inj h
    exact List.Subset.refl _
  · obtain rfl := Option.some.inj h
    exact List.nil_subset _
  · obtain rfl := Option.some.inj h
    exact List.Subset.refl _

namespace Candidate

variable {declaration s p : Text} {type : CandidateType}

/-- Parameters are tight and not empty. -/
theorem parameters_tidy (h : p ∈ parameters s) : Text.trim p = p ∧ p ≠ [] := by
  rw [parameters, List.mem_filter, List.mem_map] at h
  obtain ⟨⟨part, -, rfl⟩, hne⟩ := h
  exact ⟨Text.trim_trim part, of_decide_eq_true hne⟩

/-- The parameters of a declared type are tight and not empty. -/
theorem params_tidy (h : (parse declaration).type = some type) (hp : p ∈ type.params) :
    Text.trim p = p ∧ p ≠ [] := by
  rw [parse] at h
  split at h
  · rename_i key rest _
    change statedType? rest = some type at h
    rw [statedType?] at h
    split at h
    · exact parameters_tidy (CandidateType.params_subset_of_ofName? h hp)
    · exact absurd (CandidateType.params_subset_of_ofName? h hp) List.not_mem_nil
  · exact absurd h (by simp [ofBars])

end Candidate

namespace FieldGrammar

variable {values units : List Text} {numeral s u v w w' : Text} {n : Numeral}

/-- A tight value of an enum is accepted with white space around it, unless it is quoted. -/
theorem check_enum (hv : v ∈ values) (htight : Text.trim v = v) (hne : v ≠ [])
    (hquoted : ¬ IsQuoted v) (hw : ∀ c ∈ w, Text.isBlank c = true)
    (hw' : ∀ c ∈ w', Text.isBlank c = true) :
    (ofType (.enum values)).check (w ++ (v ++ w')) = .valid := by
  rw [check_eq_valid_iff, fault?_of_tight (Text.trim_append_append hw hw' hne htight) hne hquoted]
  change Grammar.enumFault? values v = none
  rw [Grammar.enumFault?, htight, if_pos (.inr (List.contains_iff_mem.mpr hv))]

/-- A number without a unit is rejected if there are units. -/
theorem check_withoutUnit (hunits : units ≠ []) (hn : n.Spells numeral)
    (hascii : AsciiDigits numeral) : (ofType (.number units)).check numeral
      = .invalid (.unitRequired ((NumberGrammar.withUnits units).withUnit numeral) units) := by
  have hq : IsQuantity (numeral ++ ([] ++ [])) n numeral [] := IsTail.nil.isQuantity hn hascii
  have hfault : (ofType (.number units)).fault? (numeral ++ ([] ++ [])) = _ :=
    fault?_of_reports hn rfl (NumberGrammar.Reports.unitRequired hq hunits rfl)
  rw [List.append_nil, List.append_nil] at hfault
  exact check_eq_invalid_iff.mpr hfault

/-- A number with one of the units is accepted. -/
theorem check_withUnit (hn : n.Spells numeral) (hascii : AsciiDigits numeral)
    (htail : IsTail s u) (hne : u ≠ []) (hmem : u ∈ units) :
    (ofType (.number units)).check (numeral ++ (s ++ u)) = .valid := by
  have hfits : (NumberGrammar.withUnits units).UnitFits u := .some hne hmem UnitPolicy.noConfusion
  have hbounds : ¬ (NumberGrammar.withUnits units).Outside n.toBinary64 := by
    simp [NumberGrammar.Outside, NumberGrammar.withUnits]
  rw [check_eq_valid_iff]
  exact fault?_of_reports hn (htail.trimEnd_eq hne)
    (.valid (htail.isQuantity hn hascii) hfits hbounds (.inl rfl))

/-- A number with another unit is rejected. -/
theorem check_withOtherUnit (hunits : units ≠ []) (hn : n.Spells numeral)
    (hascii : AsciiDigits numeral) (htail : IsTail s u) (hne : u ≠ []) (hmem : u ∉ units) :
    (ofType (.number units)).check (numeral ++ (s ++ u)) = .invalid (.invalidUnit units) := by
  rw [check_eq_invalid_iff]
  exact fault?_of_reports hn (htail.trimEnd_eq hne)
    (.invalidUnit (htail.isQuantity hn hascii) hne hunits UnitPolicy.noConfusion hmem)

/-- What a declaration declares is what the checker accepts. Each value of a declared enum is
accepted with any white space around it, unless it stands between quotes. Where a declaration
declares units of a number, each numeral in ASCII digits is accepted with each of them behind it and
rejected alone or with another unit; white space may stand between the numeral and the unit, and
has to if the unit starts like a part of the numeral. -/
theorem declared_parameters_are_accepted (declaration : Text) :
    (∀ values, (Candidate.parse declaration).type = some (.enum values) →
        ∀ v ∈ values, ¬ IsQuoted v → ∀ w w', (∀ c ∈ w, Text.isBlank c = true) →
          (∀ c ∈ w', Text.isBlank c = true) →
            (ofType (.enum values)).check (w ++ (v ++ w')) = .valid)
      ∧ ∀ units, (Candidate.parse declaration).type = some (.number units) → units ≠ [] →
        ∀ (n : Numeral) (numeral : Text), n.Spells numeral → AsciiDigits numeral →
          ((ofType (.number units)).check numeral
              = .invalid (.unitRequired ((NumberGrammar.withUnits units).withUnit numeral) units))
            ∧ ∀ s u, (∀ c ∈ s, Text.isBlank c = true) → '\n' ∉ u →
              (s = [] → ∀ c, u.head? = some c → Text.isDecimalDigit c = false ∧ c ≠ '.') →
                (u ∈ units → (ofType (.number units)).check (numeral ++ (s ++ u)) = .valid)
                  ∧ (u ∉ units → Text.trim u = u → u ≠ [] →
                    (ofType (.number units)).check (numeral ++ (s ++ u))
                      = .invalid (.invalidUnit units)) := by
  refine ⟨fun values h v hv hquoted w w' hw hw' => ?_, ?_⟩
  · obtain ⟨htight, hne⟩ := Candidate.params_tidy h hv
    exact check_enum hv htight hne hquoted hw hw'
  · intro units h hunits n numeral hn hascii
    refine ⟨check_withoutUnit hunits hn hascii, fun s u hs hfeed hfirst => ?_⟩
    have htail : Text.trim u = u → IsTail s u := by
      refine fun htight => ⟨hs, htight, hfeed, fun hnil c hc => ?_⟩
      rintro (hdigit | hpoint)
      · exact absurd hdigit (by simp [(hfirst hnil c hc).1])
      · exact (hfirst hnil c hc).2 hpoint
    constructor
    · intro hmem
      obtain ⟨htight, hne⟩ := Candidate.params_tidy h hmem
      exact check_withUnit hn hascii (htail htight) hne hmem
    · intro hmem htight hne
      exact check_withOtherUnit hunits hn hascii (htail htight) hne hmem

/-- A key whose values are numbers with one of two units. -/
def hikingDeclaration : Text := "hiking: Number | km, mi,"

/-- The second of the units may stand behind a number, and a longer word may not. -/
theorem declared_parameters_are_accepted_of_hikingDeclaration :
    (Candidate.parse hikingDeclaration).type = some (.number ["km".toList, "mi".toList])
      ∧ (ofType (.number ["km".toList, "mi".toList])).check "10"
        = .invalid (.unitRequired "10km".toList ["km".toList, "mi".toList])
      ∧ (ofType (.number ["km".toList, "mi".toList])).check "10 mi" = .valid
      ∧ (ofType (.number ["km".toList, "mi".toList])).check "10miles"
        = .invalid (.invalidUnit ["km".toList, "mi".toList]) := by
  have htype : (Candidate.parse hikingDeclaration).type
      = some (.number ["km".toList, "mi".toList]) := by
    decide
  obtain ⟨halone, hunit⟩ := (declared_parameters_are_accepted hikingDeclaration).2 _ htype
    (List.cons_ne_nil _ _) _ _ Decimal.spells_ten Decimal.asciiDigits_ten
  have hfirst : ∀ c, ("miles".toList).head? = some c → Text.isDecimalDigit c = false ∧ c ≠ '.' := by
    intro c hc
    obtain rfl : 'm' = c := Option.some.inj hc
    decide
  refine ⟨htype, halone, ?_, ?_⟩
  · have hblank : ∀ c ∈ " ".toList, Text.isBlank c = true := List.all_eq_true.mp (by decide)
    exact (hunit " " "mi" hblank (by decide) (by decide)).1 (by decide)
  · have hblank : ∀ c ∈ [], Text.isBlank c = true := fun _ hc => absurd hc List.not_mem_nil
    exact (hunit [] "miles" hblank (by decide) fun _ => hfirst).2 (by decide) (by decide)
      (by decide)

end FieldGrammar

end Frontmatter
