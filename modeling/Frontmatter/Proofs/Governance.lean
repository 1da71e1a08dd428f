import Frontmatter.Proofs.Path
import Frontmatter.Proofs.Text.Utf8
import Frontmatter.Rule.Basic

/-! # Which rule governs a path

A rule governs a path by declaring it, or by declaring a path that it extends. `Rule.Governs` says
which of several rules does, from what they declare alone, and `governing?_eq_some_iff` that this is
the rule that is found. Rules that do not govern a path can be left out for that reason. Whether a
path extends another one can also be told from their UTF-8 bytes, by comparing lengths, the bytes at
the front and one byte behind them: `isBelowBytes?_utf8` says that this byte is always there. The
main statement is `governed_by_first_declaring_or_extended`. -/

namespace Frontmatter

namespace Path

/-! ## Comparing bytes -/

/-- Whether the bytes of a path are the bytes of another one that is not empty, a dot, and more. The
dot is looked for behind the other's bytes, and without a byte there no answer is given. -/
def isBelowBytes? (path ancestor : List UInt8) : Option Bool :=
  if ancestor ≠ [] ∧ ancestor.length + 1 < path.length ∧ ancestor <+: path then
    path[ancestor.length]?.map (· == 0x2e)
  else some false

/-- The comparison of bytes always gives an answer. It is positive if the other path's bytes and a
dot are at the front, and more follow. -/
theorem exists_isBelowBytes?_eq (path ancestor : List UInt8) :
    ∃ answer, isBelowBytes? path ancestor = some answer
      ∧ (answer = true ↔ ancestor ≠ [] ∧ ancestor.length + 1 < path.length
          ∧ ancestor ++ [0x2e] <+: path) := by
  rw [isBelowBytes?]
  by_cases h : ancestor ≠ [] ∧ ancestor.length + 1 < path.length ∧ ancestor <+: path
  · -- At least two bytes follow those of the other path, and the first of them is looked at.
    obtain ⟨hne, hlength, rest, rfl⟩ := id h
    have hrest : 0 < rest.length := by
      rw [List.length_append] at hlength
      omega
    obtain ⟨byte, more, rfl⟩ := List.exists_cons_of_length_pos hrest
    have hbyte : (ancestor ++ byte :: more)[ancestor.length]? = some byte := by
      rw [List.getElem?_append_right (Nat.le_refl _), Nat.sub_self, List.getElem?_cons_zero]
    refine ⟨byte == 0x2e, by rw [if_pos h, hbyte, Option.map_some], ?_⟩
    rw [List.prefix_append_right_inj, List.cons_prefix_cons, beq_iff_eq, eq_comm]
    exact ⟨fun hdot => ⟨hne, hlength, hdot, List.nil_prefix⟩, fun hall => hall.2.2.1⟩
  · refine ⟨false, if_neg h, iff_of_false Bool.false_ne_true ?_⟩
    rintro ⟨hne, hlength, hprefix⟩
    exact h ⟨hne, hlength, (List.prefix_append ancestor [0x2e]).trans hprefix⟩

/-- The bytes of a path tell whether it extends another one. -/
theorem utf8_extends_iff (path ancestor : Path) :
    (Text.utf8 ancestor ≠ [] ∧ (Text.utf8 ancestor).length + 1 < (Text.utf8 path).length
        ∧ Text.utf8 ancestor ++ [0x2e] <+: Text.utf8 path) ↔ path.Extends ancestor := by
  have hdot : Text.utf8 ancestor ++ [0x2e] = Text.utf8 (ancestor ++ ['.']) := by
    rw [Text.utf8_append]
    rfl
  rw [hdot, Text.utf8_prefix_utf8_iff, ne_eq, Text.utf8_eq_nil_iff]
  refine and_congr_right fun _ => ?_
  -- What follows the dot has a byte if and only if it has a character.
  have hlength : ∀ rest : Text,
      (Text.utf8 ancestor).length + 1 < (Text.utf8 (ancestor.child rest)).length ↔ rest ≠ [] := by
    intro rest
    have hbytes : Text.utf8 (ancestor.child rest)
        = Text.utf8 (ancestor ++ ['.']) ++ Text.utf8 rest := by
      rw [← Text.utf8_append, List.append_assoc]
      rfl
    rw [hbytes, ← hdot, List.length_append, List.length_append, List.length_singleton,
      Nat.lt_add_right_iff_pos, List.length_pos_iff, ne_eq, Text.utf8_eq_nil_iff]
  constructor
  · rintro ⟨hlt, rest, rfl⟩
    rw [List.append_assoc] at hlt
    exact ⟨rest, (hlength rest).mp hlt, by rw [List.append_assoc]; rfl⟩
  · rintro ⟨rest, hne, rfl⟩
    exact ⟨(hlength rest).mpr hne, rest, by rw [List.append_assoc]; rfl⟩

/-- The comparison of the bytes of two paths gives the answer of the comparison of characters. -/
theorem isBelowBytes?_utf8 (path ancestor : Path) :
    isBelowBytes? (Text.utf8 path) (Text.utf8 ancestor) = some (path.isBelow ancestor) := by
  obtain ⟨answer, hanswer, htrue⟩ := exists_isBelowBytes?_eq (Text.utf8 path) (Text.utf8 ancestor)
  rw [hanswer, Option.some_inj, Bool.eq_iff_iff, htrue, utf8_extends_iff, isBelow_iff]

end Path

namespace Rule

variable {rules before before' after after' : List Rule} {path : Path} {r : Rule}

/-! ## The rule that governs -/

/-- Whether a rule governs a path among the rules before it and those behind it. -/
inductive Governs (path : Path) (before : List Rule) (r : Rule) (after : List Rule) : Prop where
  /-- It declares the path, and none before it does. -/
  | declares (hpath : r.declaredPath = path) (hfirst : ∀ s ∈ before, s.declaredPath ≠ path)
  /-- No rule declares the path. The path extends the one that the rule declares, and none of those
  that are declared before it. -/
  | isExtended (hnone : ∀ s ∈ before ++ r :: after, s.declaredPath ≠ path)
      (hpath : path.Extends r.declaredPath) (hfirst : ∀ s ∈ before, ¬ path.Extends s.declaredPath)

/-- A rule that governs a path does so when other rules are left out. -/
theorem Governs.sublist (h : Governs path before r after) (hbefore : before'.Sublist before)
    (hafter : after'.Sublist after) : Governs path before' r after' := by
  cases h with
  | declares hpath hfirst => exact .declares hpath fun s hs => hfirst s (hbefore.subset hs)
  | isExtended hnone hpath hfirst =>
      have hall : (before' ++ r :: after').Sublist (before ++ r :: after) :=
        hbefore.append (hafter.cons_cons r)
      exact .isExtended (fun s hs => hnone s (hall.subset hs)) hpath
        fun s hs => hfirst s (hbefore.subset hs)

/-- The rule that is found for a path is the one that governs it. -/
theorem governing?_eq_some_iff : governing? rules path = some r
    ↔ ∃ before after, rules = before ++ r :: after ∧ Governs path before r after := by
  simp only [governing?, Option.or_eq_some_iff, List.find?_eq_some_iff_append,
    List.find?_eq_none, decide_eq_true_eq, Path.isBelow_iff]
  constructor
  · rintro (⟨hpath, before, after, rfl, hfirst⟩ | ⟨hnone, hpath, before, after, rfl, hfirst⟩)
    · exact ⟨before, after, rfl, .declares hpath (by simpa using hfirst)⟩
    · refine ⟨before, after, rfl, .isExtended hnone hpath fun s hs => ?_⟩
      rw [← Path.isBelow_iff]
      simpa using hfirst s hs
  · rintro ⟨before, after, rfl, hgoverns⟩
    cases hgoverns with
    | declares hpath hfirst => exact .inl ⟨hpath, before, after, rfl, by simpa using hfirst⟩
    | isExtended hnone hpath hfirst =>
        refine .inr ⟨hnone, hpath, before, after, rfl, fun s hs => ?_⟩
        have hs := hfirst s hs
        rw [← Path.isBelow_iff] at hs
        simpa using hs

/-- No rule is found for a path that is not declared and extends no declared path. -/
theorem governing?_eq_none_iff : governing? rules path = none
    ↔ ∀ s ∈ rules, s.declaredPath ≠ path ∧ ¬ path.Extends s.declaredPath := by
  simp only [governing?, Option.or_eq_none_iff, List.find?_eq_none, decide_eq_true_eq,
    Path.isBelow_iff, ← forall_and]

/-- A rule that governs a path and is not enabled gives way to no other one. -/
theorem enabled?_eq_none_of_not_enabled (h : governing? rules path = some r)
    (hdisabled : r.enabled = false) : enabled? rules path = none := by
  rw [enabled?, h, Option.filter_some, hdisabled]
  rfl

/-! ## The rule that declares a path -/

/-- Whether a rule is the first of several that declares a path. -/
def DeclaresFirst (rules : List Rule) (path : Path) (r : Rule) : Prop :=
  ∃ before after, rules = before ++ r :: after ∧ r.declaredPath = path
    ∧ ∀ s ∈ before, s.declaredPath ≠ path

/-- The first rule that declares a path governs it. -/
theorem DeclaresFirst.governing?_eq (h : DeclaresFirst rules path r) :
    governing? rules path = some r := by
  obtain ⟨before, after, hrules, hpath, hfirst⟩ := h
  exact governing?_eq_some_iff.mpr ⟨before, after, hrules, .declares hpath hfirst⟩

/-- A rule that governs a path which does not end in a dot, and is as deep as the path, declares it:
the path would be deeper than one that it extends. -/
theorem declaresFirst_of_depth_eq (h : governing? rules path = some r)
    (hdepth : path.depth = r.depth) (hlast : path.getLast? ≠ some '.') :
    DeclaresFirst rules path r := by
  obtain ⟨before, after, hrules, hgoverns⟩ := governing?_eq_some_iff.mp h
  cases hgoverns with
  | declares hpath hfirst => exact ⟨before, after, hrules, hpath, hfirst⟩
  | isExtended _ hpath _ => exact absurd hdepth (Nat.ne_of_gt (hpath.depth_lt hlast))

/-! ## Which rules count -/

/-- **A path is governed by the first rule that declares it, and if there is none by the first one
whose declared path it extends.** Without either, no rule governs it. Comparing bytes tells which
declared paths it extends, and never looks for a byte that is not there; without empty segments they
are those whose segments are its first ones and not all. The rule that governs does so after any
others are left out, before and behind it, and where no rule governs none does then. When it is not
enabled there is no enabled rule, whatever others are. -/
theorem governed_by_first_declaring_or_extended (rules : List Rule) (path : Path) :
    (∀ r, governing? rules path = some r
        ↔ ∃ before after, rules = before ++ r :: after ∧ Governs path before r after)
      ∧ (governing? rules path = none
          ↔ ∀ s ∈ rules, s.declaredPath ≠ path ∧ ¬ path.Extends s.declaredPath)
      ∧ (∀ s ∈ rules, ∃ answer,
          Path.isBelowBytes? (Text.utf8 path) (Text.utf8 s.declaredPath) = some answer
            ∧ (answer = true ↔ path.Extends s.declaredPath))
      ∧ ([] ∉ Text.splitOn '.' path → ∀ s ∈ rules, [] ∉ Text.splitOn '.' s.declaredPath →
          (path.Extends s.declaredPath
            ↔ s.declaredPath.segments <+: path.segments
              ∧ s.declaredPath.segments ≠ path.segments))
      ∧ (∀ before r after, rules = before ++ r :: after → Governs path before r after →
          ∀ before' after', before'.Sublist before → after'.Sublist after →
            governing? (before' ++ r :: after') path = some r)
      ∧ (governing? rules path = none →
          ∀ kept : List Rule, kept.Sublist rules → governing? kept path = none)
      ∧ ∀ r, governing? rules path = some r → r.enabled = false → enabled? rules path = none := by
  refine ⟨fun r => governing?_eq_some_iff, governing?_eq_none_iff, ?_, ?_, ?_, ?_, ?_⟩
  · intro s _
    exact ⟨_, Path.isBelowBytes?_utf8 path s.declaredPath, Path.isBelow_iff⟩
  · exact fun hpath s _ hdeclared => Path.extends_iff_segments hpath hdeclared
  · intro before r after _ hgoverns before' after' hbefore hafter
    exact governing?_eq_some_iff.mpr ⟨before', after', rfl, hgoverns.sublist hbefore hafter⟩
  · intro hnone kept hkept
    rw [governing?_eq_none_iff] at hnone ⊢
    exact fun s hs => hnone s (hkept.subset hs)
  · exact fun r hr hdisabled => enabled?_eq_none_of_not_enabled hr hdisabled

/-- Rules for a field, the first of them switched off, and a rule for a child of it. -/
def exerciseRules : List Rule :=
  [("運動", false), ("運動", true), ("運動.散歩", true)].map fun (field, enabled) =>
    { id := field.toList, enabled, field := field.toList, child := none, source := .inline
      candidates := [], value := none, display := .all, multiSelect := false }

/-- The rule that is switched off governs another child of the field, also when it is the only one
that is left. No enabled rule stands in for it. -/
theorem governed_by_first_declaring_or_extended_of_exerciseRules :
    ∃ r, governing? exerciseRules "運動.水泳".toList = some r ∧ r.enabled = false
      ∧ enabled? exerciseRules "運動.水泳".toList = none
      ∧ governing? [r] "運動.水泳".toList = some r
      ∧ r.declaredPath.segments <+: ["運動".toList, "水泳".toList] := by
  obtain ⟨hsome, -, -, hsegments, hkept, -, hdisabled⟩ :=
    governed_by_first_declaring_or_extended exerciseRules "運動.水泳".toList
  obtain ⟨r, hr, henabled⟩ : ∃ r, governing? exerciseRules "運動.水泳".toList = some r
      ∧ r.enabled = false := ⟨_, rfl, rfl⟩
  obtain ⟨before, after, hrules, hgoverns⟩ := (hsome r).mp hr
  have hmem : r ∈ exerciseRules := hrules ▸ List.mem_append_right before List.mem_cons_self
  have hparts : ∀ s ∈ exerciseRules, [] ∉ Text.splitOn '.' s.declaredPath := by decide
  have hextends : Path.Extends "運動.水泳".toList r.declaredPath := by
    obtain rfl := Option.some.inj hr
    rw [← Path.isBelow_iff]
    decide
  exact ⟨r, hr, henabled, hdisabled r hr henabled,
    hkept before r after hrules hgoverns [] [] (List.nil_sublist _) (List.nil_sublist _),
    ((hsegments (by decide) r hmem (hparts r hmem)).mp hextends).1⟩

end Rule

end Frontmatter
