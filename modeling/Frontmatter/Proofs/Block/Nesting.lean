import Mathlib.Data.List.Chain
import Frontmatter.Proofs.Block.Ancestry

/-! # Nesting

An ascent that passes some of the fields above it goes on with what it still expects, which is
`expectedAfter`. In a block whose fields are `WellNested` this can be told from the indentations
alone: by `Climbing.expectedAfter_eq_some_iff` an indentation is still expected after some fields if
and only if all of them are deeper and one of them is deeper by one step. -/

namespace Frontmatter

/-! ## Passing fields -/

/-- What an ascent expects after it has passed some fields. -/
def expectedAfter : Option Nat → List PlacedField → Option Nat
  | none, _ => none
  | some expected, [] => some expected
  | some expected, p :: above =>
    if p.field.indent = expected then expectedAfter (parentIndent expected) above
    else expectedAfter (some expected) above

/-- An ascent that expects nothing goes on expecting nothing. -/
@[simp] theorem expectedAfter_none (above : List PlacedField) :
    expectedAfter none above = none := by
  rw [expectedAfter]

/-- An ascent through two runs of fields goes through the second with what it expects after the
first. -/
theorem ascend_append (expected : Option Nat) (passed above : List PlacedField) :
    ascend expected (passed ++ above)
      = ascend expected passed ++ ascend (expectedAfter expected passed) above := by
  induction passed generalizing expected with
  | nil =>
      rw [List.nil_append, ascend_nil, List.nil_append]
      cases expected <;> rw [expectedAfter]
  | cons p passed ih =>
      cases expected with
      | none => simp
      | some e =>
          rw [List.cons_append, ascend, ascend, expectedAfter]
          split
          · rw [ih, List.cons_append]
          · rw [ih]

/-- The lineage of a field goes on above some of the fields above it. -/
theorem lineage_append (passed above : List PlacedField) (p : PlacedField) :
    lineage (passed ++ above) p
      = lineage passed p ++ ascend (expectedAfter (parentIndent p.field.indent) passed) above := by
  rw [lineage, lineage, ascend_append, List.cons_append]

/-- An ascent does not look at line numbers. -/
theorem ascend_map_moved (expected : Option Nat) (d : Nat) (above : List PlacedField) :
    ascend expected (above.map (·.moved d)) = (ascend expected above).map (·.moved d) := by
  induction above generalizing expected with
  | nil => simp
  | cons p above ih =>
      cases expected with
      | none => simp
      | some e =>
          rw [List.map_cons, ascend, ascend, PlacedField.moved_field]
          split
          · rw [ih, List.map_cons]
          · rw [ih]

/-- What is expected after some fields does not depend on their line numbers. -/
theorem expectedAfter_map_moved (expected : Option Nat) (d : Nat) (above : List PlacedField) :
    expectedAfter expected (above.map (·.moved d)) = expectedAfter expected above := by
  induction above generalizing expected with
  | nil => rfl
  | cons p above ih =>
      cases expected with
      | none => simp
      | some e =>
          rw [List.map_cons, expectedAfter, expectedAfter, PlacedField.moved_field, ih, ih]

/-! ## Paths of passed fields -/

/-- The path of a chain that is made of two. -/
theorem chainPath_append {inner outer : List PlacedField} (hinner : inner ≠ [])
    (houter : outer ≠ []) :
    chainPath (inner ++ outer) = (chainPath outer).child (chainPath inner) := by
  induction inner with
  | nil => exact absurd rfl hinner
  | cons p inner ih =>
      rw [List.cons_append, chainPath_cons, chainPath_cons]
      by_cases hnil : inner = []
      · rw [hnil, List.nil_append, keyPath, keyPath, chainPath?, chainPath?, if_neg houter,
          if_pos rfl]
      · have hne : inner ++ outer ≠ [] := by simp [hnil]
        rw [keyPath, keyPath, chainPath?, chainPath?, if_neg hne, if_neg hnil, ih hnil]
        simp [Path.child]

/-! ## Well nested fields -/

/-- Fields that nest step by step: all indentations are even, the first field is outermost, and none
is more than one step deeper than the one before. -/
structure WellNested (fields : List PlacedField) : Prop where
  /-- Indentations are even. -/
  even : ∀ p ∈ fields, p.field.indent % 2 = 0
  /-- The first field is not indented. -/
  outermost : ∀ p, fields.head? = some p → p.field.indent = 0
  /-- A field is at most one step deeper than the one before. -/
  steps : fields.IsChain fun p q => q.field.indent ≤ p.field.indent + 2

/-- Fields listed upwards, as an ascent meets them, that nest step by step. -/
structure Climbing (up : List PlacedField) : Prop where
  /-- Indentations are even. -/
  even : ∀ p ∈ up, p.field.indent % 2 = 0
  /-- A field is at most one step deeper than the one above. -/
  steps : up.IsChain fun p q => p.field.indent ≤ q.field.indent + 2

/-- The fields from one of well nested ones upwards. -/
theorem WellNested.climbing {fields before after : List PlacedField} {p : PlacedField}
    (h : WellNested fields) (hsplit : fields = before ++ p :: after) :
    Climbing (p :: before.reverse) := by
  have hconcat : fields = (before ++ [p]) ++ after := by
    rw [hsplit, List.append_assoc, List.singleton_append]
  have hsteps := h.steps
  rw [hconcat, List.isChain_append] at hsteps
  constructor
  · intro q hq
    rw [← List.reverse_concat, List.mem_reverse] at hq
    apply h.even
    rw [hconcat]
    exact List.mem_append_left _ hq
  · rw [← List.reverse_concat, List.isChain_reverse]
    exact hsteps.1

namespace Climbing

variable {p q : PlacedField} {up lower : List PlacedField} {e v : Nat}

/-- Fields that climb do so without the lowest. -/
theorem tail (h : Climbing (p :: up)) : Climbing up :=
  ⟨fun q hq => h.even q (List.mem_cons_of_mem p hq), h.steps.tail⟩

/-- Fields that climb do so without the highest ones. -/
theorem left_of_append (h : Climbing (lower ++ up)) : Climbing lower :=
  ⟨fun q hq => h.even q (List.mem_append_left _ hq), (List.isChain_append.mp h.steps).1⟩

/-- Fields that climb do so without the lowest ones. -/
theorem right_of_append (h : Climbing (lower ++ up)) : Climbing up :=
  ⟨fun q hq => h.even q (List.mem_append_right _ hq), (List.isChain_append.mp h.steps).2.1⟩

/-- Fields that climb do so without one that the field below is not deeper than. -/
theorem skip (h : Climbing (p :: q :: up)) (hle : p.field.indent ≤ q.field.indent) :
    Climbing (p :: up) := by
  constructor
  · rw [List.forall_mem_cons]
    exact ⟨h.even p (by simp), h.tail.tail.even⟩
  · cases up with
    | nil => exact .singleton p
    | cons r up =>
        have hstep := (List.isChain_cons_cons.mp h.tail.steps).1
        exact .cons_cons (Nat.le_trans hle hstep) h.tail.tail.steps

/-- A field above a deeper one is itself deeper or at the indentation. -/
theorem le_of_ne (h : Climbing (p :: q :: up)) (he : e % 2 = 0) (hp : e + 2 ≤ p.field.indent)
    (hne : q.field.indent ≠ e) : e + 2 ≤ q.field.indent := by
  have heven := h.even q (by simp)
  have hstep := (List.isChain_cons_cons.mp h.steps).1
  omega

/-- The ascent from a field expects an indentation after some fields if and only if they are all
deeper, the field included, and one of them is deeper by one step. -/
theorem expectedAfter_eq_some_iff (h : Climbing (p :: up)) :
    expectedAfter (parentIndent p.field.indent) up = some v
      ↔ (∀ q ∈ p :: up, v + 2 ≤ q.field.indent) ∧ ∃ q ∈ p :: up, q.field.indent = v + 2 := by
  induction up generalizing p with
  | nil =>
      rw [parentIndent, indentStep]
      split
      · rw [expectedAfter]
        simp
        omega
      · simp
        omega
  | cons q up ih =>
      have heven := h.even p (by simp)
      have hstep := (List.isChain_cons_cons.mp h.steps).1
      by_cases hroot : p.field.indent < indentStep
      · -- An outermost field expects nothing.
        rw [parentIndent, if_neg (Nat.not_le.mpr hroot), expectedAfter_none]
        rw [indentStep] at hroot
        simp
        omega
      · have hparent : parentIndent p.field.indent = some (p.field.indent - 2) :=
          if_pos (Nat.not_lt.mp hroot)
        rw [indentStep] at hroot
        by_cases hq : q.field.indent = p.field.indent - 2
        · -- The ascent goes on from the parent, which is the shallower of the two.
          rw [hparent, expectedAfter, if_pos hq, ← hq, ih h.tail]
          constructor
          · rintro ⟨hall, hv⟩
            have hle := hall q (by simp)
            exact ⟨List.forall_mem_cons.mpr ⟨by omega, hall⟩, List.exists_mem_cons_of_exists hv⟩
          · rintro ⟨hall, r, hr, hv⟩
            obtain ⟨-, hall⟩ := List.forall_mem_cons.mp hall
            have hle := hall q (by simp)
            rcases List.mem_cons.mp hr with rfl | hr
            · omega
            · exact ⟨hall, r, hr, hv⟩
        · -- The ascent passes over the field, which cannot be the shallowest one either.
          have hle : p.field.indent ≤ q.field.indent := by
            have hqeven := h.even q (by simp)
            omega
          rw [hparent, expectedAfter, if_neg hq, ← hparent, ih (h.skip hle)]
          simp only [List.forall_mem_cons, List.exists_mem_cons_iff]
          constructor
          · rintro ⟨⟨hp, hall⟩, hv⟩
            exact ⟨⟨hp, by omega, hall⟩, hv.imp_right .inr⟩
          · rintro ⟨⟨hp, -, hall⟩, hv⟩
            refine ⟨⟨hp, hall⟩, ?_⟩
            rcases hv with hv | hv | hv
            · exact .inl hv
            · exact .inl (by omega)
            · exact .inr hv

/-- Going upwards from a deep field to one that is not so deep meets the indentations between. -/
theorem exists_eq_append (h : Climbing (p :: up)) (he : e % 2 = 0) (hp : e + 2 ≤ p.field.indent)
    (hup : ∃ q ∈ up, q.field.indent < e) :
    ∃ passed q above, up = passed ++ q :: above ∧ q.field.indent = e
      ∧ ∀ r ∈ passed, e + 2 ≤ r.field.indent := by
  induction up generalizing p with
  | nil =>
      obtain ⟨q, hq, -⟩ := hup
      exact absurd hq List.not_mem_nil
  | cons q up ih =>
      by_cases hq : q.field.indent = e
      · exact ⟨[], q, up, rfl, hq, by simp⟩
      · have hle : e + 2 ≤ q.field.indent := h.le_of_ne he hp hq
        have hrest : ∃ r ∈ up, r.field.indent < e := by
          obtain ⟨r, hr, hlt⟩ := hup
          rcases List.mem_cons.mp hr with rfl | hr
          · omega
          · exact ⟨r, hr, hlt⟩
        obtain ⟨passed, r, above, rfl, hr, hpassed⟩ := ih h.tail hle hrest
        exact ⟨q :: passed, r, above, rfl, hr, List.forall_mem_cons.mpr ⟨hle, hpassed⟩⟩

end Climbing

end Frontmatter
