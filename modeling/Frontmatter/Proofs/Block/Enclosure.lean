import Frontmatter.Proofs.Block.Nesting
import Frontmatter.Proofs.Block.Resolution

/-! # What encloses a cursor

A field encloses a line below it as long as no field in between is shallower than it. In a well
nested block every ancestor of a field encloses the field, because going upwards meets the
indentations one after the other: `Climbing.exists_split_of_mem_ascend`. The path of a cursor on a
field line therefore encloses the cursor. A placeholder is taken to be about the nearest field at
its own indentation, which may have been closed in the meantime. `encloses_resolved_path` says that
this happens exactly when the placeholder is deeper than the field right above it. -/

namespace Frontmatter

namespace Climbing

variable {p q : PlacedField} {lower up : List PlacedField} {e : Nat}

/-- An ancestor is no deeper than the fields below it, down to the one that the ascent starts
from. -/
theorem exists_split_of_mem_ascend (h : Climbing (p :: up))
    (hq : q ∈ ascend (parentIndent p.field.indent) up) :
    ∃ passed above, up = passed ++ q :: above
      ∧ ∀ r ∈ p :: passed, q.field.indent ≤ r.field.indent := by
  induction up generalizing p with
  | nil =>
      rw [ascend_nil] at hq
      exact absurd hq List.not_mem_nil
  | cons a up ih =>
      by_cases hroot : p.field.indent < indentStep
      · -- An outermost field has no ancestors.
        rw [parentIndent, if_neg (Nat.not_le.mpr hroot), ascend_none] at hq
        exact absurd hq List.not_mem_nil
      · have hparent : parentIndent p.field.indent = some (p.field.indent - 2) :=
          if_pos (Nat.not_lt.mp hroot)
        rw [indentStep] at hroot
        rw [hparent, ascend_cons] at hq
        by_cases ha : a.field.indent = p.field.indent - 2
        · rw [if_pos ha, lineage, List.mem_cons] at hq
          rcases hq with rfl | hq
          · exact ⟨[], up, rfl, by simp; omega⟩
          · -- The parent's ancestors are shallower than the parent.
            obtain ⟨passed, above, rfl, hpassed⟩ := ih h.tail hq
            refine ⟨a :: passed, above, rfl, List.forall_mem_cons.mpr ⟨?_, hpassed⟩⟩
            have hle := hpassed a List.mem_cons_self
            omega
        · -- A field that is passed over is as deep as the start at least.
          have hle : p.field.indent ≤ a.field.indent := by
            have hstep := (List.isChain_cons_cons.mp h.steps).1
            have hpeven := h.even p (by simp)
            have haeven := h.even a (by simp)
            omega
          rw [if_neg ha, ← hparent] at hq
          obtain ⟨passed, above, rfl, hpassed⟩ := ih (h.skip hle) hq
          obtain ⟨hp, hpassed⟩ := List.forall_mem_cons.mp hpassed
          refine ⟨a :: passed, above, rfl, ?_⟩
          rw [List.forall_mem_cons, List.forall_mem_cons]
          exact ⟨hp, Nat.le_trans hp hle, hpassed⟩

/-- Fields that do not come to an indentation stay deeper than it if the lowest of them is. -/
theorem forall_lt_of_ne (h : Climbing lower) (he : e % 2 = 0)
    (hhead : ∀ r ∈ lower.head?, e ≤ r.field.indent) (hne : ∀ r ∈ lower, r.field.indent ≠ e) :
    ∀ r ∈ lower, e < r.field.indent := by
  induction lower with
  | nil => exact List.forall_mem_nil _
  | cons r lower ih =>
      have hr : e < r.field.indent :=
        Nat.lt_of_le_of_ne (hhead r rfl) (Ne.symm (hne r List.mem_cons_self))
      refine List.forall_mem_cons.mpr ⟨hr, ih h.tail ?_ (List.forall_mem_cons.mp hne).2⟩
      intro s hs
      cases lower with
      | nil => exact absurd hs (by simp)
      | cons t lower =>
          obtain rfl : t = s := Option.some.inj hs
          have hreven := h.even r (by simp)
          have hle := h.le_of_ne he (by omega) (hne t (by simp))
          omega

end Climbing

namespace Block

variable {b : Block} {n column : Nat} {text : Text} {c : Context} {a k p q : PlacedField}
  {passed above : List PlacedField}

/-- Whether a field encloses a line: no field strictly between the two is shallower than it. -/
def Encloses (b : Block) (a : PlacedField) (n : Nat) : Prop :=
  ∀ q ∈ b.fields, a.line < q.line → q.line < n → a.field.indent ≤ q.field.indent

/-- Enclosing is tested on the fields of the block. -/
instance (b : Block) (a : PlacedField) (n : Nat) : Decidable (b.Encloses a n) := by
  unfold Encloses
  infer_instance

/-- Whether a line is deeper than the nearest field above it. -/
def Overhangs (b : Block) (n : Nat) (text : Text) : Prop :=
  ∃ q ∈ (b.fieldsAbove n).head?, q.field.indent < Text.indentation text

/-- Overhanging is tested on the nearest field above. -/
instance (b : Block) (n : Nat) (text : Text) : Decidable (b.Overhangs n text) := by
  unfold Overhangs
  infer_instance

/-- The fields between one of the fields above a line and that line. -/
theorem mem_passed_iff (h : b.fieldsAbove n = passed ++ a :: above) :
    q ∈ passed ↔ q ∈ b.fields ∧ a.line < q.line ∧ q.line < n := by
  have hsorted : (b.fieldsAbove n).Pairwise (fun x y => y.line < x.line) := by
    rw [fieldsAbove, List.pairwise_reverse]
    exact b.pairwise_fields.filter _
  rw [h, List.pairwise_append] at hsorted
  obtain ⟨-, hafter, hbefore⟩ := hsorted
  have hmem : q ∈ b.fields ∧ q.line < n ↔ q ∈ passed ∨ q = a ∨ q ∈ above := by
    rw [← mem_fieldsAbove, h, List.mem_append, List.mem_cons]
  constructor
  · intro hq
    obtain ⟨hfields, hlt⟩ := hmem.mpr (.inl hq)
    exact ⟨hfields, hbefore q hq a List.mem_cons_self, hlt⟩
  · rintro ⟨hfields, hlt, hn⟩
    rcases hmem.mp ⟨hfields, hn⟩ with hq | rfl | hq
    · exact hq
    · exact absurd hlt (Nat.lt_irrefl _)
    · exact absurd ((List.pairwise_cons.mp hafter).1 q hq) (Nat.not_lt.mpr (Nat.le_of_lt hlt))

/-- A field encloses a line if the fields between are no shallower. -/
theorem encloses_iff (h : b.fieldsAbove n = passed ++ a :: above) :
    b.Encloses a n ↔ ∀ q ∈ passed, a.field.indent ≤ q.field.indent := by
  simp only [mem_passed_iff h, Encloses, and_imp]

/-- The fields above a line of a well nested block climb. -/
theorem climbing_fieldsAbove (hnested : WellNested b.fields) (n : Nat) :
    Climbing (b.fieldsAbove n) := by
  have hsplit := b.fields_eq_fieldsAbove_append n
  cases habove : b.fieldsAbove n with
  | nil => exact ⟨List.forall_mem_nil _, .nil⟩
  | cons p up =>
      rw [habove, List.reverse_cons, List.append_assoc, List.singleton_append] at hsplit
      rw [← List.reverse_reverse up]
      exact hnested.climbing hsplit

/-- A field of a well nested block and the fields above it climb. -/
theorem climbing_cons_fieldsAbove (hnested : WellNested b.fields) (hp : p ∈ b.fields) :
    Climbing (p :: b.fieldsAbove p.line) := by
  obtain ⟨before, after, hsplit⟩ := List.append_of_mem hp
  rw [fieldsAbove_line hsplit]
  exact hnested.climbing hsplit

/-- The lineage of a field in a well nested block encloses the field, and is no deeper. -/
theorem encloses_of_mem_lineage (hnested : WellNested b.fields) (hp : p ∈ b.fields)
    (ha : a ∈ lineage (b.fieldsAbove p.line) p) :
    b.Encloses a p.line ∧ a.field.indent ≤ p.field.indent := by
  rcases List.mem_cons.mp ha with rfl | ha
  · exact ⟨fun q _ hlt hgt => absurd hgt (Nat.not_lt.mpr (Nat.le_of_lt hlt)), Nat.le_refl _⟩
  · obtain ⟨passed, above, hsplit, hpassed⟩ :=
      (climbing_cons_fieldsAbove hnested hp).exists_split_of_mem_ascend ha
    obtain ⟨hle, hpassed⟩ := List.forall_mem_cons.mp hpassed
    exact ⟨(encloses_iff hsplit).mpr hpassed, hle⟩

/-- The nearest field at a line's indentation encloses the line unless the line overhangs. -/
theorem encloses_iff_not_overhangs (hnested : WellNested b.fields)
    (hsplit : b.fieldsAbove n = passed ++ k :: above)
    (hindent : k.field.indent = Text.indentation text)
    (hpassed : ∀ q ∈ passed, q.field.indent ≠ Text.indentation text) :
    b.Encloses k n ↔ ¬ b.Overhangs n text := by
  rw [encloses_iff hsplit, Overhangs, hsplit, hindent]
  constructor
  · rintro hdeep ⟨q, hq, hlt⟩
    cases passed with
    | nil =>
        obtain rfl : k = q := Option.some.inj hq
        omega
    | cons r passed =>
        obtain rfl : r = q := Option.some.inj hq
        have hle := hdeep r List.mem_cons_self
        omega
  · intro hoverhangs
    have hclimb := climbing_fieldsAbove hnested n
    rw [hsplit] at hclimb
    have heven : Text.indentation text % 2 = 0 := by
      rw [← hindent]
      exact hclimb.even k (by simp)
    have hhead : ∀ r ∈ passed.head?, Text.indentation text ≤ r.field.indent := by
      intro r hr
      refine Nat.not_lt.mp fun hlt => hoverhangs ⟨r, ?_, hlt⟩
      rw [List.head?_append, Option.mem_def.mp hr]
      rfl
    intro r hr
    exact Nat.le_of_lt (hclimb.left_of_append.forall_lt_of_ne heven hhead hpassed r hr)

/-- A field that encloses one above a line, and is no deeper than it, encloses what that one
encloses. -/
theorem Encloses.trans (hak : b.Encloses a k.line) (hle : a.field.indent ≤ k.field.indent)
    (hk : k ∈ b.fields) (hkn : b.Encloses k n) : b.Encloses a n := by
  intro q hq hlt hn
  rcases Nat.lt_trichotomy q.line k.line with hqk | hqk | hkq
  · exact hak q hq hlt hqk
  · -- There is one field on a line.
    obtain ⟨text, htext, hfield⟩ := mem_fields.mp hk
    obtain ⟨text', htext', hfield'⟩ := mem_fields.mp hq
    rw [hqk, htext] at htext'
    rw [← Option.some.inj htext', hfield] at hfield'
    rw [← Option.some.inj hfield']
    exact hle
  · exact Nat.le_trans hle (hkn q hq hkq hn)

/-! ## The path of a cursor -/

/-- What leads to a field line encloses it. -/
theorem encloses_chain_of_parse? {field : FieldLine} (hnested : WellNested b.fields)
    (htext : b.interiorText? n = some text) (hparse : FieldLine.parse? text = some field) :
    ∀ a ∈ b.chain n text, b.Encloses a n := by
  intro a ha
  rw [chain_of_parse? hparse] at ha
  have hp : (⟨n, field⟩ : PlacedField) ∈ b.fields := mem_fields.mpr ⟨text, htext, hparse⟩
  exact (encloses_of_mem_lineage hnested hp ha).1

/-- What leads to a placeholder encloses the nearest field at its indentation, and the placeholder
itself unless that overhangs. -/
theorem encloses_chain_of_parse?_eq_none (hnested : WellNested b.fields)
    (hparse : FieldLine.parse? text = none) (hne : b.chain n text ≠ []) :
    ∃ k, (b.chain n text).head? = some k ∧ (∀ a ∈ b.chain n text, b.Encloses a k.line)
      ∧ ((∀ a ∈ b.chain n text, b.Encloses a n) ↔ ¬ b.Overhangs n text) := by
  rw [chain_of_parse?_eq_none hparse] at hne ⊢
  rcases ascend_eq_nil_or_lineage (Text.indentation text) (b.fieldsAbove n) with
    ⟨hnil, -⟩ | ⟨passed, k, above, hsplit, hindent, hpassed, hascend⟩
  · exact absurd hnil hne
  · have hk : k ∈ b.fields := (mem_fieldsAbove.mp (by rw [hsplit]; simp)).1
    rw [hascend, ← fieldsAbove_line_of_eq hsplit]
    have hlineage : ∀ a ∈ lineage (b.fieldsAbove k.line) k,
        b.Encloses a k.line ∧ a.field.indent ≤ k.field.indent :=
      fun a ha => encloses_of_mem_lineage hnested hk ha
    refine ⟨k, rfl, fun a ha => (hlineage a ha).1, ?_⟩
    rw [← encloses_iff_not_overhangs hnested hsplit hindent hpassed]
    constructor
    · exact fun hall => hall k List.mem_cons_self
    · exact fun hkn a ha => (hlineage a ha).1.trans (hlineage a ha).2 hk hkn

/-- In a well nested block every key line of the path of a cursor encloses the path's last one. All
of them enclose the cursor, unless it stands on a placeholder that is deeper than the nearest field
above it. -/
theorem encloses_resolved_path (hnested : WellNested b.fields)
    (hc : b.resolve? n column = some c) :
    ∃ text, b.lines[n]? = some text
      ∧ c.path = Path.ofKeys ((b.chain n text).map (·.field.key)).reverse
      ∧ (∀ a ∈ b.chain n text, b.Encloses a c.keyLine)
      ∧ ((∀ a ∈ b.chain n text, b.Encloses a n)
          ↔ ¬ (c.kind = .placeholder ∧ b.Overhangs n text)) := by
  obtain ⟨text, hres⟩ := resolution_of_resolve? hc
  have hne : b.chain n text ≠ [] := (isSome_resolve?_iff hres.text_eq).mp (by rw [hc]; rfl)
  have hpath := hres.path_eq
  rw [chainPath?, if_neg hne, Option.some_inj] at hpath
  have hkind := hres.kind_eq
  refine ⟨text, (interiorText?_eq_some_iff.mp hres.text_eq).2, hpath.symm, ?_⟩
  cases hparse : FieldLine.parse? text with
  | some field =>
      have hall := encloses_chain_of_parse? hnested hres.text_eq hparse
      have hkey := hres.keyLine_eq
      rw [chain_of_parse? hparse] at hkey
      have hline : n = c.keyLine := Option.some.inj hkey
      rw [hparse] at hkind
      refine ⟨hline ▸ hall, iff_of_true hall ?_⟩
      rw [hkind]
      rintro ⟨hplaceholder, -⟩
      exact absurd hplaceholder (by simp)
  | none =>
      obtain ⟨k, hhead, hkeyed, hiff⟩ := encloses_chain_of_parse?_eq_none hnested hparse hne
      have hkey := hres.keyLine_eq
      rw [hhead] at hkey
      have hline : k.line = c.keyLine := Option.some.inj hkey
      rw [hparse] at hkind
      have hplaceholder : c.kind = .placeholder := hkind
      exact ⟨hline ▸ hkeyed, hiff.trans (by rw [and_iff_right hplaceholder])⟩

/-- A document with a half typed key below a field that is not as deep. -/
def overhangingDocument : Text :=
  "---\na:\n  b: 1\nc: 2\n  x\n---".toList

/-- The fields of the document with the overhanging key nest step by step. -/
theorem wellNested_overhangingDocument {b : Block}
    (hb : parse? overhangingDocument defaultDelimiter = some b) : WellNested b.fields := by
  rw [← Option.some.inj hb]
  refine ⟨by decide, ?_, by decide⟩
  intro p hp
  rw [← Option.some.inj hp]
  rfl

/-- The half typed key overhangs, and so one of the key lines of its path does not enclose it. -/
theorem encloses_resolved_path_in_overhangingDocument :
    ∃ b c, parse? overhangingDocument defaultDelimiter = some b ∧ WellNested b.fields
      ∧ b.resolve? 4 3 = some c ∧ c.kind = .placeholder ∧ b.Overhangs 4 "  x".toList
      ∧ (∀ a ∈ b.chain 4 "  x".toList, b.Encloses a c.keyLine)
      ∧ ¬ ∀ a ∈ b.chain 4 "  x".toList, b.Encloses a 4 := by
  have hnested := wellNested_overhangingDocument rfl
  obtain ⟨text, htext, -, hkeyed, hiff⟩ := @encloses_resolved_path _ 4 3 _ hnested rfl
  obtain rfl : "  x".toList = text := Option.some.inj htext
  refine ⟨_, _, rfl, hnested, rfl, rfl, by decide, hkeyed, ?_⟩
  rw [hiff]
  exact not_not.mpr ⟨rfl, by decide⟩

/-- A half typed key resolves to a field that is closed by a shallower one above the cursor. -/
theorem closed_field_leads_to_half_typed_key :
    ∃ b c, parse? overhangingDocument defaultDelimiter = some b ∧ WellNested b.fields
      ∧ b.resolve? 4 3 = some c ∧ c.path = "a.b".toList
      ∧ ¬ ∀ a ∈ b.chain 4 "  x".toList, b.Encloses a 4 :=
  ⟨_, _, rfl, wellNested_overhangingDocument rfl, rfl, by decide, by decide⟩

end Block

end Frontmatter
