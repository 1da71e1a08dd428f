import Frontmatter.Context
import Frontmatter.Outline
import Frontmatter.Proofs.Block.Interior
import Frontmatter.Proofs.Text.Lines

/-! # Ancestry

The path of a field can be found in two ways. Going upwards from it, the nearest field one step less
indented is its parent, and so on: `lineage` is the chain that `ascend` meets. Going downwards from
the top, a table keeps the path last seen at each indentation. `LastPaths.Remembers` is what ties
them together: the table holds at every indentation the path of the chain that an ascent from there
meets. Every field keeps it, so that `Block.outline_eq_map` gives every field the path of its
lineage. -/

namespace Frontmatter

/-! ## Going upwards -/

/-- An ascent that expects nothing is over. -/
@[simp] theorem ascend_none (above : List PlacedField) : ascend none above = [] := by
  rw [ascend]

/-- An ascent ends where no fields are left above. -/
@[simp] theorem ascend_nil (expected : Option Nat) : ascend expected [] = [] := by
  cases expected <;> rw [ascend]

/-- A field below the fields above it, followed by its parent, the parent's parent and so on. -/
def lineage (above : List PlacedField) (p : PlacedField) : List PlacedField :=
  p :: ascend (parentIndent p.field.indent) above

/-- A lineage holds at least the field itself. -/
theorem lineage_ne_nil (above : List PlacedField) (p : PlacedField) : lineage above p ≠ [] :=
  List.cons_ne_nil _ _

/-- An ascent follows the lineage of the first field at the expected indentation. -/
theorem ascend_cons (expected : Nat) (p : PlacedField) (above : List PlacedField) :
    ascend (some expected) (p :: above)
      = if p.field.indent = expected then lineage above p else ascend (some expected) above := by
  rw [ascend]
  split
  · rename_i h
    rw [lineage, h]
  · rfl

/-- An ascent passes over fields at other indentations. -/
theorem ascend_append_of_forall_ne {expected : Nat} {skipped above : List PlacedField}
    (h : ∀ p ∈ skipped, p.field.indent ≠ expected) :
    ascend (some expected) (skipped ++ above) = ascend (some expected) above := by
  induction skipped with
  | nil => rfl
  | cons p skipped ih =>
      rw [List.cons_append, ascend_cons, if_neg (h p (by simp)),
        ih fun q hq => h q (List.mem_cons_of_mem p hq)]

/-- An ascent to a field's parent passes over fields that are no shallower than the field. -/
theorem ascend_parentIndent_append {indent : Nat} {skipped above : List PlacedField}
    (h : ∀ p ∈ skipped, indent ≤ p.field.indent) :
    ascend (parentIndent indent) (skipped ++ above) = ascend (parentIndent indent) above := by
  rw [parentIndent]
  split
  · rename_i hstep
    apply ascend_append_of_forall_ne
    intro p hp
    have hle := h p hp
    rw [indentStep] at hstep ⊢
    omega
  · rw [ascend_none, ascend_none]

/-- An ascent meets no field, or else follows the lineage of the nearest field at the expected
indentation. -/
theorem ascend_eq_nil_or_lineage (expected : Nat) (above : List PlacedField) :
    (ascend (some expected) above = [] ∧ ∀ p ∈ above, p.field.indent ≠ expected)
      ∨ ∃ skipped p rest, above = skipped ++ p :: rest ∧ p.field.indent = expected
          ∧ (∀ q ∈ skipped, q.field.indent ≠ expected)
          ∧ ascend (some expected) above = lineage rest p := by
  by_cases h : ∀ p ∈ above, p.field.indent ≠ expected
  · -- The ascent passes over everything.
    refine .inl ⟨?_, h⟩
    have hall : ascend (some expected) (above ++ []) = ascend (some expected) [] :=
      ascend_append_of_forall_ne h
    rwa [List.append_nil, ascend_nil] at hall
  · -- The ascent passes over what stands below the first field at the indentation.
    have hsome : (above.find? (·.field.indent = expected)).isSome = true := by
      simpa [List.find?_isSome] using h
    obtain ⟨p, hp⟩ := Option.isSome_iff_exists.mp hsome
    obtain ⟨hindent, skipped, rest, rfl, hskipped⟩ := List.find?_eq_some_iff_append.mp hp
    have hindent : p.field.indent = expected := by simpa using hindent
    have hskipped : ∀ q ∈ skipped, q.field.indent ≠ expected := by simpa using hskipped
    refine .inr ⟨skipped, p, rest, rfl, hindent, hskipped, ?_⟩
    rw [ascend_append_of_forall_ne hskipped, ascend_cons, if_pos hindent]

/-! ## Paths of chains -/

/-- The path of a chain of fields, innermost first. -/
def chainPath (chain : List PlacedField) : Path :=
  Path.ofKeys (chain.map (·.field.key)).reverse

/-- The path of a chain of fields unless it is empty. -/
def chainPath? (chain : List PlacedField) : Option Path :=
  if chain = [] then none else some (chainPath chain)

/-- The path of a key below a chain of fields. -/
def keyPath (key : Text) (parents : List PlacedField) : Path :=
  match chainPath? parents with
  | some path => path.child key
  | none => key

/-- A path is longer by the key of the innermost field. -/
theorem chainPath_cons (p : PlacedField) (parents : List PlacedField) :
    chainPath (p :: parents) = keyPath p.field.key parents := by
  by_cases h : parents = []
  · rw [h]
    rfl
  · have hne : (parents.map (·.field.key)).reverse ≠ [] := by simpa using h
    rw [chainPath, List.map_cons, List.reverse_cons, Path.ofKeys, Text.join_concat _ _ hne,
      keyPath, chainPath?, if_neg h]
    simp [Path.child, chainPath, Path.ofKeys]

/-! ## Going downwards -/

/-- A table holds at each indentation the path of the chain that an ascent from there meets. -/
def LastPaths.Remembers (last : LastPaths) (above : List PlacedField) : Prop :=
  ∀ indent, last.lookup indent = chainPath? (ascend (some indent) above)

namespace LastPaths.Remembers

variable {last : LastPaths} {above : List PlacedField}

/-- An empty table remembers that there is nothing above. -/
theorem nil : LastPaths.Remembers [] [] := by
  intro indent
  rw [ascend_nil, List.lookup_nil]
  rfl

/-- The path that the table gives a field is the path of its lineage. -/
theorem pathOf (h : last.Remembers above) (p : PlacedField) :
    last.pathOf p.field = chainPath (lineage above p) := by
  have hparent : (if indentStep ≤ p.field.indent then last.lookup (p.field.indent - indentStep)
        else none) = chainPath? (ascend (parentIndent p.field.indent) above) := by
    rw [parentIndent]
    by_cases hstep : indentStep ≤ p.field.indent
    · rw [if_pos hstep, if_pos hstep, h]
    · rw [if_neg hstep, if_neg hstep, ascend_none]
      rfl
  rw [lineage, chainPath_cons, LastPaths.pathOf, hparent]
  rfl

/-- A table that is told the path of the next field remembers that field too. -/
theorem cons (h : last.Remembers above) (p : PlacedField) :
    LastPaths.Remembers ((p.field.indent, last.pathOf p.field) :: last) (p :: above) := by
  intro indent
  rw [List.lookup_cons, ascend_cons, h.pathOf]
  by_cases hindent : indent = p.field.indent
  · -- An ascent from here starts at the new field.
    rw [if_pos hindent.symm, hindent, beq_self_eq_true]
    rfl
  · rw [if_neg (Ne.symm hindent), beq_eq_false_iff_ne.mpr hindent, h indent]

end LastPaths.Remembers

/-- The outline of fields gives each the path of its lineage, wherever the lineages of the fields
are described by one function. -/
theorem outlineFrom_eq_map {last : LastPaths} {above rest : List PlacedField}
    {path : PlacedField → Path} (h : last.Remembers above)
    (hpath : ∀ before p after, rest = before ++ p :: after →
      path p = chainPath (lineage (before.reverse ++ above) p)) :
    outlineFrom last rest = rest.map fun p => ⟨p.line, path p, p.field⟩ := by
  -- The invariant is that the table remembers the fields above.
  induction rest generalizing last above with
  | nil => rfl
  | cons p rest ih =>
      have hrest : outlineFrom ((p.field.indent, last.pathOf p.field) :: last) rest
          = rest.map fun p => ⟨p.line, path p, p.field⟩ := by
        apply ih (h.cons p)
        intro before q after hrest
        rw [hpath (p :: before) q after (by rw [hrest]; rfl), List.reverse_cons, List.append_assoc]
        rfl
      have hp : path p = last.pathOf p.field := by
        rw [hpath [] p rest rfl, h.pathOf p]
        rfl
      rw [outlineFrom, hrest, List.map_cons, hp]

namespace Block

/-- The fields above a line when the fields of the block are split at that line. -/
theorem fieldsAbove_eq {b : Block} {n : Nat} {before after : List PlacedField}
    (h : b.fields = before ++ after) (hbefore : ∀ p ∈ before, p.line < n)
    (hafter : ∀ p ∈ after, n ≤ p.line) : b.fieldsAbove n = before.reverse := by
  have hall : before.filter (·.line < n) = before := by simpa using hbefore
  have hnone : after.filter (·.line < n) = [] := by simpa using hafter
  rw [fieldsAbove, h, List.filter_append, hall, hnone, List.append_nil]

/-- The fields above a field when the fields of the block are split there. -/
theorem fieldsAbove_line {b : Block} {p : PlacedField} {before after : List PlacedField}
    (h : b.fields = before ++ p :: after) : b.fieldsAbove p.line = before.reverse := by
  have hsorted := b.pairwise_fields
  rw [h, List.pairwise_append] at hsorted
  apply fieldsAbove_eq h
  · exact fun q hq => hsorted.2.2 q hq p (by simp)
  · intro q hq
    rcases List.mem_cons.mp hq with rfl | hq
    · exact Nat.le_refl _
    · exact Nat.le_of_lt ((List.pairwise_cons.mp hsorted.2.1).1 q hq)

/-- Sorted fields are those above a line and then those from that line on. -/
theorem filter_append_filter_of_pairwise {fields : List PlacedField}
    (h : fields.Pairwise (·.line < ·.line)) (n : Nat) :
    fields.filter (·.line < n) ++ fields.filter (n ≤ ·.line) = fields := by
  induction fields with
  | nil => rfl
  | cons p fields ih =>
      obtain ⟨hp, hfields⟩ := List.pairwise_cons.mp h
      by_cases hn : p.line < n
      · have hnot : ¬ n ≤ p.line := Nat.not_le.mpr hn
        simp [hn, hnot, ih hfields]
      · have hnone : fields.filter (·.line < n) = [] := by
          refine List.filter_eq_nil_iff.mpr fun q hq => ?_
          have hlt := hp q hq
          simpa using by omega
        have hall : fields.filter (n ≤ ·.line) = fields := by
          refine List.filter_eq_self.mpr fun q hq => ?_
          have hlt := hp q hq
          simpa using by omega
        simp [hn, Nat.not_lt.mp hn, hnone, hall]

/-- The fields of a block are those above a line and then those from that line on. -/
theorem fields_eq_fieldsAbove_append (b : Block) (n : Nat) :
    b.fields = (b.fieldsAbove n).reverse ++ b.fields.filter (n ≤ ·.line) := by
  rw [fieldsAbove, List.reverse_reverse, filter_append_filter_of_pairwise b.pairwise_fields]

/-- The fields above one of the fields above a line. -/
theorem fieldsAbove_line_of_eq {b : Block} {n : Nat} {p : PlacedField}
    {passed above : List PlacedField}
    (h : b.fieldsAbove n = passed ++ p :: above) : b.fieldsAbove p.line = above := by
  have hsplit := b.fields_eq_fieldsAbove_append n
  rw [h, List.reverse_append, List.reverse_cons, List.append_assoc, List.append_assoc,
    List.singleton_append] at hsplit
  rw [fieldsAbove_line hsplit, List.reverse_reverse]

/-- The path of a field of a block: that of its lineage. -/
def pathOf (b : Block) (p : PlacedField) : Path :=
  chainPath (lineage (b.fieldsAbove p.line) p)

/-- The outline lists the fields of a block with the paths of their lineages. -/
theorem outline_eq_map (b : Block) :
    b.outline = b.fields.map fun p => ⟨p.line, b.pathOf p, p.field⟩ := by
  apply outlineFrom_eq_map .nil
  intro before p after h
  rw [pathOf, fieldsAbove_line h, List.append_nil]

end Block

end Frontmatter
