import Mathlib.Data.List.Nodup

/-! # Items in the order of their numbers

The fields of a block come in the order of their lines, each line once. In such a list a number is
looked for without loss (`find?_number_eq_some_iff`, `filterMap_find?_range`), and two such lists
are equal if they have the same items (`eq_of_pairwise_of_mem_iff`). -/

namespace Frontmatter

variable {α : Type} {number : α → Nat} {xs ys : List α}

/-- Looking for a number finds the one item that has it. -/
theorem find?_number_eq_some_iff (hordered : xs.Pairwise (number · < number ·)) {i : Nat} {x : α} :
    xs.find? (number · = i) = some x ↔ x ∈ xs ∧ number x = i := by
  constructor
  · intro hx
    exact ⟨List.mem_of_find?_eq_some hx, by simpa using List.find?_some hx⟩
  · rintro ⟨hx, rfl⟩
    obtain ⟨y, hy⟩ : ∃ y, xs.find? (number · = number x) = some y :=
      Option.isSome_iff_exists.mp (List.find?_isSome.mpr ⟨x, hx, by simp⟩)
    have hnumber : number y = number x := by simpa using List.find?_some hy
    have hnodup : (xs.map number).Nodup := List.pairwise_map.mpr (hordered.imp Nat.ne_of_lt)
    rw [hy, List.inj_on_of_nodup_map hnodup (List.mem_of_find?_eq_some hy) hx hnumber]

/-- Lists in the order of their numbers are equal if they have the same items. -/
theorem eq_of_pairwise_of_mem_iff (hxs : xs.Pairwise (number · < number ·))
    (hys : ys.Pairwise (number · < number ·)) (h : ∀ x, x ∈ xs ↔ x ∈ ys) : xs = ys := by
  have hne : ∀ {x y : α}, number x < number y → x ≠ y := fun hlt heq =>
    Nat.lt_irrefl _ (heq ▸ hlt)
  refine List.Perm.eq_of_pairwise ?_ hxs hys ?_
  · exact fun x y _ _ hxy hyx => absurd hyx (Nat.lt_asymm hxy)
  · exact (List.perm_ext_iff_of_nodup (hxs.imp hne) (hys.imp hne)).mpr h

/-- Looking for each number in turn finds all items. -/
theorem filterMap_find?_range (hordered : xs.Pairwise (number · < number ·)) {n : Nat}
    (hlt : ∀ x ∈ xs, number x < n) :
    (List.range n).filterMap (fun i => xs.find? (number · = i)) = xs := by
  have hfound : ((List.range n).filterMap fun i => xs.find? (number · = i)).Pairwise
      (number · < number ·) := by
    refine List.Pairwise.filterMap _ ?_ List.pairwise_lt_range
    intro i j hij x hx y hy
    obtain ⟨-, rfl⟩ := (find?_number_eq_some_iff hordered).mp hx
    obtain ⟨-, rfl⟩ := (find?_number_eq_some_iff hordered).mp hy
    exact hij
  refine eq_of_pairwise_of_mem_iff hfound hordered fun x => ?_
  rw [List.mem_filterMap]
  constructor
  · rintro ⟨i, -, hx⟩
    exact List.mem_of_find?_eq_some hx
  · intro hx
    exact ⟨number x, List.mem_range.mpr (hlt x hx),
      (find?_number_eq_some_iff hordered).mpr ⟨hx, rfl⟩⟩

end Frontmatter
