import Frontmatter.Path
import Frontmatter.Proofs.Text.Lines
import Mathlib.Data.List.Infix

/-! # Segments of paths

A path is read in two ways. As a text it is a chain of keys with dots between them. For its depth
and for looking up a value only its segments count, the non-empty parts between dots. Going from one
reading to the other, `segments_ofKeys` says that the segments of a path are those of its keys in
turn, so that a key with a dot counts as several segments or as none. A path lies below another one
that it extends as a text (`isBelow_iff`), which is to extend it as a list of segments when neither
holds an empty part (`extends_iff_segments`). -/

namespace Frontmatter

namespace Text

/-- A separator between two texts separates the parts of the one from those of the other. -/
theorem splitOn_append_cons (sep : Char) (s t : Text) :
    splitOn sep (s ++ sep :: t) = splitOn sep s ++ splitOn sep t := by
  rw [splitOn_eq, splitOn_eq, splitOn_eq]
  exact List.splitOnP_append_cons s t (beq_self_eq_true sep)

/-- A text without the separator is its only part. -/
theorem splitOn_of_not_mem {sep : Char} {s : Text} (h : sep ∉ s) : splitOn sep s = [s] :=
  splitOn_join (List.cons_ne_nil s []) (by simpa using h)

/-- The last part of a text is not empty unless the text is empty or ends in the separator. -/
theorem exists_splitOn_eq_concat {sep : Char} {s : Text} (hne : s ≠ [])
    (hlast : s.getLast? ≠ some sep) :
    ∃ parts last, splitOn sep s = parts ++ [last] ∧ last ≠ [] := by
  obtain ⟨parts, last, hsplit⟩ : ∃ parts last, splitOn sep s = parts ++ [last] :=
    ⟨_, _, (List.dropLast_concat_getLast (splitOn_ne_nil sep s)).symm⟩
  refine ⟨parts, last, hsplit, ?_⟩
  rintro rfl
  have hjoin := join_splitOn sep s
  rw [hsplit] at hjoin
  -- An empty last part stands behind a separator.
  cases parts with
  | nil => exact hne hjoin.symm
  | cons part parts =>
      rw [join_concat _ _ (List.cons_ne_nil part parts), List.append_nil] at hjoin
      exact hlast (by rw [← hjoin, List.getLast?_concat])

/-- Parts without the empty one are joined to a text that is not empty. -/
theorem join_ne_nil {sep : Text} {parts : List Text} (hne : parts ≠ []) (hparts : [] ∉ parts) :
    join sep parts ≠ [] := by
  intro hnil
  obtain ⟨part, hpart⟩ := List.exists_mem_of_ne_nil _ hne
  have hsubset : part ⊆ join sep parts := subset_join hpart
  rw [hnil, List.subset_nil] at hsubset
  exact hparts (hsubset ▸ hpart)

/-- What remains of a text after a leading part is what stands behind it. -/
theorem stripStart_eq_some_iff {start s rest : Text} :
    stripStart start s = some rest ↔ s = start ++ rest := by
  induction start generalizing s with
  | nil =>
      rw [stripStart, Option.some_inj, List.nil_append]
  | cons p start ih =>
      cases s with
      | nil => simp [stripStart]
      | cons c s =>
          rw [stripStart, List.cons_append, List.cons_eq_cons]
          by_cases hpc : p = c
          · rw [if_pos hpc, ih]
            exact (and_iff_right hpc.symm).symm
          · rw [if_neg hpc]
            exact iff_of_false (by simp) fun h => hpc h.1.symm

end Text

namespace Path

variable {path ancestor : Path} {key : Text}

/-! ## Segments -/

/-- The segments of a path one key further in are those of the path and of the key. -/
@[simp] theorem segments_child (path : Path) (key : Text) :
    (path.child key).segments = path.segments ++ segments key := by
  rw [child, segments, Text.splitOn_append_cons, List.filter_append]
  rfl

/-- The depth of a path one key further in grows by the depth of the key. -/
@[simp] theorem depth_child (path : Path) (key : Text) :
    (path.child key).depth = path.depth + depth key := by
  rw [depth, segments_child, List.length_append]
  rfl

/-- A key without a dot is its only segment. -/
theorem segments_of_dot_not_mem (hne : key ≠ []) (hdot : '.' ∉ key) : segments key = [key] := by
  rw [segments, Text.splitOn_of_not_mem hdot, List.filter_cons_of_pos (by simpa using hne),
    List.filter_nil]

/-- The segments of a chain of keys are those of each key in turn. -/
theorem segments_ofKeys (keys : List Text) : (ofKeys keys).segments = keys.flatMap segments := by
  induction keys with
  | nil => rfl
  | cons key keys ih =>
      by_cases hnil : keys = []
      · rw [hnil, List.flatMap_singleton]
        rfl
      · have hchild : ofKeys (key :: keys) = child key (ofKeys keys) := by
          rw [ofKeys, Text.join_cons_of_ne_nil _ _ hnil, List.append_assoc]
          rfl
        rw [hchild, segments_child, ih, List.flatMap_cons]

/-- Keys without dots are the segments of their chain. -/
theorem flatMap_segments_of_dot_not_mem {keys : List Text} (hne : ∀ key ∈ keys, key ≠ [])
    (hdot : ∀ key ∈ keys, '.' ∉ key) : keys.flatMap segments = keys := by
  have hsingle : ∀ key ∈ keys, segments key = [key] := fun key hkey =>
    segments_of_dot_not_mem (hne key hkey) (hdot key hkey)
  rw [List.flatMap_congr hsingle, List.flatMap_singleton']

/-- A path that is not empty and does not end in a dot has a segment. -/
theorem depth_pos (hne : path ≠ []) (hlast : path.getLast? ≠ some '.') : 0 < path.depth := by
  obtain ⟨parts, last, hsplit, hlastne⟩ := Text.exists_splitOn_eq_concat hne hlast
  have hmem : last ∈ path.segments := by
    rw [segments, hsplit]
    simp [hlastne]
  exact List.length_pos_of_mem hmem

/-! ## Paths below others -/

/-- Whether a path is another one that is not empty, with a dot and more behind it. -/
def Extends (path ancestor : Path) : Prop :=
  ancestor ≠ [] ∧ ∃ rest, rest ≠ [] ∧ path = ancestor.child rest

/-- A path lies below those that it extends. -/
theorem isBelow_iff : path.isBelow ancestor = true ↔ path.Extends ancestor := by
  rw [isBelow, Bool.and_eq_true, Bool.not_eq_true', List.isEmpty_eq_false_iff]
  refine and_congr_right fun _ => ?_
  constructor
  · intro h
    split at h
    · rename_i c rest hstrip
      exact ⟨c :: rest, List.cons_ne_nil c rest, Text.stripStart_eq_some_iff.mp hstrip⟩
    · exact absurd h (by simp)
  · rintro ⟨rest, hne, hpath⟩
    obtain ⟨c, rest, rfl⟩ := List.exists_cons_of_ne_nil hne
    rw [Text.stripStart_eq_some_iff.mpr hpath]
    rfl

/-- A path that does not end in a dot is deeper than those that it extends. -/
theorem Extends.depth_lt (h : path.Extends ancestor) (hlast : path.getLast? ≠ some '.') :
    ancestor.depth < path.depth := by
  obtain ⟨-, rest, hne, rfl⟩ := h
  have hrest : rest.getLast? ≠ some '.' := by
    rwa [child, List.append_cons, List.getLast?_append_of_ne_nil _ hne] at hlast
  rw [depth_child]
  exact Nat.lt_add_of_pos_right (depth_pos hne hrest)

/-- Without empty parts, a path extends another one exactly if the segments of the other are its
first ones and not all of them. -/
theorem extends_iff_segments (hpath : [] ∉ Text.splitOn '.' path)
    (hancestor : [] ∉ Text.splitOn '.' ancestor) :
    path.Extends ancestor
      ↔ ancestor.segments <+: path.segments ∧ ancestor.segments ≠ path.segments := by
  have hall : ∀ {p : Path}, [] ∉ Text.splitOn '.' p → p.segments = Text.splitOn '.' p := by
    intro p hp
    exact List.filter_eq_self.mpr fun part hpart => by simpa using ne_of_mem_of_not_mem hpart hp
  rw [hall hpath, hall hancestor]
  constructor
  · rintro ⟨-, rest, -, rfl⟩
    rw [child, Text.splitOn_append_cons]
    exact ⟨List.prefix_append _ _, by simpa using Text.splitOn_ne_nil '.' rest⟩
  · -- The segments that are left make up what follows the dot.
    rintro ⟨⟨more, hmore⟩, hproper⟩
    have hne : more ≠ [] := by
      rintro rfl
      exact hproper (by rw [← hmore, List.append_nil])
    have hmoreParts : [] ∉ more := fun h => hpath (hmore ▸ List.mem_append_right _ h)
    refine ⟨?_, Text.join ['.'] more, Text.join_ne_nil hne hmoreParts, ?_⟩
    · rintro rfl
      exact hancestor (by simp [Text.splitOn])
    · calc path = Text.join ['.'] (Text.splitOn '.' ancestor ++ more) := by
            rw [hmore, Text.join_splitOn]
        _ = ancestor ++ ['.'] ++ Text.join ['.'] more := by
            rw [Text.join_append _ (Text.splitOn_ne_nil '.' ancestor) hne, Text.join_splitOn]
        _ = ancestor.child (Text.join ['.'] more) := by
            rw [List.append_assoc]
            rfl

end Path

end Frontmatter
