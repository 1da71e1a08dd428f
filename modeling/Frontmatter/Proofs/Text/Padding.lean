import Frontmatter.Proofs.Path
import Frontmatter.Proofs.Text.Trim

/-! # Padded texts

Text that is written by hand may have white space around its parts. `IsPadded` says that a text is
another one with white space around it. Trimming takes it off again (`IsPadded.trim_eq`), and from
the parts of a text that is split at a character as well, where it belongs to the first and the last
part (`IsPadded.map_trim_splitOn`). -/

namespace Frontmatter

namespace Text

variable {w v s t padded : Text} {sep c : Char}

/-- A text is another one with white space around it. -/
def IsPadded (padded s : Text) : Prop :=
  ∃ w v, (∀ c ∈ w, isBlank c = true) ∧ (∀ c ∈ v, isBlank c = true) ∧ padded = w ++ (s ++ v)

/-! ## Trimming -/

/-- Trailing white space is not there after trimming. -/
theorem trim_append (hv : ∀ c ∈ v, isBlank c = true) : trim (s ++ v) = trim s := by
  have hnone : trimStart v = [] := List.dropWhile_eq_nil_iff.mpr hv
  have happend : trimStart (s ++ v)
      = if (trimStart s).isEmpty then trimStart v else trimStart s ++ v :=
    List.dropWhile_append
  rw [trim, trim, happend]
  split
  · rename_i hempty
    rw [hnone, List.isEmpty_iff.mp hempty]
  · exact trimEnd_append hv

/-- Trimming the start stops at a character that is not white space. -/
theorem trimStart_append_cons (hc : isBlank c = false) :
    trimStart (s ++ c :: t) = trimStart s ++ c :: t := by
  have happend : trimStart (s ++ c :: t)
      = if (trimStart s).isEmpty then trimStart (c :: t) else trimStart s ++ c :: t :=
    List.dropWhile_append
  have hstop : trimStart (c :: t) = c :: t := by simp [trimStart, hc]
  rw [happend, hstop]
  split
  · rename_i hempty
    rw [List.isEmpty_iff.mp hempty, List.nil_append]
  · rfl

/-- Trimming the end stops at a character that is not white space. -/
theorem trimEnd_append_cons (hc : isBlank c = false) :
    trimEnd (s ++ c :: t) = s ++ c :: trimEnd t := by
  rw [trimEnd_eq, trimEnd_eq, List.reverse_append, List.reverse_cons, List.append_assoc,
    List.singleton_append, trimStart_append_cons hc]
  simp

/-- On the two sides of a character that is not white space, only the outer ends are trimmed. -/
theorem trim_append_cons (hc : isBlank c = false) :
    trim (s ++ c :: t) = trimStart s ++ c :: trimEnd t := by
  rw [trim, trimStart_append_cons hc, trimEnd_append_cons hc]

/-- A text is what trimming the end leaves of it with white space behind. -/
theorem isPadded_trimEnd (s : Text) : IsPadded s (trimEnd s) := by
  refine ⟨[], (s.reverse.takeWhile isBlank).reverse, by simp, fun c hc => ?_, ?_⟩
  · exact List.mem_takeWhile_imp (List.mem_reverse.mp hc)
  · rw [List.nil_append, trimEnd, ← List.reverse_append, List.takeWhile_append_dropWhile,
      List.reverse_reverse]

/-- A text is what trimming leaves of it with white space around. -/
theorem isPadded_trim (s : Text) : IsPadded s (trim s) := by
  obtain ⟨w, v, hw, hv, htrimEnd⟩ := isPadded_trimEnd (trimStart s)
  refine ⟨s.takeWhile isBlank ++ w, v, fun c hc => ?_, hv, ?_⟩
  · rcases List.mem_append.mp hc with hc | hc
    · exact List.mem_takeWhile_imp hc
    · exact hw c hc
  · rw [List.append_assoc, trim, ← htrimEnd]
    exact List.takeWhile_append_dropWhile.symm

/-! ## Splitting -/

/-- White space in front belongs to the first part. -/
theorem map_trim_splitOn_append_left (hsep : isBlank sep = false) (hw : ∀ c ∈ w, isBlank c = true) :
    (splitOn sep (w ++ s)).map trim = (splitOn sep s).map trim := by
  induction w with
  | nil => rfl
  | cons c w ih =>
      obtain ⟨hc, hw⟩ := List.forall_mem_cons.mp hw
      have hne : c ≠ sep := by
        rintro rfl
        simp [hc] at hsep
      rw [← ih hw, List.cons_append, splitOn, if_neg hne]
      cases hsplit : splitOn sep (w ++ s) with
      | nil => exact absurd hsplit (splitOn_ne_nil sep _)
      | cons part parts =>
          have hpart : trim (c :: part) = trim part := by
            rw [trim, trim]
            congr 1
            exact trimStart_append (w := [c]) (by simpa using hc)
          simp [hpart]

/-- White space at the end belongs to the last part. -/
theorem map_trim_splitOn_append_right (hsep : isBlank sep = false)
    (hv : ∀ c ∈ v, isBlank c = true) :
    (splitOn sep (s ++ v)).map trim = (splitOn sep s).map trim := by
  obtain ⟨parts, last, hsplit⟩ : ∃ parts last, splitOn sep s = parts ++ [last] :=
    ⟨_, _, (List.dropLast_concat_getLast (splitOn_ne_nil sep s)).symm⟩
  -- The text is the join of its parts, and with white space behind it, that of parts of which the
  -- last one has the white space.
  have hjoin : s ++ v = join [sep] (parts ++ [last ++ v]) := by
    rw [join_cut, ← hsplit, join_splitOn]
    rfl
  have hnone : ∀ part ∈ parts ++ [last ++ v], sep ∉ part := by
    have hsepv : sep ∉ v := fun hmem => absurd (hv sep hmem) (by simp [hsep])
    have hparts : ∀ part ∈ parts ++ [last], sep ∉ part := fun part hpart =>
      not_mem_of_mem_splitOn (hsplit ▸ hpart)
    intro part hpart
    rcases List.mem_append.mp hpart with hpart | hpart
    · exact hparts part (List.mem_append_left _ hpart)
    · rw [List.mem_singleton.mp hpart, List.mem_append, not_or]
      exact ⟨hparts last (by simp), hsepv⟩
  rw [hjoin, splitOn_join (by simp) hnone, hsplit]
  simp [trim_append hv]

namespace IsPadded

/-- White space around a text is not there after trimming. -/
theorem trim_eq (h : IsPadded padded s) : trim padded = trim s := by
  obtain ⟨w, v, hw, hv, rfl⟩ := h
  rw [trim, trimStart_append hw]
  exact trim_append hv

/-- A padded text holds all characters of the text. -/
theorem subset (h : IsPadded padded s) : s ⊆ padded := by
  obtain ⟨w, v, -, -, rfl⟩ := h
  exact fun c hc => List.mem_append_right w (List.mem_append_left v hc)

/-- A padded text holds what is not white space only if the text does. -/
theorem mem (h : IsPadded padded s) (hc : isBlank c = false) (hmem : c ∈ padded) : c ∈ s := by
  obtain ⟨w, v, hw, hv, rfl⟩ := h
  rcases List.mem_append.mp hmem with hmem | hmem
  · exact absurd (hw c hmem) (by simp [hc])
  · rcases List.mem_append.mp hmem with hmem | hmem
    · exact hmem
    · exact absurd (hv c hmem) (by simp [hc])

/-- Where white space does not separate, the parts of a padded text are trimmed to those of the
text. -/
theorem map_trim_splitOn (h : IsPadded padded s) (hsep : isBlank sep = false) :
    (splitOn sep padded).map trim = (splitOn sep s).map trim := by
  obtain ⟨w, v, hw, hv, rfl⟩ := h
  rw [map_trim_splitOn_append_left hsep hw, map_trim_splitOn_append_right hsep hv]

end IsPadded

end Text

end Frontmatter
