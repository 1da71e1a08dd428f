import Frontmatter.Text.Basic

/-! # Reading joined lines back

Splitting a text at a character and joining its parts are inverse to each other as long as no part
holds the character. The same holds of the lines of a document: lines that hold no line feed and do
not end in a carriage return are read back from the text that they are written as. -/

namespace Frontmatter

namespace Text

/-! ## Splitting and joining -/

/-- Splitting is the splitting of lists. -/
theorem splitOn_eq (sep : Char) (s : Text) : splitOn sep s = List.splitOn sep s := by
  induction s with
  | nil => rfl
  | cons c rest ih =>
      rw [splitOn, List.splitOn_cons_eq_if_modifyHead, ih]
      by_cases h : c = sep
      · simp [h]
      · cases hs : List.splitOn sep rest with
        | nil => exact absurd hs (List.splitOn_ne_nil sep rest)
        | cons part parts => simp [h]

/-- Joining is the interleaving of lists with a separator. -/
theorem join_eq_intercalate (sep : Text) (parts : List Text) :
    join sep parts = List.intercalate sep parts := by
  induction parts with
  | nil => rfl
  | cons part parts ih =>
      cases parts with
      | nil => simp [join]
      | cons next others => rw [join_cons_of_ne_nil _ _ (by simp), ih,
          List.intercalate_cons_cons]

/-- Parts without the separator are read back from the text they are joined to. -/
theorem splitOn_join {sep : Char} {parts : List Text} (hne : parts ≠ [])
    (hsep : ∀ part ∈ parts, sep ∉ part) : splitOn sep (join [sep] parts) = parts := by
  rw [splitOn_eq, join_eq_intercalate]
  exact List.splitOn_intercalate sep hsep hne

/-- No part holds the separator. -/
theorem not_mem_of_mem_splitOn {sep : Char} {s part : Text} (h : part ∈ splitOn sep s) :
    sep ∉ part := by
  induction s generalizing part with
  | nil =>
      rw [splitOn, List.mem_singleton] at h
      simp [h]
  | cons c rest ih =>
      rw [splitOn] at h
      split at h
      · -- The separator ends an empty part.
        rcases List.mem_cons.mp h with rfl | h
        · simp
        · exact ih h
      · -- Any other character goes to the front of the first part.
        rename_i hc
        cases hs : splitOn sep rest with
        | nil => exact absurd hs (splitOn_ne_nil sep rest)
        | cons first parts =>
            rw [hs] at h ih
            rcases List.mem_cons.mp h with rfl | h
            · rw [List.mem_cons]
              rintro (rfl | hmem)
              · exact hc rfl
              · exact ih (by simp) hmem
            · exact ih (by simp [h])

/-- Joining with one more part at the end puts the separator before it. -/
theorem join_concat (sep part : Text) {parts : List Text} (h : parts ≠ []) :
    join sep (parts ++ [part]) = join sep parts ++ sep ++ part := by
  induction parts with
  | nil => exact absurd rfl h
  | cons first parts ih =>
      cases parts with
      | nil => rfl
      | cons next others =>
          rw [List.cons_append, join_cons_of_ne_nil _ _ (by simp), ih (by simp),
            join_cons_of_ne_nil sep first (List.cons_ne_nil next others)]
          simp only [List.append_assoc]

/-- Two runs of parts are joined by putting the separator between their joins. -/
theorem join_append (sep : Text) {xs ys : List Text} (hx : xs ≠ []) (hy : ys ≠ []) :
    join sep (xs ++ ys) = join sep xs ++ sep ++ join sep ys := by
  induction xs with
  | nil => exact absurd rfl hx
  | cons x xs ih =>
      by_cases hnil : xs = []
      · rw [hnil, List.singleton_append, join_cons_of_ne_nil _ _ hy]
        rfl
      · have hne : xs ++ ys ≠ [] := List.append_ne_nil_of_left_ne_nil hnil ys
        rw [List.cons_append, join_cons_of_ne_nil _ _ hne, ih hnil, join_cons_of_ne_nil _ _ hnil]
        simp only [List.append_assoc]

/-- A join is cut inside one of its parts. -/
theorem join_cut (sep : Text) (before after : List Text) (u v : Text) :
    join sep (before ++ (u ++ v) :: after) = join sep (before ++ [u]) ++ join sep (v :: after) := by
  induction before with
  | nil =>
      by_cases hnil : after = []
      · rw [hnil]
        rfl
      · rw [List.nil_append, List.nil_append, join_cons_of_ne_nil _ _ hnil,
          join_cons_of_ne_nil _ _ hnil, List.append_assoc, List.append_assoc, List.append_assoc]
        rfl
  | cons part before ih =>
      rw [List.cons_append, List.cons_append, join_cons_of_ne_nil _ _ (by simp),
        join_cons_of_ne_nil _ _ (by simp), ih]
      simp only [List.append_assoc]

/-- A text inside one of the parts of a join stands between the two sides of the part. -/
theorem join_splice (sep : Text) (before after : List Text) (u s v : Text) :
    join sep (before ++ (u ++ s ++ v) :: after)
      = join sep (before ++ [u]) ++ s ++ join sep (v :: after) := by
  rw [join_cut, join_cut]
  rfl

/-- A part of a join may be split itself. -/
theorem join_splitOn_between (sep : Char) (before after : List Text) (s : Text) :
    join [sep] (before ++ splitOn sep s ++ after) = join [sep] (before ++ s :: after) := by
  induction before with
  | nil =>
      by_cases hnil : after = []
      · rw [hnil, List.append_nil, List.nil_append, join_splitOn]
        rfl
      · rw [List.nil_append, List.nil_append, join_append _ (splitOn_ne_nil sep s) hnil,
          join_splitOn, join_cons_of_ne_nil _ _ hnil]
  | cons part before ih =>
      have hne : splitOn sep s ≠ [] := splitOn_ne_nil sep s
      rw [List.cons_append, List.cons_append, List.cons_append,
        join_cons_of_ne_nil _ _ (by simp [hne]), join_cons_of_ne_nil _ _ (by simp), ih]

/-! ## Lines -/

/-- A line that does not end in a carriage return stays as it is. -/
theorem dropReturn_of_getLast?_ne {line : Text} (h : line.getLast? ≠ some '\r') :
    dropReturn line = line :=
  if_neg h

/-- Lines that do not end in carriage returns stay as they are. -/
theorem map_dropReturn {ls : List Text} (h : ∀ l ∈ ls, l.getLast? ≠ some '\r') :
    ls.map dropReturn = ls := by
  rw [List.map_congr_left fun l hl => dropReturn_of_getLast?_ne (h l hl), List.map_id']

/-- Parts in front of others are lines behind line endings. -/
theorem closeLines_append (parts : List Text) {rest : List Text} (h : rest ≠ []) :
    closeLines (parts ++ rest) = parts.map dropReturn ++ closeLines rest := by
  induction parts with
  | nil => rfl
  | cons part parts ih =>
      have hne : parts ++ rest ≠ [] := List.append_ne_nil_of_right_ne_nil parts h
      rw [List.cons_append, closeLines, ih, List.map_cons, List.cons_append]
      exact hne

/-- All parts but the last are lines behind line endings, and the last is a line unless empty. -/
theorem closeLines_concat (parts : List Text) (last : Text) :
    closeLines (parts ++ [last]) = parts.map dropReturn ++ if last = [] then [] else [last] := by
  rw [closeLines_append parts (List.cons_ne_nil last []), closeLines]

/-- The lines of a text by its parts between line feeds. -/
theorem exists_lines_eq (s : Text) :
    ∃ parts last, s = join ['\n'] (parts ++ [last])
      ∧ (∀ part ∈ parts, '\n' ∉ part) ∧ '\n' ∉ last
      ∧ lines s = parts.map dropReturn ++ if last = [] then [] else [last] := by
  obtain ⟨parts, last, hsplit⟩ : ∃ parts last, splitOn '\n' s = parts ++ [last] :=
    ⟨_, _, (List.dropLast_concat_getLast (splitOn_ne_nil '\n' s)).symm⟩
  refine ⟨parts, last, ?_, ?_, ?_, ?_⟩
  · rw [← hsplit, join_splitOn]
  · intro part hpart
    exact not_mem_of_mem_splitOn (s := s) (by rw [hsplit]; simp [hpart])
  · exact not_mem_of_mem_splitOn (s := s) (by rw [hsplit]; simp)
  · rw [lines, hsplit, closeLines_concat]

/-- The characters of a part are among those of the join. -/
theorem subset_join {sep part : Text} {parts : List Text} (h : part ∈ parts) :
    part ⊆ join sep parts := by
  induction parts with
  | nil => exact absurd h List.not_mem_nil
  | cons first rest ih =>
      by_cases hnil : rest = []
      · rw [hnil, List.mem_singleton] at h
        rw [hnil, h]
        exact List.Subset.refl _
      · rw [join_cons_of_ne_nil _ _ hnil]
        rcases List.mem_cons.mp h with rfl | h
        · exact fun c hc => List.mem_append_left _ (List.mem_append_left _ hc)
        · exact fun c hc => List.mem_append_right _ (ih h hc)

/-- The characters of a line are among those of the text. -/
theorem subset_of_mem_lines {s line : Text} (h : line ∈ lines s) : line ⊆ s := by
  obtain ⟨parts, last, rfl, -, -, hlines⟩ := exists_lines_eq s
  rw [hlines, List.mem_append, List.mem_map] at h
  rcases h with ⟨part, hpart, rfl⟩ | h
  · refine List.Subset.trans ?_ (subset_join (List.mem_append_left _ hpart))
    -- At most a carriage return is missing from the part.
    rw [dropReturn]
    split
    · exact List.dropLast_subset part
    · exact List.Subset.refl part
  · apply subset_join
    split at h
    · simp at h
    · exact List.mem_append_right _ h

/-- No line holds a line feed. -/
theorem not_mem_of_mem_lines {s line : Text} (h : line ∈ lines s) : '\n' ∉ line := by
  obtain ⟨parts, last, -, hparts, hlast, hlines⟩ := exists_lines_eq s
  rw [hlines, List.mem_append, List.mem_map] at h
  rcases h with ⟨part, hpart, rfl⟩ | h
  · intro hmem
    rw [dropReturn] at hmem
    split at hmem
    · exact hparts part hpart (List.dropLast_subset part hmem)
    · exact hparts part hpart hmem
  · split at h
    · simp at h
    · rw [List.mem_singleton.mp h]
      exact hlast

/-- The last line of a text is not empty unless the text ends in a line feed. -/
theorem getLast?_lines_ne {s : Text} (h : s.getLast? ≠ some '\n') :
    (lines s).getLast? ≠ some [] := by
  obtain ⟨parts, last, hs, -, -, hlines⟩ := exists_lines_eq s
  rw [hlines]
  by_cases hlast : last = []
  · subst hlast
    cases parts with
    | nil => simp
    | cons part parts =>
        -- An empty last part is what stands behind a line feed.
        rw [join_concat _ _ (by simp)] at hs
        exact absurd (by simp [hs]) h
  · simp [hlast, List.getLast?_append]

/-- Lines that are ended by line feeds are read back. -/
theorem lines_join_concat {ls : List Text} (hne : ls ≠ []) (hfeed : ∀ l ∈ ls, '\n' ∉ l)
    (hreturn : ∀ l ∈ ls, l.getLast? ≠ some '\r') : lines (join ['\n'] ls ++ ['\n']) = ls := by
  have hjoin : join ['\n'] ls ++ ['\n'] = join ['\n'] (ls ++ [[]]) := by
    rw [join_concat _ _ hne, List.append_nil]
  rw [hjoin, lines, splitOn_join (by simp) (by simpa [or_imp, forall_and] using hfeed),
    closeLines_concat, if_pos rfl, List.append_nil, map_dropReturn hreturn]

/-- Lines between line feeds are read back if the last one is not empty. -/
theorem lines_join {ls : List Text} (hlast : ls.getLast? ≠ some []) (hfeed : ∀ l ∈ ls, '\n' ∉ l)
    (hreturn : ∀ l ∈ ls, l.getLast? ≠ some '\r') : lines (join ['\n'] ls) = ls := by
  rcases List.eq_nil_or_concat ls with rfl | ⟨parts, last, rfl⟩
  · rfl
  · rw [List.concat_eq_append] at hlast hfeed hreturn ⊢
    have hne : last ≠ [] := by
      rintro rfl
      simp at hlast
    rw [lines, splitOn_join (by simp) hfeed, closeLines_concat, if_neg hne,
      map_dropReturn fun l hl => hreturn l (List.mem_append_left _ hl)]

/-- Lines are read back whatever stands on the lines behind them. -/
theorem exists_lines_join_append {ls : List Text} (hne : ls ≠ []) (hlast : ls.getLast? ≠ some [])
    (hfeed : ∀ l ∈ ls, '\n' ∉ l) (hreturn : ∀ l ∈ ls, l.getLast? ≠ some '\r')
    (after : List Text) : ∃ rest, lines (join ['\n'] (ls ++ after)) = ls ++ rest := by
  by_cases hafter : after = []
  · exact ⟨[], by rw [hafter, List.append_nil, lines_join hlast hfeed hreturn]⟩
  · -- The text behind the lines may hold line feeds of its own.
    have hparts : splitOn '\n' (join ['\n'] after) ≠ [] := splitOn_ne_nil _ _
    have hjoin : join ['\n'] (ls ++ after)
        = join ['\n'] (ls ++ splitOn '\n' (join ['\n'] after)) := by
      rw [join_append _ hne hafter, join_append _ hne hparts, join_splitOn]
    have hnone : ∀ part ∈ ls ++ splitOn '\n' (join ['\n'] after), '\n' ∉ part := by
      intro part hpart
      rcases List.mem_append.mp hpart with hpart | hpart
      · exact hfeed part hpart
      · exact not_mem_of_mem_splitOn hpart
    rw [hjoin, lines, splitOn_join (List.append_ne_nil_of_left_ne_nil hne _) hnone,
      closeLines_append ls hparts, map_dropReturn hreturn]
    exact ⟨_, rfl⟩

end Text

end Frontmatter
