import Frontmatter.Proofs.Text.Lines

/-! # Line endings

A line may end in a line feed, or in a carriage return and a line feed. Reading the lines of a text
and writing them again leaves line feeds only: `dropReturns` drops the carriage returns of the line
endings and nothing else, and `dropReturns_eq_self_iff` says in which texts there are none. By
`rejoin_closeLines` it is what becomes of the text behind a line that is written again. -/

namespace Frontmatter

namespace Text

variable {s x y : Text} {parts before rest : List Text}

/-- A carriage return and a line feed. -/
def returnFeed : Text := ['\r', '\n']

/-- A text without the carriage returns of its line endings. -/
def dropReturns : Text → Text
  | [] => []
  | c :: rest =>
    if c = '\r' ∧ rest.head? = some '\n' then dropReturns rest else c :: dropReturns rest

/-- A line part in front of others without the carriage return of its line ending. The last part
has no line ending. -/
def closePart (part : Text) (rest : List Text) : Text :=
  if rest = [] then part else dropReturn part

/-- Line parts without the carriage returns of their line endings. -/
def closeParts : List Text → List Text
  | [] => []
  | part :: rest => closePart part rest :: closeParts rest

/-! ## Carriage returns -/

/-- Any character but a carriage return in front of a line feed is kept. -/
theorem dropReturns_cons_of_ne {c : Char} (h : ¬ (c = '\r' ∧ s.head? = some '\n')) :
    dropReturns (c :: s) = c :: dropReturns s := by
  rw [dropReturns, if_neg h]

/-- Dropping carriage returns makes no text longer. -/
theorem length_dropReturns_le (s : Text) : (dropReturns s).length ≤ s.length := by
  induction s with
  | nil => exact Nat.le_refl _
  | cons c rest ih =>
      rw [dropReturns]
      split
      · exact Nat.le_succ_of_le ih
      · exact Nat.succ_le_succ ih

/-- A text stays as it is if and only if none of its line endings has a carriage return. -/
theorem dropReturns_eq_self_iff : dropReturns s = s ↔ ¬ returnFeed <:+: s := by
  induction s with
  | nil => simp [dropReturns, returnFeed]
  | cons c rest ih =>
      rw [List.infix_cons_iff, not_or, ← ih]
      by_cases h : c = '\r' ∧ rest.head? = some '\n'
      · -- One character is missing.
        have hlt : (dropReturns rest).length < (c :: rest).length :=
          Nat.lt_succ_of_le (length_dropReturns_le rest)
        have hstart : returnFeed <+: c :: rest := by
          obtain ⟨rfl, hhead⟩ := h
          cases rest with
          | nil => exact absurd hhead (by simp)
          | cons d rest =>
              obtain rfl : d = '\n' := Option.some.inj hhead
              exact ⟨rest, rfl⟩
        rw [dropReturns, if_pos h]
        constructor
        · intro heq
          rw [heq] at hlt
          exact absurd hlt (Nat.lt_irrefl _)
        · exact fun hnot => absurd hstart hnot.1
      · have hstart : ¬ returnFeed <+: c :: rest := by
          rintro ⟨after, heq⟩
          obtain ⟨rfl, rfl⟩ := List.cons.inj heq
          exact h ⟨rfl, rfl⟩
        rw [dropReturns_cons_of_ne h, List.cons_inj_right]
        exact (and_iff_right hstart).symm

/-- The carriage return in front of a line feed is dropped, as it is from the line. -/
theorem dropReturns_append_feed (h : '\n' ∉ x) :
    dropReturns (x ++ '\n' :: y) = dropReturn x ++ '\n' :: dropReturns y := by
  induction x with
  | nil => exact dropReturns_cons_of_ne (by simp)
  | cons c x ih =>
      rw [List.mem_cons, not_or] at h
      cases x with
      | nil =>
          by_cases hc : c = '\r'
          · subst hc
            have hy : dropReturns ('\n' :: y) = '\n' :: dropReturns y :=
              dropReturns_cons_of_ne (by simp)
            rw [List.singleton_append, dropReturns, if_pos ⟨rfl, rfl⟩, hy]
            rfl
          · have hkeep : dropReturn [c] = [c] := dropReturn_of_getLast?_ne (by simp [hc])
            rw [List.cons_append, dropReturns_cons_of_ne fun hand => hc hand.1, ih h.2, hkeep]
            rfl
      | cons d x =>
          -- The last character of the line is the same without the first one.
          have hd : ¬ (c = '\r' ∧ (d :: x ++ '\n' :: y).head? = some '\n') := by
            rintro ⟨-, hhead⟩
            obtain rfl : d = '\n' := Option.some.inj hhead
            exact h.2 List.mem_cons_self
          rw [List.cons_append, dropReturns_cons_of_ne hd, ih h.2, dropReturn, dropReturn,
            List.getLast?_cons_cons]
          split <;> rfl

/-- A splice keeps its ends up to carriage returns, and as they are if no line ending has one. -/
theorem dropReturns_append_eq_iff {before text after : Text} :
    dropReturns before ++ text ++ dropReturns after = before ++ text ++ after
      ↔ ¬ returnFeed <:+: before ∧ ¬ returnFeed <:+: after := by
  rw [← dropReturns_eq_self_iff, ← dropReturns_eq_self_iff]
  constructor
  · intro h
    -- Neither end can be shorter, so neither is.
    have hbefore := length_dropReturns_le before
    have hafter := length_dropReturns_le after
    have hlen := congrArg List.length h
    simp only [List.length_append] at hlen
    rw [List.append_assoc, List.append_assoc] at h
    obtain ⟨heq, hrest⟩ := List.append_inj h (by omega)
    exact ⟨heq, List.append_cancel_left hrest⟩
  · rintro ⟨hbefore, hafter⟩
    rw [hbefore, hafter]

/-! ## Line parts -/

/-- Closing line parts makes no more lines than there are parts. -/
theorem length_closeLines_le (parts : List Text) : (closeLines parts).length ≤ parts.length := by
  rcases List.eq_nil_or_concat parts with rfl | ⟨parts, last, rfl⟩
  · exact Nat.le_refl _
  · rw [List.concat_eq_append, closeLines_concat, List.length_append, List.length_append,
      List.length_map]
    split
    · exact Nat.le_succ _
    · exact Nat.le_refl _

/-- A line is what its part starts with. -/
theorem closePart_prefix (part : Text) (rest : List Text) : closePart part rest <+: part := by
  rw [closePart, dropReturn]
  split
  · exact List.prefix_refl part
  · split
    · exact List.dropLast_prefix part
    · exact List.prefix_refl part

/-- In front of a column of a line stands what stands there in its part. -/
theorem take_closePart {part : Text} {column : Nat} (h : column ≤ (closePart part rest).length) :
    (closePart part rest).take column = part.take column := by
  obtain ⟨ending, hpart⟩ := closePart_prefix part rest
  have htake : (closePart part rest ++ ending).take column = (closePart part rest).take column :=
    List.take_append_of_le_length h
  rw [hpart] at htake
  exact htake.symm

/-- Behind a column of a line stands what stands there in its part, up to the line ending. -/
theorem drop_closePart {part : Text} {column : Nat} (h : column ≤ (closePart part rest).length) :
    (closePart part rest).drop column = closePart (part.drop column) rest := by
  rw [closePart] at h
  rw [closePart, closePart]
  split at h
  · rw [if_pos ‹_›, if_pos ‹_›]
  · rw [if_neg ‹_›, if_neg ‹_›]
    by_cases hreturn : part.getLast? = some '\r'
    · -- The column is in front of the carriage return.
      obtain ⟨line, rfl⟩ := List.getLast?_eq_some_iff.mp hreturn
      have hline : dropReturn (line ++ ['\r']) = line := by
        rw [dropReturn, if_pos (by simp), List.dropLast_concat]
      rw [hline] at h ⊢
      rw [List.drop_append_of_le_length h, dropReturn, if_pos (by simp), List.dropLast_concat]
    · have hdrop : (part.drop column).getLast? ≠ some '\r' := by
        rw [List.getLast?_drop]
        split
        · simp
        · exact hreturn
      rw [dropReturn_of_getLast?_ne hreturn, dropReturn_of_getLast?_ne hdrop]

/-- Parts in front of others are ended by line feeds. -/
theorem closeParts_append (parts : List Text) (h : rest ≠ []) :
    closeParts (parts ++ rest) = parts.map dropReturn ++ closeParts rest := by
  induction parts with
  | nil => rfl
  | cons part parts ih =>
      rw [List.cons_append, closeParts, closePart, if_neg (by simp [h]), ih, List.map_cons,
        List.cons_append]

/-- The carriage returns of a text are those of its line parts. -/
theorem dropReturns_join (hne : parts ≠ []) (hfeed : ∀ part ∈ parts, '\n' ∉ part) :
    dropReturns (join ['\n'] parts) = join ['\n'] (closeParts parts) := by
  induction parts with
  | nil => exact absurd rfl hne
  | cons part parts ih =>
      obtain ⟨hpart, hparts⟩ := List.forall_mem_cons.mp hfeed
      rw [closeParts, closePart]
      by_cases hnil : parts = []
      · -- The last part holds no line feed.
        rw [hnil, if_pos rfl]
        refine dropReturns_eq_self_iff.mpr fun hin => hpart (hin.subset ?_)
        simp [returnFeed]
      · have hclose : closeParts parts ≠ [] := by
          cases parts with
          | nil => exact absurd rfl hnil
          | cons _ _ => exact List.cons_ne_nil _ _
        rw [if_neg hnil, join_cons_of_ne_nil _ _ hnil, join_cons_of_ne_nil _ _ hclose,
          List.append_assoc, List.singleton_append, dropReturns_append_feed hpart, ih hnil hparts,
          List.append_assoc, List.singleton_append]

/-- The line of a part, and the lines and parts around it, unless it is the empty last part. -/
theorem closeLines_split (parts rest : List Text) {part : Text} (h : rest = [] → part ≠ []) :
    closeLines (parts ++ part :: rest)
      = parts.map dropReturn ++ closePart part rest :: closeLines rest := by
  rw [closeLines_append parts (List.cons_ne_nil part rest), closePart]
  cases rest with
  | nil => simp [closeLines, h rfl]
  | cons next rest =>
      rw [closeLines, if_neg (List.cons_ne_nil next rest)]
      exact List.cons_ne_nil next rest

/-- A text ends in a line feed if and only if its last part is empty, and is not the only one. -/
theorem getLast?_eq_lineFeed_iff {last : Text} (hsplit : splitOn '\n' s = parts ++ [last]) :
    s.getLast? = some '\n' ↔ parts ≠ [] ∧ last = [] := by
  have hlast : '\n' ∉ last := not_mem_of_mem_splitOn (s := s) (by rw [hsplit]; simp)
  have hs : s = join ['\n'] (parts ++ [last]) := by rw [← hsplit, join_splitOn]
  -- If the text ends in a line feed, then that is the one in front of the last part.
  have hne : last.getLast? ≠ some '\n' := fun h => hlast (List.mem_of_getLast? h)
  by_cases hnil : parts = []
  · rw [hs, hnil]
    exact iff_of_false hne fun h => h.1 rfl
  · rw [hs, join_concat _ _ hnil, List.getLast?_append, List.getLast?_append]
    cases hget : last.getLast? with
    | none => simp [hnil, List.getLast?_eq_none_iff.mp hget]
    | some c =>
        rw [hget] at hne
        have hsome : last ≠ [] := fun hnil => by simp [hnil] at hget
        simpa [hsome] using hne

/-- Lines behind others, written with a line feed at the end if the text had one, are its line parts
without carriage returns. -/
theorem rejoin_closeLines {source part : Text}
    (hsplit : splitOn '\n' source = parts ++ part :: rest) (h : rest = [] → part ≠ [])
    (hne : before ≠ []) :
    (if source.getLast? = some '\n' then join ['\n'] (before ++ closeLines rest) ++ ['\n']
      else join ['\n'] (before ++ closeLines rest)) = join ['\n'] (before ++ closeParts rest) := by
  rcases List.eq_nil_or_concat rest with rfl | ⟨middle, last, rfl⟩
  · -- The part is the last one, and not empty.
    have hend := getLast?_eq_lineFeed_iff hsplit
    rw [if_neg fun hfeed => h rfl (hend.mp hfeed).2]
    rfl
  · rw [List.concat_eq_append] at hsplit ⊢
    rw [← List.cons_append, ← List.append_assoc] at hsplit
    have hend := getLast?_eq_lineFeed_iff hsplit
    rw [closeLines_concat, closeParts_append middle (List.cons_ne_nil last []), closeParts,
      closePart, if_pos rfl, closeParts]
    by_cases hlast : last = []
    · -- The line feed at the end is the one in front of the empty last part.
      rw [if_pos (hend.mpr ⟨by simp, hlast⟩), if_pos hlast, hlast, List.append_nil,
        ← List.append_assoc, join_concat _ _ (List.append_ne_nil_of_left_ne_nil hne _),
        List.append_nil]
    · rw [if_neg fun hfeed => hlast (hend.mp hfeed).2, if_neg hlast]

end Text

end Frontmatter
