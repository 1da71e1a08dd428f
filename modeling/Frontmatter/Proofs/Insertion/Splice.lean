import Frontmatter.Insertion
import Frontmatter.Proofs.Text.LineEnding

/-! # Edits as splices

A position in a document is reached by writing the text in front of it: `Position.behind` counts the
line feeds and the columns. An edit between two positions of a document is a splice of its text:
`applied?_eq_splice` says that what stands in front of the first position and behind the second one
is kept, and the edit's text comes between. Only the carriage returns of line endings are lost
outside the replaced text, so the splice is exact if and only if there are none. The document is
handled by the line parts `Around` a position, the lines with their line endings taken off. -/

namespace Frontmatter

namespace Position

/-- The position behind a text that starts at a position. -/
def behind (p : Position) : Text → Position
  | [] => p
  | c :: rest =>
    if c = '\n' then behind ⟨p.line + 1, 0⟩ rest else behind ⟨p.line, p.column + 1⟩ rest

/-- The start of a document. -/
def origin : Position := ⟨0, 0⟩

/-- Whether a position is on a line of a document, at its end at most. -/
def StandsIn (p : Position) (source : Text) : Prop :=
  ∃ line, (Text.lines source)[p.line]? = some line ∧ p.column ≤ line.length

/-- Whether a position comes no later than another one. -/
def Precedes (p q : Position) : Prop :=
  p.line < q.line ∨ p.line = q.line ∧ p.column ≤ q.column

variable {s x : Text} {parts : List Text}

/-- Text on one line moves the column. -/
theorem behind_of_not_mem (p : Position) (h : '\n' ∉ s) :
    p.behind s = ⟨p.line, p.column + s.length⟩ := by
  induction s generalizing p with
  | nil => rfl
  | cons c rest ih =>
      rw [List.mem_cons, not_or] at h
      rw [behind, if_neg (Ne.symm h.1), ih _ h.2, List.length_cons, Nat.add_right_comm,
        Nat.add_assoc]

/-- A line feed moves to the start of the next line. -/
theorem behind_append_feed (p : Position) (h : '\n' ∉ x) (s : Text) :
    p.behind (x ++ '\n' :: s) = behind ⟨p.line + 1, 0⟩ s := by
  induction x generalizing p with
  | nil => rw [List.nil_append, behind, if_pos rfl]
  | cons c rest ih =>
      rw [List.mem_cons, not_or] at h
      rw [List.cons_append, behind, if_neg (Ne.symm h.1), ih _ h.2]

/-- The position behind line parts is at the end of the last one. -/
theorem behind_join (n : Nat) (hparts : ∀ part ∈ parts, '\n' ∉ part) (hs : '\n' ∉ s) :
    behind ⟨n, 0⟩ (Text.join ['\n'] (parts ++ [s])) = ⟨n + parts.length, s.length⟩ := by
  induction parts generalizing n with
  | nil =>
      rw [List.nil_append, Text.join, behind_of_not_mem _ hs, Nat.zero_add]
      rfl
  | cons part parts ih =>
      obtain ⟨hpart, hparts⟩ := List.forall_mem_cons.mp hparts
      rw [List.cons_append, Text.join_cons_of_ne_nil _ _ (by simp), List.append_assoc,
        List.singleton_append, behind_append_feed _ hpart, ih _ hparts, List.length_cons,
        Nat.add_assoc, Nat.add_comm 1]

end Position

/-! ## The parts around a position -/

/-- The line part that a position of a document is on, and the parts in front of it and behind. -/
structure Around (source : Text) (p : Position) (before : List Text) (part : Text)
    (rest : List Text) : Prop where
  /-- They are the line parts of the document. -/
  split_eq : Text.splitOn '\n' source = before ++ part :: rest
  /-- The position is on the line of its part. -/
  length_eq : before.length = p.line
  /-- There is such a line. -/
  part_ne : rest = [] → part ≠ []
  /-- The line goes up to the column. -/
  column_le : p.column ≤ (Text.closePart part rest).length

/-- There are parts around a position of a document. -/
theorem Position.StandsIn.exists_around {p : Position} {source : Text} (h : p.StandsIn source) :
    ∃ before part rest, Around source p before part rest := by
  obtain ⟨line, hline, hcolumn⟩ := h
  rw [Text.lines] at hline
  -- There are no more lines than parts.
  have hlt : p.line < (Text.splitOn '\n' source).length :=
    Nat.lt_of_lt_of_le (List.getElem?_eq_some_iff.mp hline).1 (Text.length_closeLines_le _)
  obtain ⟨before, part, rest, hsplit, hlength⟩ :
      ∃ before part rest, Text.splitOn '\n' source = before ++ part :: rest
        ∧ before.length = p.line := by
    refine ⟨(Text.splitOn '\n' source).take p.line, (Text.splitOn '\n' source)[p.line],
      (Text.splitOn '\n' source).drop (p.line + 1), ?_, ?_⟩
    · rw [← List.drop_eq_getElem_cons hlt, List.take_append_drop]
    · rw [List.length_take, Nat.min_eq_left (Nat.le_of_lt hlt)]
  have hne : rest = [] → part ≠ [] := by
    rintro rfl rfl
    -- An empty last part is no line.
    rw [hsplit, Text.closeLines_concat, if_pos rfl, List.append_nil,
      List.getElem?_eq_none (by simp [hlength])] at hline
    exact absurd hline (by simp)
  rw [hsplit, Text.closeLines_split before rest hne,
    List.getElem?_append_right (by simp [hlength]), List.length_map, hlength, Nat.sub_self,
    List.getElem?_cons_zero, Option.some_inj] at hline
  exact ⟨before, part, rest, hsplit, hlength, hne, by rwa [hline]⟩

namespace Around

variable {source : Text} {p q : Position} {before before' : List Text} {part part' : Text}
  {rest rest' : List Text}

/-- No part holds a line feed. -/
theorem not_mem (h : Around source p before part rest) {x : Text}
    (hx : x ∈ before ++ part :: rest) : '\n' ∉ x :=
  Text.not_mem_of_mem_splitOn (s := source) (by rwa [h.split_eq])

/-- The lines of the document. -/
theorem lines_eq (h : Around source p before part rest) :
    Text.lines source
      = before.map Text.dropReturn ++ Text.closePart part rest :: Text.closeLines rest := by
  rw [Text.lines, h.split_eq, Text.closeLines_split before rest h.part_ne]

/-- The line of the position is one of the document. -/
theorem getElem?_eq (h : Around source p before part rest) :
    (Text.lines source)[p.line]? = some (Text.closePart part rest) := by
  rw [h.lines_eq, List.getElem?_append_right (by simp [h.length_eq]), List.length_map,
    h.length_eq, Nat.sub_self, List.getElem?_cons_zero]

/-- The column is one of the part. -/
theorem column_le_length (h : Around source p before part rest) : p.column ≤ part.length :=
  Nat.le_trans h.column_le (Text.closePart_prefix part rest).length_le

/-- The document is the text in front of the position and the text behind it. -/
theorem source_eq (h : Around source p before part rest) :
    source = Text.join ['\n'] (before ++ [part.take p.column])
      ++ Text.join ['\n'] (part.drop p.column :: rest) := by
  rw [← Text.join_cut, List.take_append_drop, ← h.split_eq, Text.join_splitOn]

/-- Writing the text in front of the position reaches it. -/
theorem behind_eq (h : Around source p before part rest) :
    Position.origin.behind (Text.join ['\n'] (before ++ [part.take p.column])) = p := by
  have hbefore : ∀ x ∈ before, '\n' ∉ x := fun x hx => h.not_mem (List.mem_append_left _ hx)
  have htake : '\n' ∉ part.take p.column := fun hmem =>
    h.not_mem (x := part) (by simp) (List.take_subset _ _ hmem)
  rw [Position.origin, Position.behind_join 0 hbefore htake, h.length_eq, Nat.zero_add,
    List.length_take, Nat.min_eq_left h.column_le_length]

/-- The text in front of the position without its carriage returns. -/
theorem dropReturns_before (h : Around source p before part rest) :
    Text.dropReturns (Text.join ['\n'] (before ++ [part.take p.column]))
      = Text.join ['\n']
          (before.map Text.dropReturn ++ [(Text.closePart part rest).take p.column]) := by
  rw [Text.dropReturns_join (by simp), Text.closeParts_append before (List.cons_ne_nil _ _),
    Text.take_closePart h.column_le]
  · rfl
  · intro x hx
    rcases List.mem_append.mp hx with hx | hx
    · exact h.not_mem (List.mem_append_left _ hx)
    · rw [List.mem_singleton.mp hx]
      exact fun hmem => h.not_mem (x := part) (by simp) (List.take_subset _ _ hmem)

/-- The text behind the position without its carriage returns. -/
theorem dropReturns_after (h : Around source p before part rest) :
    Text.dropReturns (Text.join ['\n'] (part.drop p.column :: rest))
      = Text.join ['\n']
          ((Text.closePart part rest).drop p.column :: Text.closeParts rest) := by
  rw [Text.dropReturns_join (by simp), Text.closeParts, Text.drop_closePart h.column_le]
  intro x hx
  rcases List.mem_cons.mp hx with rfl | hx
  · exact fun hmem => h.not_mem (x := part) (by simp) (List.drop_subset _ _ hmem)
  · exact h.not_mem (List.mem_append_right _ (List.mem_cons_of_mem _ hx))

/-- The text in front of a position starts with the text in front of an earlier one. -/
theorem exists_append_eq (hp : Around source p before part rest)
    (hq : Around source q before' part' rest') (h : p.Precedes q) :
    ∃ replaced, Text.join ['\n'] (before' ++ [part'.take q.column])
      = Text.join ['\n'] (before ++ [part.take p.column]) ++ replaced := by
  have hsplit : before ++ part :: rest = before' ++ part' :: rest' := by
    rw [← hp.split_eq, ← hq.split_eq]
  rcases h with hlt | ⟨hline, hcolumn⟩
  · -- The part of the earlier position is among those in front of the later one.
    have hlen : before.length < before'.length := by rwa [hp.length_eq, hq.length_eq]
    obtain ⟨between, hbefore⟩ : ∃ between, before' = before ++ part :: between := by
      rcases List.append_eq_append_iff.mp hsplit with ⟨extra, hbefore, hextra⟩ | ⟨extra, hbefore, -⟩
      · cases extra with
        | nil => exact absurd (congrArg List.length hbefore) (by simp; omega)
        | cons first between =>
            obtain ⟨rfl, -⟩ := List.cons.inj hextra
            exact ⟨between, hbefore⟩
      · exact absurd (congrArg List.length hbefore) (by simp; omega)
    refine ⟨Text.join ['\n'] (part.drop p.column :: (between ++ [part'.take q.column])), ?_⟩
    rw [← Text.join_cut, List.take_append_drop, hbefore, List.append_assoc, List.cons_append]
  · -- Both positions are on one part.
    obtain ⟨rfl, hparts⟩ := List.append_inj hsplit (by rw [hp.length_eq, hq.length_eq, hline])
    obtain ⟨rfl, rfl⟩ := List.cons.inj hparts
    have htake : (part.take q.column).take p.column = part.take p.column := by
      rw [List.take_take, Nat.min_eq_left hcolumn]
    have hcut := Text.join_cut ['\n'] before [] (part.take p.column)
      ((part.take q.column).drop p.column)
    rw [← htake, List.take_append_drop, htake] at hcut
    exact ⟨_, hcut⟩

end Around

/-! ## The edit -/

namespace Insertion

/-- An edit writes the text in front of its start and behind its end without carriage returns. -/
theorem applied?_eq_of_around {i : Insertion} {source : Text} {parts parts' : List Text}
    {part part' : Text} {rest rest' : List Text} (hp : Around source i.start parts part rest)
    (hq : Around source i.stop parts' part' rest') (hle : i.start.Precedes i.stop) :
    i.applied? source = some
      (Text.dropReturns (Text.join ['\n'] (parts ++ [part.take i.start.column])) ++ i.text
        ++ Text.dropReturns (Text.join ['\n'] (part'.drop i.stop.column :: rest'))) := by
  have htake : (Text.lines source).take i.start.line = parts.map Text.dropReturn := by
    rw [hp.lines_eq, List.take_left' (by rw [List.length_map, hp.length_eq])]
  have hdrop : (Text.lines source).drop (i.stop.line + 1) = Text.closeLines rest' := by
    rw [hq.lines_eq, List.append_cons, List.drop_left' (by simp [hq.length_eq])]
  have hnotlt : ¬ i.stop.line + 1 < i.start.line := by
    rcases hle with hlt | ⟨heq, -⟩ <;> omega
  -- The edit ends on a line of the document, so none is added.
  have hpadded : padded (Text.lines source) i.stop.line = Text.lines source := by
    rw [padded, Nat.sub_eq_zero_of_le (List.getElem?_eq_some_iff.mp hq.getElem?_eq).1,
      List.replicate_zero, List.append_nil]
  rw [applied?, hpadded, hp.getElem?_eq, hq.getElem?_eq, Option.bind_some, Option.bind_some,
    if_neg hnotlt, newLines, htake, hdrop, Text.join_splitOn_between, List.append_cons]
  simp only
  -- Joining the lines behind the edit and ending them like the document gives the parts there.
  rw [Text.rejoin_closeLines hq.split_eq hq.part_ne (by simp), ← List.append_cons,
    Text.join_splice, hp.dropReturns_before, hq.dropReturns_after]

/-- **An edit is a splice up to carriage returns.** What stands in front of the start of an edit and
behind its end is kept, and the edit's text comes between. Only the carriage returns of line endings
are lost there, so nothing changes outside the replaced text if and only if there are none. -/
theorem applied?_eq_splice (i : Insertion) {source : Text} (hstart : i.start.StandsIn source)
    (hstop : i.stop.StandsIn source) (hle : i.start.Precedes i.stop) :
    ∃ before replaced after, source = before ++ replaced ++ after
      ∧ Position.origin.behind before = i.start
      ∧ Position.origin.behind (before ++ replaced) = i.stop
      ∧ i.applied? source = some (Text.dropReturns before ++ i.text ++ Text.dropReturns after)
      ∧ (i.applied? source = some (before ++ i.text ++ after)
          ↔ ¬ Text.returnFeed <:+: before ∧ ¬ Text.returnFeed <:+: after) := by
  obtain ⟨parts, part, rest, hp⟩ := hstart.exists_around
  obtain ⟨parts', part', rest', hq⟩ := hstop.exists_around
  -- The text between the positions is what the later one has in front of it beyond the earlier.
  obtain ⟨replaced, hreplaced⟩ := hp.exists_append_eq hq hle
  have hbehind := hq.behind_eq
  have hsource := hq.source_eq
  rw [hreplaced] at hbehind hsource
  have happlied := applied?_eq_of_around hp hq hle
  refine ⟨_, replaced, _, hsource, hp.behind_eq, hbehind, happlied, ?_⟩
  rw [happlied, Option.some_inj, Text.dropReturns_append_eq_iff]

/-- An edit across two lines, of which the first one ends in a carriage return and a line feed. -/
def linesEdit : Insertion :=
  { start := ⟨1, 2⟩, stop := ⟨2, 2⟩, text := " 1\nc".toList, cursor := ⟨2, 1⟩, keys := [] }

/-- The edit replaces the line ending between the two lines by a line feed. -/
theorem applied?_linesEdit_eq_splice :
    linesEdit.applied? "---\na:\r\nbd: 2\n---".toList = some "---\na: 1\nc: 2\n---".toList
    ∧ ∃ before replaced after, "---\na:\r\nbd: 2\n---".toList = before ++ replaced ++ after
      ∧ Position.origin.behind before = ⟨1, 2⟩
      ∧ Position.origin.behind (before ++ replaced) = ⟨2, 2⟩
      ∧ linesEdit.applied? "---\na:\r\nbd: 2\n---".toList
          = some (Text.dropReturns before ++ " 1\nc".toList ++ Text.dropReturns after)
      ∧ (linesEdit.applied? "---\na:\r\nbd: 2\n---".toList
            = some (before ++ " 1\nc".toList ++ after)
          ↔ ¬ Text.returnFeed <:+: before ∧ ¬ Text.returnFeed <:+: after) :=
  ⟨rfl, applied?_eq_splice linesEdit ⟨_, rfl, by decide⟩ ⟨_, rfl, by decide⟩ (.inl (by decide))⟩

/-- A key inserted behind the field of the second line. -/
def keyEdit : Insertion :=
  { start := ⟨1, 2⟩, stop := ⟨1, 2⟩, text := "\n  k: ".toList, cursor := ⟨2, 5⟩
    keys := ["k".toList] }

/-- Inserting a key changes the line endings in front of it and behind it. -/
theorem applied?_keyEdit_ne_splice :
    ∃ before after, "---\r\na:\r\n---\r\n".toList = before ++ after
      ∧ Position.origin.behind before = keyEdit.start
      ∧ keyEdit.start.StandsIn (before ++ after) ∧ keyEdit.stop = keyEdit.start
      ∧ keyEdit.applied? (before ++ after) = some "---\na:\n  k: \n---\n".toList
      ∧ keyEdit.applied? (before ++ after) ≠ some (before ++ keyEdit.text ++ after) :=
  ⟨"---\r\na:".toList, "\r\n---\r\n".toList, rfl, by decide, ⟨_, rfl, by decide⟩, rfl,
    by decide, by decide⟩

end Insertion

end Frontmatter
