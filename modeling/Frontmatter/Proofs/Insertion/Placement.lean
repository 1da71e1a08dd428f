import Frontmatter.Insertion
import Frontmatter.Proofs.Block.Resolution

/-! # Where inserted keys stand

Keys are inserted below a field and in the place of a placeholder, at `Context.insertionLine`. The
edit writes one line for each key, `Insertion.keyLine`, and leaves the other lines as they are:
`exists_applied?_of_ofKeys?` says that it can be carried out, and that the document has the
`insertedLines` afterwards. -/

namespace Frontmatter

namespace Text

/-- A line with line feeds and lines behind it is a join. -/
theorem append_flatten_eq_join (first : Text) (others : List Text) :
    first ++ (others.map ('\n' :: ·)).flatten = join ['\n'] (first :: others) := by
  induction others generalizing first with
  | nil => simp [join]
  | cons next others ih =>
      rw [List.map_cons, List.flatten_cons, List.cons_append, ih next,
        join_cons_of_ne_nil _ first (List.cons_ne_nil next others), List.append_assoc]
      rfl

/-- The lines that an edit leaves are read back from the text that it writes. -/
theorem lines_rejoin (source : Text) {ls : List Text} (hne : ls ≠ [])
    (hlast : ls.getLast? = (lines source).getLast?) (hfeed : ∀ l ∈ ls, '\n' ∉ l)
    (hreturn : ∀ l ∈ ls, l.getLast? ≠ some '\r') :
    lines (if source.getLast? = some '\n' then join ['\n'] ls ++ ['\n'] else join ['\n'] ls)
      = ls := by
  by_cases hend : source.getLast? = some '\n'
  · rw [if_pos hend, lines_join_concat hne hfeed hreturn]
  · rw [if_neg hend]
    apply lines_join _ hfeed hreturn
    rw [hlast]
    exact getLast?_lines_ne hend

end Text

/-! ## The line of a key -/

namespace Insertion

variable {delimiter key : Text} {width : Nat}

/-- The line of a key ends in a space. -/
theorem getLast?_keyLine (width : Nat) (key : Text) : (keyLine width key).getLast? = some ' ' := by
  simp [keyLine, keyText, List.getLast?_append]

/-- The line of a key holds no line feed if the key holds none. -/
theorem lineFeed_not_mem_keyLine (h : '\n' ∉ key) : '\n' ∉ keyLine width key := by
  simp [keyLine, keyText, h]

/-- The length of the line of a key. -/
theorem length_keyLine (width : Nat) (key : Text) :
    (keyLine width key).length = width + key.length + 2 := by
  simp [keyLine, keyText, Nat.add_assoc]

/-- The line of a key is read back. -/
theorem parse?_keyLine (h : IsKey key) :
    FieldLine.parse? (keyLine width key) = some ⟨width, key, [], width + key.length + 2⟩ := by
  obtain ⟨hne, hcolon, -, htrim⟩ := h
  have hline : keyLine width key = List.replicate width ' ' ++ key ++ ':' :: ([' '] ++ []) := by
    rw [keyLine, keyText, List.append_assoc]
    rfl
  rw [hline, FieldLine.parse?_written (fun _ => Text.isBlank_of_mem_replicate) hne hcolon htrim
    (List.forall_mem_singleton.mpr Text.isBlank_space) rfl (by simp), List.length_replicate]
  rfl

/-- The line of a key is a delimiter only if the delimiter is the key with a colon. -/
theorem isDelimiter_keyLine (h : IsKey key) (hdelimiter : key ++ [':'] ≠ delimiter) :
    BlockSpan.isDelimiter delimiter (keyLine width key) = false := by
  obtain ⟨hne, -, -, htrim⟩ := h
  have htight : Text.trim (key ++ [':']) = key ++ [':'] := by
    rw [Text.trim_eq_self_iff, Text.trimStart_eq_self_iff, Text.trimEnd_eq_self_iff] at htrim ⊢
    refine ⟨?_, ?_⟩
    · cases key with
      | nil => exact absurd rfl hne
      | cons c rest => exact htrim.1
    · intro c hc
      rw [List.getLast?_concat] at hc
      rw [← Option.some.inj hc]
      decide
  have hline : keyLine width key = List.replicate width ' ' ++ (key ++ [':'] ++ [' ']) := by
    rw [keyLine, keyText, List.append_assoc]
    rfl
  rw [BlockSpan.isDelimiter, hline, Text.trim_append_append (fun _ => Text.isBlank_of_mem_replicate)
    (List.forall_mem_singleton.mpr Text.isBlank_space) (by simp) htight]
  exact decide_eq_false hdelimiter

end Insertion

/-! ## The document after an insertion -/

/-- The line at which keys are inserted: the one below a field, and a placeholder's own. -/
def Context.insertionLine (c : Context) : Nat :=
  match c.kind with
  | .field => c.line + 1
  | .placeholder => c.line

/-- The lines of a document in which keys are inserted at a context. -/
def Insertion.insertedLines (c : Context) (keys lines : List Text) : List Text :=
  lines.take c.insertionLine ++ keys.map (keyLine (c.indent + 2)) ++ lines.drop (c.line + 1)

namespace Insertion

variable {b : Block} {n column : Nat} {text : Text} {c : Context} {keys lines : List Text}
  {i : Insertion}

/-- A line of the document afterwards is one that was there or the line of a key. -/
theorem mem_insertedLines {l : Text} (h : l ∈ insertedLines c keys lines) :
    l ∈ lines ∨ ∃ k ∈ keys, keyLine (c.indent + 2) k = l := by
  rw [insertedLines, List.mem_append, List.mem_append, List.mem_map] at h
  rcases h with (h | h) | h
  · exact .inl (List.mem_of_mem_take h)
  · exact .inr h
  · exact .inl (List.mem_of_mem_drop h)

/-- The new lines of the edit that inserts keys at a context. -/
theorem newLines_of_ofKeys? (hi : ofKeys? c keys true = some i) (hkeys : ∀ k ∈ keys, '\n' ∉ k)
    (hline : lines[c.line]? = some text) (hlength : c.lineLength = text.length)
    (htext : '\n' ∉ text) :
    i.start.line = c.line ∧ i.stop.line = c.line
      ∧ i.newLines lines text text = insertedLines c keys lines := by
  obtain ⟨last, hlast, rfl⟩ := Option.map_eq_some_iff.mp hi
  have hne : keys ≠ [] := by
    rintro rfl
    exact absurd hlast (by simp)
  have hlines : ∀ l ∈ keys.map (keyLine (width c true)), '\n' ∉ l := by
    intro l hl
    obtain ⟨k, hk, rfl⟩ := List.mem_map.mp hl
    exact lineFeed_not_mem_keyLine (hkeys k hk)
  rw [insertedLines, Context.insertionLine]
  cases hkind : c.kind with
  | field =>
      -- The replaced text is the whole line with the keys behind it.
      refine ⟨rfl, rfl, ?_⟩
      have htake : text.take c.lineLength = text := by rw [hlength, List.take_length]
      have hdrop : text.drop c.lineLength = [] := by rw [hlength, List.drop_length]
      simp only [newLines, htake, hdrop, List.append_nil]
      rw [Text.append_flatten_eq_join, Text.splitOn_join (List.cons_ne_nil _ _), List.take_add_one,
        hline]
      · simp [width, indentStep]
      · intro l hl
        rcases List.mem_cons.mp hl with rfl | hl
        · exact htext
        · exact hlines l hl
  | placeholder =>
      -- Nothing is left of the line.
      refine ⟨rfl, rfl, ?_⟩
      have hdrop : text.drop c.lineLength = [] := by rw [hlength, List.drop_length]
      simp only [newLines, hdrop, List.take_zero, List.nil_append, List.append_nil]
      rw [Text.splitOn_join (by simpa using hne) hlines]
      rfl

/-- The edit that inserts keys at the context of a line can be carried out. The document has the new
lines afterwards. -/
theorem exists_applied?_of_ofKeys? {source : Text} (hi : ofKeys? c keys true = some i)
    (hkeys : ∀ k ∈ keys, '\n' ∉ k) (hline : (Text.lines source)[c.line]? = some text)
    (hlength : c.lineLength = text.length)
    (hreturn : ∀ l ∈ Text.lines source, l.getLast? ≠ some '\r')
    (hlast : c.line + 1 < (Text.lines source).length) :
    ∃ new, i.applied? source = some new
      ∧ Text.lines new = insertedLines c keys (Text.lines source) := by
  have htext : '\n' ∉ text := Text.not_mem_of_mem_lines (List.mem_of_getElem? hline)
  obtain ⟨hstart, hstop, hnew⟩ := newLines_of_ofKeys? hi hkeys hline hlength htext
  -- The line of the cursor is there, so no lines are added.
  have hpadded : padded (Text.lines source) i.stop.line = Text.lines source := by
    rw [padded, hstop, Nat.sub_eq_zero_of_le (Nat.le_of_lt hlast), List.replicate_zero,
      List.append_nil]
  refine ⟨_, ?_, Text.lines_rejoin source ?_ ?_ ?_ ?_⟩
  · rw [applied?, hpadded, hstart, hstop, hline, Option.bind_some, Option.bind_some,
      if_neg (by omega), hnew]
  · intro hnil
    have hdrop := (List.append_eq_nil_iff.mp hnil).2
    rw [List.drop_eq_nil_iff] at hdrop
    exact absurd hlast (Nat.not_lt.mpr hdrop)
  · rw [insertedLines, List.getLast?_append, List.getLast?_drop, if_neg (Nat.not_le.mpr hlast)]
    cases hget : (Text.lines source).getLast? with
    | none =>
        rw [List.getLast?_eq_none_iff.mp hget] at hlast
        exact absurd hlast (by simp)
    | some last => rfl
  · intro l hl
    rcases mem_insertedLines hl with hl | ⟨k, hk, rfl⟩
    · exact Text.not_mem_of_mem_lines hl
    · exact lineFeed_not_mem_keyLine (hkeys k hk)
  · intro l hl
    rcases mem_insertedLines hl with hl | ⟨k, -, rfl⟩
    · exact hreturn l hl
    · rw [getLast?_keyLine]
      decide

end Insertion

end Frontmatter
