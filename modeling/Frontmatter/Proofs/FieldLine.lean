import Frontmatter.FieldLine
import Frontmatter.Proofs.Text.Trim

/-! # Written field lines

A key that is written behind an indentation, with a colon and a value behind it, is read back with
that indentation, that key and that value. Conversely, a line that is read as a field line ends in
its value, which starts at the value's column. `FieldLine.Decomposes` says how a field line is made
up, and `FieldLine.parse?_eq_some_iff_decomposes` that these are the lines that are read, each in
the one way in which it is made up. -/

namespace Frontmatter

namespace Text

/-- A text is cut at the first separator. -/
theorem cut_append {sep : Char} {head : Text} (h : sep ∉ head) (tail : Text) :
    cut sep (head ++ sep :: tail) = some (head, tail) := by
  induction head with
  | nil => simp [cut]
  | cons c rest ih =>
      rw [List.mem_cons, not_or] at h
      obtain ⟨hc, hrest⟩ := h
      rw [List.cons_append, cut, if_neg (Ne.symm hc), ih hrest]
      rfl

/-- A cut text holds the separator between its two parts, and none in the first. -/
theorem cut_eq_some {sep : Char} {s head tail : Text} (h : cut sep s = some (head, tail)) :
    s = head ++ sep :: tail ∧ sep ∉ head := by
  induction s generalizing head with
  | nil => exact absurd h (by simp [cut])
  | cons c rest ih =>
      rw [cut] at h
      split at h
      · rename_i hc
        obtain ⟨rfl, rfl⟩ := Prod.mk.inj (Option.some.inj h)
        simp [hc]
      · rename_i hc
        obtain ⟨⟨head', tail'⟩, hcut, heq⟩ := Option.map_eq_some_iff.mp h
        obtain ⟨rfl, rfl⟩ := Prod.mk.inj heq
        obtain ⟨hrest, hmem⟩ := ih hcut
        refine ⟨by rw [hrest, List.cons_append], ?_⟩
        rw [List.mem_cons, not_or]
        exact ⟨Ne.symm hc, hmem⟩

end Text

namespace FieldLine

variable {w key v value text : Text} {field : FieldLine}

/-- A colon is no white space. -/
theorem colon_not_mem_of_blank (hw : ∀ c ∈ w, Text.isBlank c = true) : ':' ∉ w := by
  intro h
  exact absurd (hw ':' h) (by decide)

/-- A written field line is read back. -/
theorem parse?_written (hw : ∀ c ∈ w, Text.isBlank c = true) (hne : key ≠ []) (hcolon : ':' ∉ key)
    (hkey : Text.trim key = key) (hv : ∀ c ∈ v, Text.isBlank c = true)
    (hvalue : Text.trimStart value = value) (hfeed : '\n' ∉ value) :
    parse? (w ++ key ++ ':' :: (v ++ value))
      = some ⟨w.length, key, value, w.length + key.length + 1 + v.length⟩ := by
  obtain ⟨hstart, hend⟩ := Text.trim_eq_self_iff.mp hkey
  -- The first colon of the line is the one behind the key.
  have hcut : Text.cut ':' (w ++ key ++ ':' :: (v ++ value)) = some (w ++ key, v ++ value) := by
    apply Text.cut_append
    rw [List.mem_append, not_or]
    exact ⟨colon_not_mem_of_blank hw, hcolon⟩
  have hlast : key.getLast?.all Text.isBlank = false := by
    rw [Text.trimEnd_eq_self_iff] at hend
    cases hget : key.getLast? with
    | none => exact absurd (List.getLast?_eq_none_iff.mp hget) hne
    | some c => exact hend c hget
  have hindent : Text.indentation (w ++ (key ++ ':' :: (v ++ value))) = w.length := by
    apply Text.indentation_append hw
    rw [Text.trimStart_eq_self_iff] at hstart ⊢
    cases key with
    | nil => exact absurd rfl hne
    | cons c rest => exact hstart
  have hcolumn : (w ++ key ++ ':' :: (v ++ value)).length - value.length
      = w.length + key.length + 1 + v.length := by
    simp only [List.length_append, List.length_cons]
    omega
  rw [parse?, hcut, Option.bind_some]
  dsimp only
  rw [Text.trimStart_append hw, hstart, Text.trimStart_append hv, hvalue, hlast, hcolumn,
    if_neg (by simp), if_neg hfeed, List.append_assoc, hindent]

/-- A field line is indented like its line. -/
theorem indent_of_parse? (h : parse? text = some field) :
    field.indent = Text.indentation text := by
  obtain ⟨⟨head, tail⟩, -, h⟩ := Option.bind_eq_some_iff.mp h
  dsimp only at h
  split at h
  · exact absurd h (by simp)
  · split at h
    · exact absurd h (by simp)
    · rw [← Option.some.inj h]

/-- The value of a field line is what follows the first colon, without leading white space. -/
theorem value_of_parse? (h : parse? text = some field) :
    ∃ head tail, text = head ++ ':' :: tail ∧ ':' ∉ head ∧ field.value = Text.trimStart tail
      ∧ field.valueColumn = text.length - field.value.length := by
  obtain ⟨⟨head, tail⟩, hcut, h⟩ := Option.bind_eq_some_iff.mp h
  obtain ⟨htext, hcolon⟩ := Text.cut_eq_some hcut
  dsimp only at h
  split at h
  · exact absurd h (by simp)
  · split at h
    · exact absurd h (by simp)
    · obtain rfl := Option.some.inj h
      exact ⟨head, tail, htext, hcolon, rfl, rfl⟩

/-- The key of a field line is not empty. -/
theorem key_ne_nil_of_parse? (h : parse? text = some field) : field.key ≠ [] := by
  obtain ⟨⟨head, tail⟩, -, h⟩ := Option.bind_eq_some_iff.mp h
  dsimp only at h
  split at h
  · exact absurd h (by simp)
  · rename_i hlast
    split at h
    · exact absurd h (by simp)
    · obtain rfl := Option.some.inj h
      -- A key that passes the test on its last character has one.
      intro hnil
      exact hlast (by rw [show Text.trimStart head = [] from hnil]; rfl)

/-- A field line ends in its value, which starts at the value's column. -/
theorem exists_append_value_of_parse? (h : parse? text = some field) :
    ∃ before, text = before ++ field.value ∧ before.length = field.valueColumn := by
  obtain ⟨head, tail, htext, -, hvalue, hcolumn⟩ := value_of_parse? h
  have hsuffix : field.value <:+ text := by
    rw [hvalue, htext]
    exact (List.dropWhile_suffix _).trans ((List.suffix_cons ':' tail).trans
      (List.suffix_append head _))
  obtain ⟨before, hbefore⟩ := hsuffix
  refine ⟨before, hbefore.symm, ?_⟩
  rw [hcolumn, ← hbefore, List.length_append, Nat.add_sub_cancel]

/-- A field line is not blank. -/
theorem isBlankLine_eq_false_of_parse? (h : parse? text = some field) :
    Text.isBlankLine text = false := by
  obtain ⟨⟨head, tail⟩, hcut, -⟩ := Option.bind_eq_some_iff.mp h
  obtain ⟨rfl, -⟩ := Text.cut_eq_some hcut
  simp [Text.isBlankLine, show Text.isBlank ':' = false from by decide]

/-- A field line holds its colon. -/
theorem colon_mem_of_parse? (h : parse? text = some field) : ':' ∈ text := by
  obtain ⟨head, tail, rfl, -, -, -⟩ := value_of_parse? h
  simp

/-! ## How field lines are made up -/

/-- A line is made up of white space, a key, a colon, more white space and a value. -/
structure Decomposes (line w key v value : Text) : Prop where
  /-- The parts follow each other. -/
  eq_append : line = w ++ key ++ ':' :: (v ++ value)
  /-- White space is before the key. -/
  isBlank_before : ∀ c ∈ w, Text.isBlank c = true
  /-- There is a key. -/
  key_ne_nil : key ≠ []
  /-- The colon behind the key is the first one. -/
  colon_not_mem : ':' ∉ key
  /-- The key does not start with white space. -/
  isBlank_head_key : ∀ c, key.head? = some c → Text.isBlank c = false
  /-- The key does not end with white space. -/
  isBlank_last_key : ∀ c, key.getLast? = some c → Text.isBlank c = false
  /-- White space is before the value. -/
  isBlank_behind : ∀ c ∈ v, Text.isBlank c = true
  /-- The value does not start with white space. -/
  isBlank_head_value : ∀ c, value.head? = some c → Text.isBlank c = false
  /-- The value is on one line. -/
  feed_not_mem : '\n' ∉ value

namespace Decomposes

variable {line w' key' v' value' : Text}

/-- A line is read as the parts that it is made up of. -/
theorem parse?_eq (h : Decomposes line w key v value) :
    parse? line = some ⟨w.length, key, value, w.length + key.length + 1 + v.length⟩ := by
  have htight : Text.trim key = key :=
    Text.trim_eq_self_iff.mpr ⟨Text.trimStart_eq_self_iff.mpr h.isBlank_head_key,
      Text.trimEnd_eq_self_iff.mpr h.isBlank_last_key⟩
  rw [h.eq_append]
  exact parse?_written h.isBlank_before h.key_ne_nil h.colon_not_mem htight h.isBlank_behind
    (Text.trimStart_eq_self_iff.mpr h.isBlank_head_value) h.feed_not_mem

/-- A line is made up in one way. -/
theorem unique (h : Decomposes line w key v value) (h' : Decomposes line w' key' v' value') :
    w = w' ∧ key = key' ∧ v = v' ∧ value = value' := by
  -- Reading the line settles the key, the value and how long the indentation is.
  have hread := Option.some.inj (h.parse?_eq.symm.trans h'.parse?_eq)
  injection hread with hlength hkey hvalue _
  subst hkey hvalue
  have hline := h.eq_append.symm.trans h'.eq_append
  rw [List.append_assoc, List.append_assoc] at hline
  obtain ⟨rfl, hrest⟩ := List.append_inj hline hlength
  obtain ⟨-, hbehind⟩ := List.cons.inj (List.append_cancel_left hrest)
  exact ⟨rfl, rfl, List.append_cancel_right hbehind, rfl⟩

end Decomposes

/-- A line that is read is made up of what is read. -/
theorem exists_decomposes_of_parse? (h : parse? text = some field) :
    ∃ w v, Decomposes text w field.key v field.value := by
  obtain ⟨⟨head, tail⟩, hcut, h⟩ := Option.bind_eq_some_iff.mp h
  obtain ⟨htext, hcolon⟩ := Text.cut_eq_some hcut
  dsimp only at h
  split at h
  · exact absurd h (by simp)
  · rename_i hlast
    split at h
    · exact absurd h (by simp)
    · rename_i hfeed
      obtain rfl := Option.some.inj h
      -- What trimming takes off on the two sides of the colon is the white space of the line.
      have hhead : head.takeWhile Text.isBlank ++ Text.trimStart head = head :=
        List.takeWhile_append_dropWhile
      have htail : tail.takeWhile Text.isBlank ++ Text.trimStart tail = tail :=
        List.takeWhile_append_dropWhile
      refine ⟨head.takeWhile Text.isBlank, tail.takeWhile Text.isBlank, ?_, fun c =>
        List.mem_takeWhile_imp, ?_, ?_, ?_, ?_, fun c => List.mem_takeWhile_imp, ?_, hfeed⟩
      · rw [hhead, htail, htext]
      · intro hnil
        rw [show Text.trimStart head = [] from hnil] at hlast
        exact hlast rfl
      · exact fun hmem => hcolon ((List.dropWhile_sublist _).subset hmem)
      · exact Text.trimStart_eq_self_iff.mp (List.dropWhile_idempotent _ _)
      · intro c hc
        rw [show (Text.trimStart head).getLast? = some c from hc] at hlast
        simpa using hlast
      · exact Text.trimStart_eq_self_iff.mp (List.dropWhile_idempotent _ _)

/-- A line is read as a field line exactly if it is made up of an indentation, a key, a colon, white
space and a value on one line, and what is read are these parts with the numbers of characters that
stand before the key and before the value. A line is made up in one way only. -/
theorem parse?_eq_some_iff_decomposes (line : Text) :
    (∀ field, parse? line = some field
        ↔ ∃ w v, Decomposes line w field.key v field.value ∧ field.indent = w.length
          ∧ field.valueColumn = w.length + field.key.length + 1 + v.length)
      ∧ (∀ w key v value, Decomposes line w key v value → Text.indentation line = w.length)
      ∧ ∀ w key v value w' key' v' value', Decomposes line w key v value →
          Decomposes line w' key' v' value' → w = w' ∧ key = key' ∧ v = v' ∧ value = value' := by
  refine ⟨fun field => ⟨fun h => ?_, ?_⟩, fun w key v value h => ?_, fun _ _ _ _ _ _ _ _ h h' =>
    h.unique h'⟩
  · obtain ⟨w, v, hparts⟩ := exists_decomposes_of_parse? h
    have hfield := Option.some.inj (h.symm.trans hparts.parse?_eq)
    exact ⟨w, v, hparts, congrArg FieldLine.indent hfield, congrArg FieldLine.valueColumn hfield⟩
  · rintro ⟨w, v, hparts, hindent, hcolumn⟩
    rw [hparts.parse?_eq, ← hcolumn, ← hindent]
  · exact (indent_of_parse? h.parse?_eq).symm

/-- A line with a tab in front, white space in its key and a colon in its value. -/
def accentedLine : Text := "\t Été indien: \t 10: 30"

/-- The line is made up in the way that is read, and the white space in front is not of the key. -/
theorem parse?_eq_some_iff_decomposes_of_accentedLine :
    Decomposes accentedLine "\t " "Été indien" " \t " "10: 30"
      ∧ parse? accentedLine = some ⟨2, "Été indien", "10: 30", 16⟩
      ∧ Text.indentation accentedLine = 2
      ∧ ¬ Decomposes accentedLine "\t" " Été indien" " \t " "10: 30" := by
  have hblank : ∀ {s : Text}, s.all Text.isBlank = true → ∀ c ∈ s, Text.isBlank c = true :=
    List.all_eq_true.mp
  have htight : ∀ {o : Option Char}, o.any Text.isBlank = false →
      ∀ c, o = some c → Text.isBlank c = false := by
    rintro _ h c rfl
    exact h
  have hparts : Decomposes accentedLine "\t " "Été indien" " \t " "10: 30" :=
    ⟨rfl, hblank (by decide), by decide, by decide, htight (by decide), htight (by decide),
      hblank (by decide), htight (by decide), by decide⟩
  obtain ⟨hread, hindent, hunique⟩ := parse?_eq_some_iff_decomposes accentedLine
  refine ⟨hparts, (hread _).mpr ⟨_, _, hparts, rfl, rfl⟩, hindent _ _ _ _ hparts, fun hother => ?_⟩
  obtain ⟨hbefore, -⟩ := hunique _ _ _ _ _ _ _ _ hparts hother
  exact absurd hbefore (by decide)

end FieldLine

end Frontmatter
