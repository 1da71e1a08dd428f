import Frontmatter.Text.Blank
import Mathlib.Data.List.DropRight
import Mathlib.Data.List.TakeWhile

/-! # White space around a text

A text is tight when trimming leaves it as it is, which is when neither its first nor its last
character is white space. White space around a tight text is what trimming takes off, and white
space before it is its indentation. -/

namespace Frontmatter

namespace Text

variable {w s v : Text}

/-- A space is white space. -/
theorem isBlank_space : isBlank ' ' = true := by
  decide

/-- An indentation is white space. -/
theorem isBlank_of_mem_replicate {c : Char} {width : Nat} (h : c ∈ List.replicate width ' ') :
    isBlank c = true := by
  rw [List.eq_of_mem_replicate h]
  exact isBlank_space

/-! ## Leading white space -/

/-- Trimming the start makes no text longer. -/
theorem length_trimStart_le (s : Text) : (trimStart s).length ≤ s.length :=
  (List.dropWhile_suffix isBlank).length_le

/-- Leading white space is not there after trimming the start. -/
theorem trimStart_append (hw : ∀ c ∈ w, isBlank c = true) : trimStart (w ++ s) = trimStart s :=
  List.dropWhile_append_of_pos hw

/-- Trimming the start leaves a text as it is unless it starts with white space. -/
theorem trimStart_eq_self_iff : trimStart s = s ↔ ∀ c, s.head? = some c → isBlank c = false := by
  cases s with
  | nil => simp [trimStart]
  | cons c rest =>
      rw [trimStart, List.dropWhile_cons]
      by_cases hc : isBlank c = true
      · -- Without its first character the text is shorter.
        have hlt : (rest.dropWhile isBlank).length < (c :: rest).length :=
          Nat.lt_succ_of_le (length_trimStart_le rest)
        rw [if_pos hc]
        constructor
        · intro h
          rw [h] at hlt
          exact absurd hlt (Nat.lt_irrefl _)
        · intro h
          exact absurd hc (by simp [h c rfl])
      · simp [hc]

/-- The indentation of a text behind white space is the length of the white space. -/
theorem indentation_append (hw : ∀ c ∈ w, isBlank c = true) (hs : trimStart s = s) :
    indentation (w ++ s) = w.length := by
  have hnone : s.takeWhile isBlank = [] := by
    cases s with
    | nil => rfl
    | cons c rest =>
        rw [List.takeWhile_cons, trimStart_eq_self_iff.mp hs c rfl]
        rfl
  rw [indentation, List.takeWhile_append_of_pos hw, hnone, List.append_nil]

/-! ## White space on both sides -/

/-- Trimming the end of a text is trimming the start of its reverse. -/
theorem trimEnd_eq (s : Text) : trimEnd s = (trimStart s.reverse).reverse :=
  rfl

/-- Trailing white space is not there after trimming the end. -/
theorem trimEnd_append (hv : ∀ c ∈ v, isBlank c = true) : trimEnd (s ++ v) = trimEnd s := by
  rw [trimEnd_eq, trimEnd_eq, List.reverse_append, trimStart_append]
  simpa using hv

/-- Trimming the end leaves a text as it is unless it ends in white space. -/
theorem trimEnd_eq_self_iff : trimEnd s = s ↔ ∀ c, s.getLast? = some c → isBlank c = false := by
  rw [trimEnd_eq, List.reverse_eq_iff, trimStart_eq_self_iff, List.head?_reverse]

/-- A text that trimming leaves as it is has white space at neither end. -/
theorem trim_eq_self_iff : trim s = s ↔ trimStart s = s ∧ trimEnd s = s := by
  constructor
  · intro h
    have hlen : (trim s).length ≤ (trimStart s).length := by
      rw [trim, trimEnd_eq, List.length_reverse]
      exact Nat.le_trans (length_trimStart_le _) (Nat.le_of_eq List.length_reverse)
    rw [h] at hlen
    -- Nothing is left for trimming the start to take off.
    have hstart : trimStart s = s :=
      (List.dropWhile_suffix isBlank).eq_of_length_le hlen
    rw [trim, hstart] at h
    exact ⟨hstart, h⟩
  · rintro ⟨hstart, hend⟩
    rw [trim, hstart, hend]

/-- Trimming takes off the white space around a tight text that is not empty. -/
theorem trim_append_append (hw : ∀ c ∈ w, isBlank c = true) (hv : ∀ c ∈ v, isBlank c = true)
    (hne : s ≠ []) (hs : trim s = s) : trim (w ++ (s ++ v)) = s := by
  obtain ⟨hstart, hend⟩ := trim_eq_self_iff.mp hs
  have hhead : trimStart (s ++ v) = s ++ v := by
    rw [trimStart_eq_self_iff] at hstart ⊢
    cases s with
    | nil => exact absurd rfl hne
    | cons c rest => exact hstart
  rw [trim, trimStart_append hw, hhead, trimEnd_append hv, hend]

/-- A trimmed text is tight. -/
theorem trim_trim (s : Text) : trim (trim s) = trim s := by
  have hstart : trimStart (trimStart s) = trimStart s := List.dropWhile_idempotent _ _
  have hend : trimEnd (trim s) = trim s := by
    rw [trim, trimEnd_eq, trimEnd_eq, List.reverse_reverse]
    exact congrArg List.reverse (List.dropWhile_idempotent _ _)
  refine trim_eq_self_iff.mpr ⟨?_, hend⟩
  -- What is left begins like the text without its leading white space.
  obtain ⟨taken, htaken⟩ := List.dropWhile_suffix isBlank (l := (trimStart s).reverse)
  have hsplit : trim s ++ taken.reverse = trimStart s := by
    rw [trim, trimEnd_eq, ← List.reverse_append]
    exact List.reverse_eq_iff.mpr htaken
  rw [trimStart_eq_self_iff] at hstart ⊢
  intro c hc
  refine hstart c ?_
  rw [← hsplit, List.head?_append, hc]
  rfl

/-! ## What is not white space -/

/-- Trimming the start takes off white space only. -/
theorem mem_trimStart {c : Char} (h : c ∈ s) (hc : isBlank c = false) : c ∈ trimStart s := by
  rw [← List.takeWhile_append_dropWhile (p := isBlank) (l := s), List.mem_append] at h
  rcases h with h | h
  · exact absurd (List.mem_takeWhile_imp h) (by simp [hc])
  · exact h

/-- Trimming takes off white space only. -/
theorem mem_trim {c : Char} (h : c ∈ s) (hc : isBlank c = false) : c ∈ trim s := by
  rw [trim, trimEnd_eq, List.mem_reverse]
  exact mem_trimStart (List.mem_reverse.mpr (mem_trimStart h hc)) hc

end Text

end Frontmatter
