import Frontmatter.Grammar.Basic
import Frontmatter.Proofs.Grammar.Number

/-! # Values as they are written

White space around a value and one pair of quotes do not count. A tight value without such a pair
counts as it is (`FieldGrammar.fault?_of_tight`), and a text that starts with a numeral and does not
end in white space is one (`FieldGrammar.fault?_of_reports`). A unit behind a numeral is read back,
also with white space between the two, unless it starts like a part of the numeral
(`Quantity.IsTail.isQuantity`). -/

namespace Frontmatter

open Decimal (AsciiDigits IsMark Numeral)

namespace Text

/-- A digit is no white space: the ranges of the two have no character in common. -/
theorem isBlank_eq_false_of_isDecimalDigit {c : Char} (h : isDecimalDigit c = true) :
    isBlank c = false := by
  have hapart : ∀ digits ∈ digitRanges, ∀ blanks ∈ blankRanges,
      digits.2 < blanks.1 ∨ blanks.2 < digits.1 := by
    decide
  by_contra hblank
  rw [Bool.not_eq_false, isBlank, inRanges, List.any_eq_true] at hblank
  rw [isDecimalDigit, inRanges, List.any_eq_true] at h
  obtain ⟨digits, hdigits, hc⟩ := h
  obtain ⟨blanks, hblanks, hc'⟩ := hblank
  have hdisjoint := hapart digits hdigits blanks hblanks
  simp only [Bool.and_eq_true, decide_eq_true_eq] at hc hc'
  omega

/-- What is put before a text that does not end in white space does not matter for that. -/
theorem trimEnd_append_eq_self {s u : Text} (hne : u ≠ []) (hu : trimEnd u = u) :
    trimEnd (s ++ u) = s ++ u := by
  rw [trimEnd_eq_self_iff] at hu ⊢
  intro c hc
  refine hu c ?_
  rwa [List.getLast?_append_of_ne_nil _ hne] at hc

end Text

/-! ## Numerals -/

namespace Decimal

variable {n : Numeral} {numeral t : Text} {c : Char}

/-- Digits and points are not white space. -/
theorem IsMark.isBlank_eq_false (h : IsMark c) : Text.isBlank c = false := by
  rcases h with hdigit | rfl
  · exact Text.isBlank_eq_false_of_isDecimalDigit hdigit
  · decide

namespace Numeral.Spells

/-- A numeral is made of digits, points and signs. -/
theorem isMark_of_mem (hn : n.Spells numeral) (hc : c ∈ numeral) :
    IsMark c ∨ c = '+' ∨ c = '-' := by
  obtain ⟨⟨sign, body, rfl, hsign, hbody⟩, hdigits, -⟩ := hn
  rcases List.mem_append.mp hc with hc | hc
  · exact .inr (hsign.eq_or_eq_of_mem hc)
  · exact .inl (hbody.isMark_of_mem hdigits hc)

/-- A numeral holds no white space. -/
theorem isBlank_eq_false (hn : n.Spells numeral) (hc : c ∈ numeral) : Text.isBlank c = false := by
  rcases hn.isMark_of_mem hc with hmark | rfl | rfl
  · exact hmark.isBlank_eq_false
  · decide
  · decide

/-- A numeral is not empty. -/
theorem ne_nil (hn : n.Spells numeral) : numeral ≠ [] := by
  obtain ⟨⟨sign, body, rfl, -, hbody⟩, -, -⟩ := hn
  exact List.append_ne_nil_of_right_ne_nil sign hbody.ne_nil

/-- White space is not at either end of a text that starts with a numeral and does not end in it. -/
theorem trim_append (hn : n.Spells numeral) (ht : Text.trimEnd t = t) :
    Text.trim (numeral ++ t) = numeral ++ t := by
  obtain ⟨first, rest, rfl⟩ := List.exists_cons_of_ne_nil hn.ne_nil
  refine Text.trim_eq_self_iff.mpr ⟨Text.trimStart_eq_self_iff.mpr fun c hc => ?_, ?_⟩
  · obtain rfl : first = c := Option.some.inj hc
    exact hn.isBlank_eq_false List.mem_cons_self
  · by_cases hne : t = []
    · rw [hne, List.append_nil, Text.trimEnd_eq_self_iff]
      exact fun c hc => hn.isBlank_eq_false (List.mem_of_getLast? hc)
    · exact Text.trimEnd_append_eq_self hne ht

end Numeral.Spells

/-- The numeral of samples. -/
def ten : Numeral := ⟨false, "10", [], 0⟩

/-- The text `10` spells the numeral of samples. -/
theorem spells_ten : ten.Spells "10" :=
  ⟨⟨[], _, rfl, .none, .whole (by decide)⟩, List.all_eq_true.mp (by decide), rfl⟩

/-- The numeral of samples is made of ASCII digits. -/
theorem asciiDigits_ten : AsciiDigits "10" := by
  have hall : "10".toList.all Text.isAsciiDigit = true := by decide
  exact fun c hc _ => List.all_eq_true.mp hall c hc

end Decimal

/-! ## Units -/

namespace Quantity

variable {n : Numeral} {numeral s u : Text}

/-- White space and a unit, or nothing, that can stand behind a numeral. -/
structure IsTail (s u : Text) : Prop where
  /-- White space is in front of the unit. -/
  isBlank : ∀ c ∈ s, Text.isBlank c = true
  /-- No white space belongs to the unit. -/
  trim_eq : Text.trim u = u
  /-- The unit is on one line. -/
  feed_not_mem : '\n' ∉ u
  /-- Right behind a numeral the unit does not start like a part of it. -/
  not_isMark : s = [] → ∀ c, u.head? = some c → ¬ IsMark c

namespace IsTail

/-- Nothing at all can stand behind a numeral. -/
theorem nil : IsTail [] [] :=
  ⟨by simp, rfl, by simp, by simp⟩

/-- Trimming takes off the white space in front of the unit. -/
theorem trimStart_eq (h : IsTail s u) : Text.trimStart (s ++ u) = u :=
  (Text.trimStart_append h.isBlank).trans (Text.trim_eq_self_iff.mp h.trim_eq).1

/-- The text ends in the unit, so that nothing is trimmed there. -/
theorem trimEnd_eq (h : IsTail s u) (hne : u ≠ []) : Text.trimEnd (s ++ u) = s ++ u :=
  Text.trimEnd_append_eq_self hne (Text.trim_eq_self_iff.mp h.trim_eq).2

/-- A numeral ends where the white space or the unit begins. -/
theorem not_isMark_head (h : IsTail s u) {c : Char} (hc : (s ++ u).head? = some c) :
    ¬ IsMark c := by
  cases s with
  | nil => exact h.not_isMark rfl c hc
  | cons blank s =>
      obtain rfl : blank = c := Option.some.inj hc
      intro hmark
      exact absurd (h.isBlank blank List.mem_cons_self) (by simp [hmark.isBlank_eq_false])

/-- The unit is read back. -/
theorem isQuantity (h : IsTail s u) (hn : n.Spells numeral) (hascii : AsciiDigits numeral) :
    IsQuantity (numeral ++ (s ++ u)) n numeral u := by
  have hlongest : LongestNumeral (numeral ++ (s ++ u)) numeral (s ++ u) :=
    longestNumeral_append hn fun _ => h.not_isMark_head
  refine ⟨hn, hascii, s ++ u, hlongest, ?_, ?_⟩
  · rw [h.trimStart_eq]
    exact h.feed_not_mem
  · rw [Text.trim, h.trimStart_eq]
    exact (Text.trim_eq_self_iff.mp h.trim_eq).2

end IsTail

end Quantity

/-! ## Quotes -/

namespace FieldGrammar

variable {g : FieldGrammar} {raw value : Text} {why : Rejection}

/-- A text stands between two equal quotes. -/
def IsQuoted (s : Text) : Prop :=
  ∃ quote inner, (quote = '\x22' ∨ quote = '\'') ∧ s = quote :: (inner ++ [quote])

/-- Only what stands between two equal quotes loses them. -/
theorem stripQuote?_eq_none {quote : Char} {s : Text} (hquote : quote = '\x22' ∨ quote = '\'')
    (h : ¬ IsQuoted s) : stripQuote? quote s = none := by
  refine if_neg ?_
  rintro ⟨hhead, hlast, hlength⟩
  cases s with
  | nil => exact absurd hhead (by simp)
  | cons first rest =>
      obtain rfl : first = quote := Option.some.inj hhead
      have hne : rest ≠ [] := by
        rintro rfl
        simp at hlength
      rw [List.getLast?_cons_of_ne_nil hne, List.getLast?_eq_some_iff] at hlast
      obtain ⟨inner, rfl⟩ := hlast
      exact h ⟨first, inner, hquote, rfl⟩

/-- A value without quotes around it is taken as it is. -/
theorem unquoted_eq_self (h : ¬ IsQuoted value) : unquoted value = value := by
  rw [unquoted, stripQuote?_eq_none (.inl rfl) h, stripQuote?_eq_none (.inr rfl) h]
  rfl

/-- A value is valid exactly if nothing is wrong with it. -/
theorem check_eq_valid_iff : g.check raw = .valid ↔ g.fault? raw = none := by
  rw [check]
  cases g.fault? raw <;> simp

/-- A value is invalid for a reason exactly if that is what is wrong with it. -/
theorem check_eq_invalid_iff : g.check raw = .invalid why ↔ g.fault? raw = some why := by
  rw [check]
  cases g.fault? raw <;> simp

/-- A value between white space is checked as it is, unless it is empty or quoted. -/
theorem fault?_of_tight (htrim : Text.trim raw = value) (hne : value ≠ []) (h : ¬ IsQuoted value) :
    g.fault? raw = g.grammar.fault? value := by
  rw [fault?, htrim, unquoted_eq_self h]
  exact if_neg hne

/-- A text that starts with a numeral is not quoted. -/
theorem not_isQuoted_append {n : Numeral} {numeral : Text} (hn : n.Spells numeral) (t : Text) :
    ¬ IsQuoted (numeral ++ t) := by
  rintro ⟨quote, inner, hquote, heq⟩
  obtain ⟨first, rest, rfl⟩ := List.exists_cons_of_ne_nil hn.ne_nil
  obtain rfl : first = quote := (List.cons.inj heq).1
  have hfirst := hn.isMark_of_mem List.mem_cons_self
  rcases hquote with rfl | rfl
  · exact absurd hfirst (by rw [IsMark]; decide)
  · exact absurd hfirst (by rw [IsMark]; decide)

/-- What a number grammar reports on a text that starts with a numeral and does not end in white
space is what is wrong with it as a value. -/
theorem fault?_of_reports {required : Bool} {g : NumberGrammar} {n : Numeral} {numeral t : Text}
    {r : Option Rejection} (hn : n.Spells numeral) (ht : Text.trimEnd t = t)
    (hr : g.Reports (numeral ++ t) r) :
    (⟨required, .number g⟩ : FieldGrammar).fault? (numeral ++ t) = r := by
  have htrim := hn.trim_append ht
  have hne : numeral ++ t ≠ [] := List.append_ne_nil_of_left_ne_nil hn.ne_nil t
  rw [fault?_of_tight htrim hne (not_isQuoted_append hn t)]
  exact NumberGrammar.Reports.fault?_eq (by rwa [htrim])

end FieldGrammar

end Frontmatter
