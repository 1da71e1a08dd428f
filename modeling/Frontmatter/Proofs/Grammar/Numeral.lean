import Frontmatter.Grammar.Number
import Mathlib.Data.List.TakeWhile

/-! # Numerals at the head of a text

A numeral is an optional sign and digits with an optional point, and `Decimal.Numeral.Spells` says
which texts are numerals and what they stand for. The digits may be those of any script.
A numeral is read as a number exactly if these are ASCII digits
(`Decimal.Numeral.Spells.numeral?_eq_some_iff`). `Quantity.splitNumeral?` takes the longest numeral
off a text: `LongestNumeral` says what that is without the scan, and
`Quantity.splitNumeral?_eq_some_iff` that the two agree. -/

namespace Frontmatter

namespace Text

variable {p : Char → Bool} {s t rest : Text} {c : Char}

/-- A scan stops at the first character of another kind. -/
theorem takeWhile_append_cons (hs : ∀ c ∈ s, p c = true) (hc : p c = false) :
    (s ++ c :: t).takeWhile p = s := by
  rw [List.takeWhile_append_of_pos hs]
  simp [hc]

/-- A scan leaves the first character of another kind and what follows it. -/
theorem dropWhile_append_cons (hs : ∀ c ∈ s, p c = true) (hc : p c = false) :
    (s ++ c :: t).dropWhile p = c :: t := by
  rw [List.dropWhile_append_of_pos hs]
  simp [hc]

/-- A scan and another one behind the character at which the first stops cut a text in pieces. -/
theorem eq_append_of_dropWhile_eq_cons (h : s.dropWhile p = c :: rest) :
    s = s.takeWhile p ++ c :: rest.takeWhile p ++ rest.dropWhile p := by
  rw [List.append_assoc, List.cons_append, List.takeWhile_append_dropWhile, ← h,
    List.takeWhile_append_dropWhile]

end Text

namespace Decimal

/-! ## Spelling -/

/-- The sign of a numeral: a minus sign if it is negative, and otherwise a plus sign or nothing. -/
inductive IsSign : Bool → Text → Prop where
  /-- No sign. -/
  | none : IsSign false []
  /-- A plus sign. -/
  | plus : IsSign false ['+']
  /-- A minus sign. -/
  | minus : IsSign true ['-']

/-- The digits of a numeral, given those before and those after the point. There is at least one. -/
inductive IsUnsigned : Text → Text → Text → Prop where
  /-- Digits without a point. -/
  | whole {digits : Text} : digits ≠ [] → IsUnsigned digits [] digits
  /-- Digits with a point in front of them, behind them or between them. -/
  | pointed {whole fraction : Text} :
      ¬ (whole = [] ∧ fraction = []) → IsUnsigned whole fraction (whole ++ '.' :: fraction)

/-- A text spells a numeral without an exponent, in digits of any script. -/
structure Numeral.Spells (n : Numeral) (s : Text) : Prop where
  /-- A sign stands before the digits. -/
  exists_eq_append : ∃ sign body, s = sign ++ body ∧ IsSign n.negative sign
    ∧ IsUnsigned n.whole n.fraction body
  /-- All digits are digits. -/
  digits : ∀ c ∈ n.whole ++ n.fraction, Text.isDecimalDigit c = true
  /-- There is no exponent. -/
  power_eq : n.power = 0

/-- A text whose digits are ASCII digits. -/
def AsciiDigits (s : Text) : Prop :=
  ∀ c ∈ s, Text.isDecimalDigit c = true → Text.isAsciiDigit c = true

variable {n : Numeral} {negative : Bool} {sign whole fraction body s t : Text} {c : Char}

/-- A character of a numeral behind its sign. -/
def IsMark (c : Char) : Prop :=
  Text.isDecimalDigit c = true ∨ c = '.'

/-- A character of a numeral differs from one that cannot stand there. -/
theorem IsMark.ne_of_not {d : Char} (hc : IsMark c) (hd : ¬ IsMark d) : c ≠ d := by
  rintro rfl
  exact hd hc

/-- A plus sign is neither a digit nor a point. -/
theorem not_isMark_plus : ¬ IsMark '+' := by
  rw [IsMark]
  decide

/-- A minus sign is neither a digit nor a point. -/
theorem not_isMark_minus : ¬ IsMark '-' := by
  rw [IsMark]
  decide

/-- A sign is made of nothing but a plus or a minus sign. -/
theorem IsSign.eq_or_eq_of_mem (hsign : IsSign negative sign) (hc : c ∈ sign) :
    c = '+' ∨ c = '-' := by
  cases hsign with
  | none => exact absurd hc List.not_mem_nil
  | plus => exact .inl (List.mem_singleton.mp hc)
  | minus => exact .inr (List.mem_singleton.mp hc)

namespace IsUnsigned

/-- A numeral has at least one character behind its sign. -/
theorem ne_nil (hbody : IsUnsigned whole fraction body) : body ≠ [] := by
  cases hbody with
  | whole hne => exact hne
  | pointed hne => simp

/-- The digits and the point are all there is. -/
theorem isMark_of_mem (hbody : IsUnsigned whole fraction body)
    (hdigits : ∀ c ∈ whole ++ fraction, Text.isDecimalDigit c = true) (hc : c ∈ body) :
    IsMark c := by
  cases hbody with
  | whole hne => exact .inl (hdigits c (List.mem_append_left _ hc))
  | pointed hne =>
      rcases List.mem_append.mp hc with hc | hc
      · exact .inl (hdigits c (List.mem_append_left _ hc))
      · rcases List.mem_cons.mp hc with rfl | hc
        · exact .inr rfl
        · exact .inl (hdigits c (List.mem_append_right _ hc))

/-- No sign stands at the head of the digits. -/
theorem exists_eq_cons (hbody : IsUnsigned whole fraction body)
    (hdigits : ∀ c ∈ whole ++ fraction, Text.isDecimalDigit c = true) :
    ∃ first rest, body = first :: rest ∧ first ≠ '+' ∧ first ≠ '-' := by
  obtain ⟨first, rest, rfl⟩ := List.exists_cons_of_ne_nil hbody.ne_nil
  have hfirst := hbody.isMark_of_mem hdigits List.mem_cons_self
  exact ⟨first, rest, rfl, hfirst.ne_of_not not_isMark_plus, hfirst.ne_of_not not_isMark_minus⟩

end IsUnsigned

/-! ## Reading -/

/-- The sign is taken off in front of the digits, which do not start like one. -/
theorem takeSign_append (hsign : IsSign negative sign) (hbody : IsUnsigned whole fraction body)
    (hdigits : ∀ c ∈ whole ++ fraction, Text.isDecimalDigit c = true) :
    takeSign (sign ++ body) = (negative, body) := by
  obtain ⟨first, rest, rfl, hplus, hminus⟩ := hbody.exists_eq_cons hdigits
  cases hsign with
  | plus => rfl
  | minus => rfl
  | none =>
      rw [List.nil_append, takeSign]
      · exact fun _ h => hminus (List.cons.inj h).1
      · exact fun _ h => hplus (List.cons.inj h).1

/-- A mark states no power of ten. -/
theorem exponent?_eq_none (hs : s ≠ []) (hmarks : ∀ c ∈ s, IsMark c) : exponent? s = none := by
  obtain ⟨mark, rest, rfl⟩ := List.exists_cons_of_ne_nil hs
  have hmark := hmarks mark List.mem_cons_self
  have he : mark ≠ 'e' := hmark.ne_of_not (by rw [IsMark]; decide)
  have hE : mark ≠ 'E' := hmark.ne_of_not (by rw [IsMark]; decide)
  rw [exponent?, if_neg (by simp [he, hE])]

/-- ASCII digits are digits. -/
theorem all_isDigit (hascii : AsciiDigits s) (hdigits : ∀ c ∈ s, Text.isDecimalDigit c = true) :
    ∀ c ∈ s, c.isDigit = true :=
  fun c hc => hascii c hc (hdigits c hc)

/-- A numeral in ASCII digits is read as what it spells. -/
theorem Numeral.Spells.numeral?_eq_some (hn : n.Spells s) (hascii : AsciiDigits s) :
    numeral? s = some n := by
  obtain ⟨negative, whole, fraction, power⟩ := n
  obtain ⟨⟨sign, body, rfl, hsign, hbody⟩, hdigits, rfl⟩ := hn
  rw [numeral?, takeSign_append hsign hbody hdigits]
  have hbodyAscii : AsciiDigits body := fun c hc => hascii c (List.mem_append_right _ hc)
  cases hbody with
  | whole hne =>
      have hall : ∀ c ∈ whole, c.isDigit = true :=
        all_isDigit hbodyAscii fun c hc => hdigits c (List.mem_append_left _ hc)
      have htake : whole.takeWhile Char.isDigit = whole := List.takeWhile_eq_self_iff.mpr hall
      have hdrop : whole.dropWhile Char.isDigit = [] := List.dropWhile_eq_nil_iff.mpr hall
      simp [htake, hdrop, hne, exponent?]
  | pointed hne =>
      have hwhole : ∀ c ∈ whole, c.isDigit = true := fun c hc =>
        hbodyAscii c (by simp [hc]) (hdigits c (List.mem_append_left _ hc))
      have hfraction : ∀ c ∈ fraction, c.isDigit = true := fun c hc =>
        hbodyAscii c (by simp [hc]) (hdigits c (List.mem_append_right _ hc))
      have htake : (whole ++ '.' :: fraction).takeWhile Char.isDigit = whole :=
        Text.takeWhile_append_cons hwhole rfl
      have hdrop : (whole ++ '.' :: fraction).dropWhile Char.isDigit = '.' :: fraction :=
        Text.dropWhile_append_cons hwhole rfl
      have htake' : fraction.takeWhile Char.isDigit = fraction :=
        List.takeWhile_eq_self_iff.mpr hfraction
      have hdrop' : fraction.dropWhile Char.isDigit = [] :=
        List.dropWhile_eq_nil_iff.mpr hfraction
      simp only [htake, hdrop, htake', hdrop', exponent?]
      simp [hne]

/-- Marks that are read up to their end are ASCII digits, with a point at most. -/
theorem asciiDigits_of_exponent? (hmarks : ∀ c ∈ s, IsMark c)
    (h : exponent? (s.dropWhile Char.isDigit) ≠ none) : AsciiDigits s := by
  have hend : s.dropWhile Char.isDigit = [] := by
    by_contra hne
    refine h (exponent?_eq_none hne fun c hc => hmarks c ?_)
    exact (List.dropWhile_sublist _).subset hc
  exact fun c hc _ => List.dropWhile_eq_nil_iff.mp hend c hc

/-- Only a numeral in ASCII digits is read. -/
theorem Numeral.Spells.asciiDigits_of_numeral? (hn : n.Spells s) (h : numeral? s ≠ none) :
    AsciiDigits s := by
  obtain ⟨⟨sign, body, rfl, hsign, hbody⟩, hdigits, -⟩ := hn
  have hmarks : ∀ c ∈ body, IsMark c := fun c => hbody.isMark_of_mem hdigits
  rw [numeral?, takeSign_append hsign hbody hdigits] at h
  have hbodyAscii : AsciiDigits body := by
    have hsplit := List.takeWhile_append_dropWhile (p := Char.isDigit) (l := body)
    cases hafter : body.dropWhile Char.isDigit with
    | nil => exact asciiDigits_of_exponent? hmarks (by simp [hafter, exponent?])
    | cons mark rest =>
        rw [hafter] at h hsplit
        have hrest : ∀ c ∈ mark :: rest, IsMark c := fun c hc =>
          hmarks c (hsplit ▸ List.mem_append_right _ hc)
        by_cases hpoint : mark = '.'
        · -- The digits behind the point are read up to the end.
          subst hpoint
          have hfraction : AsciiDigits rest := by
            refine asciiDigits_of_exponent? (fun c hc => hrest c (List.mem_cons_of_mem _ hc)) ?_
            intro hnone
            simp [hnone] at h
          intro c hc hdigit
          rw [← hsplit, List.mem_append, List.mem_cons] at hc
          rcases hc with hc | rfl | hc
          · exact List.mem_takeWhile_imp hc
          · exact absurd hdigit (by decide)
          · exact hfraction c hc hdigit
        · -- Any other mark stops the reading.
          have hnone : exponent? (mark :: rest) = none :=
            exponent?_eq_none (List.cons_ne_nil _ _) hrest
          split at h
          next heq =>
            simp [hpoint] at heq
          next => simp [hnone] at h
  intro c hc hdigit
  rcases List.mem_append.mp hc with hc | hc
  · rcases hsign.eq_or_eq_of_mem hc with rfl | rfl <;> exact absurd hdigit (by decide)
  · exact hbodyAscii c hc hdigit

/-- A numeral is read exactly if its digits are ASCII digits, and then as what it spells. -/
theorem Numeral.Spells.numeral?_eq_some_iff {m : Numeral} (hn : n.Spells s) :
    numeral? s = some m ↔ AsciiDigits s ∧ n = m := by
  constructor
  · intro h
    have hascii := hn.asciiDigits_of_numeral? (by simp [h])
    rw [hn.numeral?_eq_some hascii] at h
    exact ⟨hascii, Option.some.inj h⟩
  · rintro ⟨hascii, rfl⟩
    exact hn.numeral?_eq_some hascii

end Decimal

/-! ## The longest numeral at the head of a text -/

open Decimal (IsSign IsUnsigned IsMark Numeral not_isMark_plus not_isMark_minus)

/-- A text starts with a numeral, and with no longer one. -/
structure LongestNumeral (s numeral rest : Text) : Prop where
  /-- The numeral stands at the head. -/
  eq_append : s = numeral ++ rest
  /-- It is a numeral. -/
  exists_spells : ∃ n : Numeral, n.Spells numeral
  /-- No other numeral at the head is longer. -/
  longest : ∀ (n : Numeral) (other : Text), n.Spells other → other <+: s →
    other.length ≤ numeral.length

namespace Quantity

variable {negative : Bool} {sign whole fraction body numeral rest s t : Text} {n : Numeral}

/-- Where a point stands behind the first digits, it is taken with the digits on both sides. -/
theorem splitUnsigned?_of_point (h : s.dropWhile Text.isDecimalDigit = '.' :: rest) :
    splitUnsigned? s =
      if s.takeWhile Text.isDecimalDigit = [] ∧ rest.takeWhile Text.isDecimalDigit = [] then none
      else some (s.takeWhile Text.isDecimalDigit ++ '.' :: rest.takeWhile Text.isDecimalDigit,
        rest.dropWhile Text.isDecimalDigit) := by
  rw [splitUnsigned?, h]
  rfl

/-- Where no point stands behind the first digits, these are taken alone. -/
theorem splitUnsigned?_of_no_point (h : ∀ rest, s.dropWhile Text.isDecimalDigit ≠ '.' :: rest) :
    splitUnsigned? s = if s.takeWhile Text.isDecimalDigit = [] then none
      else some (s.takeWhile Text.isDecimalDigit, s.dropWhile Text.isDecimalDigit) := by
  rw [splitUnsigned?]
  split
  · rename_i heq
    exact absurd heq (h _)
  · rfl

/-- The digits at the head of a text are characters of a numeral. -/
theorem isMark_of_mem_takeWhile {c : Char} (hc : c ∈ s.takeWhile Text.isDecimalDigit) :
    IsMark c :=
  .inl (List.mem_takeWhile_imp hc)

/-- Digits are taken with the digits behind them, and with a point behind these. -/
theorem exists_splitUnsigned?_whole_append (hne : whole ≠ [])
    (hwhole : ∀ c ∈ whole, Text.isDecimalDigit c = true) (t : Text) :
    ∃ more rest, splitUnsigned? (whole ++ t) = some (whole ++ more, rest) ∧ t = more ++ rest
      ∧ ∀ c ∈ more, IsMark c := by
  have htake : (whole ++ t).takeWhile Text.isDecimalDigit
      = whole ++ t.takeWhile Text.isDecimalDigit := List.takeWhile_append_of_pos hwhole
  have hdrop : (whole ++ t).dropWhile Text.isDecimalDigit = t.dropWhile Text.isDecimalDigit :=
    List.dropWhile_append_of_pos hwhole
  by_cases hpoint : ∃ rest, t.dropWhile Text.isDecimalDigit = '.' :: rest
  · -- The digits behind the point are taken too.
    obtain ⟨rest, hrest⟩ := hpoint
    refine ⟨t.takeWhile Text.isDecimalDigit ++ '.' :: rest.takeWhile Text.isDecimalDigit,
      rest.dropWhile Text.isDecimalDigit, ?_, Text.eq_append_of_dropWhile_eq_cons hrest, ?_⟩
    · rw [splitUnsigned?_of_point (hdrop.trans hrest), htake, if_neg (by simp [hne]),
        List.append_assoc]
    · intro c hc
      rcases List.mem_append.mp hc with hc | hc
      · exact isMark_of_mem_takeWhile hc
      · rcases List.mem_cons.mp hc with rfl | hc
        · exact .inr rfl
        · exact isMark_of_mem_takeWhile hc
  · refine ⟨t.takeWhile Text.isDecimalDigit, t.dropWhile Text.isDecimalDigit, ?_,
      List.takeWhile_append_dropWhile.symm, fun c => isMark_of_mem_takeWhile⟩
    have hno : ∀ rest, (whole ++ t).dropWhile Text.isDecimalDigit ≠ '.' :: rest :=
      fun rest hrest => hpoint ⟨rest, hdrop.symm.trans hrest⟩
    rw [splitUnsigned?_of_no_point hno, htake, hdrop, if_neg (by simp [hne])]

/-- Digits with a point are taken with the digits behind them. -/
theorem splitUnsigned?_pointed_append (hne : ¬ (whole = [] ∧ fraction = []))
    (hwhole : ∀ c ∈ whole, Text.isDecimalDigit c = true)
    (hfraction : ∀ c ∈ fraction, Text.isDecimalDigit c = true) (t : Text) :
    splitUnsigned? (whole ++ '.' :: fraction ++ t)
      = some (whole ++ '.' :: fraction ++ t.takeWhile Text.isDecimalDigit,
        t.dropWhile Text.isDecimalDigit) := by
  have hpoint : Text.isDecimalDigit '.' = false := by decide
  rw [List.append_assoc, List.cons_append,
    splitUnsigned?_of_point (Text.dropWhile_append_cons hwhole hpoint),
    Text.takeWhile_append_cons hwhole hpoint, List.takeWhile_append_of_pos hfraction,
    List.dropWhile_append_of_pos hfraction, if_neg]
  · simp
  · rintro ⟨hnil, happend⟩
    exact hne ⟨hnil, (List.append_eq_nil_iff.mp happend).1⟩

/-- What is taken off a text that starts with digits starts with these digits, and goes on with
digits and points. -/
theorem exists_splitUnsigned?_append (hbody : IsUnsigned whole fraction body)
    (hdigits : ∀ c ∈ whole ++ fraction, Text.isDecimalDigit c = true) (t : Text) :
    ∃ more rest, splitUnsigned? (body ++ t) = some (body ++ more, rest) ∧ t = more ++ rest
      ∧ ∀ c ∈ more, IsMark c := by
  have hwhole : ∀ c ∈ whole, Text.isDecimalDigit c = true :=
    fun c hc => hdigits c (List.mem_append_left _ hc)
  have hfraction : ∀ c ∈ fraction, Text.isDecimalDigit c = true :=
    fun c hc => hdigits c (List.mem_append_right _ hc)
  cases hbody with
  | whole hne => exact exists_splitUnsigned?_whole_append hne hwhole t
  | pointed hne =>
      exact ⟨_, _, splitUnsigned?_pointed_append hne hwhole hfraction t,
        List.takeWhile_append_dropWhile.symm, fun c => isMark_of_mem_takeWhile⟩

/-- What is taken off a text consists of digits with an optional point. -/
theorem exists_isUnsigned_of_splitUnsigned? (h : splitUnsigned? s = some (body, rest)) :
    s = body ++ rest ∧ ∃ whole fraction, IsUnsigned whole fraction body
      ∧ ∀ c ∈ whole ++ fraction, Text.isDecimalDigit c = true := by
  by_cases hpoint : ∃ after, s.dropWhile Text.isDecimalDigit = '.' :: after
  · obtain ⟨after, hafter⟩ := hpoint
    rw [splitUnsigned?_of_point hafter] at h
    split at h
    · exact absurd h (by simp)
    · rename_i hne
      obtain ⟨rfl, rfl⟩ := Prod.mk.inj (Option.some.inj h)
      refine ⟨Text.eq_append_of_dropWhile_eq_cons hafter, _, _, .pointed hne, ?_⟩
      intro c hc
      rcases List.mem_append.mp hc with hc | hc <;> exact List.mem_takeWhile_imp hc
  · rw [splitUnsigned?_of_no_point fun after hafter => hpoint ⟨after, hafter⟩] at h
    split at h
    · exact absurd h (by simp)
    · rename_i hne
      obtain ⟨rfl, rfl⟩ := Prod.mk.inj (Option.some.inj h)
      refine ⟨List.takeWhile_append_dropWhile.symm, _, _, .whole hne, ?_⟩
      intro c hc
      rw [List.append_nil] at hc
      exact List.mem_takeWhile_imp hc

/-- The sign is split off in front of the digits, whatever stands behind these. -/
theorem splitSign_append (hsign : IsSign negative sign) (hbody : IsUnsigned whole fraction body)
    (hdigits : ∀ c ∈ whole ++ fraction, Text.isDecimalDigit c = true) (t : Text) :
    splitSign (sign ++ (body ++ t)) = (sign, body ++ t) := by
  obtain ⟨first, more, rfl, hplus, hminus⟩ := hbody.exists_eq_cons hdigits
  cases hsign with
  | none => simp [splitSign, hplus, hminus]
  | plus => rfl
  | minus => rfl

/-- What is split off in front is a sign, and nothing is lost. -/
theorem exists_isSign_splitSign (s : Text) :
    s = (splitSign s).1 ++ (splitSign s).2 ∧ ∃ negative, IsSign negative (splitSign s).1 := by
  cases s with
  | nil => exact ⟨rfl, false, .none⟩
  | cons first rest =>
      rw [splitSign]
      split
      · rename_i hsign
        rcases hsign with rfl | rfl
        · exact ⟨rfl, false, .plus⟩
        · exact ⟨rfl, true, .minus⟩
      · exact ⟨rfl, false, .none⟩

/-- What is taken off a text that starts with a numeral starts with that numeral, and goes on with
digits and points. -/
theorem exists_splitNumeral?_append (hn : n.Spells numeral) (t : Text) :
    ∃ more rest, splitNumeral? (numeral ++ t) = some (numeral ++ more, rest) ∧ t = more ++ rest
      ∧ ∀ c ∈ more, IsMark c := by
  obtain ⟨⟨sign, body, rfl, hsign, hbody⟩, hdigits, -⟩ := hn
  obtain ⟨more, rest, hsplit, ht, hmarks⟩ := exists_splitUnsigned?_append hbody hdigits t
  refine ⟨more, rest, ?_, ht, hmarks⟩
  rw [splitNumeral?, List.append_assoc, splitSign_append hsign hbody hdigits, hsplit]
  simp

/-- What is taken off a text is a numeral at its head. -/
theorem exists_spells_of_splitNumeral? (h : splitNumeral? s = some (numeral, rest)) :
    s = numeral ++ rest ∧ ∃ n : Numeral, n.Spells numeral := by
  obtain ⟨⟨body, rest'⟩, hsplit, heq⟩ := Option.map_eq_some_iff.mp h
  obtain ⟨rfl, rfl⟩ := Prod.mk.inj heq
  obtain ⟨hs, negative, hsign⟩ := exists_isSign_splitSign s
  obtain ⟨hbody, whole, fraction, hunsigned, hdigits⟩ := exists_isUnsigned_of_splitUnsigned? hsplit
  refine ⟨?_, ⟨negative, whole, fraction, 0⟩, ⟨_, _, rfl, hsign, hunsigned⟩, hdigits, rfl⟩
  rw [List.append_assoc, ← hbody, ← hs]

/-- The numeral that is taken off a text is the longest at its head. -/
theorem splitNumeral?_eq_some_iff :
    splitNumeral? s = some (numeral, rest) ↔ LongestNumeral s numeral rest := by
  constructor
  · intro h
    obtain ⟨hs, hspells⟩ := exists_spells_of_splitNumeral? h
    refine ⟨hs, hspells, fun n other hn hprefix => ?_⟩
    obtain ⟨t, rfl⟩ := hprefix
    obtain ⟨more, rest', hsplit, -, -⟩ := exists_splitNumeral?_append hn t
    obtain ⟨rfl, -⟩ := Prod.mk.inj (Option.some.inj (h.symm.trans hsplit))
    exact (List.prefix_append other more).length_le
  · rintro ⟨rfl, ⟨n, hn⟩, hlongest⟩
    obtain ⟨more, rest', hsplit, hrest, -⟩ := exists_splitNumeral?_append hn rest
    obtain ⟨hs, m, hm⟩ := exists_spells_of_splitNumeral? hsplit
    -- What is taken off besides the numeral would make it longer.
    have hle := hlongest m _ hm ⟨rest', hs.symm⟩
    obtain rfl : more = [] := by
      rw [List.length_append] at hle
      exact List.eq_nil_of_length_eq_zero (by omega)
    rw [hsplit, hrest, List.append_nil, List.nil_append]

/-- Nothing is taken off a text exactly if no numeral stands at its head. -/
theorem splitNumeral?_eq_none_iff :
    splitNumeral? s = none ↔ ∀ (n : Numeral) (other : Text), n.Spells other → ¬ other <+: s := by
  constructor
  · rintro h n other hn ⟨t, rfl⟩
    obtain ⟨more, rest, hsplit, -, -⟩ := exists_splitNumeral?_append hn t
    exact absurd (h.symm.trans hsplit) (by simp)
  · intro h
    by_contra hne
    obtain ⟨⟨numeral, rest⟩, hsplit⟩ := Option.ne_none_iff_exists'.mp hne
    obtain ⟨hs, n, hn⟩ := exists_spells_of_splitNumeral? hsplit
    exact h n numeral hn ⟨rest, hs.symm⟩

/-- A numeral is the longest at the head of a text if neither a digit nor a point follows it. -/
theorem longestNumeral_append (hn : n.Spells numeral)
    (hstop : ∀ c, t.head? = some c → ¬ IsMark c) : LongestNumeral (numeral ++ t) numeral t := by
  obtain ⟨more, rest, hsplit, ht, hmarks⟩ := exists_splitNumeral?_append hn t
  obtain rfl : more = [] := by
    cases more with
    | nil => rfl
    | cons c more => exact absurd (hmarks c List.mem_cons_self) (hstop c (by rw [ht]; rfl))
  rw [← splitNumeral?_eq_some_iff, hsplit, ht, List.append_nil, List.nil_append]

end Quantity

end Frontmatter
