import Frontmatter.Text.Lowercase
import Mathlib.Data.List.Infix

/-! # Lower case in context

The lower case form of a capital sigma depends on the characters around it, and no other letter's
does. `lowercaseBetween` is the lower case form of a text between two others, and `IsSettled` says
of a text that its own characters decide the form of each sigma in it. These are the texts that are
still found when everything is put into lower case: `occursIn_lowercase_iff`. For all other texts
this is true once the two small sigmas are not told apart, by `occursIn_plain_lowercase`. -/

namespace Frontmatter

namespace Text

variable {before after q s t x y : Text} {c d : Char}

/-- A text occurs in another one if something can be put around it to get the other. -/
theorem occursIn_eq_true_iff : occursIn q t = true ↔ q <:+: t := by
  induction t with
  | nil => rw [occursIn, List.isEmpty_iff, List.infix_nil]
  | cons c t ih =>
      rw [occursIn, Bool.or_eq_true, List.isPrefixOf_iff_prefix, ih, List.infix_cons_iff]

/-! ## The characters around a sigma -/

/-- Whether the first character that counts for case is a cased letter, if there is one. -/
def firstCased? (s : Text) : Option Bool :=
  (s.dropWhile fun c => inRanges caseIgnorableRanges c.toNat).head?.map fun c =>
    inRanges casedRanges c.toNat

/-- A cased letter leads a text exactly if the first character that counts is one. -/
theorem leadsCased_eq (s : Text) : leadsCased s = (firstCased? s == some true) := by
  rw [leadsCased, firstCased?]
  cases s.dropWhile fun c => inRanges caseIgnorableRanges c.toNat with
  | nil => rfl
  | cons c rest =>
      change inRanges casedRanges c.toNat = (some (inRanges casedRanges c.toNat) == some true)
      cases inRanges casedRanges c.toNat <;> rfl

/-- What follows matters only as long as no character counts. -/
theorem firstCased?_append (s t : Text) :
    firstCased? (s ++ t) = (firstCased? s).or (firstCased? t) := by
  rw [firstCased?, firstCased?, firstCased?, List.dropWhile_append]
  cases s.dropWhile fun c => inRanges caseIgnorableRanges c.toNat <;> rfl

/-- The letter a counts for case, and it is cased. -/
theorem firstCased?_letter : firstCased? ['a'] = some true := by
  decide +kernel

/-- Whether a capital sigma takes its final form between two texts, of which the one before it is
given last character first. -/
def isFinal (before after : Text) : Bool :=
  leadsCased before && !leadsCased after

/-- A sigma is final behind a cased letter and in front of none. -/
theorem isFinal_iff : isFinal before after = true
    ↔ firstCased? before = some true ∧ firstCased? after ≠ some true := by
  rw [isFinal, leadsCased_eq, leadsCased_eq, Bool.and_eq_true, beq_iff_eq, Bool.not_eq_true',
    beq_eq_false_iff_ne]

/-- The lower case form of a character between two texts, of which the one before it is given last
character first. -/
def lowerAt (before : Text) (c : Char) (after : Text) : Text :=
  if c = 'Σ' then (if isFinal before after then ['ς'] else ['σ'])
  else if c = 'İ' then ['i', '\u0307']
  else [lowerChar c]

/-- Only a sigma is put into lower case by what is around it. -/
theorem lowerAt_of_ne (hc : c ≠ 'Σ') (before after before' after' : Text) :
    lowerAt before c after = lowerAt before' c after' := by
  rw [lowerAt, lowerAt, if_neg hc, if_neg hc]

/-- A capital sigma becomes one of the two small ones. -/
theorem lowerAt_sigma (before after : Text) :
    lowerAt before 'Σ' after = [if isFinal before after then 'ς' else 'σ'] := by
  rw [lowerAt, if_pos rfl]
  split <;> rfl

/-- Nothing is left to put into lower case. -/
theorem lowercaseAfter_nil (before : Text) : lowercaseAfter before [] = [] := by
  rw [lowercaseAfter]

/-- The first character is put into lower case between what is before it and the rest. -/
theorem lowercaseAfter_cons (before : Text) (c : Char) (rest : Text) :
    lowercaseAfter before (c :: rest)
      = lowerAt before c rest ++ lowercaseAfter (c :: before) rest := by
  rw [lowercaseAfter]
  rfl

/-- The lower case form of a text between two others, of which the one before it is given last
character first. -/
def lowercaseBetween : Text → Text → Text → Text
  | _, [], _ => []
  | before, c :: rest, after =>
    lowerAt before c (rest ++ after) ++ lowercaseBetween (c :: before) rest after

/-- A text with another one behind it is put into lower case between what is before it and the
other. -/
theorem lowercaseAfter_append (before q after : Text) :
    lowercaseAfter before (q ++ after)
      = lowercaseBetween before q after ++ lowercaseAfter (q.reverse ++ before) after := by
  induction q generalizing before with
  | nil => rfl
  | cons c q ih =>
      rw [List.cons_append, lowercaseAfter_cons, ih, lowercaseBetween, List.append_assoc,
        List.reverse_cons, List.append_assoc, List.singleton_append]

/-- A whole text is put into lower case with nothing around it. -/
theorem lowercase_eq_lowercaseBetween (q : Text) : lowercase q = lowercaseBetween [] q [] := by
  have h := lowercaseAfter_append [] q []
  rwa [List.append_nil, lowercaseAfter_nil, List.append_nil] at h

/-- Of two texts in a row, each is put into lower case with the other beside it. -/
theorem lowercaseBetween_append (before x y after : Text) :
    lowercaseBetween before (x ++ y) after
      = lowercaseBetween before x (y ++ after)
        ++ lowercaseBetween (x.reverse ++ before) y after := by
  induction x generalizing before with
  | nil => rfl
  | cons c x ih =>
      rw [List.cons_append, lowercaseBetween, lowercaseBetween, ih, List.append_assoc,
        List.append_assoc, List.reverse_cons, List.append_assoc, List.singleton_append]

/-! ## Settled texts -/

/-- The characters before a capital sigma, last first, and those after it decide its form. A cased
letter after it does, and so does a character before it that counts for case and is no cased letter;
otherwise characters that count are needed on both sides. -/
def SettlesSigma (before after : Text) : Prop :=
  firstCased? after = some true ∨ firstCased? before = some false
    ∨ (firstCased? before ≠ none ∧ firstCased? after ≠ none)

/-- Behind some characters, given last first, a text and these decide the form of each capital sigma
in the text. -/
def SettledBehind (before q : Text) : Prop :=
  ∀ x y, q = x ++ 'Σ' :: y → SettlesSigma (x.reverse ++ before) y

/-- A text decides the form of each capital sigma in it. -/
def IsSettled (q : Text) : Prop :=
  ∀ x y, q = x ++ 'Σ' :: y → SettlesSigma x.reverse y

/-- Whether a sigma is settled is read off the first characters that count on both sides. -/
instance (before after : Text) : Decidable (SettlesSigma before after) := by
  unfold SettlesSigma
  infer_instance

/-- A settled text is one that is settled behind nothing. -/
theorem isSettled_iff : IsSettled q ↔ SettledBehind [] q := by
  simp only [IsSettled, SettledBehind, List.append_nil]

/-- Without a sigma there is nothing to settle. -/
theorem settledBehind_nil (before : Text) : SettledBehind before [] :=
  fun x _ h => absurd h.symm (List.append_ne_nil_of_right_ne_nil x (List.cons_ne_nil _ _))

/-- A text is settled if a sigma at its head is, and if the rest is settled behind its first
character. -/
theorem settledBehind_cons :
    SettledBehind before (c :: q)
      ↔ (c = 'Σ' → SettlesSigma before q) ∧ SettledBehind (c :: before) q := by
  constructor
  · intro h
    refine ⟨?_, fun x y hq => ?_⟩
    · rintro rfl
      exact h [] q rfl
    · have hsettled := h (c :: x) y (by rw [hq, List.cons_append])
      rwa [List.reverse_cons, List.append_assoc, List.singleton_append] at hsettled
  · rintro ⟨hhead, htail⟩ x y hq
    cases x with
    | nil =>
        obtain ⟨rfl, rfl⟩ := List.cons.inj hq
        exact hhead rfl
    | cons c' x =>
        obtain ⟨rfl, rfl⟩ := List.cons.inj hq
        rw [List.reverse_cons, List.append_assoc, List.singleton_append]
        exact htail x y rfl

/-- Whether a text is settled behind some characters is found out going through it. -/
def decideSettledBehind : (before q : Text) → Decidable (SettledBehind before q)
  | before, [] => .isTrue (settledBehind_nil before)
  | before, c :: q =>
    have := decideSettledBehind (c :: before) q
    decidable_of_iff' _ settledBehind_cons

/-- Whether a text is settled is found out going through it. -/
instance (q : Text) : Decidable (IsSettled q) :=
  have := decideSettledBehind [] q
  decidable_of_iff' _ isSettled_iff

/-- Where the form of a sigma is decided, what is farther away does not matter. -/
theorem SettlesSigma.isFinal_append (h : SettlesSigma x y) (before after : Text) :
    isFinal (x ++ before) (y ++ after) = isFinal x y := by
  rw [isFinal, isFinal, leadsCased_eq, leadsCased_eq, leadsCased_eq, leadsCased_eq,
    firstCased?_append, firstCased?_append]
  rw [SettlesSigma] at h
  -- On either side there is nothing that counts, or a cased letter, or another character.
  generalize firstCased? x = u at h ⊢
  generalize firstCased? y = v at h ⊢
  rcases u with - | - | - <;> rcases v with - | - | - <;> simp_all

/-- A settled text has the same lower case form between any two others. -/
theorem SettledBehind.lowercaseBetween_append (h : SettledBehind x q) (before after : Text) :
    lowercaseBetween (x ++ before) q after = lowercaseBetween x q [] := by
  induction q generalizing x with
  | nil => rfl
  | cons c q ih =>
      obtain ⟨hhead, htail⟩ := settledBehind_cons.mp h
      have hc : lowerAt (x ++ before) c (q ++ after) = lowerAt x c q := by
        by_cases hsigma : c = 'Σ'
        · rw [hsigma, lowerAt_sigma, lowerAt_sigma, (hhead hsigma).isFinal_append]
        · exact lowerAt_of_ne hsigma _ _ _ _
      rw [lowercaseBetween, lowercaseBetween, List.append_nil, hc, ← List.cons_append, ih htail]

/-- What a settled text occurs in has its lower case form in lower case. -/
theorem IsSettled.lowercase_infix (h : IsSettled q) (hq : q <:+: t) :
    lowercase q <:+: lowercase t := by
  obtain ⟨s, s', rfl⟩ := hq
  refine ⟨lowercaseBetween [] s (q ++ s'), lowercaseAfter (q.reverse ++ s.reverse) s', ?_⟩
  have hmiddle : lowercaseBetween s.reverse q s' = lowercase q := by
    have hsame := (isSettled_iff.mp h).lowercaseBetween_append s.reverse s'
    rwa [List.nil_append, ← lowercase_eq_lowercaseBetween] at hsame
  rw [← hmiddle, lowercase, List.append_assoc s q s', lowercaseAfter_append,
    lowercaseAfter_append, List.append_nil, List.append_assoc]

/-! ## Unsettled texts -/

/-- If each sigma of a text has a form at most as often between two texts as between two others,
then that form occurs at most as often there. -/
theorem count_lowercaseBetween_le {before before' after after' : Text}
    (h : ∀ x y, q = x ++ 'Σ' :: y →
      (lowerAt (x.reverse ++ before) 'Σ' (y ++ after)).count d
        ≤ (lowerAt (x.reverse ++ before') 'Σ' (y ++ after')).count d) :
    (lowercaseBetween before q after).count d ≤ (lowercaseBetween before' q after').count d := by
  induction q generalizing before before' with
  | nil => exact Nat.le_refl _
  | cons c q ih =>
      rw [lowercaseBetween, lowercaseBetween, List.count_append, List.count_append]
      refine Nat.add_le_add ?_ (ih fun x y hq => ?_)
      · by_cases hsigma : c = 'Σ'
        · subst hsigma
          exact h [] q rfl
        · exact Nat.le_of_eq (by rw [lowerAt_of_ne hsigma])
      · have hle := h (c :: x) y (by rw [hq, List.cons_append])
        simpa only [List.reverse_cons, List.append_assoc, List.singleton_append] using hle

/-- If moreover one of the sigmas does not have the form there, it occurs less often. -/
theorem count_lowercaseBetween_lt {before before' after after' : Text}
    (h : ∀ x y, q = x ++ 'Σ' :: y →
      (lowerAt (x.reverse ++ before) 'Σ' (y ++ after)).count d
        ≤ (lowerAt (x.reverse ++ before') 'Σ' (y ++ after')).count d)
    (hq : q = x ++ 'Σ' :: y)
    (hlt : (lowerAt (x.reverse ++ before) 'Σ' (y ++ after)).count d
      < (lowerAt (x.reverse ++ before') 'Σ' (y ++ after')).count d) :
    (lowercaseBetween before q after).count d < (lowercaseBetween before' q after').count d := by
  subst hq
  -- The text is cut at the sigma. Before it and behind it the form occurs at most as often.
  have hx : (lowercaseBetween before x ('Σ' :: y ++ after)).count d
      ≤ (lowercaseBetween before' x ('Σ' :: y ++ after')).count d := by
    refine count_lowercaseBetween_le fun u v hx => ?_
    have hle := h u (v ++ 'Σ' :: y) (by rw [hx, List.append_assoc, List.cons_append])
    simpa only [List.append_assoc] using hle
  have hy : (lowercaseBetween ('Σ' :: (x.reverse ++ before)) y after).count d
      ≤ (lowercaseBetween ('Σ' :: (x.reverse ++ before')) y after').count d := by
    refine count_lowercaseBetween_le fun u v hy => ?_
    have hle := h (x ++ 'Σ' :: u) v (by rw [hy, List.append_assoc, List.cons_append])
    simpa only [List.reverse_append, List.reverse_cons, List.append_assoc, List.cons_append,
      List.nil_append] using hle
  simp only [Text.lowercaseBetween_append, lowercaseBetween, List.count_append]
  omega

/-- Wherever a sigma becomes final, it gets the final form at least as often. -/
theorem count_final_le {before before' after after' : Text}
    (h : isFinal before after = true → isFinal before' after' = true) :
    (lowerAt before 'Σ' after).count 'ς' ≤ (lowerAt before' 'Σ' after').count 'ς' := by
  rw [lowerAt_sigma, lowerAt_sigma]
  cases hfinal : isFinal before after with
  | false => exact Nat.zero_le _
  | true => rw [h hfinal]

/-- Wherever a sigma becomes final, it keeps the other form at most as often. -/
theorem count_inner_le {before before' after after' : Text}
    (h : isFinal before after = true → isFinal before' after' = true) :
    (lowerAt before' 'Σ' after').count 'σ' ≤ (lowerAt before 'Σ' after).count 'σ' := by
  rw [lowerAt_sigma, lowerAt_sigma]
  cases hfinal : isFinal before after with
  | false => cases isFinal before' after' <;> decide
  | true => rw [h hfinal]

/-- A letter in front makes sigmas final that have nothing before them that counts, and leaves the
others final. The inner form of a sigma is then less frequent. -/
theorem not_infix_lowercase_cons (hq : q = x ++ 'Σ' :: y) (hx : firstCased? x.reverse = none)
    (hy : firstCased? y ≠ some true) : ¬ lowercase q <:+: lowercase ('a' :: q) := by
  intro hinfix
  -- Behind the letter there are fewer sigmas of the inner form, and the letter is none.
  have hlt : (lowercaseBetween ['a'] q []).count 'σ' < (lowercaseBetween [] q []).count 'σ' := by
    refine count_lowercaseBetween_lt (fun u v _ => count_inner_le fun hfinal => ?_) hq ?_
    · rw [List.append_nil, isFinal_iff] at hfinal
      rw [isFinal_iff, firstCased?_append, hfinal.1]
      exact ⟨rfl, hfinal.2⟩
    · have hthere : isFinal (x.reverse ++ ['a']) y = true := by
        rw [isFinal_iff, firstCased?_append, hx, firstCased?_letter]
        exact ⟨rfl, hy⟩
      have hhere : isFinal x.reverse y = false := by
        rw [← Bool.not_eq_true, isFinal_iff, hx]
        simp
      rw [List.append_nil, List.append_nil, lowerAt_sigma, lowerAt_sigma, hthere, hhere]
      decide
  have hlower : lowercase ('a' :: q) = 'a' :: lowercaseBetween ['a'] q [] := by
    rw [lowercase_eq_lowercaseBetween, lowercaseBetween]
    rfl
  have hle := hinfix.sublist.count_le 'σ'
  rw [hlower, List.count_cons_of_ne (by decide), lowercase_eq_lowercaseBetween] at hle
  exact Nat.not_le.mpr hlt hle

/-- A letter behind takes the final form from sigmas that have nothing after them that counts, and
gives it to none. -/
theorem not_infix_lowercase_concat (hq : q = x ++ 'Σ' :: y)
    (hx : firstCased? x.reverse = some true) (hy : firstCased? y = none) :
    ¬ lowercase q <:+: lowercase (q ++ ['a']) := by
  intro hinfix
  -- In front of the letter there are fewer final sigmas, and the letter is none.
  have hlt : (lowercaseBetween [] q ['a']).count 'ς' < (lowercaseBetween [] q []).count 'ς' := by
    refine count_lowercaseBetween_lt (fun u v _ => count_final_le fun hfinal => ?_) hq ?_
    · rw [isFinal_iff] at hfinal
      rw [List.append_nil v, isFinal_iff]
      refine ⟨hfinal.1, fun hv => hfinal.2 ?_⟩
      rw [firstCased?_append, hv]
      rfl
    · have hthere : isFinal x.reverse (y ++ ['a']) = false := by
        rw [← Bool.not_eq_true, isFinal_iff, firstCased?_append, hy, firstCased?_letter]
        simp
      have hhere : isFinal x.reverse y = true := by
        rw [isFinal_iff, hx, hy]
        simp
      rw [List.append_nil, List.append_nil, lowerAt_sigma, lowerAt_sigma, hthere, hhere]
      decide
  have hlower : lowercase (q ++ ['a']) = lowercaseBetween [] q ['a'] ++ ['a'] := by
    rw [lowercase, lowercaseAfter_append]
    rfl
  have hle := hinfix.sublist.count_le 'ς'
  rw [hlower, List.count_append, List.count_eq_zero_of_not_mem (by decide : 'ς' ∉ ['a']),
    Nat.add_zero, lowercase_eq_lowercaseBetween] at hle
  exact Nat.not_le.mpr hlt hle

/-- A text in which a sigma is not settled occurs in another one whose lower case form it does not
occur in. The other one has a letter more. -/
theorem exists_infix_of_not_isSettled (h : ¬ IsSettled q) :
    ∃ t, q <:+: t ∧ ¬ lowercase q <:+: lowercase t := by
  rw [IsSettled] at h
  push Not at h
  obtain ⟨x, y, hq, hunsettled⟩ := h
  rw [SettlesSigma, not_or, not_or, not_and_or, not_not, not_not] at hunsettled
  obtain ⟨hy, hx, hnone⟩ := hunsettled
  -- The letter goes to the side on which nothing counts.
  cases hbefore : firstCased? x.reverse with
  | none =>
      exact ⟨'a' :: q, List.infix_cons List.infix_rfl, not_infix_lowercase_cons hq hbefore hy⟩
  | some cased =>
      obtain rfl : cased = true := by
        rw [hbefore, Option.some_inj, Bool.not_eq_false] at hx
        exact hx
      have hafter : firstCased? y = none := hnone.resolve_left (by simp [hbefore])
      exact ⟨q ++ ['a'], (List.prefix_append q ['a']).isInfix,
        not_infix_lowercase_concat hq hbefore hafter⟩

/-- **A text is found in lower case wherever it occurs exactly if it is settled.** -/
theorem occursIn_lowercase_iff :
    (∀ t, occursIn q t = true → occursIn (lowercase q) (lowercase t) = true) ↔ IsSettled q := by
  simp only [occursIn_eq_true_iff]
  constructor
  · intro h
    by_contra hunsettled
    obtain ⟨t, ht, hnot⟩ := exists_infix_of_not_isSettled hunsettled
    exact hnot (h t ht)
  · exact fun h t ht => h.lowercase_infix ht

/-! ## Small sigmas -/

/-- A text in which the final sigma is not told apart from the other small sigma. -/
def plain (s : Text) : Text :=
  s.map fun c => if c = 'ς' then 'σ' else c

/-- The plain form of two texts in a row is made up of theirs. -/
theorem plain_append (s t : Text) : plain (s ++ t) = plain s ++ plain t :=
  List.map_append

/-- Sigmas apart, letters are put into lower case one by one. -/
theorem plain_lowercaseAfter (before s : Text) :
    plain (lowercaseAfter before s) = s.flatMap fun c => plain (lowerAt [] c []) := by
  induction s generalizing before with
  | nil => rfl
  | cons c s ih =>
      have hc : plain (lowerAt before c s) = plain (lowerAt [] c []) := by
        by_cases hsigma : c = 'Σ'
        · rw [hsigma, lowerAt_sigma, lowerAt_sigma]
          split <;> rfl
        · rw [lowerAt_of_ne hsigma]
      rw [lowercaseAfter_cons, plain_append, ih, hc, List.flatMap_cons]

/-- Wherever a text occurs, it is found in lower case up to the forms of sigmas. -/
theorem occursIn_plain_lowercase (h : occursIn q t = true) :
    occursIn (plain (lowercase q)) (plain (lowercase t)) = true := by
  rw [occursIn_eq_true_iff] at h ⊢
  obtain ⟨s, s', rfl⟩ := h
  rw [lowercase, lowercase, plain_lowercaseAfter, plain_lowercaseAfter, List.flatMap_append,
    List.flatMap_append]
  exact List.infix_append _ _ _

end Text

end Frontmatter
