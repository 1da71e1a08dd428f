import Frontmatter.CommandLine.Run
import Frontmatter.Proofs.Selection.Origin

/-! # Picking keys of an offer

Keys that are picked by name are confirmed one after the other in a selection that is bound to the
offer, and then the selection is closed. Confirming stops at a key that is not offered
(`exists_confirmAll_eq_error_iff`). Where keys are picked together, each confirmed key is a toggle,
so that `Selection.Picks` holds from key to key (`picks_of_confirmAll`) and the keys that are left
are inserted at the end. `picked_keys_are_inserted` says what comes out for any list of keys. -/

namespace Frontmatter

open Selection (Picks)

/-! ## Outcomes that may fail -/

section

variable {ε α β : Type} {x : Except ε α} {f : α → β}

/-- A changed outcome is a failure exactly if it was one before. -/
theorem exists_map_eq_error_iff : (∃ e, x.map f = .error e) ↔ ∃ e, x = .error e := by
  cases x <;> simp [Except.map]

/-- A changed outcome is good exactly if it is the change of a good one. -/
theorem map_eq_ok_iff {y : β} : x.map f = .ok y ↔ ∃ a, x = .ok a ∧ f a = y := by
  cases x <;> simp [Except.map]

end

/-! ## Confirming -/

variable {o : Offer} {autoIndent : Bool} {keys toggles : List Text} {s : Selection}

/-- Nothing is inserted exactly if there are no keys. -/
theorem Insertion.ofKeys?_eq_none_iff {c : Context} :
    ofKeys? c keys autoIndent = none ↔ keys = [] := by
  rw [ofKeys?, Option.map_eq_none_iff, List.getLast?_eq_none_iff]

/-- What is inserted are the keys. -/
theorem Insertion.keys_of_ofKeys? {c : Context} {i : Insertion}
    (h : ofKeys? c keys autoIndent = some i) : i.keys = keys := by
  have hkeys := map_keys_ofKeys? c keys autoIndent
  rw [h, Option.map_some] at hkeys
  split at hkeys
  · exact absurd hkeys (by simp)
  · exact Option.some.inj hkeys

/-- The test for a key finds the keys that are offered. -/
theorem any_key_iff {key : Text} :
    o.suggestions.any (·.key = key) = true ↔ key ∈ o.suggestions.map (·.key) := by
  simp [List.any_eq_true]

/-- Confirming keys fails exactly if one of them is not offered. -/
theorem exists_confirmAll_eq_error_iff (s : Selection) :
    (∃ why, confirmAll o autoIndent s keys = .error why)
      ↔ ∃ key ∈ keys, key ∉ o.suggestions.map (·.key) := by
  -- What confirming a key makes of the selection does not matter for the keys behind it.
  induction keys generalizing s with
  | nil => simp [confirmAll]
  | cons key keys ih =>
      rw [confirmAll, List.exists_mem_cons_iff]
      by_cases hkey : key ∈ o.suggestions.map (·.key)
      · rw [if_pos (any_key_iff.mpr hkey), exists_map_eq_error_iff, ih]
        exact (or_iff_right (not_not.mpr hkey)).symm
      · rw [if_neg (mt any_key_iff.mp hkey)]
        exact iff_of_true ⟨_, rfl⟩ (.inl hkey)

/-- Where keys are picked together, confirming keys toggles them in their order and inserts
nothing. -/
theorem picks_of_confirmAll (hmode : s.mode = .multi) (hp : Picks toggles s.selected)
    {r : Selection × List Insertion} (hr : confirmAll o autoIndent s keys = .ok r) :
    r.1.mode = .multi ∧ Picks (keys.reverse ++ toggles) r.1.selected ∧ r.2 = [] := by
  induction keys generalizing s toggles r with
  | nil =>
      obtain rfl := Except.ok.inj hr
      exact ⟨hmode, hp, rfl⟩
  | cons key keys ih =>
      rw [confirmAll] at hr
      split at hr
      · rw [Selection.confirm_of_multi hmode] at hr
        obtain ⟨last, hlast, rfl⟩ := map_eq_ok_iff.mp hr
        obtain ⟨hmode', hp', hnone⟩ := ih (s := s.toggle key) hmode (hp.toggle key) hlast
        refine ⟨hmode', ?_, hnone⟩
        -- The first key was toggled before the others, and the latest toggle stands first.
        rwa [List.reverse_cons, List.append_assoc]
      · exact absurd hr (by simp)

/-- No keys are left exactly if each was toggled an even number of times. -/
theorem Selection.Picks.eq_nil_iff {selected : List Text} (hp : Picks toggles selected) :
    selected = [] ↔ ∀ key, Even (toggles.count key) := by
  simp only [List.eq_nil_iff_forall_not_mem, hp.mem_iff, Nat.not_odd_iff_even]

/-! ## What is inserted -/

/-- Picking keys fails exactly if there are several where keys are picked one at a time, or if one
of them is not offered. -/
theorem exists_insertPicked_eq_error_iff {document : Text} :
    (∃ why, insertPicked o document autoIndent keys = .error why)
      ↔ (o.mode = .single ∧ 1 < keys.length) ∨ ∃ key ∈ keys, key ∉ o.suggestions.map (·.key) := by
  rw [insertPicked]
  split
  · rename_i hmany
    exact iff_of_true ⟨_, rfl⟩ (.inl hmany)
  · rename_i hmany
    rw [exists_map_eq_error_iff, exists_confirmAll_eq_error_iff]
    exact (or_iff_right hmany).symm

/-- Picked keys make the insertions of confirming them, and that of closing the selection. -/
theorem insertPicked_eq_ok_iff {document : Text} {is : List Insertion} :
    insertPicked o document autoIndent keys = .ok is
      ↔ ¬ (o.mode = .single ∧ 1 < keys.length)
        ∧ ∃ r, confirmAll o autoIndent (Workspace.bind .new document o) keys = .ok r
          ∧ r.2 ++ (r.1.close o.context autoIndent).2.toList = is := by
  rw [insertPicked]
  split
  · rename_i hmany
    simp [hmany]
  · rename_i hmany
    rw [map_eq_ok_iff]
    exact (and_iff_right hmany).symm

/-- A picked key is inserted at once where keys are picked one at a time. -/
theorem exists_of_insertPicked_single (hmode : o.mode = .single) {key document : Text}
    {is : List Insertion} (h : insertPicked o document autoIndent [key] = .ok is) :
    ∃ i, is = [i] ∧ Insertion.ofKeys? o.context [key] autoIndent = some i := by
  obtain ⟨-, r, hr, rfl⟩ := insertPicked_eq_ok_iff.mp h
  obtain ⟨i, hi⟩ : ∃ i, Insertion.ofKeys? o.context [key] autoIndent = some i :=
    Option.ne_none_iff_exists'.mp (mt Insertion.ofKeys?_eq_none_iff.mp (List.cons_ne_nil key []))
  have hbind : (Workspace.bind .new document o).mode = .single :=
    (Selection.mode_bind _ _ _).trans hmode
  -- Confirming the key leaves a new selection, and closing that inserts nothing more.
  have hconfirm : (Workspace.bind .new document o).confirm key o.context autoIndent
      = (.new, some i) := by
    rw [Selection.confirm, hbind, hi]
  rw [confirmAll] at hr
  split at hr
  · rw [hconfirm] at hr
    obtain rfl := Except.ok.inj hr
    exact ⟨i, rfl, hi⟩
  · exact absurd hr (by simp)

/-- Where keys are picked together, those that are left are inserted together at the end. -/
theorem exists_of_insertPicked_multi (hmode : o.mode = .multi) {document : Text}
    {is : List Insertion} (h : insertPicked o document autoIndent keys = .ok is) :
    ∃ selected, Picks keys.reverse selected
      ∧ is = (Insertion.ofKeys? o.context selected autoIndent).toList := by
  obtain ⟨-, r, hr, rfl⟩ := insertPicked_eq_ok_iff.mp h
  have hbind : (Workspace.bind .new document o).mode = .multi :=
    (Selection.mode_bind _ _ _).trans hmode
  have hstart : Picks [] (Workspace.bind .new document o).selected := .nil
  obtain ⟨hmode', hp, hnone⟩ := picks_of_confirmAll hbind hstart hr
  rw [List.append_nil] at hp
  exact ⟨r.1.selected, hp, by rw [hnone, Selection.close, hmode', List.nil_append]⟩

/-- **Picked keys are inserted once.** Picking keys of an offer fails exactly if there are several
where keys are picked one at a time, or if one of them is not offered. Otherwise there is at most
one insertion. Where keys are picked one at a time, it inserts the key. Where they are picked
together, there is none exactly if each key is picked an even number of times, and it inserts those
that are picked an odd number of times, each once and in the order in which they were picked
last. -/
theorem picked_keys_are_inserted (hne : keys ≠ []) (o : Offer) (document : Text)
    (autoIndent : Bool) :
    ((∃ why, insertPicked o document autoIndent keys = .error why)
        ↔ (o.mode = .single ∧ 1 < keys.length) ∨ ∃ key ∈ keys, key ∉ o.suggestions.map (·.key))
      ∧ ∀ is, insertPicked o document autoIndent keys = .ok is →
          is.length ≤ 1
            ∧ (o.mode = .single → ∃ key i, keys = [key] ∧ is = [i]
                ∧ Insertion.ofKeys? o.context [key] autoIndent = some i)
            ∧ (o.mode = .multi → (is = [] ↔ ∀ key, Even (keys.count key))
                ∧ ∀ i ∈ is, Picks keys.reverse i.keys
                  ∧ Insertion.ofKeys? o.context i.keys autoIndent = some i) := by
  refine ⟨exists_insertPicked_eq_error_iff, fun is his => ?_⟩
  cases hmode : o.mode with
  | single =>
      obtain ⟨hmany, -⟩ := insertPicked_eq_ok_iff.mp his
      obtain ⟨key, rfl⟩ : ∃ key, keys = [key] := by
        have hpos := List.length_pos_iff.mpr hne
        have hle : ¬ 1 < keys.length := fun hlt => hmany ⟨hmode, hlt⟩
        exact List.length_eq_one_iff.mp (by omega)
      obtain ⟨i, rfl, hi⟩ := exists_of_insertPicked_single hmode his
      exact ⟨Nat.le_refl 1, fun _ => ⟨key, i, rfl, rfl, hi⟩, SelectionMode.noConfusion⟩
  | multi =>
      obtain ⟨selected, hp, rfl⟩ := exists_of_insertPicked_multi hmode his
      refine ⟨Option.length_toList_le, SelectionMode.noConfusion, fun _ => ⟨?_, fun i hi => ?_⟩⟩
      · rw [Option.toList_eq_nil_iff, Insertion.ofKeys?_eq_none_iff, hp.eq_nil_iff]
        simp only [List.count_reverse]
      · have hsome := Option.mem_toList.mp hi
        rw [Insertion.keys_of_ofKeys? hsome]
        exact ⟨hp, hsome⟩

/-- Three keys are offered below a field, to be picked together. -/
def tripleOffer : Offer :=
  { context := Selection.outermostContext 1 ['n'], ruleId := ['r'], mode := .multi
    suggestions := [['a'], ['b'], ['c']].map fun key => ⟨['r'], key, key, keyText key, none⟩ }

/-- Of keys that are picked three times, twice and once, the first and the last are inserted. The
one that is picked again at the end comes last. -/
theorem picked_keys_are_inserted_of_tripleOffer :
    ∃ i, insertPicked tripleOffer ['d'] true [['a'], ['b'], ['a'], ['c'], ['b'], ['a']] = .ok [i]
      ∧ i.keys = [['c'], ['a']]
      ∧ Picks [['a'], ['b'], ['c'], ['a'], ['b'], ['a']] [['c'], ['a']]
      ∧ Insertion.ofKeys? tripleOffer.context [['c'], ['a']] true = some i
      ∧ ∃ why, insertPicked tripleOffer ['d'] true [['a'], ['e']] = .error why := by
  have hmain := picked_keys_are_inserted
    (List.cons_ne_nil ['a'] [['b'], ['a'], ['c'], ['b'], ['a']]) tripleOffer ['d'] true
  obtain ⟨-, hmulti⟩ := (hmain.2 _ rfl).2
  obtain ⟨hp, hi⟩ := (hmulti rfl).2 _ List.mem_cons_self
  refine ⟨_, rfl, by decide, hp, hi, ?_⟩
  exact (picked_keys_are_inserted (List.cons_ne_nil ['a'] [['e']]) tripleOffer ['d'] true).1.mpr
    (.inr ⟨['e'], by decide, by decide⟩)

end Frontmatter
