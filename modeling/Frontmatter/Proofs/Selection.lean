import Frontmatter.Selection
import Mathlib.Algebra.Ring.Parity
import Mathlib.Data.List.Nodup

/-! # What a selection holds

A selection is determined by what was done to it. `after` is the selection that a list of acts leads
to, the latest first, and `togglesSinceReset` reads off the acts which keys were toggled since the
selection last started over. `Picks` says that the picked keys are the ones toggled an odd number of
times, in the order of their last toggles. One toggle keeps it (`Picks.toggle`), and so it holds
after all acts. -/

namespace Frontmatter

/-- Inserting keys inserts all of them, unless there are none. -/
theorem Insertion.map_keys_ofKeys? (c : Context) (keys : List Text) (autoIndent : Bool) :
    (ofKeys? c keys autoIndent).map (·.keys) = if keys = [] then none else some keys := by
  cases hlast : keys.getLast? with
  | none =>
      obtain rfl := List.getLast?_eq_none_iff.mp hlast
      rfl
  | some last =>
      have hne : keys ≠ [] := fun hnil => by simp [hnil] at hlast
      rw [ofKeys?, hlast, Option.map_some, Option.map_some, if_neg hne]
      cases hkind : c.kind <;> rfl

namespace Selection

/-- What can be done to a selection. -/
inductive Act where
  /-- It is bound to a place. -/
  | bind (trigger : Trigger) (mode : SelectionMode)
  /-- A key is confirmed at a context. -/
  | confirm (key : Text) (c : Context) (autoIndent : Bool)
  /-- A key is picked, or no longer picked. -/
  | toggle (key : Text)
  /-- It is closed at a context. -/
  | close (c : Context) (autoIndent : Bool)

/-- The selection after an act. -/
def Act.apply (s : Selection) : Act → Selection
  | bind trigger mode => s.bind trigger mode
  | confirm key c autoIndent => (s.confirm key c autoIndent).1
  | toggle key => s.toggle key
  | close c autoIndent => (s.close c autoIndent).1

/-- The selection that acts lead to from a new one. The latest act comes first. -/
def after : List Act → Selection
  | [] => new
  | a :: acts => a.apply (after acts)

/-- Whether an act makes a selection start over: it is bound to another place or in another mode, a
key is confirmed where keys are picked one at a time, or it is closed. -/
def Act.Resets (s : Selection) : Act → Prop
  | bind trigger mode => s.trigger ≠ some trigger ∨ s.mode ≠ mode
  | confirm _ _ _ => s.mode = .single
  | toggle _ => False
  | close _ _ => True

/-- The key that an act toggles. Confirming a key toggles it where keys are picked together. -/
def Act.toggled? (s : Selection) : Act → Option Text
  | confirm key _ _ => if s.mode = .multi then some key else none
  | toggle key => some key
  | bind _ _ | close _ _ => none

/-- Whether an act makes a selection start over is read off the act. -/
instance (s : Selection) : DecidablePred (Act.Resets s)
  | .bind _ _ => inferInstanceAs (Decidable (_ ∨ _))
  | .confirm _ _ _ => inferInstanceAs (Decidable (s.mode = .single))
  | .toggle _ => inferInstanceAs (Decidable False)
  | .close _ _ => inferInstanceAs (Decidable True)

/-- The keys that were toggled since the selection last started over, the latest first. -/
def togglesSinceReset : List Act → List Text
  | [] => []
  | a :: acts =>
    if a.Resets (after acts) then []
    else (a.toggled? (after acts)).toList ++ togglesSinceReset acts

variable {s : Selection} {toggles : List Text} {key : Text}

/-! ## Binding -/

/-- A selection that is bound to a place stands there, whether or not it did before. -/
theorem trigger_bind (s : Selection) (trigger : Trigger) (mode : SelectionMode) :
    (s.bind trigger mode).trigger = some trigger := by
  rw [bind]
  split
  case isTrue hsame => exact hsame.1
  case isFalse => rfl

/-- A selection that is bound in a mode has that mode, whether or not it did before. -/
theorem mode_bind (s : Selection) (trigger : Trigger) (mode : SelectionMode) :
    (s.bind trigger mode).mode = mode := by
  rw [bind]
  split
  case isTrue hsame => exact hsame.2
  case isFalse => rfl

/-! ## What one act changes -/

/-- Toggling a key that is picked takes it out. -/
theorem toggle_of_mem (hkey : key ∈ s.selected) :
    s.toggle key = { s with selected := s.selected.erase key } := by
  have hcontains : s.contains key = true := List.contains_iff_mem.mpr hkey
  rw [toggle, if_pos hcontains]

/-- Toggling a key that is not picked puts it behind the others. -/
theorem toggle_of_not_mem (hkey : key ∉ s.selected) :
    s.toggle key = { s with selected := s.selected ++ [key] } := by
  have hcontains : ¬ s.contains key = true := mt List.contains_iff_mem.mp hkey
  rw [toggle, if_neg hcontains]

/-- Confirming a key where keys are picked together toggles it and inserts nothing. -/
theorem confirm_of_multi (hmode : s.mode = .multi) (key : Text) (c : Context) (autoIndent : Bool) :
    s.confirm key c autoIndent = (s.toggle key, none) := by
  rw [confirm, hmode]

/-- Nothing is picked in a selection that starts over. -/
theorem selected_of_resets {a : Act} (ha : a.Resets s) : (a.apply s).selected = [] := by
  cases a with
  | bind trigger mode =>
      have hother : ¬ (s.trigger = some trigger ∧ s.mode = mode) := not_and_or.mpr ha
      rw [Act.apply, bind, if_neg hother]
  | confirm key c autoIndent =>
      have hmode : s.mode = .single := ha
      rw [Act.apply, confirm, hmode]
      rfl
  | toggle key => exact absurd ha id
  | close c autoIndent => cases hmode : s.mode <;> simp [Act.apply, close, hmode, new]

/-- The picked keys stay as they are unless a selection starts over or a key is toggled. -/
theorem selected_of_toggled?_eq_none {a : Act} (ha : ¬ a.Resets s) (hnone : a.toggled? s = none) :
    (a.apply s).selected = s.selected := by
  cases a with
  | bind trigger mode =>
      have hsame : s.trigger = some trigger ∧ s.mode = mode := not_not.mp (mt not_and_or.mp ha)
      rw [Act.apply, bind, if_pos hsame]
  | confirm key c autoIndent =>
      cases hmode : s.mode with
      | single => exact absurd hmode ha
      | multi => simp [Act.toggled?, hmode] at hnone
  | toggle key => exact absurd hnone (by simp [Act.toggled?])
  | close c autoIndent => exact absurd trivial ha

/-- An act that toggles a key does nothing else. -/
theorem apply_of_toggled?_eq_some {a : Act} (hsome : a.toggled? s = some key) :
    a.apply s = s.toggle key := by
  cases a with
  | confirm other c autoIndent =>
      cases hmode : s.mode with
      | single => simp [Act.toggled?, hmode] at hsome
      | multi =>
          obtain rfl : other = key := by simpa [Act.toggled?, hmode] using hsome
          rw [Act.apply, confirm_of_multi hmode]
  | toggle other =>
      obtain rfl : other = key := Option.some.inj hsome
      rfl
  | bind trigger mode => exact absurd hsome (by simp [Act.toggled?])
  | close c autoIndent => exact absurd hsome (by simp [Act.toggled?])

/-! ## The picked keys -/

/-- Keys are those that were toggled an odd number of times, each once, in the order of their last
toggles. The latest toggle comes first. -/
structure Picks (toggles selected : List Text) : Prop where
  /-- Each key is picked once. -/
  nodup : selected.Nodup
  /-- The picked keys are those that were toggled an odd number of times. -/
  mem_iff : ∀ key, key ∈ selected ↔ Odd (toggles.count key)
  /-- A key is picked before another if its last toggle is further back. -/
  ordered : selected.Pairwise fun a b => toggles.idxOf b < toggles.idxOf a

namespace Picks

/-- Nothing is picked without toggles. -/
theorem nil : Picks [] [] where
  nodup := .nil
  mem_iff := by simp
  ordered := .nil

/-- The last toggles of other keys keep their order when a key is toggled. -/
theorem ordered_cons {selected : List Text} (hkey : key ∉ selected)
    (hordered : selected.Pairwise fun a b => toggles.idxOf b < toggles.idxOf a) :
    selected.Pairwise fun a b => (key :: toggles).idxOf b < (key :: toggles).idxOf a := by
  refine hordered.imp_of_mem fun {a b} ha hb hlt => ?_
  have hnea : key ≠ a := fun heq => hkey (heq ▸ ha)
  have hneb : key ≠ b := fun heq => hkey (heq ▸ hb)
  rw [List.idxOf_cons_ne _ hnea, List.idxOf_cons_ne _ hneb]
  exact Nat.succ_lt_succ hlt

/-- One more toggle of a key makes an odd number of them even, and the other way round. -/
theorem odd_count_cons_self : Odd ((key :: toggles).count key) ↔ ¬ Odd (toggles.count key) := by
  rw [List.count_cons_self, Nat.odd_add_one]

/-- Toggling a picked key takes it out. -/
theorem erase {selected : List Text} (hp : Picks toggles selected) (hkey : key ∈ selected) :
    Picks (key :: toggles) (selected.erase key) where
  nodup := hp.nodup.erase key
  mem_iff := by
    intro other
    rw [hp.nodup.mem_erase_iff, hp.mem_iff]
    by_cases heq : other = key
    · -- The key had an odd number of toggles and now has one more.
      subst heq
      rw [odd_count_cons_self, ← hp.mem_iff]
      simp [hkey]
    · rw [List.count_cons_of_ne (Ne.symm heq)]
      simp [heq]
  ordered := ordered_cons hp.nodup.not_mem_erase (hp.ordered.sublist List.erase_sublist)

/-- Toggling a key that is not picked puts it behind the others. -/
theorem append {selected : List Text} (hp : Picks toggles selected) (hkey : key ∉ selected) :
    Picks (key :: toggles) (selected ++ [key]) where
  nodup := by
    rw [← List.concat_eq_append]
    exact hp.nodup.concat hkey
  mem_iff := by
    intro other
    rw [List.mem_append, List.mem_singleton, hp.mem_iff]
    by_cases heq : other = key
    · subst heq
      rw [odd_count_cons_self, ← hp.mem_iff]
      simp [hkey]
    · rw [List.count_cons_of_ne (Ne.symm heq)]
      simp [heq]
  ordered := by
    -- The key's last toggle is the latest of all.
    refine List.pairwise_append.mpr ⟨ordered_cons hkey hp.ordered, List.pairwise_singleton _ _, ?_⟩
    intro a ha b hb
    obtain rfl := List.mem_singleton.mp hb
    have hne : b ≠ a := fun heq => hkey (heq ▸ ha)
    rw [List.idxOf_cons_self, List.idxOf_cons_ne _ hne]
    exact Nat.succ_pos _

/-- One more toggle keeps the picked keys in step with the toggles. -/
theorem toggle (hp : Picks toggles s.selected) (key : Text) :
    Picks (key :: toggles) (s.toggle key).selected := by
  by_cases hkey : key ∈ s.selected
  · rw [toggle_of_mem hkey]
    exact hp.erase hkey
  · rw [toggle_of_not_mem hkey]
    exact hp.append hkey

end Picks

/-- The picked keys follow the toggles after any acts. -/
theorem picks_after (acts : List Act) : Picks (togglesSinceReset acts) (after acts).selected := by
  induction acts with
  | nil => exact .nil
  | cons a acts ih =>
      rw [after, togglesSinceReset]
      by_cases hresets : a.Resets (after acts)
      · -- The picked keys and the toggles are dropped together.
        rw [if_pos hresets, selected_of_resets hresets]
        exact .nil
      · -- Any other act toggles one key or none.
        rw [if_neg hresets]
        cases htoggled : a.toggled? (after acts) with
        | none =>
            rw [selected_of_toggled?_eq_none hresets htoggled]
            exact ih
        | some key =>
            rw [apply_of_toggled?_eq_some htoggled]
            exact ih.toggle key

/-! ## What is inserted -/

/-- Confirming a key inserts it exactly where keys are picked one at a time. -/
theorem map_keys_confirm (s : Selection) (key : Text) (c : Context) (autoIndent : Bool) :
    (s.confirm key c autoIndent).2.map (·.keys)
      = if s.mode = .single then some [key] else none := by
  cases hmode : s.mode with
  | single => simp [confirm, hmode, Insertion.map_keys_ofKeys?]
  | multi => simp [confirm_of_multi hmode]

/-- Closing a selection inserts the picked keys where keys are picked together. -/
theorem map_keys_close (s : Selection) (c : Context) (autoIndent : Bool) :
    (s.close c autoIndent).2.map (·.keys)
      = if s.mode = .multi ∧ s.selected ≠ [] then some s.selected else none := by
  cases hmode : s.mode with
  | single => simp [close, hmode]
  | multi => simp [close, hmode, Insertion.map_keys_ofKeys?]

/-- Whatever was done to a selection, its keys are those that were toggled an odd number of times
since it last started over, each once and in the order of their last toggles. Confirming a key
inserts that key alone, if keys are picked one at a time. Closing the selection inserts its keys in
their order, if keys are picked together and there are any. -/
theorem selection_follows_toggles (acts : List Act) :
    Picks (togglesSinceReset acts) (after acts).selected
      ∧ (∀ key c autoIndent, ((after acts).confirm key c autoIndent).2.map (·.keys)
          = if (after acts).mode = .single then some [key] else none)
      ∧ ∀ c autoIndent, ((after acts).close c autoIndent).2.map (·.keys)
          = if (after acts).mode = .multi ∧ (after acts).selected ≠ []
            then some (after acts).selected else none :=
  ⟨picks_after acts, map_keys_confirm (after acts), map_keys_close (after acts)⟩

/-- The context behind the key of an outermost field without a value. -/
def outermostContext (line : Nat) (key : Text) : Context :=
  { path := key, line, indent := 0, value := none, kind := .field, keyLine := line
    column := key.length + 1, lineLength := key.length + 1, query := []
    queryStart := key.length + 1 }

/-- Below a field where keys are picked together, two keys are confirmed, and then the first of them
is confirmed twice more. -/
def pickedTogether : List Act :=
  [.confirm ['x'] (outermostContext 1 ['a']) true, .confirm ['x'] (outermostContext 1 ['a']) true,
    .confirm ['y'] (outermostContext 1 ['a']) true, .confirm ['x'] (outermostContext 1 ['a']) true,
    .bind ⟨['n'], 1, ['a']⟩ .multi]

/-- Both keys are inserted when the selection is closed, the one that was confirmed again behind the
other. Bound again to pick keys one at a time, the selection inserts a key when it is confirmed. -/
theorem selection_follows_toggles_of_pickedTogether :
    (after pickedTogether).trigger = some ⟨['n'], 1, ['a']⟩
      ∧ (after pickedTogether).mode = .multi
      ∧ Picks [['x'], ['x'], ['y'], ['x']] [['y'], ['x']]
      ∧ ((after pickedTogether).close (outermostContext 1 ['a']) true).2.map (·.keys)
        = some [['y'], ['x']]
      ∧ ((after (.bind ⟨['n'], 1, ['a']⟩ .single :: .close (outermostContext 1 ['a']) true
          :: pickedTogether)).confirm ['z'] (outermostContext 1 ['a']) true).2.map (·.keys)
        = some [['z']] := by
  obtain ⟨hpicks, -, hclose⟩ := selection_follows_toggles pickedTogether
  obtain ⟨-, hconfirm, -⟩ := selection_follows_toggles
    (.bind ⟨['n'], 1, ['a']⟩ .single :: .close (outermostContext 1 ['a']) true :: pickedTogether)
  have htoggles : togglesSinceReset pickedTogether = [['x'], ['x'], ['y'], ['x']] := by decide
  have hselected : (after pickedTogether).selected = [['y'], ['x']] := by decide
  have hmode : (after pickedTogether).mode = .multi := by decide
  rw [htoggles, hselected] at hpicks
  refine ⟨by decide, hmode, hpicks, ?_, ?_⟩
  · rw [hclose, hselected, if_pos ⟨hmode, by decide⟩]
  · rw [hconfirm, after, Act.apply, mode_bind, if_pos rfl]

end Selection

end Frontmatter
