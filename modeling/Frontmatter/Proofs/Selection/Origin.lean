import Frontmatter.Proofs.Selection

/-! # Where picked keys come from

A selection is bound to one place at a time, and `PickedAt` tells for a picked key at which place it
was put in. A selection that is bound to another place starts over, so that all of its keys were put
in where it is bound now: `mem_selected_iff_pickedAt` goes through the acts one by one. The context
at which the selection is closed takes no part in this. `closing_inserts_keys_of_bound_place` says
what follows for the keys that are inserted. -/

namespace Frontmatter

namespace Selection

variable {s : Selection} {acts : List Act} {a : Act} {key other : Text} {place : Option Trigger}
  {c : Context} {autoIndent : Bool} {i : Insertion}

/-- A key is picked since a toggle at a place: the selection was bound to that place when the toggle
put the key in, and since then it has not started over and the key has not been toggled. -/
inductive PickedAt (key : Text) (place : Option Trigger) : List Act → Prop where
  /-- The latest act puts the key in. -/
  | toggled {a : Act} {acts : List Act} (htoggled : a.toggled? (after acts) = some key)
      (hnew : key ∉ (after acts).selected) (hplace : (after acts).trigger = place) :
      PickedAt key place (a :: acts)
  /-- The latest act leaves the key in. -/
  | kept {a : Act} {acts : List Act} (hpicked : PickedAt key place acts)
      (hresets : ¬ a.Resets (after acts)) (hother : a.toggled? (after acts) ≠ some key) :
      PickedAt key place (a :: acts)

/-! ## What one act keeps -/

/-- An act that toggles a key does not make the selection start over. -/
theorem not_resets_of_toggled? (h : a.toggled? s = some key) : ¬ a.Resets s := by
  cases a with
  | confirm other c autoIndent =>
      intro hsingle
      have hmode : s.mode = .single := hsingle
      simp [Act.toggled?, hmode] at h
  | toggle other => exact id
  | bind trigger mode => exact absurd h (by simp [Act.toggled?])
  | close c autoIndent => exact absurd h (by simp [Act.toggled?])

/-- A selection stays bound to its place unless it starts over. -/
theorem trigger_of_not_resets (ha : ¬ a.Resets s) : (a.apply s).trigger = s.trigger := by
  cases a with
  | bind trigger mode =>
      have hsame : s.trigger = some trigger ∧ s.mode = mode := not_not.mp (mt not_and_or.mp ha)
      rw [Act.apply, bind, if_pos hsame]
  | confirm key c autoIndent =>
      cases hmode : s.mode with
      | single => exact absurd hmode ha
      | multi => simp [Act.apply, confirm, hmode, Selection.toggle]
  | toggle key => rfl
  | close c autoIndent => exact absurd trivial ha

/-- A toggled key is picked exactly if it was not, and any other key exactly if it was. -/
theorem mem_toggle_iff (hnodup : s.selected.Nodup) :
    key ∈ (s.toggle other).selected
      ↔ if key = other then key ∉ s.selected else key ∈ s.selected := by
  by_cases hother : other ∈ s.selected
  · rw [toggle_of_mem hother, hnodup.mem_erase_iff]
    split
    case isTrue heq => simp [heq, hother]
    case isFalse hne => simp [hne]
  · rw [toggle_of_not_mem hother, List.mem_append, List.mem_singleton]
    split
    case isTrue heq => simp [heq, hother]
    case isFalse hne => simp [hne]

/-- An act that neither makes the selection start over nor toggles a key leaves that key as it
is. -/
theorem mem_apply_iff (hnodup : s.selected.Nodup) (ha : ¬ a.Resets s)
    (hother : a.toggled? s ≠ some key) : key ∈ (a.apply s).selected ↔ key ∈ s.selected := by
  cases htoggled : a.toggled? s with
  | none => rw [selected_of_toggled?_eq_none ha htoggled]
  | some other =>
      have hne : key ≠ other := fun heq => hother (heq ▸ htoggled)
      rw [apply_of_toggled?_eq_some htoggled, mem_toggle_iff hnodup, if_neg hne]

/-- A selection in which keys are picked together is bound to a place. -/
theorem exists_trigger_of_mode (h : (after acts).mode = .multi) :
    ∃ t, (after acts).trigger = some t := by
  induction acts with
  | nil => exact absurd h (by decide)
  | cons a acts ih =>
      cases a with
      | bind trigger mode => exact ⟨trigger, trigger_bind _ _ _⟩
      | confirm key c autoIndent =>
          cases hmode : (after acts).mode with
          | single => simp [after, Act.apply, confirm, hmode, new] at h
          | multi =>
              obtain ⟨t, ht⟩ := ih hmode
              exact ⟨t, by simp [after, Act.apply, confirm, hmode, Selection.toggle, ht]⟩
      | toggle key => exact ih h
      | close c autoIndent =>
          cases hmode : (after acts).mode <;> simp [after, Act.apply, close, hmode, new] at h

/-! ## What a run keeps -/

/-- Each key is picked once, whatever was done. -/
theorem nodup_selected_after (acts : List Act) : (after acts).selected.Nodup :=
  (picks_after acts).nodup

/-- The place where a key was picked is the one that the selection is bound to. -/
theorem PickedAt.trigger_eq (h : PickedAt key place acts) : (after acts).trigger = place := by
  induction h with
  | toggled htoggled hnew hplace =>
      rw [after, trigger_of_not_resets (not_resets_of_toggled? htoggled), hplace]
  | kept hpicked hresets hother ih => rw [after, trigger_of_not_resets hresets, ih]

/-- A key that is picked since a toggle is among the picked keys. -/
theorem PickedAt.mem_selected (h : PickedAt key place acts) : key ∈ (after acts).selected := by
  induction h with
  | toggled htoggled hnew hplace =>
      rw [after, apply_of_toggled?_eq_some htoggled, mem_toggle_iff (nodup_selected_after _),
        if_pos rfl]
      exact hnew
  | kept hpicked hresets hother ih =>
      rw [after, mem_apply_iff (nodup_selected_after _) hresets hother]
      exact ih

/-- **Every key of a selection was put in where the selection is bound now.** -/
theorem mem_selected_iff_pickedAt :
    key ∈ (after acts).selected ↔ PickedAt key (after acts).trigger acts := by
  refine ⟨fun hmem => ?_, PickedAt.mem_selected⟩
  induction acts with
  | nil => exact absurd hmem List.not_mem_nil
  | cons a acts ih =>
      have hresets : ¬ a.Resets (after acts) := by
        intro hresets
        rw [after, selected_of_resets hresets] at hmem
        exact absurd hmem List.not_mem_nil
      rw [after, trigger_of_not_resets hresets]
      by_cases htoggled : a.toggled? (after acts) = some key
      · -- The key was not picked before, or it would be picked no longer.
        rw [after, apply_of_toggled?_eq_some htoggled, mem_toggle_iff (nodup_selected_after acts),
          if_pos rfl] at hmem
        exact .toggled htoggled hmem rfl
      · rw [after, mem_apply_iff (nodup_selected_after acts) hresets htoggled] at hmem
        exact .kept (ih hmem) hresets htoggled

/-! ## Closing -/

/-- A selection is closed with an insertion where keys are picked together. It inserts the keys that
are picked, of which there are some. -/
theorem keys_of_close (h : (s.close c autoIndent).2 = some i) :
    s.mode = .multi ∧ s.selected ≠ [] ∧ i.keys = s.selected := by
  have hkeys := map_keys_close s c autoIndent
  rw [h, Option.map_some] at hkeys
  split at hkeys
  case isTrue hpicked => exact ⟨hpicked.1, hpicked.2, Option.some.inj hkeys⟩
  case isFalse => exact absurd hkeys (by simp)

/-- **Closing a selection inserts what was picked at the place that it is bound to.** Every inserted
key was put in while the selection was bound there, and every key that was is inserted, whichever
context the selection is closed at. The keys therefore come from the line and the path of that
context exactly if these are the line and the path of the place. -/
theorem closing_inserts_keys_of_bound_place (h : ((after acts).close c autoIndent).2 = some i) :
    ∃ t, (after acts).trigger = some t
      ∧ (∀ key, key ∈ i.keys ↔ PickedAt key (some t) acts)
      ∧ (∀ c' autoIndent', ((after acts).close c' autoIndent').2.map (·.keys) = some i.keys)
      ∧ ((∀ key ∈ i.keys, ∃ t', PickedAt key (some t') acts ∧ t'.line = c.line ∧ t'.path = c.path)
          ↔ t.line = c.line ∧ t.path = c.path) := by
  obtain ⟨hmode, hne, hkeys⟩ := keys_of_close h
  obtain ⟨t, ht⟩ := exists_trigger_of_mode hmode
  have hpicked : ∀ key, key ∈ i.keys ↔ PickedAt key (some t) acts := by
    intro key
    rw [hkeys, mem_selected_iff_pickedAt, ht]
  refine ⟨t, ht, hpicked, ?_, ?_⟩
  · intro c' autoIndent'
    rw [map_keys_close, if_pos ⟨hmode, hne⟩, hkeys]
  · constructor
    · -- There is a key, and it was put in at the place of the selection only.
      intro hcontext
      obtain ⟨key, hkey⟩ := List.exists_mem_of_ne_nil _ hne
      obtain ⟨t', ht', hplace⟩ := hcontext key (hkeys ▸ hkey)
      obtain rfl : t = t' := Option.some.inj (ht.symm.trans ht'.trigger_eq)
      exact hplace
    · exact fun hplace key hkey => ⟨t, (hpicked key).mp hkey, hplace⟩

/-- Two keys are picked below a field, and the first is taken out again while the cursor is below
another one. -/
def pickedTwice : List Act :=
  [.confirm ['x'] (outermostContext 2 ['b']) true, .toggle ['y'], .toggle ['x'],
    .bind ⟨['n'], 1, ['a']⟩ .multi]

/-- Closed where the selection is bound, it inserts the key that was picked there last. -/
theorem closing_inserts_keys_of_bound_place_of_pickedTwice :
    ∃ i t, ((after pickedTwice).close (outermostContext 1 ['a']) true).2 = some i
      ∧ i.keys = [['y']] ∧ PickedAt ['y'] (some t) pickedTwice ∧ t.line = 1 ∧ t.path = ['a'] := by
  obtain ⟨t, ht, hpicked, -, -⟩ := @closing_inserts_keys_of_bound_place pickedTwice
    (outermostContext 1 ['a']) true _ rfl
  obtain rfl : (⟨['n'], 1, ['a']⟩ : Trigger) = t := Option.some.inj ht
  exact ⟨_, _, rfl, by decide, (hpicked ['y']).mp (by decide), rfl, rfl⟩

/-- A key is picked below a field. -/
def pickedOnce : List Act :=
  [.toggle ['x'], .bind ⟨['n'], 1, ['a']⟩ .multi]

/-- Closed below another field, the selection inserts a key there that was picked elsewhere. It was
never bound to that line or that path. -/
theorem closing_inserts_key_picked_elsewhere :
    ∃ i, ((after pickedOnce).close (outermostContext 2 ['b']) true).2 = some i
      ∧ i.keys = [['x']]
      ∧ (∀ acts ∈ pickedOnce.tails, ∀ t ∈ (after acts).trigger, t.line ≠ 2 ∧ t.path ≠ ['b'])
      ∧ ¬ ∃ t, PickedAt ['x'] (some t) pickedOnce ∧ t.line = (outermostContext 2 ['b']).line
          ∧ t.path = (outermostContext 2 ['b']).path := by
  refine ⟨_, rfl, by decide, by decide, ?_⟩
  rintro ⟨t, ht, hline, -⟩
  obtain rfl := Option.some.inj ht.trigger_eq
  exact absurd hline (by decide)

end Selection

end Frontmatter
