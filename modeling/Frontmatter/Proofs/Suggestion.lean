import Frontmatter.Proofs.Children
import Frontmatter.Suggestion

/-! # What is offered

A rule never offers a key that is among the existing ones. Whether the existing ones are all the
children that the outline knows is another matter: `offered_keys_are_new` says in which documents a
key is offered although the outline has a field with its path. -/

namespace Frontmatter

/-- A suggested key is that of a candidate, and it is not among the existing ones. -/
theorem Rule.key_of_mem_suggestionsFor {r : Rule} {c : Context} {existing : List Text}
    {settings : Settings} {s : Suggestion} (h : s ∈ r.suggestionsFor c existing settings) :
    s.key ∈ r.candidates.map (·.key) ∧ s.key ∉ existing := by
  have hall : s ∈ r.suggestions existing := by
    have hkept := List.mem_of_mem_take h
    split at hkept
    · exact (List.mem_filter.mp hkept).1
    · exact hkept
  rw [suggestions] at hall
  split at hall
  · obtain ⟨candidate, hmem, rfl⟩ := List.mem_map.mp hall
    obtain ⟨hcandidate, hnew⟩ := List.mem_filter.mp hmem
    exact ⟨List.mem_map_of_mem hcandidate, by simpa [suggestion] using hnew⟩
  · exact absurd hall List.not_mem_nil

/-- When two children have the same path and the same key, so have their parents. Otherwise one of
the keys holds a dot. -/
theorem Path.dot_mem_of_child_eq {path path' : Path} {key key' : Text}
    (h : path.child key = path'.child key') (hne : key ≠ key') : '.' ∈ key ∨ '.' ∈ key' := by
  rcases List.append_eq_append_iff.mp h with ⟨between, -, hrest⟩ | ⟨between, -, hrest⟩
  · cases between with
    | nil => exact absurd (List.cons.inj hrest).2 hne
    | cons c between =>
        rw [(List.cons.inj hrest).2]
        exact .inl (List.mem_append_right between List.mem_cons_self)
  · cases between with
    | nil => exact absurd (List.cons.inj hrest).2.symm hne
    | cons c between =>
        rw [(List.cons.inj hrest).2]
        exact .inr (List.mem_append_right between List.mem_cons_self)

namespace Config

variable {config : Config} {source : Text} {line column : Nat} {offer : Offer} {b : Block}

/-- At a context, the offer is that of the rule that makes offers there. -/
theorem suggest?_eq_map {c : Context} (hb : config.block? source = some b)
    (hc : b.resolve? line column = some c) :
    config.suggest? source line column
      = (config.offeringRule? c).map fun r =>
          { context := c, ruleId := r.id, mode := .ofRule r,
            suggestions := r.suggestionsFor c (b.existingKeys c) config.settings } := by
  rw [suggest?, hb, Option.bind_some, hc, Option.bind_some]

/-- An offer is made at the context of the cursor, and holds none of the keys that exist there. -/
theorem resolve?_of_suggest? (hoffer : config.suggest? source line column = some offer)
    (hb : config.block? source = some b) :
    b.resolve? line column = some offer.context
      ∧ ∀ s ∈ offer.suggestions, s.key ∉ b.existingKeys offer.context := by
  rw [suggest?, hb, Option.bind_some] at hoffer
  obtain ⟨c, hc, hrule⟩ := Option.bind_eq_some_iff.mp hoffer
  obtain ⟨r, -, rfl⟩ := Option.map_eq_some_iff.mp hrule
  exact ⟨hc, fun s hs => (r.key_of_mem_suggestionsFor hs).2⟩

/-- When a key is offered and a field has the path of the context's child with that key, then either
the field has that key, and its parent is another field with the context's path or is cut off from
it, or the field has another key, and dots within keys make the paths the same. -/
theorem offered_keys_are_new (hoffer : config.suggest? source line column = some offer)
    (hb : config.block? source = some b) :
    ∀ s ∈ offer.suggestions, ∀ f ∈ b.outline, f.path = offer.context.path.child s.key →
      (f.field.key = s.key ∧ ∃ g, b.IsParent g f ∧ g.path = offer.context.path
          ∧ (g.line ≠ offer.context.keyLine ∨ b.CutOff offer.context.keyLine f.line))
        ∨ (f.field.key ≠ s.key ∧ ('.' ∈ f.field.key ∨ '.' ∈ s.key)) := by
  intro s hs f hf hpath
  obtain ⟨hc, hnew⟩ := resolve?_of_suggest? hoffer hb
  by_cases hkey : f.field.key = s.key
  · refine .inl ⟨hkey, ?_⟩
    rcases Block.path_eq_of_mem_outline hf with hroot | ⟨g, hg, hchild⟩
    · -- A key is shorter than the path of a child with that key.
      rw [hroot, hkey] at hpath
      have hlength := congrArg List.length hpath
      rw [Path.child, List.length_append, List.length_cons] at hlength
      omega
    · rw [hpath, hkey] at hchild
      refine ⟨g, hg, (List.append_cancel_right hchild).symm, ?_⟩
      by_cases hline : g.line = offer.context.keyLine
      · refine .inr ?_
        by_cases hcut : b.CutOff offer.context.keyLine f.line
        · exact hcut
        · have hmem := Block.mem_existingKeys hf hg hline hcut
          rw [hkey] at hmem
          exact absurd hmem (hnew s hs)
      · exact .inl hline
  · -- Two ways to cut the same path at a dot.
    refine .inr ⟨hkey, ?_⟩
    rcases Block.path_eq_of_mem_outline hf with hroot | ⟨g, -, hchild⟩
    · rw [hpath] at hroot
      rw [← hroot]
      exact .inl (List.mem_append_right _ List.mem_cons_self)
    · exact Path.dot_mem_of_child_eq (hchild.symm.trans hpath) hkey

/-- A configuration with one rule, which offers two keys below a field. -/
def offeringTwo : Config :=
  { settings := .default
    rules :=
      [{ id := "r", enabled := true, field := "a", child := none, source := .inline
         candidates := [.plain "x".toList, .plain "y".toList], value := none, display := .all
         multiSelect := false }] }

/-- A document with a note between the children of a field. -/
def notedDocument : Text :=
  "---\na:\n  x: 1\n# note\n  y: 2\n---".toList

/-- The key below the note is offered, and the note cuts it off. -/
theorem offered_keys_are_new_in_notedDocument :
    ∃ offer b, offeringTwo.suggest? notedDocument 1 2 = some offer
      ∧ offeringTwo.block? notedDocument = some b
      ∧ offer.suggestions.map (·.key) = ["y".toList] ∧ b.CutOff 1 4 := by
  refine ⟨_, _, rfl, rfl, by decide, ?_⟩
  have h := @offered_keys_are_new offeringTwo notedDocument 1 2 _ _ rfl rfl
    ⟨"r", "y".toList, "y".toList, "y: ".toList, none⟩ (by decide)
    ⟨4, "a.y".toList, ⟨2, "y".toList, "2".toList, 5⟩⟩ (by decide) rfl
  rcases h with ⟨-, g, ⟨hg, -, hindent, -⟩, -, hline | hcut⟩ | ⟨hne, -⟩
  · refine absurd ?_ hline
    clear hline
    revert g
    decide
  · exact hcut
  · exact absurd rfl hne

/-- Whether a key is offered at a cursor although a field has the path of the context's child with
that key. -/
def OffersDuplicate (config : Config) (source : Text) (line column : Nat) : Prop :=
  ∃ offer b, config.suggest? source line column = some offer ∧ config.block? source = some b
    ∧ ∃ s ∈ offer.suggestions, ∃ f ∈ b.outline, f.path = offer.context.path.child s.key

/-- A key is offered twice behind a note, below a key that is there twice, and besides a key that
holds a dot. -/
theorem offersDuplicate_of_note_or_repetition_or_dot :
    offeringTwo.OffersDuplicate notedDocument 1 2
      ∧ offeringTwo.OffersDuplicate "---\na:\n  y: 1\nb: 2\na:\n  x: 3\n---".toList 4 2
      ∧ offeringTwo.OffersDuplicate "---\na:\n  x: 1\na.y: 2\n---".toList 1 2 :=
  ⟨⟨_, _, rfl, rfl, by decide⟩, ⟨_, _, rfl, rfl, by decide⟩, ⟨_, _, rfl, rfl, by decide⟩⟩

end Config

end Frontmatter
