import Frontmatter.Proofs.Suggestion

/-! # Keys of the parsed record

The record that a block denotes at a path may have keys that no child line is read as: keys in
quotes, keys in braces, or keys below a note that cuts them off. The existing keys of a context are
those of the child lines, and the record is consulted only when there are none.
`mem_existingKeys_iff` says which keys of the record are existing ones by that, and
`offered_parsed_keys_are_unwritten` when such a key is offered once more. -/

namespace Frontmatter

/-- The keys of a record that are texts. -/
def Value.textKeys (v : Value) : List Text :=
  (v.entries?.getD []).filterMap fun e =>
    match e.1 with
    | .text key => some key
    | _ => none

/-- The keys of a record are those of its entries that are texts. -/
theorem Value.mem_textKeys_iff {v : Value} {key : Text} :
    key ∈ v.textKeys ↔ ∃ entries x, v.entries? = some entries ∧ (.text key, x) ∈ entries := by
  rw [textKeys, List.mem_filterMap]
  constructor
  · rintro ⟨⟨k, x⟩, hmem, hkey⟩
    cases hentries : v.entries? with
    | none => simp [hentries] at hmem
    | some entries =>
        rw [hentries] at hmem
        cases k with
        | text other =>
            obtain rfl : other = key := Option.some.inj hkey
            exact ⟨entries, x, rfl, hmem⟩
        | _ => simp at hkey
  · rintro ⟨entries, x, hentries, hmem⟩
    exact ⟨(.text key, x), by rwa [hentries], rfl⟩

namespace Block

variable {b : Block} {n column : Nat} {c : Context} {key : Text} {path : Path}

/-- The text keys of the record that a block denotes at a path. -/
def parsedKeys (b : Block) (path : Path) : List Text :=
  ((b.tree.bind (·.lookup? path)).map (·.textKeys)).getD []

/-- Text keys are written in paths as they are, so that they are among the children's keys. -/
theorem parsedKeys_subset (b : Block) (path : Path) :
    b.parsedKeys path ⊆ (b.tree.bind (·.childKeys? path)).getD [] := by
  intro key hkey
  rw [parsedKeys] at hkey
  cases htree : b.tree with
  | none => simp [htree] at hkey
  | some v =>
      rw [htree, Option.bind_some] at hkey
      rw [Option.bind_some, Value.childKeys?]
      cases hnode : v.lookup? path with
      | none => simp [hnode] at hkey
      | some node =>
          rw [hnode] at hkey
          obtain ⟨entries, x, hentries, hmem⟩ := Value.mem_textKeys_iff.mp hkey
          rw [Option.map_some, hentries]
          exact List.mem_filterMap.mpr ⟨_, hmem, rfl⟩

/-- A key of the record at a context's path is an existing one unless there are child lines and it
is not written on any of them. -/
theorem mem_existingKeys_iff (hc : b.resolve? n column = some c)
    (hkey : key ∈ b.parsedKeys c.path) :
    key ∈ b.existingKeys c
      ↔ (∀ p, ¬ b.IsChildLine c.keyLine p)
        ∨ ∃ p, b.IsChildLine c.keyLine p ∧ p.field.key = key := by
  obtain ⟨text, hres⟩ := resolution_of_resolve? hc
  obtain ⟨q, hq, hline⟩ := hres.exists_line_eq_keyLine
  obtain ⟨keyText, htext, -⟩ := mem_fields.mp hq
  rw [hline] at htext
  rw [existingKeys]
  by_cases hscan : b.scannedKeys c.keyLine = []
  · -- Without child lines the record is consulted.
    have hnone : ∀ p, ¬ b.IsChildLine c.keyLine p := by
      intro p hp
      have hmem := (mem_scannedKeys_iff htext).mpr ⟨p, hp, rfl⟩
      rw [hscan] at hmem
      exact absurd hmem List.not_mem_nil
    rw [if_pos hscan]
    exact iff_of_true (b.parsedKeys_subset c.path hkey) (.inl hnone)
  · -- With child lines only these count.
    rw [if_neg hscan, mem_scannedKeys_iff htext]
    refine ⟨.inr, ?_⟩
    rintro (hnone | hwritten)
    · obtain ⟨other, hother⟩ := List.exists_mem_of_ne_nil _ hscan
      obtain ⟨p, hp, -⟩ := (mem_scannedKeys_iff htext).mp hother
      exact absurd hp (hnone p)
    · exact hwritten

end Block

namespace Config

variable {config : Config} {source : Text} {line column : Nat} {offer : Offer} {b : Block}

/-- **A key of the parsed record is offered only when there are child lines and it is not written on
any of them.** The keys of the record at the context's path are existing ones if there are no child
lines, and otherwise those of them are that are written on child lines. Only the others can be
offered. -/
theorem offered_parsed_keys_are_unwritten
    (hoffer : config.suggest? source line column = some offer)
    (hb : config.block? source = some b) :
    ∀ key ∈ b.parsedKeys offer.context.path,
      (key ∈ b.existingKeys offer.context
          ↔ (∀ p, ¬ b.IsChildLine offer.context.keyLine p)
            ∨ ∃ p, b.IsChildLine offer.context.keyLine p ∧ p.field.key = key)
        ∧ ∀ s ∈ offer.suggestions, s.key = key →
            (∃ p, b.IsChildLine offer.context.keyLine p)
              ∧ ∀ p, b.IsChildLine offer.context.keyLine p → p.field.key ≠ key := by
  intro key hkey
  obtain ⟨hc, hnew⟩ := resolve?_of_suggest? hoffer hb
  have hexisting := Block.mem_existingKeys_iff hc hkey
  refine ⟨hexisting, fun s hs hskey => ?_⟩
  have hmissing := hnew s hs
  rw [hskey, hexisting, not_or, not_forall_not] at hmissing
  exact ⟨hmissing.1, fun p hp hwritten => hmissing.2 ⟨p, hp, hwritten⟩⟩

/-- A document with a key in quotes besides one without. -/
def quotedDocument : Text :=
  "---\na:\n  \"x\": 1\n  y: 2\n---".toList

/-- The key in quotes is one of the record's keys and is offered. There is a child line, and the
key is not written on any. -/
theorem offered_parsed_keys_are_unwritten_in_quotedDocument :
    ∃ offer b, offeringTwo.suggest? quotedDocument 1 2 = some offer
      ∧ offeringTwo.block? quotedDocument = some b
      ∧ "x".toList ∈ b.parsedKeys offer.context.path
      ∧ offer.suggestions.map (·.key) = ["x".toList]
      ∧ (∃ p, b.IsChildLine offer.context.keyLine p)
      ∧ ∀ p, b.IsChildLine offer.context.keyLine p → p.field.key ≠ "x".toList := by
  refine ⟨_, _, rfl, rfl, by decide +kernel, by decide, ?_⟩
  have h := @offered_parsed_keys_are_unwritten offeringTwo quotedDocument 1 2 _ _ rfl rfl
    "x".toList (by decide +kernel)
  exact h.2 ⟨"r", "x".toList, "x".toList, "x: ".toList, none⟩ (by decide) rfl

/-- Whether a key that the parsed record has at the context's path is offered at a cursor. -/
def OffersParsedKey (config : Config) (source : Text) (line column : Nat) : Prop :=
  ∃ offer b, config.suggest? source line column = some offer ∧ config.block? source = some b
    ∧ ∃ s ∈ offer.suggestions, s.key ∈ b.parsedKeys offer.context.path

/-- A key of the parsed record is offered again when it is in quotes, in braces that go on on the
next line, or behind a note. -/
theorem offersParsedKey_of_quotes_or_braces_or_note :
    offeringTwo.OffersParsedKey quotedDocument 1 2
      ∧ offeringTwo.OffersParsedKey "---\na: \x7bx: 1,\n  y: 2\x7d\n---".toList 1 2
      ∧ offeringTwo.OffersParsedKey notedDocument 1 2 :=
  ⟨⟨_, _, rfl, rfl, by decide +kernel⟩, ⟨_, _, rfl, rfl, by decide +kernel⟩,
    ⟨_, _, rfl, rfl, by decide +kernel⟩⟩

end Config

end Frontmatter
