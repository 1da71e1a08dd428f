import Frontmatter.CommandLine.Run
import Frontmatter.Proofs.Insertion.FirstChildren
import Frontmatter.Proofs.Selection.Picking
import Frontmatter.Proofs.Suggestion
import Mathlib.Data.List.Dedup
import Mathlib.Data.List.Nodup
import Mathlib.Data.List.Perm.Subperm

/-! # Accepting what is offered

Keys of an offer are accepted by confirming them, and closing the selection if several are picked
together. `Config.Round` is one round of this: keys that are offered at a cursor are accepted, and
the edit is carried out. `Config.OffersAt` is what a round keeps on the line of a field: the same
rule makes the offer, and the keys accepted so far are found by the scan for the field's children.
The keys of the next round are therefore new, and rounds come to an end: this is
`Config.accepting_offers_ends`. -/

namespace Frontmatter

/-! ## The insertion of picked keys -/

/-- Keys of an offer that can be accepted together: at least one and each once, and only one where
keys are picked one at a time. -/
structure Offer.CanPick (o : Offer) (keys : List Text) : Prop where
  /-- There is a key. -/
  ne_nil : keys ≠ []
  /-- Each key is picked once. -/
  nodup : keys.Nodup
  /-- They are offered. -/
  offered : ∀ k ∈ keys, k ∈ o.suggestions.map (·.key)
  /-- There is a single one where only one can be picked. -/
  length_eq : o.mode = .single → keys.length = 1

variable {o : Offer} {autoIndent : Bool} {keys : List Text}

/-- Keys that are confirmed where several are picked together are picked in their order. -/
theorem confirmAll_of_multi {s : Selection} (hmode : s.mode = .multi)
    (hoffered : ∀ k ∈ keys, k ∈ o.suggestions.map (·.key)) (hnodup : (s.selected ++ keys).Nodup) :
    confirmAll o autoIndent s keys = .ok ({ s with selected := s.selected ++ keys }, []) := by
  induction keys generalizing s with
  | nil => rw [confirmAll, List.append_nil]
  | cons key keys ih =>
      obtain ⟨hkey, hkeys⟩ := List.forall_mem_cons.mp hoffered
      have hnew : key ∉ s.selected := fun hmem =>
        (List.nodup_append.mp hnodup).2.2 key hmem key List.mem_cons_self rfl
      have hrest : (s.selected ++ [key] ++ keys).Nodup := by rwa [List.append_assoc]
      rw [confirmAll, if_pos (any_key_iff.mpr hkey), Selection.confirm_of_multi hmode,
        Selection.toggle_of_not_mem hnew]
      simp only
      rw [ih (s := { s with selected := s.selected ++ [key] }) hmode hkeys hrest]
      simp [Except.map]

/-- Accepting keys makes the insertion of these keys. -/
theorem insertPicked_eq (h : o.CanPick keys) (document : Text) :
    insertPicked o document autoIndent keys
      = .ok (Insertion.ofKeys? o.context keys autoIndent).toList := by
  have hbind : Workspace.bind .new document o
      = ⟨some (.ofContext document o.context), o.mode, []⟩ := rfl
  cases hmode : o.mode with
  | single =>
      -- Confirming the key makes the insertion, and closing adds none.
      obtain ⟨key, rfl⟩ := List.length_eq_one_iff.mp (h.length_eq hmode)
      have hany := any_key_iff.mpr (h.offered key List.mem_cons_self)
      rw [insertPicked, if_neg (by simp), hbind, hmode, confirmAll, if_pos hany]
      simp [confirmAll, Selection.confirm, Selection.close, Selection.new, Except.map]
  | multi =>
      -- Confirming keys picks them, and closing makes the insertion.
      rw [insertPicked, if_neg (by simp [hmode]), hbind, hmode,
        confirmAll_of_multi rfl h.offered (by simpa using h.nodup)]
      simp [Selection.close, Except.map]

/-! ## One round -/

namespace Config

/-- Whether all candidates can stand as keys in a block, and none with its colon delimits it. -/
def CandidatesAreKeys (config : Config) : Prop :=
  ∀ r ∈ config.rules, ∀ x ∈ r.candidates,
    IsKey x.key ∧ x.key ++ [':'] ≠ config.settings.delimiter

/-- The candidates of a configuration are finitely many, so that this can be tested. -/
instance (config : Config) : Decidable config.CandidatesAreKeys := by
  unfold CandidatesAreKeys
  infer_instance

/-- One round at a cursor: keys that are offered there are accepted, and the edit is carried out. -/
def Round (config : Config) (document : Text) (line column : Nat) (source : Text)
    (keys : List Text) (new : Text) : Prop :=
  ∃ offer i, config.suggest? source line column = some offer ∧ offer.CanPick keys
    ∧ insertPicked offer document config.settings.autoIndent keys = .ok [i]
    ∧ i.applied? source = some new

/-- What rounds on the line of a field keep. -/
structure OffersAt (config : Config) (r : Rule) (p : PlacedField) (column : Nat)
    (kept : List Text) (source : Text) (b : Block) (c : Context) : Prop where
  /-- No line ends in a carriage return. -/
  no_return : ∀ l ∈ Text.lines source, l.getLast? ≠ some '\r'
  /-- The document has a block. -/
  block_eq : config.block? source = some b
  /-- The block has the field. -/
  mem_fields : p ∈ b.fields
  /-- A cursor on the field's line has a context. -/
  resolve_eq : b.resolve? p.line column = some c
  /-- The rule makes offers there. -/
  rule_eq : config.offeringRule? c = some r
  /-- The keys accepted so far are among the field's children. -/
  kept_subset : kept ⊆ b.scannedKeys p.line

variable {config : Config} {r : Rule} {p : PlacedField} {column : Nat} {kept : List Text}
  {source new document : Text} {b : Block} {c : Context} {offer : Offer} {kss : List (List Text)}

namespace OffersAt

/-- There is an offer, and it is the rule's. -/
theorem suggest?_eq (h : config.OffersAt r p column kept source b c) :
    config.suggest? source p.line column
      = some { context := c, ruleId := r.id, mode := .ofRule r,
               suggestions := r.suggestionsFor c (b.existingKeys c) config.settings } := by
  rw [suggest?_eq_map h.block_eq h.resolve_eq, h.rule_eq, Option.map_some]

/-- The rule is one of the configuration's. -/
theorem mem_rules (h : config.OffersAt r p column kept source b c) : r ∈ config.rules := by
  have hrule := h.rule_eq
  rw [offeringRule?, Option.filter_eq_some_iff, Rule.enabled?, Option.filter_eq_some_iff,
    Rule.governing?] at hrule
  obtain ⟨⟨hgoverning, -⟩, -⟩ := hrule
  rcases Option.or_eq_some_iff.mp hgoverning with hfind | ⟨-, hfind⟩
  · exact List.mem_of_find?_eq_some hfind
  · exact List.mem_of_find?_eq_some hfind

/-- The context's key line is the field's. -/
theorem keyLine_eq (h : config.OffersAt r p column kept source b c) : c.keyLine = p.line := by
  obtain ⟨c', hc', -, hkey, -⟩ := Block.exists_resolve?_of_mem_fields h.mem_fields column
  obtain rfl : c = c' := Option.some.inj (h.resolve_eq.symm.trans hc')
  exact hkey

/-- The keys that are offered are candidates of the rule, and not among those accepted so far. -/
theorem key_of_mem_suggestions (h : config.OffersAt r p column kept source b c)
    (hoffer : config.suggest? source p.line column = some offer) {k : Text}
    (hk : k ∈ offer.suggestions.map (·.key)) :
    k ∈ r.candidates.map (·.key) ∧ k ∉ kept := by
  obtain rfl := Option.some.inj (h.suggest?_eq.symm.trans hoffer)
  obtain ⟨s, hs, rfl⟩ := List.mem_map.mp hk
  obtain ⟨hcandidate, hnew⟩ := Rule.key_of_mem_suggestionsFor hs
  -- A key that was accepted is found by the scan, and what is found is not offered.
  refine ⟨hcandidate, fun hkept => hnew (b.scannedKeys_subset_existingKeys c ?_)⟩
  rw [h.keyLine_eq]
  exact h.kept_subset hkept

/-- A round can be made with all keys that can be picked together. The rule makes its offer again,
and the keys are the field's first children. -/
theorem exists_insertion (h : config.OffersAt r p column kept source b c)
    (hindent : config.settings.autoIndent = true) (hkeys : config.CandidatesAreKeys)
    (hoffer : config.suggest? source p.line column = some offer) (hpick : offer.CanPick keys)
    (document : Text) :
    ∃ i new b' c', insertPicked offer document config.settings.autoIndent keys = .ok [i]
      ∧ i.applied? source = some new ∧ b'.scannedKeys p.line = keys ++ b.scannedKeys p.line
      ∧ config.OffersAt r p column (keys ++ kept) new b' c' := by
  -- What is offered is a candidate, and candidates can stand as keys.
  have hcandidate : ∀ k ∈ keys, IsKey k ∧ k ++ [':'] ≠ config.settings.delimiter := by
    intro k hk
    obtain ⟨x, hx, rfl⟩ :=
      List.mem_map.mp (h.key_of_mem_suggestions hoffer (hpick.offered k hk)).1
    exact hkeys r h.mem_rules x hx
  obtain ⟨i, new, b', hi, hnew, hreturn, hb', hp', hscanned, c', hc', hpath, hquery⟩ :=
    Insertion.exists_block_of_field h.block_eq h.mem_fields h.resolve_eq h.no_return hpick.ne_nil
      (fun k hk => (hcandidate k hk).1) (fun k hk => (hcandidate k hk).2)
  have hcontext : offer.context = c := by
    rw [← Option.some.inj (h.suggest?_eq.symm.trans hoffer)]
  refine ⟨i, new, b', c', ?_, hnew, hscanned, hreturn, hb', hp', hc', ?_, ?_⟩
  · rw [insertPicked_eq hpick, hcontext, hindent, hi]
    rfl
  · -- Path and query are all that the choice of a rule looks at.
    rw [← h.rule_eq, offeringRule?, offeringRule?, Context.depth, Context.depth, hpath, hquery]
  · rw [hscanned]
    exact List.append_subset.mpr ⟨List.subset_append_left _ _,
      List.Subset.trans h.kept_subset (List.subset_append_right _ _)⟩

/-- Fewer keys are kept as well. -/
theorem mono (h : config.OffersAt r p column kept source b c) {kept' : List Text}
    (hsubset : kept' ⊆ kept) : config.OffersAt r p column kept' source b c :=
  { h with kept_subset := List.Subset.trans hsubset h.kept_subset }

/-- A key that is offered can be accepted alone. -/
theorem exists_round (h : config.OffersAt r p column kept source b c)
    (hindent : config.settings.autoIndent = true) (hkeys : config.CandidatesAreKeys)
    (hoffer : config.suggest? source p.line column = some offer) (hne : offer.suggestions ≠ [])
    (document : Text) : ∃ keys new, config.Round document p.line column source keys new := by
  obtain ⟨s, hs⟩ := List.exists_mem_of_ne_nil _ hne
  have hpick : offer.CanPick [s.key] :=
    ⟨List.cons_ne_nil _ _, List.nodup_singleton _,
      List.forall_mem_singleton.mpr (List.mem_map_of_mem hs), fun _ => rfl⟩
  obtain ⟨i, new, -, -, hi, hnew, -⟩ := h.exists_insertion hindent hkeys hoffer hpick document
  exact ⟨[s.key], new, offer, i, hoffer, hpick, hi, hnew⟩

end OffersAt

/-! ## Runs of rounds -/

/-- Keys that are accepted after others: each once, candidates of the rule, and new. -/
structure Fresh (r : Rule) (kept keys : List Text) : Prop where
  /-- Each key is accepted once. -/
  nodup : keys.Nodup
  /-- They are candidates of the rule. -/
  candidate : ∀ k ∈ keys, k ∈ r.candidates.map (·.key)
  /-- They were not accepted before. -/
  new : ∀ k ∈ keys, k ∉ kept

/-- Keys accepted after others and then more of them are accepted after the others. -/
theorem Fresh.append {more : List Text} (h : Fresh r kept keys)
    (hmore : Fresh r (keys ++ kept) more) : Fresh r kept (keys ++ more) where
  nodup := by
    refine List.nodup_append.mpr ⟨h.nodup, hmore.nodup, ?_⟩
    -- What comes later is new after the first keys, too.
    rintro k hk _ hm rfl
    exact hmore.new k hm (List.mem_append_left _ hk)
  candidate k hk := (List.mem_append.mp hk).elim (h.candidate k) (hmore.candidate k)
  new k hk := (List.mem_append.mp hk).elim (h.new k) fun hm hkept =>
    hmore.new k hm (List.mem_append_right _ hkept)

/-- Rounds at a cursor, each in the document of the one before, with the keys of each. -/
inductive Rounds (config : Config) (document : Text) (line column : Nat) :
    Text → List (List Text) → Text → Prop
  /-- No round is made. -/
  | nil (source : Text) : Rounds config document line column source [] source
  /-- A round is made, and then the others. -/
  | cons {source middle new : Text} {keys : List Text} {kss : List (List Text)}
      (hround : config.Round document line column source keys middle)
      (hrounds : Rounds config document line column middle kss new) :
      Rounds config document line column source (keys :: kss) new

/-- One round keeps what rounds keep, and accepts at least one key that is fresh. -/
theorem OffersAt.step (h : config.OffersAt r p column kept source b c)
    (hindent : config.settings.autoIndent = true) (hkeys : config.CandidatesAreKeys)
    (hround : config.Round document p.line column source keys new) :
    keys ≠ [] ∧ Fresh r kept keys
      ∧ ∃ b' c', config.OffersAt r p column (keys ++ kept) new b' c' := by
  obtain ⟨offer, i, hoffer, hpick, hi, hnew⟩ := hround
  obtain ⟨i', new', b', c', hi', hnew', -, hkeeps⟩ :=
    h.exists_insertion hindent hkeys hoffer hpick document
  -- The edit of the round is the one that the keys make.
  obtain rfl : i = i' := by simpa using hi.symm.trans hi'
  obtain rfl : new = new' := Option.some.inj (hnew.symm.trans hnew')
  have hfresh := fun k hk => h.key_of_mem_suggestions hoffer (hpick.offered k hk)
  exact ⟨hpick.ne_nil, ⟨hpick.nodup, fun k hk => (hfresh k hk).1, fun k hk => (hfresh k hk).2⟩,
    b', c', hkeeps⟩

/-- Rounds keep it too, and accept fresh keys, at least one in each. -/
theorem OffersAt.run (h : config.OffersAt r p column kept source b c)
    (hindent : config.settings.autoIndent = true) (hkeys : config.CandidatesAreKeys)
    (hrounds : config.Rounds document p.line column source kss new) :
    kss.length ≤ kss.flatten.length ∧ Fresh r kept kss.flatten
      ∧ ∃ b' c', config.OffersAt r p column (kss.flatten ++ kept) new b' c' := by
  induction hrounds generalizing kept b c with
  | nil source =>
      exact ⟨Nat.le_refl _, ⟨List.nodup_nil, by simp, by simp⟩, b, c, h⟩
  | cons hround _ ih =>
      rename_i keys kss
      -- The later rounds start with the keys of this one kept.
      obtain ⟨hne, hfresh, b', c', hkeeps⟩ := h.step hindent hkeys hround
      obtain ⟨hlength, hmore, b'', c'', hend⟩ := ih hkeeps
      have hpos := List.length_pos_iff.mpr hne
      refine ⟨?_, hfresh.append hmore, b'', c'', hend.mono ?_⟩
      · rw [List.length_cons, List.flatten_cons, List.length_append]
        omega
      · intro k
        simp only [List.flatten_cons, List.mem_append]
        tauto

/-! ## Progress -/

/-- An offer on the line of a field is made by a rule, and can be kept up. -/
theorem offersAt_of_suggest? (hreturn : ∀ l ∈ Text.lines source, l.getLast? ≠ some '\r')
    (hb : config.block? source = some b) (hp : p ∈ b.fields)
    (hoffer : config.suggest? source p.line column = some offer) :
    ∃ r, config.OffersAt r p column (b.scannedKeys p.line) source b offer.context := by
  rw [suggest?, hb, Option.bind_some] at hoffer
  obtain ⟨c, hc, hrule⟩ := Option.bind_eq_some_iff.mp hoffer
  obtain ⟨r, hr, rfl⟩ := Option.map_eq_some_iff.mp hrule
  exact ⟨r, hreturn, hb, hp, hc, hr, List.Subset.refl _⟩

/-- **Accepting offers makes progress and ends.** Keys that are offered on the line of a field can
be accepted. They come first among the existing keys below the field afterwards, before those that
the scan for children found, and none of these is offered again. So no key is accepted twice in a
run of rounds, and there are no more rounds than the rule has distinct candidates; as long as
anything is offered, another round can be made. -/
theorem accepting_offers_ends (hindent : config.settings.autoIndent = true)
    (hkeys : config.CandidatesAreKeys)
    (hreturn : ∀ l ∈ Text.lines source, l.getLast? ≠ some '\r')
    (hb : config.block? source = some b) (hp : p ∈ b.fields)
    (hoffer : config.suggest? source p.line column = some offer) (document : Text) :
    (∀ keys, offer.CanPick keys → ∃ i new b',
        insertPicked offer document config.settings.autoIndent keys = .ok [i]
        ∧ i.applied? source = some new ∧ config.block? new = some b'
        ∧ (∀ column', ∃ c', b'.resolve? p.line column' = some c'
            ∧ b'.existingKeys c' = keys ++ b.scannedKeys p.line)
        ∧ ∃ offer', config.suggest? new p.line column = some offer'
            ∧ ∀ s ∈ offer'.suggestions, s.key ∉ keys ++ b.scannedKeys p.line)
      ∧ ∃ r ∈ config.rules, config.offeringRule? offer.context = some r
          ∧ ∀ kss new, config.Rounds document p.line column source kss new →
              kss.flatten.Nodup
              ∧ kss.length ≤ (r.candidates.map (·.key)).dedup.length
              ∧ ∃ offer', config.suggest? new p.line column = some offer'
                  ∧ (∀ s ∈ offer'.suggestions, s.key ∉ kss.flatten)
                  ∧ (offer'.suggestions ≠ [] →
                      ∃ keys new', config.Round document p.line column new keys new') := by
  obtain ⟨r, h⟩ := offersAt_of_suggest? hreturn hb hp hoffer
  refine ⟨?_, r, h.mem_rules, h.rule_eq, ?_⟩
  · intro keys hpick
    obtain ⟨i, new, b', c', hi, hnew, hscanned, h'⟩ :=
      h.exists_insertion hindent hkeys hoffer hpick document
    refine ⟨i, new, b', hi, hnew, h'.block_eq, ?_, _, h'.suggest?_eq, ?_⟩
    · -- The keys are there, so the value at the path is not consulted.
      intro column'
      obtain ⟨d, hd, -, hkey, -⟩ := Block.exists_resolve?_of_mem_fields h'.mem_fields column'
      refine ⟨d, hd, ?_⟩
      have hne : keys ++ b.scannedKeys p.line ≠ [] :=
        List.append_ne_nil_of_left_ne_nil hpick.ne_nil _
      rw [Block.existingKeys, hkey, hscanned, if_neg hne]
    · exact fun s hs =>
        (h'.key_of_mem_suggestions h'.suggest?_eq (List.mem_map_of_mem hs)).2
  · intro kss new hrounds
    obtain ⟨hlength, hfresh, b', c', h'⟩ :=
      (h.mono (List.nil_subset _)).run hindent hkeys hrounds
    rw [List.append_nil] at h'
    refine ⟨hfresh.nodup, ?_, _, h'.suggest?_eq, ?_, ?_⟩
    · -- Each round takes at least one of the distinct candidates.
      have hsubset : kss.flatten ⊆ (r.candidates.map (·.key)).dedup := fun k hk =>
        List.mem_dedup.mpr (hfresh.candidate k hk)
      exact Nat.le_trans hlength (List.subperm_of_subset hfresh.nodup hsubset).length_le
    · exact fun s hs =>
        (h'.key_of_mem_suggestions h'.suggest?_eq (List.mem_map_of_mem hs)).2
    · exact fun hne => h'.exists_round hindent hkeys h'.suggest?_eq hne document

/-- A configuration with one rule, which offers three keys together below a field. -/
def offeringThree : Config :=
  { settings := .default
    rules :=
      [{ id := "r", enabled := true, field := "a", child := none, source := .inline
         candidates := [.plain "x".toList, .plain "y".toList, .plain "z".toList], value := none
         display := .all, multiSelect := true }] }

/-- A document with a child of the field. -/
def singleChildDocument : Text :=
  "---\na:\n  y: 1\n---".toList

/-- The scan for the children of the field finds the one that is there. -/
theorem scannedKeys_singleChildDocument
    (hb : offeringThree.block? singleChildDocument = some b) :
    (⟨1, ⟨0, "a".toList, [], 2⟩⟩ : PlacedField) ∈ b.fields ∧ b.scannedKeys 1 = ["y".toList] := by
  rw [← Option.some.inj hb]
  decide

/-- Two keys are accepted together, nothing is offered any more, and there cannot be more than three
rounds. -/
theorem accepting_offers_ends_in_singleChildDocument :
    ∃ offer, offeringThree.suggest? singleChildDocument 1 2 = some offer
      ∧ offer.suggestions.map (·.key) = ["x".toList, "z".toList]
      ∧ (∃ i new, insertPicked offer "n".toList offeringThree.settings.autoIndent
            ["z".toList, "x".toList] = .ok [i]
          ∧ i.applied? singleChildDocument = some new
          ∧ ∃ offer', offeringThree.suggest? new 1 2 = some offer'
              ∧ ∀ s ∈ offer'.suggestions, s.key ∉ ["z".toList, "x".toList, "y".toList])
      ∧ ∀ kss new, offeringThree.Rounds "n".toList 1 2 singleChildDocument kss new →
          kss.length ≤ 3 := by
  obtain ⟨b, hb⟩ : ∃ b, offeringThree.block? singleChildDocument = some b := ⟨_, rfl⟩
  obtain ⟨hp, hscanned⟩ := scannedKeys_singleChildDocument hb
  obtain ⟨offer, hoffer, hoffered, hmode⟩ :
      ∃ offer, offeringThree.suggest? singleChildDocument 1 2 = some offer
        ∧ offer.suggestions.map (·.key) = ["x".toList, "z".toList] ∧ offer.mode = .multi :=
    ⟨_, rfl, by decide, rfl⟩
  obtain ⟨haccept, r, hr, -, hrounds⟩ :=
    accepting_offers_ends rfl (by decide) (by decide) hb hp hoffer "n".toList
  rw [hscanned] at haccept
  refine ⟨offer, hoffer, hoffered, ?_, ?_⟩
  · have hpick : offer.CanPick ["z".toList, "x".toList] :=
      ⟨by decide, by decide, by rw [hoffered]; decide, by rw [hmode]; decide⟩
    obtain ⟨i, new, -, hi, hnew, -, -, offer', hoffer', hnone⟩ := haccept _ hpick
    exact ⟨i, new, hi, hnew, offer', hoffer', hnone⟩
  · intro kss new h
    obtain rfl := List.mem_singleton.mp hr
    exact (hrounds kss new h).2.1

end Config

end Frontmatter
