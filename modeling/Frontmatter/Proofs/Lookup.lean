import Frontmatter.Proofs.Block.Resolution
import Frontmatter.Proofs.Path

/-! # The value at a path

The value of a context is looked up along the segments of its path. `Value.LeadsTo` says what it
takes for a chain of keys to lead from a value to another one, step by step. The keys of the fields
that lead to a cursor are `Block.keysTo`, and their segments are what is looked up:
`value_found_along_segments`. A key without a dot is its own segment, so that the fields' keys lead
to the value as long as none of them holds a dot. A key with a dot is taken apart, and leads
elsewhere or nowhere. -/

namespace Frontmatter

namespace Value

variable {u v w : Value} {key : Text} {keys keys' : List Text}

/-! ## Chains of keys -/

/-- Whether a chain of keys leads from a value to another one. -/
inductive LeadsTo : Value → List Text → Value → Prop where
  /-- No keys lead from a value to itself. -/
  | here (v : Value) : LeadsTo v [] v
  /-- A key leads from a record to the value of the first entry whose key is written like it. -/
  | step {v k x w : Value} {before after : List (Value × Value)} {key : Text} {keys : List Text}
      (hentries : v.entries? = some (before ++ (k, x) :: after)) (hkey : k.pathKey? = some key)
      (hfirst : ∀ e ∈ before, e.1.pathKey? ≠ some key) (hrest : LeadsTo x keys w) :
      LeadsTo v (key :: keys) w

/-- The member of a record is the value of the first entry with that key. -/
theorem member?_eq_some_iff : v.member? key = some w
    ↔ ∃ before k after, v.entries? = some (before ++ (k, w) :: after) ∧ k.pathKey? = some key
        ∧ ∀ e ∈ before, e.1.pathKey? ≠ some key := by
  rw [member?, Option.bind_eq_some_iff]
  constructor
  · rintro ⟨entries, hentries, hfind⟩
    obtain ⟨⟨k, x⟩, hentry, rfl⟩ := Option.map_eq_some_iff.mp hfind
    obtain ⟨hkey, before, after, rfl, hfirst⟩ := List.find?_eq_some_iff_append.mp hentry
    exact ⟨before, k, after, hentries, by simpa using hkey, by simpa using hfirst⟩
  · rintro ⟨before, k, after, hentries, hkey, hfirst⟩
    have hfind : (before ++ (k, w) :: after).find? (fun e => e.1.pathKey? == some key)
        = some (k, w) :=
      List.find?_eq_some_iff_append.mpr
        ⟨by simpa using hkey, before, after, rfl, by simpa using hfirst⟩
    exact ⟨_, hentries, by rw [hfind, Option.map_some]⟩

/-- No keys lead to the value itself. -/
theorem descend?_nil (v : Value) : v.descend? [] = some v := rfl

/-- The first key leads to a member, and the others lead on from there. -/
theorem descend?_cons (v : Value) (key : Text) (keys : List Text) :
    v.descend? (key :: keys) = (v.member? key).bind fun x => x.descend? keys := rfl

/-- Descending along a chain of keys finds what the chain leads to. -/
theorem descend?_eq_some_iff : v.descend? keys = some w ↔ v.LeadsTo keys w := by
  induction keys generalizing v with
  | nil =>
      rw [descend?_nil, Option.some_inj]
      constructor
      · rintro rfl
        exact .here v
      · rintro ⟨⟩
        rfl
  | cons key keys ih =>
      -- Taking a member is one step, and the value that it gives varies in the induction.
      rw [descend?_cons, Option.bind_eq_some_iff]
      constructor
      · rintro ⟨x, hx, hrest⟩
        obtain ⟨before, k, after, hentries, hkey, hfirst⟩ := member?_eq_some_iff.mp hx
        exact .step hentries hkey hfirst (ih.mp hrest)
      · rintro (_ | ⟨hentries, hkey, hfirst, hrest⟩)
        exact ⟨_, member?_eq_some_iff.mpr ⟨_, _, _, hentries, hkey, hfirst⟩, ih.mpr hrest⟩

/-- Two chains lead to a value one behind the other. -/
theorem leadsTo_append_iff :
    v.LeadsTo (keys ++ keys') w ↔ ∃ u, v.LeadsTo keys u ∧ u.LeadsTo keys' w := by
  simp only [← descend?_eq_some_iff, descend?, List.foldlM_append]
  exact Option.bind_eq_some_iff

/-- Looking up the path of a chain of keys descends along the keys' segments. -/
theorem lookup?_ofKeys (v : Value) (keys : List Text) :
    v.lookup? (Path.ofKeys keys) = v.descend? (keys.flatMap Path.segments) := by
  rw [lookup?, Path.segments_ofKeys]

/-- Records nested in each other along a chain of keys, with nothing in the innermost. -/
def nested : List Text → Value
  | [] => .null
  | key :: keys => .record [(.text key, nested keys)]

/-- The one member of a record in another one has the key in front. -/
theorem member?_nested (key : Text) (keys : List Text) (other : Text) :
    (nested (key :: keys)).member? other = if key = other then some (nested keys) else none := by
  have hkey : (Value.text key).pathKey? = some key := rfl
  rw [nested, member?, entries?, Option.bind_some, List.find?_cons, hkey, List.find?_nil]
  by_cases h : key = other
  · rw [if_pos h, h, beq_self_eq_true, Option.map_some]
  · rw [if_neg h, beq_false_of_ne (by simpa using h), Option.map_none]

/-- Along the keys by which records are nested, what is innermost is found. -/
theorem descend?_nested (keys : List Text) : (nested keys).descend? keys = some .null := by
  induction keys with
  | nil => rfl
  | cons key keys ih => rw [descend?_cons, member?_nested, if_pos rfl, Option.bind_some, ih]

/-- Only the chain along which records are nested leads to what is innermost. -/
theorem eq_of_descend?_nested (h : (nested keys).descend? keys' = some .null) : keys' = keys := by
  induction keys generalizing keys' with
  | nil =>
      cases keys' with
      | nil => rfl
      | cons key keys' =>
          have hmember : Value.null.member? key = none := rfl
          rw [nested, descend?_cons, hmember] at h
          exact absurd h (by simp)
  | cons key keys ih =>
      cases keys' with
      | nil => exact absurd h (by simp [descend?_nil, nested])
      | cons key' keys' =>
          rw [descend?_cons, member?_nested, Option.bind_eq_some_iff] at h
          obtain ⟨x, hx, hrest⟩ := h
          -- A record with one member lets no other key through.
          split at hx
          · rename_i hkey
            rw [Option.some_inj] at hx
            subst hkey hx
            rw [ih hrest]
          · exact absurd hx (by simp)

/-- Descending along the segments of keys is descending along the keys, whatever the value, exactly
if no key holds a dot. -/
theorem descend?_segments_iff (hne : ∀ key ∈ keys, key ≠ []) :
    (∀ v : Value, v.descend? (keys.flatMap Path.segments) = v.descend? keys)
      ↔ ∀ key ∈ keys, '.' ∉ key := by
  constructor
  · -- In nested records the segments have to be the keys.
    intro h key hkey hdot
    have hsame := eq_of_descend?_nested ((h (nested keys)).trans (descend?_nested keys))
    rw [← hsame] at hkey
    obtain ⟨other, -, hsegment⟩ := List.mem_flatMap.mp hkey
    exact Text.not_mem_of_mem_splitOn (List.mem_filter.mp hsegment).1 hdot
  · intro hdot v
    rw [Path.flatMap_segments_of_dot_not_mem hne hdot]

/-- The integer that a value is. -/
def int? : Value → Option Int
  | .int n => some n
  | _ => none

/-- A value is an integer exactly if it is written as one. -/
theorem int?_eq_some_iff {i : Int} : v.int? = some i ↔ v = .int i := by
  cases v <;> simp [int?]

/-- Where an integer is found, it is the value that is found. -/
theorem eq_some_int_of_bind {found : Option Value} {i : Int} (h : found.bind int? = some i) :
    found = some (.int i) := by
  obtain ⟨v, rfl, hv⟩ := Option.bind_eq_some_iff.mp h
  rw [int?_eq_some_iff.mp hv]

end Value

namespace Block

variable {b : Block} {n column : Nat} {text : Text} {c : Context} {v : Value}

/-! ## The keys that lead to a cursor -/

/-- The keys of the fields that lead to a line, outermost first. -/
def keysTo (b : Block) (n : Nat) (text : Text) : List Text :=
  ((b.chain n text).map (·.field.key)).reverse

/-- An ascent meets fields that are above. -/
theorem mem_of_mem_ascend {expected : Option Nat} {above : List PlacedField} {p : PlacedField}
    (h : p ∈ ascend expected above) : p ∈ above := by
  induction above generalizing expected with
  | nil =>
      rw [ascend_nil] at h
      exact h
  | cons q above ih =>
      cases expected with
      | none =>
          rw [ascend_none] at h
          exact absurd h List.not_mem_nil
      | some indent =>
          rw [ascend] at h
          split at h
          · rcases List.mem_cons.mp h with rfl | h
            · exact List.mem_cons_self
            · exact List.mem_cons_of_mem q (ih h)
          · exact List.mem_cons_of_mem q (ih h)

/-- Field lines have keys that are not empty, and so have those that lead to a line. -/
theorem ne_nil_of_mem_keysTo {key : Text} (h : key ∈ b.keysTo n text) : key ≠ [] := by
  obtain ⟨p, hp, rfl⟩ := List.mem_map.mp (List.mem_reverse.mp h)
  have habove : ∀ {expected}, p ∈ ascend expected (b.fieldsAbove n) → p.field.key ≠ [] := by
    intro expected hp
    obtain ⟨hfields, -⟩ := mem_fieldsAbove.mp (mem_of_mem_ascend hp)
    obtain ⟨_, -, hfield⟩ := mem_fields.mp hfields
    exact FieldLine.key_ne_nil_of_parse? hfield
  cases hparse : FieldLine.parse? text with
  | none =>
      rw [chain_of_parse?_eq_none hparse] at hp
      exact habove hp
  | some field =>
      rw [chain_of_parse? hparse] at hp
      rcases List.mem_cons.mp hp with rfl | hp
      · exact FieldLine.key_ne_nil_of_parse? hparse
      · exact habove hp

/-- The last key that leads to a field line is its own. -/
theorem exists_keysTo_eq_concat {field : FieldLine} (h : FieldLine.parse? text = some field) :
    ∃ parents, b.keysTo n text = parents ++ [field.key] := by
  rw [keysTo, chain_of_parse? h, lineage, List.map_cons, List.reverse_cons]
  exact ⟨_, rfl⟩

/-- The path of a context is that of the keys, and its value is what their segments lead to. -/
theorem path_eq_and_value_eq_some_iff (hc : b.resolve? n column = some c)
    (htext : b.interiorText? n = some text) (htree : b.tree = some v) :
    c.path = Path.ofKeys (b.keysTo n text)
      ∧ ∀ w, c.value = some w ↔ v.LeadsTo ((b.keysTo n text).flatMap Path.segments) w := by
  obtain ⟨text', hres⟩ := resolution_of_resolve? hc
  obtain rfl := Option.some.inj (htext.symm.trans hres.text_eq)
  have hne : b.chain n text ≠ [] := (isSome_resolve?_iff htext).mp (by rw [hc]; rfl)
  have hpath := hres.path_eq
  rw [chainPath?, if_neg hne, Option.some_inj] at hpath
  refine ⟨hpath.symm, fun w => ?_⟩
  rw [hres.value_eq, htree, Option.bind_some, ← hpath, chainPath, Value.lookup?_ofKeys,
    Value.descend?_eq_some_iff]
  rfl

/-- **The value of a context is what the segments of its keys lead to.** When none of the keys
holds a dot these are the keys themselves, so that the value of a field is that of an entry with the
field's own key, and there is none exactly if a step fails. As soon as a key holds a dot, there are
values in which the segments lead elsewhere than the keys. -/
theorem value_found_along_segments (hc : b.resolve? n column = some c) (htree : b.tree = some v) :
    ∃ text, b.interiorText? n = some text ∧ c.path = Path.ofKeys (b.keysTo n text)
      ∧ (∀ w, c.value = some w ↔ v.LeadsTo ((b.keysTo n text).flatMap Path.segments) w)
      ∧ ((∀ key ∈ b.keysTo n text, '.' ∉ key) →
        (∀ w, c.value = some w ↔ v.LeadsTo (b.keysTo n text) w)
          ∧ ∀ field w, FieldLine.parse? text = some field → c.value = some w →
            ∃ parents u before k after, b.keysTo n text = parents ++ [field.key]
              ∧ v.LeadsTo parents u ∧ u.entries? = some (before ++ (k, w) :: after)
              ∧ k.pathKey? = some field.key)
      ∧ ((∀ u : Value, u.descend? ((b.keysTo n text).flatMap Path.segments)
            = u.descend? (b.keysTo n text)) ↔ ∀ key ∈ b.keysTo n text, '.' ∉ key) := by
  obtain ⟨text, hres⟩ := resolution_of_resolve? hc
  obtain ⟨hpath, hvalue⟩ := path_eq_and_value_eq_some_iff hc hres.text_eq htree
  have hkeys : ∀ key ∈ b.keysTo n text, key ≠ [] := fun key hkey => ne_nil_of_mem_keysTo hkey
  refine ⟨text, hres.text_eq, hpath, hvalue, fun hdot => ?_, Value.descend?_segments_iff hkeys⟩
  have hplain : ∀ w, c.value = some w ↔ v.LeadsTo (b.keysTo n text) w := by
    rwa [Path.flatMap_segments_of_dot_not_mem hkeys hdot] at hvalue
  refine ⟨hplain, fun field w hfield hw => ?_⟩
  -- The last step takes the field's own key.
  obtain ⟨parents, hparents⟩ := exists_keysTo_eq_concat (b := b) (n := n) hfield
  have hleads := (hplain w).mp hw
  rw [hparents, Value.leadsTo_append_iff] at hleads
  obtain ⟨u, hu, hlast⟩ := hleads
  cases hlast with
  | step hentries hkey _ hrest =>
      cases hrest
      exact ⟨parents, u, _, _, _, hparents, hu, hentries, hkey⟩

/-- A document with a key below another one, and with two keys that hold a dot. -/
def dottedKeysDocument : Text :=
  "---\na:\n  b: 1\na.b: 2\nc.d: 3\n---".toList

/-- The keys that the document's value has, and some that lead nowhere. -/
theorem exists_tree_dottedKeysDocument :
    ∃ b v, parse? dottedKeysDocument "---".toList = some b ∧ b.tree = some v
      ∧ v.LeadsTo ["a".toList, "b".toList] (.int 1) ∧ v.LeadsTo ["a.b".toList] (.int 2)
      ∧ v.LeadsTo ["c.d".toList] (.int 3) ∧ ∀ w, ¬ v.LeadsTo ["c".toList, "d".toList] w := by
  obtain ⟨b, hb⟩ : ∃ b, parse? dottedKeysDocument "---".toList = some b := ⟨_, rfl⟩
  have hfound : ∃ v ∈ b.tree,
      (v.descend? ["a".toList, "b".toList]).bind Value.int? = some 1
        ∧ (v.descend? ["a.b".toList]).bind Value.int? = some 2
        ∧ (v.descend? ["c.d".toList]).bind Value.int? = some 3
        ∧ (v.descend? ["c".toList, "d".toList]).isNone = true := by
    obtain rfl := Option.some.inj hb
    decide +kernel
  obtain ⟨v, hv, hbelow, hdotted, hdotted', hnone⟩ := hfound
  have hleads : ∀ {keys i}, (v.descend? keys).bind Value.int? = some i → v.LeadsTo keys (.int i) :=
    fun h => Value.descend?_eq_some_iff.mp (Value.eq_some_int_of_bind h)
  refine ⟨b, v, hb, hv, hleads hbelow, hleads hdotted, hleads hdotted', fun w hw => ?_⟩
  rw [Value.descend?_eq_some_iff.mpr hw] at hnone
  exact absurd hnone Bool.false_ne_true

/-- The key that is below another one has its value. -/
theorem value_found_along_segments_in_dottedKeysDocument :
    ∃ b c v, parse? dottedKeysDocument "---".toList = some b ∧ b.resolve? 2 0 = some c
      ∧ b.tree = some v ∧ c.path = "a.b".toList
      ∧ v.LeadsTo ["a".toList, "b".toList] (.int 1) ∧ c.value = some (.int 1) := by
  obtain ⟨b, v, hb, hv, hleads, -⟩ := exists_tree_dottedKeysDocument
  obtain ⟨c, hc, htext, hkeys⟩ : ∃ c, b.resolve? 2 0 = some c
      ∧ b.interiorText? 2 = some "  b: 1".toList
      ∧ b.keysTo 2 "  b: 1".toList = ["a".toList, "b".toList] := by
    obtain rfl := Option.some.inj hb
    exact ⟨_, rfl, by decide, by decide⟩
  obtain ⟨text, htext', hpath, -, hplain, -⟩ := value_found_along_segments hc hv
  obtain rfl := Option.some.inj (htext.symm.trans htext')
  rw [hkeys] at hpath hplain
  obtain ⟨hvalue, -⟩ := hplain (by decide)
  exact ⟨b, c, v, hb, hc, hv, hpath, hleads, (hvalue _).mpr hleads⟩

/-- A key that holds a dot has the value of another key, or none, although it leads to a value of
its own. -/
theorem dotted_key_leads_elsewhere :
    ∃ b v, parse? dottedKeysDocument "---".toList = some b ∧ b.tree = some v
      ∧ (∃ c, b.resolve? 3 0 = some c ∧ b.interiorText? 3 = some "a.b: 2".toList
        ∧ b.keysTo 3 "a.b: 2".toList = ["a.b".toList]
        ∧ v.LeadsTo ["a.b".toList] (.int 2) ∧ c.value = some (.int 1))
      ∧ ∃ c, b.resolve? 4 0 = some c ∧ b.interiorText? 4 = some "c.d: 3".toList
        ∧ b.keysTo 4 "c.d: 3".toList = ["c.d".toList]
        ∧ v.LeadsTo ["c.d".toList] (.int 3) ∧ c.value = none := by
  obtain ⟨b, v, hb, hv, hbelow, hdotted, hdotted', hnone⟩ := exists_tree_dottedKeysDocument
  obtain ⟨⟨c, hc, htext, hkeys⟩, c', hc', htext', hkeys'⟩ :
      (∃ c, b.resolve? 3 0 = some c ∧ b.interiorText? 3 = some "a.b: 2".toList
        ∧ b.keysTo 3 "a.b: 2".toList = ["a.b".toList])
      ∧ ∃ c, b.resolve? 4 0 = some c ∧ b.interiorText? 4 = some "c.d: 3".toList
        ∧ b.keysTo 4 "c.d: 3".toList = ["c.d".toList] := by
    obtain rfl := Option.some.inj hb
    exact ⟨⟨_, rfl, by decide, by decide⟩, _, rfl, by decide, by decide⟩
  obtain ⟨-, hvalue⟩ := path_eq_and_value_eq_some_iff hc htext hv
  obtain ⟨-, hvalue'⟩ := path_eq_and_value_eq_some_iff hc' htext' hv
  rw [hkeys] at hvalue
  rw [hkeys'] at hvalue'
  refine ⟨b, v, hb, hv, ⟨c, hc, htext, hkeys, hdotted, (hvalue _).mpr hbelow⟩,
    c', hc', htext', hkeys', hdotted', Option.eq_none_iff_forall_ne_some.mpr fun w hw => ?_⟩
  exact hnone w ((hvalue' w).mp hw)

end Block

end Frontmatter
