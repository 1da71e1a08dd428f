import Frontmatter.Config.Basic

/-! # Configurations read back

A configuration that is written as a record can be read from it again. `named` are the entries of
data under their names, where missing data have no entry, and `Value.fields?_eq` reads such data off
their record. For each part of a configuration it is enough, then, to say which data are written
under its names and that each of them is read as what was written.
`Config.configuration_reads_back` puts the parts together. -/

namespace Frontmatter

/-! ## Named data -/

namespace Readable

variable {δ : Type} {names : List Text} {entries : List (Text × δ)}

/-- Entries with different names leave one with a given name, if there is one. -/
theorem filter_name_eq_toList (hnodup : (entries.map (·.1)).Nodup) (name : Text) :
    entries.filter (·.1 = name) = ((entries.lookup name).map fun d => (name, d)).toList := by
  induction entries with
  | nil => rfl
  | cons e entries ih =>
      rw [List.map_cons, List.nodup_cons] at hnodup
      rw [List.lookup_cons]
      by_cases hname : e.1 = name
      · -- No later entry has the name again.
        have hnone : entries.filter (·.1 = name) = [] := by
          refine List.filter_eq_nil_iff.mpr fun e' he' => ?_
          have hne : e'.1 ≠ e.1 := fun heq => hnodup.1 (heq ▸ List.mem_map_of_mem he')
          simpa [← hname] using hne
        rw [List.filter_cons_of_pos (by simpa using hname), hnone, ← hname, beq_self_eq_true]
        rfl
      · rw [List.filter_cons_of_neg (by simpa using hname), ih hnodup.2,
          beq_eq_false_iff_ne.mpr (Ne.symm hname)]

/-- Where the names of entries differ, each name gets what is found under it. -/
theorem place?_eq_map_lookup (names : List Text) (hnodup : (entries.map (·.1)).Nodup) :
    place? names entries = some (names.map fun name => entries.lookup name) := by
  have hfound : place? names entries
      = names.mapM fun name => (pure (entries.lookup name) : Option (Option δ)) := by
    rw [place?]
    congr 1
    funext name
    rw [filter_name_eq_toList hnodup]
    cases entries.lookup name <;> rfl
  rw [hfound, List.mapM_pure]
  rfl

/-- The entries of data under names in the same order; missing data have none. -/
def named (names : List Text) (data : List (Option δ)) : List (Text × δ) :=
  (names.zip data).filterMap fun p => p.2.map fun d => (p.1, d)

/-- The first datum has an entry in front of the others, if it is there. -/
theorem named_cons (name : Text) (names : List Text) (d : Option δ) (data : List (Option δ)) :
    named (name :: names) (d :: data) = (d.map fun d => (name, d)).toList ++ named names data := by
  cases d <;> rfl

/-- The names of the entries are among the given ones, in their order. -/
theorem map_named_sublist (names : List Text) (data : List (Option δ)) :
    ((named names data).map (·.1)).Sublist names := by
  induction names generalizing data with
  | nil => exact List.nil_sublist _
  | cons name names ih =>
      cases data with
      | nil => exact List.nil_sublist _
      | cons d data =>
          rw [named_cons]
          cases d with
          | none => exact (ih data).cons name
          | some d => exact (ih data).cons_cons name

/-- Data are found under their names. -/
theorem map_lookup_named (hnodup : names.Nodup) {data : List (Option δ)}
    (hlength : names.length = data.length) :
    names.map (fun name => (named names data).lookup name) = data := by
  induction names generalizing data with
  | nil => exact (List.length_eq_zero_iff.mp hlength.symm).symm
  | cons name names ih =>
      obtain ⟨d, data, rfl⟩ := List.exists_cons_of_length_eq_add_one hlength.symm
      obtain ⟨hname, hnodup⟩ := List.nodup_cons.mp hnodup
      -- The first name is none of the others, so that neither hides the other's data.
      have hfirst : (named names data).lookup name = none := by
        refine List.lookup_eq_none_iff.mpr fun e he => ?_
        have hmem := (map_named_sublist names data).subset (List.mem_map_of_mem he)
        simpa using fun heq : name = e.1 => hname (heq ▸ hmem)
      have hothers : ∀ m ∈ names, (named (name :: names) (d :: data)).lookup m
          = (named names data).lookup m := by
        intro m hm
        have hne : (m == name) = false := beq_eq_false_iff_ne.mpr fun heq => hname (heq ▸ hm)
        rw [named_cons]
        cases d <;> simp [List.lookup_cons, hne]
      rw [List.map_cons, List.map_congr_left hothers, ih hnodup (Nat.succ.inj hlength), named_cons,
        List.lookup_append, hfirst, Option.or_none]
      cases d <;> simp

/-- Data that are written under their names are placed as they were. -/
theorem place?_named (hnodup : names.Nodup) {data : List (Option δ)}
    (hlength : names.length = data.length) : place? names (named names data) = some data := by
  rw [place?_eq_map_lookup names ((map_named_sublist names data).nodup hnodup),
    map_lookup_named hnodup hlength]

/-- The order of entries does not matter. -/
theorem place?_perm {entries' : List (Text × δ)} (h : entries.Perm entries') :
    place? names entries = place? names entries' := by
  rw [place?, place?]
  congr 1
  funext name
  have hfiltered := h.filter fun e => e.1 = name
  generalize entries.filter (fun e => e.1 = name) = xs at hfiltered
  generalize entries'.filter (fun e => e.1 = name) = ys at hfiltered
  -- An entry is taken if it is the only one, and that does not depend on the order.
  induction hfiltered with
  | nil => rfl
  | swap => rfl
  | trans _ _ ihxs ihys => exact ihxs.trans ihys
  | @cons e xs ys hperm =>
      cases xs with
      | nil => rw [hperm.nil_eq]
      | cons x xs =>
          cases ys with
          | nil => exact absurd hperm.eq_nil (List.cons_ne_nil x xs)
          | cons y ys => rfl

/-- Items that are each read as they were are read so together. -/
theorem mapM_map_eq_some {α β : Type} {write : α → β} {read : β → Option α} {xs : List α}
    (h : ∀ x ∈ xs, read (write x) = some x) : (xs.map write).mapM read = some xs := by
  induction xs with
  | nil => rfl
  | cons x xs ih =>
      have hx := h x List.mem_cons_self
      have hxs := ih fun y hy => h y (List.mem_cons_of_mem x hy)
      simp [List.mapM_cons, hx, hxs]

end Readable

/-- The data under different names are the fields of their record. -/
theorem Value.fields?_eq {names : List Text} (hnodup : names.Nodup) {data : List (Option Value)}
    (hlength : names.length = data.length) {v : Value}
    (hv : v = .object (Readable.named names data)) : Readable.fields? names v = some data := by
  -- The names are read as the texts that they are written as.
  have hplaced := Readable.place?_named hnodup hlength
  rw [hv]
  show Value.fields? names (.object (Readable.named names data)) = some data
  rw [Value.object, Value.fields?, Option.bind_eq_some_iff]
  exact ⟨_, Readable.mapM_map_eq_some fun _ _ => rfl, hplaced⟩

open Readable

/-! ## Data that are read back -/

/-- Whether data are read from what is written for them, which is never null. -/
structure ReadsBack {α : Type} (write : α → Value) (read : Value → Option α) : Prop where
  /-- A datum is read as it was written. -/
  read_write : ∀ x, read (write x) = some x
  /-- What is written for a datum is not null. -/
  present?_write : ∀ x, present? (write x) = some (some (write x))

namespace ReadsBack

variable {α : Type} {write : α → Value} {read : Value → Option α}

/-- Texts are read back. -/
theorem text : ReadsBack .text text? := ⟨fun _ => rfl, fun _ => rfl⟩

/-- Natural numbers are read back. -/
theorem count : ReadsBack (fun n : Nat => .int n) count? := ⟨fun _ => rfl, fun _ => rfl⟩

/-- Doubles are read back. -/
theorem double : ReadsBack .float double? := ⟨fun _ => rfl, fun _ => rfl⟩

/-- What is written as its name is read back if it is found by its name. -/
theorem choice {name : α → Text} {ofName? : Text → Option α} (h : ∀ x, ofName? (name x) = some x) :
    ReadsBack (fun x => .text (name x)) fun d => (choice? d).bind ofName? :=
  ⟨h, fun _ => rfl⟩

/-- A list is read back if its items are. -/
theorem list (h : ReadsBack write read) :
    ReadsBack (fun xs => .list (xs.map write)) (listOf? read) :=
  ⟨fun _ => mapM_map_eq_some fun x _ => h.read_write x, fun _ => rfl⟩

/-- Where null may stand, a datum that is there is read as before. -/
theorem optional?_write (h : ReadsBack write read) (x : α) :
    optional? read (write x) = some (some x) := by
  rw [optional?, h.present?_write]
  show (read (write x)).map some = some (some x)
  rw [h.read_write]
  rfl

/-- A datum that may be missing is read back when null is written for a missing one. -/
theorem optional?_orNull (h : ReadsBack write read) (x : Option α) :
    optional? read (ValueConfig.orNull write x) = some x := by
  cases x with
  | none => rfl
  | some x => exact h.optional?_write x

/-- A datum that may be missing is read back when a missing one is left out. -/
theorem orElse_optional?_map (h : ReadsBack write read) (x : Option α) :
    orElse none (optional? read) (x.map write) = some x := by
  cases x with
  | none => rfl
  | some x => exact h.optional?_write x

/-- A missing datum that is left out is read as what stands for it. -/
theorem orElse_map (h : ReadsBack write read) (default : α) (x : Option α) :
    orElse default read (x.map write) = some (x.getD default) := by
  cases x with
  | none => rfl
  | some x => exact h.read_write x

end ReadsBack

/-- A source is found by its name. -/
theorem Source.ofName?_name (s : Source) : ofName? s.name = some s := by
  cases s <;> decide

/-- A kind of values is found by its name. -/
theorem ValueKind.ofName?_name (k : ValueKind) : ofName? k.name = some k := by
  cases k <;> decide

/-- A unit policy is found by its name. -/
theorem UnitPolicy.ofName?_name (p : UnitPolicy) : ofName? p.name = some p := by
  cases p <;> decide

/-! ## The parts of a configuration -/

namespace DisplayFlags

/-- The parts of display flags have different names. -/
theorem nodup_names : names.Nodup := by decide

/-- Display flags are read back. -/
theorem readsBack : ReadsBack toValue read? := by
  refine ⟨fun f => ?_, fun _ => rfl⟩
  have hfields : fields? names f.toValue
      = some [some (.bool f.icon), some (.bool f.key), some (.bool f.description)] :=
    Value.fields?_eq nodup_names rfl rfl
  rw [read?, hfields]
  rfl

end DisplayFlags

namespace ValueConfig

/-- The parts of a value configuration have different names. -/
theorem nodup_names : names.Nodup := by decide

/-- A value configuration is read back. What it leaves open is written as null. -/
theorem readsBack : ReadsBack toValue read? := by
  refine ⟨fun c => ?_, fun _ => rfl⟩
  have hfields : fields? names c.toValue
      = some [some (.text c.kind.name), some (.bool c.required), some (.list (c.units.map .text)),
          some (.text c.unitPolicy.name), some (orNull .float c.min), some (orNull .float c.max),
          some (.bool c.allowDecimals), some (.list (c.values.map .text)),
          some (orNull (fun n : Nat => .int n) c.minLength),
          some (orNull (fun n : Nat => .int n) c.maxLength), some (orNull .text c.pattern)] :=
    Value.fields?_eq nodup_names rfl rfl
  have htexts := fun xs => ReadsBack.text.list.read_write xs
  rw [read?, hfields]
  simp only [Option.bind_eq_bind, Option.bind_some, orElse, texts?, htexts,
    (ReadsBack.choice ValueKind.ofName?_name).read_write,
    (ReadsBack.choice UnitPolicy.ofName?_name).read_write,
    ReadsBack.double.optional?_orNull, ReadsBack.count.optional?_orNull,
    ReadsBack.text.optional?_orNull]
  rfl

end ValueConfig

namespace CandidateType

/-- The units that a type states. -/
def units? : CandidateType → Option (List Text)
  | number units => some units
  | boolean | enum _ => none

/-- The values that a type states. -/
def values? : CandidateType → Option (List Text)
  | enum values => some values
  | number _ | boolean => none

end CandidateType

namespace Candidate

/-- The parts of a candidate have different names. -/
theorem nodup_partNames : partNames.Nodup := by decide

/-- A type is found again by its name and what it states. -/
theorem bind_ofName?_name (type : Option CandidateType) :
    ((type.map CandidateType.name).bind fun name => CandidateType.ofName? name
        (if Text.asciiLower name = "enum".toList then (type.bind CandidateType.values?).getD []
          else (type.bind CandidateType.units?).getD [])) = type := by
  cases type with
  | none => rfl
  | some type => cases type <;> rfl

/-- The parts of a candidate in the order of their names. -/
def parts (c : Candidate) : List (Option Value) :=
  [some (.text c.key), c.description.map .text, c.icon.map .text,
    (c.type.map CandidateType.name).map .text,
    (c.type.bind CandidateType.units?).map fun units => .list (units.map .text),
    (c.type.bind CandidateType.values?).map fun values => .list (values.map .text)]

/-- A candidate is written as the entries of its parts, where missing parts are left out. -/
theorem toValue_eq (c : Candidate) : c.toValue = .object (named partNames c.parts) := by
  obtain ⟨key, description, icon, type⟩ := c
  cases description <;> cases icon <;> rcases type with - | ⟨units⟩ | - | ⟨values⟩ <;> rfl

/-- What stands under the names of the parts, in any order, is what a record states. -/
theorem ofParts?_eq {key : Text} {description icon type : Option Text}
    {units values : Option (List Text)} {entries : List (Text × Value)}
    (h : entries.Perm (named partNames [some (.text key), description.map .text, icon.map .text,
      type.map .text, units.map fun units => .list (units.map .text),
      values.map fun values => .list (values.map .text)])) :
    ofParts? (entries.map fun e => (.text e.1, e.2))
      = some
          { key, description, icon
            type := type.bind fun name => CandidateType.ofName? name
              (if Text.asciiLower name = "enum".toList then values.getD []
                else units.getD []) } := by
  have hnames : (entries.map fun e => (Value.text e.1, e.2)).mapM
      (fun (e : Value × Value) => (partName? e.1).map (·, e.2)) = some entries :=
    mapM_map_eq_some fun _ _ => rfl
  rw [ofParts?, hnames, Option.bind_eq_bind, Option.bind_some, place?_perm h,
    place?_named nodup_partNames rfl]
  simp only [Option.bind_eq_bind, Option.bind_some, ReadsBack.text.orElse_optional?_map]
  simp only [texts?, ReadsBack.text.list.orElse_map, required, Option.bind_some]
  rfl

/-- A candidate is read back from its record. -/
theorem readsBack : ReadsBack toValue read? := by
  refine ⟨fun c => ?_, fun _ => rfl⟩
  rw [toValue_eq, read?]
  show ofParts? ((named partNames c.parts).map fun e => (Value.text e.1, e.2)) = some c
  rw [parts, ofParts?_eq (.refl _), bind_ofName?_name]

end Candidate

namespace Rule

/-- The parts of a rule have different names. -/
theorem nodup_names : names.Nodup := by decide

/-- A rule is read back, whatever a rule without a name would be named. -/
theorem readsBack (freshId : Text) : ReadsBack toValue (read? freshId) := by
  refine ⟨fun r => ?_, fun _ => rfl⟩
  have hfields : fields? names r.toValue
      = some [some (.text r.id), some (.bool r.enabled), some (.text r.field), r.child.map .text,
          some (.text r.source.name), some (.list (r.candidates.map Candidate.toValue)),
          r.value.map ValueConfig.toValue, some r.display.toValue, some (.bool r.multiSelect)] := by
    refine Value.fields?_eq nodup_names rfl ?_
    obtain ⟨id, enabled, field, child, source, candidates, value, display, multiSelect⟩ := r
    cases child <;> cases value <;> rfl
  rw [read?, hfields]
  simp only [Option.bind_eq_bind, Option.bind_some, ReadsBack.text.orElse_optional?_map,
    ValueConfig.readsBack.orElse_optional?_map]
  simp only [orElse, required, Option.bind_some, DisplayFlags.readsBack.read_write,
    (ReadsBack.choice Source.ofName?_name).read_write, Candidate.readsBack.list.read_write]
  rfl

end Rule

namespace Settings

/-- The settings have different names. -/
theorem nodup_names : names.Nodup := by decide

/-- Settings are read back. -/
theorem readsBack : ReadsBack toValue read? := by
  refine ⟨fun s => ?_, fun _ => rfl⟩
  have hfields : fields? names s.toValue
      = some [some (.int s.minQueryLength), some (.int s.maxSuggestions),
          some (.bool s.caseSensitive), some (.bool s.autoIndent), some (.int s.validationDelay),
          some (.bool s.validate), some (.text s.delimiter)] :=
    Value.fields?_eq nodup_names rfl rfl
  rw [read?, hfields]
  rfl

end Settings

/-! ## Configurations -/

namespace Config

/-- Rules are read back, whatever rules without names would be named. -/
theorem readRules?_map (freshId : Nat → Text) (rules : List Rule) :
    readRules? freshId (Value.list (rules.map Rule.toValue)) = some rules := by
  show (rules.map Rule.toValue).zipIdx.mapM (fun p => Rule.read? (freshId p.2) p.1) = some rules
  generalize 0 = n
  induction rules generalizing n with
  | nil => rfl
  | cons r rules ih =>
      have hr := (Rule.readsBack (freshId n)).read_write r
      simp [List.zipIdx_cons, List.mapM_cons, hr, ih (n + 1)]

/-- **A configuration reads back.** Reading the record that a configuration is written as gives the
configuration again. -/
theorem configuration_reads_back (freshId : Nat → Text) (c : Config) :
    read? freshId c.toValue = some c := by
  have hfields : fields? ["settings", "rules"] c.toValue
      = some [some c.settings.toValue, some (.list (c.rules.map Rule.toValue))] :=
    Value.fields?_eq (by decide) rfl rfl
  rw [read?, hfields]
  simp only [Option.bind_eq_bind, Option.bind_some, orElse, Settings.readsBack.read_write,
    readRules?_map]

end Config

end Frontmatter
