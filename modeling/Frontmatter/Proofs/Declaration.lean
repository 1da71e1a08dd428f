import Frontmatter.Proofs.Config
import Frontmatter.Proofs.FieldLine
import Frontmatter.Proofs.Text.Padding
import Mathlib.Data.List.Forall2

/-! # Declarations and records

A candidate key is written as a declaration or as a record of its parts. `Candidate.Record` is what
a record states, and `Candidate.Declares` says which declarations state the same: a key and a type
with its parameters, or a key with a description and an icon, where any white space may stand around
each of them. `Candidate.declaration_denotes_record` says that the two denote the same candidate. -/

namespace Frontmatter

open Text (IsPadded)
open Readable (named)

namespace Text

/-- White space stays as it is in small letters. -/
theorem toLower_eq_of_isBlank {c : Char} (h : isBlank c = true) : c.toLower = c := by
  have hupper : ¬ (65 ≤ c.toNat ∧ c.toNat ≤ 90) := by
    simp [isBlank, inRanges, blankRanges] at h
    omega
  exact dif_neg hupper

/-- A text without a separator is not cut. -/
theorem cut_eq_none {sep : Char} {s : Text} (h : sep ∉ s) : cut sep s = none := by
  by_contra hne
  obtain ⟨⟨head, tail⟩, hcut⟩ := Option.ne_none_iff_exists'.mp hne
  obtain ⟨rfl, -⟩ := cut_eq_some hcut
  exact h (by simp)

/-- A join holds what is in its parts and in the separator. -/
theorem not_mem_join {sep : Text} {parts : List Text} {c : Char} (hsep : c ∉ sep)
    (hparts : ∀ part ∈ parts, c ∉ part) : c ∉ join sep parts := by
  induction parts with
  | nil => exact List.not_mem_nil
  | cons part parts ih =>
      obtain ⟨hpart, hparts⟩ := List.forall_mem_cons.mp hparts
      by_cases hnil : parts = []
      · rw [hnil]
        exact hpart
      · rw [join_cons_of_ne_nil _ _ hnil, List.mem_append, List.mem_append]
        rintro ((hmem | hmem) | hmem)
        · exact hpart hmem
        · exact hsep hmem
        · exact ih hparts hmem

end Text

namespace Candidate

/-- What a record states of a candidate. -/
structure Record where
  /-- The key. -/
  key : Text
  /-- What the key means. -/
  description : Option Text
  /-- A picture for the key. -/
  icon : Option Text
  /-- The name of a type. -/
  type : Option Text
  /-- The parameters of a number. -/
  units : Option (List Text)
  /-- The parameters of an enum. -/
  values : Option (List Text)

namespace Record

/-- The entries of a record; what it does not state has none. -/
def entries (r : Record) : List (Text × Value) :=
  named partNames [some (.text r.key), r.description.map .text, r.icon.map .text, r.type.map .text,
    r.units.map fun units => .list (units.map .text),
    r.values.map fun values => .list (values.map .text)]

/-- The candidate that a record denotes. The values are the parameters of an enum, and the units
those of any other type. -/
def candidate (r : Record) : Candidate :=
  { key := r.key, description := r.description, icon := r.icon
    type := r.type.bind fun name => CandidateType.ofName? name
      (if Text.asciiLower name = "enum".toList then r.values.getD [] else r.units.getD []) }

/-- A record states a key and a type with parameters. The parameters of a number are its units and
those of an enum its values; a missing list has no items. -/
structure HasType (r : Record) (name : Text) (params : List Text) : Prop where
  /-- No white space is around the key. -/
  trim_key : Text.trim r.key = r.key
  /-- The key holds no colon. -/
  colon_not_mem : ':' ∉ r.key
  /-- There is no description. -/
  description_eq : r.description = none
  /-- There is no icon. -/
  icon_eq : r.icon = none
  /-- The type is stated by its name. -/
  type_eq : r.type = some name
  /-- The name is that of a type, in small or capital letters. -/
  isName : Text.asciiLower name ∈ ["number".toList, "boolean".toList, "enum".toList]
  /-- The units of a number are the parameters. -/
  units_eq : Text.asciiLower name = "number".toList → r.units.getD [] = params
  /-- The values of an enum are the parameters. -/
  values_eq : Text.asciiLower name = "enum".toList → r.values.getD [] = params
  /-- The parameters are tight, not empty, and hold no comma. -/
  tidy : ∀ p ∈ params, Text.trim p = p ∧ p ≠ [] ∧ ',' ∉ p

/-- A text that can stand between the bars of a declaration. -/
structure IsBarPart (s : Text) : Prop where
  /-- No white space is around it. -/
  trim_eq : Text.trim s = s
  /-- It holds no colon. -/
  colon_not_mem : ':' ∉ s
  /-- It holds no bar. -/
  bar_not_mem : '|' ∉ s

/-- A record states a key, a description and an icon, of which the last two may be missing. -/
structure IsUntyped (r : Record) : Prop where
  /-- The key can stand between bars. -/
  key : IsBarPart r.key
  /-- A description can, and is not empty. -/
  description : ∀ s, r.description = some s → s ≠ [] ∧ IsBarPart s
  /-- An icon can, and is not empty. -/
  icon : ∀ s, r.icon = some s → s ≠ [] ∧ IsBarPart s
  /-- There is no type. -/
  type_eq : r.type = none

/-- The texts between the bars of a declaration. A missing description in front of an icon leaves
its place empty. -/
def bars (r : Record) : List Text :=
  match r.description, r.icon with
  | none, none => [r.key]
  | some description, none => [r.key, description]
  | description, some icon => [r.key, description.getD [], icon]

end Record

/-- A declaration states what a record states. White space may stand around the parts. -/
inductive Declares : Text → Record → Prop where
  /-- A key and a type without parameters, with a colon between them. -/
  | typed {r : Record} {name k n : Text} :
      r.HasType name [] → IsPadded k r.key → IsPadded n name → Declares (k ++ ':' :: n) r
  /-- A key and a type, and behind a bar its parameters with commas between them. -/
  | typedWithParameters {r : Record} {name k n list : Text} {params ps : List Text} :
      r.HasType name params → IsPadded k r.key → IsPadded n name →
        List.Forall₂ IsPadded ps params → IsPadded list (Text.join [','] ps) →
          Declares (k ++ ':' :: (n ++ '|' :: list)) r
  /-- A key, a description and an icon with bars between them. -/
  | untyped {r : Record} {ps : List Text} :
      r.IsUntyped → List.Forall₂ IsPadded ps r.bars → Declares (Text.join ['|'] ps) r

variable {r : Record} {name k n list : Text} {params ps : List Text}

/-! ## Padded parts -/

/-- Padded texts are trimmed to tight ones. -/
theorem map_trim_eq {tight : List Text} (h : List.Forall₂ IsPadded ps tight)
    (htight : ∀ p ∈ tight, Text.trim p = p) : ps.map Text.trim = tight := by
  induction h with
  | nil => rfl
  | cons hp _ ih =>
      obtain ⟨hfirst, hrest⟩ := List.forall_mem_cons.mp htight
      rw [List.map_cons, hp.trim_eq, hfirst, ih hrest]

/-- Padded texts hold no character that the texts do not hold, unless it is white space. -/
theorem not_mem_of_padded {c : Char} {tight : List Text} (h : List.Forall₂ IsPadded ps tight)
    (hc : Text.isBlank c = false) (hnone : ∀ p ∈ tight, c ∉ p) : ∀ p ∈ ps, c ∉ p := by
  induction h with
  | nil => exact hnone
  | cons hp _ ih =>
      obtain ⟨hfirst, hrest⟩ := List.forall_mem_cons.mp hnone
      exact List.forall_mem_cons.mpr ⟨fun hmem => hfirst (hp.mem hc hmem), ih hrest⟩

/-! ## Types -/

/-- Parameters are read back from between commas. -/
theorem parameters_trimEnd (h : List.Forall₂ IsPadded ps params)
    (hlist : IsPadded list (Text.join [','] ps))
    (htidy : ∀ p ∈ params, Text.trim p = p ∧ p ≠ [] ∧ ',' ∉ p) :
    parameters (Text.trimEnd list) = params := by
  have hkept : params.filter (· ≠ []) = params :=
    List.filter_eq_self.mpr fun p hp => decide_eq_true (htidy p hp).2.1
  rw [parameters, ← (Text.isPadded_trimEnd list).map_trim_splitOn (by decide),
    hlist.map_trim_splitOn (by decide)]
  cases h with
  | nil => rfl
  | cons hp hps =>
      have hcomma := not_mem_of_padded (.cons hp hps) (by decide) fun p hp => (htidy p hp).2.2
      rw [Text.splitOn_join (List.cons_ne_nil _ _) hcomma,
        map_trim_eq (.cons hp hps) fun p hp => (htidy p hp).1, hkept]

namespace Record.HasType

/-- A character that is the same in small letters is in the name of a type only if it is in one of
the words. -/
theorem exists_mem_of_mem {c : Char} (h : r.HasType name params) (hc : c ∈ name)
    (hlower : c.toLower = c) :
    ∃ word ∈ ["number".toList, "boolean".toList, "enum".toList], c ∈ word :=
  ⟨_, h.isName, List.mem_map.mpr ⟨c, hc, hlower⟩⟩

/-- The name of a type holds no bar, since none of the words does. -/
theorem bar_not_mem (h : r.HasType name params) : '|' ∉ name := by
  intro hmem
  obtain ⟨word, hword, hbar⟩ := h.exists_mem_of_mem hmem (by decide)
  have hnone : ∀ word ∈ ["number".toList, "boolean".toList, "enum".toList], '|' ∉ word := by decide
  exact hnone word hword hbar

/-- The name of a type is tight. -/
theorem trim_name (h : r.HasType name params) : Text.trim name = name := by
  have hblank : ∀ c ∈ name, Text.isBlank c = false := by
    intro c hc
    by_contra hblank
    rw [Bool.not_eq_false] at hblank
    -- White space in the name would stand in its small letters as well, and no word has any.
    obtain ⟨word, hword, hmem⟩ := h.exists_mem_of_mem hc (Text.toLower_eq_of_isBlank hblank)
    have hnone : ∀ word ∈ ["number".toList, "boolean".toList, "enum".toList],
        word.any Text.isBlank = false := by
      decide
    exact absurd hblank (List.any_eq_false.mp (hnone word hword) c hmem)
  exact Text.trim_eq_self_iff.mpr
    ⟨Text.trimStart_eq_self_iff.mpr fun c hc => hblank c (List.mem_of_head? hc),
      Text.trimEnd_eq_self_iff.mpr fun c hc => hblank c (List.mem_of_getLast? hc)⟩

/-- The parameters that a record states are those of its type. -/
theorem ofName?_eq (h : r.HasType name params) :
    CandidateType.ofName? name
        (if Text.asciiLower name = "enum".toList then r.values.getD [] else r.units.getD [])
      = CandidateType.ofName? name params := by
  have hname := h.isName
  simp only [List.mem_cons, List.not_mem_nil, or_false] at hname
  rcases hname with hname | hname | hname
  · rw [if_neg (by rw [hname]; decide), h.units_eq hname]
  · rw [CandidateType.ofName?, CandidateType.ofName?, hname]
    rfl
  · rw [if_pos hname, h.values_eq hname]

end Record.HasType

/-- A type without parameters is stated by its name. -/
theorem statedType?_name (h : r.HasType name []) (hn : IsPadded n name) :
    statedType? (Text.trimEnd n) = CandidateType.ofName? name [] := by
  have hbar : '|' ∉ Text.trimEnd n := fun hmem =>
    h.bar_not_mem (hn.mem (by decide) ((Text.isPadded_trimEnd n).subset hmem))
  rw [statedType?, Text.cut_eq_none hbar]
  dsimp only
  rw [← (Text.isPadded_trimEnd n).trim_eq, hn.trim_eq, h.trim_name]

/-- A type with parameters is stated by its name and by what stands behind the bar. -/
theorem statedType?_parameters (h : r.HasType name params) (hn : IsPadded n name)
    (hps : List.Forall₂ IsPadded ps params) (hlist : IsPadded list (Text.join [','] ps)) :
    statedType? (Text.trimEnd (n ++ '|' :: list)) = CandidateType.ofName? name params := by
  have hbar : '|' ∉ n := fun hmem => h.bar_not_mem (hn.mem (by decide) hmem)
  rw [Text.trimEnd_append_cons (by decide), statedType?, Text.cut_append hbar]
  dsimp only
  rw [hn.trim_eq, h.trim_name, parameters_trimEnd hps hlist h.tidy]

/-- What stands before and behind the first colon of a declaration is the key and the type. -/
theorem parse_append_cons (hk : IsPadded k r.key) (htrim : Text.trim r.key = r.key)
    (hcolon : ':' ∉ r.key) (rest : Text) :
    parse (k ++ ':' :: rest)
      = { plain r.key with type := statedType? (Text.trimEnd rest) } := by
  -- The colon behind the key is the first one, since the key has none and white space is no colon.
  have hnone : ':' ∉ Text.trimStart k := fun hmem =>
    hcolon (hk.mem (by decide) ((List.dropWhile_sublist _).subset hmem))
  have hstart : Text.trim (Text.trimStart k) = Text.trim k := by
    rw [Text.trim, Text.trim]
    exact congrArg Text.trimEnd (List.dropWhile_idempotent _ _)
  rw [parse, Text.trim_append_cons (by decide), Text.cut_append hnone]
  dsimp only
  rw [hstart, hk.trim_eq, htrim]

/-! ## Descriptions and icons -/

/-- All texts between the bars of a declaration can stand there. -/
theorem Record.IsUntyped.isBarPart (h : r.IsUntyped) : ∀ s ∈ r.bars, IsBarPart s := by
  have hempty : IsBarPart [] := ⟨rfl, List.not_mem_nil, List.not_mem_nil⟩
  have hdescription : ∀ s ∈ r.description, IsBarPart s := fun s hs => (h.description s hs).2
  have hicon : ∀ s ∈ r.icon, IsBarPart s := fun s hs => (h.icon s hs).2
  rw [bars]
  -- The description and the icon may each be missing, which leaves an empty text at most.
  cases hd : r.description <;> cases hi : r.icon <;> simp_all [h.key]

/-- The key, the description and the icon are read from between the bars. -/
theorem ofBars_eq (h : r.IsUntyped) {s : Text}
    (hs : (Text.splitOn '|' s).map Text.trim = r.bars) :
    ofBars s = ⟨r.key, r.description, r.icon, none⟩ := by
  have hdescription : ∀ s, r.description = some s → nonEmpty? s = some s := fun s hs =>
    if_neg (h.description s hs).1
  have hicon : ∀ s, r.icon = some s → nonEmpty? s = some s := fun s hs => if_neg (h.icon s hs).1
  -- What is empty between bars is missing, and so is what is behind the last one.
  rw [ofBars, hs, Record.bars]
  cases hd : r.description <;> cases hi : r.icon <;> simp_all [nonEmpty?]

/-- A declaration with bars and without a colon states a key, a description and an icon. -/
theorem parse_join (h : r.IsUntyped) (hps : List.Forall₂ IsPadded ps r.bars) :
    parse (Text.join ['|'] ps) = ⟨r.key, r.description, r.icon, none⟩ := by
  have hparts := h.isBarPart
  have hbars : ∀ p ∈ ps, '|' ∉ p :=
    not_mem_of_padded hps (by decide) fun s hs => (hparts s hs).bar_not_mem
  have hcolon : ':' ∉ Text.join ['|'] ps :=
    Text.not_mem_join (by decide)
      (not_mem_of_padded hps (by decide) fun s hs => (hparts s hs).colon_not_mem)
  have hcut : Text.cut ':' (Text.trim (Text.join ['|'] ps)) = none :=
    Text.cut_eq_none fun hmem => hcolon ((Text.isPadded_trim _).subset hmem)
  have hne : ps ≠ [] := by
    rintro rfl
    have hnil : r.bars = [] := List.forall₂_nil_left_iff.mp hps
    rw [Record.bars] at hnil
    split at hnil <;> exact absurd hnil (List.cons_ne_nil _ _)
  rw [parse, hcut]
  refine ofBars_eq h ?_
  rw [← (Text.isPadded_trim _).map_trim_splitOn (by decide), Text.splitOn_join hne hbars]
  exact map_trim_eq hps fun s hs => (hparts s hs).trim_eq

/-! ## The candidate -/

/-- A declaration denotes the candidate of the record. -/
theorem Declares.parse_eq {declaration : Text} (h : Declares declaration r) :
    parse declaration = r.candidate := by
  rw [Record.candidate]
  cases h with
  | typed h hk hn =>
      rw [parse_append_cons hk h.trim_key h.colon_not_mem, statedType?_name h hn, h.type_eq,
        h.description_eq, h.icon_eq, Option.bind_some, h.ofName?_eq]
      rfl
  | typedWithParameters h hk hn hps hlist =>
      rw [parse_append_cons hk h.trim_key h.colon_not_mem, statedType?_parameters h hn hps hlist,
        h.type_eq, h.description_eq, h.icon_eq, Option.bind_some, h.ofName?_eq]
      rfl
  | untyped h hps =>
      rw [parse_join h hps, h.type_eq]
      rfl

/-- **A declaration denotes what a record with the same parts does.** A key and a type with its
parameters are read from a declaration as they are from the entries of a record, and so are a key, a
description and an icon: both give the record's candidate. It does not matter how much white space
stands around the parts of the declaration, in which order the entries of the record stand, or
whether the name of the type is in small or capital letters. -/
theorem declaration_denotes_record {δ : Type} [Readable δ] {d : δ} {declaration : Text}
    {entries : List (Text × Value)} (h : Declares declaration r) (hentries : entries.Perm r.entries)
    (hd : Readable.content? d = some (.object entries)) :
    read? d = some (parse declaration) ∧ parse declaration = r.candidate := by
  refine ⟨?_, h.parse_eq⟩
  rw [read?, hd, h.parse_eq]
  exact ofParts?_eq hentries

/-- A key whose values are numbers with one of two units. -/
def hikingRecord : Record :=
  { key := "hiking", description := none, icon := none, type := some "Number"
    units := some ["km", "mi"], values := none }

/-- A key with an icon and without a description. -/
def yogaRecord : Record :=
  { key := "yoga", description := none, icon := some "🧘", type := none, units := none
    values := none }

/-- Each record may stand in place of a declaration. -/
theorem declaration_denotes_record_of_hikingRecord_and_yogaRecord :
    Declares " hiking :Number | km,\tmi " hikingRecord ∧ Declares "yoga||🧘" yogaRecord
      ∧ read? (Value.object [("units", .list [.text "km", .text "mi"]), ("type", .text "Number"),
            ("key", .text "hiking")])
        = some (parse " hiking :Number | km,\tmi ")
      ∧ parse " hiking :Number | km,\tmi "
        = ⟨"hiking", none, none, some (.number ["km", "mi"])⟩
      ∧ read? (Value.object [("key", .text "yoga"), ("icon", .text "🧘")]) = some (parse "yoga||🧘")
      ∧ parse "yoga||🧘" = ⟨"yoga", none, some "🧘", none⟩ := by
  have hpadded : ∀ {padded s : Text}, Text.trim padded = s → IsPadded padded s := by
    rintro padded s rfl
    exact Text.isPadded_trim padded
  have htype : hikingRecord.HasType "Number" ["km", "mi"] :=
    ⟨by decide, by decide, rfl, rfl, rfl, by decide, fun _ => rfl,
      fun henum => absurd henum (by decide), by decide⟩
  have huntyped : yogaRecord.IsUntyped := by
    refine ⟨⟨by decide, by decide, by decide⟩, fun s hs => ?_, fun s hs => ?_, rfl⟩
    · exact absurd hs (by simp [yogaRecord])
    · obtain rfl : "🧘".toList = s := Option.some.inj hs
      exact ⟨by decide, by decide, by decide, by decide⟩
  have hhiking : Declares " hiking :Number | km,\tmi " hikingRecord :=
    @Declares.typedWithParameters hikingRecord "Number" " hiking " "Number " " km,\tmi "
      ["km", "mi"] ["km", "\tmi"] htype (hpadded (by decide)) (hpadded (by decide))
      (.cons (hpadded (by decide)) (.cons (hpadded (by decide)) .nil)) (hpadded (by decide))
  have hyoga : Declares "yoga||🧘" yogaRecord :=
    @Declares.untyped yogaRecord ["yoga", "", "🧘"] huntyped
      (.cons (hpadded (by decide)) (.cons (hpadded (by decide)) (.cons (hpadded (by decide)) .nil)))
  obtain ⟨hread, hparse⟩ := declaration_denotes_record (d := Value.object _) hhiking
    (List.reverse_perm hikingRecord.entries) rfl
  obtain ⟨hread', hparse'⟩ := declaration_denotes_record (d := Value.object _) hyoga (.refl _) rfl
  exact ⟨hhiking, hyoga, hread, hparse.trans rfl, hread', hparse'.trans rfl⟩

end Candidate

end Frontmatter
