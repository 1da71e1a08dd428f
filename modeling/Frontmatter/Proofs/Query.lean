import Frontmatter.Proofs.Text.Lowercase
import Frontmatter.Suggestion
import Mathlib.Data.List.Basic

/-! # What a query finds

A query that ignores case is meant to find at least what it finds in the case it is written in. It
does so exactly if it is settled, that is if its own characters decide the lower case form of each
capital sigma in it: `ignoring_case_widens_iff_settled`. A query that is typed up to a sigma within
a word is not settled, and what it is about disappears once case is ignored. -/

namespace Frontmatter

variable {query : Text} {s : Suggestion} {r : Rule} {c : Context} {existing : List Text}

namespace Suggestion

/-- The texts that a query is looked for in: the key, and the description if there is one. -/
def texts (s : Suggestion) : List Text :=
  s.key :: s.description.toList

/-- Whether a query occurs in one of the texts when all are put into lower case and the final sigma
is not told apart from the other small sigma. -/
def isAboutUpToSigma (s : Suggestion) (query : Text) : Bool :=
  s.texts.any fun text =>
    Text.occursIn (Text.plain (Text.lowercase query)) (Text.plain (Text.lowercase text))

/-- A query that minds case is looked for as it is. -/
theorem isAbout_true_iff :
    s.isAbout query true = true ↔ ∃ text ∈ s.texts, Text.occursIn query text = true := by
  rw [isAbout, texts]
  cases s.description <;> simp

/-- A query that ignores case is looked for in lower case. -/
theorem isAbout_false_iff : s.isAbout query false = true
    ↔ ∃ text ∈ s.texts, Text.occursIn (Text.lowercase query) (Text.lowercase text) = true := by
  rw [isAbout, texts]
  cases s.description <;> simp

/-- A suggestion of a key alone. -/
def ofKey (key : Text) : Suggestion :=
  ⟨[], key, key, keyText key, none⟩

/-- A query is settled if it finds the keys it occurs in when case is ignored. -/
theorem isSettled_of_ofKey (h : ∀ key, (ofKey key).isAbout query true = true →
    (ofKey key).isAbout query false = true) : Text.IsSettled query := by
  refine Text.occursIn_lowercase_iff.mp fun key hkey => ?_
  obtain ⟨text, htext, hfound⟩ :=
    isAbout_false_iff.mp (h key (isAbout_true_iff.mpr ⟨key, List.mem_singleton_self key, hkey⟩))
  obtain rfl : text = key := List.mem_singleton.mp htext
  exact hfound

/-- A settled query finds everything it occurs in when case is ignored. -/
theorem isAbout_false_of_isSettled (hquery : Text.IsSettled query)
    (h : s.isAbout query true = true) : s.isAbout query false = true := by
  obtain ⟨text, htext, hoccurs⟩ := isAbout_true_iff.mp h
  exact isAbout_false_iff.mpr ⟨text, htext, Text.occursIn_lowercase_iff.mpr hquery text hoccurs⟩

end Suggestion

/-- The suggestions of a rule at a context, before there are too many of them. -/
def Rule.found (r : Rule) (c : Context) (existing : List Text) (caseSensitive : Bool) :
    List Suggestion :=
  if c.depth = r.depth ∧ Text.trim c.query ≠ [] then
    (r.suggestions existing).filter fun s => s.isAbout (Text.trim c.query) caseSensitive
  else r.suggestions existing

/-- What is suggested are the first of the suggestions that are found. -/
theorem Rule.suggestionsFor_eq_take (r : Rule) (c : Context) (existing : List Text)
    (settings : Settings) :
    r.suggestionsFor c existing settings
      = (r.found c existing settings.caseSensitive).take settings.maxSuggestions :=
  rfl

/-- A query finds more suggestions in a list if it is about more of them. -/
theorem Rule.found_sublist
    (h : ∀ s : Suggestion, s.isAbout (Text.trim c.query) true = true →
      s.isAbout (Text.trim c.query) false = true) :
    (r.found c existing true).Sublist (r.found c existing false) := by
  rw [found, found]
  split
  · exact List.monotone_filter_right _ h
  · exact List.Sublist.refl _

/-- A context of a field on which a query has been typed. -/
def Context.typed (query : Text) : Context :=
  { path := "a", line := 2, indent := 0, value := none, kind := .placeholder, keyLine := 1
    column := query.length, lineLength := query.length, query, queryStart := 0 }

/-- A rule for that field, which lists one key. -/
def Rule.listing (key : Text) : Rule :=
  { id := "r", enabled := true, field := "a", child := none, source := .inline
    candidates := [.plain key], value := none, display := .all, multiSelect := false }

/-- The key is found if the query is about it. -/
theorem Rule.found_listing (key : Text) (htrim : Text.trim query = query) (hne : query ≠ [])
    (caseSensitive : Bool) :
    ((Rule.listing key).found (.typed query) [] caseSensitive).map (·.key)
      = if (Suggestion.ofKey key).isAbout query caseSensitive then [key] else [] := by
  have hdepth : (Context.typed query).depth = (Rule.listing key).depth := rfl
  have hquery : Text.trim (Context.typed query).query = query := htrim
  rw [found, hquery, if_pos ⟨hdepth, hne⟩]
  -- Only the key and the description of a suggestion matter for a query.
  have habout : ((Rule.listing key).suggestion (.plain key)).isAbout query caseSensitive
      = (Suggestion.ofKey key).isAbout query caseSensitive := rfl
  change (List.filter _ [(Rule.listing key).suggestion (.plain key)]).map _ = _
  rw [List.filter_singleton, habout]
  cases (Suggestion.ofKey key).isAbout query caseSensitive <;> rfl

/-- **Ignoring case finds at least what minding it finds exactly if the query is settled**, be it in
one suggestion or in those of a rule. Up to the forms of small sigmas it does so for every query. -/
theorem ignoring_case_widens_iff_settled (query : Text) :
    ((∀ s : Suggestion, s.isAbout query true = true → s.isAbout query false = true)
        ↔ Text.IsSettled query)
      ∧ (Text.trim query = query →
        ((∀ (r : Rule) (c : Context) (existing : List Text), Text.trim c.query = query →
            (r.found c existing true).Sublist (r.found c existing false))
          ↔ Text.IsSettled query))
      ∧ ∀ s : Suggestion, s.isAbout query true = true → s.isAboutUpToSigma query = true := by
  refine ⟨⟨fun h => Suggestion.isSettled_of_ofKey fun key => h (.ofKey key),
    fun hsettled s => Suggestion.isAbout_false_of_isSettled hsettled⟩,
    fun htrim => ⟨fun h => ?_, ?_⟩, fun s hs => ?_⟩
  · by_cases hne : query = []
    · rw [hne]
      decide
    · -- The rule that lists a key finds it or not.
      refine Suggestion.isSettled_of_ofKey fun key hkey => ?_
      have hsub := (h (.listing key) (.typed query) [] htrim).map (·.key)
      rw [Rule.found_listing key htrim hne, Rule.found_listing key htrim hne, if_pos hkey] at hsub
      by_contra hnot
      rw [if_neg hnot] at hsub
      exact absurd hsub (by simp)
  · rintro hsettled r c existing rfl
    exact Rule.found_sublist fun s => Suggestion.isAbout_false_of_isSettled hsettled
  · obtain ⟨text, htext, hquery⟩ := Suggestion.isAbout_true_iff.mp hs
    exact List.any_eq_true.mpr ⟨text, htext, Text.occursIn_plain_lowercase hquery⟩

/-- The street, and what starts with A. -/
def settledQuery : Text :=
  "ΟΔΟΣ Α".toList

/-- The query holds a final sigma, which is settled by the letters around it. So it is found in a
longer key with other sigmas, minding case and ignoring it. -/
theorem ignoring_case_widens_iff_settled_of_settledQuery :
    Text.trim settledQuery = settledQuery ∧ Text.IsSettled settledQuery
      ∧ Text.lowercase settledQuery = "οδος α".toList
      ∧ (Suggestion.ofKey "Η ΟΔΟΣ ΑΘΗΝΑΣ".toList).isAbout settledQuery true = true
      ∧ (Suggestion.ofKey "Η ΟΔΟΣ ΑΘΗΝΑΣ".toList).isAbout settledQuery false = true
      ∧ ∀ (r : Rule) (existing : List Text),
          (r.found (.typed settledQuery) existing true).Sublist
            (r.found (.typed settledQuery) existing false) := by
  have htrim : Text.trim settledQuery = settledQuery := by decide
  have hsettled : Text.IsSettled settledQuery := by decide +kernel
  have hminding : (Suggestion.ofKey "Η ΟΔΟΣ ΑΘΗΝΑΣ".toList).isAbout settledQuery true = true := by
    decide
  obtain ⟨hitem, hlist, -⟩ := ignoring_case_widens_iff_settled settledQuery
  exact ⟨htrim, hsettled, by decide +kernel, hminding, hitem.mpr hsettled _ hminding,
    fun r existing => (hlist htrim).mpr hsettled r (.typed settledQuery) existing htrim⟩

/-- A document on which a query has been typed below a field. -/
def typedDocument : Text :=
  "---\na:\nΤΕΣ\n---".toList

/-- A configuration with one rule, which lists one key. -/
def Config.listing (key : Text) (caseSensitive : Bool) : Config :=
  { settings := { Settings.default with caseSensitive }, rules := [.listing key] }

/-- A key that starts with the query is offered while case matters and is not any more when it is
ignored: the sigma is at the end of the query, and within the key. -/
theorem ignoring_case_loses_key :
    (Suggestion.ofKey "ΤΕΣΤ".toList).isAbout "ΤΕΣ".toList true = true
      ∧ (Suggestion.ofKey "ΤΕΣΤ".toList).isAbout "ΤΕΣ".toList false = false
      ∧ (((Config.listing "ΤΕΣΤ".toList true).suggest? typedDocument 2 3).map fun o =>
          o.suggestions.map (·.key)) = some ["ΤΕΣΤ".toList]
      ∧ (((Config.listing "ΤΕΣΤ".toList false).suggest? typedDocument 2 3).map fun o =>
          o.suggestions.map (·.key)) = some [] := by
  decide +kernel

end Frontmatter
