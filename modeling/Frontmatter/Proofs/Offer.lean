import Frontmatter.Proofs.Governance
import Frontmatter.Proofs.Suggestion

/-! # When something is offered, and what

An offer is made where a rule is as deep as the path of a context. A path is deeper than all that it
extends, unless it ends in a dot, so that the rule has to declare the path:
`offeringRule?_eq_some_iff`. What it offers is filtered by the query then, and
`offers_where_path_is_declared` says which candidates are left. -/

namespace Frontmatter

variable {config : Config} {source : Text} {line column : Nat} {b : Block} {c : Context} {r : Rule}

/-- The query of a context is tight. -/
theorem Block.trim_query_of_resolve? (hc : b.resolve? line column = some c) :
    Text.trim c.query = c.query := by
  obtain ⟨text, hres⟩ := resolution_of_resolve? hc
  rw [hres.query_eq, Text.trim_trim]

/-- A rule that lists its candidates and declares the path of a context suggests those with new keys
that the query is about, as many as are allowed. -/
theorem Rule.suggestionsFor_eq_of_declaredPath_eq {existing : List Text} {settings : Settings}
    (hpath : r.declaredPath = c.path) (hquery : Text.trim c.query = c.query)
    (hsource : r.source = .inline) :
    r.suggestionsFor c existing settings
      = ((r.candidates.filter fun x => x.key ∉ existing
            ∧ (c.query ≠ [] → (r.suggestion x).isAbout c.query settings.caseSensitive)).take
          settings.maxSuggestions).map r.suggestion := by
  have hdepth : c.depth = r.depth := by rw [Context.depth, Rule.depth, hpath]
  rw [suggestionsFor, suggestions, hsource, hquery]
  simp only [hdepth, true_and, listedSuggestions, List.filter_map, List.filter_filter,
    List.map_take]
  by_cases hne : c.query = []
  · simp [hne]
  · rw [if_pos hne]
    congr 2
    refine List.filter_congr fun x _ => ?_
    simp [hne, Bool.and_comm]

namespace Config

/-- At a context whose path does not end in a dot, the first rule that declares the path makes
offers if it is enabled and the query is long enough, and no other rule does. -/
theorem offeringRule?_eq_some_iff (hlast : c.path.getLast? ≠ some '.') :
    config.offeringRule? c = some r
      ↔ Rule.DeclaresFirst config.rules c.path r ∧ r.enabled = true
        ∧ config.settings.minQueryLength ≤ c.query.length := by
  rw [offeringRule?, Option.filter_eq_some_iff, Rule.enabled?, Option.filter_eq_some_iff,
    Bool.and_eq_true, beq_iff_eq, decide_eq_true_eq]
  constructor
  · rintro ⟨⟨hgoverning, henabled⟩, hdepth, hlength⟩
    exact ⟨Rule.declaresFirst_of_depth_eq hgoverning hdepth hlast, henabled, hlength⟩
  · rintro ⟨hfirst, henabled, hlength⟩
    refine ⟨⟨hfirst.governing?_eq, henabled⟩, ?_, hlength⟩
    obtain ⟨-, -, -, hpath, -⟩ := hfirst
    rw [Context.depth, Rule.depth, hpath]

/-- **Something is offered at a context exactly if the first rule that declares its path is enabled
and the query is long enough.** This is said of contexts whose path does not end in a dot; where no
rule declares the path, nothing is offered, whatever rules it extends. What is offered comes from
that rule. Where the rule lists its candidates, they are offered in its order, those with keys that
do not exist yet and that the query is about, as many as are allowed. -/
theorem offers_where_path_is_declared (hb : config.block? source = some b)
    (hc : b.resolve? line column = some c) (hlast : c.path.getLast? ≠ some '.') :
    ((config.suggest? source line column).isSome = true
        ↔ ∃ r, Rule.DeclaresFirst config.rules c.path r ∧ r.enabled = true
          ∧ config.settings.minQueryLength ≤ c.query.length)
      ∧ ((∀ r ∈ config.rules, r.declaredPath ≠ c.path) →
          config.suggest? source line column = none)
      ∧ ∀ r offer, Rule.DeclaresFirst config.rules c.path r →
          config.suggest? source line column = some offer →
            offer.context = c ∧ offer.ruleId = r.id
              ∧ (r.source = .inline →
                offer.suggestions
                  = ((r.candidates.filter fun x => x.key ∉ b.existingKeys c
                      ∧ (c.query ≠ [] →
                        (r.suggestion x).isAbout c.query config.settings.caseSensitive)).take
                    config.settings.maxSuggestions).map r.suggestion) := by
  have hsuggest := suggest?_eq_map hb hc
  refine ⟨?_, ?_, ?_⟩
  · rw [hsuggest, Option.isSome_map, Option.isSome_iff_exists]
    exact exists_congr fun r => offeringRule?_eq_some_iff hlast
  · intro hnone
    rw [hsuggest, Option.map_eq_none_iff, Option.eq_none_iff_forall_not_mem]
    intro r hr
    obtain ⟨⟨before, after, hrules, hpath, -⟩, -⟩ := (offeringRule?_eq_some_iff hlast).mp hr
    exact hnone r (hrules ▸ List.mem_append_right before List.mem_cons_self) hpath
  · intro r offer hfirst hoffer
    rw [hsuggest, Option.map_eq_some_iff] at hoffer
    obtain ⟨r', hr', rfl⟩ := hoffer
    -- There is one first rule that declares the path.
    obtain ⟨hfirst', -⟩ := (offeringRule?_eq_some_iff hlast).mp hr'
    obtain rfl := Option.some.inj (hfirst.governing?_eq.symm.trans hfirst'.governing?_eq)
    refine ⟨rfl, rfl, fun hsource => ?_⟩
    obtain ⟨-, -, -, hpath, -⟩ := hfirst
    exact r.suggestionsFor_eq_of_declaredPath_eq hpath (Block.trim_query_of_resolve? hc) hsource

/-- A configuration with a rule for a field and, behind it, one for a child of it. -/
def offeringBelowChild : Config :=
  { settings := .default
    rules :=
      [{ id := "field", enabled := true, field := "a", child := none, source := .inline
         candidates := [.plain "k".toList], value := none, display := .all, multiSelect := false },
       { id := "child", enabled := true, field := "a", child := some "b".toList
         source := .inline
         candidates :=
           [.plain "x".toList, .plain "z".toList, .plain "xy".toList,
            { Candidate.plain "y".toList with description := some "like x".toList }]
         value := none, display := .all, multiSelect := false }] }

/-- A document with a half typed key below the child, which has one of the keys already. -/
def halfTypedChildDocument : Text :=
  "---\na:\n  b:\n    x: 1\n  x\n---".toList

/-- The rule for the child makes the offer, although the path extends what the first rule declares.
It leaves out a key that is there and one that the query is not about. -/
theorem offers_where_path_is_declared_in_halfTypedChildDocument :
    ∃ b c r offer, offeringBelowChild.block? halfTypedChildDocument = some b
      ∧ b.resolve? 4 3 = some c ∧ c.path.getLast? ≠ some '.' ∧ c.query = "x".toList
      ∧ Rule.DeclaresFirst offeringBelowChild.rules c.path r
      ∧ offeringBelowChild.suggest? halfTypedChildDocument 4 3 = some offer
      ∧ offer.ruleId = "child".toList
      ∧ offer.suggestions.map (·.key) = ["xy".toList, "y".toList] := by
  obtain ⟨b, hb⟩ : ∃ b, offeringBelowChild.block? halfTypedChildDocument = some b := ⟨_, rfl⟩
  obtain ⟨c, hc, hpath, hquery, hkeys⟩ : ∃ c, b.resolve? 4 3 = some c ∧ c.path = "a.b".toList
      ∧ c.query = "x".toList ∧ b.existingKeys c = ["x".toList] := by
    obtain rfl := Option.some.inj hb
    exact ⟨_, rfl, by decide, by decide, by decide⟩
  have hlast : c.path.getLast? ≠ some '.' := by
    rw [hpath]
    decide
  have hfirst : Rule.DeclaresFirst offeringBelowChild.rules c.path offeringBelowChild.rules[1] := by
    rw [hpath]
    exact ⟨[offeringBelowChild.rules[0]], [], rfl, by decide, by decide⟩
  obtain ⟨hsome, -, hoffered⟩ := offers_where_path_is_declared hb hc hlast
  obtain ⟨offer, hoffer⟩ := Option.isSome_iff_exists.mp
    (hsome.mpr ⟨_, hfirst, by decide, Nat.zero_le _⟩)
  obtain ⟨-, hid, hlisted⟩ := hoffered _ offer hfirst hoffer
  refine ⟨b, c, _, offer, hb, hc, hlast, hquery, hfirst, hoffer, hid, ?_⟩
  rw [hlisted rfl, hkeys, hquery]
  decide

end Config

end Frontmatter
