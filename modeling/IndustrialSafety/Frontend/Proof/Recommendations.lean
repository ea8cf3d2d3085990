import IndustrialSafety.Frontend.Recommendations
import IndustrialSafety.Lib.FirstOccurrence

/-!
# The two recommendation tables

`Frontend.deriveRecommendations_mirror`: the client and the server derive the same recommendations, as
long as no rule is the name of a property that every JavaScript object has.
-/

namespace KnowledgeGraph

open FirstOccurrence

/-- The ids seen are those of the templates. -/
theorem foldl_addRecommendation (templates : List RecommendationTemplate) (rules : List String) :
    rules.foldl addRecommendation (templates, (templates.map RecommendationTemplate.id).toFinset) =
      let all := rules.foldl (addFound ruleRecommendation RecommendationTemplate.id) templates
      (all, (all.map RecommendationTemplate.id).toFinset) := by
  induction rules generalizing templates with
  | nil => rfl
  | cons rule rules ih =>
    rw [List.foldl_cons, List.foldl_cons, ← ih]
    congr 1
    unfold addRecommendation addFound addNew
    cases ruleRecommendation rule with
    | none => rfl
    | some template =>
      dsimp only [Option.elim_some]
      by_cases hmem : template.id ∈ templates.map RecommendationTemplate.id
      · rw [if_pos (List.mem_toFinset.2 hmem), if_pos hmem]
      · rw [if_neg (mt List.mem_toFinset.1 hmem), if_neg hmem, List.map_append, List.toFinset_append,
          Finset.union_comm]
        rfl

theorem recommendationTemplatesFor_eq_foldl (tier : Tier) (rules : List String) :
    recommendationTemplatesFor tier rules =
      rules.foldl (addFound ruleRecommendation RecommendationTemplate.id) (tierBaseline tier).toList :=
  congrArg Prod.fst (foldl_addRecommendation _ rules)

theorem ruleRecommendation_id {rule : String} {template : RecommendationTemplate}
    (h : ruleRecommendation rule = some template) : template.id = rule := by
  simpa using List.find?_some h

theorem tierBaseline_id {tier : Tier} : ∀ template ∈ (tierBaseline tier).toList,
    ruleRecommendation template.id = none := by
  cases tier <;> decide

/-- The baseline of the tier, then the recognised rules where they first occur. -/
theorem recommendationTemplatesFor_eq (tier : Tier) (rules : List String) :
    recommendationTemplatesFor tier rules =
      (tierBaseline tier).toList ++ rules.eraseDups.filterMap ruleRecommendation := by
  rw [recommendationTemplatesFor_eq_foldl]
  exact foldl_addFound (fun _ _ => ruleRecommendation_id) tierBaseline_id rules

theorem recommendationTemplatesFor_nodup (tier : Tier) (rules : List String) :
    ((recommendationTemplatesFor tier rules).map RecommendationTemplate.id).Nodup := by
  rw [recommendationTemplatesFor_eq_foldl]
  refine foldl_addFound_nodup ?_ rules
  cases tier <;> decide

end KnowledgeGraph

namespace Frontend

open FirstOccurrence
open KnowledgeGraph (RecommendationTemplate ruleRecommendation recommendationTemplatesFor Severity)

/-- The template as the client has it. -/
def Entry.ofTemplate (template : RecommendationTemplate) : Entry :=
  .recommendation ⟨template.id, template.text, template.severity⟩

theorem ruleRecommendations_eq : ruleRecommendations = KnowledgeGraph.ruleRecommendations.map
    fun template => (template.id, ⟨template.id, template.text, template.severity⟩) := rfl

theorem tierBaseline_eq (tier : Tier) : (tierBaseline tier).map Entry.recommendation =
    (KnowledgeGraph.tierBaseline tier).map Entry.ofTemplate := by
  cases tier <;> rfl

/-- A name in the table is looked up as on the server. -/
theorem lookup_ruleRecommendations (rule : String) :
    (ruleRecommendations.lookup rule).map Entry.recommendation =
      (ruleRecommendation rule).map Entry.ofTemplate := by
  rw [ruleRecommendations_eq, ruleRecommendation]
  induction KnowledgeGraph.ruleRecommendations with
  | nil => rfl
  | cons template templates ih =>
    rw [List.map_cons, List.lookup_cons, List.find?_cons]
    by_cases h : template.id = rule
    · rw [beq_iff_eq.2 h.symm, decide_eq_true h]
      rfl
    · rw [beq_eq_false_iff_ne.2 (Ne.symm h), decide_eq_false h]
      exact ih

theorem lookupRule_of_not_mem {rule : String} (h : rule ∉ objectPrototype) :
    lookupRule rule = (ruleRecommendation rule).map Entry.ofTemplate := by
  rw [← lookup_ruleRecommendations, lookupRule, property, if_neg h]
  cases ruleRecommendations.lookup rule <;> rfl

/-- The names of `Object.prototype` are no rules. -/
theorem lookupRule_of_mem : ∀ rule ∈ objectPrototype, lookupRule rule = some .inherited := by
  decide

/-- Rule by rule the client pushes what the server adds. -/
theorem pushRule_ofTemplate {templates : List RecommendationTemplate} {rule : String}
    (h : rule ∉ objectPrototype) : pushRule (templates.map Entry.ofTemplate) rule =
      (addFound ruleRecommendation RecommendationTemplate.id templates rule).map Entry.ofTemplate := by
  rw [pushRule, lookupRule_of_not_mem h, addFound]
  cases ruleRecommendation rule with
  | none => rfl
  | some template =>
    have hany : ((templates.map Entry.ofTemplate).any (·.id = (Entry.ofTemplate template).id)) =
        true ↔ template.id ∈ templates.map RecommendationTemplate.id := by
      simp [Entry.ofTemplate, Entry.id]
    rw [Option.elim_some, addNew]
    dsimp only [Option.map_some]
    by_cases hmem : template.id ∈ templates.map RecommendationTemplate.id
    · rw [if_pos (hany.2 hmem), if_pos hmem]
    · rw [if_neg (mt hany.1 hmem), if_neg hmem, List.map_append]
      rfl

theorem mem_pushRule {recommendations : List Entry} {entry : Entry} (h : entry ∈ recommendations)
    (rule : String) : entry ∈ pushRule recommendations rule := by
  unfold pushRule
  split
  · exact h
  · split
    · exact h
    · exact List.mem_append_left _ h

theorem mem_foldl_pushRule {rules : List String} {recommendations : List Entry} {entry : Entry}
    (h : entry ∈ recommendations) : entry ∈ rules.foldl pushRule recommendations := by
  induction rules generalizing recommendations with
  | nil => exact h
  | cons rule rules ih => exact ih (mem_pushRule h rule)

/-- A name of `Object.prototype` leaves an entry without fields, pushed now or before. -/
theorem inherited_mem_pushRule {recommendations : List Entry} {rule : String}
    (h : rule ∈ objectPrototype) : .inherited ∈ pushRule recommendations rule := by
  rw [pushRule, lookupRule_of_mem rule h]
  dsimp only
  split
  case isTrue hany =>
    obtain ⟨entry, hentry, hid⟩ := List.any_eq_true.1 hany
    cases entry with
    | recommendation r => simp [Entry.id] at hid
    | inherited => exact hentry
  case isFalse => simp

theorem foldl_pushRule {rules : List String} {templates : List RecommendationTemplate}
    (h : ∀ rule ∈ rules, rule ∉ objectPrototype) :
    rules.foldl pushRule (templates.map Entry.ofTemplate) =
      (rules.foldl (addFound ruleRecommendation RecommendationTemplate.id) templates).map
        Entry.ofTemplate := by
  induction rules generalizing templates with
  | nil => rfl
  | cons rule rules ih =>
    obtain ⟨hrule, hrules⟩ := List.forall_mem_cons.1 h
    rw [List.foldl_cons, List.foldl_cons, pushRule_ofTemplate hrule, ih hrules]

theorem inherited_mem_foldl {rules : List String} {recommendations : List Entry} {rule : String}
    (hmem : rule ∈ rules) (h : rule ∈ objectPrototype) :
    .inherited ∈ rules.foldl pushRule recommendations := by
  obtain ⟨before, after, rfl⟩ := List.append_of_mem hmem
  rw [List.foldl_append, List.foldl_cons]
  exact mem_foldl_pushRule (inherited_mem_pushRule h)

/-- What a reader sees of an entry; `none` is three times `undefined`. -/
def Entry.shown : Entry → Option (String × Severity × String)
  | .recommendation r => some (r.id, r.severity, r.text)
  | .inherited => none

/-- **The mirror of the recommendations**: client and server return the same ids, severities and texts,
none of them twice, the baseline of the tier before the recognised rules in the order of their first
occurrence, iff no rule is the name of a property of `Object.prototype`. -/
theorem deriveRecommendations_mirror (tier : Tier) (rules : List String) :
    ((deriveRecommendations tier (some rules)).map Entry.shown =
        (recommendationTemplatesFor tier rules).map (fun t => some (t.id, t.severity, t.text)) ∧
      ((deriveRecommendations tier (some rules)).map Entry.id).Nodup ∧
      recommendationTemplatesFor tier rules = (KnowledgeGraph.tierBaseline tier).toList ++
        rules.eraseDups.filterMap ruleRecommendation) ↔
      ∀ rule ∈ rules, rule ∉ objectPrototype := by
  constructor
  · rintro ⟨hshown, -⟩ rule hrule hproto
    have hmem : Entry.inherited ∈ deriveRecommendations tier (some rules) :=
      inherited_mem_foldl hrule hproto
    have hnone := List.mem_map_of_mem (f := Entry.shown) hmem
    rw [hshown] at hnone
    obtain ⟨t, -, ht⟩ := List.mem_map.1 hnone
    cases ht
  · intro h
    have hderive : deriveRecommendations tier (some rules) =
        (recommendationTemplatesFor tier rules).map Entry.ofTemplate := by
      rw [KnowledgeGraph.recommendationTemplatesFor_eq_foldl, ← foldl_pushRule h,
        ← Option.toList_map, ← tierBaseline_eq]
      rfl
    rw [hderive, List.map_map, List.map_map]
    refine ⟨rfl, ?_, KnowledgeGraph.recommendationTemplatesFor_eq tier rules⟩
    have hnodup := KnowledgeGraph.recommendationTemplatesFor_nodup tier rules
    exact (List.nodup_map_iff (Option.some_injective _)).2 hnodup |> fun h => by
      rwa [List.map_map] at h

/-- A rule called `constructor` is pushed by the client. -/
theorem deriveRecommendations_constructor :
    ¬∀ (tier : Tier) (rules : List String), (deriveRecommendations tier (some rules)).map Entry.shown =
      (recommendationTemplatesFor tier rules).map (fun t => some (t.id, t.severity, t.text)) := by
  intro h
  exact absurd (h .normal ["constructor"]) (by decide)

end Frontend
