import IndustrialSafety.Frontend.Proof.GraphLayout
import IndustrialSafety.KnowledgeGraph.Proof.Chain
import IndustrialSafety.KnowledgeGraph.Proof.Edges
import IndustrialSafety.KnowledgeGraph.Proof.Opening
import IndustrialSafety.KnowledgeGraph.Proof.Reversal
import IndustrialSafety.KnowledgeGraph.Proof.Trace

/-!
# Edge keys

A subgraph asks each of its nodes once, and a node is an end of all the edges it answers with
(`owner_of_answer`), so no edge comes from two nodes, and a subgraph repeats an edge iff one of the answers
does (`edges_nodup_iff`). The client renders an edge under the text `source->target:relation`, which only
one edge has (`edgeKey_injective`): a kind of node whose ids may have an arrow in them has neighbors of the
other kinds only.
-/

namespace Frontend.GraphLayout

open KnowledgeGraph Py

/-! ## The text of an edge -/

theorem arrow_not_mem_value (kind : EntityKind) : '>' ∉ kind.value.toList := by
  cases kind <;> decide

theorem colon_not_mem_relation (relation : RelationKind) : ':' ∉ relation.value.toList := by
  cases relation <;> decide

theorem relation_injective : Function.Injective RelationKind.value := by
  intro relation relation' h
  cases relation <;> cases relation' <;> first | rfl | exact absurd h (by decide)

theorem arrow_not_mem_keyText {k : EntityKind × String} (h : '>' ∉ k.2.toList) :
    '>' ∉ (keyText k).toList := by
  simp [keyText, nodeKey, arrow_not_mem_value, h]

theorem toList_edgeKey (e : GraphEdge EntityKind) :
    (edgeKey e).toList = ((keyText e.source).toList ++ ['-']) ++
      '>' :: ((keyText e.target).toList ++ ':' :: e.relation.value.toList) := by
  simp [edgeKey, keyText, GraphEdge.source, GraphEdge.target]

theorem sourceKind_of_edgeKey {e e' : GraphEdge EntityKind} (h : edgeKey e = edgeKey e') :
    e.sourceKind = e'.sourceKind := by
  have hlist := congrArg String.toList h
  simp only [toList_edgeKey, keyText, nodeKey, GraphEdge.source, String.toList_append,
    List.append_assoc, show (":" : String).toList = [':'] from rfl, List.singleton_append] at hlist
  obtain ⟨hkind, -⟩ := split_injective (colon_not_mem_value _) (colon_not_mem_value _) hlist
  exact value_injective (String.toList_inj.1 hkind)

/-- The arrow of a text is the first, where the sources have none, or the last, where the rest has none. -/
theorem edgeKey_injective {e e' : GraphEdge EntityKind} (h : edgeKey e = edgeKey e')
    (hclean : ('>' ∉ e.sourceId.toList ∧ '>' ∉ e'.sourceId.toList) ∨
      ('>' ∉ e.targetId.toList ∧ '>' ∉ e'.targetId.toList)) : e = e' := by
  have hlist := congrArg String.toList h
  rw [toList_edgeKey, toList_edgeKey] at hlist
  have hsides : (keyText e.source).toList ++ ['-'] = (keyText e'.source).toList ++ ['-'] ∧
      (keyText e.target).toList ++ ':' :: e.relation.value.toList =
        (keyText e'.target).toList ++ ':' :: e'.relation.value.toList := by
    rcases hclean with ⟨hsource, hsource'⟩ | ⟨htarget, htarget'⟩
    · have hkey := arrow_not_mem_keyText (k := e.source) hsource
      have hkey' := arrow_not_mem_keyText (k := e'.source) hsource'
      exact split_injective (by simpa using hkey) (by simpa using hkey') hlist
    · have hrelation : ∀ relation : RelationKind, '>' ∉ relation.value.toList := by
        intro relation
        cases relation <;> decide
      have hkey := arrow_not_mem_keyText (k := e.target) htarget
      have hkey' := arrow_not_mem_keyText (k := e'.target) htarget'
      refine split_injective_right ?_ ?_ hlist
      · simp [hkey, hrelation]
      · simp [hkey', hrelation]
  obtain ⟨hsource, hrest⟩ := hsides
  obtain ⟨htarget, hrelation⟩ :=
    split_injective_right (colon_not_mem_relation _) (colon_not_mem_relation _) hrest
  have hsource := keyText_injective (String.toList_inj.1 (List.append_cancel_right hsource))
  have htarget := keyText_injective (String.toList_inj.1 htarget)
  have hrelation := relation_injective (String.toList_inj.1 hrelation)
  obtain ⟨_, _, _, _, _⟩ := e
  obtain ⟨_, _, _, _, _⟩ := e'
  cases hsource
  cases htarget
  cases hrelation
  rfl

end Frontend.GraphLayout

namespace KnowledgeGraph

open Py Historical

/-! ## The ids of returned nodes -/

/-- The kinds whose ids have a part that may be any text. -/
def freeKinds : List EntityKind := [.triggeredAgent, .lessonLearned, .businessImpact]

/-- No text of a UUID and no ISO text has the head of an arrow. -/
structure Arrowless {R Uuid : Type} (T : Text R Uuid) : Prop where
  uuidStr : ∀ u, '>' ∉ (T.uuidStr u).toList
  isoformat : ∀ d, '>' ∉ (T.isoformat d).toList

/-- A key a node of the graph may have: the plant has one id, and no id has the head of an arrow but for a
text in it that may be any. -/
structure Named (k : EntityKind × String) : Prop where
  plant : k.1 = .plant → k.2 = plantId
  arrow : k.1 ∉ freeKinds → '>' ∉ k.2.toList

theorem Named.of_arrow {k : EntityKind × String} (hkind : k.1 ≠ .plant) (h : '>' ∉ k.2.toList) : Named k :=
  ⟨fun hplant => absurd hplant hkind, fun _ => h⟩

theorem Named.of_free {k : EntityKind × String} (h : k.1 ∈ freeKinds) : Named k := by
  refine ⟨fun hplant => ?_, fun hfree => absurd h hfree⟩
  rw [hplant] at h
  exact absurd h (by decide)

theorem Named.of_plant : Named (buildPlantEntity.key) := ⟨fun _ => rfl, fun _ => by decide⟩

theorem arrow_not_mem_joinId {a b : String} (ha : '>' ∉ a.toList) (hb : '>' ∉ b.toList) :
    '>' ∉ (joinId a b).toList := by
  rw [toList_joinId, List.mem_append, List.mem_cons]
  rintro (h | h | h)
  · exact ha h
  · exact absurd h (by decide)
  · exact hb h

theorem arrow_not_mem_template {tier : Tier} {rules : List String} {k : String}
    (h : k ∈ (recommendationTemplatesFor tier rules).map RecommendationTemplate.id) :
    '>' ∉ k.toList := by
  obtain ⟨template, hmem, rfl⟩ := List.mem_map.1 h
  rcases mem_foldl_addRecommendation hmem with h | h
  · rw [Option.mem_toList] at h
    cases tier <;> cases h <;> decide
  · have hall : ∀ t ∈ ruleRecommendations, '>' ∉ t.id.toList := by decide +kernel
    exact hall _ h

theorem arrow_not_mem_incident {deck : HistoricalDeck} {incident : HistoricalIncident}
    (hdeck : deck ∈ historicalDecks) (h : incident ∈ deck.incidents) :
    '>' ∉ incident.scenarioKey.toList := by
  have hall : ∀ deck ∈ historicalDecks, ∀ incident ∈ deck.incidents,
      '>' ∉ incident.scenarioKey.toList := by decide +kernel
  exact hall deck hdeck incident h

section
variable {R Uuid : Type} [Field R] [LinearOrder R] [FloorRing R] [DecidableEq Uuid]
  {env : Env R Uuid} {db : Db R Uuid}

theorem arrow_not_mem_ticksOf {k : String} {deck : HistoricalDeck} {incident : HistoricalIncident}
    {ticks : List (IndexedTick R Uuid)} (h : TicksOf env db k deck incident ticks) :
    '>' ∉ k.toList := by
  obtain ⟨hdeck, hmem, rfl, -⟩ := h
  exact arrow_not_mem_incident hdeck hmem

omit [Field R] [LinearOrder R] [FloorRing R] [DecidableEq Uuid] in
theorem arrow_not_mem_found {k : String} (h : (findIncident k).isSome) : '>' ∉ k.toList := by
  obtain ⟨incident, hfind⟩ := Option.isSome_iff_exists.1 h
  obtain ⟨deck, hdeck, hmem, rfl⟩ := findIncident_eq_some hfind
  exact arrow_not_mem_incident hdeck hmem

/-- A neighbor has a key of a node. -/
theorem Shows.named (hT : Arrowless env.text) {a b : Node Uuid} {relation : RelationKind}
    (h : Shows env db a relation b) : Named (b.entity env.text).key := by
  cases b with
  | plant => exact .of_plant
  | triggeredAgent => exact .of_free (.head _)
  | lessonLearned => exact .of_free (.tail _ (.head _))
  | businessImpact => exact .of_free (.tail _ (.tail _ (.head _)))
  | recommendation i k =>
    have hk : '>' ∉ k.toList := by
      cases h with
      | assessmentRecommendation _ hk => exact arrow_not_mem_template hk
      | forecastRecommendation _ _ _ hk => exact arrow_not_mem_template hk
    exact .of_arrow nofun (arrow_not_mem_joinId (hT.uuidStr i) hk)
  | historicalIncident k =>
    refine .of_arrow nofun ?_
    cases h with
    | assessmentIncident _ _ _ hex => exact arrow_not_mem_found hex
    | forecastIncident _ _ _ _ hex => exact arrow_not_mem_found hex
    | sameOutcome _ _ h' =>
      obtain ⟨_, _, _, hticks, -⟩ := h'
      exact arrow_not_mem_ticksOf hticks
    | sameTriggeredRule _ _ h' =>
      obtain ⟨_, _, _, hticks, -⟩ := h'
      exact arrow_not_mem_ticksOf hticks
    | lessonIncident h' =>
      obtain ⟨_, _, _, hticks, -⟩ := h'
      exact arrow_not_mem_ticksOf hticks
  | forecast z t | counterfactual z t =>
    exact .of_arrow nofun (arrow_not_mem_joinId (hT.uuidStr z) (hT.isoformat ⟨t, 0⟩))
  | _ => exact .of_arrow nofun (hT.uuidStr _)

/-- A kind whose ids may be any text has neighbors of the other kinds. -/
theorem Shows.not_free {a b : Node Uuid} {relation : RelationKind} (h : Shows env db a relation b)
    (ha : a.kind ∈ freeKinds) : b.kind ∉ freeKinds := by
  cases h <;> simp [Node.kind, freeKinds] at ha ⊢

theorem map_named {α : Type} {found : Option α} {build : α → GraphEntity EntityKind}
    {entity : GraphEntity EntityKind} (h : (pure (found.map build) : Result _) = .ok (some entity)) :
    ∃ x ∈ found, build x = entity := by
  cases found with
  | none => cases h
  | some x =>
    cases h
    exact ⟨x, rfl, rfl⟩

/-- And so has a node that is opened. -/
theorem getEntity_named (hT : Arrowless env.text) {kind : EntityKind} {entityId : String}
    {entity : GraphEntity EntityKind} (h : getEntity env db kind entityId = .ok (some entity)) :
    Named entity.key := by
  cases kind with
  | plant =>
    cases h
    exact .of_plant
  | sensorReading => cases h
  | zone | sensor | worker | equipment | permit | riskAssessment =>
    obtain ⟨_, -, h⟩ := Except.bind_eq_ok.1 h
    obtain ⟨_, -, rfl⟩ := map_named h
    exact .of_arrow (fun h => by cases h) (hT.uuidStr _)
  | triggeredAgent =>
    simp only [getEntity, getTriggeredAgent] at h
    split at h
    · cases h
    obtain ⟨_, -, h⟩ := Except.bind_eq_ok.1 h
    split at h
    · cases h
    obtain ⟨_, -, rfl⟩ := map_named h
    exact .of_free (.head _)
  | recommendation =>
    simp only [getEntity, getRecommendation] at h
    split at h
    · cases h
    obtain ⟨_, -, h⟩ := Except.bind_eq_ok.1 h
    split at h
    · cases h
    obtain ⟨template, htemplate, rfl⟩ := map_named h
    have hmem := List.mem_map_of_mem (f := RecommendationTemplate.id)
      (List.mem_of_find?_eq_some htemplate)
    exact .of_arrow (fun h => by cases h) (arrow_not_mem_joinId (hT.uuidStr _) (arrow_not_mem_template hmem))
  | historicalIncident =>
    simp only [getEntity, getHistoricalIncident] at h
    split at h
    · cases h
    rename_i incident hfind
    obtain ⟨_, -, h⟩ := Except.bind_eq_ok.1 h
    cases h
    obtain ⟨deck, hdeck, hmem⟩ := List.mem_flatMap.1 (List.mem_of_find?_eq_some hfind)
    exact .of_arrow (fun h => by cases h) (arrow_not_mem_incident hdeck hmem)
  | forecast =>
    simp only [getEntity, getForecast] at h
    split at h
    · cases h
    obtain ⟨_, -, h⟩ := Except.bind_eq_ok.1 h
    obtain ⟨_, -, h⟩ := Except.bind_eq_ok.1 h
    obtain ⟨_, -, h⟩ := Except.bind_eq_ok.1 h
    obtain ⟨_, -, h⟩ := Except.bind_eq_ok.1 h
    obtain ⟨_, -, rfl⟩ := map_named h
    exact .of_arrow (fun h => by cases h) (arrow_not_mem_joinId (hT.uuidStr _) (hT.isoformat _))
  | lessonLearned =>
    obtain ⟨_, -, rfl⟩ := map_named h
    exact .of_free (.tail _ (.head _))
  | counterfactual =>
    simp only [getEntity, getCounterfactual] at h
    split at h
    · cases h
    obtain ⟨_, -, h⟩ := Except.bind_eq_ok.1 h
    obtain ⟨_, -, h⟩ := Except.bind_eq_ok.1 h
    obtain ⟨_, hbuild, h⟩ := Except.bind_eq_ok.1 h
    cases h
    rw [buildCounterfactual_eq hbuild]
    exact .of_arrow (fun h => by cases h) (arrow_not_mem_joinId (hT.uuidStr _) (hT.isoformat _))
  | businessImpact =>
    simp only [getEntity, getBusinessImpact] at h
    split at h
    · cases h
    obtain ⟨_, -, h⟩ := Except.bind_eq_ok.1 h
    obtain ⟨_, -, h⟩ := Except.bind_eq_ok.1 h
    cases h
    exact .of_free (.tail _ (.tail _ (.head _)))

/-! ## The queried node of an edge -/

/-- The end of an edge that was asked for it. -/
def owner (e : GraphEdge EntityKind) : EntityKind × String :=
  if e.relation = .supports then e.target else e.source

/-- The end of an edge that has no arrow in its id: the source, or all ends of the edges of its kind. -/
def Told (e : GraphEdge EntityKind) : Prop :=
  if e.sourceKind ∈ freeKinds then '>' ∉ e.targetId.toList else '>' ∉ e.sourceId.toList

theorem edgeKey_injOn {e e' : GraphEdge EntityKind} (he : Told e) (he' : Told e')
    (h : Frontend.GraphLayout.edgeKey e = Frontend.GraphLayout.edgeKey e') : e = e' := by
  refine Frontend.GraphLayout.edgeKey_injective h ?_
  unfold Told at he he'
  rw [← Frontend.GraphLayout.sourceKind_of_edgeKey h] at he'
  split at he
  case isTrue hfree =>
    rw [if_pos hfree] at he'
    exact .inr ⟨he, he'⟩
  case isFalse hother =>
    rw [if_neg hother] at he'
    exact .inl ⟨he, he'⟩

theorem owner_of_answer (hT : Arrowless env.text) {k : EntityKind × String} (hk : Named k)
    {l : List Found} (h : getNeighbors env db k.1 k.2 = .ok l) :
    ∀ p ∈ l, owner p.1 = k ∧ Told p.1 ∧ Named p.2.key := by
  intro p hp
  obtain ⟨a, relation, b, hread, hshows, rfl⟩ := (mem_getNeighbors h p).1 hp
  have hkind := readId_kind env.text hread
  have hb := hshows.named hT
  have hnamed : namedKey k.1 k.2 = k := by
    obtain ⟨kind, id⟩ := k
    cases kind
    case plant => exact congrArg (Prod.mk _) (hk.plant rfl).symm
    all_goals rfl
  rw [hnamed]
  by_cases hrelation : relation = .supports
  · subst hrelation
    obtain ⟨-, hincident⟩ := hshows.supports_iff.1 rfl
    have hfree : (b.entity env.text).kind ∉ freeKinds := by
      rw [b.entity_kind, hincident]
      decide
    refine ⟨rfl, ?_, hb⟩
    exact (if_neg hfree).mpr (hb.arrow hfree)
  · have hedge : (draw env.text k relation b).1 =
        ⟨k.1, k.2, relation, (b.entity env.text).key.1, (b.entity env.text).key.2⟩ := by
      unfold draw drawEdge
      split
      · exact absurd rfl hrelation
      · rfl
    refine ⟨?_, ?_, hb⟩
    · rw [hedge, owner, if_neg hrelation]
      rfl
    · rw [hedge, Told]
      split
      case isTrue hfree =>
        refine hb.arrow ?_
        show (b.entity env.text).kind ∉ freeKinds
        rw [b.entity_kind]
        exact hshows.not_free (hkind ▸ hfree)
      case isFalse hfree => exact hk.arrow hfree

theorem neighbors_named (hT : Arrowless env.text) {kind : EntityKind} {entityId : String}
    {l : List Found} (h : getNeighbors env db kind entityId = .ok l) : ∀ p ∈ l, Named p.2.key := by
  intro p hp
  obtain ⟨_, _, b, -, hshows, rfl⟩ := (mem_getNeighbors h p).1 hp
  exact hshows.named hT

/-- No node that is asked repeats an edge. -/
def AllUnrepeated (env : Env R Uuid) (db : Db R Uuid) (asked : List (EntityKind × String)) : Prop :=
  ∀ k ∈ asked, ∀ a, readId env.text k.1 k.2 = .ok (some a) → Unrepeated env db a

/-- **Edges without repetition.** An answer repeats an edge iff rows or hits of its node have an id, or an
incident, in common, and a subgraph does iff one of the answers it is made of does. No two edges of a
subgraph are rendered under one key. -/
theorem edges_nodup_iff (hdict : Dictionaries db) (hT : Arrowless env.text) :
    (∀ kind entityId l, getNeighbors env db kind entityId = .ok l →
      ((l.map Prod.fst).Nodup ↔ AllUnrepeated env db [(kind, entityId)])) ∧
    ∀ kind entityId depth maxNodes nodes edges,
      (graphService env db).getSubgraph kind entityId depth maxNodes = .ok (nodes, edges) →
      ∃ asked answers, asked ⊆ nodes.map GraphEntity.key ∧
        List.Forall₂ (fun k l => getNeighbors env db k.1 k.2 = .ok l) asked answers ∧
        edges = answers.flatten.map Prod.fst ∧ (edges.Nodup ↔ AllUnrepeated env db asked) ∧
        ((edges.map Frontend.GraphLayout.edgeKey).Nodup ↔ AllUnrepeated env db asked) := by
  refine ⟨fun kind entityId l h => ?_, fun kind entityId depth maxNodes nodes edges h => ?_⟩
  · refine (getNeighbors_faithful hdict h).trans ?_
    simp [AllUnrepeated]
  obtain ⟨asked, _, htraced⟩ := GraphService.getSubgraph_traced (P := (Named ·.key))
    (fun kind id l hl => neighbors_named hT hl) (fun kind id root hroot => getEntity_named hT hroot) h
  obtain ⟨answers, hanswers, hedges⟩ := htraced.answers
  have hdistinct := htraced.distinct
  have hkept := htraced.kept
  rw [List.append_nil] at hdistinct hkept
  have hnamed : ∀ k ∈ asked, Named k := fun k hk => by
    obtain ⟨node, hnode, rfl⟩ := List.mem_map.1 (hkept hk)
    exact htraced.nodes node hnode
  change edges = _ at hedges
  have howner : List.Forall₂ (fun k (l : List Found) => ∀ p ∈ l, owner p.1 = k ∧ Told p.1)
      asked answers := by
    refine ((List.forall₂_and_left _ _).2 ⟨hnamed, hanswers⟩).imp fun k l hkl p hp => ?_
    obtain ⟨h1, h2, -⟩ := owner_of_answer hT hkl.1 hkl.2 p hp
    exact ⟨h1, h2⟩
  have hnodup : edges.Nodup ↔ AllUnrepeated env db asked := by
    have hlabels : List.Forall₂ (fun k (l : List (GraphEdge EntityKind)) => ∀ e ∈ l, owner e = k)
        asked (answers.map (List.map Prod.fst)) := by
      rw [List.forall₂_map_right_iff]
      exact howner.imp fun k l hkl => List.forall_mem_map.2 fun p hp => (hkl p hp).1
    rw [hedges, List.map_flatten, FirstOccurrence.nodup_flatten_of_label hlabels hdistinct,
      List.forall_mem_map]
    have hfaithful := hanswers.imp fun k l hl => getNeighbors_faithful hdict hl
    refine ⟨fun h k hk => ?_, fun h l hl => ?_⟩
    · obtain ⟨l, hl, hiff⟩ := hfaithful.exists_of_mem_left hk
      exact hiff.1 (h l hl)
    · obtain ⟨k, hk, hiff⟩ := hfaithful.exists_of_mem_right hl
      exact hiff.2 (h k hk)
  have htold : ∀ e ∈ edges, Told e := by
    intro e he
    rw [hedges] at he
    obtain ⟨p, hp, rfl⟩ := List.mem_map.1 he
    obtain ⟨l, hl, hp⟩ := List.mem_flatten.1 hp
    obtain ⟨k, -, hkl⟩ := howner.exists_of_mem_right hl
    exact (hkl p hp).2
  refine ⟨asked, answers, hkept, hanswers, hedges, hnodup, Iff.trans ?_ hnodup⟩
  exact ⟨List.Nodup.of_map _, fun h => h.map_on fun e he e' he' heq =>
    edgeKey_injOn (htold e he) (htold e' he') heq⟩

end

/-! ## Ticks of one incident -/

theorem plainText_arrowless : Arrowless plainText := by
  refine ⟨fun n h => absurd (isDigit_of_mem_repr h) (by decide), fun d h => ?_⟩
  rcases plainIsoformat_chars d _ h with hdigit | hplus
  · exact absurd hdigit (by decide)
  · exact absurd hplus (by decide)

/-- Two ticks of the catalogued incident. -/
def twoTicks : Db ℚ ℕ :=
  { leakPlant with riskAssessments := (Table.empty.upsert
      (quietTick 1 compressorHouse 720000000)).upsert (quietTick 2 compressorHouse 840000000) }

/-- And a third one. -/
def threeTicks : Db ℚ ℕ :=
  { twoTicks with riskAssessments :=
      twoTicks.riskAssessments.upsert (quietTick 3 compressorHouse 960000000) }

/-- With one other tick of the incident, it is matched once. -/
theorem edges_twoTicks : ∃ nodes edges,
    (graphService rootEnv twoTicks).getSubgraph .riskAssessment "1" 1 60 = .ok (nodes, edges) ∧
      AllUnrepeated rootEnv twoTicks [(.riskAssessment, "1")] ∧
      (edges.map Frontend.GraphLayout.edgeKey).Nodup := by
  have hdict : Dictionaries twoTicks := by
    intro a ha
    have hnames : ∀ a ∈ twoTicks.riskAssessments.rows,
      (a.justification.agentContributions.map Justification.Contribution.agentName).Nodup := by
        decide +kernel
    exact hnames a ha
  have hanswer : (getNeighbors rootEnv twoTicks .riskAssessment "1").toOption.map
      (fun l => decide (l.map Prod.fst).Nodup) = some true := by decide +kernel
  have hsubgraph : ((graphService rootEnv twoTicks).getSubgraph .riskAssessment "1" 1 60).toOption.map
      (fun g => decide g.2.Nodup) = some true := by decide +kernel
  obtain ⟨l, hl, hnodup⟩ := Except.toOption_map_eq_some.1 hanswer
  obtain ⟨⟨nodes, edges⟩, hg, hedges⟩ := Except.toOption_map_eq_some.1 hsubgraph
  have hT : Arrowless rootEnv.text := plainText_arrowless
  obtain ⟨hneighbors, hgraph⟩ := edges_nodup_iff hdict hT
  obtain ⟨_, _, -, -, -, h1, h2⟩ := hgraph _ _ _ _ _ _ hg
  exact ⟨nodes, edges, hg, (hneighbors _ _ _ hl).1 (of_decide_eq_true hnodup),
    h2.2 (h1.1 (of_decide_eq_true hedges))⟩

/-- With two other ticks, it is matched twice. -/
theorem edges_threeTicks :
    (∃ l, getNeighbors rootEnv threeTicks .riskAssessment "1" = .ok l ∧ ¬(l.map Prod.fst).Nodup) ∧
    ∃ nodes edges, (graphService rootEnv threeTicks).getSubgraph .riskAssessment "1" 1 60 =
        .ok (nodes, edges) ∧ ¬edges.Nodup ∧ ¬(edges.map Frontend.GraphLayout.edgeKey).Nodup := by
  have hanswer : (getNeighbors rootEnv threeTicks .riskAssessment "1").toOption.map
      (fun l => decide (l.map Prod.fst).Nodup) = some false := by decide +kernel
  have hsubgraph : ((graphService rootEnv threeTicks).getSubgraph .riskAssessment "1" 1 60).toOption.map
      (fun g => decide g.2.Nodup) = some false := by decide +kernel
  obtain ⟨l, hl, hnodup⟩ := Except.toOption_map_eq_some.1 hanswer
  obtain ⟨⟨nodes, edges⟩, hg, hedges⟩ := Except.toOption_map_eq_some.1 hsubgraph
  have hrepeat := of_decide_eq_false hedges
  exact ⟨⟨l, hl, of_decide_eq_false hnodup⟩, nodes, edges, hg, hrepeat,
    fun h => hrepeat (List.Nodup.of_map _ h)⟩

end KnowledgeGraph
