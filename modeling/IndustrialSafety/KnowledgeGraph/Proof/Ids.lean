import IndustrialSafety.KnowledgeGraph.Proof.Opening

/-!
# Composite ids as a code

A composite id is its parts with a separator between them, and a parser returns the parts iff there are
as many separators as it expects (`parsePair_eq_some`, `parseBusinessImpactId_eq_some`). Where no part
has a separator the parser inverts the encoder, and what a parser makes of an encoder's output encodes to
the same id again (`ids_faithful`).
-/

namespace KnowledgeGraph

open Py

/-! ## Separators -/

theorem length_splitOn (c : Char) (l : List Char) : (l.splitOn c).length = l.count c + 1 := by
  induction l with
  | nil => rw [List.splitOn_nil, List.count_nil, List.length_singleton]
  | cons x xs ih =>
    unfold List.splitOn at ih ⊢
    rw [List.splitOnP_cons_eq_if_modifyHead]
    by_cases h : x = c
    · simp [h, ih]
    · simp [h, ih]

/-- A split gives a part more than there are separators. -/
theorem length_splitId (s : String) : (splitId s).length = s.toList.count idSeparator + 1 := by
  rw [splitId, List.length_map, length_splitOn]

/-- The parts joined again. -/
theorem intercalate_splitId (s : String) :
    [idSeparator].intercalate ((splitId s).map String.toList) = s.toList := by
  have hmap : (splitId s).map String.toList = s.toList.splitOn idSeparator := by
    rw [splitId, List.map_map]
    exact List.map_id'' (fun xs => String.toList_ofList) _
  rw [hmap, List.intercalate_splitOn]

theorem parsePair_eq_none {s : String} :
    parsePair s = none ↔ s.toList.count idSeparator ≠ 1 := by
  have hlen := length_splitId s
  unfold parsePair
  split
  · rename_i heq
    rw [heq] at hlen
    simp only [List.length_cons, List.length_nil] at hlen
    exact iff_of_false nofun (by omega)
  · rename_i hother
    refine iff_of_true rfl fun hone => ?_
    obtain ⟨a, b, hab⟩ := List.length_eq_two.1 (hlen.trans (by rw [hone]))
    exact hother a b hab

theorem parseBusinessImpactId_eq_none {s : String} :
    parseBusinessImpactId s = none ↔ s.toList.count idSeparator ≠ 2 := by
  have hlen := length_splitId s
  unfold parseBusinessImpactId
  split
  · rename_i heq
    rw [heq] at hlen
    simp only [List.length_cons, List.length_nil] at hlen
    exact iff_of_false nofun (by omega)
  · rename_i hother
    refine iff_of_true rfl fun htwo => ?_
    obtain ⟨a, b, c, habc⟩ := List.length_eq_three.1 (hlen.trans (by rw [htwo]))
    exact hother a b c habc

/-- A pair is the two sides of the only separator. -/
theorem parsePair_eq_some {s a b : String} : parsePair s = some (a, b) ↔
    s = joinId a b ∧ idSeparator ∉ a.toList ∧ idSeparator ∉ b.toList := by
  refine ⟨fun h => ?_, fun ⟨hs, ha, hb⟩ => hs ▸ parsePair_joinId ha hb⟩
  have hcount : s.toList.count idSeparator = 1 :=
    not_not.1 fun hne => by cases (parsePair_eq_none.2 hne).symm.trans h
  have hparts : splitId s = [a, b] := by
    unfold parsePair at h
    split at h
    · rename_i heq
      cases h
      exact heq
    · cases h
  have hs := intercalate_splitId s
  rw [hparts] at hs
  have hjoin : s = joinId a b := by
    rw [← String.toList_inj, toList_joinId, ← hs]
    simp [List.intercalate]
  rw [hjoin, toList_joinId, List.count_append, List.count_cons_self] at hcount
  exact ⟨hjoin, List.count_eq_zero.1 (by omega), List.count_eq_zero.1 (by omega)⟩

/-- A triple is the three parts around the only two separators. -/
theorem parseBusinessImpactId_eq_some {s a b c : String} :
    parseBusinessImpactId s = some (a, b, c) ↔ s = joinId a (joinId b c) ∧
      idSeparator ∉ a.toList ∧ idSeparator ∉ b.toList ∧ idSeparator ∉ c.toList := by
  refine ⟨fun h => ?_, fun ⟨hs, ha, hb, hc⟩ => hs ▸ parseBusinessImpactId_joinId ha hb hc⟩
  have hcount : s.toList.count idSeparator = 2 :=
    not_not.1 fun hne => by cases (parseBusinessImpactId_eq_none.2 hne).symm.trans h
  have hparts : splitId s = [a, b, c] := by
    unfold parseBusinessImpactId at h
    split at h
    · rename_i heq
      cases h
      exact heq
    · cases h
  have hs := intercalate_splitId s
  rw [hparts] at hs
  have hjoin : s = joinId a (joinId b c) := by
    rw [← String.toList_inj, toList_joinId, toList_joinId, ← hs]
    simp [List.intercalate]
  rw [hjoin, toList_joinId, toList_joinId, List.count_append, List.count_cons_self,
    List.count_append, List.count_cons_self] at hcount
  exact ⟨hjoin, List.count_eq_zero.1 (by omega), List.count_eq_zero.1 (by omega),
    List.count_eq_zero.1 (by omega)⟩

/-! ## The code -/

section
variable {R Uuid : Type} (T : Text R Uuid)

/-- The parsers invert the encoders. -/
structure RoundTrips : Prop where
  triggeredAgent : ∀ assessmentId agentName, idSeparator ∉ agentName.toList →
    parseTriggeredAgentId (triggeredAgentId T assessmentId agentName) =
      some (T.uuidStr assessmentId, agentName)
  recommendation : ∀ assessmentId recommendationKey, idSeparator ∉ recommendationKey.toList →
    parseRecommendationId (recommendationId T assessmentId recommendationKey) =
      some (T.uuidStr assessmentId, recommendationKey)
  forecast : ∀ zoneId timestamp, parseZoneTimestampId (forecastId T zoneId timestamp) =
    some (T.uuidStr zoneId, T.isoformat timestamp)
  counterfactual : ∀ zoneId timestamp, parseZoneTimestampId (counterfactualId T zoneId timestamp) =
    some (T.uuidStr zoneId, T.isoformat timestamp)
  businessImpact : ∀ kind zoneId timestamp, idSeparator ∉ kind.toList →
    parseBusinessImpactId (businessImpactId T kind zoneId timestamp) =
      some (kind, T.uuidStr zoneId, T.isoformat timestamp)

/-- The encoders keep their arguments apart, times up to their text. -/
structure EncodesInjectively : Prop where
  triggeredAgent : ∀ a a' k k', triggeredAgentId T a k = triggeredAgentId T a' k' → a = a' ∧ k = k'
  recommendation : ∀ a a' k k', recommendationId T a k = recommendationId T a' k' → a = a' ∧ k = k'
  forecast : ∀ z z' d d', forecastId T z d = forecastId T z' d' →
    z = z' ∧ T.isoformat d = T.isoformat d'
  counterfactual : ∀ z z' d d', counterfactualId T z d = counterfactualId T z' d' →
    z = z' ∧ T.isoformat d = T.isoformat d'
  businessImpact : ∀ k k' z z' d d', businessImpactId T k z d = businessImpactId T k' z' d' →
    k = k' ∧ z = z' ∧ T.isoformat d = T.isoformat d'

/-- The parsers reject the strings with another number of separators, and no others. -/
structure RejectsOthers : Prop where
  triggeredAgent : ∀ s, parseTriggeredAgentId s = none ↔ s.toList.count idSeparator ≠ 1
  recommendation : ∀ s, parseRecommendationId s = none ↔ s.toList.count idSeparator ≠ 1
  zoneTimestamp : ∀ s, parseZoneTimestampId s = none ↔ s.toList.count idSeparator ≠ 1
  businessImpact : ∀ s, parseBusinessImpactId s = none ↔ s.toList.count idSeparator ≠ 2

/-- What is parsed of an encoder's output is read as the encoder's arguments, which encode to that
output. -/
structure Reencodes : Prop where
  triggeredAgent : ∀ u k a b, parseTriggeredAgentId (triggeredAgentId T u k) = some (a, b) →
    ∃ u', T.uuidOfStr a = some u' ∧ triggeredAgentId T u' b = triggeredAgentId T u k
  recommendation : ∀ u k a b, parseRecommendationId (recommendationId T u k) = some (a, b) →
    ∃ u', T.uuidOfStr a = some u' ∧ recommendationId T u' b = recommendationId T u k
  forecast : ∀ u d a b, parseZoneTimestampId (forecastId T u d) = some (a, b) →
    ∃ u' d', T.uuidOfStr a = some u' ∧ T.fromisoformat b = some d' ∧
      forecastId T u' d' = forecastId T u d
  counterfactual : ∀ u d a b, parseZoneTimestampId (counterfactualId T u d) = some (a, b) →
    ∃ u' d', T.uuidOfStr a = some u' ∧ T.fromisoformat b = some d' ∧
      counterfactualId T u' d' = counterfactualId T u d
  businessImpact : ∀ k u d a b c, parseBusinessImpactId (businessImpactId T k u d) = some (a, b, c) →
    ∃ u' d', T.uuidOfStr b = some u' ∧ T.fromisoformat c = some d' ∧
      businessImpactId T a u' d' = businessImpactId T k u d

variable {T}

/-- The parts that a pair is parsed into are the ones it is joined from. -/
theorem parts_of_parsePair {a b a' b' : String} (ha : idSeparator ∉ a.toList)
    (h : parsePair (joinId a b) = some (a', b')) : a' = a ∧ b' = b := by
  obtain ⟨hjoin, ha', -⟩ := parsePair_eq_some.1 h
  obtain ⟨h1, h2⟩ := (joinId_inj ha ha').1 hjoin
  exact ⟨h1.symm, h2.symm⟩

theorem tickId_parts (hT : Separated T) {u : Uuid} {d : DateTime} {a b : String}
    (h : parsePair (joinId (T.uuidStr u) (T.isoformat d)) = some (a, b)) :
    T.uuidOfStr a = some u ∧ T.fromisoformat b = some d := by
  obtain ⟨rfl, rfl⟩ := parts_of_parsePair (hT.uuidStr u) h
  exact ⟨T.uuidOfStr_uuidStr u, T.fromisoformat_isoformat d⟩

theorem keyed_parts (hT : Separated T) {u : Uuid} {k a b : String}
    (h : parsePair (joinId (T.uuidStr u) k) = some (a, b)) : T.uuidOfStr a = some u ∧ b = k := by
  obtain ⟨rfl, rfl⟩ := parts_of_parsePair (hT.uuidStr u) h
  exact ⟨T.uuidOfStr_uuidStr u, rfl⟩

theorem tickId_inj (hT : Separated T) {z z' : Uuid} {d d' : DateTime}
    (h : joinId (T.uuidStr z) (T.isoformat d) = joinId (T.uuidStr z') (T.isoformat d')) :
    z = z' ∧ T.isoformat d = T.isoformat d' := by
  obtain ⟨hz, hd⟩ := (joinId_inj (hT.uuidStr z) (hT.uuidStr z')).1 h
  exact ⟨T.uuidStr_injective hz, hd⟩

theorem keyed_inj (hT : Separated T) {u u' : Uuid} {k k' : String}
    (h : joinId (T.uuidStr u) k = joinId (T.uuidStr u') k') : u = u' ∧ k = k' := by
  obtain ⟨hu, hk⟩ := (joinId_inj (hT.uuidStr u) (hT.uuidStr u')).1 h
  exact ⟨T.uuidStr_injective hu, hk⟩

/-- **Composite ids are a faithful code**, if neither a UUID nor an ISO text has the separator. -/
theorem ids_faithful (hT : Separated T) :
    RoundTrips T ∧ EncodesInjectively T ∧ RejectsOthers ∧ Reencodes T := by
  refine ⟨⟨?_, ?_, ?_, ?_, ?_⟩, ⟨?_, ?_, ?_, ?_, ?_⟩, ⟨?_, ?_, ?_, ?_⟩, ⟨?_, ?_, ?_, ?_, ?_⟩⟩
  · exact fun u k hk => parsePair_joinId (hT.uuidStr u) hk
  · exact fun u k hk => parsePair_joinId (hT.uuidStr u) hk
  · exact fun z d => parsePair_joinId (hT.uuidStr z) (hT.isoformat d)
  · exact fun z d => parsePair_joinId (hT.uuidStr z) (hT.isoformat d)
  · exact fun k z d hk => parseBusinessImpactId_joinId hk (hT.uuidStr z) (hT.isoformat d)
  · exact fun u u' k k' h => keyed_inj hT h
  · exact fun u u' k k' h => keyed_inj hT h
  · exact fun z z' d d' h => tickId_inj hT h
  · exact fun z z' d d' h => tickId_inj hT h
  · intro k k' z z' d d' h
    -- neither of the last two parts has a separator, so the kind ends where they start
    unfold businessImpactId at h
    rw [← joinId_assoc, ← joinId_assoc] at h
    obtain ⟨hkind, hd⟩ := (joinId_inj_right (hT.isoformat d) (hT.isoformat d')).1 h
    obtain ⟨hk, hz⟩ := (joinId_inj_right (hT.uuidStr z) (hT.uuidStr z')).1 hkind
    exact ⟨hk, T.uuidStr_injective hz, hd⟩
  · exact fun s => parsePair_eq_none
  · exact fun s => parsePair_eq_none
  · exact fun s => parsePair_eq_none
  · exact fun s => parseBusinessImpactId_eq_none
  · intro u k a b h
    obtain ⟨hu, rfl⟩ := keyed_parts hT h
    exact ⟨u, hu, rfl⟩
  · intro u k a b h
    obtain ⟨hu, rfl⟩ := keyed_parts hT h
    exact ⟨u, hu, rfl⟩
  · intro u d a b h
    obtain ⟨hu, hd⟩ := tickId_parts hT h
    exact ⟨u, d, hu, hd, rfl⟩
  · intro u d a b h
    obtain ⟨hu, hd⟩ := tickId_parts hT h
    exact ⟨u, d, hu, hd, rfl⟩
  · intro k u d a b c h
    obtain ⟨hjoin, ha, hb, hc⟩ := parseBusinessImpactId_eq_some.1 h
    unfold businessImpactId at hjoin
    rw [← joinId_assoc, ← joinId_assoc] at hjoin
    obtain ⟨hkind, rfl⟩ := (joinId_inj_right (hT.isoformat d) hc).1 hjoin
    obtain ⟨rfl, rfl⟩ := (joinId_inj_right (hT.uuidStr u) hb).1 hkind
    exact ⟨u, d, T.uuidOfStr_uuidStr u, T.fromisoformat_isoformat d, rfl⟩

end

/-- The code over numerals. -/
theorem ids_faithful_plain : RoundTrips plainText ∧ EncodesInjectively plainText ∧ RejectsOthers ∧
    Reencodes plainText :=
  ids_faithful plainText_separated

end KnowledgeGraph
