import IndustrialSafety.Orchestrator.Proof.Scheduler

/-!
# Information flow in a tick

One mapping of results is handed to all agents of a level, and each of them is settled into it and into the
cache. Still an agent's result depends on nothing but the earlier levels and its own cache entry
(`result_isolated`), and the agents of a level may be listed in any order (`runLevels_perm`).
-/

namespace Scheduler

open Py

variable {R Uuid : Type} [Field R] [LinearOrder R] {M : Math R} {config : SchedulerConfig R}
  {c c' : Call R Uuid} {level : ExecutionLevel R Uuid} {levels : List (ExecutionLevel R Uuid)}
  {results results' : Results R} {cache cache' : AgentCache R}

/-! ## Missing context builders -/

omit [Field R] [LinearOrder R] in
theorem gather_missing {a : Agent R Uuid} (ha : a ∈ level.agents)
    (hmissing : c.contextBuilders a.name = none) (results : Results R) :
    ∃ e, gather c.zoneId c.simTime c.tickId c.contextBuilders results level = .error e := by
  cases h : gather c.zoneId c.simTime c.tickId c.contextBuilders results level with
  | error e => exact ⟨e, rfl⟩
  | ok outcomes =>
    obtain ⟨outcome, -, ho⟩ := (Except.mapM_eq_ok.1 h).exists_of_mem_left ha
    rw [hmissing] at ho
    cases ho

theorem runLevels_missing (M : Math R) (config : SchedulerConfig R) (results : Results R)
    (cache : AgentCache R) (levels : List (ExecutionLevel R Uuid)) {a : Agent R Uuid}
    (ha : a ∈ level.agents) (hmissing : c.contextBuilders a.name = none) :
    ∃ e, c.runLevels M config (level :: levels) results cache = .error e := by
  obtain ⟨e, he⟩ := gather_missing ha hmissing results
  refine ⟨e, ?_⟩
  change Scheduler.runLevels M _ _ _ _ config (level :: levels) results cache = _
  rw [Scheduler.runLevels, he]
  rfl

/-- A run that returns has found every context builder. -/
theorem built_of_runLevels {out : Results R × AgentCache R}
    (h : c.runLevels M config levels results cache = .ok out) : c.Built levels := by
  induction levels generalizing results cache with
  | nil => exact nofun
  | cons level levels ih =>
    have hlevel : ∀ a ∈ level.agents, (c.contextBuilders a.name).isSome := by
      intro a ha
      by_contra hnone
      obtain ⟨e, he⟩ := runLevels_missing M config results cache levels ha (by simpa using hnone)
      rw [h] at he
      cases he
    rw [Call.runLevels_cons hlevel] at h
    obtain ⟨p, -, h⟩ := Except.bind_eq_ok.1 h
    intro name hname
    rw [names_cons, List.mem_append] at hname
    rcases hname with hname | hname
    · obtain ⟨a, ha, rfl⟩ := List.mem_map.1 hname
      exact hlevel a ha
    · exact ih h name hname

/-! ## Agents of one level -/

/-- One outcome; `none` once the tick has raised. -/
def settleOne (M : Math R) (simTime : Instant) (config : SchedulerConfig R)
    (s : Option (Results R × AgentCache R)) (p : String × Result (AgentResult R)) :
    Option (Results R × AgentCache R) :=
  s.bind fun (results, cache) =>
    match p.2 with
    | .ok outcome => some (Function.update results p.1 (some outcome), cache.withResult p.1 outcome)
    | .error _ => (cache.lastKnownResults p.1).map fun lastKnown =>
      (Function.update results p.1
        (some (decayConfidenceForStaleness M lastKnown simTime config)), cache)

section
variable {simTime : Instant}

theorem foldl_settleOne_none (outcomes : List (String × Result (AgentResult R))) :
    outcomes.foldl (settleOne M simTime config) none = none := by
  induction outcomes with
  | nil => rfl
  | cons _ _ ih => exact ih

theorem settle_toOption (outcomes : List (String × Result (AgentResult R))) (results : Results R)
    (cache : AgentCache R) : (settle M simTime config outcomes results cache).toOption =
      outcomes.foldl (settleOne M simTime config) (some (results, cache)) := by
  induction outcomes generalizing results cache with
  | nil => rfl
  | cons p outcomes ih =>
    obtain ⟨name, outcome⟩ := p
    cases outcome with
    | ok r => exact ih _ _
    | error e =>
      unfold settle
      rw [List.foldl_cons]
      cases hlast : cache.lastKnownResults name with
      | none =>
        have hone : settleOne M simTime config (some (results, cache)) (name, .error e) = none := by
          simp [settleOne, hlast]
        rw [hone, foldl_settleOne_none]
        rfl
      | some lastKnown =>
        have hone : settleOne M simTime config (some (results, cache)) (name, .error e) =
            some (Function.update results name
              (some (decayConfidenceForStaleness M lastKnown simTime config)), cache) := by
          simp [settleOne, hlast]
        rw [hone]
        exact ih _ _

omit [Field R] [LinearOrder R] in
theorem withResult_comm {name name' : String} (hne : name ≠ name') (cache : AgentCache R)
    (r r' : AgentResult R) : (cache.withResult name r).withResult name' r' =
      (cache.withResult name' r').withResult name r :=
  congrArg AgentCache.mk (Function.update_comm hne _ _ _)

/-- Two agents settle in either order. -/
theorem settleOne_comm {p q : String × Result (AgentResult R)} (hne : p.1 ≠ q.1)
    (s : Option (Results R × AgentCache R)) :
    settleOne M simTime config (settleOne M simTime config s p) q =
      settleOne M simTime config (settleOne M simTime config s q) p := by
  obtain ⟨name, outcome⟩ := p
  obtain ⟨name', outcome'⟩ := q
  replace hne : name ≠ name' := hne
  cases s with
  | none => rfl
  | some s =>
    obtain ⟨results, cache⟩ := s
    cases outcome with
    | ok r =>
      cases outcome' with
      | ok r' =>
        simp only [settleOne, Option.bind_some]
        rw [Function.update_comm hne, withResult_comm hne]
      | error e' =>
        simp only [settleOne, Option.bind_some]
        rw [withResult_of_ne r hne.symm]
        cases cache.lastKnownResults name' with
        | none => rfl
        | some s' =>
          simp only [Option.map_some, Option.bind_some]
          rw [Function.update_comm hne]
    | error e =>
      cases outcome' with
      | ok r' =>
        simp only [settleOne, Option.bind_some]
        rw [withResult_of_ne r' hne]
        cases cache.lastKnownResults name with
        | none => rfl
        | some s =>
          simp only [Option.map_some, Option.bind_some]
          rw [Function.update_comm hne]
      | error e' =>
        cases hlast : cache.lastKnownResults name <;>
          cases hlast' : cache.lastKnownResults name' <;>
          simp only [settleOne, hlast, hlast', Option.bind_some, Option.map_some, Option.map_none,
            Option.bind_none]
        rw [Function.update_comm hne]

theorem settle_perm {outcomes outcomes' : List (String × Result (AgentResult R))}
    (h : outcomes.Perm outcomes') (hn : (outcomes.map Prod.fst).Nodup) (results : Results R)
    (cache : AgentCache R) : (settle M simTime config outcomes results cache).toOption =
      (settle M simTime config outcomes' results cache).toOption := by
  rw [settle_toOption, settle_toOption]
  refine h.foldl_eq' (fun p hp q hq s => ?_) _
  by_cases hname : p.1 = q.1
  · rw [List.inj_on_of_nodup_map hn hp hq hname]
  · exact settleOne_comm hname s

end

/-! ## Any order within the levels -/

/-- The same agents, in any order. -/
def Reordered (level level' : ExecutionLevel R Uuid) : Prop := level.agents.Perm level'.agents

theorem runLevels_perm {levels' : List (ExecutionLevel R Uuid)}
    (h : List.Forall₂ Reordered levels levels') (hn : (names levels).Nodup) (results : Results R)
    (cache : AgentCache R) : (c.runLevels M config levels results cache).toOption =
      (c.runLevels M config levels' results cache).toOption := by
  induction h generalizing results cache with
  | nil => rfl
  | @cons level level' levels levels' hlevel _ ih =>
    have hlevel : level.agents.Perm level'.agents := hlevel
    rw [names_cons, List.nodup_append'] at hn
    by_cases hb : ∀ a ∈ level.agents, (c.contextBuilders a.name).isSome
    · have hb' : ∀ a ∈ level'.agents, (c.contextBuilders a.name).isSome := fun a ha =>
        hb a (hlevel.symm.subset ha)
      have houtcomes : (c.outcomes results level).Perm (c.outcomes results level') := hlevel.map _
      have hnames : ((c.outcomes results level).map Prod.fst).Nodup := by simpa using hn.1
      rw [Call.runLevels_cons hb, Call.runLevels_cons hb', Except.toOption_bind,
        Except.toOption_bind, settle_perm houtcomes hnames]
      refine congrArg _ (funext fun p => ?_)
      exact ih hn.2.1 p.1 p.2
    · push Not at hb
      obtain ⟨a, ha, hmissing⟩ := hb
      have hmissing : c.contextBuilders a.name = none := by simpa using hmissing
      obtain ⟨e, he⟩ := runLevels_missing M config results cache levels ha hmissing
      obtain ⟨e', he'⟩ :=
        runLevels_missing M config results cache levels' (hlevel.subset ha) hmissing
      rw [he, he']
      rfl

/-! ## What a result depends on -/

/-- Another call and cache: everything but the agent `a`, its context builder, its cache entry and the
levels before its own may differ. -/
structure Replaced (pre : List (ExecutionLevel R Uuid)) (a : Agent R Uuid) (c c' : Call R Uuid)
    (cache cache' : AgentCache R) : Prop where
  zoneId : c'.zoneId = c.zoneId
  simTime : c'.simTime = c.simTime
  tickId : c'.tickId = c.tickId
  nodup : (names c'.plan.levels).Nodup
  place : ∃ level post, c'.plan.levels = pre ++ level :: post ∧ a ∈ level.agents
  builders : ∀ name, name = a.name ∨ name ∈ names pre →
    c'.contextBuilders name = c.contextBuilders name
  cached : ∀ name, name = a.name ∨ name ∈ names pre →
    cache'.lastKnownResults name = cache.lastKnownResults name

theorem Settled.unique {simTime : Instant} {o : Result (AgentResult R)}
    {before : Option (AgentResult R)} {r s r' s' : AgentResult R}
    (h : Settled M simTime config o before r s) (h' : Settled M simTime config o before r' s') :
    r' = r := by
  cases h <;> cases h' <;> rfl

section
variable {pre : List (ExecutionLevel R Uuid)} {a : Agent R Uuid} {cache₁ cache₁' : AgentCache R}

omit [Field R] [LinearOrder R] in
theorem Replaced.outcome (h : Replaced pre a c c' cache cache') {b : Agent R Uuid}
    (hb : b.name = a.name ∨ b.name ∈ names pre) (seen : Results R) :
    c'.outcome seen b = c.outcome seen b := by
  unfold Call.outcome
  rw [h.builders b.name hb, h.zoneId, h.simTime, h.tickId]

/-- An agent that sees the same results has the same result. -/
theorem Replaced.result_eq (h : Replaced pre a c c' cache cache')
    (hs : LevelsSettled M config c levels (fun _ => none) cache results cache₁)
    {levels' : List (ExecutionLevel R Uuid)}
    (hs' : LevelsSettled M config c' levels' (fun _ => none) cache' results' cache₁')
    {before : List (ExecutionLevel R Uuid)} (post post' : List (ExecutionLevel R Uuid))
    {level' : ExecutionLevel R Uuid} (heq : levels = before ++ level :: post) (heq' : levels' = before ++ level' :: post')
    (hseen : visible before (fun _ => none) results' = visible before (fun _ => none) results)
    {b : Agent R Uuid} (hb : b ∈ level.agents) (hb' : b ∈ level'.agents)
    (hname : b.name = a.name ∨ b.name ∈ names pre) : results' b.name = results b.name := by
  obtain ⟨r, s, hr, -, hset⟩ := hs.settled before level post heq b hb
  obtain ⟨r', s', hr', -, hset'⟩ := hs'.settled before level' post' heq' b hb'
  rw [hseen, h.outcome hname, h.cached b.name hname, h.simTime] at hset'
  rw [hr, hr', hset.unique hset']

/-- The levels before the agent's own show the same results. -/
theorem Replaced.visible_eq (h : Replaced pre a c c' cache cache')
    {levels' post post' : List (ExecutionLevel R Uuid)}
    (hs : LevelsSettled M config c levels (fun _ => none) cache results cache₁)
    (hs' : LevelsSettled M config c' levels' (fun _ => none) cache' results' cache₁')
    (heq : levels = pre ++ post) (heq' : levels' = pre ++ post')
    {before between : List (ExecutionLevel R Uuid)} (hpre : pre = before ++ between) :
    visible before (fun _ => none) results' = visible before (fun _ => none) results := by
  induction before using List.reverseRecOn generalizing between with
  | nil => rw [visible_nil, visible_nil]
  | append_singleton before level ih =>
    have hsplit : pre = before ++ level :: between := by rw [hpre]; simp
    have hseen := ih hsplit
    funext name
    unfold visible
    split
    · rename_i hname
      rw [names_append, List.mem_append] at hname
      rcases hname with hname | hname
      · have hsame := congrFun hseen name
        unfold visible at hsame
        rwa [if_pos hname, if_pos hname] at hsame
      · rw [names_cons, names_nil, List.append_nil] at hname
        obtain ⟨b, hb, rfl⟩ := List.mem_map.1 hname
        refine h.result_eq hs hs' (between ++ post) (between ++ post') ?_ ?_ hseen
          hb hb (.inr (mem_names ?_ hb))
        · rw [heq, hsplit]
          simp
        · rw [heq', hsplit]
          simp
        · rw [hsplit]
          simp
    · rfl

/-- **Isolation**: of two ticks that return, an agent has the same result if they agree on the agent, on its
cache entry and on the levels before its own. -/
theorem result_isolated (hn : (names c.plan.levels).Nodup)
    {post : List (ExecutionLevel R Uuid)} (heq : c.plan.levels = pre ++ level :: post)
    (ha : a ∈ level.agents) (h : Replaced pre a c c' cache cache')
    (hrun : c.run M config cache = .ok (results, cache₁))
    (hrun' : c'.run M config cache' = .ok (results', cache₁')) :
    results' a.name = results a.name := by
  have hs := runLevels_ok hn (built_of_runLevels hrun) hrun
  have hs' := runLevels_ok h.nodup (built_of_runLevels hrun') hrun'
  obtain ⟨level', post', heq', ha'⟩ := h.place
  have hseen := h.visible_eq hs hs' heq heq' (List.append_nil pre).symm
  exact h.result_eq hs hs' _ _ heq heq' hseen ha ha' (.inl rfl)

end

/-- **Information flow in a tick** of a plan with distinct names: nothing else at an agent's level or at a
later one bears on the agent's result, and the order within the levels bears on nothing. -/
theorem run_information_flow (M : Math R) (config : SchedulerConfig R) (c : Call R Uuid)
    (hn : (names c.plan.levels).Nodup) (cache : AgentCache R) :
    (∀ pre level post a, c.plan.levels = pre ++ level :: post → a ∈ level.agents →
      ∀ c' cache', Replaced pre a c c' cache cache' →
        ∀ results cache₁ results' cache₁', c.run M config cache = .ok (results, cache₁) →
          c'.run M config cache' = .ok (results', cache₁') → results' a.name = results a.name) ∧
    ∀ levels', List.Forall₂ Reordered c.plan.levels levels' →
      (∀ results cache', Call.run { c with plan := ⟨levels'⟩ } M config cache = .ok (results, cache') ↔
        c.run M config cache = .ok (results, cache')) ∧
      ((∃ e, Call.run { c with plan := ⟨levels'⟩ } M config cache = .error e) ↔
        ∃ e, c.run M config cache = .error e) := by
  refine ⟨fun pre level post a heq ha c' cache' h results cache₁ results' cache₁' hrun hrun' =>
    result_isolated hn heq ha h hrun hrun', fun levels' h => ?_⟩
  have hsame : (Call.run { c with plan := ⟨levels'⟩ } M config cache).toOption =
      (c.run M config cache).toOption := (runLevels_perm h hn _ _).symm
  refine ⟨fun results cache' => ?_, Except.error_iff_of_toOption_eq hsame⟩
  rw [← Except.toOption_eq_some, hsame, Except.toOption_eq_some]

/-- An agent that never reports. -/
def silent : Agent ℚ Unit where
  name := "silent"
  evaluate _ := throw (.valueError "no report")

def levelCall (agents : List (Agent ℚ Unit)) : Call ℚ Unit where
  plan := ⟨[⟨agents⟩]⟩
  zoneId := ()
  simTime := 300000000
  tickId := 0
  contextBuilders _ := some fun z t i _ => pure { zoneId := z, simTime := t, tickId := i }

def lastReports : AgentCache ℚ :=
  ⟨fun name => some ⟨name, 30, 1, ⟨[], .lastKnown 0 0 0⟩, 0, 1⟩⟩

/-- Next to an agent that falls back on the cache, in either order. -/
theorem run_information_flow_pair : ∃ results cache',
    (levelCall [probe, silent]).run Math.dyadic (SchedulerConfig.default Math.dyadic) lastReports =
        .ok (results, cache') ∧
      (levelCall [silent, probe]).run Math.dyadic (SchedulerConfig.default Math.dyadic) lastReports =
        .ok (results, cache') :=
  ⟨_, _, rfl, (((run_information_flow Math.dyadic (SchedulerConfig.default Math.dyadic)
    (levelCall [probe, silent]) (by decide +kernel) lastReports).2 [⟨[silent, probe]⟩]
      (.cons (List.Perm.swap silent probe []) .nil)).1 _ _).2 rfl⟩

end Scheduler
