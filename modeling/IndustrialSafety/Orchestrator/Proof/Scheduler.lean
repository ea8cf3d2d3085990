import IndustrialSafety.Lib.History
import IndustrialSafety.Py.Instances
import IndustrialSafety.Orchestrator.Scheduler

/-!
# Runs of the scheduler

What one tick makes of each agent (`Settled`, `runTick_spec`), when it raises (`runTick_error`), and
what follows for a run of ticks that threads the cache: the cache holds every agent's most recent
genuine success (`thread_cache`), and a failed agent reports that success, decayed once (`run_law`).
-/

namespace Scheduler

open Py

variable {R Uuid : Type} [Field R] [LinearOrder R]

/-! ## Names and calls -/

section
omit [Field R] [LinearOrder R]

/-- The agents of some levels, by name. -/
def names (levels : List (ExecutionLevel R Uuid)) : List String :=
  (levels.flatMap ExecutionLevel.agents).map Agent.name

@[simp] theorem names_nil : names ([] : List (ExecutionLevel R Uuid)) = [] := rfl

@[simp] theorem names_cons (level : ExecutionLevel R Uuid) (levels : List (ExecutionLevel R Uuid)) :
    names (level :: levels) = level.agents.map Agent.name ++ names levels := by simp [names]

@[simp] theorem names_append (xs ys : List (ExecutionLevel R Uuid)) :
    names (xs ++ ys) = names xs ++ names ys := by simp [names]

theorem mem_names {levels : List (ExecutionLevel R Uuid)} {level : ExecutionLevel R Uuid}
    {a : Agent R Uuid} (hl : level ∈ levels) (ha : a ∈ level.agents) : a.name ∈ names levels :=
  List.mem_map_of_mem (List.mem_flatMap.2 ⟨level, hl, ha⟩)

@[simp] theorem withResult_self (cache : AgentCache R) (name : String) (r : AgentResult R) :
    (cache.withResult name r).lastKnownResults name = some r := Function.update_self _ _ _

theorem withResult_of_ne {cache : AgentCache R} {name n : String} (r : AgentResult R)
    (h : n ≠ name) : (cache.withResult name r).lastKnownResults n = cache.lastKnownResults n :=
  Function.update_of_ne h _ _

end

/-- The arguments of one `run_tick` call, its cache and configuration apart. -/
structure Call (R Uuid : Type) where
  plan : ExecutionPlan R Uuid
  zoneId : Uuid
  simTime : Instant
  tickId : Nat
  contextBuilders : ContextBuilders R Uuid

/-- `run_tick` on a call. -/
def Call.run (c : Call R Uuid) (M : Math R) (config : SchedulerConfig R) (cache : AgentCache R) :
    Result (Results R × AgentCache R) :=
  runTick M c.plan c.zoneId c.simTime c.tickId c.contextBuilders cache config

/-- Some levels of a call's plan, run. -/
def Call.runLevels (c : Call R Uuid) (M : Math R) (config : SchedulerConfig R)
    (levels : List (ExecutionLevel R Uuid)) (results : Results R) (cache : AgentCache R) :
    Result (Results R × AgentCache R) :=
  Scheduler.runLevels M c.zoneId c.simTime c.tickId c.contextBuilders config levels results cache

/-- An agent's own outcome, given the earlier levels' results. -/
def Call.outcome (c : Call R Uuid) (results : Results R) (agent : Agent R Uuid) :
    Result (AgentResult R) :=
  match c.contextBuilders agent.name with
  | some builder => runAgent agent c.zoneId c.simTime c.tickId builder results
  | none => throw (.keyError agent.name)

/-- Every agent of the levels has a context builder. -/
def Call.Built (c : Call R Uuid) (levels : List (ExecutionLevel R Uuid)) : Prop :=
  ∀ name ∈ names levels, (c.contextBuilders name).isSome

/-- The results seen after `levels`: theirs where they ran an agent, `before` elsewhere. -/
def visible (levels : List (ExecutionLevel R Uuid)) (before after : Results R) : Results R :=
  fun name => if name ∈ names levels then after name else before name

/-! ## One level -/

omit [Field R] [LinearOrder R] in
theorem gather_eq {c : Call R Uuid} {level : ExecutionLevel R Uuid}
    (hb : ∀ a ∈ level.agents, (c.contextBuilders a.name).isSome) (results : Results R) :
    gather c.zoneId c.simTime c.tickId c.contextBuilders results level =
      .ok (level.agents.map fun a => (a.name, c.outcome results a)) := by
  unfold gather
  generalize level.agents = agents at hb
  induction agents with
  | nil => rfl
  | cons a agents ih =>
    obtain ⟨b, hb'⟩ := Option.isSome_iff_exists.1 (hb a (by simp))
    rw [List.mapM_cons, ih fun x hx => hb x (by simp [hx])]
    simp [Call.outcome, hb']

/-! ## Context builders -/

section
variable {zoneId : Uuid} {simTime : Instant} {tickId : Nat}
  {contextBuilders contextBuilders' : ContextBuilders R Uuid}

/-- A tick asks every context builder for its own zone and time. -/
theorem runLevels_congr {M : Math R} {config : SchedulerConfig R}
    (h : ∀ name, (contextBuilders' name).map (fun b => b zoneId simTime tickId) =
      (contextBuilders name).map fun b => b zoneId simTime tickId)
    (levels : List (ExecutionLevel R Uuid)) (results : Results R) (cache : AgentCache R) :
    Scheduler.runLevels M zoneId simTime tickId contextBuilders' config levels results cache =
      Scheduler.runLevels M zoneId simTime tickId contextBuilders config levels results cache := by
  induction levels generalizing results cache with
  | nil => rfl
  | cons level levels ih =>
    have hgather : gather zoneId simTime tickId contextBuilders' results level =
        gather zoneId simTime tickId contextBuilders results level := by
      refine congrArg level.agents.mapM (funext fun agent => ?_)
      have hname := h agent.name
      cases hb : contextBuilders agent.name <;> cases hb' : contextBuilders' agent.name <;>
        simp only [hb, hb', Option.map_none, Option.map_some] at hname ⊢
      · cases hname
      · cases hname
      · rw [runAgent, runAgent, Option.some.inj hname]
    unfold Scheduler.runLevels
    simp only [hgather, ih]

end

/-- What a tick makes of one agent: its own outcome, its cache entry before, the result and its cache
entry after. -/
inductive Settled (M : Math R) (simTime : Instant) (config : SchedulerConfig R) :
    Result (AgentResult R) → Option (AgentResult R) → AgentResult R → AgentResult R → Prop
  | genuine (r : AgentResult R) (before : Option (AgentResult R)) :
    Settled M simTime config (.ok r) before r r
  | lastKnown (e : Exc) (s : AgentResult R) :
    Settled M simTime config (.error e) (some s)
      (decayConfidenceForStaleness M s simTime config) s

section
variable {M : Math R} {simTime : Instant} {config : SchedulerConfig R}

/-- A result is the agent's own or has the risk of its cache entry. -/
theorem Settled.own_or_cached {o : Result (AgentResult R)} {before : Option (AgentResult R)}
    {r s : AgentResult R} (h : Settled M simTime config o before r s) :
    o = .ok r ∨ ∃ c, before = some c ∧ r = decayConfidenceForStaleness M c simTime config := by
  cases h with
  | genuine => exact .inl rfl
  | lastKnown e s => exact .inr ⟨s, rfl, rfl⟩

/-- Every agent of `outcomes` is settled, and the other entries are left alone. -/
structure AllSettled (M : Math R) (simTime : Instant) (config : SchedulerConfig R)
    (outcomes : List (String × Result (AgentResult R))) (results : Results R) (cache : AgentCache R)
    (results' : Results R) (cache' : AgentCache R) : Prop where
  frame : ∀ name, name ∉ outcomes.map Prod.fst →
    results' name = results name ∧ cache'.lastKnownResults name = cache.lastKnownResults name
  settled : ∀ p ∈ outcomes, ∃ r s, results' p.1 = some r ∧ cache'.lastKnownResults p.1 = some s ∧
    Settled M simTime config p.2 (cache.lastKnownResults p.1) r s

variable {outcomes : List (String × Result (AgentResult R))} {results results' : Results R}
  {cache cache' : AgentCache R} {name : String} {outcome : Result (AgentResult R)}

/-- One more agent, settled first. -/
theorem AllSettled.cons {cache₁ : AgentCache R} {r s : AgentResult R}
    (hname : name ∉ outcomes.map Prod.fst)
    (hother : ∀ n, n ≠ name → cache₁.lastKnownResults n = cache.lastKnownResults n)
    (hs : cache₁.lastKnownResults name = some s)
    (hset : Settled M simTime config outcome (cache.lastKnownResults name) r s)
    (h : AllSettled M simTime config outcomes (Function.update results name (some r)) cache₁
      results' cache') :
    AllSettled M simTime config ((name, outcome) :: outcomes) results cache results' cache' where
  frame n hn := by
    obtain ⟨hne, hn⟩ : n ≠ name ∧ n ∉ outcomes.map Prod.fst := by simpa using hn
    have := h.frame n hn
    rwa [Function.update_of_ne hne, hother n hne] at this
  settled p hp := by
    rcases List.mem_cons.1 hp with rfl | hp
    · have := h.frame name hname
      rw [Function.update_self, hs] at this
      exact ⟨r, s, this.1, this.2, hset⟩
    · have hne : p.1 ≠ name := fun e => hname (List.mem_map.2 ⟨p, hp, e⟩)
      rw [← hother p.1 hne]
      exact h.settled p hp

/-- A level's loop settles every agent. -/
theorem settle_ok (hn : (outcomes.map Prod.fst).Nodup)
    (h : settle M simTime config outcomes results cache = .ok (results', cache')) :
    AllSettled M simTime config outcomes results cache results' cache' := by
  induction outcomes generalizing results cache with
  | nil =>
    cases h
    exact ⟨fun _ _ => ⟨rfl, rfl⟩, by simp⟩
  | cons p outcomes ih =>
    obtain ⟨name, outcome⟩ := p
    obtain ⟨hname, hn'⟩ := List.nodup_cons.1 hn
    cases outcome with
    | ok r =>
      exact .cons hname (fun n hne => withResult_of_ne r hne) (withResult_self cache name r)
        (.genuine r _) (ih hn' h)
    | error e =>
      unfold settle at h
      split at h
      · cases h
      · rename_i s hs
        exact .cons hname (fun _ _ => rfl) hs (hs ▸ .lastKnown e s) (ih hn' h)

/-- A level's loop raises iff some failed agent has no cache entry. -/
theorem settle_error (hn : (outcomes.map Prod.fst).Nodup) :
    (∃ e, settle M simTime config outcomes results cache = .error e) ↔
      ∃ p ∈ outcomes, (∃ e, p.2 = .error e) ∧ cache.lastKnownResults p.1 = none := by
  induction outcomes generalizing results cache with
  | nil => simp [settle]
  | cons p outcomes ih =>
    obtain ⟨name, outcome⟩ := p
    obtain ⟨hname, hn'⟩ := List.nodup_cons.1 hn
    cases outcome with
    | ok r =>
      have hne : ∀ p ∈ outcomes, p.1 ≠ name := fun p hp e =>
        hname (List.mem_map.2 ⟨p, hp, e⟩)
      unfold settle
      rw [ih hn']
      simp only [List.mem_cons, exists_eq_or_imp, reduceCtorEq, exists_false, false_and, false_or]
      refine exists_congr fun p => and_congr_right fun hp => ?_
      rw [withResult_of_ne r (hne p hp)]
    | error e =>
      unfold settle
      cases hc : cache.lastKnownResults name with
      | none => simp [hc]
      | some s => simp only [ih hn', List.mem_cons, exists_eq_or_imp, hc, reduceCtorEq, and_false, false_or]

theorem settle_error_kind {e : Exc}
    (h : settle M simTime config outcomes results cache = .error e) :
    ∃ msg, e = .noLastKnownResultError msg := by
  induction outcomes generalizing results cache with
  | nil => cases h
  | cons p outcomes ih =>
    obtain ⟨name, outcome⟩ := p
    cases outcome with
    | ok r => exact ih h
    | error e' =>
      unfold settle at h
      split at h
      · cases h
        exact ⟨_, rfl⟩
      · exact ih h

end

/-! ## One tick -/

section
variable {M : Math R} {config : SchedulerConfig R} {c : Call R Uuid}
  {levels : List (ExecutionLevel R Uuid)} {level : ExecutionLevel R Uuid}
  {results results' : Results R} {cache cache' : AgentCache R}

omit [Field R] [LinearOrder R] in
theorem Call.Built.head (hb : c.Built (level :: levels)) :
    ∀ a ∈ level.agents, (c.contextBuilders a.name).isSome :=
  fun _ ha => hb _ (by simpa using .inl ⟨_, ha, rfl⟩)

omit [Field R] [LinearOrder R] in
theorem Call.Built.tail (hb : c.Built (level :: levels)) : c.Built levels :=
  fun n hn => hb n (by simp [hn])

/-- A level's outcomes. -/
def Call.outcomes (c : Call R Uuid) (results : Results R) (level : ExecutionLevel R Uuid) :
    List (String × Result (AgentResult R)) :=
  level.agents.map fun a => (a.name, c.outcome results a)

omit [Field R] [LinearOrder R] in
@[simp] theorem Call.outcomes_names (c : Call R Uuid) (results : Results R)
    (level : ExecutionLevel R Uuid) :
    (c.outcomes results level).map Prod.fst = level.agents.map Agent.name := by
  simp [Call.outcomes]

/-- With its builders present, a level is its loop over the outcomes. -/
theorem Call.runLevels_cons (hb : ∀ a ∈ level.agents, (c.contextBuilders a.name).isSome) :
    c.runLevels M config (level :: levels) results cache =
      (settle M c.simTime config (c.outcomes results level) results cache) >>=
        fun p => c.runLevels M config levels p.1 p.2 := by
  change Scheduler.runLevels M _ _ _ _ config (level :: levels) results cache = _
  rw [Scheduler.runLevels, gather_eq hb]
  rfl

/-- What running some levels makes of every agent: each sees the results of the levels before its
own. -/
structure LevelsSettled (M : Math R) (config : SchedulerConfig R) (c : Call R Uuid)
    (levels : List (ExecutionLevel R Uuid)) (results : Results R) (cache : AgentCache R)
    (results' : Results R) (cache' : AgentCache R) : Prop where
  frame : ∀ name, name ∉ names levels →
    results' name = results name ∧ cache'.lastKnownResults name = cache.lastKnownResults name
  settled : ∀ pre level post, levels = pre ++ level :: post → ∀ a ∈ level.agents, ∃ r s,
    results' a.name = some r ∧ cache'.lastKnownResults a.name = some s ∧
      Settled M c.simTime config (c.outcome (visible pre results results') a)
        (cache.lastKnownResults a.name) r s

omit [Field R] [LinearOrder R] in
@[simp] theorem visible_nil : visible ([] : List (ExecutionLevel R Uuid)) results results' = results := by
  funext n
  simp [visible]

omit [Field R] [LinearOrder R] in
/-- What the later levels see does not depend on where the first level's results are kept. -/
theorem visible_cons {results₁ : Results R} {pre : List (ExecutionLevel R Uuid)}
    (h1 : ∀ n, n ∉ level.agents.map Agent.name → results₁ n = results n)
    (h2 : ∀ n ∈ level.agents.map Agent.name, n ∉ names pre → results' n = results₁ n) :
    visible (level :: pre) results results' = visible pre results₁ results' := by
  funext n
  unfold visible
  by_cases hpre : n ∈ names pre
  · simp [hpre]
  · by_cases hl : n ∈ level.agents.map Agent.name
    · simp only [names_cons, List.mem_append, hl, true_or, ↓reduceIte, hpre, h2 n hl hpre]
    · simp only [names_cons, List.mem_append, hl, hpre, or_self, ↓reduceIte, h1 n hl]

theorem runLevels_ok (hn : (names levels).Nodup) (hb : c.Built levels)
    (h : c.runLevels M config levels results cache = .ok (results', cache')) :
    LevelsSettled M config c levels results cache results' cache' := by
  induction levels generalizing results cache with
  | nil =>
    cases h
    exact ⟨fun _ _ => ⟨rfl, rfl⟩, by simp⟩
  | cons level levels ih =>
    rw [Call.runLevels_cons hb.head] at h
    obtain ⟨⟨results₁, cache₁⟩, hs, h⟩ := Except.bind_eq_ok.1 h
    rw [names_cons, List.nodup_append'] at hn
    obtain ⟨hnl, hnls, hdisj⟩ := hn
    have hlevel := settle_ok (by simpa using hnl) hs
    have hframe := hlevel.frame
    rw [Call.outcomes_names] at hframe
    have hrest := ih hnls hb.tail h
    constructor
    · intro n hn
      rw [names_cons, List.mem_append, not_or] at hn
      exact ⟨(hrest.frame n hn.2).1.trans (hframe n hn.1).1,
        (hrest.frame n hn.2).2.trans (hframe n hn.1).2⟩
    · intro pre l post heq a ha
      cases pre with
      | nil =>
        obtain ⟨rfl, rfl⟩ := List.cons.inj heq
        obtain ⟨r, s, hr, hs, hset⟩ :=
          hlevel.settled (a.name, c.outcome results a) (List.mem_map_of_mem ha)
        have := hrest.frame a.name (hdisj (List.mem_map_of_mem ha))
        exact ⟨r, s, this.1.trans hr, this.2.trans hs, by rwa [visible_nil]⟩
      | cons l₀ pre =>
        obtain ⟨rfl, rfl⟩ := List.cons.inj heq
        obtain ⟨r, s, hr, hs, hset⟩ := hrest.settled pre l post rfl a ha
        have hmem : a.name ∈ names (pre ++ l :: post) := mem_names (by simp) ha
        have hview : visible (level :: pre) results results' = visible pre results₁ results' :=
          visible_cons (fun n hn => (hframe n hn).1) fun n hn _ => (hrest.frame n (hdisj hn)).1
        refine ⟨r, s, hr, hs, ?_⟩
        rwa [hview, ← (hframe a.name fun h => hdisj h hmem).2]

/-! ## What every result of a tick has -/

/-- Every result of the mapping has `P`. -/
def Results.All (P : AgentResult R → Prop) (results : Results R) : Prop :=
  ∀ name r, results name = some r → P r

omit [Field R] [LinearOrder R] in
theorem Results.All.update {P : AgentResult R → Prop} (h : Results.All P results) {name : String}
    {r : AgentResult R} (hr : P r) : Results.All P (Function.update results name (some r)) := by
  intro n x hx
  by_cases hn : n = name
  · subst hn
    rw [Function.update_self] at hx
    cases hx
    exact hr
  · rw [Function.update_of_ne hn] at hx
    exact h n x hx

/-- One level: the agents' own outcomes have `P` and may be cached (`Q`), the stand-ins of cached
results have `P`. -/
theorem settle_all {P Q : AgentResult R → Prop} {simTime : Instant}
    {outcomes : List (String × Result (AgentResult R))}
    (hdecay : ∀ r, Q r → P (decayConfidenceForStaleness M r simTime config))
    (ho : ∀ p ∈ outcomes, ∀ r, p.2 = .ok r → P r ∧ Q r) (hr : Results.All P results)
    (hc : Results.All Q cache.lastKnownResults)
    (h : settle M simTime config outcomes results cache = .ok (results', cache')) :
    Results.All P results' ∧ Results.All Q cache'.lastKnownResults := by
  induction outcomes generalizing results cache with
  | nil =>
    cases h
    exact ⟨hr, hc⟩
  | cons p outcomes ih =>
    obtain ⟨name, outcome⟩ := p
    have ho' := fun p hp => ho p (List.mem_cons_of_mem _ hp)
    cases outcome with
    | ok r =>
      obtain ⟨hP, hQ⟩ := ho (name, .ok r) (by simp) r rfl
      exact ih ho' (hr.update hP) (hc.update hQ) h
    | error e =>
      unfold settle at h
      split at h
      · cases h
      · rename_i s hs
        exact ih ho' (hr.update (hdecay s (hc name s hs))) hc h

/-- A tick, level by level: every agent sees only results that have `P`. -/
theorem runLevels_all {P Q : AgentResult R → Prop} (hb : c.Built levels)
    (hdecay : ∀ r, Q r → P (decayConfidenceForStaleness M r c.simTime config))
    (hown : ∀ level ∈ levels, ∀ a ∈ level.agents, ∀ seen : Results R, Results.All P seen →
      ∀ r, c.outcome seen a = .ok r → P r ∧ Q r)
    (hr : Results.All P results) (hc : Results.All Q cache.lastKnownResults)
    (h : c.runLevels M config levels results cache = .ok (results', cache')) :
    Results.All P results' ∧ Results.All Q cache'.lastKnownResults := by
  induction levels generalizing results cache with
  | nil =>
    cases h
    exact ⟨hr, hc⟩
  | cons level levels ih =>
    rw [Call.runLevels_cons hb.head] at h
    obtain ⟨⟨results₁, cache₁⟩, hs, h⟩ := Except.bind_eq_ok.1 h
    have hlevel := settle_all hdecay (fun p hp r hok => by
      obtain ⟨a, ha, rfl⟩ := List.mem_map.1 hp
      exact hown level (by simp) a ha results hr r hok) hr hc hs
    exact ih hb.tail (fun l hl => hown l (List.mem_cons_of_mem _ hl)) hlevel.1 hlevel.2 h

omit [Field R] [LinearOrder R] in
theorem Call.Built.left {pre post : List (ExecutionLevel R Uuid)} (hb : c.Built (pre ++ post)) :
    c.Built pre :=
  fun n hn => hb n (by simp [hn])

/-- Running some levels raises iff, once the levels before it have run, some level has a failed agent
without a cache entry. -/
theorem runLevels_error (hn : (names levels).Nodup) (hb : c.Built levels) :
    (∃ e, c.runLevels M config levels results cache = .error e) ↔
      ∃ pre level post, levels = pre ++ level :: post ∧ ∃ results₁ cache₁,
        c.runLevels M config pre results cache = .ok (results₁, cache₁) ∧
          ∃ a ∈ level.agents, (∃ e, c.outcome results₁ a = .error e) ∧
            cache.lastKnownResults a.name = none := by
  induction levels generalizing results cache with
  | nil => simp [Call.runLevels, Scheduler.runLevels]
  | cons level levels ih =>
    rw [names_cons, List.nodup_append'] at hn
    obtain ⟨hnl, hnls, hdisj⟩ := hn
    have hnl' : ((c.outcomes results level).map Prod.fst).Nodup := by simpa using hnl
    have hlevel : (∃ e, settle M c.simTime config (c.outcomes results level) results cache =
        .error e) ↔ ∃ a ∈ level.agents, (∃ e, c.outcome results a = .error e) ∧
          cache.lastKnownResults a.name = none := by
      rw [settle_error hnl']
      simp [Call.outcomes]
    rw [Call.runLevels_cons hb.head]
    cases hs : settle M c.simTime config (c.outcomes results level) results cache with
    | error e =>
      refine iff_of_true ⟨e, rfl⟩ ⟨[], level, levels, rfl, results, cache, rfl, ?_⟩
      exact hlevel.1 ⟨e, hs⟩
    | ok p =>
      obtain ⟨results₁, cache₁⟩ := p
      have hframe := (settle_ok hnl' hs).frame
      rw [Call.outcomes_names] at hframe
      have hcache : ∀ l ∈ levels, ∀ a ∈ l.agents,
          cache₁.lastKnownResults a.name = cache.lastKnownResults a.name := fun l hl a ha =>
        (hframe a.name fun h => hdisj h (mem_names hl ha)).2
      rw [Except.ok_bind, ih hnls hb.tail]
      constructor
      · rintro ⟨pre, l, post, rfl, r, c₁, hpre, a, ha, he, hc⟩
        refine ⟨level :: pre, l, post, rfl, r, c₁, ?_, a, ha, he, ?_⟩
        · have hb' : c.Built (level :: pre) := hb.left
          rw [Call.runLevels_cons hb'.head, hs]
          exact hpre
        · rwa [← hcache l (by simp) a ha]
      · rintro ⟨pre, l, post, heq, r, c₁, hpre, a, ha, he, hc⟩
        cases pre with
        | nil =>
          -- the first level has not failed
          obtain ⟨rfl, rfl⟩ := List.cons.inj heq
          cases hpre
          obtain ⟨e, he⟩ := hlevel.2 ⟨a, ha, he, hc⟩
          rw [hs] at he
          cases he
        | cons l₀ pre =>
          obtain ⟨rfl, rfl⟩ := List.cons.inj heq
          have hb' : c.Built (level :: pre) := hb.left
          rw [Call.runLevels_cons hb'.head, hs] at hpre
          exact ⟨pre, l, post, rfl, r, c₁, hpre, a, ha, he, by rwa [hcache l (by simp) a ha]⟩

theorem runLevels_error_kind (hb : c.Built levels) {e : Exc}
    (h : c.runLevels M config levels results cache = .error e) :
    ∃ msg, e = .noLastKnownResultError msg := by
  induction levels generalizing results cache with
  | nil => cases h
  | cons level levels ih =>
    rw [Call.runLevels_cons hb.head] at h
    rcases Except.bind_eq_error.1 h with h | ⟨p, -, h⟩
    · exact settle_error_kind h
    · exact ih hb.tail h

end

/-! ## Runs -/

section
omit [Field R] [LinearOrder R]

/-- An agent's place in a plan with distinct names is unique. -/
theorem place_unique {pre pre' post post' : List (ExecutionLevel R Uuid)}
    {level level' : ExecutionLevel R Uuid} {a a' : Agent R Uuid}
    (hn : (names (pre ++ level :: post)).Nodup) (h : pre ++ level :: post = pre' ++ level' :: post')
    (ha : a ∈ level.agents) (ha' : a' ∈ level'.agents) (hname : a.name = a'.name) :
    pre = pre' ∧ a = a' := by
  induction pre generalizing pre' with
  | nil =>
    rw [List.nil_append, names_cons, List.nodup_append'] at hn
    cases pre' with
    | nil =>
      obtain ⟨rfl, rfl⟩ := List.cons.inj h
      exact ⟨rfl, List.inj_on_of_nodup_map hn.1 ha ha' hname⟩
    | cons l pre' =>
      obtain ⟨rfl, rfl⟩ := List.cons.inj h
      exact absurd (hname ▸ mem_names (by simp) ha') (hn.2.2 (List.mem_map_of_mem ha))
  | cons l pre ih =>
    rw [List.cons_append, names_cons, List.nodup_append'] at hn
    cases pre' with
    | nil =>
      obtain ⟨rfl, rfl⟩ := List.cons.inj h
      exact absurd (hname ▸ mem_names (by simp) ha) (hn.2.2 (List.mem_map_of_mem ha'))
    | cons l' pre' =>
      obtain ⟨rfl, htail⟩ := List.cons.inj h
      obtain ⟨rfl, rfl⟩ := ih hn.2.1 htail
      exact ⟨rfl, rfl⟩

theorem exists_place {levels : List (ExecutionLevel R Uuid)} {name : String}
    (h : name ∈ names levels) : ∃ pre level post a,
      levels = pre ++ level :: post ∧ a ∈ level.agents ∧ a.name = name := by
  obtain ⟨a, ha, rfl⟩ := List.mem_map.1 h
  obtain ⟨level, hl, hal⟩ := List.mem_flatMap.1 ha
  obtain ⟨pre, post, rfl⟩ := List.append_of_mem hl
  exact ⟨pre, level, post, a, rfl, hal, rfl⟩

/-- A completed call and the results it returned. -/
structure Tick (R Uuid : Type) where
  call : Call R Uuid
  results : Results R

/-- What an agent sees of its tick: the results of the earlier levels. -/
def Tick.seen (t : Tick R Uuid) (pre : List (ExecutionLevel R Uuid)) : Results R :=
  visible pre (fun _ => none) t.results

/-- `r` is the outcome of the agent `name` itself in the tick. -/
def Genuine (name : String) (t : Tick R Uuid) (r : AgentResult R) : Prop :=
  ∃ pre level post a, t.call.plan.levels = pre ++ level :: post ∧ a ∈ level.agents ∧
    a.name = name ∧ t.call.outcome (t.seen pre) a = .ok r

/-- The agent `name` itself failed in the tick, and its entry of the cache, decayed, is its result. -/
def FellBack (M : Math R) (config : SchedulerConfig R) (cache : AgentCache R) (name : String)
    (t : Tick R Uuid) : Prop :=
  ∃ pre level post a, t.call.plan.levels = pre ++ level :: post ∧ a ∈ level.agents ∧ a.name = name ∧
    ∃ e last, t.call.outcome (t.seen pre) a = .error e ∧ cache.lastKnownResults name = some last ∧
      t.results name = some (decayConfidenceForStaleness M last t.call.simTime config)

/-- An agent is looked up at its only place. -/
theorem genuine_iff {t : Tick R Uuid} (hn : (names t.call.plan.levels).Nodup)
    {pre post : List (ExecutionLevel R Uuid)} {level : ExecutionLevel R Uuid} {a : Agent R Uuid}
    (heq : t.call.plan.levels = pre ++ level :: post) (ha : a ∈ level.agents) {b : AgentResult R} :
    Genuine a.name t b ↔ t.call.outcome (t.seen pre) a = .ok b := by
  constructor
  · rintro ⟨pre', level', post', a', heq', ha', hname, hb⟩
    rw [heq] at hn
    obtain ⟨rfl, rfl⟩ := place_unique hn (heq.symm.trans heq') ha ha' hname.symm
    exact hb
  · exact fun hb => ⟨pre, level, post, a, heq, ha, rfl, hb⟩

end

/-- A run of calls: the cache to pass next, and the completed calls. -/
structure Thread (R Uuid : Type) where
  cache : AgentCache R := {}
  history : List (Tick R Uuid) := []

/-- One call; one that raises keeps the cache. -/
def Thread.step (M : Math R) (config : SchedulerConfig R) (s : Thread R Uuid) (c : Call R Uuid) :
    Thread R Uuid :=
  match c.run M config s.cache with
  | .ok (results, cache) => ⟨cache, s.history ++ [⟨c, results⟩]⟩
  | .error _ => s

/-- The calls in order, from the empty cache. -/
def thread (M : Math R) (config : SchedulerConfig R) (calls : List (Call R Uuid)) :
    Thread R Uuid :=
  calls.foldl (Thread.step M config) {}

/-- Distinct names, a builder for every agent, no negative confidence. -/
structure Call.Proper (c : Call R Uuid) : Prop where
  nodup : (names c.plan.levels).Nodup
  built : c.Built c.plan.levels
  confidence_nonneg : ∀ level ∈ c.plan.levels, ∀ a ∈ level.agents, ∀ input r,
    a.evaluate input = .ok r → 0 ≤ r.confidence

section
variable {M : Math R} {config : SchedulerConfig R} {c : Call R Uuid} {results : Results R}
  {cache cache' : AgentCache R}

theorem run_settled (hc : c.Proper) (h : c.run M config cache = .ok (results, cache')) :
    LevelsSettled M config c c.plan.levels (fun _ => none) cache results cache' :=
  runLevels_ok hc.nodup hc.built h

/-- A completed call either records an agent's own outcome, in the cache too, or keeps the entry. -/
theorem run_cache (hc : c.Proper) (h : c.run M config cache = .ok (results, cache'))
    (name : String) :
    (∃ r, (∀ b, Genuine name ⟨c, results⟩ b ↔ b = r) ∧ cache'.lastKnownResults name = some r) ∨
      (∀ b, ¬Genuine name ⟨c, results⟩ b) ∧
        cache'.lastKnownResults name = cache.lastKnownResults name := by
  have hs := run_settled hc h
  by_cases hname : name ∈ names c.plan.levels
  · obtain ⟨pre, level, post, a, heq, ha, rfl⟩ := exists_place hname
    obtain ⟨r, s, hr, hs, hset⟩ := hs.settled pre level post heq a ha
    have hu : ∀ b, Genuine a.name ⟨c, results⟩ b →
        c.outcome (visible pre (fun _ => none) results) a = .ok b :=
      fun b => (genuine_iff hc.nodup heq ha).1
    cases ho : c.outcome (visible pre (fun _ => none) results) a with
    | ok b =>
      rw [ho] at hset
      cases hset
      refine .inl ⟨r, fun b' => ⟨fun hb' => ?_, ?_⟩, hs⟩
      · exact Except.ok.inj ((hu b' hb').symm.trans ho)
      · rintro rfl
        exact ⟨pre, level, post, a, heq, ha, rfl, ho⟩
    | error e =>
      refine .inr ⟨fun b hb => ?_, ?_⟩
      · cases (hu b hb).symm.trans ho
      · rw [ho] at hset
        generalize hb : cache.lastKnownResults a.name = before at hset
        cases hset
        exact hs
  · refine .inr ⟨?_, (hs.frame name hname).2⟩
    rintro b ⟨pre, level, post, a, heq, ha, rfl, -⟩
    exact hname (heq ▸ mem_names (by simp) ha)

/-- The cache holds every agent's most recent genuine success. -/
def Thread.Coherent (s : Thread R Uuid) : Prop :=
  ∀ name r, s.cache.lastKnownResults name = some r ↔ MostRecent (Genuine name) s.history r

theorem coherent_concat {s : Thread R Uuid} (hs : s.Coherent) (hc : c.Proper)
    (h : c.run M config s.cache = .ok (results, cache')) :
    Thread.Coherent ⟨cache', s.history ++ [⟨c, results⟩]⟩ := by
  intro name r
  rcases run_cache hc h name with ⟨b, hb, hcache⟩ | ⟨hb, hcache⟩
  · rw [MostRecent.concat_iff hb, hcache, Option.some.injEq]
    exact eq_comm
  · rw [MostRecent.concat_of_not hb, hcache]
    exact hs name r

theorem thread_coherent {calls : List (Call R Uuid)} (hcalls : ∀ c ∈ calls, c.Proper) :
    (thread M config calls).Coherent := by
  unfold thread
  induction calls using List.reverseRecOn with
  | nil =>
    intro name r
    exact iff_of_false nofun MostRecent.not_nil
  | append_singleton calls c ih =>
    have hs := ih fun c hc => hcalls c (by simp [hc])
    rw [List.foldl_append]
    change Thread.Coherent (Thread.step M config _ c)
    unfold Thread.step
    split
    · exact coherent_concat hs (hcalls c (by simp)) ‹_›
    · exact hs

/-- The completed calls of a run are calls of the run. -/
theorem thread_history {calls : List (Call R Uuid)} :
    ∀ t ∈ (thread M config calls).history, t.call ∈ calls := by
  unfold thread
  induction calls using List.reverseRecOn with
  | nil => exact nofun
  | append_singleton calls c ih =>
    rw [List.foldl_append]
    change ∀ t ∈ (Thread.step M config _ c).history, _
    unfold Thread.step
    intro t ht
    split at ht
    · rcases List.mem_append.1 ht with ht | ht
      · exact List.mem_append_left _ (ih t ht)
      · cases List.mem_singleton.1 ht
        simp
    · exact List.mem_append_left _ (ih t ht)

theorem genuine_confidence_nonneg {t : Tick R Uuid} (hc : t.call.Proper) {name : String}
    {r : AgentResult R} (h : Genuine name t r) : 0 ≤ r.confidence := by
  obtain ⟨pre, level, post, a, heq, ha, -, ho⟩ := h
  unfold Call.outcome at ho
  split at ho
  · obtain ⟨input, -, hr⟩ := Except.bind_eq_ok.1 ho
    exact hc.confidence_nonneg level (heq ▸ by simp) a ha input r hr
  · cases ho

/-- The law of a completed call after the completed calls `history`. -/
structure TickLaw (M : Math R) (config : SchedulerConfig R) (history : List (Tick R Uuid))
    (t : Tick R Uuid) (cache' : AgentCache R) : Prop where
  /-- exactly the plan's agents have a result -/
  results_iff : ∀ name, (t.results name).isSome ↔ name ∈ names t.call.plan.levels
  /-- an agent that succeeds reports its own outcome -/
  genuine : ∀ pre level post a, t.call.plan.levels = pre ++ level :: post → a ∈ level.agents →
    ∀ r, t.call.outcome (t.seen pre) a = .ok r → t.results a.name = some r
  /-- an agent that fails reports its most recent success, decayed since that success -/
  lastKnown : ∀ pre level post a, t.call.plan.levels = pre ++ level :: post → a ∈ level.agents →
    ∀ e, t.call.outcome (t.seen pre) a = .error e →
      ∃ s d, MostRecent (Genuine a.name) history s ∧ t.results a.name = some d ∧ d.risk = s.risk ∧
        d.confidence = s.confidence * M.exp (-config.stalenessDecayLambda *
          max (minutes (t.call.simTime - s.computedAt)) 0) ∧ d.confidence ≤ s.confidence
  /-- the returned cache holds every agent's most recent success -/
  cache_iff : ∀ name r, cache'.lastKnownResults name = some r ↔
    MostRecent (Genuine name) (history ++ [t]) r

/-- **Runs of the scheduler.** After any run of proper calls, a call that completes follows
`TickLaw`, and a call raises `NoLastKnownResultError` iff an agent that it runs fails and never
succeeded in a completed call. -/
theorem run_law [IsStrictOrderedRing R] (M : Math R) (config : SchedulerConfig R)
    (hdecay : 0 ≤ config.stalenessDecayLambda) (calls : List (Call R Uuid))
    (hcalls : ∀ c ∈ calls, c.Proper) (c : Call R Uuid) (hc : c.Proper) :
    (∀ results cache', c.run M config (thread M config calls).cache = .ok (results, cache') →
      TickLaw M config (thread M config calls).history ⟨c, results⟩ cache') ∧
    ((∃ msg, c.run M config (thread M config calls).cache =
        .error (.noLastKnownResultError msg)) ↔
      ∃ pre level post, c.plan.levels = pre ++ level :: post ∧ ∃ results₁ cache₁,
        c.runLevels M config pre (fun _ => none) (thread M config calls).cache =
          .ok (results₁, cache₁) ∧
        ∃ a ∈ level.agents, (∃ e, c.outcome results₁ a = .error e) ∧
          ∀ t ∈ (thread M config calls).history, ∀ r, ¬Genuine a.name t r) := by
  have hthread : (thread M config calls).Coherent := thread_coherent hcalls
  constructor
  · intro results cache' h
    have hs := run_settled hc h
    have hcache := coherent_concat hthread hc h
    refine ⟨fun name => ?_, fun pre level post a heq ha r ho => ?_,
      fun pre level post a heq ha e ho => ?_, hcache⟩
    · by_cases hname : name ∈ names c.plan.levels
      · obtain ⟨pre, level, post, a, heq, ha, rfl⟩ := exists_place hname
        obtain ⟨r, s, hr, -⟩ := hs.settled pre level post heq a ha
        simp [hr, hname]
      · simp [(hs.frame name hname).1, hname]
    · obtain ⟨r', s, hr, -, hset⟩ := hs.settled pre level post heq a ha
      change Settled M _ config (c.outcome (visible pre _ results) a) _ _ _ at hset
      rw [show c.outcome (visible pre (fun _ => none) results) a = .ok r from ho] at hset
      cases hset
      exact hr
    · obtain ⟨d, s, hr, -, hset⟩ := hs.settled pre level post heq a ha
      rw [show c.outcome (visible pre (fun _ => none) results) a = .error e from ho] at hset
      generalize hb : (thread M config calls).cache.lastKnownResults a.name = before at hset
      cases hset
      have hrecent := (hthread a.name s).1 hb
      refine ⟨s, _, hrecent, hr, rfl, rfl, ?_⟩
      -- the factor is at most 1
      obtain ⟨t, ht, hgen⟩ := hrecent.exists_mem
      have hnonneg := genuine_confidence_nonneg (hcalls _ (thread_history t ht)) hgen
      exact mul_le_of_le_one_right hnonneg (M.decay_le_one hdecay (le_max_right _ _))
  · have hkind : (∃ msg, c.run M config (thread M config calls).cache =
        .error (.noLastKnownResultError msg)) ↔
        ∃ e, c.run M config (thread M config calls).cache = .error e := by
      constructor
      · rintro ⟨msg, h⟩
        exact ⟨_, h⟩
      · rintro ⟨e, h⟩
        obtain ⟨msg, rfl⟩ := runLevels_error_kind hc.built h
        exact ⟨msg, h⟩
    have hnever : ∀ name, (thread M config calls).cache.lastKnownResults name = none ↔
        ∀ t ∈ (thread M config calls).history, ∀ r, ¬Genuine name t r := by
      intro name
      rw [Option.eq_none_iff_forall_not_mem]
      simp only [Option.mem_def, hthread name]
      rw [← not_exists, MostRecent.exists_iff]
      simp only [not_exists, not_and]
    rw [hkind]
    refine (runLevels_error hc.nodup hc.built).trans ?_
    simp only [hnever]

end

/-- A plan of one agent, which reports on the first tick only. -/
def probe : Agent ℚ Unit where
  name := "probe"
  evaluate input :=
    if input.tickId = 0 then
      pure ⟨"probe", 30, 1, ⟨[], .lastKnown 0 0 0⟩, input.simTime, 1⟩
    else throw (.valueError "no report")

def probeCall (simTime : Instant) (tickId : Nat) : Call ℚ Unit where
  plan := ⟨[⟨[probe]⟩]⟩
  zoneId := ()
  simTime := simTime
  tickId := tickId
  contextBuilders name :=
    if name = "probe" then some fun z t i _ => pure { zoneId := z, simTime := t, tickId := i }
    else none

theorem probeCall_proper (simTime : Instant) (tickId : Nat) : (probeCall simTime tickId).Proper where
  nodup := by simp [probeCall, names]
  built := by simp [probeCall, Call.Built, names, probe]
  confidence_nonneg := by
    intro level hl a ha input r h
    cases List.mem_singleton.1 hl
    cases List.mem_singleton.1 ha
    unfold probe at h
    dsimp only at h
    split at h
    · cases h
      exact zero_le_one
    · cases h

/-- Five minutes after its only report, the agent fails: the second call follows the law. -/
theorem run_law_probe :
    ∃ results cache', (probeCall 300000000 1).run Math.dyadic (SchedulerConfig.default Math.dyadic)
        (thread Math.dyadic (SchedulerConfig.default Math.dyadic) [probeCall 0 0]).cache =
          .ok (results, cache') ∧
      TickLaw Math.dyadic (SchedulerConfig.default Math.dyadic)
        (thread Math.dyadic (SchedulerConfig.default Math.dyadic) [probeCall 0 0]).history
        ⟨probeCall 300000000 1, results⟩ cache' :=
  ⟨_, _, rfl, (run_law Math.dyadic (SchedulerConfig.default Math.dyadic) (by decide +kernel)
    [probeCall 0 0] (by simpa using probeCall_proper 0 0) (probeCall 300000000 1)
    (probeCall_proper 300000000 1)).1 _ _ rfl⟩

end Scheduler
