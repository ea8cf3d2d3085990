import IndustrialSafety.Frontend.DependencyGraph
import IndustrialSafety.Lib.Fuel
import IndustrialSafety.Lib.Height
import Mathlib.Data.Finset.Card
import Mathlib.Data.Finset.SDiff

/-!
# The levels of the dependency graph

A call visits one more action than the call it is made in, so a fuel above the number of actions
suffices (`levelOf_isSome`). Without a cycle no call meets an action that is being visited, so every
level is the length of a longest chain when it is stored (`levelOf_height`); the order of the visits
does not matter (`buildDependencyLevels_layering`).
-/

namespace Frontend

open Height Relation

variable {actions : List PrioritizedAction}

/-- `depId` is a dependency of the action, and in the queue. -/
def DependsOn (actions : List PrioritizedAction) (actionId depId : Option String) : Prop :=
  ∃ action ∈ actions, action.id = actionId ∧ depId ∈ action.dependencyLabels.map some ∧
    depId ∈ actions.map PrioritizedAction.id

theorem byId_isSome {id : Option String} :
    (byId actions id).isSome ↔ id ∈ actions.map PrioritizedAction.id := by
  simp [byId]

/-- Distinct ids name the actions. -/
theorem byId_eq_some (hids : (actions.map PrioritizedAction.id).Nodup) {id : Option String}
    {action : PrioritizedAction} : byId actions id = some action ↔ action ∈ actions ∧ action.id = id := by
  constructor
  · intro h
    exact ⟨List.mem_reverse.1 (List.mem_of_find?_eq_some h), by simpa using List.find?_some h⟩
  · rintro ⟨hmem, rfl⟩
    obtain ⟨found, hfound⟩ := Option.isSome_iff_exists.1
      (byId_isSome.2 (List.mem_map_of_mem (f := PrioritizedAction.id) hmem))
    have hid : found.id = action.id := by simpa using List.find?_some hfound
    have hsame : found = action :=
      List.inj_on_of_nodup_map hids (List.mem_reverse.1 (List.mem_of_find?_eq_some hfound)) hmem hid
    rw [hfound, hsame]

theorem mem_presentDeps (hids : (actions.map PrioritizedAction.id).Nodup) {id depId : Option String} :
    depId ∈ presentDeps actions id ↔ DependsOn actions id depId := by
  unfold presentDeps DependsOn
  cases hfound : byId actions id with
  | none =>
    refine iff_of_false List.not_mem_nil ?_
    rintro ⟨action, hmem, hid, -⟩
    cases hfound.symm.trans ((byId_eq_some hids).2 ⟨hmem, hid⟩)
  | some action =>
    obtain ⟨hmem, hid⟩ := (byId_eq_some hids).1 hfound
    rw [List.mem_filter, byId_isSome]
    constructor
    · rintro ⟨hlabel, hpresent⟩
      exact ⟨action, hmem, hid, hlabel, hpresent⟩
    · rintro ⟨action', hmem', hid', hdep⟩
      cases hfound.symm.trans ((byId_eq_some hids).2 ⟨hmem', hid'⟩)
      exact hdep

/-! ## One call -/

/-- What a call does: the level is known, or the id is on the way to itself, or it has no dependencies,
or the levels of the dependencies give its own. -/
theorem levelOf_eq_some {fuel : ℕ} {id : Option String} {visiting : Finset (Option String)}
    {levelById levelById' : LevelById} {level : ℕ} :
    levelOf actions (fuel + 1) id visiting levelById = some (level, levelById') ↔
      levelById id = some level ∧ levelById' = levelById ∨
      levelById id = none ∧ id ∈ visiting ∧ level = 0 ∧ levelById' = levelById ∨
      levelById id = none ∧ id ∉ visiting ∧ presentDeps actions id = [] ∧ level = 0 ∧
        levelById' = levelById.set id 0 ∨
      levelById id = none ∧ id ∉ visiting ∧ presentDeps actions id ≠ [] ∧ ∃ levels below,
        (presentDeps actions id).mapM (fun depId => levelOf actions fuel depId (insert id visiting))
          levelById = some (levels, below) ∧ level = 1 + levels.max?.getD 0 ∧
            levelById' = below.set id level := by
  rw [levelOf]
  dsimp only
  cases hknown : levelById id with
  | some known => simp [eq_comm]
  | none =>
    by_cases hvisiting : id ∈ visiting
    · simp [hvisiting, eq_comm]
    · by_cases hdeps : presentDeps actions id = []
      · simp [hvisiting, hdeps, eq_comm]
      · rw [if_neg hvisiting, if_neg hdeps, Option.bind_eq_bind, Option.bind_eq_some_iff]
        simp only [Prod.exists, Option.some.injEq, Prod.mk.injEq, reduceCtorEq, false_and, false_or,
          hvisiting, hdeps, and_false, not_false_eq_true, ne_eq, true_and]
        refine exists_congr fun levels => exists_congr fun below => and_congr_right fun _ => ?_
        constructor
        · rintro ⟨rfl, rfl⟩
          exact ⟨rfl, rfl⟩
        · rintro ⟨rfl, rfl⟩
          exact ⟨rfl, rfl⟩

/-! ## Termination -/

/-- Every nested call visits one more action of the queue. -/
theorem levelOf_isSome {fuel : ℕ} {id : Option String} {visiting : Finset (Option String)}
    (hfuel : ((actions.map PrioritizedAction.id).toFinset \ visiting).card < fuel)
    (levelById : LevelById) : (levelOf actions fuel id visiting levelById).isSome := by
  induction fuel generalizing id visiting levelById with
  | zero => exact absurd hfuel (Nat.not_lt_zero _)
  | succ fuel ih =>
    rw [Option.isSome_iff_exists]
    simp only [Prod.exists, levelOf_eq_some]
    cases hknown : levelById id with
    | some known => exact ⟨known, levelById, .inl ⟨rfl, rfl⟩⟩
    | none =>
      by_cases hvisiting : id ∈ visiting
      · exact ⟨0, levelById, .inr (.inl ⟨rfl, hvisiting, rfl, rfl⟩)⟩
      by_cases hdeps : presentDeps actions id = []
      · exact ⟨0, _, .inr (.inr (.inl ⟨rfl, hvisiting, hdeps, rfl, rfl⟩))⟩
      have hid : id ∈ (actions.map PrioritizedAction.id).toFinset := by
        rw [List.mem_toFinset, ← byId_isSome, Option.isSome_iff_ne_none]
        intro hnone
        exact hdeps (by rw [presentDeps, hnone])
      have hless : ((actions.map PrioritizedAction.id).toFinset \ insert id visiting).card < fuel := by
        rw [Finset.sdiff_insert]
        have herase := Finset.card_erase_lt_of_mem (Finset.mem_sdiff.2 ⟨hid, hvisiting⟩)
        omega
      obtain ⟨⟨levels, below⟩, hlevels⟩ := Option.isSome_iff_exists.1
        (Fuel.mapM_isSome (l := presentDeps actions id)
          (f := fun depId => levelOf actions fuel depId (insert id visiting))
          (fun depId _ levelById => ih hless levelById) levelById)
      exact ⟨_, _, .inr (.inr (.inr ⟨rfl, hvisiting, hdeps, levels, below, hlevels, rfl, rfl⟩))⟩

/-- More fuel changes nothing. -/
theorem levelOf_mono {fuel fuel' : ℕ} (hle : fuel ≤ fuel') {id : Option String}
    {visiting : Finset (Option String)} {levelById : LevelById} {p : ℕ × LevelById}
    (h : levelOf actions fuel id visiting levelById = some p) :
    levelOf actions fuel' id visiting levelById = some p := by
  obtain ⟨level, levelById'⟩ := p
  induction fuel generalizing fuel' id visiting levelById level levelById' with
  | zero => cases h
  | succ fuel ih =>
    obtain ⟨fuel', rfl⟩ : ∃ k, fuel' = k + 1 := ⟨fuel' - 1, by omega⟩
    rw [levelOf_eq_some] at h ⊢
    refine h.imp_right (Or.imp_right (Or.imp_right ?_))
    rintro ⟨hnew, hvisiting, hdeps, levels, below, hlevels, hlevel, hset⟩
    refine ⟨hnew, hvisiting, hdeps, levels, below, ?_, hlevel, hset⟩
    exact Fuel.mapM_mono (fun depId _ _ _ hdep => ih (by omega) _ _ hdep) hlevels

/-! ## The levels without cycles -/

/-- Every level is the length of the longest chain of dependencies. -/
def Correct (actions : List PrioritizedAction) (levelById : LevelById) : Prop :=
  ∀ id level, levelById id = some level → IsHeight (DependsOn actions) id level

theorem Correct.set {levelById : LevelById} (h : Correct actions levelById) {id : Option String}
    {level : ℕ} (hid : IsHeight (DependsOn actions) id level) :
    Correct actions (levelById.set id level) := by
  intro other n hn
  unfold LevelById.set at hn
  by_cases hsame : other = id
  · rw [hsame, Function.update_self] at hn
    rw [hsame, ← Option.some.inj hn]
    exact hid
  · rw [Function.update_of_ne hsame] at hn
    exact h other n hn

/-- The levels that are known stay known. -/
def Extends (levelById levelById' : LevelById) : Prop :=
  ∀ id, (levelById id).isSome → (levelById' id).isSome

theorem extends_set (levelById : LevelById) (id : Option String) (level : ℕ) :
    Extends levelById (levelById.set id level) := by
  intro other hother
  unfold LevelById.set
  by_cases hsame : other = id
  · rw [hsame, Function.update_self]
    rfl
  · rwa [Function.update_of_ne hsame]

theorem levelOf_height (hids : (actions.map PrioritizedAction.id).Nodup)
    (hacyclic : ∀ id, ¬TransGen (DependsOn actions) id id) {fuel : ℕ} {id : Option String}
    {visiting : Finset (Option String)} {levelById levelById' : LevelById} {level : ℕ}
    (hvisiting : ∀ v ∈ visiting, TransGen (DependsOn actions) v id)
    (hcorrect : Correct actions levelById)
    (h : levelOf actions fuel id visiting levelById = some (level, levelById')) :
    (Correct actions levelById' ∧ Extends levelById levelById' ∧ (levelById' id).isSome) ∧
      IsHeight (DependsOn actions) id level := by
  induction fuel generalizing id visiting levelById level levelById' with
  | zero => cases h
  | succ fuel ih =>
    rcases levelOf_eq_some.1 h with ⟨hknown, rfl⟩ | ⟨-, hcycle, -⟩ | ⟨-, -, hdeps, rfl, rfl⟩ |
      ⟨-, -, hdeps, levels, below, hlevels, rfl, rfl⟩
    · exact ⟨⟨hcorrect, fun _ hother => hother, by rw [hknown]; rfl⟩, hcorrect id level hknown⟩
    · exact absurd (hvisiting id hcycle) (hacyclic id)
    · have hid : IsHeight (DependsOn actions) id 0 := isHeight_zero fun depId hdep => by
        rw [← mem_presentDeps hids, hdeps] at hdep
        cases hdep
      exact ⟨⟨hcorrect.set hid, extends_set _ _ _, by simp [LevelById.set]⟩, hid⟩
    · -- what is visited leads to the id, so also to its dependencies
      obtain ⟨⟨hbelow, hextends⟩, hheights⟩ := Fuel.mapM_spec
        (I := fun below => Correct actions below ∧ Extends levelById below)
        (S := IsHeight (DependsOn actions)) (fun depId hdep below depLevel below' hbelow hcall => by
          have hdepends := (mem_presentDeps hids).1 hdep
          have hpath : ∀ v ∈ insert id visiting, TransGen (DependsOn actions) v depId := by
            intro v hv
            rcases Finset.mem_insert.1 hv with rfl | hv
            · exact .single hdepends
            · exact (hvisiting v hv).tail hdepends
          obtain ⟨⟨hcorrect', hextends', -⟩, hheight⟩ := ih hpath hbelow.1 hcall
          exact ⟨⟨hcorrect', fun other hother => hextends' other (hbelow.2 other hother)⟩, hheight⟩)
        ⟨hcorrect, fun _ hother => hother⟩ hlevels
      obtain ⟨m, hm⟩ : ∃ m, levels.max? = some m := by
        rw [← Option.isSome_iff_exists, List.isSome_max?_iff]
        rintro rfl
        exact hdeps (List.forall₂_nil_right_iff.1 hheights)
      have hid : IsHeight (DependsOn actions) id (1 + levels.max?.getD 0) := by
        rw [hm]
        exact isHeight_succ (fun depId => (mem_presentDeps hids).symm) hheights hm
      refine ⟨⟨hbelow.set hid, fun other hother => ?_, by simp [LevelById.set]⟩, hid⟩
      exact extends_set _ _ _ other (hextends other hother)

/-! ## The first loop -/

/-- The loop returns the same levels with any fuel above the number of actions. -/
theorem assignLevels_total (actions : List PrioritizedAction) (order : List (Option String)) :
    ∃ levelById, ∀ fuel, actions.length < fuel → assignLevels actions fuel order = some levelById := by
  have hcard : (((actions.map PrioritizedAction.id).toFinset) \ ∅).card < actions.length + 1 := by
    rw [Finset.sdiff_empty]
    exact Nat.lt_succ_of_le ((List.toFinset_card_le _).trans_eq (List.length_map _))
  obtain ⟨⟨levels, levelById⟩, hrun⟩ := Option.isSome_iff_exists.1
    (Fuel.mapM_isSome (l := order) (f := fun id => levelOf actions (actions.length + 1) id ∅)
      (fun id _ levelById => levelOf_isSome hcard levelById) fun _ => none)
  refine ⟨levelById, fun fuel hfuel => ?_⟩
  rw [assignLevels, Fuel.mapM_mono (g := fun id => levelOf actions fuel id ∅)
    (fun id _ _ _ h => levelOf_mono hfuel h) hrun]
  rfl

theorem mapM_levelOf_height (hids : (actions.map PrioritizedAction.id).Nodup)
    (hacyclic : ∀ id, ¬TransGen (DependsOn actions) id id) {fuel : ℕ} {order : List (Option String)}
    {levelById levelById' : LevelById} {levels : List ℕ} (hcorrect : Correct actions levelById)
    (h : order.mapM (fun id => levelOf actions fuel id ∅) levelById = some (levels, levelById')) :
    Correct actions levelById' ∧ Extends levelById levelById' ∧
      ∀ id ∈ order, (levelById' id).isSome := by
  induction order generalizing levelById levels with
  | nil =>
    cases h
    exact ⟨hcorrect, fun _ hother => hother, nofun⟩
  | cons id order ih =>
    obtain ⟨level, between, levels', hlevel, hrest, rfl⟩ := Fuel.mapM_cons_eq_some.1 h
    obtain ⟨⟨hbetween, hextends, hid⟩, -⟩ := levelOf_height hids hacyclic
      (fun v hv => absurd hv (Finset.notMem_empty v)) hcorrect hlevel
    obtain ⟨hcorrect', hextends', horder⟩ := ih hbetween hrest
    exact ⟨hcorrect', fun other hother => hextends' other (hextends other hother),
      List.forall_mem_cons.2 ⟨hextends' id hid, horder⟩⟩

/-- Whatever the order of the visits, the levels are the lengths of the longest chains. -/
theorem assignLevels_height (hids : (actions.map PrioritizedAction.id).Nodup)
    (hacyclic : ∀ id, ¬TransGen (DependsOn actions) id id) {fuel : ℕ} {order : List (Option String)}
    {levelById : LevelById} (h : assignLevels actions fuel order = some levelById) {id : Option String}
    (hid : id ∈ order) : IsHeight (DependsOn actions) id ((levelById id).getD 0) := by
  obtain ⟨⟨levels, levelById'⟩, hrun, rfl⟩ := Option.map_eq_some_iff.1 h
  obtain ⟨hcorrect, -, hvisited⟩ := mapM_levelOf_height hids hacyclic (fun _ _ h => by cases h) hrun
  obtain ⟨level, hlevel⟩ := Option.isSome_iff_exists.1 (hvisited id hid)
  dsimp only
  rw [hlevel]
  exact hcorrect id level hlevel

/-! ## The second loop -/

/-- Every action is on one level, in the order of the input. -/
structure Layering (actions : List PrioritizedAction) (levels : List DependencyGraphLevel) : Prop where
  ascending : levels.Pairwise fun l l' => l.level < l'.level
  exactlyOne : ∀ action ∈ actions, ∃! l, l ∈ levels ∧ action ∈ l.actions
  inputOrder : ∀ l ∈ levels, l.actions ≠ [] ∧ l.actions.Sublist actions

theorem mem_collectLevels {levelById : LevelById} {l : DependencyGraphLevel} :
    l ∈ collectLevels actions levelById ↔ l.actions ≠ [] ∧
      l.actions = actions.filter fun action => (levelById action.id).getD 0 = l.level := by
  obtain ⟨level, levelActions⟩ := l
  have hmem : (⟨level, levelActions⟩ : DependencyGraphLevel) ∈ collectLevels actions levelById ↔
      (level, levelActions) ∈
        Group.group (actions.map fun action => ((levelById action.id).getD 0, action)) := by
    rw [collectLevels, List.mem_map]
    simp only [List.mem_insertionSort, DependencyGraphLevel.mk.injEq, Prod.exists]
    exact ⟨fun ⟨_, _, h, hlevel, hactions⟩ => hlevel ▸ hactions ▸ h, fun h => ⟨_, _, h, rfl, rfl⟩⟩
  rw [hmem, Group.mem_group, List.filter_map, List.map_map]
  simp [Function.comp_def]

theorem collectLevels_congr {levelById levelById' : LevelById}
    (h : ∀ action ∈ actions, (levelById' action.id).getD 0 = (levelById action.id).getD 0) :
    collectLevels actions levelById' = collectLevels actions levelById := by
  have hpairs : actions.map (fun action => ((levelById' action.id).getD 0, action)) =
      actions.map fun action => ((levelById action.id).getD 0, action) :=
    List.map_congr_left fun action haction => by rw [h action haction]
  rw [collectLevels, collectLevels, hpairs]

theorem collectLevels_ascending (actions : List PrioritizedAction) (levelById : LevelById) :
    (collectLevels actions levelById).Pairwise fun l l' => l.level < l'.level := by
  let groups := Group.group (actions.map fun action => ((levelById action.id).getD 0, action))
  have htotal : Std.Total fun a b : ℕ × List PrioritizedAction => a.1 ≤ b.1 :=
    ⟨fun a b => le_total a.1 b.1⟩
  have htrans : IsTrans (ℕ × List PrioritizedAction) fun a b => a.1 ≤ b.1 :=
    ⟨fun _ _ _ hab hbc => hab.trans hbc⟩
  have hsorted := List.pairwise_insertionSort (fun a b => a.1 ≤ b.1) groups
  have hnodup : ((groups.insertionSort fun a b => a.1 ≤ b.1).map Prod.fst).Nodup :=
    ((List.perm_insertionSort _ groups).map Prod.fst).nodup_iff.2 (Group.group_keys_nodup _)
  rw [List.Nodup, List.pairwise_map] at hnodup
  rw [collectLevels, List.pairwise_map]
  exact (hsorted.and hnodup).imp fun h => lt_of_le_of_ne h.1 h.2

theorem collectLevels_layering (actions : List PrioritizedAction) (levelById : LevelById) :
    Layering actions (collectLevels actions levelById) := by
  have hlevel : ∀ {l : DependencyGraphLevel} {action : PrioritizedAction},
      l ∈ collectLevels actions levelById → action ∈ l.actions →
        l.level = (levelById action.id).getD 0 := by
    intro l action hl haction
    rw [(mem_collectLevels.1 hl).2] at haction
    exact (of_decide_eq_true (List.mem_filter.1 haction).2).symm
  refine ⟨collectLevels_ascending actions levelById, fun action hmem => ?_, fun l hl => ?_⟩
  · let level := (levelById action.id).getD 0
    have haction : action ∈ actions.filter fun a => (levelById a.id).getD 0 = level :=
      List.mem_filter.2 ⟨hmem, by simp [level]⟩
    refine ⟨⟨level, _⟩, ⟨mem_collectLevels.2 ⟨List.ne_nil_of_mem haction, rfl⟩, haction⟩, ?_⟩
    rintro l ⟨hl, hin⟩
    obtain ⟨level', levelActions⟩ := l
    have hactions := (mem_collectLevels.1 hl).2
    obtain rfl : level' = level := hlevel hl hin
    rw [DependencyGraphLevel.mk.injEq]
    exact ⟨rfl, hactions⟩
  · obtain ⟨hne, hactions⟩ := mem_collectLevels.1 hl
    refine ⟨hne, ?_⟩
    rw [hactions]
    exact List.filter_sublist

/-! ## The graph -/

/-- The same ids with the same dependencies, in any order. -/
structure SameDependencies (actions actions' : List PrioritizedAction) : Prop where
  ids : (actions'.map PrioritizedAction.id).Perm (actions.map PrioritizedAction.id)
  dependsOn : ∀ id depId, DependsOn actions' id depId ↔ DependsOn actions id depId

/-- **The levels are a layering**: the loops return, and put every action on one level in the order of
the input. Without a cycle the level of an action is the length of the longest chain of present
dependencies below it, so these are on lower levels, and visiting the actions and their dependencies in
any other order gives the same result. -/
theorem buildDependencyLevels_layering (actions : List PrioritizedAction)
    (hids : (actions.map PrioritizedAction.id).Nodup) :
    ∃ levels, (∀ fuel, actions.length < fuel → buildDependencyLevels fuel actions = some levels) ∧
      Layering actions levels ∧
      ((∀ id, ¬TransGen (DependsOn actions) id id) →
        (∀ l ∈ levels, ∀ action ∈ l.actions, IsHeight (DependsOn actions) action.id l.level) ∧
        (∀ l ∈ levels, ∀ action ∈ l.actions, ∀ l' ∈ levels, ∀ dep ∈ l'.actions,
          DependsOn actions action.id dep.id → l'.level < l.level) ∧
        ∀ order actions', order.Perm (actions.map PrioritizedAction.id) →
          SameDependencies actions actions' → ∀ fuel, actions.length < fuel →
            (assignLevels actions' fuel order).map (collectLevels actions) = some levels) := by
  obtain ⟨levelById, hrun⟩ := assignLevels_total actions (actions.map PrioritizedAction.id)
  refine ⟨collectLevels actions levelById, fun fuel hfuel => ?_, collectLevels_layering _ _,
    fun hacyclic => ?_⟩
  · rw [buildDependencyLevels, hrun fuel hfuel]
    rfl
  have hknown : ∀ action ∈ actions,
      IsHeight (DependsOn actions) action.id ((levelById action.id).getD 0) := fun action haction =>
    assignLevels_height hids hacyclic (hrun _ (Nat.lt_succ_self _))
      (List.mem_map_of_mem (f := PrioritizedAction.id) haction)
  have hheight : ∀ l ∈ collectLevels actions levelById, ∀ action ∈ l.actions,
      IsHeight (DependsOn actions) action.id l.level := by
    intro l hl action haction
    rw [(mem_collectLevels.1 hl).2] at haction
    obtain ⟨hmem, hlevel⟩ := List.mem_filter.1 haction
    rw [← of_decide_eq_true hlevel]
    exact hknown action hmem
  refine ⟨hheight, fun l hl action haction l' hl' dep hdep hdepends =>
    IsHeight.lt hdepends (hheight l hl action haction) (hheight l' hl' dep hdep), ?_⟩
  intro order actions' horder hsame fuel hfuel
  have hdepends : DependsOn actions' = DependsOn actions := by
    funext id depId
    exact propext (hsame.dependsOn id depId)
  have hlength : actions'.length = actions.length := by simpa using hsame.ids.length_eq
  obtain ⟨levelById', hrun'⟩ := assignLevels_total actions' order
  rw [hrun' fuel (hlength ▸ hfuel), Option.map_some, Option.some.injEq]
  -- both give every action the length of the longest chain
  have hlevels : ∀ action ∈ actions,
      (levelById' action.id).getD 0 = (levelById action.id).getD 0 := by
    intro action haction
    refine IsHeight.unique (r := DependsOn actions) ?_ (hknown action haction)
    rw [← hdepends]
    refine assignLevels_height (hsame.ids.nodup_iff.2 hids) (hdepends ▸ hacyclic)
      (hrun' _ (Nat.lt_succ_self _)) (horder.mem_iff.2 ?_)
    exact List.mem_map_of_mem (f := PrioritizedAction.id) haction
  exact collectLevels_congr hlevels

/-- The actions of a critical zone with an unauthorized worker and degraded equipment. -/
def criticalQueue : List PrioritizedAction :=
  (buildActionQueue (R := ℚ) (deriveRecommendations .critical (some ["permit_status_escalated",
    "unauthorized_presence", "common_cause_grouped_degradation_count"])) none).getD []

theorem criticalQueue_layering : ∃ levels, buildDependencyLevels 5 criticalQueue = some levels ∧
    Layering criticalQueue levels ∧ ∀ l ∈ levels, ∀ action ∈ l.actions,
      IsHeight (DependsOn criticalQueue) action.id l.level := by
  have hids : (criticalQueue.map PrioritizedAction.id).Nodup := by decide
  obtain ⟨levels, hrun, hlayering, hheights⟩ := buildDependencyLevels_layering criticalQueue hids
  let rank (id : Option String) : ℕ :=
    [some "permit_status_escalated", some "unauthorized_presence"].idxOf id
  have hfalls : ∀ action ∈ criticalQueue, ∀ depId ∈ action.dependencyLabels.map some,
      rank depId < rank action.id := by decide
  have hacyclic : ∀ id, ¬TransGen (DependsOn criticalQueue) id id :=
    acyclic_of_lt rank fun id depId ⟨action, haction, hid, hdep, _⟩ =>
      hid ▸ hfalls action haction depId hdep
  exact ⟨levels, hrun 5 (by decide), hlayering, (hheights hacyclic).1⟩

end Frontend
