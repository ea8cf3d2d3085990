import IndustrialSafety.Frontend.ActionPlaybook
import IndustrialSafety.Lib.Group
import Mathlib.Data.Finset.Insert
import Mathlib.Logic.Function.Basic

/-!
# The dependency graph of the actions

`frontend/src/lib/dependencyGraph.ts`: the actions on levels, each one below its deepest dependency. The
recursion is bounded by a fuel, which `none` says has run out.
-/

namespace Frontend

structure DependencyGraphLevel where
  level : ℕ
  actions : List PrioritizedAction
deriving DecidableEq, Repr

/-- `action.id`. -/
def PrioritizedAction.id (action : PrioritizedAction) : Option String :=
  action.recommendation.id

/-- `byId.get(id)`: of two actions with one id, the later one. -/
def byId (actions : List PrioritizedAction) (id : Option String) : Option PrioritizedAction :=
  actions.reverse.find? (·.id = id)

/-- The dependencies of an action that are in the queue; without an action there are none. -/
def presentDeps (actions : List PrioritizedAction) (actionId : Option String) :
    List (Option String) :=
  match byId actions actionId with
  | none => []
  | some action => (action.dependencyLabels.map some).filter fun depId => (byId actions depId).isSome

/-- `levelById`. -/
abbrev LevelById := Option String → Option ℕ

def LevelById.set (levelById : LevelById) (id : Option String) (level : ℕ) : LevelById :=
  Function.update levelById id (some level)

/-- What is added to `visiting` is deleted again after the recursive calls. -/
def levelOf (actions : List PrioritizedAction) :
    ℕ → Option String → Finset (Option String) → StateT LevelById Option ℕ
  | 0, _, _ => fun _ => none
  | fuel + 1, actionId, visiting => fun levelById =>
    match levelById actionId with
    | some level => some (level, levelById)
    | none =>
      -- a cycle
      if actionId ∈ visiting then some (0, levelById)
      else if presentDeps actions actionId = [] then some (0, levelById.set actionId 0)
      else do
        let (levels, levelById) ← (presentDeps actions actionId).mapM
          (fun depId => levelOf actions fuel depId (insert actionId visiting)) levelById
        let level := 1 + levels.max?.getD 0
        some (level, levelById.set actionId level)

/-- The first loop, over the actions of the ids. -/
def assignLevels (actions : List PrioritizedAction) (fuel : ℕ) (ids : List (Option String)) :
    Option LevelById :=
  ((ids.mapM fun id => levelOf actions fuel id ∅) fun _ => none).map Prod.snd

/-- The second loop and the sort. -/
def collectLevels (actions : List PrioritizedAction) (levelById : LevelById) :
    List DependencyGraphLevel :=
  ((Group.group (actions.map fun action => ((levelById action.id).getD 0, action))).insertionSort
    fun a b => a.1 ≤ b.1).map fun (level, levelActions) => ⟨level, levelActions⟩

def buildDependencyLevels (fuel : ℕ) (actions : List PrioritizedAction) :
    Option (List DependencyGraphLevel) :=
  (assignLevels actions fuel (actions.map PrioritizedAction.id)).map (collectLevels actions)

end Frontend
