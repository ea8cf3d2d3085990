import IndustrialSafety.Lib.Lockstep
import IndustrialSafety.Lib.Yields

/-!
# Memoised computations

`cached key fresh`: the value stored under `key`, or the result of `fresh`, which is then stored.
`Coherent`: every stored value is what its computation returns now. From a coherent cache a cached
computation answers as the fresh one, and the cache stays coherent (`cached_lockstep`). What is true of
every fresh result stays true of every stored value (`cached_yields`).
-/

namespace Memo

variable {κ α ε ι : Type} [DecidableEq κ]

/-- The entries of a dictionary that are only ever added. -/
abbrev Cache (κ α : Type) := List (κ × α)

def cached (key : κ) (fresh : Except ε α) : Service ε (Cache κ α) α := fun cache =>
  match cache.lookup key with
  | some a => (.ok a, cache)
  | none =>
    match fresh with
    | .ok a => (.ok a, (key, a) :: cache)
    | .error e => (.error e, cache)

/-- What is stored for the computations `fresh i` is what they return. -/
def Coherent (key : ι → κ) (fresh : ι → Except ε α) (is : List ι) (cache : Cache κ α) : Prop :=
  ∀ i ∈ is, ∀ a, cache.lookup (key i) = some a → fresh i = .ok a

variable {key : ι → κ} {fresh fresh' : ι → Except ε α} {is : List ι} {cache : Cache κ α}

theorem coherent_nil : Coherent key fresh is [] := nofun

/-- A change of the computations that are not stored is not noticed. -/
theorem Coherent.congr (h : Coherent key fresh is cache)
    (heq : ∀ i ∈ is, (cache.lookup (key i)).isSome → fresh' i = fresh i) :
    Coherent key fresh' is cache := by
  intro i hi a ha
  rw [heq i hi (by rw [ha]; rfl)]
  exact h i hi a ha

/-- A cached computation and the fresh one, where keys tell the computations apart. -/
theorem cached_lockstep (hkey : ∀ i ∈ is, ∀ j ∈ is, key i = key j → i = j) {i : ι} (hi : i ∈ is)
    (h : Coherent key fresh is cache) (cache' : Cache κ α) :
    Service.Lockstep (fun c _ => Coherent key fresh is c) Eq (cached (key i) (fresh i) cache)
      ((liftM (fresh i) : Service ε (Cache κ α) α) cache') := by
  unfold cached
  cases hlookup : cache.lookup (key i) with
  | some a =>
    rw [h i hi a hlookup]
    exact .ok rfl h
  | none =>
    cases hfresh : fresh i with
    | error e => exact .error e h
    | ok a =>
      refine .ok rfl fun j hj b hb => ?_
      rw [List.lookup_cons] at hb
      split at hb
      · rename_i heq
        rw [← hkey j hj i hi (beq_iff_eq.1 heq)] at hfresh
        rw [hfresh, Option.some.inj hb]
      · exact h j hj b hb

theorem cached_yields {P : κ → α → Prop} {k : κ} {fresh : Except ε α}
    (h : ∀ a, fresh = .ok a → P k a) :
    Service.Yields (fun cache : Cache κ α => ∀ entry ∈ cache, P entry.1 entry.2) (P k)
      (cached k fresh) := by
  intro cache hcache
  unfold cached
  cases hlookup : cache.lookup k with
  | some a =>
    refine ⟨hcache, fun b hb => ?_⟩
    cases hb
    obtain ⟨l₁, l₂, rfl, -⟩ := List.lookup_eq_some_iff.1 hlookup
    exact hcache (k, a) (List.mem_append_right _ (.head _))
  | none =>
    cases hfresh : fresh with
    | error e => exact ⟨hcache, fun b hb => by cases hb⟩
    | ok a =>
      refine ⟨List.forall_mem_cons.2 ⟨h a hfresh, hcache⟩, fun b hb => ?_⟩
      cases hb
      exact h a hfresh

end Memo
