import IndustrialSafety.Db.Repositories
import IndustrialSafety.Lib.Pagination
import Mathlib.Data.Rat.Defs

/-!
# Walking the pages of a list

A client of `GET /permits` or `GET /risk/history` fetches pages newest first and passes the timestamp of
the last item as the next `before`. Such a walk ends and repeats nothing; it is complete iff no page
boundary falls between two rows of one timestamp (`pages_complete`).
-/

open Py Pagination List

variable {R Uuid : Type} [DecidableEq Uuid] {db : Db R Uuid}

namespace PermitRepository

/-- The rows of the query. -/
def matching (db : Db R Uuid) (zoneId : Option Uuid) (status : Option String)
    (before after : Option Instant) : List (Permit R Uuid) :=
  db.permits.rows.filter fun p =>
    (∀ z ∈ zoneId, p.zoneId = z) ∧ (∀ s ∈ status, p.status.str = s) ∧
      (∀ t ∈ before, p.issuedAt < t) ∧ ∀ t ∈ after, t < p.issuedAt

/-- `fetch` returns the pages of the query, with permits issued at one time in any order. -/
def Pages (db : Db R Uuid) (zoneId : Option Uuid) (status : Option String) (limit : Nat)
    (after : Option Instant) (fetch : Option Instant → List (Permit R Uuid)) : Prop :=
  ∀ before, IsPage Permit.issuedAt limit (matching db zoneId status before after) (fetch before)

theorem listAll_pages (zoneId : Option Uuid) (status : Option String) (limit : Nat)
    (after : Option Instant) :
    Pages db zoneId status limit after fun before => listAll db zoneId status limit before after :=
  fun before => ⟨Query.orderByDesc Permit.issuedAt (matching db zoneId status before after),
    List.perm_insertionSort _ _, Query.pairwise_orderByDesc _ _, rfl⟩

theorem matching_before (zoneId : Option Uuid) (status : Option String)
    (before after : Option Instant) : matching db zoneId status before after =
      older Permit.issuedAt (matching db zoneId status none after) before := by
  rw [older, matching, matching, List.filter_filter]
  refine List.filter_congr fun p _ => ?_
  rw [Bool.eq_iff_iff]
  simp
  tauto

end PermitRepository

namespace RiskAssessmentRepository

/-- The rows of the query. -/
def matching (db : Db R Uuid) (zoneId : Uuid) (before after : Option Instant) :
    List (RiskAssessment R Uuid) :=
  db.riskAssessments.rows.filter fun a =>
    a.zoneId = zoneId ∧ (∀ t ∈ before, a.timestamp < t) ∧ ∀ t ∈ after, t < a.timestamp

/-- `fetch` returns the pages of the query, with assessments of one time in any order. -/
def Pages (db : Db R Uuid) (zoneId : Uuid) (limit : Nat) (after : Option Instant)
    (fetch : Option Instant → List (RiskAssessment R Uuid)) : Prop :=
  ∀ before, IsPage RiskAssessment.timestamp limit (matching db zoneId before after) (fetch before)

theorem historyByZone_pages (zoneId : Uuid) (limit : Nat) (after : Option Instant) :
    Pages db zoneId limit after fun before => historyByZone db zoneId limit before after :=
  fun before => ⟨Query.orderByDesc RiskAssessment.timestamp (matching db zoneId before after),
    List.perm_insertionSort _ _, Query.pairwise_orderByDesc _ _, rfl⟩

theorem matching_before (zoneId : Uuid) (before after : Option Instant) :
    matching db zoneId before after =
      older RiskAssessment.timestamp (matching db zoneId none after) before := by
  rw [older, matching, matching, List.filter_filter]
  refine List.filter_congr fun p _ => ?_
  rw [Bool.eq_iff_iff]
  simp
  tauto

end RiskAssessmentRepository

/-- **Cursor pagination.** Walking the pages from the newest until one is short ends, returns no row twice
and no other rows, and returns all of them iff no page boundary falls between two equal timestamps:
for the permits under any filter, and for the assessments of any zone. -/
theorem pages_complete (db : Db R Uuid) {limit : Nat} (hlimit : 1 ≤ limit) (after : Option Instant) :
    (∀ zoneId status fetch, PermitRepository.Pages db zoneId status limit after fetch →
      let rows := PermitRepository.matching db zoneId status none after
      ∃ pages, walk fetch Permit.issuedAt limit (rows.length + 1) none = some pages ∧
        pages.flatten <+~ rows ∧
        (pages.flatten ~ rows ↔ Unsplit limit (times Permit.issuedAt rows))) ∧
    ∀ zoneId fetch, RiskAssessmentRepository.Pages db zoneId limit after fetch →
      let rows := RiskAssessmentRepository.matching db zoneId none after
      ∃ pages, walk fetch RiskAssessment.timestamp limit (rows.length + 1) none = some pages ∧
        pages.flatten <+~ rows ∧
        (pages.flatten ~ rows ↔ Unsplit limit (times RiskAssessment.timestamp rows)) := by
  refine ⟨fun zoneId status fetch hfetch => ?_, fun zoneId fetch hfetch => ?_⟩
  · exact walk_complete hlimit fun before => PermitRepository.matching_before zoneId status before after ▸
      hfetch before
  · exact walk_complete hlimit fun before => RiskAssessmentRepository.matching_before zoneId before after ▸
      hfetch before

/-- Two permits issued at one time. -/
def twoPermits : Db ℚ ℕ where
  permits := ⟨[⟨1, "hot_work", 1, 0, 60, 9, {}, .active⟩, ⟨2, "line_break", 1, 0, 60, 9, {}, .active⟩],
    by decide⟩

/-- Pages of two return both. -/
theorem pages_complete_two : ∃ pages,
    walk (fun before => PermitRepository.listAll twoPermits none none 2 before none) Permit.issuedAt 2 3
      none = some pages ∧
    pages.flatten ~ PermitRepository.matching twoPermits none none none none := by
  obtain ⟨pages, hwalk, -, hiff⟩ := (pages_complete twoPermits (show 1 ≤ 2 by decide) none).1 none none _
    (PermitRepository.listAll_pages none none 2 none)
  exact ⟨pages, hwalk, hiff.2 (unsplit_of_length_le (by decide))⟩

/-- Pages of one lose the second. -/
theorem pages_lose_tie :
    ¬∀ (db : Db ℚ ℕ) (limit : Nat), 1 ≤ limit → ∀ fuel pages,
      walk (fun before => PermitRepository.listAll db none none limit before none) Permit.issuedAt limit
        fuel none = some pages →
      pages.flatten ~ PermitRepository.matching db none none none none := by
  intro h
  have hwalk : ∃ pages, walk (fun before => PermitRepository.listAll twoPermits none none 1 before none)
      Permit.issuedAt 1 2 none = some pages ∧ pages.flatten.length = 1 := ⟨_, rfl, rfl⟩
  obtain ⟨pages, hwalk, hlength⟩ := hwalk
  have := (h twoPermits 1 le_rfl 2 pages hwalk).length_eq
  rw [hlength] at this
  exact absurd this (by decide)
