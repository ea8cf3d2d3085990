import IndustrialSafety.Py.Basic

/-!
# Python's text forms

`uuid`, ISO 8601 and number formatting, as a parameter: the functions the modelled code calls, with
the laws of `str`/`UUID` and `isoformat`/`fromisoformat` as fields.
-/

namespace Py

/-- A separator that neither first part has splits a list in one way. -/
theorem split_injective {α : Type} {c : α} {xs xs' ys ys' : List α} (h : c ∉ xs) (h' : c ∉ xs')
    (e : xs ++ c :: ys = xs' ++ c :: ys') : xs = xs' ∧ ys = ys' := by
  induction xs generalizing xs' with
  | nil =>
    cases xs' with
    | nil => exact ⟨rfl, (List.cons.inj e).2⟩
    | cons x' xs' => exact absurd (.head _) ((List.cons.inj e).1 ▸ h')
  | cons x xs ih =>
    cases xs' with
    | nil => exact absurd (.head _) ((List.cons.inj e).1 ▸ h)
    | cons x' xs' =>
      obtain ⟨rfl, htail⟩ := List.cons.inj e
      obtain ⟨rfl, rfl⟩ := ih (fun hc => h (.tail _ hc)) (fun hc => h' (.tail _ hc)) htail
      exact ⟨rfl, rfl⟩

/-- And one that neither last part has. -/
theorem split_injective_right {α : Type} {c : α} {xs xs' ys ys' : List α} (h : c ∉ ys) (h' : c ∉ ys')
    (e : xs ++ c :: ys = xs' ++ c :: ys') : xs = xs' ∧ ys = ys' := by
  have hr := congrArg List.reverse e
  simp only [List.reverse_append, List.reverse_cons, List.append_assoc, List.singleton_append] at hr
  obtain ⟨h1, h2⟩ := split_injective (by simpa using h) (by simpa using h') hr
  exact ⟨List.reverse_injective h2, List.reverse_injective h1⟩

structure Text (R Uuid : Type) where
  /-- `resolve_id`: `uuid.uuid5(SEED_NAMESPACE, key)`. -/
  resolveId : String → Uuid
  /-- `str(u)`. -/
  uuidStr : Uuid → String
  /-- `uuid.UUID(s)`; `none` is a `ValueError`. -/
  uuidOfStr : String → Option Uuid
  /-- `d.isoformat()`. -/
  isoformat : DateTime → String
  /-- `datetime.fromisoformat(s)`; `none` is a `ValueError`. A time without an offset is in the time zone of
  the database's session. -/
  fromisoformat : String → Option DateTime
  /-- `datetime.fromisoformat(s).tzinfo is None`. -/
  naive : String → Bool
  /-- `float(s)`; `none` is a `ValueError`. -/
  floatOfStr : String → Option R
  /-- `str(x)`. -/
  floatStr : R → String
  /-- `format(x, ".3f")`. -/
  floatStr3 : R → String
  uuidOfStr_uuidStr : ∀ u, uuidOfStr (uuidStr u) = some u
  /-- A UUID's text is hexadecimal digits and dashes. -/
  uuidStr_noColon : ∀ u, ':' ∉ (uuidStr u).toList
  fromisoformat_isoformat : ∀ d, fromisoformat (isoformat d) = some d
  naive_isoformat : ∀ d, naive (isoformat d) = false

namespace Text

variable {R Uuid : Type} (T : Text R Uuid)

theorem uuidStr_injective : Function.Injective T.uuidStr := fun a b h => by
  have := congrArg T.uuidOfStr h
  simpa [T.uuidOfStr_uuidStr] using this

theorem isoformat_injective : Function.Injective T.isoformat := fun a b h => by
  have := congrArg T.fromisoformat h
  simpa [T.fromisoformat_isoformat] using this

/-- `uuid.UUID(s)`. -/
def uuid (s : String) : Result Uuid :=
  match T.uuidOfStr s with
  | some u => pure u
  | none => throw (.valueError "badly formed hexadecimal UUID string")

theorem uuid_eq_ok {s : String} {u : Uuid} : T.uuid s = .ok u ↔ T.uuidOfStr s = some u := by
  unfold uuid
  cases T.uuidOfStr s with
  | none => exact iff_of_false nofun nofun
  | some v =>
    change (Except.ok v : Result Uuid) = _ ↔ _
    rw [Except.ok.injEq, Option.some.injEq]

/-- `repr(u)`. -/
def uuidRepr (u : Uuid) : String := s!"UUID({strRepr (T.uuidStr u)})"

/-- `datetime.fromisoformat(s)`. -/
def datetime (s : String) : Result DateTime :=
  match T.fromisoformat s with
  | some d => pure d
  | none => throw (.valueError s!"Invalid isoformat string: {strRepr s}")

theorem datetime_eq_ok {s : String} {d : DateTime} :
    T.datetime s = .ok d ↔ T.fromisoformat s = some d := by
  unfold datetime
  cases T.fromisoformat s with
  | none => exact iff_of_false nofun nofun
  | some d' =>
    change (Except.ok d' : Result DateTime) = _ ↔ _
    rw [Except.ok.injEq, Option.some.injEq]

end Text

end Py
