import IndustrialSafety.Py.Text
import Mathlib.Analysis.SpecialFunctions.Log.Basic
import Mathlib.Data.Rat.Floor

/-!
# Concrete numbers and text forms

* `Math.real`: the reals with `Real.exp`.
* `Math.dyadic`: the rationals with the exponential in units of `ln 2`: exact at the whole multiples
  of `ln2`, linear between them, so that runs on these inputs can be evaluated.
* `Float`: Lean's doubles are those of a Python float, so that what asks for the operations only can be
  run with its roundings.
* `Text.plain`: numerals as the text of UUIDs and times, and an injective `resolve_id`.
-/

namespace Py

/-! ## The doubles -/

instance floatNatCast : NatCast Float := ⟨Float.ofNat⟩

instance floatIntCast : IntCast Float := ⟨Float.ofInt⟩

/-- `x ** n`. -/
instance floatPow : Pow Float ℕ := ⟨fun x n => n.rec 1 fun _ y => y * x⟩

/-! ## The exponential of the reals -/

noncomputable def Math.real : Math ℝ where
  exp := Real.exp
  exp_pos := Real.exp_pos
  exp_strictMono := Real.exp_strictMono
  exp_zero := Real.exp_zero
  ln2 := Real.log 2
  ln2_pos := Real.log_pos (by norm_num)

theorem real_exp_neg_two_ln2 : Math.real.exp (-(2 * Math.real.ln2)) = 1 / 4 := by
  change Real.exp (-(2 * Real.log 2)) = 1 / 4
  rw [two_mul, neg_add, Real.exp_add, Real.exp_neg, Real.exp_log two_pos]
  norm_num

/-! ## The dyadic exponential -/

/-- `2 ^ x` at the integers, linear between them. -/
def exp2 (x : ℚ) : ℚ := 2 ^ ⌊x⌋ * (1 + (x - ⌊x⌋))

theorem exp2_pos (x : ℚ) : 0 < exp2 x := by
  have h : (0 : ℚ) < 2 ^ ⌊x⌋ := by positivity
  have := Int.floor_le x
  exact mul_pos h (by linarith)

theorem exp2_strictMono : StrictMono exp2 := by
  intro x y hxy
  unfold exp2
  have hpos : (0 : ℚ) < 2 ^ ⌊x⌋ := by positivity
  rcases (Int.floor_mono hxy.le).eq_or_lt with h | h
  · rw [h] at hpos ⊢
    exact mul_lt_mul_of_pos_left (by linarith) hpos
  · have hstep : (2 : ℚ) ^ (⌊x⌋ + 1) ≤ 2 ^ ⌊y⌋ := zpow_le_zpow_right₀ (by norm_num) h
    rw [zpow_add_one₀ (by norm_num)] at hstep
    have hx := Int.lt_floor_add_one x
    have hy := Int.floor_le y
    calc 2 ^ ⌊x⌋ * (1 + (x - ⌊x⌋)) < 2 ^ ⌊x⌋ * 2 := mul_lt_mul_of_pos_left (by linarith) hpos
      _ ≤ 2 ^ ⌊y⌋ := hstep
      _ ≤ 2 ^ ⌊y⌋ * (1 + (y - ⌊y⌋)) := le_mul_of_one_le_right (by positivity) (by linarith)

def Math.dyadic : Math ℚ where
  exp := exp2
  exp_pos := exp2_pos
  exp_strictMono := exp2_strictMono
  exp_zero := by decide +kernel
  ln2 := 1
  ln2_pos := by decide +kernel

/-! ## Text -/

def natOfText (s : List Char) : ℕ := Nat.ofDigitChars 10 s 0

theorem natOfText_repr (n : ℕ) : natOfText (Nat.repr n).toList = n := by
  simp [natOfText, Nat.repr, Nat.ofDigitChars_ten_toDigits]

theorem isDigit_of_mem_repr {n : ℕ} {c : Char} (h : c ∈ (Nat.repr n).toList) : c.isDigit := by
  rw [Nat.repr, String.toList_ofList] at h
  exact Nat.isDigit_of_mem_toDigits (by decide) (by decide) h

theorem natRepr_injective : Function.Injective Nat.repr := fun m n h => by
  rw [← natOfText_repr m, h, natOfText_repr]

/-- A minus sign is no digit. -/
theorem toList_negSucc_repr (n : ℕ) :
    (Int.repr (.negSucc n)).toList = '-' :: (Nat.repr (n + 1)).toList := by
  simp [Int.repr]

theorem intRepr_injective : Function.Injective Int.repr := by
  have hsign : ∀ m n : ℕ, Int.repr (.ofNat m) ≠ Int.repr (.negSucc n) := by
    intro m n h
    have hmem : '-' ∈ (Nat.repr m).toList := by
      change '-' ∈ (Int.repr (.ofNat m)).toList
      rw [h, toList_negSucc_repr]
      exact .head _
    exact absurd (isDigit_of_mem_repr hmem) (by decide)
  intro i j h
  cases i with
  | ofNat m =>
    cases j with
    | ofNat n => rw [natRepr_injective (show Nat.repr m = Nat.repr n from h)]
    | negSucc n => exact absurd h (hsign m n)
  | negSucc m =>
    cases j with
    | ofNat n => exact absurd h.symm (hsign n m)
    | negSucc n =>
      have htext := congrArg String.toList h
      rw [toList_negSucc_repr, toList_negSucc_repr] at htext
      have hnat := natRepr_injective (String.toList_injective (List.cons.inj htext).2)
      rw [Nat.succ.inj hnat]

theorem colon_not_mem_natRepr (n : ℕ) : ':' ∉ (Nat.repr n).toList := fun h =>
  absurd (isDigit_of_mem_repr h) (by decide)

theorem colon_not_mem_intRepr (i : Int) : ':' ∉ (Int.repr i).toList := by
  cases i with
  | ofNat n => exact colon_not_mem_natRepr n
  | negSucc n =>
    rw [toList_negSucc_repr, List.mem_cons, not_or]
    exact ⟨by decide, colon_not_mem_natRepr _⟩

theorem char_lt (c : Char) : c.toNat < 1114112 := by
  rcases c.valid with h | ⟨-, h⟩
  · exact h.trans (by decide)
  · exact h

/-- A text as a number: its characters are the digits. -/
def codeOfText (s : List Char) : ℕ := s.foldl (fun n c => 1114113 * n + c.toNat + 1) 0

theorem codeOfText_concat (s : List Char) (c : Char) :
    codeOfText (s ++ [c]) = 1114113 * codeOfText s + c.toNat + 1 := by simp [codeOfText]

theorem codeOfText_injective : Function.Injective codeOfText := by
  intro s t h
  induction s using List.reverseRecOn generalizing t with
  | nil =>
    cases t using List.reverseRecOn with
    | nil => rfl
    | append_singleton t d =>
      rw [codeOfText_concat] at h
      exact absurd h (by simp [codeOfText])
  | append_singleton s c ih =>
    cases t using List.reverseRecOn with
    | nil =>
      rw [codeOfText_concat] at h
      exact absurd h (by simp [codeOfText])
    | append_singleton t d =>
      rw [codeOfText_concat, codeOfText_concat] at h
      have hc := char_lt c
      have hd := char_lt d
      have hst : codeOfText s = codeOfText t := by omega
      have hcd : c.toNat = d.toNat := by omega
      rw [ih hst, Char.toNat_inj.1 hcd]

/-- An integer as a natural number. -/
def zigzag : Int → ℕ
  | .ofNat n => 2 * n
  | .negSucc n => 2 * n + 1

def unzigzag (n : ℕ) : Int := if n % 2 = 0 then .ofNat (n / 2) else .negSucc (n / 2)

theorem unzigzag_zigzag (i : Int) : unzigzag (zigzag i) = i := by
  cases i with
  | ofNat n => simp [zigzag, unzigzag]
  | negSucc n =>
    have h1 : (2 * n + 1) % 2 = 1 := by omega
    have h2 : (2 * n + 1) / 2 = n := by omega
    simp [zigzag, unzigzag, h1, h2]

/-- A time as two numerals. -/
def plainIsoformat (d : DateTime) : String :=
  Nat.repr (zigzag d.instant) ++ "+" ++ Nat.repr (zigzag d.offset)

def plainFromisoformat (s : String) : DateTime :=
  let whole := s.toList
  ⟨unzigzag (natOfText (whole.takeWhile (· ≠ '+'))),
    unzigzag (natOfText (whole.dropWhile (· ≠ '+')).tail)⟩

theorem toList_plainIsoformat (d : DateTime) : (plainIsoformat d).toList =
    (Nat.repr (zigzag d.instant)).toList ++ '+' :: (Nat.repr (zigzag d.offset)).toList := by
  simp [plainIsoformat]

theorem plainIsoformat_chars (d : DateTime) :
    ∀ c ∈ (plainIsoformat d).toList, c.isDigit ∨ c = '+' := by
  intro c hc
  rw [toList_plainIsoformat, List.mem_append, List.mem_cons] at hc
  rcases hc with hc | hc | hc
  · exact .inl (isDigit_of_mem_repr hc)
  · exact .inr hc
  · exact .inl (isDigit_of_mem_repr hc)

theorem plainFromisoformat_plainIsoformat (d : DateTime) :
    plainFromisoformat (plainIsoformat d) = d := by
  have hdigit : ∀ c ∈ (Nat.repr (zigzag d.instant)).toList, decide (c ≠ '+') = true := by
    intro c hc
    have := isDigit_of_mem_repr hc
    rw [decide_eq_true_iff]
    rintro rfl
    exact absurd this (by decide)
  unfold plainFromisoformat
  simp only [toList_plainIsoformat]
  rw [List.takeWhile_append_of_pos hdigit, List.dropWhile_append_of_pos hdigit,
    List.takeWhile_cons_of_neg (by decide), List.dropWhile_cons_of_neg (by decide),
    List.append_nil, List.tail_cons, natOfText_repr, natOfText_repr, unzigzag_zigzag,
    unzigzag_zigzag]

/-- Numerals for UUIDs, times and the readings of a file. -/
def Text.plain {R : Type} [NatCast R] (floatStr : R → String) : Text R ℕ where
  resolveId s := codeOfText s.toList
  uuidStr := Nat.repr
  uuidOfStr s := some (natOfText s.toList)
  isoformat := plainIsoformat
  fromisoformat s := some (plainFromisoformat s)
  naive s := '+' ∉ s.toList
  floatOfStr s := some (natOfText s.toList : ℕ)
  floatStr := floatStr
  floatStr3 := floatStr
  uuidOfStr_uuidStr n := by rw [natOfText_repr]
  uuidStr_noColon n h := absurd (isDigit_of_mem_repr h) (by decide)
  fromisoformat_isoformat d := by rw [plainFromisoformat_plainIsoformat]
  naive_isoformat d := by simp [plainIsoformat]

/-- The text forms of the runs over the rationals, which print no number. -/
def plainText : Text ℚ ℕ := Text.plain fun _ => ""

theorem plain_resolveId_injective {R : Type} [NatCast R] (floatStr : R → String) :
    Function.Injective (Text.plain floatStr).resolveId := fun _ _ h =>
  String.toList_injective (codeOfText_injective h)

end Py
