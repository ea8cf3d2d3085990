import Mathlib.Data.Nat.Init

/-!
# Literals

A literal `n` of a field rests on a proof of `2 ≤ n`. For the literals that several modules use, the
proof is a constant, so that the literal is the same term in each of them.
-/

namespace Literal

instance two : Nat.AtLeastTwo 2 := ⟨by decide⟩

instance three : Nat.AtLeastTwo 3 := ⟨by decide⟩

instance four : Nat.AtLeastTwo 4 := ⟨by decide⟩

instance ten : Nat.AtLeastTwo 10 := ⟨by decide⟩

instance twenty : Nat.AtLeastTwo 20 := ⟨by decide⟩

instance thirty : Nat.AtLeastTwo 30 := ⟨by decide⟩

instance forty : Nat.AtLeastTwo 40 := ⟨by decide⟩

instance sixtyFive : Nat.AtLeastTwo 65 := ⟨by decide⟩

instance eightyFive : Nat.AtLeastTwo 85 := ⟨by decide⟩

instance ninety : Nat.AtLeastTwo 90 := ⟨by decide⟩

instance hundred : Nat.AtLeastTwo 100 := ⟨by decide⟩

end Literal
