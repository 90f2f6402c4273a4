import Mathlib.Data.List.AList
import Mathlib.Data.List.Sort
import Mathlib.Data.List.Infix

/-!
# Go values shared by the models

The Go methods of the reporting tool return `(T, error)` pairs; here they return
`Except Error T`, with a Go `error` represented by its message. Block numbers are Go
`uint64`s and stay `UInt64`, so that `i++` past `2 ^ 64 - 1` wraps to `0` as it does in Go.

This module collects the facts about `Except` and `UInt64` that the models use: bind
inversion, and the passage from `UInt64` comparisons and increments to `Nat`, where
`omega` closes the arithmetic.
-/

namespace QuorumReport

/-- A Go `error`, by its message. -/
abbrev Error := String

section Except

variable {ε α β : Type}

/-- A bind succeeds exactly when both computations succeed. -/
theorem except_bind_eq_ok {x : Except ε α} {f : α → Except ε β} {b : β} :
    x >>= f = .ok b ↔ ∃ a, x = .ok a ∧ f a = .ok b := by
  cases x <;> simp [bind, Except.bind]

/-- A bind fails exactly when the first computation fails, or succeeds and the continuation
fails. -/
theorem except_bind_eq_error {x : Except ε α} {f : α → Except ε β} {e : ε} :
    x >>= f = .error e ↔ x = .error e ∨ ∃ a, x = .ok a ∧ f a = .error e := by
  cases x <;> simp [bind, Except.bind]

/-- A bind fails with the first failure. -/
theorem except_bind_error (e : ε) (f : α → Except ε β) :
    (Except.error e : Except ε α) >>= f = .error e := rfl

/-- A bind of a success continues with its value. -/
@[simp]
theorem except_ok_bind (a : α) (f : α → Except ε β) :
    (Except.ok a : Except ε α) >>= f = f a := rfl

end Except

section BlockNumber

/-- `≤` on `uint64` is `≤` on the numbers. -/
theorem uint64_le_iff {a b : UInt64} : a ≤ b ↔ a.toNat ≤ b.toNat := Iff.rfl

/-- `<` on `uint64` is `<` on the numbers. -/
theorem uint64_lt_iff {a b : UInt64} : a < b ↔ a.toNat < b.toNat := Iff.rfl

/-- `+` on `uint64` is `+` on the numbers, modulo `2 ^ 64`. -/
theorem uint64_toNat_add (a b : UInt64) :
    (a + b).toNat = (a.toNat + b.toNat) % UInt64.size := rfl

/-- `UInt64.ofNat n` is `n` modulo `2 ^ 64`. -/
theorem uint64_toNat_ofNat (n : Nat) : (UInt64.ofNat n).toNat = n % UInt64.size := rfl

/-- `i + 1` on `uint64` is the successor as long as it does not reach `2 ^ 64`. -/
theorem uint64_toNat_add_one {a : UInt64} (h : a.toNat + 1 < UInt64.size) :
    (a + 1).toNat = a.toNat + 1 :=
  Nat.mod_eq_of_lt h

/-- A `uint64` is below `2 ^ 64`. -/
theorem uint64_toNat_lt (a : UInt64) : a.toNat < UInt64.size := a.toBitVec.isLt

/-- `UInt64.ofNat` of a `uint64`'s number is that `uint64`. -/
theorem uint64_ofNat_toNat (a : UInt64) : UInt64.ofNat a.toNat = a :=
  UInt64.toNat.inj (UInt64.toNat_ofNat_of_lt (uint64_toNat_lt a))

end BlockNumber

end QuorumReport
