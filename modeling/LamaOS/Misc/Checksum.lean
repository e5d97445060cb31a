import LamaOS.Misc.ByteMemory
import Mathlib.Algebra.BigOperators.Group.List.Basic
import Mathlib.Data.BitVec

/-!
# Checksums

A checksum test accepts the lists whose sum has a given value. If the sum is taken in a group,
no two lists that are accepted differ in one place only, however long they are. Bytes are added
modulo 256, which is such a sum.
-/

namespace LamaOS

/-- No list that passes the test still passes it with one of its entries changed. -/
def DetectsOneChange {α : Type} (accepts : List α → Prop) : Prop :=
  ∀ xs, accepts xs → ∀ i (inside : i < xs.length) (x : α), x ≠ xs[i] → ¬ accepts (xs.set i x)

section Group

variable {G : Type} [AddCommGroup G]

/-- The sum stays the same only if the entry does. -/
theorem sum_set_eq_iff {xs : List G} {i : Nat} (inside : i < xs.length) (x : G) :
    (xs.set i x).sum = xs.sum ↔ x = xs[i] := by
  rw [List.sum_set', dif_pos inside, add_eq_left, neg_add_eq_zero, eq_comm]

theorem sum_detectsOneChange (total : G) : DetectsOneChange fun xs : List G => xs.sum = total := by
  intro xs accepted i inside x different accepted'
  apply different
  apply (sum_set_eq_iff inside x).mp
  exact accepted'.trans accepted.symm

end Group

/-! ## Bytes -/

/-- The sum of some bytes, modulo 256. -/
def byteSum (bytes : List Byte) : Byte := bytes.foldl (· + ·) 0

theorem byteSum_eq_sum (bytes : List Byte) : byteSum bytes = bytes.sum := by
  rw [byteSum, List.sum_eq_foldl]

theorem byteSum_append (xs ys : List Byte) : byteSum (xs ++ ys) = byteSum xs + byteSum ys := by
  rw [byteSum_eq_sum, byteSum_eq_sum, byteSum_eq_sum, List.sum_append]

theorem byteSum_detectsOneChange (total : Byte) :
    DetectsOneChange fun bytes => byteSum bytes = total := by
  simp only [byteSum_eq_sum]
  exact sum_detectsOneChange total

end LamaOS
