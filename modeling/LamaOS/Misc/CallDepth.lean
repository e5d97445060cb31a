import Mathlib.Logic.Relation

/-!
# Depth of a recursion

`calls x y` says that the call with argument `x` makes a call with argument `y`. `Within n x`
says that the recursion started at `x` comes to its end with at most `n` calls nested in one
another. It is proved with a measure, and disproved by a call that is made again inside
itself.
-/

namespace LamaOS.CallDepth

variable {α : Type} {calls : α → α → Prop}

/-- At most `n` calls are nested below and including the one at `x`. -/
def Within (calls : α → α → Prop) : Nat → α → Prop
  | 0, _ => False
  | n + 1, x => ∀ y, calls x y → Within calls n y

/-- A bound that every call passes on, lowered by one, and that no call holds at 0. -/
theorem within_of_measure (P : Nat → α → Prop) (positive : ∀ x, ¬ P 0 x)
    (lower : ∀ n x y, P (n + 1) x → calls x y → P n y) {n : Nat} {x : α} (h : P n x) :
    Within calls n x := by
  induction n generalizing x with
  | zero => exact positive x h
  | succ n ih => exact fun y call => ih (lower n x y h call)

/-- The calls inside a bounded recursion are bounded. -/
theorem within_of_reaches {n : Nat} {x y : α} (h : Within calls n x)
    (reaches : Relation.ReflTransGen calls x y) : ∃ m, Within calls m y := by
  induction reaches with
  | refl => exact ⟨n, h⟩
  | tail _ call ih =>
    obtain ⟨m, bounded⟩ := ih
    cases m with
    | zero => exact bounded.elim
    | succ m => exact ⟨m, bounded _ call⟩

/-- A call that makes itself again is never bounded. -/
theorem not_within_of_self {x : α} (self : calls x x) (n : Nat) : ¬ Within calls n x := by
  induction n with
  | zero => exact id
  | succ n ih => exact fun h => ih (h x self)

end LamaOS.CallDepth
