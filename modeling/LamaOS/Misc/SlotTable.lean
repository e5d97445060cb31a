import Mathlib.Data.List.Basic

/-!
# Arrays with a fill count

A table kept as a fixed array `slots` and the number of slots in use. Its content is the list
`used slots count`; what the slots past the count hold does not matter. `store` writes one
slot, `move` is `memmove` within the array, and `search` is the loop that looks for the first
slot in use with a property, its index and its bound being machine words. Each of them stops
where the access would leave the array.
-/

namespace LamaOS

/-- What C leaves undefined: an access outside the array it is meant for, at this index. The
model stops there. -/
inductive MemoryFault where
  | outOfBounds (index : Nat)
  deriving DecidableEq, Repr

namespace SlotTable

variable {α : Type} {cap w : Nat}

/-- The content of the table. -/
def used (slots : Vector α cap) (count : Nat) : List α := slots.toList.take count

/-- `slots[i] = x`. -/
def store (slots : Vector α cap) (i : Nat) (x : α) : Except MemoryFault (Vector α cap) :=
  if h : i < cap then .ok (slots.set i x) else .error (.outOfBounds i)

/-- `memmove(&slots[dst], &slots[src], n * sizeof(slots[0]))`. -/
def move (slots : Vector α cap) (dst src n : Nat) : Except MemoryFault (Vector α cap) :=
  if _ : dst + n ≤ cap ∧ src + n ≤ cap then
    .ok (Vector.ofFn fun j =>
      if _ : dst ≤ j.val ∧ j.val < dst + n then slots.get ⟨j.val - dst + src, by omega⟩
      else slots.get j)
  else .error (.outOfBounds (max dst src + n))

/-- An index below its bound is not the largest word. -/
theorem toNat_add_one_of_lt {i count : BitVec w} (h : i < count) :
    (i + 1).toNat = i.toNat + 1 := by
  have below : i.toNat < count.toNat := h
  have bound := count.isLt
  have one : 1 % 2 ^ w = 1 := Nat.mod_eq_of_lt (by omega)
  rw [BitVec.toNat_add, BitVec.ofNat_eq_ofNat, BitVec.toNat_ofNat, one]
  exact Nat.mod_eq_of_lt (by omega)

/-- `for (; i < count; i++) if (p(slots[i])) …`: the index at which the loop is left early,
if it is. -/
def search (p : α → Bool) (slots : Vector α cap) (count i : BitVec w) :
    Except MemoryFault (Option (BitVec w)) :=
  if i < count then
    if h : i.toNat < cap then
      if p (slots.get ⟨i.toNat, h⟩) then .ok (some i) else search p slots count (i + 1)
    else .error (.outOfBounds i.toNat)
  else .ok none
  termination_by count.toNat - i.toNat
  decreasing_by
    have next := toNat_add_one_of_lt ‹i < count›
    have below : i.toNat < count.toNat := ‹i < count›
    omega

theorem used_length (slots : Vector α cap) {count : Nat} (h : count ≤ cap) :
    (used slots count).length = count := by
  simp [used, h]

theorem used_getElem? (slots : Vector α cap) (count j : Nat) :
    (used slots count)[j]? = if j < count then slots[j]? else none := by
  simp [used, List.getElem?_take]

/-- What is at an index of the list is in the slot of that index, and the slot is in use. -/
theorem used_getElem?_eq_some {slots : Vector α cap} {count j : Nat} {x : α}
    (here : (used slots count)[j]? = some x) : j < count ∧ slots[j]? = some x := by
  rw [used_getElem?] at here
  split at here
  · rename_i below
    exact ⟨below, here⟩
  · cases here

/-- Changing one slot changes the element of its index, if the slot is in use. -/
theorem used_set (slots : Vector α cap) (f : α → α) {i : Nat} (count : Nat) (h : i < cap) :
    used (slots.set i (f slots[i])) count = (used slots count).modify i f := by
  apply List.ext_getElem?
  intro j
  rw [used_getElem?, List.getElem?_modify, used_getElem?, Vector.getElem?_set]
  split
  · by_cases here : i = j
    · subst here
      simp [Vector.getElem?_eq_getElem h]
    · simp [here]
  · rfl

/-- Filling the first free slot appends. -/
theorem used_set_append (slots : Vector α cap) {count : Nat} (x : α) (h : count < cap) :
    used (slots.set count x) (count + 1) = used slots count ++ [x] := by
  apply List.ext_getElem?
  intro j
  have len := used_length slots (Nat.le_of_lt h)
  rw [used_getElem?, Vector.getElem?_set]
  rcases Nat.lt_trichotomy j count with before | rfl | after
  · rw [List.getElem?_append_left (by omega), used_getElem?, if_pos (by omega), if_pos before,
      if_neg (by omega)]
  · rw [List.getElem?_append_right (by omega), len]
    simp
  · rw [List.getElem?_append_right (by omega), len, if_neg (by omega),
      List.getElem?_eq_none (by simp; omega)]

/-- Storing in the first free slot appends. -/
theorem store_append (slots : Vector α cap) {count : Nat} (x : α) (h : count < cap) :
    ∃ slots', store slots count x = .ok slots' ∧
      used slots' (count + 1) = used slots count ++ [x] :=
  ⟨slots.set count x, by rw [store, dif_pos h], used_set_append slots x h⟩

/-- Moving the slots behind slot `i` down by one erases it from the table. -/
theorem move_erase (slots : Vector α cap) {count i : Nat} (hi : i < count) (h : count ≤ cap) :
    ∃ slots', move slots i (i + 1) (count - i - 1) = .ok slots' ∧
      used slots' (count - 1) = (used slots count).eraseIdx i := by
  rw [move, dif_pos (by omega)]
  refine ⟨_, rfl, ?_⟩
  apply List.ext_getElem?
  intro j
  rw [used_getElem?, List.getElem?_eraseIdx, used_getElem?, used_getElem?]
  by_cases last : j < count - 1
  · have inside : j < cap := by omega
    rw [if_pos last, Vector.getElem?_eq_getElem inside]
    by_cases before : j < i
    · rw [if_pos before, if_pos (by omega), Vector.getElem?_eq_getElem inside]
      simp [Nat.not_le.mpr before, Vector.get]
    · rw [if_neg before, if_pos (by omega), Vector.getElem?_eq_getElem (by omega)]
      have shift : j - i + (i + 1) = j + 1 := by omega
      have moved : i ≤ j ∧ j < i + (count - i - 1) := by omega
      simp [moved, shift, Vector.get]
  · rw [if_neg last, if_neg (by omega), if_neg (by omega)]

/-- Where the element of slot `i` is after slot `j` has been erased. -/
def slotAfterErase (j i : Nat) : Nat := if j < i then i - 1 else i

theorem getElem?_eraseIdx_slotAfterErase (xs : List α) {i j : Nat} (other : j ≠ i) :
    (xs.eraseIdx j)[slotAfterErase j i]? = xs[i]? := by
  unfold slotAfterErase
  by_cases below : j < i
  · rw [if_pos below, List.getElem?_eraseIdx_of_ge (by omega)]
    congr 1
    omega
  · rw [if_neg below, List.getElem?_eraseIdx_of_lt (by omega)]

/-- The first element with a property stays the first one when another is erased. -/
theorem findIdx?_eraseIdx {p : α → Bool} {xs : List α} {i j : Nat}
    (first : xs.findIdx? p = some i) (other : j ≠ i) :
    (xs.eraseIdx j).findIdx? p = some (slotAfterErase j i) := by
  obtain ⟨below, here, before⟩ := List.findIdx?_eq_some_iff_getElem.mp first
  have moved := getElem?_eraseIdx_slotAfterErase xs other
  rw [List.getElem?_eq_getElem below] at moved
  obtain ⟨inside, same⟩ := List.getElem?_eq_some_iff.mp moved
  refine List.findIdx?_eq_some_iff_getElem.mpr ⟨inside, by rw [same]; exact here, ?_⟩
  intro k hk
  -- what stands in front of it stood in front of it before
  have earlier : ∃ k', k' < i ∧ (xs.eraseIdx j)[k]? = xs[k']? := by
    rw [List.getElem?_eraseIdx]
    unfold slotAfterErase at hk
    by_cases before : k < j
    · exact ⟨k, by split at hk <;> omega, if_pos before⟩
    · exact ⟨k + 1, by split at hk <;> omega, if_neg before⟩
  obtain ⟨k', hk', there⟩ := earlier
  have outside : k < (xs.eraseIdx j).length := Nat.lt_trans hk inside
  have inside' : k' < xs.length := Nat.lt_trans hk' below
  rw [List.getElem?_eq_getElem outside, List.getElem?_eq_getElem inside'] at there
  rw [Option.some.inj there]
  exact before k' hk'

/-- What is found at the beginning of a list is found there in every list that goes on. -/
theorem findIdx?_of_prefix {p : α → Bool} {xs ys : List α} (grown : xs <+: ys) {i : Nat}
    (first : xs.findIdx? p = some i) : ys.findIdx? p = some i ∧ ys[i]? = xs[i]? := by
  obtain ⟨added, rfl⟩ := grown
  have below := (List.findIdx?_eq_some_iff_getElem.mp first).1
  constructor
  · rw [List.findIdx?_append, first]
    rfl
  · exact List.getElem?_append_left below

/-- The search loop never leaves the array; started at `i` it finds the first slot in use
from `i` on that has the property. -/
theorem search_from (p : α → Bool) (slots : Vector α cap) (count i : BitVec w)
    (h : count.toNat ≤ cap) :
    ∃ found, search p slots count i = .ok found ∧
      found.map BitVec.toNat =
        (((used slots count.toNat).drop i.toNat).findIdx? p).map (· + i.toNat) := by
  have len := used_length slots h
  have content (i : BitVec w) (below : i < count) (inside : i.toNat < cap) :
      (used slots count.toNat).drop i.toNat =
        slots.get ⟨i.toNat, inside⟩ :: (used slots count.toNat).drop (i + 1).toNat := by
    have short : i.toNat < (used slots count.toNat).length := by rw [len]; exact below
    rw [toNat_add_one_of_lt below, List.drop_eq_getElem_cons short]
    simp [used, Vector.get]
  fun_induction search p slots count i with
  | case1 i below inside here =>
    refine ⟨some i, rfl, ?_⟩
    rw [content i below inside, List.findIdx?_cons, if_pos here]
    simp
  | case2 i below inside other ih =>
    obtain ⟨found, run, index⟩ := ih
    refine ⟨found, run, ?_⟩
    rw [index, content i below inside, List.findIdx?_cons, if_neg other, toNat_add_one_of_lt below,
      Option.map_map]
    congr 1
    funext k
    simp only [Function.comp_apply]
    omega
  | case3 i below outside =>
    have below' : i.toNat < count.toNat := below
    omega
  | case4 i stop =>
    have stop' : count.toNat ≤ i.toNat := Nat.le_of_not_lt stop
    exact ⟨none, rfl, by rw [List.drop_eq_nil_of_le (by omega)]; rfl⟩

/-- The search loop finds the first slot in use with the property. -/
theorem search_eq_findIdx? (p : α → Bool) (slots : Vector α cap) (count : BitVec w)
    (h : count.toNat ≤ cap) :
    ∃ found, search p slots count 0 = .ok found ∧
      found.map BitVec.toNat = (used slots count.toNat).findIdx? p := by
  obtain ⟨found, run, index⟩ := search_from p slots count 0 h
  exact ⟨found, run, by simpa using index⟩

end SlotTable

end LamaOS
