import LamaOS.Misc.ByteMemory
import Mathlib.Data.List.Basic

/-!
# Packed layouts

A structure without padding is laid over a run of bytes: the offset of a member is the sum of
the sizes of the members before it. The bytes are a function of the offset, so that the same
members can be read from memory and from a file or a disk; `bytes`, `word16` and `word32` are
the members, low byte first, and depend on the bytes they cover only. A `Layout` says of the
values of a type which bytes they have: layouts of structures are put together from those of
the members, and what is read by one is `a` exactly where the bytes of `a` are.
-/

namespace LamaOS.Packed

variable {w : Nat} {v v' : Nat → Byte} {n i : Nat}

/-- The offset of the member after the first `k` ones. -/
def offset (sizes : List Nat) (k : Nat) : Nat := (sizes.take k).sum

/-- The `n` bytes at offset `i`. -/
def bytes (v : Nat → Byte) (i n : Nat) : Vector Byte n := Vector.ofFn fun j => v (i + j)

/-- The 16-bit word at offset `i`. -/
def word16 (v : Nat → Byte) (i : Nat) : BitVec 16 := v (i + 1) ++ v i

/-- The 32-bit word at offset `i`. -/
def word32 (v : Nat → Byte) (i : Nat) : BitVec 32 := v (i + 3) ++ v (i + 2) ++ v (i + 1) ++ v i

theorem bytes_congr (same : ∀ i < n, v i = v' i) {k : Nat} (inside : i + k ≤ n) :
    bytes v i k = bytes v' i k := by
  have each : (fun j : Fin k => v (i + j)) = fun j : Fin k => v' (i + j) := by
    funext j
    exact same _ (by omega)
  rw [bytes, bytes, each]

theorem word16_congr (same : ∀ i < n, v i = v' i) (inside : i + 2 ≤ n) :
    word16 v i = word16 v' i := by
  rw [word16, word16, same i (by omega), same (i + 1) (by omega)]

theorem word32_congr (same : ∀ i < n, v i = v' i) (inside : i + 4 ≤ n) :
    word32 v i = word32 v' i := by
  rw [word32, word32, same i (by omega), same (i + 1) (by omega), same (i + 2) (by omega),
    same (i + 3) (by omega)]

/-- The low byte of a word. -/
theorem setWidth_word16 (v : Nat → Byte) (i : Nat) : (word16 v i).setWidth 8 = v i := by
  rw [word16, BitVec.setWidth_append, dif_pos (Nat.le_refl 8), BitVec.setWidth_eq]

theorem setWidth_word32 (v : Nat → Byte) (i : Nat) : (word32 v i).setWidth 8 = v i := by
  rw [word32, BitVec.setWidth_append, dif_pos (Nat.le_refl 8), BitVec.setWidth_eq]

/-- The bytes of a memory from an address on. -/
def view (mem : Memory w) (addr : BitVec w) (i : Nat) : Byte := mem (addr + BitVec.ofNat w i)

/-- The offset of the `i`-th address from an address on. -/
theorem toNat_add_ofNat_sub (addr : BitVec w) (small : i < 2 ^ w) :
    (addr + BitVec.ofNat w i - addr).toNat = i := by
  have back : addr + BitVec.ofNat w i - addr = BitVec.ofNat w i := by grind
  rw [back, BitVec.toNat_ofNat, Nat.mod_eq_of_lt small]

/-- Stored bytes are seen where they were stored. -/
theorem view_writeBytes (mem : Memory w) (addr : BitVec w) {bs : List Byte}
    (fits : bs.length ≤ 2 ^ w) (inside : i < bs.length) :
    view (mem.writeBytes addr bs) addr i = bs[i] := by
  rw [view, Memory.writeBytes_apply mem addr bs fits,
    toNat_add_ofNat_sub addr (Nat.lt_of_lt_of_le inside fits), List.getElem?_eq_getElem inside,
    Option.getD_some]

/-! ## Layouts of records -/

/-- The `n` bytes from offset `i` on. -/
def slice (v : Nat → Byte) (i n : Nat) : List Byte := (List.range n).map fun j => v (i + j)

theorem slice_length (v : Nat → Byte) (i n : Nat) : (slice v i n).length = n := by
  rw [slice, List.length_map, List.length_range]

theorem slice_add (v : Nat → Byte) (i m n : Nat) :
    slice v i (m + n) = slice v i m ++ slice v (i + m) n := by
  rw [slice, List.range_add, List.map_append, List.map_map]
  congr 1
  refine List.map_congr_left fun j _ => ?_
  rw [Function.comp_apply, Nat.add_assoc]

/-- How values of a type lie in memory: the number of their bytes, the value that is read at an
offset, and the bytes that a value has. It is read exactly where it lies. -/
structure Layout (α : Type) where
  size : Nat
  read : (Nat → Byte) → Nat → α
  image : α → List Byte
  image_length : ∀ a, (image a).length = size
  read_eq_iff : ∀ {v i a}, read v i = a ↔ slice v i size = image a

namespace Layout

variable {α β : Type}

def byte : Layout Byte where
  size := 1
  read v i := v i
  image b := [b]
  image_length _ := rfl
  read_eq_iff := by
    intro v i a
    simp [slice]

/-- An array of bytes. -/
def byteArray (n : Nat) : Layout (Vector Byte n) where
  size := n
  read v i := bytes v i n
  image a := a.toList
  image_length a := a.length_toList
  read_eq_iff := by
    intro v i a
    have listed : (bytes v i n).toList = slice v i n := by
      apply List.ext_getElem
      · rw [slice_length, Vector.length_toList]
      · intro j inside inside'
        simp [bytes, slice]
    rw [← listed, Vector.toList_inj]

/-- Two bit strings make a longer one, which has both. -/
theorem append_eq_iff {m n : Nat} {high : BitVec n} {low : BitVec m} {whole : BitVec (n + m)} :
    high ++ low = whole ↔ low = whole.setWidth m ∧ high = (whole >>> m).setWidth n := by
  constructor
  · rintro rfl
    constructor
    · ext j small
      grind
    · ext j small
      grind
  · rintro ⟨rfl, rfl⟩
    ext j small
    grind

/-- A word whose low part lies in front of its high part. -/
def word {m n : Nat} (low : Layout (BitVec m)) (high : Layout (BitVec n)) :
    Layout (BitVec (n + m)) where
  size := low.size + high.size
  read v i := high.read v (i + low.size) ++ low.read v i
  image a := low.image (a.setWidth m) ++ high.image ((a >>> m).setWidth n)
  image_length a := by rw [List.length_append, low.image_length, high.image_length]
  read_eq_iff := by
    intro v i a
    rw [append_eq_iff, low.read_eq_iff, high.read_eq_iff, slice_add]
    constructor
    · rintro ⟨first, second⟩
      rw [first, second]
    · intro both
      exact List.append_inj both (by rw [slice_length, low.image_length])

/-- One value behind another. -/
def pair (first : Layout α) (second : Layout β) : Layout (α × β) where
  size := first.size + second.size
  read v i := (first.read v i, second.read v (i + first.size))
  image a := first.image a.1 ++ second.image a.2
  image_length a := by rw [List.length_append, first.image_length, second.image_length]
  read_eq_iff := by
    intro v i a
    rw [Prod.ext_iff, first.read_eq_iff, second.read_eq_iff, slice_add]
    constructor
    · rintro ⟨here, there⟩
      rw [here, there]
    · intro both
      exact List.append_inj both (by rw [slice_length, first.image_length])

/-- Values that lie as other ones do. -/
def via (layout : Layout α) (build : α → β) (parts : β → α)
    (law : ∀ a b, build a = b ↔ a = parts b) : Layout β where
  size := layout.size
  read v i := build (layout.read v i)
  image b := layout.image (parts b)
  image_length b := layout.image_length _
  read_eq_iff := by
    intro v i b
    rw [law, layout.read_eq_iff]

/-- The words of a structure, low byte first. -/
def word16 : Layout (BitVec 16) := word byte byte

def word32 : Layout (BitVec 32) := word byte (word byte (word byte byte))

end Layout

end LamaOS.Packed
