import Mathlib.Algebra.Order.Ring.Int
import Mathlib.Data.List.Induction
import Mathlib.Logic.Function.Basic

/-!
# Byte memories

A memory is a function from `w`-bit addresses to bytes; addresses wrap, as pointer
arithmetic on the machine does. `writeBytes` stores a byte string at consecutive addresses,
`readBytes` fetches one, and `read16`, `read32` and `read64` are little-endian words.
-/

namespace LamaOS

abbrev Byte := BitVec 8

/-- A memory with `w`-bit addresses. -/
abbrev Memory (w : Nat) := BitVec w → Byte

namespace Memory

variable {w : Nat}

/-- Store the bytes at `addr`, `addr + 1`, … -/
def writeBytes (mem : Memory w) (addr : BitVec w) : List Byte → Memory w
  | [] => mem
  | b :: bs => writeBytes (Function.update mem addr b) (addr + 1) bs

/-- The `n` bytes at `addr`, `addr + 1`, … -/
def readBytes (mem : Memory w) (addr : BitVec w) : Nat → List Byte
  | 0 => []
  | n + 1 => mem addr :: readBytes mem (addr + 1) n

/-- The array of `n` bytes at `addr`. -/
def bytesAt (mem : Memory w) (addr : BitVec w) (n : Nat) : Vector Byte n :=
  Vector.ofFn fun i => mem (addr + BitVec.ofNat w i)

/-- The 16-bit word at `addr`, low byte first. -/
def read16 (mem : Memory w) (addr : BitVec w) : BitVec 16 := mem (addr + 1) ++ mem addr

/-- The 32-bit word at `addr`, low byte first. -/
def read32 (mem : Memory w) (addr : BitVec w) : BitVec 32 :=
  mem (addr + 3) ++ mem (addr + 2) ++ mem (addr + 1) ++ mem addr

/-- The 64-bit word at `addr`, low half first. -/
def read64 (mem : Memory w) (addr : BitVec w) : BitVec 64 :=
  mem.read32 (addr + 4) ++ mem.read32 addr

theorem add_one_add_ofNat (addr : BitVec w) (n : Nat) :
    addr + 1 + BitVec.ofNat w n = addr + BitVec.ofNat w (n + 1) := by
  rw [BitVec.add_assoc, BitVec.ofNat_add, BitVec.add_comm (BitVec.ofNat w n)]
  rfl

theorem writeBytes_append (mem : Memory w) (addr : BitVec w) (xs ys : List Byte) :
    mem.writeBytes addr (xs ++ ys) =
      (mem.writeBytes addr xs).writeBytes (addr + BitVec.ofNat w xs.length) ys := by
  induction xs generalizing mem addr with
  | nil => simp [writeBytes]
  | cons x xs ih =>
    simp only [List.cons_append, writeBytes, List.length_cons]
    rw [ih, add_one_add_ofNat]

/-- Stepping back from a nonzero offset lowers it by one. -/
theorem toNat_sub_one_add_one {d : BitVec w} (h : d ≠ 0) : (d - 1).toNat + 1 = d.toNat := by
  have pos : 0 < d.toNat := by
    rw [Nat.pos_iff_ne_zero]
    exact fun e => h (BitVec.eq_of_toNat_eq (by simpa using e))
  have lt := d.isLt
  have big : 1 < 2 ^ w := by omega
  have one : (1 : BitVec w).toNat = 1 := by
    rw [BitVec.ofNat_eq_ofNat, BitVec.toNat_ofNat]
    exact Nat.mod_eq_of_lt big
  have shift : 2 ^ w - 1 + d.toNat = d.toNat - 1 + 2 ^ w := by omega
  rw [BitVec.toNat_sub, one, shift, Nat.add_mod_right, Nat.mod_eq_of_lt (by omega)]
  omega

/-- The bytes that fit into the address space are found where they were stored, and every
other address keeps its byte. -/
theorem writeBytes_apply (mem : Memory w) (addr : BitVec w) (bs : List Byte)
    (fits : bs.length ≤ 2 ^ w) (a : BitVec w) :
    mem.writeBytes addr bs a = (bs[(a - addr).toNat]?).getD (mem a) := by
  induction bs generalizing mem addr with
  | nil => simp [writeBytes]
  | cons b bs ih =>
    have short : bs.length + 1 ≤ 2 ^ w := fits
    rw [writeBytes, ih _ _ (by omega)]
    have back : a - (addr + 1) = a - addr - 1 := by grind
    by_cases here : a = addr
    · subst here
      -- the offset before the first byte wraps to `2 ^ w - 1`, past the end of the rest
      have past : bs.length ≤ (a - a - 1).toNat := by
        rw [BitVec.sub_self, BitVec.zero_sub, BitVec.ofNat_eq_ofNat,
          BitVec.neg_one_eq_allOnes, BitVec.toNat_allOnes]
        omega
      rw [back, List.getElem?_eq_none past]
      simp
    · have step := toNat_sub_one_add_one (d := a - addr) (fun h => here (by grind))
      rw [back, ← step, List.getElem?_cons_succ, Function.update_of_ne here]

/-- A byte behind the stored ones, counted from `addr` on around the address space, is kept. -/
theorem writeBytes_of_outside (mem : Memory w) {addr : BitVec w} {bs : List Byte} {a : BitVec w}
    (outside : bs.length ≤ (a - addr).toNat) : mem.writeBytes addr bs a = mem a := by
  have fits : bs.length ≤ 2 ^ w := Nat.le_trans outside (Nat.le_of_lt (a - addr).isLt)
  rw [writeBytes_apply mem addr bs fits a, List.getElem?_eq_none outside, Option.getD_none]

/-- A byte string that is read in two parts. -/
theorem readBytes_add (mem : Memory w) (addr : BitVec w) (m n : Nat) :
    mem.readBytes addr (m + n) =
      mem.readBytes addr m ++ mem.readBytes (addr + BitVec.ofNat w m) n := by
  induction m generalizing addr with
  | zero => simp [readBytes]
  | succ m ih =>
    rw [Nat.succ_add, readBytes, readBytes, ih, add_one_add_ofNat]
    rfl

/-- An array holds the bytes that are read at its address. -/
theorem toList_bytesAt (mem : Memory w) (addr : BitVec w) (n : Nat) :
    (mem.bytesAt addr n).toList = mem.readBytes addr n := by
  rw [bytesAt, Vector.toList_ofFn]
  induction n generalizing addr with
  | zero => rfl
  | succ n ih =>
    rw [List.ofFn_succ, readBytes, ← ih]
    simp only [add_one_add_ofNat, Fin.val_succ]
    simp

theorem readBytes_length (mem : Memory w) (addr : BitVec w) (n : Nat) :
    (mem.readBytes addr n).length = n := by
  induction n generalizing addr with
  | zero => rfl
  | succ n ih => rw [readBytes, List.length_cons, ih]

theorem readBytes_getElem (mem : Memory w) (addr : BitVec w) {n i : Nat}
    (inside : i < (mem.readBytes addr n).length) :
    (mem.readBytes addr n)[i] = mem (addr + BitVec.ofNat w i) := by
  induction n generalizing addr i with
  | zero => exact absurd inside (Nat.not_lt_zero i)
  | succ n ih =>
    cases i with
    | zero => exact congrArg mem (BitVec.add_zero addr).symm
    | succ i =>
      simp only [readBytes, List.getElem_cons_succ]
      rw [ih, add_one_add_ofNat]

/-- Two memories with the same four bytes hold the same word. -/
theorem read32_congr {mem mem' : Memory w} {addr : BitVec w}
    (same : ∀ k < 4, mem (addr + BitVec.ofNat w k) = mem' (addr + BitVec.ofNat w k)) :
    mem.read32 addr = mem'.read32 addr := by
  have first := same 0 (by decide)
  rw [show addr + BitVec.ofNat w 0 = addr from BitVec.add_zero addr] at first
  have second : mem (addr + 1) = mem' (addr + 1) := same 1 (by decide)
  have third : mem (addr + 2) = mem' (addr + 2) := same 2 (by decide)
  have fourth : mem (addr + 3) = mem' (addr + 3) := same 3 (by decide)
  rw [read32, read32, first, second, third, fourth]

/-! ## One byte replaced -/

/-- Within the address space, different offsets lead to different addresses. -/
theorem add_ofNat_ne (addr : BitVec w) {i j : Nat} (small : i < 2 ^ w) (small' : j < 2 ^ w)
    (different : i ≠ j) : addr + BitVec.ofNat w i ≠ addr + BitVec.ofNat w j := by
  intro same
  have offsets := congrArg BitVec.toNat ((BitVec.add_right_inj addr).mp same)
  rw [BitVec.toNat_ofNat, BitVec.toNat_ofNat, Nat.mod_eq_of_lt small,
    Nat.mod_eq_of_lt small'] at offsets
  exact different offsets

/-- In the bytes from `addr` on, the byte at the offset `i` is replaced and no other. -/
theorem readBytes_update (mem : Memory w) (addr : BitVec w) {n i : Nat} (fits : n ≤ 2 ^ w)
    (small : i < 2 ^ w) (b : Byte) :
    readBytes (Function.update mem (addr + BitVec.ofNat w i) b) addr n =
      (mem.readBytes addr n).set i b := by
  apply List.ext_getElem
  · rw [List.length_set, readBytes_length, readBytes_length]
  · intro j inside _
    have below : j < n := by rwa [readBytes_length] at inside
    rw [readBytes_getElem, List.getElem_set, readBytes_getElem]
    by_cases here : i = j
    · rw [if_pos here, here, Function.update_self]
    · rw [if_neg here, Function.update_of_ne]
      exact add_ofNat_ne addr (Nat.lt_of_lt_of_le below fits) small (Ne.symm here)

/-- A word at an offset is kept if the byte replaced is none of its four. -/
theorem read32_update (mem : Memory w) (addr : BitVec w) {n i : Nat} (fits : n + 4 ≤ 2 ^ w)
    (small : i < 2 ^ w) (outside : i < n ∨ n + 4 ≤ i) (b : Byte) :
    read32 (Function.update mem (addr + BitVec.ofNat w i) b) (addr + BitVec.ofNat w n) =
      mem.read32 (addr + BitVec.ofNat w n) := by
  apply read32_congr
  intro k below
  rw [BitVec.add_assoc, ← BitVec.ofNat_add, Function.update_of_ne]
  exact add_ofNat_ne addr (by omega) small (by omega)

/-! ## Strings that go around the address space -/

/-- The last byte of a string that is stored at `offset` from its start, when addresses wrap
after `2 ^ w` bytes. -/
def lastAt (w : Nat) (bs : List Byte) (offset : Nat) : Option Byte :=
  bs[offset + 2 ^ w * ((bs.length - 1 - offset) / 2 ^ w)]?

theorem lastAt_concat {offset : Nat} (small : offset < 2 ^ w) (bs : List Byte) (b : Byte) :
    lastAt w (bs ++ [b]) offset =
      if bs.length % 2 ^ w = offset then some b else lastAt w bs offset := by
  have room : 0 < 2 ^ w := Nat.two_pow_pos w
  have euclid := Nat.div_add_mod bs.length (2 ^ w)
  have length : (bs ++ [b]).length - 1 - offset = bs.length - offset := by simp
  rw [lastAt, length]
  by_cases here : bs.length % 2 ^ w = offset
  · -- the new byte is the last one at this offset
    have rounds : (bs.length - offset) / 2 ^ w = bs.length / 2 ^ w := by
      rw [show bs.length - offset = 2 ^ w * (bs.length / 2 ^ w) by omega]
      exact Nat.mul_div_cancel_left _ room
    have index : offset + 2 ^ w * (bs.length / 2 ^ w) = bs.length := by omega
    rw [if_pos here, rounds, index, List.getElem?_concat_length]
  · rw [if_neg here, lastAt]
    by_cases before : bs.length < offset
    · have none : bs.length - offset = 0 := by omega
      have none' : bs.length - 1 - offset = 0 := by omega
      rw [none, none', Nat.zero_div, Nat.mul_zero, Nat.add_zero,
        List.getElem?_eq_none (by rw [List.length_append, List.length_singleton]; omega),
        List.getElem?_eq_none (by omega)]
    · have rest : (bs.length - offset) % 2 ^ w ≠ 0 := by
        intro whole
        have split := Nat.div_add_mod (bs.length - offset) (2 ^ w)
        apply here
        rw [show bs.length = offset + 2 ^ w * ((bs.length - offset) / 2 ^ w) by omega,
          Nat.add_mul_mod_self_left, Nat.mod_eq_of_lt small]
      have split := Nat.div_add_mod (bs.length - offset) (2 ^ w)
      have below := Nat.mod_lt (bs.length - offset) room
      have rounds : (bs.length - 1 - offset) / 2 ^ w = (bs.length - offset) / 2 ^ w := by
        rw [show bs.length - 1 - offset = (bs.length - offset) % 2 ^ w - 1 +
          2 ^ w * ((bs.length - offset) / 2 ^ w) by omega, Nat.add_mul_div_left _ _ room,
          Nat.div_eq_of_lt (by omega), Nat.zero_add]
      rw [rounds, List.getElem?_append_left (by omega)]

theorem lastAt_of_le {bs : List Byte} {offset : Nat} (behind : bs.length ≤ offset) :
    lastAt w bs offset = none := by
  rw [lastAt, List.getElem?_eq_none (Nat.le_trans behind (Nat.le_add_right _ _))]

theorem writeBytes_concat (mem : Memory w) (addr : BitVec w) (bs : List Byte) (b : Byte) :
    mem.writeBytes addr (bs ++ [b]) =
      Function.update (mem.writeBytes addr bs) (addr + BitVec.ofNat w bs.length) b := by
  rw [writeBytes_append]
  rfl

/-- Of a string of any length, each address keeps the last byte that is stored there. -/
theorem writeBytes_lastAt (mem : Memory w) (addr : BitVec w) (bs : List Byte) (a : BitVec w) :
    mem.writeBytes addr bs a = (lastAt w bs (a - addr).toNat).getD (mem a) := by
  induction bs using List.reverseRecOn with
  | nil => simp [writeBytes, lastAt]
  | append_singleton bs b ih =>
    rw [writeBytes_concat, lastAt_concat (a - addr).isLt]
    by_cases here : a = addr + BitVec.ofNat w bs.length
    · have offset : bs.length % 2 ^ w = (a - addr).toNat := by
        rw [here, BitVec.add_comm, BitVec.add_sub_cancel, BitVec.toNat_ofNat]
      rw [if_pos offset, here, Function.update_self, Option.getD_some]
    · have offset : bs.length % 2 ^ w ≠ (a - addr).toNat := by
        intro same
        apply here
        have back : BitVec.ofNat w bs.length = a - addr :=
          BitVec.eq_of_toNat_eq (by rw [BitVec.toNat_ofNat, same])
        rw [back, BitVec.add_comm, BitVec.sub_add_cancel]
      rw [Function.update_of_ne here, if_neg offset, ih]

end Memory

end LamaOS
