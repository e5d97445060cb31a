import LamaOS.Boot.Boot

/-!
# The cells of the screen

A video cell is a character and an attribute. `write_char` puts a cell together from the constant
attribute and a `char`, whose sign bit fills the bits of the attribute; after `clear_screen` and
any calls of `print` each cell holds the byte last written to it, and the attribute it is put
together with.
-/

namespace LamaOS

/-- The number of video cells. -/
abbrev screenCells : Nat := 80 * 25

def cellAddress (i : Nat) : RtU32 := vgaPort + 2 * BitVec.ofNat 32 i

/-- `clear_screen`. -/
def clearScreen (mem : BootMemory) : BootMemory :=
  (List.range screenCells).foldl
    (fun mem i => store16 (cellAddress i) (((0x0F : RtU32) <<< 8 ||| 0x20).setWidth 16) mem) mem

/-- The character byte of a cell. -/
def cellCharacter (mem : BootMemory) (i : Nat) : RtU8 := mem (cellAddress i)

/-- The attribute byte of a cell. -/
def cellAttribute (mem : BootMemory) (i : Nat) : RtU8 := mem (cellAddress i + 1)

/-- What `write_char` stores for a character. -/
def cellWord (c : RtU8) : RtU16 := ((0x0F : RtU32) <<< 8 ||| c.signExtend 32).setWidth 16

/-- The bytes that `print` writes: those in front of the NUL. -/
def printed (s : List RtU8) : List RtU8 := s.takeWhile (· ≠ 0)

/-- The writes of `print`: cells and bytes. -/
def printWrites (s : List RtU8) : List (Nat × RtU8) := (printed s).map fun c => (0, c)

/-- The byte last written to a cell of a cleared screen. -/
def lastWritten (writes : List (Nat × RtU8)) (i : Nat) : RtU8 :=
  writes.foldl (fun last write => if write.1 = i then write.2 else last) 0x20

/-- The screen is cleared, and the strings are printed in order. -/
def printAll (strings : List (List RtU8)) (mem : BootMemory) : BootMemory :=
  strings.foldl (fun mem s => print s mem) (clearScreen mem)

/-! ## One cell -/

/-- A byte is put into a cell. -/
def putCell (mem : BootMemory) (write : Nat × RtU8) : BootMemory :=
  store16 (cellAddress write.1) (cellWord write.2) mem

/-- The cell is as `write_char` leaves it for a character. -/
structure CellHolds (mem : BootMemory) (i : Nat) (c : RtU8) : Prop where
  low : cellCharacter mem i = (cellWord c).setWidth 8
  high : cellAttribute mem i = (cellWord c >>> 8).setWidth 8

theorem cellAddress_toNat {i : Nat} (inside : i < screenCells) :
    (cellAddress i).toNat = 0xB8000 + 2 * i := by
  simp only [cellAddress, vgaPort, screenCells] at inside ⊢
  bv_omega

theorem putCell_holds (mem : BootMemory) (i : Nat) (c : RtU8) :
    CellHolds (putCell mem (i, c)) i c where
  low := by
    have apart : cellAddress i ≠ cellAddress i + 1 := by bv_omega
    rw [cellCharacter, putCell, store16, Function.update_of_ne apart, Function.update_self]
  high := by
    rw [cellAttribute, putCell, store16, Function.update_self]

/-- A write to another cell leaves a cell as it is. -/
theorem CellHolds.putCell {mem : BootMemory} {i : Nat} {d : RtU8} (holds : CellHolds mem i d)
    (inside : i < screenCells) {write : Nat × RtU8} (within : write.1 < screenCells)
    (other : write.1 ≠ i) : CellHolds (putCell mem write) i d := by
  have here := cellAddress_toNat inside
  have there := cellAddress_toNat within
  have bound : screenCells = 2000 := rfl
  constructor
  · rw [← holds.low]
    apply store16_of_ne
    · bv_omega
    · bv_omega
  · rw [← holds.high]
    apply store16_of_ne
    · bv_omega
    · bv_omega

/-! ## Many cells -/

/-- After any writes a cell holds the last byte that one of them put there. -/
theorem CellHolds.writes {mem : BootMemory} {i : Nat} {last : RtU8} (holds : CellHolds mem i last)
    (inside : i < screenCells) {writes : List (Nat × RtU8)}
    (within : ∀ write ∈ writes, write.1 < screenCells) :
    CellHolds (writes.foldl LamaOS.putCell mem) i
      (writes.foldl (fun last write => if write.1 = i then write.2 else last) last) := by
  induction writes generalizing mem last with
  | nil => exact holds
  | cons write writes ih =>
    rw [List.foldl_cons, List.foldl_cons]
    apply ih
    · by_cases same : write.1 = i
      · rw [if_pos same, ← same]
        exact putCell_holds mem write.1 write.2
      · rw [if_neg same]
        exact holds.putCell inside (within write List.mem_cons_self) same
    · intro other mem
      exact within other (List.mem_cons_of_mem _ mem)

theorem clearScreen_holds (mem : BootMemory) {i : Nat} (inside : i < screenCells) :
    CellHolds (clearScreen mem) i 0x20 := by
  have blank : cellWord 0x20 = ((0x0F : RtU32) <<< 8 ||| 0x20).setWidth 16 := by decide
  have cleared : ∀ n ≤ screenCells, ∀ i < n, CellHolds ((List.range n).foldl
      (fun mem i => putCell mem (i, 0x20)) mem) i 0x20 := by
    intro n
    induction n with
    | zero =>
      intro _ i none
      exact absurd none (Nat.not_lt_zero i)
    | succ n ih =>
      intro room i below
      rw [List.range_succ, List.foldl_append]
      by_cases last : n = i
      · rw [← last]
        exact putCell_holds _ n 0x20
      · have before : i < n := by omega
        exact (ih (Nat.le_of_succ_le room) i before).putCell (by omega) room last
  rw [clearScreen, ← blank]
  exact cleared screenCells (Nat.le_refl _) i inside

/-! ## The strings -/

theorem print_eq_writes (s : List RtU8) (mem : BootMemory) :
    print s mem = (printWrites s).foldl putCell mem := by
  induction s generalizing mem with
  | nil => rfl
  | cons c cs ih =>
    by_cases nul : c = 0
    · simp [print, printWrites, printed, nul]
    · have first : writeChar c 0 0 mem = putCell mem (0, c) := rfl
      have written : printWrites (c :: cs) = (0, c) :: printWrites cs := by
        rw [printWrites, printed, List.takeWhile_cons_of_pos (by simpa using nul)]
        rfl
      rw [print, if_neg nul, ih, written, List.foldl_cons, first]

theorem printAll_eq_writes (strings : List (List RtU8)) (mem : BootMemory) :
    printAll strings mem = (strings.flatMap printWrites).foldl putCell (clearScreen mem) := by
  rw [printAll]
  generalize clearScreen mem = cleared
  induction strings generalizing cleared with
  | nil => rfl
  | cons s strings ih =>
    rw [List.foldl_cons, ih, List.flatMap_cons, List.foldl_append, print_eq_writes]

/-- After the strings, each cell holds the byte last written to it. -/
theorem printAll_holds (strings : List (List RtU8)) (mem : BootMemory) {i : Nat}
    (inside : i < screenCells) :
    CellHolds (printAll strings mem) i (lastWritten (strings.flatMap printWrites) i) := by
  rw [printAll_eq_writes]
  apply (clearScreen_holds mem inside).writes inside
  intro write mem
  rcases List.mem_flatMap.mp mem with ⟨s, -, written⟩
  rcases List.mem_map.mp written with ⟨c, -, rfl⟩
  show 0 < screenCells
  decide

/-- Bytes written to the first cell, over what the cells held before. -/
theorem foldl_written (bytes : List RtU8) (i : Nat) (last : RtU8) :
    (bytes.map fun c => (0, c)).foldl
        (fun last (write : Nat × RtU8) => if write.1 = i then write.2 else last) last =
      if i = 0 then bytes.getLast?.getD last else last := by
  induction bytes generalizing last with
  | nil => simp
  | cons c bytes ih =>
    rw [List.map_cons, List.foldl_cons, ih, List.getLast?_cons]
    by_cases first : i = 0
    · simp [first]
    · have other : (0, c).1 ≠ i := fun same => first same.symm
      rw [if_neg first, if_neg first, if_neg other]

/-- The first cell holds the last byte that was printed, the others stay blank. -/
theorem lastWritten_strings (strings : List (List RtU8)) (i : Nat) :
    lastWritten (strings.flatMap printWrites) i =
      if i = 0 then (strings.flatMap printed).getLast?.getD 0x20 else 0x20 := by
  have writes : strings.flatMap printWrites = (strings.flatMap printed).map fun c => (0, c) := by
    rw [List.map_flatMap]
    rfl
  rw [lastWritten, writes, foldl_written]

/-- A cell keeps the attribute exactly if the sign bit of its character is not set. -/
theorem CellHolds.kept_iff {mem : BootMemory} {i : Nat} {c : RtU8} (holds : CellHolds mem i c) :
    (cellAttribute mem i = 0x0F ∧ cellCharacter mem i = c) ↔ c.toNat < 0x80 := by
  have low : ∀ c : RtU8, (cellWord c).setWidth 8 = c := by decide
  have high : ∀ c : RtU8, (cellWord c >>> 8).setWidth 8 = (0x0F : RtU8) ↔ c.toNat < 0x80 := by
    decide
  rw [holds.high, holds.low, low, high]
  exact and_iff_left rfl

/-- After `clear_screen` and any calls of `print`, every cell has the attribute `0x0F` and the
byte last written to it exactly when the last byte printed, if there is one, is an ASCII
character. -/
theorem screen_attributes_iff (strings : List (List RtU8)) (mem : BootMemory) :
    (∀ i < screenCells, cellAttribute (printAll strings mem) i = 0x0F ∧
        cellCharacter (printAll strings mem) i = lastWritten (strings.flatMap printWrites) i) ↔
      ∀ c, (strings.flatMap printed).getLast? = some c → c.toNat < 0x80 := by
  have kept : ∀ i < screenCells, (cellAttribute (printAll strings mem) i = 0x0F ∧
      cellCharacter (printAll strings mem) i = lastWritten (strings.flatMap printWrites) i) ↔
        (lastWritten (strings.flatMap printWrites) i).toNat < 0x80 :=
    fun i inside => (printAll_holds strings mem inside).kept_iff
  have first : 0 < screenCells := by decide
  constructor
  · intro all c last
    have ascii := (kept 0 first).mp (all 0 first)
    rw [lastWritten_strings, if_pos rfl, last] at ascii
    exact ascii
  · intro ascii i inside
    apply (kept i inside).mpr
    rw [lastWritten_strings]
    split
    · cases last : (strings.flatMap printed).getLast? with
      | none => decide
      | some c => exact ascii c last
    · decide

/-- A letter of a Turkish message, in its two bytes of UTF-8, takes the attribute with it. -/
theorem screen_attributes_lost :
    ¬ ∀ i < screenCells, cellAttribute (printAll [cString "ı"] fun _ => 0) i = 0x0F ∧
      cellCharacter (printAll [cString "ı"] fun _ => 0) i =
        lastWritten ([cString "ı"].flatMap printWrites) i := by
  intro all
  have first : 0 < screenCells := by decide
  have ascii := (printAll_holds [cString "ı"] (fun _ => 0) first).kept_iff.mp (all 0 first)
  rw [lastWritten_strings] at ascii
  exact absurd ascii (by decide)

end LamaOS
