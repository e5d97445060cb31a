import LamaOS.Boot.KernelFile
import LamaOS.Boot.Screen

/-!
# The boot sequence

`boot` clears the screen, prints a line and loads the kernel. Everything it can come to is told in
closed form here, for every size of the kernel file: when it ends, how, with which sectors read,
and with which byte at which address of memory. A size that is no multiple of 1024 makes the
loading loop take a sector off a smaller count; the count is then never near zero again, so that
only one pass of the run copies less than a sector.
-/

namespace LamaOS

/-- `find_file`: `none` is a nonzero return code. -/
abbrev FindFile := List RtU8 → Option DirEntry

/-- The memory that the kernel is loaded into: the screen is cleared, and the first line is
printed. -/
def bootScreen (mem : BootMemory) : BootMemory :=
  print (cString "Bootloader Calisiyor...\n") (clearScreen mem)

/-- `boot`, started on the memory `mem`, ends so. -/
def Boot (disk : Disk) (findFile : FindFile) (mem : BootMemory) (outcome : LoadOutcome) : Prop :=
  LoadKernelFromFat32 disk findFile (bootScreen mem) outcome

/-! ## The bytes that are stored -/

/-- How many bytes of its sector a full pass copies. -/
def passBytes (kernelSize : RtU32) (pass : Nat) : Nat :=
  if pass = kernelSize.toNat / 1024 then kernelSize.toNat % 1024 else sectorSize

/-- What the first `n` passes store, from `KERNEL_LOAD_ADDRESS` on. -/
def storedBytes (disk : Disk) (kernelSector kernelSize : RtU32) (n : Nat) : List RtU8 :=
  (List.range n).flatMap fun pass =>
    ((disk (kernelSector + BitVec.ofNat 32 pass)).elim [] Vector.toList).take
      (passBytes kernelSize pass)

/-- The loading loop is left after `n` full passes. -/
inductive LeftAfter (disk : Disk) (kernelSector kernelSize : RtU32) (n : Nat) : LoadEnd → Prop where
  | kernelMain (readable : Readable disk kernelSector n) (size : kernelSize.toNat = 1024 * n) :
    LeftAfter disk kernelSector kernelSize n .kernelMain
  | returned (readable : Readable disk kernelSector n)
      (failed : disk (kernelSector + BitVec.ofNat 32 n) = none)
      (before : kernelSize.toNat % 1024 = 0 → n < kernelSize.toNat / 1024) :
    LeftAfter disk kernelSector kernelSize n .returned

/-- What `load_kernel` leaves when its loop is left after `n` full passes. -/
def loadEnded (disk : Disk) (kernelSector kernelSize : RtU32) (mem : BootMemory) (n : Nat) :
    LoadEnd → LoadOutcome
  | .kernelMain =>
    ⟨.kernelMain, print (cString "Kernel yuklendi, baslatiliyor...\n")
      (mem.writeBytes kernelLoadAddress (storedBytes disk kernelSector kernelSize n)),
      sectorsFrom kernelSector n⟩
  | .returned =>
    ⟨.returned, print (cString "Disk okuma hatası!\n")
      (mem.writeBytes kernelLoadAddress (storedBytes disk kernelSector kernelSize n)),
      sectorsFrom kernelSector (n + 1)⟩

theorem storedBytes_succ (disk : Disk) (kernelSector kernelSize : RtU32) (n : Nat)
    {buffer : Sector} (read : disk (kernelSector + BitVec.ofNat 32 n) = some buffer) :
    storedBytes disk kernelSector kernelSize (n + 1) =
      storedBytes disk kernelSector kernelSize n ++ buffer.toList.take (passBytes kernelSize n) := by
  simp [storedBytes, List.range_succ, read]

/-! ## Every pass -/

/-- The state after `n` full passes, for every size. -/
structure LoadStored (disk : Disk) (kernelSector kernelSize : RtU32) (mem : BootMemory)
    (n : Nat) (s : LoadState) : Prop where
  asked : ReadsFrom kernelSector n s
  readable : Readable disk kernelSector n
  /-- As long as the count has not wrapped, it has gone down by 1024 in every pass. -/
  counting : n ≤ kernelSize.toNat / 1024 → s.kernelSize.toNat + 1024 * n = kernelSize.toNat
  /-- After that a sector can always be taken off it, and it never comes to a multiple of 1024. -/
  wrapped : kernelSize.toNat / 1024 < n →
    kernelSize.toNat % 1024 ≠ 0 ∧ sectorSize ≤ s.kernelSize.toNat % 1024
  address : s.kernelAddress = kernelLoadAddress +
    BitVec.ofNat 32 (storedBytes disk kernelSector kernelSize n).length
  loaded : s.mem = mem.writeBytes kernelLoadAddress (storedBytes disk kernelSector kernelSize n)

variable {disk : Disk} {kernelSector kernelSize : RtU32} {mem : BootMemory}

theorem loadStored_start :
    LoadStored disk kernelSector kernelSize mem 0
      (loadKernelStart kernelSector kernelSize mem) where
  asked := ⟨by simp [loadKernelStart], rfl⟩
  readable := fun j hj => absurd hj (Nat.not_lt_zero j)
  counting := fun _ => rfl
  wrapped := fun before => absurd before (Nat.not_lt_zero _)
  address := by simp [loadKernelStart, storedBytes]
  loaded := rfl

/-- What the copy loop can take of a sector, in each pass. -/
theorem LoadStored.copied {n : Nat} {s : LoadState}
    (inv : LoadStored disk kernelSector kernelSize mem n s) (buffer : Sector) :
    buffer.toList.take s.kernelSize.toNat = buffer.toList.take (passBytes kernelSize n) := by
  have length : buffer.toList.length = sectorSize := Vector.length_toList
  have whole {k : Nat} (enough : sectorSize ≤ k) : buffer.toList.take k = buffer.toList :=
    List.take_of_length_le (by omega)
  have size := Nat.div_add_mod kernelSize.toNat 1024
  have sector : sectorSize = 512 := rfl
  unfold passBytes
  rcases Nat.lt_trichotomy n (kernelSize.toNat / 1024) with before | here | behind
  · have count := inv.counting (by omega)
    rw [if_neg (by omega), whole (by omega), whole (Nat.le_refl _)]
  · have count := inv.counting (by omega)
    rw [if_pos here, show s.kernelSize.toNat = kernelSize.toNat % 1024 by omega]
  · have count := (inv.wrapped behind).2
    have enough : sectorSize ≤ s.kernelSize.toNat := Nat.le_trans count (Nat.mod_le _ _)
    rw [if_neg (by omega), whole enough, whole (Nat.le_refl _)]

/-- The count after a pass that finds `count`: the copy loop and the header each take a sector off
it, or the copy loop takes what there is and the header wraps it. -/
def countAfter (count : RtU32) : RtU32 :=
  count - BitVec.ofNat 32 (min sectorSize count.toNat) - BitVec.ofNat 32 sectorSize

theorem countAfter_of_full {count : RtU32} (full : 1024 ≤ count.toNat) :
    (countAfter count).toNat = count.toNat - 1024 := by
  have below := count.isLt
  have taken : min sectorSize count.toNat = 512 := by simp only [sectorSize]; omega
  simp only [countAfter, taken, BitVec.toNat_sub, BitVec.toNat_ofNat, sectorSize]
  omega

theorem countAfter_wraps {count : RtU32} (positive : 0 < count.toNat)
    (short : count.toNat < 1024 ∨ sectorSize ≤ count.toNat % 1024) :
    sectorSize ≤ (countAfter count).toNat % 1024 := by
  have below := count.isLt
  simp only [countAfter, BitVec.toNat_sub, BitVec.toNat_ofNat, sectorSize] at short ⊢
  omega

theorem loadStored_pass (n : Nat) (s s' : LoadState)
    (inv : LoadStored disk kernelSector kernelSize mem n s)
    (h : loadKernelPass disk s = .inl s') :
    LoadStored disk kernelSector kernelSize mem (n + 1) s' := by
  have asked := readsFrom_pass n s s' inv.asked h
  obtain ⟨more, buffer, read, rfl⟩ := loadKernelPass_inl h
  have positive : 0 < s.kernelSize.toNat := by bv_omega
  have below := s.kernelSize.isLt
  have size := Nat.div_add_mod kernelSize.toNat 1024
  have sector : sectorSize = 512 := rfl
  rw [inv.asked.sector] at read
  have copied := inv.copied buffer
  have length : min sectorSize s.kernelSize.toNat =
      (buffer.toList.take (passBytes kernelSize n)).length := by
    rw [← copied, List.length_take, Vector.length_toList, Nat.min_comm]
  have count : (copySector buffer.toList s).kernelSize - BitVec.ofNat 32 sectorSize =
      countAfter s.kernelSize := by
    rw [copySector_eq, Vector.length_toList, countAfter]
  refine ⟨asked, ?_, ?_, ?_, ?_, ?_⟩
  · intro j earlier
    rcases Nat.lt_succ_iff_lt_or_eq.mp earlier with earlier | rfl
    · exact inv.readable j earlier
    · simp [read]
  · intro room
    have before := inv.counting (by omega)
    have full : 1024 ≤ s.kernelSize.toNat := by omega
    have after : (countAfter s.kernelSize).toNat + 1024 * n + 1024 = kernelSize.toNat := by
      rw [countAfter_of_full full, Nat.add_right_comm, Nat.sub_add_cancel full, before]
    rw [← after, Nat.mul_succ, ← Nat.add_assoc]
    exact congrArg (fun c : RtU32 => c.toNat + 1024 * n + 1024) count
  · intro behind
    simp only [count]
    by_cases last : n = kernelSize.toNat / 1024
    · -- the pass in which the count wraps
      have before := inv.counting (Nat.le_of_eq last)
      exact ⟨by omega, countAfter_wraps positive (.inl (by omega))⟩
    · have before := inv.wrapped (by omega)
      exact ⟨before.1, countAfter_wraps positive (.inr before.2)⟩
  · simp only [copySector_eq, Vector.length_toList]
    rw [inv.address, storedBytes_succ _ _ _ _ read, List.length_append, BitVec.ofNat_add, length,
      BitVec.add_assoc]
  · simp only [copySector_eq]
    rw [inv.loaded, inv.address, copied, storedBytes_succ _ _ _ _ read, Memory.writeBytes_append]

/-! ## Every end -/

theorem loadStored_leave (n : Nat) (s : LoadState) (outcome : LoadOutcome)
    (inv : LoadStored disk kernelSector kernelSize mem n s)
    (h : loadKernelPass disk s = .inr outcome) :
    ∃ ending, LeftAfter disk kernelSector kernelSize n ending ∧
      outcome = loadEnded disk kernelSector kernelSize mem n ending := by
  have size := Nat.div_add_mod kernelSize.toNat 1024
  rw [loadKernelPass] at h
  split at h
  · rename_i more
    have positive : 0 < s.kernelSize.toNat := by bv_omega
    cases read : disk s.sector with
    | some buffer => rw [read] at h; cases h
    | none =>
      rw [read] at h
      obtain rfl := Sum.inr.inj h
      rw [inv.asked.sector] at read
      refine ⟨.returned, .returned inv.readable read ?_, ?_⟩
      · intro even
        by_contra late
        rcases Nat.lt_or_ge (kernelSize.toNat / 1024) n with behind | here
        · exact (inv.wrapped behind).1 even
        · have count := inv.counting here
          omega
      · rw [loadEnded, inv.loaded, inv.asked.reads, inv.asked.sector, sectorsFrom_succ]
  · rename_i stop
    have zero : s.kernelSize.toNat = 0 := by bv_omega
    obtain rfl := Sum.inr.inj h
    have early : n ≤ kernelSize.toNat / 1024 := by
      by_contra behind
      have count := (inv.wrapped (Nat.lt_of_not_le behind)).2
      rw [zero] at count
      exact absurd count (by decide)
    have count := inv.counting early
    refine ⟨.kernelMain, .kernelMain inv.readable (by omega), ?_⟩
    rw [loadEnded, inv.loaded, inv.asked.reads]

/-- There is one way to leave the loop at most. -/
theorem LeftAfter.unique {n n' : Nat} {ending ending' : LoadEnd}
    (left : LeftAfter disk kernelSector kernelSize n ending)
    (left' : LeftAfter disk kernelSector kernelSize n' ending') : n = n' ∧ ending = ending' := by
  have first {j k : Nat} (failed : disk (kernelSector + BitVec.ofNat 32 j) = none)
      (readable : Readable disk kernelSector k) : k ≤ j := by
    by_contra later
    have good := readable j (Nat.lt_of_not_le later)
    rw [failed] at good
    cases good
  cases left with
  | kernelMain readable size =>
    cases left' with
    | kernelMain readable' size' => exact ⟨by omega, rfl⟩
    | returned readable' failed' before' =>
      have := first failed' readable
      have := before' (by omega)
      omega
  | returned readable failed before =>
    cases left' with
    | kernelMain readable' size' =>
      have := first failed readable'
      have := before (by omega)
      omega
    | returned readable' failed' before' =>
      exact ⟨Nat.le_antisymm (first failed' readable) (first failed readable'), rfl⟩

/-- The ends of `load_kernel`, for every size, disk and memory. -/
theorem loadKernel_iff {outcome : LoadOutcome} :
    LoadKernel disk kernelSector kernelSize mem outcome ↔
      ∃ n ending, LeftAfter disk kernelSector kernelSize n ending ∧
        outcome = loadEnded disk kernelSector kernelSize mem n ending := by
  have told {outcome : LoadOutcome} (ends : LoadKernel disk kernelSector kernelSize mem outcome) :=
    Loop.exits_post (LoadStored disk kernelSector kernelSize mem) _ loadStored_pass
      loadStored_leave loadStored_start ends
  constructor
  · exact told
  · rintro ⟨n, ending, left, rfl⟩
    have ends : ∃ outcome, LoadKernel disk kernelSector kernelSize mem outcome := by
      cases left with
      | kernelMain readable size =>
        exact loadKernel_ends_of_multiple disk kernelSector kernelSize mem (by omega)
      | returned readable failed before => exact loadKernel_ends_of_failure failed
    obtain ⟨outcome, ends⟩ := ends
    obtain ⟨n', ending', left', rfl⟩ := told ends
    obtain ⟨rfl, rfl⟩ := left.unique left'
    exact ends

/-! ## The ends of `boot` -/

/-- The sectors of a sector number and what lies behind it, around the 32 bits of the number, are
all sectors. -/
theorem exists_unreadable_iff (disk : Disk) (kernelSector : RtU32) :
    (∃ n, disk (kernelSector + BitVec.ofNat 32 n) = none) ↔ ∃ sector, disk sector = none := by
  constructor
  · rintro ⟨n, failed⟩
    exact ⟨_, failed⟩
  · rintro ⟨sector, failed⟩
    refine ⟨(sector - kernelSector).toNat, ?_⟩
    rw [BitVec.ofNat_toNat, BitVec.setWidth_eq, BitVec.add_comm, BitVec.sub_add_cancel]
    exact failed

section Boot

variable {findFile : FindFile} {outcome : LoadOutcome}

/-- Without a kernel file `boot` returns at once. -/
theorem boot_of_none (found : findFile (cString "kernel.c") = none) :
    Boot disk findFile mem outcome ↔ outcome = ⟨.returned,
      print (cString "kernel.c dosyasi bulunamadi!\n") (bootScreen mem), []⟩ := by
  rw [Boot, LoadKernelFromFat32, found]

/-- With one it comes to the ends of `load_kernel`. -/
theorem boot_of_some {entry : DirEntry} (found : findFile (cString "kernel.c") = some entry) :
    Boot disk findFile mem outcome ↔
      ∃ n ending, LeftAfter disk entry.firstCluster entry.fileSize n ending ∧
        outcome = loadEnded disk entry.firstCluster entry.fileSize (bootScreen mem) n ending := by
  rw [Boot, LoadKernelFromFat32, found]
  exact loadKernel_iff

/-- It goes on for ever exactly if the size of the file is no multiple of 1024 and no sector of the
disk is unreadable, wherever the file is. -/
theorem boot_endless_iff {entry : DirEntry} (found : findFile (cString "kernel.c") = some entry) :
    (∀ outcome, ¬ Boot disk findFile mem outcome) ↔
      entry.fileSize.toNat % 1024 ≠ 0 ∧ ∀ sector, disk sector ≠ none := by
  have boot (outcome : LoadOutcome) : Boot disk findFile mem outcome ↔
      LoadKernel disk entry.firstCluster entry.fileSize (bootScreen mem) outcome := by
    rw [Boot, LoadKernelFromFat32, found]
  constructor
  · intro endless
    constructor
    · intro even
      obtain ⟨outcome, ends⟩ := loadKernel_ends_of_multiple disk entry.firstCluster
        entry.fileSize (bootScreen mem) even
      exact endless outcome ((boot outcome).mpr ends)
    · intro sector failed
      obtain ⟨n, failed⟩ := (exists_unreadable_iff disk entry.firstCluster).mpr ⟨sector, failed⟩
      obtain ⟨outcome, ends⟩ : ∃ outcome, LoadKernel disk entry.firstCluster entry.fileSize
        (bootScreen mem) outcome := loadKernel_ends_of_failure failed
      exact endless outcome ((boot outcome).mpr ends)
  · rintro ⟨odd, sound⟩ outcome ends
    obtain ⟨n, ending, left, rfl⟩ := (boot_of_some found).mp ends
    cases left with
    | kernelMain _ size => omega
    | returned _ failed _ => exact sound _ failed

end Boot

/-- All that `boot` can come to. Without a kernel file it returns at once. With one it ends in one
way at most, after the passes that `LeftAfter` tells, and `loadEnded` is what it leaves; and it
goes on for ever exactly if the size of the file is no multiple of 1024 and no sector of the disk
is unreadable, wherever the file is. -/
theorem boot_outcomes (disk : Disk) (findFile : FindFile) (mem : BootMemory) :
    (∀ outcome, Boot disk findFile mem outcome ↔
      (findFile (cString "kernel.c") = none ∧ outcome = ⟨.returned,
        print (cString "kernel.c dosyasi bulunamadi!\n") (bootScreen mem), []⟩) ∨
      ∃ entry n ending, findFile (cString "kernel.c") = some entry ∧
        LeftAfter disk entry.firstCluster entry.fileSize n ending ∧
        outcome = loadEnded disk entry.firstCluster entry.fileSize (bootScreen mem) n ending) ∧
    (∀ outcome outcome', Boot disk findFile mem outcome → Boot disk findFile mem outcome' →
      outcome = outcome') ∧
    ((∀ outcome, ¬ Boot disk findFile mem outcome) ↔
      ∃ entry, findFile (cString "kernel.c") = some entry ∧ entry.fileSize.toNat % 1024 ≠ 0 ∧
        ∀ sector, disk sector ≠ none) := by
  cases found : findFile (cString "kernel.c") with
  | none =>
    refine ⟨?_, ?_, ?_⟩
    · intro outcome
      simp [boot_of_none found]
    · intro outcome outcome' ends ends'
      rw [(boot_of_none found).mp ends, (boot_of_none found).mp ends']
    · simp [boot_of_none found]
  | some entry =>
    refine ⟨?_, ?_, ?_⟩
    · intro outcome
      simp [boot_of_some found]
    · intro outcome outcome' ends ends'
      obtain ⟨n, ending, left, rfl⟩ := (boot_of_some found).mp ends
      obtain ⟨n', ending', left', rfl⟩ := (boot_of_some found).mp ends'
      obtain ⟨rfl, rfl⟩ := left.unique left'
      rfl
    · rw [boot_endless_iff found]
      simp

/-! ## The memory that `boot` leaves -/

/-- The bytes of the video cells. -/
def OnScreen (a : RtU32) : Prop :=
  vgaPort.toNat ≤ a.toNat ∧ a.toNat < vgaPort.toNat + 2 * screenCells

instance (a : RtU32) : Decidable (OnScreen a) := inferInstanceAs (Decidable (_ ∧ _))

/-- The number of full passes behind an end. -/
def LoadOutcome.passes (outcome : LoadOutcome) : Nat :=
  match outcome.ending with
  | .kernelMain => outcome.reads.length
  | .returned => outcome.reads.length - 1

/-- What `n` passes of `boot` store, if there is a kernel file. -/
def bootStored (disk : Disk) (findFile : FindFile) (n : Nat) : List RtU8 :=
  (findFile (cString "kernel.c")).elim [] fun entry =>
    storedBytes disk entry.firstCluster entry.fileSize n

/-- What `clear_screen` puts at an address of the screen: blanks and attributes in turn. -/
def blankByte (a : RtU32) : RtU8 := if a.toNat % 2 = 0 then 0x20 else 0x0F

theorem clearScreen_apply (mem : BootMemory) (a : RtU32) :
    clearScreen mem a = if OnScreen a then blankByte a else mem a := by
  have base : vgaPort.toNat = 0xB8000 := by decide
  have cleared : ∀ n ≤ screenCells, ((List.range n).foldl (fun mem i => store16 (cellAddress i)
      (((0x0F : RtU32) <<< 8 ||| 0x20).setWidth 16) mem) mem) a =
        if vgaPort.toNat ≤ a.toNat ∧ a.toNat < vgaPort.toNat + 2 * n then blankByte a
        else mem a := by
    intro n
    induction n with
    | zero =>
      intro _
      rw [if_neg (by omega)]
      rfl
    | succ n ih =>
      intro room
      have here := cellAddress_toNat room
      have size : screenCells = 2000 := rfl
      rw [List.range_succ, List.foldl_append, List.foldl_cons, List.foldl_nil, store16]
      have next : (cellAddress n + 1).toNat = 0xB8000 + 2 * n + 1 := by
        rw [BitVec.toNat_add, here]
        show (0xB8000 + 2 * n + 1) % 2 ^ 32 = _
        omega
      by_cases high : a = cellAddress n + 1
      · rw [high, Function.update_self, if_pos (by omega), blankByte, if_neg (by omega)]
        decide
      · rw [Function.update_of_ne high]
        by_cases low : a = cellAddress n
        · rw [low, Function.update_self, if_pos (by omega), blankByte, if_pos (by omega)]
          decide
        · have other : a.toNat ≠ 0xB8000 + 2 * n := by
            intro same
            exact low (BitVec.eq_of_toNat_eq (by omega))
          have other' : a.toNat ≠ 0xB8000 + 2 * n + 1 := by
            intro same
            exact high (BitVec.eq_of_toNat_eq (by omega))
          rw [Function.update_of_ne low, ih (by omega)]
          have same : (vgaPort.toNat ≤ a.toNat ∧ a.toNat < vgaPort.toNat + 2 * (n + 1)) ↔
              (vgaPort.toNat ≤ a.toNat ∧ a.toNat < vgaPort.toNat + 2 * n) := by
            omega
          simp only [same]
  exact cleared screenCells (Nat.le_refl _)

/-- A message that ends with a line feed leaves it, white on black, in the first cell. -/
theorem print_line {s : List RtU8} (noNul : ∀ c ∈ s, c ≠ 0) (line : s.getLast? = some 0x0A)
    (mem : BootMemory) (a : RtU32) :
    print s mem a = if a = vgaPort then 0x0A else if a = vgaPort + 1 then 0x0F else mem a := by
  have cell : writeChar 0x0A 0 0 mem =
      Function.update (Function.update mem vgaPort 0x0A) (vgaPort + 1) 0x0F := rfl
  rw [print_eq_last s mem noNul, line, Option.elim_some, cell]
  by_cases high : a = vgaPort + 1
  · rw [high, Function.update_self, if_neg (by decide), if_pos rfl]
  · rw [Function.update_of_ne high, if_neg high, Function.update_apply]

theorem bootScreen_apply (mem : BootMemory) (a : RtU32) :
    bootScreen mem a = if a = vgaPort then 0x0A else if a = vgaPort + 1 then 0x0F
      else if OnScreen a then blankByte a else mem a := by
  rw [bootScreen, print_line (by decide +kernel) (by decide +kernel), clearScreen_apply]

theorem sectorsFrom_length (kernelSector : RtU32) (n : Nat) :
    (sectorsFrom kernelSector n).length = n := by
  simp [sectorsFrom]

/-- However `boot` ends, the last thing it does is to print a line, over the kernel bytes it has
stored by then. -/
theorem boot_printed {findFile : FindFile} {outcome : LoadOutcome}
    (ends : Boot disk findFile mem outcome) (a : RtU32) :
    outcome.mem a = if a = vgaPort then 0x0A else if a = vgaPort + 1 then 0x0F
      else (bootScreen mem).writeBytes kernelLoadAddress
        (bootStored disk findFile outcome.passes) a := by
  cases found : findFile (cString "kernel.c") with
  | none =>
    obtain rfl := (boot_of_none found).mp ends
    rw [bootStored, found]
    exact print_line (by decide +kernel) (by decide +kernel) _ a
  | some entry =>
    obtain ⟨n, ending, -, rfl⟩ := (boot_of_some found).mp ends
    cases ending with
    | kernelMain =>
      rw [bootStored, found, LoadOutcome.passes, loadEnded]
      dsimp only [Option.elim_some]
      rw [sectorsFrom_length]
      exact print_line (by decide +kernel) (by decide +kernel) _ a
    | returned =>
      rw [bootStored, found, LoadOutcome.passes, loadEnded]
      dsimp only [Option.elim_some]
      rw [sectorsFrom_length, Nat.add_sub_cancel]
      exact print_line (by decide +kernel) (by decide +kernel) _ a

/-- The memory after `boot`, byte by byte, however it ends: the line feed of the last message, and
everywhere else the kernel byte stored there last, if there is one, or else a blank of the screen,
or what was there before. While the kernel stays below the video memory all the screen is blank
but for its first cell, so the screen does not tell one message from another. -/
theorem boot_memory {findFile : FindFile} {outcome : LoadOutcome}
    (ends : Boot disk findFile mem outcome) :
    (∀ a, outcome.mem a = if a = vgaPort then 0x0A else if a = vgaPort + 1 then 0x0F
      else (Memory.lastAt 32 (bootStored disk findFile outcome.passes)
        (a - kernelLoadAddress).toNat).getD (if OnScreen a then blankByte a else mem a)) ∧
    (kernelLoadAddress.toNat + (bootStored disk findFile outcome.passes).length ≤ vgaPort.toNat →
      ∀ i < screenCells, CellHolds outcome.mem i (if i = 0 then 0x0A else 0x20)) := by
  have bytes : ∀ a, outcome.mem a = if a = vgaPort then 0x0A else if a = vgaPort + 1 then 0x0F
      else (Memory.lastAt 32 (bootStored disk findFile outcome.passes)
        (a - kernelLoadAddress).toNat).getD (if OnScreen a then blankByte a else mem a) := by
    intro a
    rw [boot_printed ends, Memory.writeBytes_lastAt, bootScreen_apply]
    by_cases low : a = vgaPort
    · rw [if_pos low, if_pos low]
    · by_cases high : a = vgaPort + 1
      · rw [if_neg low, if_pos high, if_neg low, if_pos high]
      · rw [if_neg low, if_neg high, if_neg low, if_neg high, if_neg low, if_neg high]
  refine ⟨bytes, ?_⟩
  intro below i inside
  have base : kernelLoadAddress.toNat = 0x10000 := by decide
  have screen : vgaPort.toNat = 0xB8000 := by decide
  have here := cellAddress_toNat inside
  have size : screenCells = 2000 := rfl
  -- a byte of the screen lies behind the kernel
  have blank {a : RtU32} (on : OnScreen a) : outcome.mem a =
      if a = vgaPort then 0x0A else if a = vgaPort + 1 then 0x0F else blankByte a := by
    have behind : (bootStored disk findFile outcome.passes).length ≤
        (a - kernelLoadAddress).toNat := by
      have := on.1
      have := a.isLt
      rw [BitVec.toNat_sub]
      omega
    rw [bytes, Memory.lastAt_of_le behind, if_pos on, Option.getD_none]
  have next : (cellAddress i + 1).toNat = 0xB8000 + 2 * i + 1 := by
    rw [BitVec.toNat_add, here]
    show (0xB8000 + 2 * i + 1) % 2 ^ 32 = _
    omega
  have char := blank (a := cellAddress i) ⟨by omega, by omega⟩
  have attr := blank (a := cellAddress i + 1) ⟨by omega, by omega⟩
  by_cases first : i = 0
  · subst first
    exact ⟨char, attr⟩
  · have apart {a : RtU32} (far : 0xB8002 ≤ a.toNat) : a ≠ vgaPort ∧ a ≠ vgaPort + 1 := by
      constructor
      · rintro rfl
        exact absurd far (by decide)
      · rintro rfl
        exact absurd far (by decide)
    have away := @apart (cellAddress i) (by omega)
    have away' := @apart (cellAddress i + 1) (by omega)
    rw [if_neg away.1, if_neg away.2, blankByte, if_pos (by omega)] at char
    rw [if_neg away'.1, if_neg away'.2, blankByte, if_neg (by omega)] at attr
    rw [if_neg first]
    exact ⟨char, attr⟩

/-- A disk whose sector 9 cannot be read. -/
def brokenDisk : Disk := fun sector => if sector = 9 then none else some (Vector.replicate sectorSize 7)

/-- Of a kernel of 768 bytes behind sector 8 the first sector is stored, and the screen is as if
there had been no kernel file. -/
theorem boot_memory_broken : ∃ outcome,
    Boot brokenDisk (fun _ => some ⟨8, 768⟩) (fun _ => 0) outcome ∧
      outcome.mem 0x101FF = 7 ∧ outcome.mem 0x10200 = 0 ∧
      ∀ i < screenCells, CellHolds outcome.mem i (if i = 0 then 0x0A else 0x20) := by
  have left : LeftAfter brokenDisk 8 768 1 .returned := by
    refine .returned ?_ rfl ?_
    · intro j first
      obtain rfl : j = 0 := Nat.lt_one_iff.mp first
      rfl
    · intro even
      exact absurd even (by decide)
  have found : (fun _ => some ⟨8, 768⟩ : FindFile) (cString "kernel.c") = some ⟨8, 768⟩ := rfl
  have ends : Boot brokenDisk (fun _ => some ⟨8, 768⟩) (fun _ => 0)
      (loadEnded brokenDisk 8 768 (bootScreen fun _ => 0) 1 .returned) :=
    (boot_of_some found).mpr ⟨1, .returned, left, by dsimp only⟩
  have told := boot_memory ends
  have passes : LoadOutcome.passes
      (loadEnded brokenDisk 8 768 (bootScreen fun _ => 0) 1 .returned) = 1 := by
    rw [loadEnded, LoadOutcome.passes]
    dsimp only
    rw [sectorsFrom_length]
  rw [passes] at told
  have last : Memory.lastAt 32 (bootStored brokenDisk (fun _ => some ⟨8, 768⟩) 1)
      ((0x101FF : RtU32) - kernelLoadAddress).toNat = some 7 := by
    decide +kernel
  have behind : Memory.lastAt 32 (bootStored brokenDisk (fun _ => some ⟨8, 768⟩) 1)
      ((0x10200 : RtU32) - kernelLoadAddress).toNat = none := by
    decide +kernel
  have short : (bootStored brokenDisk (fun _ => some ⟨8, 768⟩) 1).length = 512 := by
    decide +kernel
  refine ⟨_, ends, ?_, ?_, told.2 ?_⟩
  · rw [told.1, if_neg (by decide), if_neg (by decide), last, Option.getD_some]
  · rw [told.1, if_neg (by decide), if_neg (by decide), behind, Option.getD_none,
      if_neg (by decide)]
  · rw [short]
    decide

end LamaOS
