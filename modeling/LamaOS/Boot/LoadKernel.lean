import LamaOS.Boot.Boot

/-!
# What `load_kernel` loads, and when it ends

Each full pass of the loading loop takes the byte count down by twice the sector size, once
in the copy loop and once in the loop header, while the sector number and the destination
move on by a single sector. So the count modulo 1024 never changes from a nonzero residue to
zero, and the loop reaches its end only for sizes that are multiples of 1024, having copied
half of the image.
-/

namespace LamaOS

/-- The copy loop stores as many bytes as the buffer has left and the count allows. -/
theorem copySector_eq (bs : List RtU8) (s : LoadState) :
    copySector bs s = { s with
      mem := s.mem.writeBytes s.kernelAddress (bs.take s.kernelSize.toNat)
      kernelAddress := s.kernelAddress + BitVec.ofNat 32 (min bs.length s.kernelSize.toNat)
      kernelSize := s.kernelSize - BitVec.ofNat 32 (min bs.length s.kernelSize.toNat) } := by
  induction bs generalizing s with
  | nil => simp [copySector, Memory.writeBytes]
  | cons b bs ih =>
    rw [copySector]
    by_cases pos : s.kernelSize > 0
    · have hsub : (s.kernelSize - 1).toNat + 1 = s.kernelSize.toNat := by bv_omega
      have hmin : min (b :: bs).length s.kernelSize.toNat =
          min bs.length (s.kernelSize - 1).toNat + 1 := by
        rw [← hsub, List.length_cons]; omega
      rw [if_pos pos, ih, hmin, ← hsub, List.take_succ_cons, Memory.writeBytes,
        ← Memory.add_one_add_ofNat]
      congr 1
      rw [BitVec.ofNat_add]
      grind
    · obtain ⟨sector, size, address, mem, reads⟩ := s
      obtain rfl : size = 0 := by bv_omega
      rw [if_neg pos]
      simp [Memory.writeBytes]

/-- The bytes of the first `n` sectors from `kernelSector` on, unreadable ones left out. -/
def sectorBytes (disk : Disk) (kernelSector : RtU32) (n : Nat) : List RtU8 :=
  (List.range n).flatMap fun j => (disk (kernelSector + BitVec.ofNat 32 j)).elim [] Vector.toList

/-- The first `n` sectors from `kernelSector` on are readable. -/
def Readable (disk : Disk) (kernelSector : RtU32) (n : Nat) : Prop :=
  ∀ j < n, (disk (kernelSector + BitVec.ofNat 32 j)).isSome

/-- Byte `i` of the sectors from `kernelSector` on, one after the other. -/
def imageByte (disk : Disk) (kernelSector : RtU32) (i : Nat) : Option RtU8 :=
  (disk (kernelSector + BitVec.ofNat 32 (i / sectorSize))).bind (·[i % sectorSize]?)

theorem sectorBytes_succ (disk : Disk) (kernelSector : RtU32) (n : Nat) (buffer : Sector)
    (h : disk (kernelSector + BitVec.ofNat 32 n) = some buffer) :
    sectorBytes disk kernelSector (n + 1) = sectorBytes disk kernelSector n ++ buffer.toList := by
  simp [sectorBytes, List.range_succ, h]

theorem sectorBytes_length (disk : Disk) (kernelSector : RtU32) (n : Nat)
    (readable : Readable disk kernelSector n) :
    (sectorBytes disk kernelSector n).length = sectorSize * n := by
  induction n with
  | zero => rfl
  | succ n ih =>
    obtain ⟨buffer, h⟩ := Option.isSome_iff_exists.mp (readable n (Nat.lt_succ_self n))
    rw [sectorBytes_succ disk kernelSector n buffer h, List.length_append,
      ih fun j hj => readable j (Nat.lt_succ_of_lt hj), Vector.length_toList, Nat.mul_succ]

theorem sectorBytes_getElem? (disk : Disk) (kernelSector : RtU32) (n i : Nat)
    (readable : Readable disk kernelSector n) (hi : i < sectorSize * n) :
    (sectorBytes disk kernelSector n)[i]? = imageByte disk kernelSector i := by
  induction n with
  | zero => omega
  | succ n ih =>
    have before : Readable disk kernelSector n := fun j hj => readable j (Nat.lt_succ_of_lt hj)
    obtain ⟨buffer, h⟩ := Option.isSome_iff_exists.mp (readable n (Nat.lt_succ_self n))
    have len := sectorBytes_length disk kernelSector n before
    rw [sectorBytes_succ disk kernelSector n buffer h]
    by_cases old : i < sectorSize * n
    · rw [List.getElem?_append_left (by omega), ih before old]
    · -- byte `i` lies in the sector read last
      have quotient : i / sectorSize = n := by simp only [sectorSize] at *; omega
      have offset : i - sectorSize * n = i % sectorSize := by simp only [sectorSize] at *; omega
      rw [List.getElem?_append_right (by omega), len, offset, imageByte, quotient, h]
      simp

/-! ## The loop invariant -/

/-- The state after `n` passes. The destination and the memory matter only for sizes that
are multiples of 1024; for the others the residue is all that is needed. -/
structure LoadInv (disk : Disk) (kernelSector kernelSize : RtU32) (mem : BootMemory)
    (n : Nat) (s : LoadState) : Prop where
  sector : s.sector = kernelSector + BitVec.ofNat 32 n
  reads : s.reads.length = n
  readable : Readable disk kernelSector n
  residue : kernelSize.toNat % 1024 ≠ 0 → s.kernelSize.toNat % 1024 ≠ 0
  size : kernelSize.toNat % 1024 = 0 → s.kernelSize.toNat + 1024 * n = kernelSize.toNat
  address : kernelSize.toNat % 1024 = 0 →
    s.kernelAddress = kernelLoadAddress + BitVec.ofNat 32 (sectorSize * n)
  loaded : kernelSize.toNat % 1024 = 0 →
    s.mem = mem.writeBytes kernelLoadAddress (sectorBytes disk kernelSector n)

/-- How `load_kernel` can end after `n` full passes. -/
inductive LoadPost (disk : Disk) (kernelSector kernelSize : RtU32) (mem : BootMemory) (n : Nat)
    (outcome : LoadOutcome) : Prop where
  | kernelMain (ending : outcome.ending = .kernelMain) (reads : outcome.reads.length = n)
      (size : kernelSize.toNat = 1024 * n) (readable : Readable disk kernelSector n)
      (loaded : outcome.mem = print (cString "Kernel yuklendi, baslatiliyor...\n")
        (mem.writeBytes kernelLoadAddress (sectorBytes disk kernelSector n)))
  | returned (ending : outcome.ending = .returned) (reads : outcome.reads.length = n + 1)
      (failed : disk (kernelSector + BitVec.ofNat 32 n) = none)
      (readable : Readable disk kernelSector n)
      (before : kernelSize.toNat % 1024 = 0 → n < kernelSize.toNat / 1024)

variable {disk : Disk} {kernelSector kernelSize : RtU32} {mem : BootMemory}

theorem loadInv_start :
    LoadInv disk kernelSector kernelSize mem 0 (loadKernelStart kernelSector kernelSize mem) where
  sector := by simp [loadKernelStart]
  reads := rfl
  readable := fun j hj => absurd hj (Nat.not_lt_zero j)
  residue := id
  size := fun _ => rfl
  address := fun _ => by simp [loadKernelStart]
  loaded := fun _ => rfl

/-- A pass that goes on has read one more sector and taken 1024 off the count. -/
theorem loadKernelPass_inl {s s' : LoadState} (h : loadKernelPass disk s = .inl s') :
    s.kernelSize > 0 ∧ ∃ buffer, disk s.sector = some buffer ∧
      s' = { copySector buffer.toList s with
        kernelSize := (copySector buffer.toList s).kernelSize - BitVec.ofNat 32 sectorSize
        sector := (copySector buffer.toList s).sector + 1
        reads := (copySector buffer.toList s).reads ++ [s.sector] } := by
  unfold loadKernelPass at h
  split at h
  · rename_i pos
    cases hread : disk s.sector with
    | none => simp [hread] at h
    | some buffer =>
      rw [hread] at h
      exact ⟨pos, buffer, rfl, (Sum.inl.inj h).symm⟩
  · cases h

theorem loadInv_pass (n : Nat) (s s' : LoadState)
    (inv : LoadInv disk kernelSector kernelSize mem n s) (h : loadKernelPass disk s = .inl s') :
    LoadInv disk kernelSector kernelSize mem (n + 1) s' := by
  obtain ⟨pos, buffer, read, rfl⟩ := loadKernelPass_inl h
  have hread : disk (kernelSector + BitVec.ofNat 32 n) = some buffer := by
    rw [← inv.sector, read]
  have hpos : 0 < s.kernelSize.toNat := by bv_omega
  -- the count after the copy loop and the header
  have count : (s.kernelSize - BitVec.ofNat 32 (min sectorSize s.kernelSize.toNat) -
      BitVec.ofNat 32 sectorSize).toNat =
      if sectorSize ≤ s.kernelSize.toNat then (s.kernelSize.toNat + 2 ^ 32 - 1024) % 2 ^ 32
      else 2 ^ 32 - 512 := by
    have := s.kernelSize.isLt
    simp only [BitVec.toNat_sub, BitVec.toNat_ofNat, sectorSize]
    split <;> omega
  simp only [copySector_eq, Vector.length_toList]
  constructor
  · simp only
    rw [inv.sector, BitVec.ofNat_add, BitVec.add_assoc]
    rfl
  · simp [inv.reads]
  · intro j hj
    rcases Nat.lt_succ_iff_lt_or_eq.mp hj with hj | rfl
    · exact inv.readable j hj
    · simp [hread]
  · intro odd
    have := inv.residue odd
    simp only [count]
    split <;> omega
  · intro even
    have := inv.size even
    simp only [count, sectorSize]
    split <;> omega
  · intro even
    have := inv.size even
    have full : min sectorSize s.kernelSize.toNat = sectorSize := by
      simp only [sectorSize]; omega
    simp only [full]
    rw [inv.address even, BitVec.add_assoc, ← BitVec.ofNat_add, Nat.mul_succ]
  · intro even
    have := inv.size even
    have whole : buffer.toList.take s.kernelSize.toNat = buffer.toList :=
      List.take_of_length_le (by rw [Vector.length_toList]; simp only [sectorSize]; omega)
    have len := sectorBytes_length disk kernelSector n inv.readable
    simp only [whole]
    rw [inv.loaded even, inv.address even, sectorBytes_succ disk kernelSector n buffer hread,
      Memory.writeBytes_append, len]

theorem loadInv_leave (n : Nat) (s : LoadState) (outcome : LoadOutcome)
    (inv : LoadInv disk kernelSector kernelSize mem n s)
    (h : loadKernelPass disk s = .inr outcome) :
    LoadPost disk kernelSector kernelSize mem n outcome := by
  unfold loadKernelPass at h
  split at h
  · rename_i pos
    cases hread : disk s.sector with
    | some buffer => simp [hread] at h
    | none =>
      rw [hread] at h
      obtain rfl := Sum.inr.inj h
      refine .returned rfl (by simp [inv.reads]) (by rw [← inv.sector, hread])
        inv.readable fun even => ?_
      have := inv.size even
      have : 0 < s.kernelSize.toNat := by bv_omega
      omega
  · rename_i stop
    obtain rfl := Sum.inr.inj h
    have zero : s.kernelSize.toNat = 0 := by bv_omega
    have even : kernelSize.toNat % 1024 = 0 := by
      by_contra odd
      exact inv.residue odd (by simp [zero])
    have := inv.size even
    refine .kernelMain rfl inv.reads (by omega) inv.readable ?_
    rw [← inv.loaded even]

/-- Every end of `load_kernel`, for every size, disk and memory. -/
theorem loadKernel_post {outcome : LoadOutcome}
    (h : LoadKernel disk kernelSector kernelSize mem outcome) :
    ∃ n, LoadPost disk kernelSector kernelSize mem n outcome :=
  Loop.exits_post (LoadInv disk kernelSector kernelSize mem)
    (LoadPost disk kernelSector kernelSize mem) loadInv_pass loadInv_leave loadInv_start h

/-- For a multiple of 1024 the loading loop ends, whatever the disk does. -/
theorem loadKernel_ends_of_multiple (disk : Disk) (kernelSector kernelSize : RtU32)
    (mem : BootMemory) (even : kernelSize.toNat % 1024 = 0) :
    ∃ outcome, LoadKernel disk kernelSector kernelSize mem outcome := by
  apply Loop.exists_exits (LoadInv disk kernelSector kernelSize mem) (kernelSize.toNat / 1024)
    _ loadInv_start
  intro n s s' inv h
  have next := loadInv_pass n s s' inv h
  have := next.size even
  exact ⟨by omega, next⟩

/-- An unreadable sector ends the loading loop. -/
theorem loadKernel_ends_of_failure {j : Nat}
    (failed : disk (kernelSector + BitVec.ofNat 32 j) = none) :
    ∃ outcome, LoadKernel disk kernelSector kernelSize mem outcome := by
  apply Loop.exists_exits (LoadInv disk kernelSector kernelSize mem) j _ loadInv_start
  intro n s s' inv h
  have next := loadInv_pass n s s' inv h
  refine ⟨?_, next⟩
  by_contra reached
  have := next.readable j (by omega)
  simp [failed] at this

/-! ## The image in memory -/

/-- The memory holds the first `kernelSize` bytes of the sectors from `kernelSector` on,
starting at `KERNEL_LOAD_ADDRESS`. -/
def ImageLoaded (disk : Disk) (kernelSector kernelSize : RtU32) (mem : BootMemory) : Prop :=
  ∀ i < kernelSize.toNat,
    imageByte disk kernelSector i = some (mem (kernelLoadAddress + BitVec.ofNat 32 i))

/-- What the loader does not write is right by luck: the second half of the image is in
memory already, and where the image reaches into the first video cell it holds the line feed
and the attribute that the start message leaves there. -/
def ImagePresent (disk : Disk) (kernelSector kernelSize : RtU32) (mem : BootMemory) : Prop :=
  ∀ i < kernelSize.toNat,
    let a := kernelLoadAddress + BitVec.ofNat 32 i
    (a = vgaPort → imageByte disk kernelSector i = some 0x0A) ∧
    (a = vgaPort + 1 → imageByte disk kernelSector i = some 0x0F) ∧
    (a ≠ vgaPort → a ≠ vgaPort + 1 → kernelSize.toNat / 2 ≤ i →
      imageByte disk kernelSector i = some (mem a))

/-- The memory in which the kernel is started after `n` passes. -/
theorem started_apply (n i : Nat) (readable : Readable disk kernelSector n)
    (hi : i < 2 ^ 32) (hn : sectorSize * n ≤ 2 ^ 32) :
    let a := kernelLoadAddress + BitVec.ofNat 32 i
    some (print (cString "Kernel yuklendi, baslatiliyor...\n")
        (mem.writeBytes kernelLoadAddress (sectorBytes disk kernelSector n)) a) =
      if a = vgaPort then some 0x0A else if a = vgaPort + 1 then some 0x0F
      else if i < sectorSize * n then imageByte disk kernelSector i else some (mem a) := by
  intro a
  rw [print_started]
  by_cases h0 : a = vgaPort
  · rw [if_pos h0, if_pos h0]
  rw [if_neg h0, if_neg h0]
  by_cases h1 : a = vgaPort + 1
  · rw [if_pos h1, if_pos h1]
  rw [if_neg h1, if_neg h1]
  have len := sectorBytes_length disk kernelSector n readable
  have offset : (a - kernelLoadAddress).toNat = i := by
    have back : a - kernelLoadAddress = BitVec.ofNat 32 i := by
      simp only [a]; grind
    rw [back, BitVec.toNat_ofNat, Nat.mod_eq_of_lt hi]
  rw [Memory.writeBytes_apply _ _ _ (by omega), offset]
  by_cases inside : i < sectorSize * n
  · have byte := sectorBytes_getElem? disk kernelSector n i readable inside
    have present : i < (sectorBytes disk kernelSector n).length := by omega
    rw [if_pos inside, ← byte, List.getElem?_eq_getElem present, Option.getD_some]
  · rw [if_neg inside, List.getElem?_eq_none (by omega), Option.getD_none]

/-- What `load_kernel` has done when it calls `kernel_main`. -/
theorem loadKernel_kernelMain {outcome : LoadOutcome}
    (h : LoadKernel disk kernelSector kernelSize mem outcome)
    (started : outcome.ending = .kernelMain) :
    ∃ n, kernelSize.toNat = 1024 * n ∧ Readable disk kernelSector n ∧
      ∀ i < kernelSize.toNat, some (outcome.mem (kernelLoadAddress + BitVec.ofNat 32 i)) =
        let a := kernelLoadAddress + BitVec.ofNat 32 i
        if a = vgaPort then some 0x0A else if a = vgaPort + 1 then some 0x0F
        else if i < kernelSize.toNat / 2 then imageByte disk kernelSector i else some (mem a) := by
  obtain ⟨n, post⟩ := loadKernel_post h
  cases post with
  | returned ending => rw [started] at ending; cases ending
  | kernelMain _ _ size readable loaded =>
    refine ⟨n, size, readable, fun i hi => ?_⟩
    have bound := kernelSize.isLt
    have half : sectorSize * n = kernelSize.toNat / 2 := by simp only [sectorSize]; omega
    rw [loaded, started_apply n i readable (by omega) (by omega), half]

/-- For a multiple of 1024 whose first half is readable, `kernel_main` is called. -/
theorem loadKernel_starts (disk : Disk) (kernelSector kernelSize : RtU32) (mem : BootMemory)
    (even : kernelSize.toNat % 1024 = 0)
    (readable : Readable disk kernelSector (kernelSize.toNat / 1024)) :
    ∃ outcome, LoadKernel disk kernelSector kernelSize mem outcome ∧
      outcome.ending = .kernelMain := by
  obtain ⟨outcome, ends⟩ := loadKernel_ends_of_multiple disk kernelSector kernelSize mem even
  refine ⟨outcome, ends, ?_⟩
  obtain ⟨n, post⟩ := loadKernel_post ends
  cases post with
  | kernelMain ending => exact ending
  | returned _ _ failed _ before =>
    have := readable n (before even)
    simp [failed] at this

/-- `load_kernel` loads the whole image before it starts it, except when the size is a
multiple of 1024, the first half of the image is readable, and the rest of the image is not
in memory by luck. -/
theorem loadKernel_image_iff (disk : Disk) (kernelSector kernelSize : RtU32)
    (mem : BootMemory) :
    (∀ outcome, LoadKernel disk kernelSector kernelSize mem outcome →
      outcome.ending = .kernelMain →
        ImageLoaded disk kernelSector kernelSize outcome.mem) ↔
      (kernelSize.toNat % 1024 ≠ 0 ∨
        (∃ j < kernelSize.toNat / 1024, disk (kernelSector + BitVec.ofNat 32 j) = none) ∨
        ImagePresent disk kernelSector kernelSize mem) := by
  constructor
  · intro whole
    by_cases even : kernelSize.toNat % 1024 = 0
    · right
      by_cases readable : Readable disk kernelSector (kernelSize.toNat / 1024)
      · right
        obtain ⟨outcome, ends, started⟩ :=
          loadKernel_starts disk kernelSector kernelSize mem even readable
        obtain ⟨n, size, _, final⟩ := loadKernel_kernelMain ends started
        intro i hi a
        have image := (whole outcome ends started i hi).trans (final i hi)
        refine ⟨fun h0 => ?_, fun h1 => ?_, fun h0 h1 second => ?_⟩
        · rw [image, if_pos h0]
        · have h0 : a ≠ vgaPort := by rw [h1]; decide
          rw [image, if_neg h0, if_pos h1]
        · rw [image, if_neg h0, if_neg h1, if_neg (Nat.not_lt.mpr second)]
      · left
        simpa [Readable, Option.isSome_iff_ne_none] using readable
    · exact .inl even
  · intro condition outcome ends started i hi
    obtain ⟨n, size, readable, final⟩ := loadKernel_kernelMain ends started
    have quotient : kernelSize.toNat / 1024 = n := by omega
    rcases condition with odd | ⟨j, hj, failed⟩ | present
    · omega
    · have := readable j (by omega)
      simp [failed] at this
    · rw [final i hi]
      obtain ⟨onChar, onAttr, onRest⟩ := present i hi
      dsimp only
      split
      · exact onChar ‹_›
      split
      · exact onAttr ‹_›
      split
      · rfl
      · exact onRest ‹_› ‹_› (Nat.le_of_not_lt ‹_›)

/-- A kernel of 1024 bytes on a readable disk is started with its second sector missing. -/
theorem loadKernel_half_image :
    ¬ (∀ outcome, LoadKernel (fun _ => some (Vector.replicate sectorSize 1)) 0 1024 (fun _ => 0)
        outcome → outcome.ending = .kernelMain →
      ImageLoaded (fun _ => some (Vector.replicate sectorSize 1)) 0 1024 outcome.mem) := by
  intro whole
  obtain ⟨outcome, ends, started⟩ := loadKernel_starts
    (fun _ => some (Vector.replicate sectorSize 1)) 0 1024 (fun _ => 0) (by decide)
    (fun _ _ => rfl)
  obtain ⟨n, _, _, final⟩ := loadKernel_kernelMain ends started
  have image := (whole outcome ends started 512 (by decide)).trans (final 512 (by decide))
  rw [if_neg (by decide), if_neg (by decide), if_neg (by decide)] at image
  simp [imageByte] at image

/-! ## Termination -/

/-- The number of sectors the image fills. -/
def imageSectors (kernelSize : RtU32) : Nat := (kernelSize.toNat + (sectorSize - 1)) / sectorSize

/-- The loading loop ends within one `read_sector` call for each sector of the image exactly
when the size is a multiple of 1024 or one of these sectors is unreadable. -/
theorem loadKernel_ends_iff (disk : Disk) (kernelSector kernelSize : RtU32) (mem : BootMemory) :
    (∃ outcome, LoadKernel disk kernelSector kernelSize mem outcome ∧
      outcome.reads.length ≤ imageSectors kernelSize) ↔
      (kernelSize.toNat % 1024 = 0 ∨
        ∃ j < imageSectors kernelSize, disk (kernelSector + BitVec.ofNat 32 j) = none) := by
  constructor
  · rintro ⟨outcome, ends, few⟩
    obtain ⟨n, post⟩ := loadKernel_post ends
    cases post with
    | kernelMain _ _ size => left; omega
    | returned _ reads failed => exact .inr ⟨n, by omega, failed⟩
  · intro condition
    have ending : ∃ outcome, LoadKernel disk kernelSector kernelSize mem outcome := by
      rcases condition with even | ⟨j, _, failed⟩
      · exact loadKernel_ends_of_multiple _ _ _ _ even
      · exact loadKernel_ends_of_failure failed
    obtain ⟨outcome, ends⟩ := ending
    refine ⟨outcome, ends, ?_⟩
    obtain ⟨n, post⟩ := loadKernel_post ends
    cases post with
    | kernelMain _ reads size =>
      simp only [imageSectors, sectorSize]; omega
    | returned _ reads _ readable before =>
      rw [reads]
      rcases condition with even | ⟨j, hj, failed⟩
      · have := before even
        simp only [imageSectors, sectorSize]; omega
      · -- the reads before the failing one succeeded, so it is the `j`-th at the latest
        have first : n ≤ j := by
          by_contra later
          have := readable j (by omega)
          simp [failed] at this
        omega

/-- A kernel of 512 bytes on a readable disk is never started: the loading loop does not
end. -/
theorem loadKernel_endless_512 :
    ¬ ∃ outcome, LoadKernel (fun _ => some (Vector.replicate sectorSize 0)) 0 512 (fun _ => 0)
        outcome ∧ outcome.reads.length ≤ imageSectors 512 := by
  rintro ⟨outcome, ends, _⟩
  obtain ⟨n, post⟩ := loadKernel_post ends
  cases post with
  | kernelMain _ _ size =>
    have : (512 : RtU32).toNat = 512 := by decide
    omega
  | returned _ _ failed => cases failed

end LamaOS
