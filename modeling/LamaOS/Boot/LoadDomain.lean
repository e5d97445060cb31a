import LamaOS.Boot.KernelFile

/-!
# The sizes that `load_kernel` can handle

On a disk whose sectors can all be read only the size decides what the loading loop does. It
is left for the multiples of 1024, and then half of the sectors of the image have been read
and stored; for every other size it goes on for ever.
-/

namespace LamaOS

/-- A disk without a read error. -/
def soundDisk (content : RtU32 → Sector) : Disk := fun sector => some (content sector)

variable {content : RtU32 → Sector} {kernelSector kernelSize : RtU32} {mem : BootMemory}

/-- On such a disk every end of the loop is the call of `kernel_main`, after a pass for each
1024 bytes of the size. -/
theorem soundDisk_ends {outcome : LoadOutcome}
    (ends : LoadKernel (soundDisk content) kernelSector kernelSize mem outcome) :
    outcome.ending = .kernelMain ∧ kernelSize.toNat = 1024 * (kernelSize.toNat / 1024) ∧
      outcome.reads.length = kernelSize.toNat / 1024 := by
  rcases loadKernel_post ends with ⟨n, post⟩
  cases post with
  | kernelMain ending reads size =>
    have passes : kernelSize.toNat / 1024 = n := by omega
    rw [passes]
    exact ⟨ending, size, reads⟩
  | returned _ _ failed => cases failed

/-- What the variables are after the last pass. -/
theorem soundDisk_last {outcome : LoadOutcome}
    (ends : LoadKernel (soundDisk content) kernelSector kernelSize mem outcome) :
    ∃ s, Loop.Reaches (loadKernelPass (soundDisk content)) (kernelSize.toNat / 1024)
        (loadKernelStart kernelSector kernelSize mem) s ∧
      s.mem = mem.writeBytes kernelLoadAddress
        (sectorBytes (soundDisk content) kernelSector (kernelSize.toNat / 1024)) ∧
      s.kernelAddress = kernelLoadAddress + BitVec.ofNat 32 (kernelSize.toNat / 2) ∧
      outcome.mem = print (cString "Kernel yuklendi, baslatiliyor...\n") s.mem := by
  rcases soundDisk_ends ends with ⟨ending, size, length⟩
  rcases Loop.exits_iff_reaches.mp ends with ⟨n, s, reached, left⟩
  have inv := Loop.reaches_inv (LoadInv (soundDisk content) kernelSector kernelSize mem)
    loadInv_pass loadInv_start reached
  have even : kernelSize.toNat % 1024 = 0 := by omega
  have stopped : ¬ s.kernelSize > 0 := by
    intro more
    rw [loadKernelPass, if_pos more] at left
    cases left
  rw [loadKernelPass, if_neg stopped] at left
  cases left
  have passes : n = kernelSize.toNat / 1024 := by
    rw [← length]
    exact inv.reads.symm
  subst passes
  have half : sectorSize * (kernelSize.toNat / 1024) = kernelSize.toNat / 2 := by
    simp only [sectorSize]
    omega
  have address := inv.address even
  rw [half] at address
  exact ⟨s, reached, inv.loaded even, address, rfl⟩

/-- The domain of the loading loop. It comes to the call of `kernel_main` exactly for the
multiples of 1024. It has then made a pass for each 1024 bytes, asked for as many sectors
from `kernel_sector` on, and stored half of the size from `KERNEL_LOAD_ADDRESS` on, where the
next store would go behind these bytes. For the other sizes there is no end of it. -/
theorem loadKernel_domain (content : RtU32 → Sector) (kernelSector kernelSize : RtU32)
    (mem : BootMemory) :
    ((∃ outcome, LoadKernel (soundDisk content) kernelSector kernelSize mem outcome ∧
        outcome.ending = .kernelMain) ↔ kernelSize.toNat % 1024 = 0) ∧
    (∀ outcome, LoadKernel (soundDisk content) kernelSector kernelSize mem outcome →
      outcome.reads = sectorsFrom kernelSector (kernelSize.toNat / 1024) ∧
      (sectorBytes (soundDisk content) kernelSector (kernelSize.toNat / 1024)).length =
        kernelSize.toNat / 2 ∧
      ∃ s, Loop.Reaches (loadKernelPass (soundDisk content)) (kernelSize.toNat / 1024)
          (loadKernelStart kernelSector kernelSize mem) s ∧
        s.mem = mem.writeBytes kernelLoadAddress
          (sectorBytes (soundDisk content) kernelSector (kernelSize.toNat / 1024)) ∧
        s.kernelAddress = kernelLoadAddress + BitVec.ofNat 32 (kernelSize.toNat / 2) ∧
        outcome.mem = print (cString "Kernel yuklendi, baslatiliyor...\n") s.mem) ∧
    (kernelSize.toNat % 1024 ≠ 0 →
      (¬ ∃ outcome, LoadKernel (soundDisk content) kernelSector kernelSize mem outcome) ∧
      ∀ n, ∃ s, Loop.Reaches (loadKernelPass (soundDisk content)) n
        (loadKernelStart kernelSector kernelSize mem) s) := by
  refine ⟨?_, ?_, ?_⟩
  · constructor
    · rintro ⟨outcome, ends, _⟩
      have size := (soundDisk_ends ends).2.1
      omega
    · intro even
      rcases loadKernel_ends_of_multiple (soundDisk content) kernelSector kernelSize mem even with
        ⟨outcome, ends⟩
      exact ⟨outcome, ends, (soundDisk_ends ends).1⟩
  · intro outcome ends
    rcases soundDisk_ends ends with ⟨_, size, length⟩
    refine ⟨?_, ?_, soundDisk_last ends⟩
    · rw [← length]
      exact loadKernel_reads ends
    · rw [sectorBytes_length (soundDisk content) kernelSector _ fun _ _ => rfl]
      simp only [sectorSize]
      omega
  · intro odd
    have endless : ∀ outcome,
        ¬ LoadKernel (soundDisk content) kernelSector kernelSize mem outcome := by
      intro outcome ends
      have size := (soundDisk_ends ends).2.1
      omega
    refine ⟨not_exists.mpr endless, ?_⟩
    intro n
    exact Loop.reaches_of_endless endless n

end LamaOS
