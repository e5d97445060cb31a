import LamaOS.Boot.LoadKernel
import Mathlib.Logic.Function.Iterate

/-!
# The sectors of the kernel file

On a FAT32 volume a file is a chain of clusters, and each cluster a group of sectors in the
data region. `load_kernel_from_fat32` does none of that arithmetic: it reads consecutive
sectors, beginning with the one that has the number of the first cluster. This module
compares the sectors it asks for with those of the file.
-/

namespace LamaOS

/-! ## A FAT32 volume -/

/-- The geometry of a volume with sectors of 512 bytes, and its allocation table. -/
structure Fat32Volume where
  reservedSectorCount : Nat
  fatCount : Nat
  fatSize : Nat
  sectorsPerCluster : Nat
  positive : 1 ≤ sectorsPerCluster
  /-- The cluster that follows a cluster in its file. -/
  fat : Nat → Nat

namespace Fat32Volume

variable (volume : Fat32Volume)

/-- The first sector of a cluster; the data region begins with cluster 2. -/
def clusterSector (cluster : Nat) : Nat :=
  volume.reservedSectorCount + volume.fatCount * volume.fatSize +
    (cluster - 2) * volume.sectorsPerCluster

/-- Cluster `i` of the chain that begins with `first`. -/
def chainCluster (first i : Nat) : Nat := volume.fat^[i] first

/-- Sector `j` of the file that begins with the cluster `first`. -/
def fileSector (first j : Nat) : Nat :=
  volume.clusterSector (volume.chainCluster first (j / volume.sectorsPerCluster)) +
    j % volume.sectorsPerCluster

/-- The first `n` sectors of the file that begins with the cluster `first`. -/
def fileSectors (first n : Nat) : List Nat := (List.range n).map (volume.fileSector first)

end Fat32Volume

/-- The directory entry of a file on a volume: its size, and a chain of data clusters that is
long enough for it. -/
structure VolumeFile (volume : Fat32Volume) where
  entry : DirEntry
  first : 2 ≤ entry.firstCluster.toNat
  chain : ∀ i, i * (sectorSize * volume.sectorsPerCluster) < entry.fileSize.toNat →
    2 ≤ volume.chainCluster entry.firstCluster.toNat i

/-! ## The sectors that are read -/

variable {disk : Disk} {kernelSector kernelSize : RtU32} {mem : BootMemory}

/-- The `n` sectors from `kernelSector` on. -/
def sectorsFrom (kernelSector : RtU32) (n : Nat) : List RtU32 :=
  (List.range n).map fun j => kernelSector + BitVec.ofNat 32 j

theorem sectorsFrom_succ (kernelSector : RtU32) (n : Nat) :
    sectorsFrom kernelSector (n + 1) =
      sectorsFrom kernelSector n ++ [kernelSector + BitVec.ofNat 32 n] := by
  simp [sectorsFrom, List.range_succ]

/-- The sectors asked for before pass `n`. -/
structure ReadsFrom (kernelSector : RtU32) (n : Nat) (s : LoadState) : Prop where
  sector : s.sector = kernelSector + BitVec.ofNat 32 n
  reads : s.reads = sectorsFrom kernelSector n

theorem readsFrom_pass (n : Nat) (s s' : LoadState) (inv : ReadsFrom kernelSector n s)
    (h : loadKernelPass disk s = .inl s') : ReadsFrom kernelSector (n + 1) s' := by
  obtain ⟨_, buffer, _, rfl⟩ := loadKernelPass_inl h
  rw [copySector_eq]
  constructor
  · simp only
    rw [inv.sector, BitVec.ofNat_add, BitVec.add_assoc]
    rfl
  · simp only
    rw [inv.reads, inv.sector, sectorsFrom_succ]

/-- The loader asks for consecutive sectors. -/
theorem loadKernel_reads {outcome : LoadOutcome}
    (h : LoadKernel disk kernelSector kernelSize mem outcome) :
    outcome.reads = sectorsFrom kernelSector outcome.reads.length := by
  have consecutive (n : Nat) : (sectorsFrom kernelSector n).length = n := by simp [sectorsFrom]
  obtain ⟨n, reads⟩ := Loop.exits_post (ReadsFrom kernelSector)
    (fun _ outcome => outcome.reads = sectorsFrom kernelSector outcome.reads.length)
    readsFrom_pass
    (fun n s outcome inv leave => by
      unfold loadKernelPass at leave
      split at leave
      · cases failed : disk s.sector with
        | some buffer => simp [failed] at leave
        | none =>
          rw [failed] at leave
          obtain rfl := Sum.inr.inj leave
          simp only
          rw [inv.reads, inv.sector, ← sectorsFrom_succ, consecutive]
      · obtain rfl := Sum.inr.inj leave
        simp only
        rw [inv.reads, consecutive])
    (s := loadKernelStart kernelSector kernelSize mem) ⟨by simp [loadKernelStart], rfl⟩ h
  exact reads

/-- The sectors from `kernelSector` on are the first `n` of a file exactly when they have the
numbers of these. -/
theorem sectorsFrom_eq_fileSectors_iff (volume : Fat32Volume) (first n m : Nat) :
    (sectorsFrom kernelSector n).map BitVec.toNat = volume.fileSectors first m ↔
      n = m ∧ ∀ j < n, (kernelSector + BitVec.ofNat 32 j).toNat = volume.fileSector first j := by
  constructor
  · intro same
    obtain rfl : n = m := by
      simpa [sectorsFrom, Fat32Volume.fileSectors] using congrArg List.length same
    refine ⟨rfl, fun j hj => ?_⟩
    have at_j := congrArg (·[j]?) same
    simpa [sectorsFrom, Fat32Volume.fileSectors, hj] using at_j
  · rintro ⟨rfl, numbers⟩
    rw [sectorsFrom, Fat32Volume.fileSectors, List.map_map]
    exact List.map_congr_left fun j mem => numbers j (List.mem_range.mp mem)

/-! ## The kernel file -/

/-- For a size that is no multiple of 1024 the loop asks for all sectors up to the first
unreadable one. -/
theorem loadKernel_returns {n : Nat} (failed : disk (kernelSector + BitVec.ofNat 32 n) = none)
    (readable : Readable disk kernelSector n) (odd : kernelSize.toNat % 1024 ≠ 0) :
    ∃ outcome, LoadKernel disk kernelSector kernelSize mem outcome ∧
      outcome.reads = sectorsFrom kernelSector (n + 1) := by
  obtain ⟨outcome, ends⟩ : ∃ outcome, LoadKernel disk kernelSector kernelSize mem outcome :=
    loadKernel_ends_of_failure failed
  refine ⟨outcome, ends, ?_⟩
  obtain ⟨n', post⟩ := loadKernel_post ends
  cases post with
  | kernelMain _ _ size => omega
  | returned _ reads failed' readable' =>
    -- both `n` and `n'` are the first unreadable sector
    have le : n' ≤ n := by
      by_contra later
      have := readable' n (by omega)
      simp [failed] at this
    have ge : n ≤ n' := by
      by_contra earlier
      have := readable n' (by omega)
      simp [failed'] at this
    obtain rfl : n' = n := by omega
    rw [loadKernel_reads ends, reads]

/-- `load_kernel_from_fat32` asks for exactly the sectors of the kernel file when the file is
empty. It also does so when the loop, which would go on for ever, is stopped by an unreadable
sector at the very end of the file, and the sectors of the file happen to be those that begin
with the number of its first cluster. -/
theorem kernelFile_sectors_iff (volume : Fat32Volume) (file : VolumeFile volume) (disk : Disk)
    (findFile : List RtU8 → Option DirEntry) (mem : BootMemory)
    (found : findFile (cString "kernel.c") = some file.entry) :
    (∃ outcome, LoadKernelFromFat32 disk findFile mem outcome ∧
      outcome.reads.map BitVec.toNat = volume.fileSectors file.entry.firstCluster.toNat
        (imageSectors file.entry.fileSize)) ↔
      (file.entry.fileSize = 0 ∨
        (file.entry.fileSize.toNat % 1024 ≠ 0 ∧
          Readable disk file.entry.firstCluster (imageSectors file.entry.fileSize - 1) ∧
          disk (file.entry.firstCluster +
            BitVec.ofNat 32 (imageSectors file.entry.fileSize - 1)) = none ∧
          ∀ j < imageSectors file.entry.fileSize,
            (file.entry.firstCluster + BitVec.ofNat 32 j).toNat =
              volume.fileSector file.entry.firstCluster.toNat j)) := by
  simp only [LoadKernelFromFat32, found]
  generalize file.entry.firstCluster = first, file.entry.fileSize = size
  have count : imageSectors size = (size.toNat + 511) / 512 := rfl
  constructor
  · rintro ⟨outcome, ends, same⟩
    rw [loadKernel_reads ends, sectorsFrom_eq_fileSectors_iff] at same
    obtain ⟨length, numbers⟩ := same
    obtain ⟨n, post⟩ := loadKernel_post ends
    cases post with
    | kernelMain _ reads whole =>
      -- only half of the sectors have been read
      left
      bv_omega
    | returned _ reads failed readable before =>
      right
      have last : n = imageSectors size - 1 := by omega
      subst last
      rw [length] at numbers
      exact ⟨fun even => by have := before even; omega, readable, failed, numbers⟩
  · rintro (rfl | ⟨odd, readable, failed, numbers⟩)
    · obtain ⟨outcome, ends⟩ := loadKernel_ends_of_multiple disk first 0 mem rfl
      refine ⟨outcome, ends, ?_⟩
      rw [loadKernel_reads ends, sectorsFrom_eq_fileSectors_iff]
      obtain ⟨n, post⟩ := loadKernel_post ends
      cases post with
      | kernelMain _ reads size =>
        have none : outcome.reads.length = 0 := by simpa [reads] using size
        rw [none]
        exact ⟨rfl, fun j hj => absurd hj (Nat.not_lt_zero j)⟩
      | returned _ _ _ _ before => exact absurd (before rfl) (by simp)
    · obtain ⟨outcome, ends, reads⟩ := @loadKernel_returns disk first size mem _ failed readable odd
      refine ⟨outcome, ends, ?_⟩
      have last : imageSectors size - 1 + 1 = imageSectors size := by omega
      rw [reads, last, sectorsFrom_eq_fileSectors_iff]
      exact ⟨rfl, numbers⟩

/-- A volume whose data region begins at sector 232, with clusters of eight sectors and files
that are stored in one piece. -/
def sampleVolume : Fat32Volume where
  reservedSectorCount := 32
  fatCount := 2
  fatSize := 100
  sectorsPerCluster := 8
  positive := by decide
  fat := Nat.succ

/-- A file on it that begins with cluster 3. -/
def sampleFile (size : RtU32) : VolumeFile sampleVolume where
  entry := ⟨3, size⟩
  first := (by decide : 2 ≤ (3 : RtU32).toNat)
  chain := fun i _ => Function.Iterate.rec (2 ≤ ·) (by decide : 2 ≤ (3 : RtU32).toNat)
    (fun _ h => Nat.le_succ_of_le h) i

/-- Of an empty file nothing is read. -/
theorem kernelFile_sectors_empty :
    ∃ outcome, LoadKernelFromFat32 (fun _ => some (Vector.replicate sectorSize 1))
        (fun _ => some (sampleFile 0).entry) (fun _ => 0) outcome ∧
      outcome.reads.map BitVec.toNat = sampleVolume.fileSectors 3 (imageSectors 0) :=
  (kernelFile_sectors_iff sampleVolume (sampleFile 0) (fun _ => some (Vector.replicate sectorSize 1))
    (fun _ => some (sampleFile 0).entry) (fun _ => 0) rfl).mpr (.inl rfl)

/-- Of a file of 1024 bytes in cluster 3, that is in the sectors 240 and 241, sector 3 is read. -/
theorem kernelFile_reads_sector_three :
    ¬ ∃ outcome, LoadKernelFromFat32 (fun _ => some (Vector.replicate sectorSize 1))
        (fun _ => some (sampleFile 1024).entry) (fun _ => 0) outcome ∧
      outcome.reads.map BitVec.toNat = sampleVolume.fileSectors 3 (imageSectors 1024) := by
  rintro ⟨outcome, ends, same⟩
  have ends : LoadKernel _ 3 1024 (fun _ => 0) outcome := ends
  have reads := loadKernel_reads ends
  obtain ⟨n, post⟩ := loadKernel_post ends
  cases post with
  | kernelMain _ length size =>
    have one : n = 1 := by
      have : (1024 : RtU32).toNat = 1024 := by decide
      omega
    rw [reads, length, one] at same
    revert same
    decide
  | returned _ _ failed => cases failed

end LamaOS
