import LamaOS.Boot.Fat32BootSector

/-!
# What a boot sector structure tells

`fat32_boot_sector_t` covers the first 44 bytes of the sector, and each of them is in one
member. So reading a boot sector and writing its structure out again gives these bytes, and the
structure says nothing about the others; the root cluster, the information sector and the
backup sector of a FAT32 file system are among the others.
-/

namespace LamaOS

open Packed

/-- How `fat32_boot_sector_t` lies on the disk. -/
def fat32Layout : Layout Fat32BootSector :=
  .via (.pair (.byteArray 3) <| .pair (.byteArray 8) <| .pair .word16 <| .pair .byte <|
      .pair .word16 <| .pair .byte <| .pair .word16 <| .pair .word16 <| .pair .byte <|
      .pair .word16 <| .pair .word16 <| .pair .word16 <| .pair .word32 <| .pair .word32 <|
      .pair .word32 <| .pair .word16 .word16)
    (fun (jump, oemId, bytesPerSector, sectorsPerCluster, reservedSectorCount, fatCount,
        rootDirEntries, totalSectors, mediaType, fatSize, sectorsPerTrack, headCount,
        hiddenSectors, totalSectorsLarge, fat32RootCluster, fsInfoSector, backupBootSector) =>
      { jump, oemId, bytesPerSector, sectorsPerCluster, reservedSectorCount, fatCount,
        rootDirEntries, totalSectors, mediaType, fatSize, sectorsPerTrack, headCount,
        hiddenSectors, totalSectorsLarge, fat32RootCluster, fsInfoSector, backupBootSector })
    (fun s => (s.jump, s.oemId, s.bytesPerSector, s.sectorsPerCluster, s.reservedSectorCount,
      s.fatCount, s.rootDirEntries, s.totalSectors, s.mediaType, s.fatSize, s.sectorsPerTrack,
      s.headCount, s.hiddenSectors, s.totalSectorsLarge, s.fat32RootCluster, s.fsInfoSector,
      s.backupBootSector))
    (fun _ _ => ⟨fun built => built ▸ rfl, fun taken => taken ▸ rfl⟩)

theorem fat32Layout_size : fat32Layout.size = fat32BootSectorSize := rfl

theorem fat32Layout_read (v : Nat → Byte) : fat32Layout.read v 0 = fat32BootSectorOf v := rfl

/-- The first bytes of a sector. -/
theorem slice_sector (sector : Sector) {n : Nat} (within : n ≤ 512) :
    slice sector.bytes 0 n = sector.toList.take n := by
  apply List.ext_getElem
  · rw [slice_length, List.length_take, Vector.length_toList, Nat.min_eq_left within]
  · intro i inside inside'
    rw [slice_length] at inside
    have small : i < sector.toList.length := by
      rw [Vector.length_toList]
      exact Nat.lt_of_lt_of_le inside within
    simp only [slice, List.getElem_map, List.getElem_range, Nat.zero_add, Sector.bytes,
      List.getElem_take, List.getElem?_eq_getElem small, Option.getD_some]

section Read

variable {int13 : DiskService} {disk : RtU32 → Sector}

/-- The structure that is read, by the bytes of the sector. -/
theorem fat32BootSectorOf_read_iff (stores : StoresSectors int13 disk) (lba bootSector : RtU32)
    (m : DiskMachine) (s : Fat32BootSector) :
    fat32BootSectorOf (view (readFat32BootSector int13 lba bootSector m).mem bootSector) = s ↔
      (disk lba).toList.take fat32BootSectorSize = fat32Layout.image s := by
  rw [fat32BootSectorOf_read stores, ← fat32Layout_read, fat32Layout.read_eq_iff,
    fat32Layout_size, slice_sector _ (by decide)]

/-- `read_fat32_boot_sector`, and then `read_fsinfo` on what it has read: the structure is `s`
exactly if the sector begins with the bytes of `s`, and then the second sector that is read is
the one that `s` names, and memory holds both sectors, the second one over the first where the
buffers meet. -/
theorem bootSector_image_iff (stores : StoresSectors int13 disk)
    (lba bootSector buffer : RtU32) (m : DiskMachine) (s : Fat32BootSector) :
    (fat32BootSectorOf (view (readFat32BootSector int13 lba bootSector m).mem bootSector) = s ↔
      (disk lba).toList.take fat32BootSectorSize = fat32Layout.image s) ∧
    ((disk lba).toList.take fat32BootSectorSize = fat32Layout.image s →
      readFsinfo int13 lba bootSector buffer (readFat32BootSector int13 lba bootSector m) =
        ⟨(m.mem.writeBytes bootSector (disk lba).toList).writeBytes buffer
            (disk (s.fsInfoSector.setWidth 32 + lba)).toList,
          m.requests ++ [(lba, 1), (s.fsInfoSector.setWidth 32 + lba, 1)]⟩) := by
  have told := fat32BootSectorOf_read_iff stores lba bootSector m s
  refine ⟨told, fun begins => ?_⟩
  have second : readFsinfo int13 lba bootSector buffer
      (readFat32BootSector int13 lba bootSector m) =
      readFat32BootSector int13 (s.fsInfoSector.setWidth 32 + lba) buffer
        (readFat32BootSector int13 lba bootSector m) := by
    rw [readFsinfo, told.mpr begins]
    rfl
  have requests : (readFat32BootSector int13 (s.fsInfoSector.setWidth 32 + lba) buffer
      (readFat32BootSector int13 lba bootSector m)).requests =
      m.requests ++ [(lba, 1), (s.fsInfoSector.setWidth 32 + lba, 1)] :=
    List.append_assoc _ _ _
  rw [second, ← requests, ← readFat32BootSector_mem stores, ← readFat32BootSector_mem stores]

end Read

/-- The information sector of the sample volume is sector 1. What is read after its boot sector is
the boot sector again. -/
theorem bootSector_image_sample :
    (readFsinfo (diskService fun _ => sampleBootSector) 0 0x7000 0x8000
      (readFat32BootSector (diskService fun _ => sampleBootSector) 0 0x7000
        ⟨fun _ => 0, []⟩)).requests = [(0, 1), (0, 1)] := by
  obtain ⟨told, session⟩ := bootSector_image_iff (diskService_stores fun _ => sampleBootSector) 0
    0x7000 0x8000 ⟨fun _ => 0, []⟩ (fat32BootSectorOf sampleBootSector.bytes)
  have begins := told.mp (fat32BootSectorOf_read (diskService_stores _) 0 0x7000 _)
  have flags : (fat32BootSectorOf sampleBootSector.bytes).fsInfoSector = 0 := by decide +kernel
  rw [session begins, flags]
  rfl

/-! ## What it does not tell -/

/-- The disk with one byte of the sector at `lba` exchanged. -/
def exchangeByte (disk : RtU32 → Sector) (lba : RtU32) (offset : Fin 512) (b : Byte) :
    RtU32 → Sector :=
  fun l => if l = lba then (disk lba).set offset b offset.isLt else disk l

theorem exchangeByte_bytes (disk : RtU32 → Sector) (lba : RtU32) (offset : Fin 512) (b : Byte)
    (i : Nat) :
    (exchangeByte disk lba offset b lba).bytes i =
      if i = offset then b else (disk lba).bytes i := by
  rw [exchangeByte, if_pos rfl, Sector.bytes, Sector.bytes, Vector.toList_set, List.getElem?_set,
    Vector.length_toList, if_pos offset.isLt]
  by_cases here : i = offset
  · rw [if_pos here.symm, if_pos here, Option.getD_some]
  · rw [if_neg (Ne.symm here), if_neg here]

/-- A field of the volume whose low byte lies behind the structure cannot be found in it. -/
theorem exists_not_told {n : Nat} (field : Fat32BootSector → BitVec n) (disk : RtU32 → Sector)
    (lba : RtU32) (offset : Fin 512) (behind : fat32BootSectorSize ≤ offset)
    (low : ∀ v, (field (bpbOf v)).setWidth 8 = v offset)
    (find : Fat32BootSector → BitVec n) (bootSector : RtU32) (m : DiskMachine) :
    ∃ b, find (fat32BootSectorOf (view (readFat32BootSector
        (diskService (exchangeByte disk lba offset b)) lba bootSector m).mem bootSector)) ≠
      field (bpbOf (exchangeByte disk lba offset b lba).bytes) := by
  by_contra finds
  simp only [not_exists, not_not] at finds
  have found (b : Byte) := finds b
  simp only [fat32BootSectorOf_read (diskService_stores _)] at found
  have same : fat32BootSectorOf (exchangeByte disk lba offset 0 lba).bytes =
      fat32BootSectorOf (exchangeByte disk lba offset 1 lba).bytes := by
    refine fat32BootSectorOf_congr fun i inside => ?_
    have elsewhere : i ≠ offset := Nat.ne_of_lt (Nat.lt_of_lt_of_le inside behind)
    rw [exchangeByte_bytes, exchangeByte_bytes, if_neg elsewhere, if_neg elsewhere]
  -- the same is found with a 0 and with a 1 there
  have equal := (found 0).symm.trans ((congrArg find same).trans (found 1))
  have byte := congrArg (BitVec.setWidth 8) equal
  rw [low, low, exchangeByte_bytes, exchangeByte_bytes, if_pos rfl, if_pos rfl] at byte
  exact absurd byte (by decide)

/-- The root cluster, the information sector and the backup sector of a volume cannot be found
in the structure, in whatever way it is looked at: on any disk one byte of the boot sector may be
such that what was found is wrong. -/
theorem bootSector_hides (disk : RtU32 → Sector) (lba bootSector : RtU32) (m : DiskMachine) :
    (∀ find : Fat32BootSector → RtU32, ∃ b,
      find (fat32BootSectorOf (view (readFat32BootSector
          (diskService (exchangeByte disk lba 44 b)) lba bootSector m).mem bootSector)) ≠
        (bpbOf (exchangeByte disk lba 44 b lba).bytes).fat32RootCluster) ∧
    (∀ find : Fat32BootSector → RtU16, ∃ b,
      find (fat32BootSectorOf (view (readFat32BootSector
          (diskService (exchangeByte disk lba 48 b)) lba bootSector m).mem bootSector)) ≠
        (bpbOf (exchangeByte disk lba 48 b lba).bytes).fsInfoSector) ∧
    (∀ find : Fat32BootSector → RtU16, ∃ b,
      find (fat32BootSectorOf (view (readFat32BootSector
          (diskService (exchangeByte disk lba 50 b)) lba bootSector m).mem bootSector)) ≠
        (bpbOf (exchangeByte disk lba 50 b lba).bytes).backupBootSector) := by
  refine ⟨fun find => ?_, fun find => ?_, fun find => ?_⟩
  · exact exists_not_told Fat32BootSector.fat32RootCluster disk lba 44 (by decide)
      (fun v => setWidth_word32 v 44) find bootSector m
  · exact exists_not_told Fat32BootSector.fsInfoSector disk lba 48 (by decide)
      (fun v => setWidth_word16 v 48) find bootSector m
  · exact exists_not_told Fat32BootSector.backupBootSector disk lba 50 (by decide)
      (fun v => setWidth_word16 v 50) find bootSector m

end LamaOS
