import LamaOS.Boot.Boot
import LamaOS.Misc.PackedLayout

/-!
# The FAT32 boot sector

`fat32.c`, `fsinfo.c` and `disk_io.c`. A boot sector is read by having the BIOS store it where a
packed structure is, and the structure's members are then the values of its fields. This works
as far as the structure is laid out as the sector is. What the BIOS does is a parameter: it is
given the registers that `read_sectors` loads, which are 32 bits wide and so are the addresses
here.
-/

namespace LamaOS

open Packed

/-- The bytes of a sector by their offset. -/
def Sector.bytes (sector : Sector) (i : Nat) : Byte := (sector.toList[i]?).getD 0

/-! ## The functions -/

/-- `fat32_boot_sector_t`. -/
structure Fat32BootSector where
  jump : Vector RtU8 3
  oemId : Vector RtU8 8
  bytesPerSector : RtU16
  sectorsPerCluster : RtU8
  reservedSectorCount : RtU16
  fatCount : RtU8
  rootDirEntries : RtU16
  totalSectors : RtU16
  mediaType : RtU8
  fatSize : RtU16
  sectorsPerTrack : RtU16
  headCount : RtU16
  hiddenSectors : RtU32
  totalSectorsLarge : RtU32
  fat32RootCluster : RtU32
  fsInfoSector : RtU16
  backupBootSector : RtU16
  deriving DecidableEq, Repr

/-- The sizes of the members of `fat32_boot_sector_t`, in their order. -/
def fat32MemberSizes : List Nat := [3, 8, 2, 1, 2, 1, 2, 2, 1, 2, 2, 2, 4, 4, 4, 2, 2]

/-- `sizeof(fat32_boot_sector_t)`. -/
def fat32BootSectorSize : Nat := fat32MemberSizes.sum

/-- The structure laid over a run of bytes. -/
def fat32BootSectorOf (v : Nat → Byte) : Fat32BootSector where
  jump := bytes v (offset fat32MemberSizes 0) 3
  oemId := bytes v (offset fat32MemberSizes 1) 8
  bytesPerSector := word16 v (offset fat32MemberSizes 2)
  sectorsPerCluster := v (offset fat32MemberSizes 3)
  reservedSectorCount := word16 v (offset fat32MemberSizes 4)
  fatCount := v (offset fat32MemberSizes 5)
  rootDirEntries := word16 v (offset fat32MemberSizes 6)
  totalSectors := word16 v (offset fat32MemberSizes 7)
  mediaType := v (offset fat32MemberSizes 8)
  fatSize := word16 v (offset fat32MemberSizes 9)
  sectorsPerTrack := word16 v (offset fat32MemberSizes 10)
  headCount := word16 v (offset fat32MemberSizes 11)
  hiddenSectors := word32 v (offset fat32MemberSizes 12)
  totalSectorsLarge := word32 v (offset fat32MemberSizes 13)
  fat32RootCluster := word32 v (offset fat32MemberSizes 14)
  fsInfoSector := word16 v (offset fat32MemberSizes 15)
  backupBootSector := word16 v (offset fat32MemberSizes 16)

/-- What `read_sectors` loads before `int $0x13`. -/
structure Int13Registers where
  ecx : RtU32
  ebx : RtU32
  edi : RtU32
  al : RtU8

/-- The BIOS disk service, as what it does to memory. -/
abbrev DiskService := Int13Registers → Memory 32 → Memory 32

/-- The memory, and the sectors asked for so far: the first one of each request and their
number. -/
structure DiskMachine where
  mem : Memory 32
  requests : List (RtU32 × RtU32)

section Functions

variable (int13 : DiskService)

/-- `read_sectors`. -/
def readSectors (lba buffer sectors : RtU32) (m : DiskMachine) : DiskMachine where
  mem := int13 ⟨sectors, lba, buffer, 0x02⟩ m.mem
  requests := m.requests ++ [(lba, sectors)]

/-- `read_fat32_boot_sector`. -/
def readFat32BootSector (lba bootSector : RtU32) (m : DiskMachine) : DiskMachine :=
  readSectors int13 lba bootSector 1 m

/-- `read_fsinfo`; `buffer` is where its array is. -/
def readFsinfo (lba bootSector buffer : RtU32) (m : DiskMachine) : DiskMachine :=
  let fsinfoSector := (fat32BootSectorOf (view m.mem bootSector)).fsInfoSector.setWidth 32
  readSectors int13 (fsinfoSector + lba) buffer 1 m

end Functions

/-! ## The layout on the disk -/

/-- `BPB_FATSz32`. -/
def bpbFatSz32 (v : Nat → Byte) : RtU32 := word32 v 36

/-- `BPB_ExtFlags`. -/
def bpbExtFlags (v : Nat → Byte) : RtU16 := word16 v 40

/-- `BPB_FSVer`. -/
def bpbFsVer (v : Nat → Byte) : RtU16 := word16 v 42

/-- The values of the structure's fields in a FAT32 boot sector. -/
def bpbOf (v : Nat → Byte) : Fat32BootSector where
  jump := bytes v 0 3
  oemId := bytes v 3 8
  bytesPerSector := word16 v 11
  sectorsPerCluster := v 13
  reservedSectorCount := word16 v 14
  fatCount := v 16
  rootDirEntries := word16 v 17
  totalSectors := word16 v 19
  mediaType := v 21
  fatSize := word16 v 22
  sectorsPerTrack := word16 v 24
  headCount := word16 v 26
  hiddenSectors := word32 v 28
  totalSectorsLarge := word32 v 32
  fat32RootCluster := word32 v 44
  fsInfoSector := word16 v 48
  backupBootSector := word16 v 50

/-- The members up to the number of sectors are where the sector has them; the next three stand
where the sector has the size of a FAT, the flags and the version. -/
theorem fat32BootSectorOf_eq (v : Nat → Byte) :
    fat32BootSectorOf v =
      { bpbOf v with
        fat32RootCluster := bpbFatSz32 v
        fsInfoSector := bpbExtFlags v
        backupBootSector := bpbFsVer v } := rfl

/-- The structure is decoded as the sector is laid out exactly if the sector has these fields
twice. -/
theorem fat32BootSectorOf_eq_bpbOf_iff (v : Nat → Byte) :
    fat32BootSectorOf v = bpbOf v ↔
      (bpbOf v).fat32RootCluster = bpbFatSz32 v ∧ (bpbOf v).fsInfoSector = bpbExtFlags v ∧
        (bpbOf v).backupBootSector = bpbFsVer v := by
  rw [fat32BootSectorOf_eq]
  constructor
  · intro same
    refine ⟨?_, ?_, ?_⟩
    · exact (congrArg Fat32BootSector.fat32RootCluster same).symm
    · exact (congrArg Fat32BootSector.fsInfoSector same).symm
    · exact (congrArg Fat32BootSector.backupBootSector same).symm
  · rintro ⟨root, info, backup⟩
    rw [← root, ← info, ← backup]

/-- The structure reads the bytes it covers, and no others. -/
theorem fat32BootSectorOf_congr {v v' : Nat → Byte}
    (same : ∀ i < fat32BootSectorSize, v i = v' i) :
    fat32BootSectorOf v = fat32BootSectorOf v' := by
  have word {i : Nat} := @word16_congr v v' fat32BootSectorSize i same
  have long {i : Nat} := @word32_congr v v' fat32BootSectorSize i same
  simp only [fat32BootSectorOf, Fat32BootSector.mk.injEq]
  refine ⟨bytes_congr same (by decide), bytes_congr same (by decide), word (by decide),
    same _ (by decide), word (by decide), same _ (by decide), word (by decide),
    word (by decide), same _ (by decide), word (by decide), word (by decide), word (by decide),
    long (by decide), long (by decide), long (by decide), word (by decide), word (by decide)⟩

/-! ## Reading a boot sector -/

/-- The bytes of the `n` sectors from `lba` on. -/
def diskBytes (disk : RtU32 → Sector) (lba : RtU32) (n : Nat) : List Byte :=
  (List.range n).flatMap fun k => (disk (lba + BitVec.ofNat 32 k)).toList

/-- Asked to read, the service stores the sectors, 512 bytes each, and nothing else. -/
def StoresSectors (int13 : DiskService) (disk : RtU32 → Sector) : Prop :=
  ∀ regs mem, regs.al = 0x02 →
    int13 regs mem = mem.writeBytes regs.edi (diskBytes disk regs.ebx regs.ecx.toNat)

/-- The boot sector at `lba` is decoded by its layout: the structure gets the values of its
fields, no memory outside the structure changes, and the sector read next is the one the boot
sector names. -/
structure DecodesBootSector (int13 : DiskService) (disk : RtU32 → Sector)
    (lba bootSector buffer : RtU32) (m : DiskMachine) : Prop where
  fields : fat32BootSectorOf (view (readFat32BootSector int13 lba bootSector m).mem bootSector) =
    bpbOf (disk lba).bytes
  outside : ∀ a, fat32BootSectorSize ≤ (a - bootSector).toNat →
    (readFat32BootSector int13 lba bootSector m).mem a = m.mem a
  fsinfo : (readFsinfo int13 lba bootSector buffer
      (readFat32BootSector int13 lba bootSector m)).requests =
    (readFat32BootSector int13 lba bootSector m).requests ++
      [(lba + (bpbOf (disk lba).bytes).fsInfoSector.setWidth 32, 1)]

/-- The sector has the three fields twice, and the bytes behind the structure are the sector's
already. -/
def BootSectorFits (disk : RtU32 → Sector) (lba bootSector : RtU32) (m : DiskMachine) : Prop :=
  ((bpbOf (disk lba).bytes).fat32RootCluster = bpbFatSz32 (disk lba).bytes ∧
    (bpbOf (disk lba).bytes).fsInfoSector = bpbExtFlags (disk lba).bytes ∧
    (bpbOf (disk lba).bytes).backupBootSector = bpbFsVer (disk lba).bytes) ∧
  ∀ i, fat32BootSectorSize ≤ i → i < 512 → view m.mem bootSector i = (disk lba).bytes i

section Read

variable {int13 : DiskService} {disk : RtU32 → Sector}

/-- One sector is stored. -/
theorem readFat32BootSector_mem (stores : StoresSectors int13 disk) (lba bootSector : RtU32)
    (m : DiskMachine) :
    (readFat32BootSector int13 lba bootSector m).mem =
      m.mem.writeBytes bootSector (disk lba).toList := by
  have one : diskBytes disk lba 1 = (disk lba).toList := by
    simp [diskBytes]
  rw [← one]
  exact stores ⟨1, lba, bootSector, 0x02⟩ m.mem rfl

/-- The sector's bytes are where the structure is. -/
theorem view_readFat32BootSector (stores : StoresSectors int13 disk) (lba bootSector : RtU32)
    (m : DiskMachine) {i : Nat} (inside : i < 512) :
    view (readFat32BootSector int13 lba bootSector m).mem bootSector i = (disk lba).bytes i := by
  have length : (disk lba).toList.length = 512 := Vector.length_toList
  have inside' : i < (disk lba).toList.length := by omega
  rw [readFat32BootSector_mem stores, view_writeBytes m.mem bootSector (by omega) inside',
    Sector.bytes, List.getElem?_eq_getElem inside', Option.getD_some]

/-- The structure holds what the sector has at the members' offsets. -/
theorem fat32BootSectorOf_read (stores : StoresSectors int13 disk) (lba bootSector : RtU32)
    (m : DiskMachine) :
    fat32BootSectorOf (view (readFat32BootSector int13 lba bootSector m).mem bootSector) =
      fat32BootSectorOf (disk lba).bytes := by
  apply fat32BootSectorOf_congr
  intro i inside
  exact view_readFat32BootSector stores lba bootSector m (Nat.lt_trans inside (by decide))

/-- Memory outside the structure is kept exactly if the rest of the sector is there already. -/
theorem readFat32BootSector_outside_iff (stores : StoresSectors int13 disk)
    (lba bootSector : RtU32) (m : DiskMachine) :
    (∀ a, fat32BootSectorSize ≤ (a - bootSector).toNat →
        (readFat32BootSector int13 lba bootSector m).mem a = m.mem a) ↔
      ∀ i, fat32BootSectorSize ≤ i → i < 512 → view m.mem bootSector i = (disk lba).bytes i := by
  constructor
  · intro outside i behind inside
    have small : i < 2 ^ 32 := Nat.lt_trans inside (by decide)
    have kept := outside (bootSector + BitVec.ofNat 32 i) (by
      rw [toNat_add_ofNat_sub bootSector small]
      exact behind)
    rw [← view_readFat32BootSector stores lba bootSector m inside]
    exact kept.symm
  · intro rest a behind
    by_cases inside : (a - bootSector).toNat < 512
    · -- the address is the one at its own offset
      have here : a = bootSector + BitVec.ofNat 32 (a - bootSector).toNat := by
        rw [BitVec.ofNat_toNat, BitVec.setWidth_eq]
        grind
      have stored := view_readFat32BootSector stores lba bootSector m inside
      rw [← rest _ behind inside, view, view, ← here] at stored
      exact stored
    · rw [readFat32BootSector_mem stores]
      apply Memory.writeBytes_of_outside
      rw [Vector.length_toList]
      exact Nat.le_of_not_lt inside

/-- The sector that `read_fsinfo` asks for. -/
theorem readFsinfo_requests (stores : StoresSectors int13 disk) (lba bootSector buffer : RtU32)
    (m : DiskMachine) :
    (readFsinfo int13 lba bootSector buffer
        (readFat32BootSector int13 lba bootSector m)).requests =
      (readFat32BootSector int13 lba bootSector m).requests ++
        [(lba + (bpbExtFlags (disk lba).bytes).setWidth 32, 1)] := by
  rw [readFsinfo, fat32BootSectorOf_read stores, fat32BootSectorOf_eq, BitVec.add_comm]
  rfl

/-- The FAT32 boot sector is decoded by its layout exactly if it has its root cluster, its
information sector and its backup sector also where `fat32_boot_sector_t`, which leaves out the
size of a FAT, the flags and the version, has these members, and if the memory behind the
structure, which is smaller than a sector, holds the rest of the sector already. -/
theorem bootSector_decoded_iff (stores : StoresSectors int13 disk)
    (lba bootSector buffer : RtU32) (m : DiskMachine) :
    DecodesBootSector int13 disk lba bootSector buffer m ↔
      BootSectorFits disk lba bootSector m := by
  have fields := fat32BootSectorOf_read stores lba bootSector m
  have outside := readFat32BootSector_outside_iff stores lba bootSector m
  constructor
  · intro decodes
    refine ⟨(fat32BootSectorOf_eq_bpbOf_iff _).mp (fields ▸ decodes.fields), ?_⟩
    exact outside.mp decodes.outside
  · rintro ⟨twice, rest⟩
    refine ⟨?_, outside.mpr rest, ?_⟩
    · rw [fields]
      exact (fat32BootSectorOf_eq_bpbOf_iff _).mpr twice
    · rw [readFsinfo_requests stores, twice.2.1]

end Read

/-- A service that reads the disk. -/
def diskService (disk : RtU32 → Sector) : DiskService := fun regs mem =>
  if regs.al = 0x02 then mem.writeBytes regs.edi (diskBytes disk regs.ebx regs.ecx.toNat)
  else mem

theorem diskService_stores (disk : RtU32 → Sector) : StoresSectors (diskService disk) disk := by
  intro regs mem read
  rw [diskService, if_pos read]

/-- The first bytes of the boot sector of a FAT32 volume of 2 GiB, with FATs of 4096 sectors,
root cluster 2, information sector 1 and backup sector 6. -/
def sampleBpb : List Byte :=
  [0xEB, 0x58, 0x90, 0x4D, 0x53, 0x44, 0x4F, 0x53, 0x35, 0x2E, 0x30, 0x00, 0x02, 0x08, 0x20, 0x00,
    0x02, 0x00, 0x00, 0x00, 0x00, 0xF8, 0x00, 0x00, 0x3F, 0x00, 0xFF, 0x00, 0x00, 0x00, 0x00, 0x00,
    0x00, 0x00, 0x40, 0x00, 0x00, 0x10, 0x00, 0x00, 0x00, 0x00, 0x00, 0x00, 0x02, 0x00, 0x00, 0x00,
    0x01, 0x00, 0x06, 0x00]

/-- The sector, with its signature. -/
def sampleBootSector : Sector := Vector.ofFn fun i =>
  (sampleBpb[i.val]?).getD (if i.val = 510 then 0x55 else if i.val = 511 then 0xAA else 0)

/-- On a disk of such sectors. -/
theorem bootSector_decoded_iff_sample :
    DecodesBootSector (diskService fun _ => sampleBootSector) (fun _ => sampleBootSector) 0 0x7000
        0x8000 ⟨fun _ => 0, []⟩ ↔
      BootSectorFits (fun _ => sampleBootSector) 0 0x7000 ⟨fun _ => 0, []⟩ :=
  bootSector_decoded_iff (diskService_stores _) 0 0x7000 0x8000 ⟨fun _ => 0, []⟩

/-- The information sector of the volume is taken to be 0, its flags. -/
theorem bootSector_misread :
    ¬ DecodesBootSector (diskService fun _ => sampleBootSector) (fun _ => sampleBootSector) 0
      0x7000 0x8000 ⟨fun _ => 0, []⟩ := by
  intro decodes
  have fields := decodes.fields
  rw [fat32BootSectorOf_read (diskService_stores _)] at fields
  have info := congrArg Fat32BootSector.fsInfoSector fields
  revert info
  decide +kernel

end LamaOS
