import LamaOS.Drivers.Common.RtTypes
import LamaOS.Misc.ByteMemory
import LamaOS.Misc.Loop

/-!
# The boot loader

`load_kernel` of `boot.c`, with the screen output it produces. The loader addresses memory
through 32-bit integers, so its memory is one flat space of 32-bit addresses, with the video
memory inside it; the local `buffer` is not part of that space. `SECTOR_SIZE` and
`read_sector` are used by `boot.c` but defined nowhere in the repository: the former is
taken as 512, the latter is the parameter `Disk`. The loading loop can run forever, so its
meaning is given by `Loop.Exits`.
-/

namespace LamaOS

/-- `SECTOR_SIZE`. -/
abbrev sectorSize : Nat := 512

/-- `KERNEL_LOAD_ADDRESS`. -/
def kernelLoadAddress : RtU32 := 0x10000

/-- `VGA_PORT`, the address of the first video cell. -/
def vgaPort : RtU32 := 0xB8000

abbrev BootMemory := Memory 32

abbrev Sector := Vector RtU8 sectorSize

/-- `read_sector`: `none` is a nonzero return code, otherwise the bytes put into `buffer`. -/
abbrev Disk := RtU32 → Option Sector

/-! ## Screen output -/

/-- A 16-bit store, low byte first. -/
def store16 (addr : RtU32) (value : RtU16) (mem : BootMemory) : BootMemory :=
  Function.update (Function.update mem addr (value.setWidth 8)) (addr + 1)
    ((value >>> 8).setWidth 8)

/-- `write_char`. The character is a signed `char`: it is sign-extended to `int` before the
attribute is put in front of it, and the result is cut to the 16 bits of a cell. -/
def writeChar (c : RtU8) (x y : RtU16) (mem : BootMemory) : BootMemory :=
  let index : RtU32 := y.setWidth 32 * 80 + x.setWidth 32
  store16 (vgaPort + 2 * index) (((0x0F : RtU32) <<< 8 ||| c.signExtend 32).setWidth 16) mem

/-- `print`: every character goes to the first cell. -/
def print : List RtU8 → BootMemory → BootMemory
  | [], mem => mem
  | c :: cs, mem => if c = 0 then mem else print cs (writeChar c 0 0 mem)

/-! ## Loading the kernel -/

/-- The variables of `load_kernel`, and the sectors it has asked `read_sector` for. -/
structure LoadState where
  sector : RtU32
  kernelSize : RtU32
  kernelAddress : RtU32
  mem : BootMemory
  reads : List RtU32

inductive LoadEnd where
  /-- `load_kernel` returned after a failed read. -/
  | returned
  /-- `load_kernel` called `kernel_main`. -/
  | kernelMain
  deriving DecidableEq, Repr

/-- How the loading loop was left, with the memory and the `read_sector` calls at that point. -/
structure LoadOutcome where
  ending : LoadEnd
  mem : BootMemory
  reads : List RtU32

/-- The inner copy loop; the list is what is left of `buffer`. It stops early when the
count reaches zero. -/
def copySector : List RtU8 → LoadState → LoadState
  | [], s => s
  | b :: bs, s =>
    if s.kernelSize > 0 then
      copySector bs { s with
        mem := Function.update s.mem s.kernelAddress b
        kernelAddress := s.kernelAddress + 1
        kernelSize := s.kernelSize - 1 }
    else s

/-- One pass of the outer loop: its test, its body and the decrement in its header, which
comes on top of the decrements of the copy loop. -/
def loadKernelPass (disk : Disk) (s : LoadState) : LoadState ⊕ LoadOutcome :=
  if s.kernelSize > 0 then
    match disk s.sector with
    | none =>
      .inr ⟨.returned, print (cString "Disk okuma hatası!\n") s.mem, s.reads ++ [s.sector]⟩
    | some buffer =>
      let s' := copySector buffer.toList s
      .inl { s' with
        kernelSize := s'.kernelSize - BitVec.ofNat 32 sectorSize
        sector := s'.sector + 1
        reads := s'.reads ++ [s.sector] }
  else
    .inr ⟨.kernelMain, print (cString "Kernel yuklendi, baslatiliyor...\n") s.mem, s.reads⟩

def loadKernelStart (kernelSector kernelSize : RtU32) (mem : BootMemory) : LoadState :=
  ⟨kernelSector, kernelSize, kernelLoadAddress, mem, []⟩

/-- `load_kernel(kernel_sector, kernel_size)`, started on the memory `mem`, ends so. -/
def LoadKernel (disk : Disk) (kernelSector kernelSize : RtU32) (mem : BootMemory)
    (outcome : LoadOutcome) : Prop :=
  Loop.Exits (loadKernelPass disk) (loadKernelStart kernelSector kernelSize mem) outcome

/-- The part of a `DIR_ENTRY` that `load_kernel_from_fat32` uses. -/
structure DirEntry where
  firstCluster : RtU32
  fileSize : RtU32
  deriving DecidableEq, Repr

/-- `load_kernel_from_fat32`, started on the memory `mem`, ends so. The function `find_file`
is defined nowhere in the repository; it is the parameter `findFile`, with `none` for a
nonzero return code. -/
def LoadKernelFromFat32 (disk : Disk) (findFile : List RtU8 → Option DirEntry) (mem : BootMemory)
    (outcome : LoadOutcome) : Prop :=
  match findFile (cString "kernel.c") with
  | none => outcome = ⟨.returned, print (cString "kernel.c dosyasi bulunamadi!\n") mem, []⟩
  | some entry =>
    -- the number of the cluster is taken for the number of a sector
    LoadKernel disk entry.firstCluster entry.fileSize mem outcome

/-! ## What `print` leaves on the screen -/

/-- A store leaves all bytes but its two as they are. -/
theorem store16_of_ne (value : RtU16) (mem : BootMemory) {addr a : RtU32} (low : a ≠ addr)
    (high : a ≠ addr + 1) : store16 addr value mem a = mem a := by
  rw [store16, Function.update_of_ne high, Function.update_of_ne low]

theorem store16_store16 (addr : RtU32) (v v' : RtU16) (mem : BootMemory) :
    store16 addr v (store16 addr v' mem) = store16 addr v mem := by
  have ne : addr ≠ addr + 1 := by bv_omega
  unfold store16
  rw [Function.update_comm ne, Function.update_idem, Function.update_comm ne.symm,
    Function.update_idem]

/-- Every character overwrites the one before it, so only the last one stays. -/
theorem print_eq_last (s : List RtU8) (mem : BootMemory) (noNul : ∀ c ∈ s, c ≠ 0) :
    print s mem = (s.getLast?).elim mem fun c => writeChar c 0 0 mem := by
  induction s generalizing mem with
  | nil => rfl
  | cons c cs ih =>
    rw [print, if_neg (noNul c List.mem_cons_self),
      ih _ fun c h => noNul c (List.mem_cons_of_mem _ h)]
    cases cs with
    | nil => rfl
    | cons d ds =>
      rw [List.getLast?_cons_cons]
      cases hlast : (d :: ds).getLast? with
      | none => simp at hlast
      | some e =>
        simp only [Option.elim_some, writeChar]
        exact store16_store16 _ _ _ _

/-- After the start message the first cell holds a line feed, white on black; no other byte
of memory has changed. -/
theorem print_started (mem : BootMemory) (a : RtU32) :
    print (cString "Kernel yuklendi, baslatiliyor...\n") mem a =
      if a = vgaPort then 0x0A else if a = vgaPort + 1 then 0x0F else mem a := by
  rw [print_eq_last _ _ (by decide +kernel)]
  have last : (cString "Kernel yuklendi, baslatiliyor...\n").getLast? = some 0x0A := by decide
  have cell : writeChar 0x0A 0 0 mem =
      Function.update (Function.update mem vgaPort 0x0A) (vgaPort + 1) 0x0F := rfl
  rw [last, Option.elim_some, cell]
  by_cases h0 : a = vgaPort
  · subst h0
    rw [Function.update_of_ne (by decide), Function.update_self, if_pos rfl]
  · rw [if_neg h0]
    by_cases h1 : a = vgaPort + 1
    · subst h1
      rw [Function.update_self, if_pos rfl]
    · rw [if_neg h1, Function.update_of_ne h1, Function.update_of_ne h0]

end LamaOS
