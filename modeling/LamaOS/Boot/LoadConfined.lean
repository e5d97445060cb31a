import LamaOS.Boot.BootSequence

/-!
# Where `load_kernel` writes

As long as the copy loop has not stored more bytes than the kernel has, the loader stores within
the region of the kernel only, apart from the video cell that its messages go to. For a size that
is a multiple of 1024 it never does. For any other the loop header takes a sector off a smaller
count halfway, and the loop goes on beyond the end; how far it comes before that is counted here.
-/

namespace LamaOS

/-! ## The points of a run -/

/-- The memory at a point of one pass: after `k` bytes of the buffer have been copied, or
after some characters of the message that the loop is left with. -/
inductive LoadPoint (disk : Disk) (s : LoadState) : Nat → BootMemory → Prop where
  | copying {buffer : Sector} (more : s.kernelSize > 0) (read : disk s.sector = some buffer)
      (k : Nat) : LoadPoint disk s k (copySector (buffer.toList.take k) s).mem
  | returning (more : s.kernelSize > 0) (failed : disk s.sector = none) (chars : Nat) :
      LoadPoint disk s 0 (print ((cString "Disk okuma hatası!\n").take chars) s.mem)
  | starting (done : ¬ s.kernelSize > 0) (chars : Nat) :
      LoadPoint disk s 0 (print ((cString "Kernel yuklendi, baslatiliyor...\n").take chars) s.mem)

/-- The memory a pass hands on to the next one is that of its last point. -/
theorem loadPoint_inl {disk : Disk} {s s' : LoadState} (h : loadKernelPass disk s = .inl s') :
    LoadPoint disk s sectorSize s'.mem := by
  obtain ⟨more, buffer, read, rfl⟩ := loadKernelPass_inl h
  have last := LoadPoint.copying more read buffer.toList.length
  rwa [List.take_length, Vector.length_toList] at last

/-- So is the memory the loop is left with. -/
theorem loadPoint_inr {disk : Disk} {s : LoadState} {outcome : LoadOutcome}
    (h : loadKernelPass disk s = .inr outcome) : LoadPoint disk s 0 outcome.mem := by
  unfold loadKernelPass at h
  split at h
  · rename_i more
    cases failed : disk s.sector with
    | some buffer => simp [failed] at h
    | none =>
      rw [failed] at h
      obtain rfl := Sum.inr.inj h
      have last := LoadPoint.returning more failed (cString "Disk okuma hatası!\n").length
      rwa [List.take_length] at last
  · rename_i done
    obtain rfl := Sum.inr.inj h
    have last : LoadPoint disk s 0 _ := LoadPoint.starting done
      (cString "Kernel yuklendi, baslatiliyor...\n").length
    rwa [List.take_length] at last

/-- The addresses that do not belong to the kernel. -/
def OutsideKernel (kernelSize a : RtU32) : Prop :=
  a.toNat < kernelLoadAddress.toNat ∨ kernelLoadAddress.toNat + kernelSize.toNat ≤ a.toNat

/-- At every point of the run every byte outside the kernel has its initial value. -/
def Confined (disk : Disk) (kernelSector kernelSize : RtU32) (mem : BootMemory) : Prop :=
  ∀ n s k mem', Loop.Reaches (loadKernelPass disk) n (loadKernelStart kernelSector kernelSize mem) s →
    LoadPoint disk s k mem' → ∀ a, OutsideKernel kernelSize a → mem' a = mem a

/-! ## What the stores leave alone -/

/-- Whatever is printed, only the first video cell is written. -/
theorem print_of_ne (str : List RtU8) (mem : BootMemory) {a : RtU32} (char : a ≠ vgaPort)
    (attr : a ≠ vgaPort + 1) : print str mem a = mem a := by
  induction str generalizing mem with
  | nil => rfl
  | cons c str ih =>
    rw [print]
    split
    · rfl
    · rw [ih]
      have cell : vgaPort + 2 * ((0 : RtU16).setWidth 32 * 80 + (0 : RtU16).setWidth 32) =
          vgaPort := by decide
      rw [writeChar, cell]
      exact store16_of_ne _ mem char attr

/-! ## How many bytes are copied -/

/-- How many bytes the first `n` passes copy: whole sectors, but for what is left of the count in
the pass whose header takes a sector off a smaller one. -/
def bytesCopied (size n : Nat) : Nat :=
  if n ≤ size / 1024 then sectorSize * n
  else sectorSize * (n - 1) + min sectorSize (size % 1024)

variable {disk : Disk} {kernelSector kernelSize : RtU32} {mem : BootMemory}

theorem bytesCopied_succ (kernelSize : RtU32) (n : Nat) :
    bytesCopied kernelSize.toNat (n + 1) =
      bytesCopied kernelSize.toNat n + min sectorSize (passBytes kernelSize n) := by
  unfold bytesCopied passBytes
  rcases Nat.lt_trichotomy n (kernelSize.toNat / 1024) with before | last | behind
  · have next : n + 1 ≤ kernelSize.toNat / 1024 := before
    rw [if_pos next, if_pos (Nat.le_of_lt before), if_neg (Nat.ne_of_lt before), Nat.min_self,
      Nat.mul_succ]
  · rw [if_neg (by omega), if_pos (Nat.le_of_eq last), if_pos last, Nat.add_sub_cancel]
  · rw [if_neg (by omega), if_neg (by omega), if_neg (by omega), Nat.min_self]
    simp only [sectorSize]
    omega

theorem storedBytes_length {n : Nat} (readable : Readable disk kernelSector n) :
    (storedBytes disk kernelSector kernelSize n).length = bytesCopied kernelSize.toNat n := by
  induction n with
  | zero => simp [storedBytes, bytesCopied]
  | succ n ih =>
    obtain ⟨buffer, read⟩ := Option.isSome_iff_exists.mp (readable n (Nat.lt_succ_self n))
    rw [storedBytes_succ _ _ _ _ read, List.length_append, bytesCopied_succ,
      ih fun j earlier => readable j (Nat.lt_succ_of_lt earlier), List.length_take,
      Vector.length_toList, Nat.min_comm]

/-- No more bytes than the kernel has are copied before the `n`-th pass and by its first `k`
stores: for a multiple of 1024 in the whole run, else in twice as many passes as 1024 goes into
the size, one more, and as much of the next one as is left of the size. -/
def WithinSize (size n k : Nat) : Prop :=
  size % 1024 = 0 ∨ n ≤ 2 * (size / 1024) ∨ n = 2 * (size / 1024) + 1 ∧ k ≤ size % 1024 - sectorSize

/-- A run on a multiple of 1024 never gets past its last full pass. -/
theorem reached_early (even : kernelSize.toNat % 1024 = 0) {n : Nat} {s : LoadState}
    (reached : Loop.Reaches (loadKernelPass disk) n
      (loadKernelStart kernelSector kernelSize mem) s) : n ≤ kernelSize.toNat / 1024 := by
  have inv := Loop.reaches_inv (LoadInv disk kernelSector kernelSize mem) loadInv_pass
    loadInv_start reached
  have := inv.size even
  omega

/-- The bytes copied so far belong to the kernel. -/
theorem WithinSize.copied {n k : Nat} {s : LoadState}
    (within : WithinSize kernelSize.toNat n k)
    (reached : Loop.Reaches (loadKernelPass disk) n
      (loadKernelStart kernelSector kernelSize mem) s)
    (inv : LoadStored disk kernelSector kernelSize mem n s) :
    bytesCopied kernelSize.toNat n + min (min k sectorSize) s.kernelSize.toNat ≤
      kernelSize.toNat := by
  have counting := inv.counting
  unfold WithinSize at within
  unfold bytesCopied
  simp only [sectorSize] at within ⊢
  split
  · omega
  · rcases within with even | within
    · have early := reached_early even reached
      omega
    · omega

/-! ## Every point of the run -/

/-- As long as no more bytes than the kernel has are copied, every byte outside the kernel and the
first video cell has its initial value. -/
theorem loadKernel_confined (disk : Disk) (kernelSector kernelSize : RtU32) (mem : BootMemory)
    (fits : kernelLoadAddress.toNat + kernelSize.toNat ≤ 2 ^ 32) {n k : Nat} {s : LoadState}
    {mem' : BootMemory} (within : WithinSize kernelSize.toNat n k)
    (reached : Loop.Reaches (loadKernelPass disk) n
      (loadKernelStart kernelSector kernelSize mem) s)
    (point : LoadPoint disk s k mem') (a : RtU32) (outside : OutsideKernel kernelSize a)
    (char : a ≠ vgaPort) (attr : a ≠ vgaPort + 1) : mem' a = mem a := by
  have inv := Loop.reaches_inv (LoadStored disk kernelSector kernelSize mem) loadStored_pass
    loadStored_start reached
  have stored : (storedBytes disk kernelSector kernelSize n).length =
      bytesCopied kernelSize.toNat n := storedBytes_length inv.readable
  have copied := within.copied reached inv
  -- seen from the load address, `a` lies behind the kernel
  have behind : kernelSize.toNat ≤ (a - kernelLoadAddress).toNat := by
    have := a.isLt
    rw [BitVec.toNat_sub]
    unfold OutsideKernel at outside
    omega
  have unchanged : s.mem a = mem a := by
    rw [inv.loaded]
    exact Memory.writeBytes_of_outside _ (by omega)
  cases point with
  | copying more read =>
    rw [copySector_eq, inv.loaded, inv.address, ← Memory.writeBytes_append]
    apply Memory.writeBytes_of_outside
    rw [List.length_append, stored, List.length_take, List.length_take, Vector.length_toList]
    omega
  | returning _ _ chars => rw [print_of_ne _ _ char attr, unchanged]
  | starting _ chars => rw [print_of_ne _ _ char attr, unchanged]

/-- A kernel of one byte: while its sector is copied, the byte behind it is kept. -/
theorem loadKernel_confined_byte :
    (copySector ((Vector.replicate sectorSize 7).toList.take 512)
      (loadKernelStart 0 1 fun _ => 0)).mem 0x10001 = 0 :=
  loadKernel_confined (fun _ => some (Vector.replicate sectorSize 7)) 0 1 (fun _ => 0) (by decide)
    (.inr (.inl (Nat.zero_le _))) rfl (.copying (by decide) rfl 512) 0x10001 (.inr (by decide))
    (by decide) (by decide)

/-- An empty kernel is started with a message on the screen, and the screen is memory. -/
theorem loadKernel_not_confined_empty : ¬ Confined (fun _ => none) 0 0 fun _ => 0 := by
  intro confined
  have point : LoadPoint (fun _ => none) (loadKernelStart 0 0 fun _ => 0) 0 _ :=
    .starting (by decide) (cString "Kernel yuklendi, baslatiliyor...\n").length
  have kept := confined 0 _ _ _ rfl point vgaPort (.inr (by decide))
  rw [List.take_length, print_started, if_pos rfl] at kept
  exact absurd kept (by decide)

end LamaOS
