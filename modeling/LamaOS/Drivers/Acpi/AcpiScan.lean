import LamaOS.Drivers.Acpi.AcpiRsdp

/-!
# What the scan for the RSDP returns

`ACPI_FindRSDP` has a loop with a loop inside, goes on behind a candidate whose bytes do not sum
to zero, and leaves at the first one whose bytes do. Over all memories: it finds the lowest
candidate there is, stores the 36 bytes found there, and changes nothing if there is none.
-/

namespace LamaOS

/-- The 36 bytes of an `ACPI_RSDP`. -/
def AcpiRsdp.bytes (rsdp : AcpiRsdp) : List RtU8 :=
  rsdp.legacyBytes ++ wordBytes rsdp.length ++ wordBytes (rsdp.xsdtAddress.setWidth 32) ++
    wordBytes ((rsdp.xsdtAddress >>> 32).setWidth 32) ++ [rsdp.extendedChecksum] ++
    rsdp.reserved.toList

/-- The `k`-th address of the window carries the signature, and its 36 bytes sum to zero. -/
structure RsdpCandidate (mem : AcpiMemory) (k : Nat) : Prop where
  inWindow : 16 * k < 0xFFFFF
  signature : mem.readBytes (acpiCandidate k) 8 = cString "RSD PTR "
  checksum : byteSum (mem.readBytes (acpiCandidate k) 36) = 0

variable {mem : AcpiMemory}

/-! ## The structure that is stored -/

theorem read64_low (mem : AcpiMemory) (address : RtPtr) :
    (mem.read64 address).setWidth 32 = mem.read32 address := by
  rw [Memory.read64]
  ext i small
  grind

theorem read64_high (mem : AcpiMemory) (address : RtPtr) :
    (mem.read64 address >>> 32).setWidth 32 = mem.read32 (address + 4) := by
  rw [Memory.read64]
  ext i small
  grind

/-- The structure at an address has the bytes at that address. -/
theorem bytes_acpiRsdpAt (mem : AcpiMemory) (address : RtPtr) :
    (acpiRsdpAt mem address).bytes = mem.readBytes address 36 := by
  rw [AcpiRsdp.bytes, legacyBytes_acpiRsdpAt]
  simp only [acpiRsdpAt, Memory.toList_bytesAt, read64_low, read64_high, wordBytes_read32]
  rw [show (36 : Nat) = 20 + 4 + 4 + 4 + 1 + 3 from rfl]
  simp only [Memory.readBytes_add, BitVec.add_assoc]
  rfl

/-! ## The first candidate -/

theorem acpiIsRsdp_iff_sum (mem : AcpiMemory) (address : RtPtr) :
    acpiIsRsdp mem address = true ↔ mem.readBytes address 8 = cString "RSD PTR " ∧
      byteSum (mem.readBytes address 36) = 0 := by
  rw [acpiIsRsdp_iff, byteSum_rsdp]

/-- The scan stops at the lowest candidate. -/
theorem firstRsdp_iff {k : Nat} :
    FirstRsdp mem k ↔ RsdpCandidate mem k ∧ ∀ j < k, ¬ RsdpCandidate mem j := by
  constructor
  · intro found
    rcases (acpiIsRsdp_iff_sum mem _).mp found.rsdp with ⟨signature, checksum⟩
    refine ⟨⟨found.inWindow, signature, checksum⟩, ?_⟩
    intro j before candidate
    have passed := (acpiIsRsdp_iff_sum mem _).mpr ⟨candidate.signature, candidate.checksum⟩
    rw [found.first j before] at passed
    cases passed
  · intro lowest
    rcases lowest with ⟨candidate, first⟩
    refine ⟨candidate.inWindow, ?_, ?_⟩
    · exact (acpiIsRsdp_iff_sum mem _).mpr ⟨candidate.signature, candidate.checksum⟩
    · intro j before
      rw [Bool.eq_false_iff]
      intro passed
      rcases (acpiIsRsdp_iff_sum mem _).mp passed with ⟨signature, checksum⟩
      have inWindow := candidate.inWindow
      exact first j before ⟨by omega, signature, checksum⟩

/-- If there is a candidate there is a lowest one. -/
theorem exists_firstRsdp_iff : (∃ k, FirstRsdp mem k) ↔ ∃ k, RsdpCandidate mem k := by
  constructor
  · intro found
    rcases found with ⟨k, found⟩
    exact ⟨k, (firstRsdp_iff.mp found).1⟩
  · rintro ⟨k, candidate⟩
    have passed := (acpiIsRsdp_iff_sum mem _).mpr ⟨candidate.signature, candidate.checksum⟩
    rcases exists_firstRsdp_le candidate.inWindow passed with ⟨j, -, found⟩
    exact ⟨j, found⟩

theorem acpiFindRsdp_none (none : ¬ ∃ k, RsdpCandidate mem k) (s : AcpiObjects) :
    acpiFindRsdp mem s = (false, s) := by
  have scan : acpiFindRsdpFrom mem acpiRsdpAddress = .none := by
    rw [Option.eq_none_iff_forall_ne_some]
    intro address found
    rcases (acpiFindRsdpFrom_eq_some_iff mem address).mp found with ⟨k, first, -⟩
    exact none (exists_firstRsdp_iff.mp ⟨k, first⟩)
  rw [acpiFindRsdp, scan]

/-- The scan succeeds exactly when there is a candidate; it then stores the 36 bytes of the
lowest one in the driver object, and otherwise leaves everything as it is. -/
theorem acpiFindRsdp_lowest (mem : AcpiMemory) (s : AcpiObjects) :
    ((acpiFindRsdp mem s).1 = true ↔ ∃ k, RsdpCandidate mem k) ∧
      (∀ k, RsdpCandidate mem k → (∀ j < k, ¬ RsdpCandidate mem j) →
        ∃ rsdp : AcpiRsdp, rsdp.bytes = mem.readBytes (acpiCandidate k) 36 ∧
          acpiFindRsdp mem s = (true, { s with acpiDriverInstance.rsdp := rsdp })) ∧
      ((¬ ∃ k, RsdpCandidate mem k) → acpiFindRsdp mem s = (false, s)) := by
  refine ⟨(acpiFindRsdp_fst mem s).trans exists_firstRsdp_iff, ?_, ?_⟩
  · intro k candidate first
    have found : FirstRsdp mem k := firstRsdp_iff.mpr ⟨candidate, first⟩
    exact ⟨_, bytes_acpiRsdpAt mem _, acpiFindRsdp_of_first found s⟩
  · intro none
    exact acpiFindRsdp_none none s

end LamaOS
