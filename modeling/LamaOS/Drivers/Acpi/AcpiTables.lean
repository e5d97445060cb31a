import LamaOS.Drivers.Acpi.AcpiDriver

/-!
# The tables `ACPI_LoadTables` collects

A well-formed root table is a header of 36 bytes and the entries right behind it. The loop
of `ACPI_LoadTables` does not read the entries there: it takes the length field for a
pointer, and finds the words that low memory happens to hold at that address. An XSDT does
not get that far, since its signature is not the one that is asked for.
-/

namespace LamaOS

/-- The size of a root table entry. -/
def rootEntrySize (acpi20Supported : Bool) : Nat := if acpi20Supported then 8 else 4

/-- The signature of a root table. -/
def rootSignature (acpi20Supported : Bool) : List RtU8 :=
  cString (if acpi20Supported then "XSDT" else "RSDT")

/-- A root table with `k` entries at the address `root`: signature, length and checksum are
right, and the entries fit into the table array. -/
structure WellFormedRoot (mem : AcpiMemory) (acpi20Supported : Bool) (root : RtPtr) (k : Nat) :
    Prop where
  signature : mem.readBytes root 4 = rootSignature acpi20Supported
  length : (acpiTableLength mem root).toNat = 36 + rootEntrySize acpi20Supported * k
  few : k ≤ acpiTableMax
  checksum : acpiCheckTableChecksum mem root = true

/-- The `k` entries behind the header of the root table. -/
def rootEntries (mem : AcpiMemory) (acpi20Supported : Bool) (root : RtPtr) (k : Nat) :
    List RtPtr :=
  (List.range k).map fun i =>
    let entry := root + acpiTableHeaderSize + BitVec.ofNat 64 (rootEntrySize acpi20Supported * i)
    if acpi20Supported then mem.read64 entry else (mem.read32 entry).setWidth 64

/-- The `k` words of 32 bits at the address that is the length of a root table. -/
def lengthEntries (mem : AcpiMemory) (root : RtPtr) (k : Nat) : List RtPtr :=
  (List.range k).map (acpiTableAddress mem false (acpiTableLength mem root))

/-- `ACPI_LoadTables` succeeds with exactly the tables among `entries` that pass the checksum
test. -/
def Collects (mem : AcpiMemory) (driver : RtAcpiDriver) (entries : List RtPtr) : Prop :=
  ∃ after, acpiLoadTables mem (some driver) = .ok ⟨.success, some after⟩ ∧
    after.loaded = entries.filter (acpiCheckTableChecksum mem)

variable {mem : AcpiMemory} {driver : RtAcpiDriver} {k : Nat}

/-- What is collected determines which entries it is collected from, up to invalid ones. -/
theorem collects_iff {entries entries' : List RtPtr} (h : Collects mem driver entries) :
    Collects mem driver entries' ↔
      entries.filter (acpiCheckTableChecksum mem) =
        entries'.filter (acpiCheckTableChecksum mem) := by
  obtain ⟨after, success, content⟩ := h
  constructor
  · rintro ⟨after', success', content'⟩
    obtain rfl : after = after' := by
      rw [success] at success'
      simpa using success'
    exact content.symm.trans content'
  · intro same
    exact ⟨after, success, content.trans same⟩

/-- The count is right for every well-formed root table. -/
theorem acpiNumEntries_toNat (acpi20Supported : Bool) (length : RtU32) (few : k ≤ acpiTableMax)
    (h : length.toNat = 36 + rootEntrySize acpi20Supported * k) :
    (acpiNumEntries acpi20Supported length).toNat = k := by
  have few' : k ≤ 7 := few
  have wide : (length.setWidth 64 - acpiTableHeaderSize).toNat =
      rootEntrySize acpi20Supported * k := by
    have size : rootEntrySize acpi20Supported ≤ 8 := by cases acpi20Supported <;> decide
    have bound : rootEntrySize acpi20Supported * k ≤ 8 * 7 := Nat.mul_le_mul size few'
    simp only [acpiTableHeaderSize]
    bv_omega
  cases acpi20Supported with
  | true =>
    have quotient : 8 * k / 8 = k := Nat.mul_div_cancel_left k (by decide)
    simp only [rootEntrySize, if_true] at wide
    simp only [acpiNumEntries, if_true, BitVec.toNat_setWidth, BitVec.toNat_udiv, wide]
    rw [show (8 : RtU64).toNat = 8 from rfl, quotient]
    omega
  | false =>
    have quotient : 4 * k / 4 = k := Nat.mul_div_cancel_left k (by decide)
    simp only [rootEntrySize, Bool.false_eq_true, if_false] at wide
    simp only [acpiNumEntries, Bool.false_eq_true, if_false, BitVec.toNat_setWidth,
      BitVec.toNat_udiv, wide]
    rw [show (4 : RtU64).toNat = 4 from rfl, quotient]
    omega

/-- An XSDT is refused. -/
theorem acpiLoadTables_xsdt (initializing : driver.base.state = .initializing)
    (root : WellFormedRoot mem true (acpiRootAddress driver) k) :
    acpiLoadTables mem (some driver) = .ok ⟨.hardwareFault, driver⟩ := by
  have signature : mem.readBytes (acpiRootAddress driver) 4 ≠ cString "RSDT" := by
    rw [root.signature]; decide
  simp [acpiLoadTables, initializing, signature]

/-- From an RSDT the words at the address `length` are collected. -/
theorem acpiLoadTables_rsdt (initializing : driver.base.state = .initializing)
    (fresh : driver.numTables = 0) (unsupported : driver.acpi20Supported = false)
    (root : WellFormedRoot mem false (acpiRootAddress driver) k) :
    Collects mem driver (lengthEntries mem (acpiRootAddress driver) k) := by
  have signature : mem.readBytes (acpiRootAddress driver) 4 = cString "RSDT" := root.signature
  have count := acpiNumEntries_toNat false _ root.few root.length
  have room : driver.numTables.toNat + (validTables mem driver.acpi20Supported
      (acpiTableLength mem (acpiRootAddress driver)) (List.range k)).length ≤ acpiTableMax := by
    have selected := validTables_length_le mem driver.acpi20Supported
      (acpiTableLength mem (acpiRootAddress driver)) (List.range k)
    rw [List.length_range] at selected
    have few := root.few
    rw [fresh]
    simp only [BitVec.ofNat_eq_ofNat, BitVec.toNat_ofNat, Nat.zero_mod]
    omega
  obtain ⟨after, loop, _, content⟩ := foldlM_acpiLoadEntry mem
    (acpiTableLength mem (acpiRootAddress driver)) (List.range k) driver room
  refine ⟨after, ?_, ?_⟩
  · simp only [acpiLoadTables, initializing, signature, root.checksum, unsupported, count, loop]
    rfl
  · rw [content, unsupported, RtAcpiDriver.loaded, fresh]
    rfl

/-- `ACPI_LoadTables` collects the valid entries of a well-formed root table exactly when
the table is an RSDT and the words that low memory holds at the address `length` name the
same valid tables as the entries do. -/
theorem acpiLoadTables_collects_iff (mem : AcpiMemory) (driver : RtAcpiDriver) (k : Nat)
    (initializing : driver.base.state = .initializing) (fresh : driver.numTables = 0)
    (root : WellFormedRoot mem driver.acpi20Supported (acpiRootAddress driver) k) :
    Collects mem driver (rootEntries mem driver.acpi20Supported (acpiRootAddress driver) k) ↔
      (driver.acpi20Supported = false ∧
        (lengthEntries mem (acpiRootAddress driver) k).filter (acpiCheckTableChecksum mem) =
          (rootEntries mem false (acpiRootAddress driver) k).filter
            (acpiCheckTableChecksum mem)) := by
  cases mode : driver.acpi20Supported with
  | true =>
    rw [mode] at root
    have refused := acpiLoadTables_xsdt initializing root
    constructor
    · rintro ⟨after, success, _⟩
      rw [refused] at success
      cases success
    · rintro ⟨h, _⟩
      cases h
  | false =>
    rw [mode] at root
    rw [collects_iff (acpiLoadTables_rsdt initializing fresh mode root)]
    exact ⟨fun same => ⟨rfl, same⟩, fun h => h.2⟩

/-! ## A root table with one entry -/

/-- An RSDT at `0x1000` whose only entry is the valid table at `0x2000`. The length of the
RSDT is 40; of the four bytes at the address 40 all are zero but the second, which is
`low`. -/
def sampleTables (low : RtU8) : AcpiMemory := fun a =>
  let rsdt : List RtU8 := cString "RSDT" ++ [40, 0, 0, 0, 1, 0x7A] ++ List.replicate 26 0 ++
    [0x00, 0x20, 0, 0]
  let table : List RtU8 := cString "APIC" ++ [36, 0, 0, 0, 0, 0xBF] ++ List.replicate 26 0
  if a = 41 then low
  else if a < 0x2000 then (rsdt[(a - 0x1000).toNat]?).getD 0
  else (table[(a - 0x2000).toNat]?).getD 0

/-- A driver that `ACPI_LoadTables` accepts, with the RSDT at `0x1000`. -/
def sampleAcpiDriver : RtAcpiDriver where
  base := ⟨.initializing⟩
  rsdp :=
    { signature := Vector.replicate 8 0, checksum := 0, oemId := Vector.replicate 6 0
      revision := 0, rsdtAddress := 0x1000, length := 0, xsdtAddress := 0
      extendedChecksum := 0, reserved := Vector.replicate 3 0 }
  tables := Vector.replicate acpiTableMax 0
  acpi20Supported := false
  numTables := 0

/-- With the entry's own value at the address 40 the table is collected. -/
theorem acpiLoadTables_collects_sample :
    Collects (sampleTables 0x20) sampleAcpiDriver (rootEntries (sampleTables 0x20) false 0x1000 1) ↔
      (sampleAcpiDriver.acpi20Supported = false ∧
        (lengthEntries (sampleTables 0x20) 0x1000 1).filter
            (acpiCheckTableChecksum (sampleTables 0x20)) =
          (rootEntries (sampleTables 0x20) false 0x1000 1).filter
            (acpiCheckTableChecksum (sampleTables 0x20))) :=
  acpiLoadTables_collects_iff (sampleTables 0x20) sampleAcpiDriver 1 rfl rfl
    ⟨by decide, by decide, by decide, by decide⟩

/-- With zeros at the address 40 the null pointer is collected in place of the table. -/
theorem acpiLoadTables_collects_null :
    ¬ Collects (sampleTables 0) sampleAcpiDriver (rootEntries (sampleTables 0) false 0x1000 1) := by
  have root : WellFormedRoot (sampleTables 0) false (acpiRootAddress sampleAcpiDriver) 1 :=
    ⟨by decide, by decide, by decide, by decide⟩
  rw [collects_iff (acpiLoadTables_rsdt rfl rfl rfl root)]
  decide

end LamaOS
