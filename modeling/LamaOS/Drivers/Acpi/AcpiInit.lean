import LamaOS.Drivers.Acpi.AcpiTables

/-!
# How `ACPI_Init` calls `ACPI_LoadTables`

`ACPI_LoadTables` refuses every driver that is not in the state
`DRIVER_STATE_INITIALIZING`, and `ACPI_Init` does not put the driver into it. What
`ACPI_FindRSDP` finds goes to the static instance, while the rest of `ACPI_Init` reads the
driver it was given, and the version flag of that driver is only ever set.
-/

namespace LamaOS

variable {mem : AcpiMemory} {ref : AcpiRef} {s : AcpiObjects}

/-- An RSDP of revision 0 in the window that `ACPI_FindRSDP` scans, with a root table that
`ACPI_LoadTables` accepts and has room for. -/
structure UsableRsdp (mem : AcpiMemory) (address : RtPtr) : Prop where
  inWindow : ∃ k, 16 * k < 0xFFFFF ∧ address = acpiRsdpAddress + BitVec.ofNat 64 (16 * k)
  rsdp : acpiIsRsdp mem address = true
  revision : (acpiRsdpAt mem address).revision = 0
  signature : mem.readBytes ((acpiRsdpAt mem address).rsdtAddress.setWidth 64) 4 = cString "RSDT"
  checksum : acpiCheckTableChecksum mem ((acpiRsdpAt mem address).rsdtAddress.setWidth 64) = true
  few : (acpiNumEntries false (acpiTableLength mem
    ((acpiRsdpAt mem address).rsdtAddress.setWidth 64))).toNat ≤ acpiTableMax

/-- Memory with an RSDP at the first candidate address, for the tables of `sampleTables`. -/
def sampleFirmware : AcpiMemory := fun a =>
  let rsdp : List RtU8 := cString "RSD PTR " ++ [0xD1, 0, 0, 0, 0, 0, 0, 0] ++ [0, 0x10, 0, 0] ++
    List.replicate 16 0
  if a < 0xE0000 then sampleTables 0x20 a else (rsdp[(a - 0xE0000).toNat]?).getD 0

/-- Two drivers that have not been initialised. -/
def sampleObjects : AcpiObjects :=
  let driver := { sampleAcpiDriver with base := ⟨.uninitialized⟩ }
  ⟨driver, driver⟩

theorem sampleFirmware_usable : UsableRsdp sampleFirmware acpiRsdpAddress :=
  ⟨⟨0, by decide, by decide⟩, by decide, by decide, by decide, by decide, by decide⟩

theorem sampleFirmware_found :
    acpiFindRsdpFrom sampleFirmware acpiRsdpAddress = some acpiRsdpAddress := by
  rw [acpiFindRsdpFrom, if_pos (by decide), if_pos sampleFirmware_usable.rsdp]

/-! ## The state of the driver -/

theorem acpiFindRsdp_base (mem : AcpiMemory) (ref : AcpiRef) (s : AcpiObjects) :
    ((acpiFindRsdp mem s).2.get ref).base = (s.get ref).base := by
  unfold acpiFindRsdp
  split
  · cases ref <;> rfl
  · rfl

theorem acpiSetVersion_base (driver : RtAcpiDriver) :
    (acpiSetVersion driver).base = driver.base := by
  unfold acpiSetVersion
  split <;> rfl

/-- `ACPI_Init` hands the driver to `ACPI_LoadTables` in the state it got it in. -/
theorem acpiBeforeLoad_base (mem : AcpiMemory) (ref : AcpiRef) (s : AcpiObjects) :
    ((acpiBeforeLoad mem ref s).get ref).base = (s.get ref).base := by
  simp only [acpiBeforeLoad, AcpiObjects.get_set]
  rw [acpiSetVersion_base, acpiFindRsdp_base]

theorem acpiLoadTables_refuses {driver : RtAcpiDriver}
    (state : driver.base.state ≠ .initializing) :
    acpiLoadTables mem (some driver) = .ok ⟨.invalidParameter, some driver⟩ := by
  rw [acpiLoadTables, if_pos state]

/-- The driver is brought up: `ACPI_Init` succeeds and leaves it ready. -/
def BroughtUp (mem : AcpiMemory) (ref : AcpiRef) (s : AcpiObjects) : Prop :=
  ∃ s', acpiInit mem (some ref) s = .ok (.success, s') ∧ (s'.get ref).base.state = .ready

/-- No driver is brought up that is not in the state `DRIVER_STATE_INITIALIZING`. -/
theorem not_broughtUp (state : (s.get ref).base.state ≠ .initializing) :
    ¬ BroughtUp mem ref s := by
  rintro ⟨s', success, _⟩
  have refused : ((acpiBeforeLoad mem ref s).get ref).base.state ≠ .initializing := by
    rwa [acpiBeforeLoad_base]
  simp only [acpiInit, acpiLoadTables_refuses refused] at success
  split at success
  · cases success
  · simp at success

/-- A fresh driver is never brought up, whatever the firmware has put into memory. -/
theorem acpiInit_fresh (mem : AcpiMemory) (ref : AcpiRef) (s : AcpiObjects)
    (fresh : (s.get ref).base.state = .uninitialized) : ¬ BroughtUp mem ref s := by
  apply not_broughtUp
  rw [fresh]
  decide

theorem acpiInit_fresh_object : ¬ BroughtUp sampleFirmware .object sampleObjects :=
  acpiInit_fresh sampleFirmware .object sampleObjects rfl

/-- Not even with an RSDP and a root table that pass all the tests. -/
theorem acpiInit_fresh_usable :
    ¬ (UsableRsdp sampleFirmware acpiRsdpAddress →
      (sampleObjects.get .acpiDriverInstance).base.state = .uninitialized →
        BroughtUp sampleFirmware .acpiDriverInstance sampleObjects) := by
  intro brings
  exact not_broughtUp (by decide) (brings sampleFirmware_usable rfl)

/-! ## The RSDP and the version -/

/-- `ACPI_LoadTables` gets the RSDP that was found, and the version flag that goes with it. -/
def EntersWith (driver : RtAcpiDriver) (rsdp : AcpiRsdp) : Prop :=
  driver.rsdp = rsdp ∧ (driver.acpi20Supported = true ↔ acpiIsModern rsdp = true)

theorem acpiSetVersion_enters_iff (driver : RtAcpiDriver) (rsdp : AcpiRsdp) :
    EntersWith (acpiSetVersion driver) rsdp ↔
      driver.rsdp = rsdp ∧ (acpiIsModern rsdp = true ∨ driver.acpi20Supported = false) := by
  unfold EntersWith acpiSetVersion
  constructor
  · intro enters
    split at enters
    · rename_i modern
      obtain ⟨rfl, -⟩ := enters
      exact ⟨rfl, .inl modern⟩
    · rename_i old
      obtain ⟨rfl, flag⟩ := enters
      refine ⟨rfl, .inr ?_⟩
      rw [Bool.eq_false_iff, Ne, flag]
      exact old
  · rintro ⟨rfl, flag⟩
    by_cases modern : acpiIsModern driver.rsdp = true
    · simp [modern]
    · have clear : driver.acpi20Supported = false := flag.resolve_left modern
      simp [modern, clear]

/-- `ACPI_Init` works from the RSDP it has found exactly when it was given the static
instance, or a driver that holds this RSDP already, and the version flag of the driver was
clear before, or would be set anyway. -/
theorem acpiInit_enters_iff (mem : AcpiMemory) (ref : AcpiRef) (s : AcpiObjects)
    {address : RtPtr} (found : acpiFindRsdpFrom mem acpiRsdpAddress = some address) :
    EntersWith ((acpiBeforeLoad mem ref s).get ref) (acpiRsdpAt mem address) ↔
      ((ref = .acpiDriverInstance ∨ (s.get ref).rsdp = acpiRsdpAt mem address) ∧
        (acpiIsModern (acpiRsdpAt mem address) = true ∨
          (s.get ref).acpi20Supported = false)) := by
  simp only [acpiBeforeLoad, AcpiObjects.get_set]
  rw [acpiSetVersion_enters_iff]
  simp only [acpiFindRsdp, found]
  cases ref with
  | acpiDriverInstance => simp [AcpiObjects.get]
  | object => simp [AcpiObjects.get]

/-- For the static instance both conditions are met. -/
theorem acpiInit_enters_instance :
    EntersWith ((acpiBeforeLoad sampleFirmware .acpiDriverInstance sampleObjects).get
      .acpiDriverInstance) (acpiRsdpAt sampleFirmware acpiRsdpAddress) :=
  (acpiInit_enters_iff sampleFirmware .acpiDriverInstance sampleObjects
    sampleFirmware_found).mpr ⟨.inl rfl, .inr rfl⟩

/-- Another driver keeps the RSDP it had, here one of zeros. -/
theorem acpiInit_enters_without :
    ¬ (acpiFindRsdpFrom sampleFirmware acpiRsdpAddress = some acpiRsdpAddress →
      EntersWith ((acpiBeforeLoad sampleFirmware .object sampleObjects).get .object)
        (acpiRsdpAt sampleFirmware acpiRsdpAddress)) := by
  intro enters
  have same := (enters sampleFirmware_found).1
  simp only [acpiBeforeLoad, acpiFindRsdp, sampleFirmware_found, AcpiObjects.get_set] at same
  revert same
  decide

end LamaOS
