import LamaOS.Drivers.Acpi.AcpiTables

/-!
# The entries of the root table

`ACPI_LoadTables` computes the number of its passes from the length field of a root table
that has passed the signature and the checksum test. A table of any length can pass these,
a length below the size of the header included, where the subtraction wraps. The entries
that are found valid go behind the ones of earlier calls, so a second call on the same
memory adds them once more.
-/

namespace LamaOS

/-- `ACPI_LoadTables` comes to its loop. -/
structure RootAccepted (mem : AcpiMemory) (driver : RtAcpiDriver) : Prop where
  initializing : driver.base.state = .initializing
  signature : mem.readBytes (acpiRootAddress driver) 4 = cString "RSDT"
  checksum : acpiCheckTableChecksum mem (acpiRootAddress driver) = true

/-- The loop of `ACPI_LoadTables` for `numEntries` passes. -/
def acpiLoadEntries (mem : AcpiMemory) (driver : RtAcpiDriver) (numEntries : RtU32) :
    Except MemoryFault RtAcpiDriver :=
  (List.range numEntries.toNat).foldlM
    (acpiLoadEntry mem (acpiTableLength mem (acpiRootAddress driver))) driver

/-- `num_entries`, for the root table of the driver. -/
def rootNumEntries (mem : AcpiMemory) (driver : RtAcpiDriver) : RtU32 :=
  acpiNumEntries driver.acpi20Supported (acpiTableLength mem (acpiRootAddress driver))

/-- The valid tables among the entries that the loop reads. -/
def rootTables (mem : AcpiMemory) (driver : RtAcpiDriver) : List RtPtr :=
  validTables mem driver.acpi20Supported (acpiTableLength mem (acpiRootAddress driver))
    (List.range (rootNumEntries mem driver).toNat)

variable {mem : AcpiMemory} {driver after : RtAcpiDriver}

/-- With an accepted root table the call is its loop. -/
theorem acpiLoadTables_of_accepted (accepted : RootAccepted mem driver) :
    acpiLoadTables mem (some driver) =
      (acpiLoadEntries mem driver (rootNumEntries mem driver)).map fun after =>
        ⟨.success, some after⟩ := by
  rcases accepted with ⟨initializing, signature, checksum⟩
  simp only [acpiLoadTables, initializing, signature, checksum, ne_eq, not_true_eq_false, if_false,
    Bool.not_true, Bool.false_eq_true]
  rw [acpiLoadEntries, rootNumEntries]
  cases List.foldlM (acpiLoadEntry mem (acpiTableLength mem (acpiRootAddress driver))) driver
    (List.range (acpiNumEntries driver.acpi20Supported
      (acpiTableLength mem (acpiRootAddress driver))).toNat) <;> rfl

/-- Without one the call fails and returns the driver as it is. -/
theorem acpiLoadTables_of_not_accepted (refused : ¬ RootAccepted mem driver) :
    ∃ code, code ≠ .success ∧ acpiLoadTables mem (some driver) = .ok ⟨code, some driver⟩ := by
  rw [acpiLoadTables]
  split
  · exact ⟨.invalidParameter, by decide, rfl⟩
  rename_i initializing
  dsimp only
  split
  · exact ⟨.hardwareFault, by decide, rfl⟩
  rename_i signature
  split
  · exact ⟨.hardwareFault, by decide, rfl⟩
  rename_i checksum
  apply absurd _ refused
  exact ⟨not_not.mp initializing, not_not.mp signature, by simpa using checksum⟩

/-! ## The number of passes -/

/-- The number of entries for which a root table of this length has room. -/
def fittingEntries (acpi20Supported : Bool) (length : RtU32) : Nat :=
  if 36 ≤ length.toNat then (length.toNat - 36) / rootEntrySize acpi20Supported else 0

/-- From the size of the header on nothing wraps. -/
theorem acpiNumEntries_of_le (acpi20Supported : Bool) {length : RtU32}
    (header : 36 ≤ length.toNat) :
    (acpiNumEntries acpi20Supported length).toNat =
      (length.toNat - 36) / rootEntrySize acpi20Supported := by
  have small := length.isLt
  have wide : (length.setWidth 64 - acpiTableHeaderSize).toNat = length.toNat - 36 := by
    simp only [acpiTableHeaderSize]
    bv_omega
  cases acpi20Supported with
  | true =>
    simp only [acpiNumEntries, rootEntrySize, if_true, BitVec.toNat_setWidth, BitVec.toNat_udiv,
      wide]
    rw [show (8 : RtU64).toNat = 8 from rfl]
    omega
  | false =>
    simp only [acpiNumEntries, rootEntrySize, Bool.false_eq_true, if_false, BitVec.toNat_setWidth,
      BitVec.toNat_udiv, wide]
    rw [show (4 : RtU64).toNat = 4 from rfl]
    omega

/-- Below it the difference is close to `2 ^ 64`, and no part of it that is kept is zero. -/
theorem acpiNumEntries_pos_of_lt (acpi20Supported : Bool) {length : RtU32}
    (short : length.toNat < 36) : 0 < (acpiNumEntries acpi20Supported length).toNat := by
  have wide : (length.setWidth 64 - acpiTableHeaderSize).toNat = 2 ^ 64 - (36 - length.toNat) := by
    simp only [acpiTableHeaderSize]
    bv_omega
  cases acpi20Supported with
  | true =>
    simp only [acpiNumEntries, if_true, BitVec.toNat_setWidth, BitVec.toNat_udiv, wide]
    rw [show (8 : RtU64).toNat = 8 from rfl]
    omega
  | false =>
    simp only [acpiNumEntries, Bool.false_eq_true, if_false, BitVec.toNat_setWidth,
      BitVec.toNat_udiv, wide]
    rw [show (4 : RtU64).toNat = 4 from rfl]
    omega

/-- The loop makes `num_entries` passes, and these are as many as the table has entries, or no
more than that, exactly if the length field covers the header. -/
theorem rootNumEntries_fits_iff (mem : AcpiMemory) (driver : RtAcpiDriver)
    (accepted : RootAccepted mem driver) :
    acpiLoadTables mem (some driver) =
        ((List.range (rootNumEntries mem driver).toNat).foldlM
          (acpiLoadEntry mem (acpiTableLength mem (acpiRootAddress driver))) driver).map
            (fun after => ⟨.success, some after⟩) ∧
      ((rootNumEntries mem driver).toNat =
          fittingEntries driver.acpi20Supported (acpiTableLength mem (acpiRootAddress driver)) ↔
        36 ≤ (acpiTableLength mem (acpiRootAddress driver)).toNat) ∧
      ((rootNumEntries mem driver).toNat ≤
          fittingEntries driver.acpi20Supported (acpiTableLength mem (acpiRootAddress driver)) ↔
        36 ≤ (acpiTableLength mem (acpiRootAddress driver)).toNat) := by
  refine ⟨acpiLoadTables_of_accepted accepted, ?_⟩
  unfold rootNumEntries fittingEntries
  by_cases header : 36 ≤ (acpiTableLength mem (acpiRootAddress driver)).toNat
  · rw [if_pos header, acpiNumEntries_of_le _ header]
    exact ⟨iff_of_true rfl header, iff_of_true (Nat.le_refl _) header⟩
  · have wraps := acpiNumEntries_pos_of_lt driver.acpi20Supported (Nat.lt_of_not_le header)
    rw [if_neg header]
    exact ⟨iff_of_false (Nat.ne_of_gt wraps) header, iff_of_false (Nat.not_le.mpr wraps) header⟩

theorem sampleTables_accepted : RootAccepted (sampleTables 0x20) sampleAcpiDriver :=
  ⟨rfl, by decide, by decide⟩

/-- A table of 40 bytes has one entry. -/
theorem rootNumEntries_fits_sample :
    (rootNumEntries (sampleTables 0x20) sampleAcpiDriver).toNat = fittingEntries false 40 :=
  (rootNumEntries_fits_iff (sampleTables 0x20) sampleAcpiDriver
    sampleTables_accepted).2.1.mpr (by decide)

/-- A signature and a length of zero: the checksum test has nothing to add up. -/
def emptyRoot : AcpiMemory := fun a => ((cString "RSDT")[(a - 0x1000).toNat]?).getD 0

/-- The loop is entered for `2 ^ 32 - 9` passes. -/
theorem rootNumEntries_wraps :
    ¬ (RootAccepted emptyRoot sampleAcpiDriver →
      (rootNumEntries emptyRoot sampleAcpiDriver).toNat =
        fittingEntries sampleAcpiDriver.acpi20Supported
          (acpiTableLength emptyRoot (acpiRootAddress sampleAcpiDriver))) := by
  intro fits
  have accepted : RootAccepted emptyRoot sampleAcpiDriver := ⟨rfl, by decide, by decide⟩
  have count := fits accepted
  revert count
  decide

/-! ## Loading twice -/

/-- A pass of the loop stores at most one table: it leaves the rest of the driver alone. -/
theorem acpiLoadEntry_keeps {length : RtU32} {i : Nat}
    (pass : acpiLoadEntry mem length driver i = .ok after) :
    after = { driver with tables := after.tables, numTables := after.numTables } := by
  unfold acpiLoadEntry acpiStoreTable at pass
  dsimp only at pass
  split at pass
  · cases stored : SlotTable.store driver.tables driver.numTables.toNat
      (acpiTableAddress mem driver.acpi20Supported length i) with
    | error fault =>
      rw [stored] at pass
      cases pass
    | ok tables =>
      rw [stored] at pass
      cases pass
      rfl
  · cases pass
    rfl

theorem acpiLoadEntries_keeps {length : RtU32} {passes : List Nat}
    (loop : passes.foldlM (acpiLoadEntry mem length) driver = .ok after) :
    after = { driver with tables := after.tables, numTables := after.numTables } := by
  induction passes generalizing driver with
  | nil =>
    cases loop
    rfl
  | cons i passes ih =>
    rw [List.foldlM_cons] at loop
    cases pass : acpiLoadEntry mem length driver i with
    | error fault =>
      rw [pass] at loop
      cases loop
    | ok next =>
      rw [pass] at loop
      rw [ih loop, acpiLoadEntry_keeps pass]

/-- A load with room for the valid entries appends them to the tables and changes nothing
else. -/
theorem acpiLoadTables_of_fits (accepted : RootAccepted mem driver)
    (room : driver.numTables.toNat + (rootTables mem driver).length ≤ acpiTableMax) :
    ∃ after, acpiLoadTables mem (some driver) = .ok ⟨.success, some after⟩ ∧
      after = { driver with tables := after.tables, numTables := after.numTables } ∧
      after.numTables.toNat = driver.numTables.toNat + (rootTables mem driver).length ∧
      after.loaded = driver.loaded ++ rootTables mem driver := by
  rcases foldlM_acpiLoadEntry mem _ _ driver room with ⟨after, loop, count, content⟩
  refine ⟨after, ?_, acpiLoadEntries_keeps loop, count, content⟩
  rw [acpiLoadTables_of_accepted accepted]
  unfold acpiLoadEntries
  rw [loop]
  rfl

/-- A successful load had an accepted root table, and room for its valid entries. -/
theorem acpiLoadTables_success (bounded : driver.numTables.toNat ≤ acpiTableMax)
    (success : acpiLoadTables mem (some driver) = .ok ⟨.success, some after⟩) :
    RootAccepted mem driver ∧
      driver.numTables.toNat + (rootTables mem driver).length ≤ acpiTableMax := by
  by_cases accepted : RootAccepted mem driver
  · refine ⟨accepted, ?_⟩
    by_contra overrun
    rcases foldlM_acpiLoadEntry_overruns mem _ _ driver bounded (Nat.lt_of_not_le overrun) with
      ⟨fault, stops⟩
    rw [acpiLoadTables_of_accepted accepted] at success
    unfold acpiLoadEntries at success
    rw [stops] at success
    cases success
  · rcases acpiLoadTables_of_not_accepted accepted with ⟨code, failed, returned⟩
    rw [returned] at success
    cases success
    exact absurd rfl failed

/-- A driver with the same RSDP, version flag and state leads to the same root table. -/
theorem rootTables_congr {tables : Vector RtPtr acpiTableMax} {numTables : RtU32}
    (same : after = { driver with tables, numTables }) :
    rootTables mem after = rootTables mem driver ∧
      (RootAccepted mem driver → RootAccepted mem after) := by
  subst same
  refine ⟨rfl, ?_⟩
  intro accepted
  exact ⟨accepted.initializing, accepted.signature, accepted.checksum⟩

/-- A second load on the same memory succeeds and changes nothing exactly if the loop finds
no valid table: it appends what the first one has loaded once more. Only drivers in the state
`DRIVER_STATE_INITIALIZING` have a first one that succeeds. -/
theorem acpiLoadTables_again_iff (mem : AcpiMemory) (driver after : RtAcpiDriver)
    (fresh : driver.numTables = 0)
    (first : acpiLoadTables mem (some driver) = .ok ⟨.success, some after⟩)
    (few : after.numTables.toNat ≤ acpiTableMax / 2) :
    (∃ again, acpiLoadTables mem (some after) = .ok ⟨.success, some again⟩ ∧
        again.numTables = after.numTables ∧ again.loaded = after.loaded) ↔
      validTables mem driver.acpi20Supported (acpiTableLength mem (acpiRootAddress driver))
        (List.range (acpiNumEntries driver.acpi20Supported
          (acpiTableLength mem (acpiRootAddress driver))).toNat) = [] := by
  have empty : driver.numTables.toNat = 0 := by
    rw [fresh]
    rfl
  rcases acpiLoadTables_success (by omega) first with ⟨accepted, room⟩
  rcases acpiLoadTables_of_fits accepted room with ⟨after', first', same, count, _⟩
  rw [first] at first'
  cases first'
  rcases rootTables_congr same with ⟨tables, accepted'⟩
  rcases acpiLoadTables_of_fits (accepted' accepted) (by rw [tables]; omega) with
    ⟨again, second, _, count', content'⟩
  rw [tables] at count' content'
  change _ ↔ rootTables mem driver = []
  constructor
  · rintro ⟨again', second', unchanged, _⟩
    rw [second] at second'
    cases second'
    rw [unchanged] at count'
    exact List.eq_nil_of_length_eq_zero (Nat.left_eq_add.mp count')
  · intro none
    rw [none] at count' content'
    refine ⟨again, second, BitVec.eq_of_toNat_eq count', ?_⟩
    rw [content', List.append_nil]

/-- The sample tables with a wrong byte in the one that the root table points to. -/
def damagedTables : AcpiMemory := Function.update (sampleTables 0x20) 0x200A 1

/-- The one entry of the root table is passed over, both times. -/
theorem acpiLoadTables_again_damaged :
    (rootNumEntries damagedTables sampleAcpiDriver).toNat = 1 ∧
      ∃ again, acpiLoadTables damagedTables (some sampleAcpiDriver) =
          .ok ⟨.success, some again⟩ ∧
        again.numTables = 0 ∧ again.loaded = [] :=
  ⟨by decide +kernel,
    (acpiLoadTables_again_iff damagedTables sampleAcpiDriver sampleAcpiDriver rfl
      (by decide +kernel) (by decide)).mpr (by decide +kernel)⟩

/-- The driver after the one table of `sampleTables` has been loaded. -/
def loadedAcpiDriver : RtAcpiDriver :=
  { sampleAcpiDriver with tables := #v[0x2000, 0, 0, 0, 0, 0, 0], numTables := 1 }

/-- The second load makes it two. -/
theorem acpiLoadTables_again_doubles :
    ¬ (sampleAcpiDriver.base.state = .initializing → sampleAcpiDriver.numTables = 0 →
      acpiLoadTables (sampleTables 0x20) (some sampleAcpiDriver) =
        .ok ⟨.success, some loadedAcpiDriver⟩ →
      loadedAcpiDriver.numTables.toNat ≤ acpiTableMax / 2 →
      ∃ again, acpiLoadTables (sampleTables 0x20) (some loadedAcpiDriver) =
        .ok ⟨.success, some again⟩ ∧ again.numTables = loadedAcpiDriver.numTables ∧
          again.loaded = loadedAcpiDriver.loaded) := by
  intro idempotent
  rcases idempotent rfl rfl (by decide +kernel) (by decide) with ⟨again, second, count, _⟩
  have accepted : RootAccepted (sampleTables 0x20) loadedAcpiDriver :=
    ⟨rfl, by decide, by decide⟩
  rcases acpiLoadTables_of_fits accepted (by decide +kernel) with ⟨again', second', _, count', _⟩
  rw [second] at second'
  cases second'
  rw [count] at count'
  revert count'
  decide +kernel

end LamaOS
