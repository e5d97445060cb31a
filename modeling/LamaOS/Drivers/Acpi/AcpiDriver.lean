import LamaOS.Drivers.Common.RtTypes
import LamaOS.Misc.ByteMemory
import LamaOS.Misc.SlotTable

/-!
# ACPI driver

The functions of `drivers/acpi/acpi_driver.c` that find, load and look up tables. Physical
memory is a flat space of 64-bit addresses that the driver only reads; the driver objects
live outside it. A pointer to a table is the table's address, and a pointer read from memory
may be any address at all.
-/

namespace LamaOS

abbrev AcpiMemory := Memory 64

/-- `ACPI_TABLE_MAX`, the last value of `ACPI_TableType`. -/
abbrev acpiTableMax : Nat := 7

/-- `sizeof(ACPI_TableHeader)`. -/
def acpiTableHeaderSize : RtU64 := 36

/-- `ACPI_RSDP`. -/
structure AcpiRsdp where
  signature : Vector RtU8 8
  checksum : RtU8
  oemId : Vector RtU8 6
  revision : RtU8
  rsdtAddress : RtU32
  length : RtU32
  xsdtAddress : RtU64
  extendedChecksum : RtU8
  reserved : Vector RtU8 3
  deriving DecidableEq, Repr

/-- `RT_ACPIDriver`; no function of the driver calls `on_power_event`. -/
structure RtAcpiDriver where
  base : RtDriver
  rsdp : AcpiRsdp
  tables : Vector RtPtr acpiTableMax
  acpi20Supported : Bool
  numTables : RtU32
  deriving DecidableEq, Repr

namespace RtAcpiDriver

/-- `tables[0..num_tables)`. -/
def loaded (driver : RtAcpiDriver) : List RtPtr :=
  SlotTable.used driver.tables driver.numTables.toNat

end RtAcpiDriver

/-- `table->length` of an `ACPI_TableHeader`. -/
def acpiTableLength (mem : AcpiMemory) (table : RtPtr) : RtU32 := mem.read32 (table + 4)

/-- `ACPI_CheckTableChecksum`. -/
def acpiCheckTableChecksum (mem : AcpiMemory) (table : RtPtr) : Bool :=
  ((mem.readBytes table (acpiTableLength mem table).toNat).foldl (· + ·) 0) == 0

/-- The pointer `rsdt` that `ACPI_LoadTables` starts from. -/
def acpiRootAddress (driver : RtAcpiDriver) : RtPtr :=
  if driver.acpi20Supported then driver.rsdp.xsdtAddress else driver.rsdp.rsdtAddress.setWidth 64

/-- `table_address` of pass `i`. The cast in `((RT_U32*)rsdt->length + i)[0]` applies to the
length, so the entry is read at the address `length + 4 * i` (`8 * i` for an XSDT). -/
def acpiTableAddress (mem : AcpiMemory) (acpi20Supported : Bool) (length : RtU32) (i : Nat) :
    RtU64 :=
  if acpi20Supported then mem.read64 (length.setWidth 64 + 8 * BitVec.ofNat 64 i)
  else (mem.read32 (length.setWidth 64 + 4 * BitVec.ofNat 64 i)).setWidth 64

/-- `driver->tables[driver->num_tables++] = table`. -/
def acpiStoreTable (table : RtPtr) (driver : RtAcpiDriver) : Except MemoryFault RtAcpiDriver :=
  (SlotTable.store driver.tables driver.numTables.toNat table).map fun tables =>
    { driver with tables, numTables := driver.numTables + 1 }

/-- Pass `i` of the loop of `ACPI_LoadTables`. -/
def acpiLoadEntry (mem : AcpiMemory) (length : RtU32) (driver : RtAcpiDriver) (i : Nat) :
    Except MemoryFault RtAcpiDriver :=
  let table := acpiTableAddress mem driver.acpi20Supported length i
  if acpiCheckTableChecksum mem table then acpiStoreTable table driver else .ok driver

/-- `num_entries`: the subtraction is made in 64 bits, the result is kept in 32. -/
def acpiNumEntries (acpi20Supported : Bool) (length : RtU32) : RtU32 :=
  ((length.setWidth 64 - acpiTableHeaderSize) / if acpi20Supported then 8 else 4).setWidth 32

/-- The code `ACPI_LoadTables` returns, and the driver as it leaves it. -/
structure AcpiResult where
  code : RtErrorCode
  driver : Option RtAcpiDriver
  deriving DecidableEq, Repr

/-- `ACPI_LoadTables`. The signature asked for is `"RSDT"` for both kinds of root table. -/
def acpiLoadTables (mem : AcpiMemory) : Option RtAcpiDriver → Except MemoryFault AcpiResult
  | none => .ok ⟨.invalidParameter, none⟩
  | some driver =>
    if driver.base.state ≠ .initializing then .ok ⟨.invalidParameter, driver⟩
    else
      let rsdt := acpiRootAddress driver
      if mem.readBytes rsdt 4 ≠ cString "RSDT" then .ok ⟨.hardwareFault, driver⟩
      else if !acpiCheckTableChecksum mem rsdt then .ok ⟨.hardwareFault, driver⟩
      else
        let length := acpiTableLength mem rsdt
        let numEntries := acpiNumEntries driver.acpi20Supported length
        ((List.range numEntries.toNat).foldlM (acpiLoadEntry mem length) driver).map fun driver =>
          ⟨.success, driver⟩

/-! ## Initialisation -/

/-- `ACPI_RSDP_ADDRESS`. -/
def acpiRsdpAddress : RtPtr := 0xE0000

/-- The address at which `ACPI_FindRSDP` gives up. -/
def acpiRsdpEnd : RtPtr := acpiRsdpAddress + 0xFFFFF

/-- The `ACPI_RSDP` stored at `addr`. -/
def acpiRsdpAt (mem : AcpiMemory) (addr : RtPtr) : AcpiRsdp where
  signature := mem.bytesAt addr 8
  checksum := mem (addr + 8)
  oemId := mem.bytesAt (addr + 9) 6
  revision := mem (addr + 15)
  rsdtAddress := mem.read32 (addr + 16)
  length := mem.read32 (addr + 20)
  xsdtAddress := mem.read64 (addr + 24)
  extendedChecksum := mem (addr + 32)
  reserved := mem.bytesAt (addr + 33) 3

/-- The test that `ACPI_FindRSDP` makes at one address: the signature, and the sum of all
`sizeof(ACPI_RSDP)` bytes. -/
def acpiIsRsdp (mem : AcpiMemory) (address : RtPtr) : Bool :=
  mem.readBytes address 8 == cString "RSD PTR " &&
    (mem.readBytes address 36).foldl (· + ·) 0 == 0

/-- The candidates of the scan come closer to its end. -/
theorem acpiRsdpEnd_sub_lt {address : RtPtr} (below : address < acpiRsdpEnd) :
    acpiRsdpEnd.toNat - (address + 16).toNat < acpiRsdpEnd.toNat - address.toNat := by
  have last : acpiRsdpEnd.toNat = 0x1DFFFF := by decide
  have below' : address.toNat < acpiRsdpEnd.toNat := below
  have step : (address + 16).toNat = address.toNat + 16 := by bv_omega
  omega

/-- The loop of `ACPI_FindRSDP`, from `address` on. -/
def acpiFindRsdpFrom (mem : AcpiMemory) (address : RtPtr) : Option RtPtr :=
  if address < acpiRsdpEnd then
    if acpiIsRsdp mem address then some address else acpiFindRsdpFrom mem (address + 16)
  else none
  termination_by acpiRsdpEnd.toNat - address.toNat
  decreasing_by exact acpiRsdpEnd_sub_lt ‹_›

/-- The driver objects: the static `acpi_driver_instance` of the module, and an object of the
caller's own. -/
structure AcpiObjects where
  acpiDriverInstance : RtAcpiDriver
  object : RtAcpiDriver
  deriving DecidableEq, Repr

/-- What a driver argument points to. -/
inductive AcpiRef where
  | acpiDriverInstance
  | object
  deriving DecidableEq, Repr

namespace AcpiObjects

def get (s : AcpiObjects) : AcpiRef → RtAcpiDriver
  | .acpiDriverInstance => s.acpiDriverInstance
  | .object => s.object

def set (s : AcpiObjects) (driver : RtAcpiDriver) : AcpiRef → AcpiObjects
  | .acpiDriverInstance => { s with acpiDriverInstance := driver }
  | .object => { s with object := driver }

@[simp] theorem get_set (s : AcpiObjects) (driver : RtAcpiDriver) (ref : AcpiRef) :
    (s.set driver ref).get ref = driver := by
  cases ref <;> rfl

end AcpiObjects

/-- `ACPI_FindRSDP`: what it finds is kept in the static instance. -/
def acpiFindRsdp (mem : AcpiMemory) (s : AcpiObjects) : Bool × AcpiObjects :=
  match acpiFindRsdpFrom mem acpiRsdpAddress with
  | some address =>
    (true, { s with acpiDriverInstance.rsdp := acpiRsdpAt mem address })
  | none => (false, s)

/-- The version test of `ACPI_Init`. -/
def acpiIsModern (rsdp : AcpiRsdp) : Bool := 2 ≤ rsdp.revision.toNat && rsdp.xsdtAddress != 0

/-- The part of `ACPI_Init` between its two calls: the flag is set, but never cleared. -/
def acpiSetVersion (driver : RtAcpiDriver) : RtAcpiDriver :=
  if acpiIsModern driver.rsdp then { driver with acpi20Supported := true } else driver

/-- The objects as they are when `ACPI_Init` calls `ACPI_LoadTables`. -/
def acpiBeforeLoad (mem : AcpiMemory) (ref : AcpiRef) (s : AcpiObjects) : AcpiObjects :=
  let s := (acpiFindRsdp mem s).2
  s.set (acpiSetVersion (s.get ref)) ref

/-- `ACPI_Init`. -/
def acpiInit (mem : AcpiMemory) (driver : Option AcpiRef) (s : AcpiObjects) :
    Except MemoryFault (RtErrorCode × AcpiObjects) :=
  match driver with
  | none => .ok (.invalidParameter, s)
  | some ref =>
    if !(acpiFindRsdp mem s).1 then .ok (.hardwareFault, s)
    else
      let s := acpiBeforeLoad mem ref s
      match acpiLoadTables mem (some (s.get ref)) with
      | .error fault => .error fault
      | .ok loaded =>
        let driver := loaded.driver.getD (s.get ref)
        if loaded.code ≠ .success then .ok (loaded.code, s.set driver ref)
        else .ok (.success, s.set { driver with base.state := .ready } ref)

/-! ## Looking up tables -/

/-- `ACPI_FindTable`, for a signature given by its four bytes. -/
def acpiFindTable (mem : AcpiMemory) (signature : Option (List RtU8)) :
    Option RtAcpiDriver → Except MemoryFault (Option RtPtr)
  | none => .ok none
  | some driver =>
    match signature with
    | none => .ok none
    | some signature =>
      if driver.base.state ≠ .ready then .ok none
      else
        (SlotTable.search (fun table => mem.readBytes table 4 == signature) driver.tables
          driver.numTables 0).map fun found => found.bind fun i => driver.tables[i.toNat]?

/-! ## What the loading loop does -/

/-- The valid tables among the entries read in the given passes. -/
def validTables (mem : AcpiMemory) (acpi20Supported : Bool) (length : RtU32)
    (passes : List Nat) : List RtPtr :=
  (passes.map (acpiTableAddress mem acpi20Supported length)).filter (acpiCheckTableChecksum mem)

theorem validTables_length_le (mem : AcpiMemory) (acpi20Supported : Bool) (length : RtU32)
    (passes : List Nat) :
    (validTables mem acpi20Supported length passes).length ≤ passes.length := by
  have selected := List.length_filter_le (acpiCheckTableChecksum mem)
    (passes.map (acpiTableAddress mem acpi20Supported length))
  rwa [List.length_map] at selected

/-- One pass appends its entry or skips it, as long as there is room for a valid one. -/
theorem acpiLoadEntry_fits (mem : AcpiMemory) (length : RtU32) (driver : RtAcpiDriver) (i : Nat)
    (room : driver.numTables.toNat +
      (validTables mem driver.acpi20Supported length [i]).length ≤ acpiTableMax) :
    ∃ after, acpiLoadEntry mem length driver i = .ok after ∧
      after.acpi20Supported = driver.acpi20Supported ∧
      after.numTables.toNat =
        driver.numTables.toNat + (validTables mem driver.acpi20Supported length [i]).length ∧
      after.loaded = driver.loaded ++ validTables mem driver.acpi20Supported length [i] := by
  unfold acpiLoadEntry
  by_cases valid : acpiCheckTableChecksum mem
      (acpiTableAddress mem driver.acpi20Supported length i)
  · have entry : validTables mem driver.acpi20Supported length [i] =
        [acpiTableAddress mem driver.acpi20Supported length i] := by simp [validTables, valid]
    rw [entry] at room ⊢
    obtain ⟨tables, stored, content⟩ := SlotTable.store_append driver.tables
      (acpiTableAddress mem driver.acpi20Supported length i) (Nat.lt_of_succ_le room)
    have count : (driver.numTables + 1).toNat = driver.numTables.toNat + 1 := by
      simp only [List.length_singleton, acpiTableMax] at room; bv_omega
    refine ⟨{ driver with tables, numTables := driver.numTables + 1 }, ?_, rfl, count, ?_⟩
    · simp [valid, acpiStoreTable, stored, Except.map]
    · simp only [RtAcpiDriver.loaded, count, content]
  · have none : validTables mem driver.acpi20Supported length [i] = [] := by
      simp [validTables, valid]
    exact ⟨driver, by simp [valid], rfl, by simp [none], by simp [none]⟩

/-- A valid entry behind a full array is stored outside of it. -/
theorem acpiLoadEntry_overruns (mem : AcpiMemory) (length : RtU32) (driver : RtAcpiDriver)
    (i : Nat) (bounded : driver.numTables.toNat ≤ acpiTableMax)
    (overrun : acpiTableMax < driver.numTables.toNat +
      (validTables mem driver.acpi20Supported length [i]).length) :
    ∃ fault, acpiLoadEntry mem length driver i = .error fault := by
  by_cases valid : acpiCheckTableChecksum mem
      (acpiTableAddress mem driver.acpi20Supported length i)
  · have full : ¬ driver.numTables.toNat < acpiTableMax := by
      simp only [validTables, List.map_singleton, List.filter_cons, valid, if_true,
        List.filter_nil, List.length_singleton] at overrun
      omega
    refine ⟨.outOfBounds driver.numTables.toNat, ?_⟩
    simp [acpiLoadEntry, valid, acpiStoreTable, SlotTable.store, full, Except.map]
  · simp [validTables, valid] at overrun
    omega

theorem validTables_cons (mem : AcpiMemory) (acpi20Supported : Bool) (length : RtU32) (i : Nat)
    (passes : List Nat) :
    validTables mem acpi20Supported length (i :: passes) =
      validTables mem acpi20Supported length [i] ++
        validTables mem acpi20Supported length passes := by
  rw [validTables, validTables, validTables, ← List.filter_append]
  rfl

/-- The loop appends the entries that pass the checksum test, in order, if these fit into the
array. -/
theorem foldlM_acpiLoadEntry (mem : AcpiMemory) (length : RtU32) (passes : List Nat)
    (driver : RtAcpiDriver)
    (room : driver.numTables.toNat +
      (validTables mem driver.acpi20Supported length passes).length ≤ acpiTableMax) :
    ∃ after, passes.foldlM (acpiLoadEntry mem length) driver = .ok after ∧
      after.numTables.toNat =
        driver.numTables.toNat + (validTables mem driver.acpi20Supported length passes).length ∧
      after.loaded = driver.loaded ++ validTables mem driver.acpi20Supported length passes := by
  induction passes generalizing driver with
  | nil => exact ⟨driver, rfl, rfl, (List.append_nil _).symm⟩
  | cons i passes ih =>
    rw [validTables_cons mem _ length i passes] at room ⊢
    rw [List.length_append] at room ⊢
    obtain ⟨next, pass, mode, count, content⟩ :=
      acpiLoadEntry_fits mem length driver i (by omega)
    obtain ⟨after, rest, count', content'⟩ := ih next (by rw [count, mode]; omega)
    refine ⟨after, ?_, ?_, ?_⟩
    · rw [List.foldlM_cons, pass]
      exact rest
    · rw [count', count, mode, Nat.add_assoc]
    · rw [content', content, mode, List.append_assoc]

/-- If they do not fit, the loop stores a table outside the array. -/
theorem foldlM_acpiLoadEntry_overruns (mem : AcpiMemory) (length : RtU32) (passes : List Nat)
    (driver : RtAcpiDriver) (bounded : driver.numTables.toNat ≤ acpiTableMax)
    (overrun : acpiTableMax < driver.numTables.toNat +
      (validTables mem driver.acpi20Supported length passes).length) :
    ∃ fault, passes.foldlM (acpiLoadEntry mem length) driver = .error fault := by
  induction passes generalizing driver with
  | nil => exact absurd bounded (Nat.not_le.mpr overrun)
  | cons i passes ih =>
    rw [validTables_cons mem _ length i passes, List.length_append] at overrun
    by_cases here : driver.numTables.toNat +
        (validTables mem driver.acpi20Supported length [i]).length ≤ acpiTableMax
    · obtain ⟨next, pass, mode, count, _⟩ := acpiLoadEntry_fits mem length driver i here
      obtain ⟨fault, rest⟩ := ih next (by omega) (by rw [count, mode]; omega)
      exact ⟨fault, by rw [List.foldlM_cons, pass]; exact rest⟩
    · obtain ⟨fault, stops⟩ :=
        acpiLoadEntry_overruns mem length driver i bounded (Nat.lt_of_not_le here)
      exact ⟨fault, by rw [List.foldlM_cons, stops]; rfl⟩

end LamaOS
