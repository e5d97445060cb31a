import LamaOS.Drivers.Acpi.AcpiInit
import LamaOS.Misc.Calls

/-!
# The table array over runs

`ACPI_LoadTables` appends every valid entry of the root table to `tables[]` without a look
at the size of the array, and it starts behind the tables of earlier loads. So the array is
overrun as soon as the valid entries that a call reads do not fit behind those.
-/

namespace LamaOS

/-- The calls made on one driver, each with the memory it finds; `setInitializing` is the
owner of the driver putting it into the state `DRIVER_STATE_INITIALIZING`. -/
inductive AcpiCall where
  | init (mem : AcpiMemory)
  | loadTables (mem : AcpiMemory)
  | findTable (mem : AcpiMemory) (signature : Option (List RtU8))
  | setInitializing

/-- The answer to a call. -/
inductive AcpiReply where
  | code (code : RtErrorCode)
  | table (table : Option RtPtr)
  | done
  deriving DecidableEq, Repr

/-- One call on the driver `ref`. -/
def acpiCall (ref : AcpiRef) (s : AcpiObjects) :
    AcpiCall → Except MemoryFault (AcpiObjects × AcpiReply)
  | .init mem => (acpiInit mem (some ref) s).map fun r => (r.2, .code r.1)
  | .loadTables mem =>
    (acpiLoadTables mem (some (s.get ref))).map fun r =>
      (s.set (r.driver.getD (s.get ref)) ref, .code r.code)
  | .findTable mem signature =>
    (acpiFindTable mem signature (some (s.get ref))).map fun table => (s, .table table)
  | .setInitializing =>
    .ok (s.set { s.get ref with base.state := .initializing } ref, .done)

/-- No access leaves `tables[]`, and the count stays in range. -/
def StaysInTables (ref : AcpiRef) (s : AcpiObjects) (call : AcpiCall) : Prop :=
  ∃ s' reply, acpiCall ref s call = .ok (s', reply) ∧
    (s'.get ref).numTables.toNat ≤ acpiTableMax

/-! ## Room for the tables of a load -/

/-- The valid entries that `ACPI_LoadTables` reads, if it comes to read them, fit behind the
tables that are loaded already. -/
def TablesFit (mem : AcpiMemory) (driver : RtAcpiDriver) : Prop :=
  driver.base.state = .initializing →
  mem.readBytes (acpiRootAddress driver) 4 = cString "RSDT" →
  acpiCheckTableChecksum mem (acpiRootAddress driver) = true →
    let length := acpiTableLength mem (acpiRootAddress driver)
    driver.numTables.toNat + (validTables mem driver.acpi20Supported length
      (List.range (acpiNumEntries driver.acpi20Supported length).toNat)).length ≤ acpiTableMax

/-- When a call has room for the tables it loads. -/
def HasRoom (ref : AcpiRef) (s : AcpiObjects) : AcpiCall → Prop
  | .init mem =>
    (acpiFindRsdp mem s).1 = true → TablesFit mem ((acpiBeforeLoad mem ref s).get ref)
  | .loadTables mem => TablesFit mem (s.get ref)
  | .findTable _ _ => True
  | .setInitializing => True

variable {mem : AcpiMemory} {ref : AcpiRef} {s : AcpiObjects} {driver : RtAcpiDriver}

theorem acpiLoadTables_fits (bounded : driver.numTables.toNat ≤ acpiTableMax)
    (fits : TablesFit mem driver) :
    ∃ code after, acpiLoadTables mem (some driver) = .ok ⟨code, some after⟩ ∧
      after.numTables.toNat ≤ acpiTableMax := by
  unfold acpiLoadTables
  by_cases state : driver.base.state = .initializing
  · by_cases signature : mem.readBytes (acpiRootAddress driver) 4 = cString "RSDT"
    · by_cases checksum : acpiCheckTableChecksum mem (acpiRootAddress driver) = true
      · have room := fits state signature checksum
        obtain ⟨after, loop, count, _⟩ := foldlM_acpiLoadEntry mem _ _ driver room
        refine ⟨.success, after, ?_, by rw [count]; exact room⟩
        simp only [state, signature, checksum, loop, ne_eq, not_true_eq_false, if_false,
          Bool.not_true, Bool.false_eq_true]
        rfl
      · exact ⟨.hardwareFault, driver, by simp [state, signature, checksum], bounded⟩
    · exact ⟨.hardwareFault, driver, by simp [state, signature], bounded⟩
  · exact ⟨.invalidParameter, driver, by simp [state], bounded⟩

theorem acpiLoadTables_overruns (bounded : driver.numTables.toNat ≤ acpiTableMax)
    (overrun : ¬ TablesFit mem driver) :
    ∃ fault, acpiLoadTables mem (some driver) = .error fault := by
  simp only [TablesFit, Classical.not_imp] at overrun
  obtain ⟨state, signature, checksum, tooMany⟩ := overrun
  obtain ⟨fault, stops⟩ := foldlM_acpiLoadEntry_overruns mem _ _ driver bounded
    (Nat.lt_of_not_le tooMany)
  refine ⟨fault, ?_⟩
  simp only [acpiLoadTables, state, signature, checksum, stops, ne_eq, not_true_eq_false, if_false,
    Bool.not_true, Bool.false_eq_true]
  rfl

/-! ## Single calls -/

/-- Finding the RSDP and setting the version leaves the count of the driver alone. -/
theorem acpiBeforeLoad_numTables (mem : AcpiMemory) (ref : AcpiRef) (s : AcpiObjects) :
    ((acpiBeforeLoad mem ref s).get ref).numTables = (s.get ref).numTables := by
  have found : ((acpiFindRsdp mem s).2.get ref).numTables = (s.get ref).numTables := by
    unfold acpiFindRsdp
    split
    · cases ref <;> rfl
    · rfl
  simp only [acpiBeforeLoad, AcpiObjects.get_set]
  rw [← found]
  unfold acpiSetVersion
  split <;> rfl

theorem acpiFindTable_ok (mem : AcpiMemory) (signature : Option (List RtU8))
    (bounded : driver.numTables.toNat ≤ acpiTableMax) :
    ∃ table, acpiFindTable mem signature (some driver) = .ok table := by
  unfold acpiFindTable
  cases signature with
  | none => exact ⟨none, rfl⟩
  | some signature =>
    obtain ⟨found, search, _⟩ := SlotTable.search_eq_findIdx?
      (fun table => mem.readBytes table 4 == signature) driver.tables driver.numTables bounded
    simp only [search, Except.map]
    split <;> exact ⟨_, rfl⟩

theorem acpiInit_staysInTables_iff (bounded : (s.get ref).numTables.toNat ≤ acpiTableMax) :
    StaysInTables ref s (.init mem) ↔ HasRoom ref s (.init mem) := by
  have bounded' : ((acpiBeforeLoad mem ref s).get ref).numTables.toNat ≤ acpiTableMax := by
    rwa [acpiBeforeLoad_numTables]
  simp only [StaysInTables, HasRoom, acpiCall, acpiInit]
  cases found : (acpiFindRsdp mem s).1 with
  | false =>
    simp only [Bool.not_false, if_true, Bool.false_eq_true, false_implies, iff_true]
    exact ⟨s, _, rfl, bounded⟩
  | true =>
    simp only [Bool.not_true, Bool.false_eq_true, if_false, true_implies]
    constructor
    · rintro ⟨s', reply, called, _⟩
      by_contra overrun
      obtain ⟨fault, stops⟩ := acpiLoadTables_overruns bounded' overrun
      rw [stops] at called
      cases called
    · intro fits
      obtain ⟨code, after, loaded, count⟩ := acpiLoadTables_fits bounded' fits
      simp only [loaded, Option.getD_some]
      split
      · exact ⟨_, _, rfl, by rw [AcpiObjects.get_set]; exact count⟩
      · exact ⟨_, _, rfl, by rw [AcpiObjects.get_set]; exact count⟩

/-- A call stays in the array exactly when it has room for the tables it loads. -/
theorem acpiCall_staysInTables_iff (call : AcpiCall)
    (bounded : (s.get ref).numTables.toNat ≤ acpiTableMax) :
    StaysInTables ref s call ↔ HasRoom ref s call := by
  cases call with
  | init mem => exact acpiInit_staysInTables_iff bounded
  | loadTables mem =>
    simp only [StaysInTables, HasRoom, acpiCall]
    constructor
    · rintro ⟨s', reply, called, _⟩
      by_contra overrun
      obtain ⟨fault, stops⟩ := acpiLoadTables_overruns bounded overrun
      rw [stops] at called
      cases called
    · intro fits
      obtain ⟨code, after, loaded, count⟩ := acpiLoadTables_fits bounded fits
      rw [loaded]
      exact ⟨_, _, rfl, by rw [AcpiObjects.get_set]; exact count⟩
  | findTable mem signature =>
    obtain ⟨table, found⟩ := acpiFindTable_ok mem signature bounded
    refine ⟨fun _ => trivial, fun _ => ⟨s, .table table, ?_, bounded⟩⟩
    simp only [acpiCall, found, Except.map]
  | setInitializing =>
    refine ⟨fun _ => trivial, fun _ => ⟨_, _, rfl, ?_⟩⟩
    rw [AcpiObjects.get_set]
    exact bounded

/-- Along every run from an empty table, the accesses to `tables[]` stay inside and its count
in range exactly as long as every call has room for the valid tables it loads. -/
theorem acpiRun_staysInTables_iff (ref : AcpiRef) (s : AcpiObjects) (calls : List AcpiCall)
    (empty : (s.get ref).numTables = 0) :
    Calls.Everywhere (acpiCall ref) (StaysInTables ref) s calls ↔
      Calls.Everywhere (acpiCall ref) (HasRoom ref) s calls := by
  apply Calls.everywhere_iff fun s => (s.get ref).numTables.toNat ≤ acpiTableMax
  · exact fun _ call bounded => acpiCall_staysInTables_iff call bounded
  · intro s call s' reply bounded room called
    obtain ⟨s'', reply'', called', count⟩ := (acpiCall_staysInTables_iff call bounded).mpr room
    obtain ⟨rfl, -⟩ := Calls.done_unique called called'
    exact count
  · rw [empty]
    exact Nat.zero_le _

/-- Loading a root table with one entry. -/
theorem acpiRun_staysInTables_sample :
    Calls.Everywhere (acpiCall .object) (StaysInTables .object) sampleObjects
      [.setInitializing, .loadTables (sampleTables 0x20)] :=
  (acpiRun_staysInTables_iff .object sampleObjects _ rfl).mpr <|
    Calls.everywhere_cons rfl trivial ⟨fun _ _ _ => by decide, fun _ _ _ => trivial⟩

/-- A root table at `0x1000` with eight entries. -/
def overfullTables : AcpiMemory := fun a =>
  let rsdt : List RtU8 := cString "RSDT" ++ [68, 0, 0, 0, 1, 0x7E] ++ List.replicate 26 0 ++
    (List.replicate 8 [0x00, 0x20, 0, 0]).flatten
  if a < 0x1000 then 0 else (rsdt[(a - 0x1000).toNat]?).getD 0

/-- Its eighth valid entry is stored behind the array. -/
theorem acpiRun_overruns :
    ¬ Calls.Everywhere (acpiCall .object) (StaysInTables .object) sampleObjects
      [.setInitializing, .loadTables overfullTables] := by
  intro stays
  have load := (stays.2 _ _ rfl).1
  rw [acpiCall_staysInTables_iff _ (by decide)] at load
  have few := load rfl (by decide) (by decide +kernel)
  revert few
  decide

end LamaOS
