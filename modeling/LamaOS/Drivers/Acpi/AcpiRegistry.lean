import LamaOS.Drivers.Acpi.AcpiRsdp
import LamaOS.Drivers.Acpi.AcpiRuns

/-!
# The ACPI driver as a registry of tables

The five functions that the driver exports, called in any order on the static instance of the
module and on an object of the caller's own, with whatever memory holds at each call. For a
reader of its replies each object is a registry: a list of tables that successful loads add to
and that a signature is looked up in. The array behind the list has room for seven; a load that
brings more stores outside of it.
-/

namespace LamaOS

/-- `ACPI_SetPowerState`: what is to be done with the power state is left out of the source. -/
def acpiSetPowerState (driver : Option RtAcpiDriver) (_state : RtU8) : RtErrorCode :=
  match driver with
  | none => .invalidParameter
  | some driver => if driver.base.state ≠ .ready then .invalidParameter else .success

/-- `ACPI_SuspendCPU`; `halts` counts the `hlt` instructions. -/
def acpiSuspendCpu (driver : Option RtAcpiDriver) (halts : Nat) : RtErrorCode × Nat :=
  match driver with
  | none => (.invalidParameter, halts)
  | some driver =>
    if driver.base.state ≠ .ready then (.invalidParameter, halts) else (.success, halts + 1)

/-- The driver objects, and how often the processor was halted. -/
structure AcpiSystem where
  objects : AcpiObjects
  halts : Nat
  deriving DecidableEq, Repr

/-- A call of an exported function, with the memory it finds where it reads any; `setState` is
the owner of an object writing its `base.state`, as no function but `ACPI_Init` does. -/
inductive AcpiOperation where
  | init (mem : AcpiMemory) (driver : Option AcpiRef)
  | loadTables (mem : AcpiMemory) (driver : Option AcpiRef)
  | findTable (mem : AcpiMemory) (driver : Option AcpiRef) (signature : Option (List RtU8))
  | setPowerState (driver : Option AcpiRef) (state : RtU8)
  | suspendCpu (driver : Option AcpiRef)
  | setState (ref : AcpiRef) (state : RtDriverState)

/-- A function that was given the object `ref`, or none, leaves it as `after`. -/
def AcpiObjects.leave (s : AcpiObjects) : Option AcpiRef → Option RtAcpiDriver → AcpiObjects
  | some ref, some after => s.set after ref
  | _, _ => s

/-- One call. -/
def acpiOperation (s : AcpiSystem) : AcpiOperation → Except MemoryFault (AcpiSystem × AcpiReply)
  | .init mem driver =>
    (acpiInit mem driver s.objects).map fun r => ({ s with objects := r.2 }, .code r.1)
  | .loadTables mem driver =>
    (acpiLoadTables mem (driver.map s.objects.get)).map fun r =>
      ({ s with objects := s.objects.leave driver r.driver }, .code r.code)
  | .findTable mem driver signature =>
    (acpiFindTable mem signature (driver.map s.objects.get)).map fun table => (s, .table table)
  | .setPowerState driver state =>
    .ok (s, .code (acpiSetPowerState (driver.map s.objects.get) state))
  | .suspendCpu driver =>
    let (code, halts) := acpiSuspendCpu (driver.map s.objects.get) s.halts
    .ok ({ s with halts }, .code code)
  | .setState ref state =>
    .ok ({ s with objects := s.objects.set { s.objects.get ref with base.state := state } ref },
      .done)

/-! ## The registry -/

/-- The structure that the first candidate with a valid RSDP holds. -/
@[irreducible] def rsdpIn (mem : AcpiMemory) : Option AcpiRsdp :=
  (((List.range 65536).map acpiCandidate).find? (acpiIsRsdp mem)).map (acpiRsdpAt mem)

/-- What an object is for its callers. -/
structure AcpiRegistry where
  state : RtDriverState
  rsdp : AcpiRsdp
  modern : Bool
  tables : List RtPtr
  deriving DecidableEq, Repr

namespace AcpiRegistry

/-- The address of the root table. -/
def root (r : AcpiRegistry) : RtPtr :=
  if r.modern then r.rsdp.xsdtAddress else r.rsdp.rsdtAddress.setWidth 64

/-- The valid tables that the root table leads to. -/
def rootTables (r : AcpiRegistry) (mem : AcpiMemory) : List RtPtr :=
  let length := acpiTableLength mem r.root
  validTables mem r.modern length (List.range (acpiNumEntries r.modern length).toNat)

/-- The root table is there and intact. -/
def RootValid (r : AcpiRegistry) (mem : AcpiMemory) : Prop :=
  mem.readBytes r.root 4 = cString "RSDT" ∧ acpiCheckTableChecksum mem r.root = true

instance (r : AcpiRegistry) (mem : AcpiMemory) : Decidable (r.RootValid mem) :=
  inferInstanceAs (Decidable (_ ∧ _))

/-- A load adds the tables behind a valid root table. -/
def load (r : AcpiRegistry) (mem : AcpiMemory) : AcpiRegistry × RtErrorCode :=
  if r.state ≠ .initializing then (r, .invalidParameter)
  else if r.RootValid mem then ({ r with tables := r.tables ++ r.rootTables mem }, .success)
  else (r, .hardwareFault)

/-- The first table with the signature. -/
def lookUp (r : AcpiRegistry) (mem : AcpiMemory) (signature : List RtU8) : Option RtPtr :=
  if r.state = .ready then r.tables.find? fun table => mem.readBytes table 4 == signature
  else none

/-- A service that only a ready object offers. -/
def service (r : AcpiRegistry) : RtErrorCode :=
  if r.state = .ready then .success else .invalidParameter

def setVersion (r : AcpiRegistry) : AcpiRegistry :=
  { r with modern := acpiIsModern r.rsdp || r.modern }

def setReady (r : AcpiRegistry) : RtErrorCode → AcpiRegistry
  | .success => { r with state := .ready }
  | _ => r

end AcpiRegistry

/-- The two registries, and how often the processor was halted. -/
structure AcpiRegistries where
  registry : AcpiRef → AcpiRegistry
  halts : Nat

namespace AcpiRegistries

def set (w : AcpiRegistries) (ref : AcpiRef) (r : AcpiRegistry) : AcpiRegistries :=
  { w with registry := Function.update w.registry ref r }

/-- The RSDP that is found goes to the static instance. -/
def withRsdp (w : AcpiRegistries) (rsdp : AcpiRsdp) : AcpiRegistries :=
  w.set .acpiDriverInstance { w.registry .acpiDriverInstance with rsdp }

/-- Bringing up a registry once the RSDP is found. -/
def bringUp (w : AcpiRegistries) (mem : AcpiMemory) (ref : AcpiRef) (rsdp : AcpiRsdp) :
    AcpiRegistries × RtErrorCode :=
  let loaded := ((w.withRsdp rsdp).registry ref).setVersion.load mem
  ((w.withRsdp rsdp).set ref (loaded.1.setReady loaded.2), loaded.2)

/-- What a call does to the registries, and its reply. -/
def operation (w : AcpiRegistries) : AcpiOperation → AcpiRegistries × AcpiReply
  | .init _ none => (w, .code .invalidParameter)
  | .init mem (some ref) =>
    match rsdpIn mem with
    | none => (w, .code .hardwareFault)
    | some rsdp => ((w.bringUp mem ref rsdp).1, .code (w.bringUp mem ref rsdp).2)
  | .loadTables _ none => (w, .code .invalidParameter)
  | .loadTables mem (some ref) =>
    (w.set ref ((w.registry ref).load mem).1, .code ((w.registry ref).load mem).2)
  | .findTable mem (some ref) (some signature) =>
    (w, .table ((w.registry ref).lookUp mem signature))
  | .findTable _ _ _ => (w, .table none)
  | .setPowerState none _ => (w, .code .invalidParameter)
  | .setPowerState (some ref) _ => (w, .code (w.registry ref).service)
  | .suspendCpu none => (w, .code .invalidParameter)
  | .suspendCpu (some ref) =>
    ({ w with halts := if (w.registry ref).state = .ready then w.halts + 1 else w.halts },
      .code (w.registry ref).service)
  | .setState ref state => (w.set ref { w.registry ref with state }, .done)

/-- The tables fit into the arrays. -/
def Fits (w : AcpiRegistries) : Prop :=
  ∀ ref, (w.registry ref).tables.length ≤ acpiTableMax

end AcpiRegistries

/-! ## The registries behind the objects -/

def RtAcpiDriver.registry (driver : RtAcpiDriver) : AcpiRegistry :=
  ⟨driver.base.state, driver.rsdp, driver.acpi20Supported, driver.loaded⟩

namespace AcpiSystem

def registries (s : AcpiSystem) : AcpiRegistries :=
  ⟨fun ref => (s.objects.get ref).registry, s.halts⟩

/-- The counts stay inside the arrays. -/
def Bounded (s : AcpiSystem) : Prop := ∀ ref, (s.objects.get ref).numTables.toNat ≤ acpiTableMax

end AcpiSystem

variable {mem : AcpiMemory} {driver : RtAcpiDriver} {s s' : AcpiSystem}

theorem RtAcpiDriver.loaded_length (bounded : driver.numTables.toNat ≤ acpiTableMax) :
    driver.loaded.length = driver.numTables.toNat :=
  SlotTable.used_length driver.tables bounded

theorem AcpiSystem.Bounded.fits (bounded : s.Bounded) : s.registries.Fits := by
  intro ref
  have length := RtAcpiDriver.loaded_length (bounded ref)
  simp only [AcpiSystem.registries, RtAcpiDriver.registry, length]
  exact bounded ref

theorem AcpiSystem.registries_set (s : AcpiSystem) (driver : RtAcpiDriver) (ref : AcpiRef) :
    ({ s with objects := s.objects.set driver ref } : AcpiSystem).registries =
      s.registries.set ref driver.registry := by
  simp only [AcpiSystem.registries, AcpiRegistries.set, AcpiRegistries.mk.injEq, and_true]
  funext other
  cases ref <;> cases other <;> simp [AcpiObjects.set, AcpiObjects.get, Function.update]

theorem AcpiSystem.Bounded.set (bounded : s.Bounded) (ref : AcpiRef)
    (room : driver.numTables.toNat ≤ acpiTableMax) :
    ({ s with objects := s.objects.set driver ref } : AcpiSystem).Bounded := by
  intro other
  have before := bounded other
  cases ref <;> cases other <;> simp_all [AcpiObjects.set, AcpiObjects.get]

/-- The scan is a search through the candidates. -/
theorem acpiFindRsdpFrom_eq_find? (mem : AcpiMemory) :
    acpiFindRsdpFrom mem acpiRsdpAddress =
      ((List.range 65536).map acpiCandidate).find? (acpiIsRsdp mem) := by
  apply Option.ext
  intro address
  rw [acpiFindRsdpFrom_eq_some_iff, List.find?_map, Option.map_eq_some_iff]
  apply exists_congr
  intro k
  rw [List.find?_range_eq_some]
  simp only [Function.comp_apply, List.mem_range, Bool.not_eq_true']
  constructor
  · rintro ⟨⟨inWindow, rsdp, first⟩, rfl⟩
    exact ⟨⟨rsdp, by omega, first⟩, rfl⟩
  · rintro ⟨⟨rsdp, below, first⟩, rfl⟩
    exact ⟨⟨by omega, rsdp, first⟩, rfl⟩

theorem acpiFindRsdp_eq (mem : AcpiMemory) (objects : AcpiObjects) :
    acpiFindRsdp mem objects =
      match rsdpIn mem with
      | none => (false, objects)
      | some rsdp => (true, { objects with acpiDriverInstance.rsdp := rsdp }) := by
  have scan : rsdpIn mem = (acpiFindRsdpFrom mem acpiRsdpAddress).map (acpiRsdpAt mem) := by
    unfold rsdpIn
    rw [acpiFindRsdpFrom_eq_find?]
  rw [acpiFindRsdp, scan]
  cases acpiFindRsdpFrom mem acpiRsdpAddress <;> rfl

/-- `ACPI_LoadTables` loads what the registry loads, as long as that fits. -/
theorem acpiLoadTables_load (bounded : driver.numTables.toNat ≤ acpiTableMax)
    (fits : (driver.registry.load mem).1.tables.length ≤ acpiTableMax) :
    ∃ after, acpiLoadTables mem (some driver) = .ok ⟨(driver.registry.load mem).2, some after⟩ ∧
      after.registry = (driver.registry.load mem).1 ∧ after.numTables.toNat ≤ acpiTableMax := by
  by_cases initializing : driver.base.state = .initializing
  · by_cases valid : driver.registry.RootValid mem
    · have accepted : RootAccepted mem driver := ⟨initializing, valid.1, valid.2⟩
      have load : driver.registry.load mem =
          ({ driver.registry with tables := driver.loaded ++ rootTables mem driver }, .success) := by
        simp only [AcpiRegistry.load, if_pos valid]
        simp [RtAcpiDriver.registry, initializing, AcpiRegistry.rootTables, rootTables,
          rootNumEntries, AcpiRegistry.root, acpiRootAddress]
      simp only [load, List.length_append, RtAcpiDriver.loaded_length bounded] at fits ⊢
      obtain ⟨after, success, same, count, content⟩ := acpiLoadTables_of_fits accepted fits
      refine ⟨after, success, ?_, by omega⟩
      rw [RtAcpiDriver.registry, content, same]
      rfl
    · have load : driver.registry.load mem = (driver.registry, .hardwareFault) := by
        simp only [AcpiRegistry.load, if_neg valid]
        simp [RtAcpiDriver.registry, initializing]
      rw [load]
      refine ⟨driver, ?_, rfl, bounded⟩
      simp only [acpiLoadTables, initializing, ne_eq, not_true_eq_false, if_false]
      by_cases signature : mem.readBytes (acpiRootAddress driver) 4 = cString "RSDT"
      · have broken : acpiCheckTableChecksum mem (acpiRootAddress driver) = false := by
          by_contra passes
          exact valid ⟨signature, Bool.eq_true_of_not_eq_false passes⟩
        simp [signature, broken]
      · simp [signature]
  · have load : driver.registry.load mem = (driver.registry, .invalidParameter) :=
      if_pos initializing
    rw [load]
    exact ⟨driver, acpiLoadTables_refuses initializing, rfl, bounded⟩

/-- What does not fit is stored outside of the array. -/
theorem acpiLoadTables_load_overruns (bounded : driver.numTables.toNat ≤ acpiTableMax)
    (exceeds : ¬ (driver.registry.load mem).1.tables.length ≤ acpiTableMax) :
    ∃ fault, acpiLoadTables mem (some driver) = .error fault := by
  have before : driver.registry.tables.length ≤ acpiTableMax := by
    rw [RtAcpiDriver.registry, RtAcpiDriver.loaded_length bounded]
    exact bounded
  apply acpiLoadTables_overruns bounded
  intro fits
  apply exceeds
  unfold AcpiRegistry.load
  split
  · exact before
  · rename_i initializing
    split
    · rename_i valid
      have room := fits (not_not.mp initializing) valid.1 valid.2
      rw [List.length_append, RtAcpiDriver.registry, RtAcpiDriver.loaded_length bounded]
      exact room
    · exact before

/-! ## The calls -/

/-- `ACPI_FindTable` looks the signature up. -/
theorem acpiFindTable_lookUp (bounded : driver.numTables.toNat ≤ acpiTableMax)
    (signature : List RtU8) :
    acpiFindTable mem (some signature) (some driver) =
      .ok (driver.registry.lookUp mem signature) := by
  by_cases ready : driver.base.state = .ready
  · obtain ⟨found, search, index⟩ := SlotTable.search_eq_findIdx?
      (fun table => mem.readBytes table 4 == signature) driver.tables driver.numTables bounded
    have lookUp : driver.registry.lookUp mem signature =
        driver.loaded.find? fun table => mem.readBytes table 4 == signature := if_pos ready
    rw [lookUp, acpiFindTable, if_neg (not_not.mpr ready), search]
    simp only [Except.map, Except.ok.injEq]
    cases found with
    | none =>
      rw [Option.map_none, eq_comm, List.findIdx?_eq_none_iff] at index
      symm
      exact List.find?_eq_none.mpr fun table mem => Bool.eq_false_iff.mp (index table mem)
    | some i =>
      rw [Option.map_some, eq_comm, List.findIdx?_eq_some_iff_getElem] at index
      obtain ⟨below, here, first⟩ := index
      obtain ⟨-, slot⟩ :=
        SlotTable.used_getElem?_eq_some (List.getElem?_eq_getElem below)
      rw [Option.bind_some, slot]
      symm
      rw [List.find?_eq_some_iff_getElem]
      exact ⟨here, i.toNat, below, rfl, fun j before => by
        simpa [RtAcpiDriver.loaded] using first j before⟩
  · have lookUp : driver.registry.lookUp mem signature = none := if_neg ready
    rw [lookUp, acpiFindTable, if_pos ready]

/-- The objects as `ACPI_Init` hands them to `ACPI_LoadTables`. -/
theorem registry_acpiBeforeLoad {rsdp : AcpiRsdp} (found : rsdpIn mem = some rsdp)
    (ref : AcpiRef) (s : AcpiSystem) :
    ({ s with objects := acpiBeforeLoad mem ref s.objects } : AcpiSystem).registries =
      (s.registries.withRsdp rsdp).set ref
        ((s.registries.withRsdp rsdp).registry ref).setVersion := by
  have version (driver : RtAcpiDriver) :
      (acpiSetVersion driver).registry = driver.registry.setVersion := by
    unfold acpiSetVersion AcpiRegistry.setVersion
    by_cases modern : acpiIsModern driver.rsdp = true
    · simp [modern, RtAcpiDriver.registry, RtAcpiDriver.loaded]
    · simp [modern, RtAcpiDriver.registry]
  have stored : ({ s with objects := (acpiFindRsdp mem s.objects).2 } : AcpiSystem).registries =
      s.registries.withRsdp rsdp := by
    rw [acpiFindRsdp_eq, found]
    exact s.registries_set { s.objects.acpiDriverInstance with rsdp } .acpiDriverInstance
  rw [← stored, acpiBeforeLoad]
  rw [AcpiSystem.registries_set { s with objects := (acpiFindRsdp mem s.objects).2 }, version]
  rfl

/-- `ACPI_Init` after the scan: a load, and the state that goes with its success. -/
theorem acpiInit_of_found {rsdp : AcpiRsdp} (found : rsdpIn mem = some rsdp) (ref : AcpiRef)
    (objects : AcpiObjects) :
    acpiInit mem (some ref) objects =
      (acpiLoadTables mem (some ((acpiBeforeLoad mem ref objects).get ref))).map fun loaded =>
        let driver := loaded.driver.getD ((acpiBeforeLoad mem ref objects).get ref)
        (loaded.code, (acpiBeforeLoad mem ref objects).set
          (if loaded.code ≠ .success then driver else { driver with base.state := .ready }) ref) := by
  have stored : (acpiFindRsdp mem objects).1 = true := by
    rw [acpiFindRsdp_eq, found]
  simp only [acpiInit, stored, Bool.not_true, Bool.false_eq_true, if_false]
  cases acpiLoadTables mem (some ((acpiBeforeLoad mem ref objects).get ref)) with
  | error fault => rfl
  | ok loaded =>
    simp only [Except.map]
    split
    · rfl
    · rename_i success
      rw [not_not.mp success]

/-- What the registry is set to if `ACPI_Init` gets as far as its load. -/
theorem registry_setReady (code : RtErrorCode) (driver : RtAcpiDriver) :
    (if code ≠ .success then driver else { driver with base.state := .ready }).registry =
      driver.registry.setReady code := by
  cases code <;> rfl

theorem AcpiRegistries.operation_init (w : AcpiRegistries) {rsdp : AcpiRsdp}
    (found : rsdpIn mem = some rsdp) (ref : AcpiRef) :
    w.operation (.init mem (some ref)) =
      ((w.bringUp mem ref rsdp).1, .code (w.bringUp mem ref rsdp).2) := by
  rw [operation, found]

theorem AcpiSystem.Bounded.acpiBeforeLoad (bounded : s.Bounded) (mem : AcpiMemory)
    (ref : AcpiRef) :
    ({ s with objects := LamaOS.acpiBeforeLoad mem ref s.objects } : AcpiSystem).Bounded := by
  have found : ({ s with objects := (acpiFindRsdp mem s.objects).2 } : AcpiSystem).Bounded := by
    rw [acpiFindRsdp_eq]
    cases rsdpIn mem with
    | none => exact bounded
    | some rsdp =>
      have kept : ({ s.objects.acpiDriverInstance with rsdp } : RtAcpiDriver).numTables.toNat ≤
          acpiTableMax := bounded .acpiDriverInstance
      exact bounded.set .acpiDriverInstance kept
  have room := acpiBeforeLoad_numTables mem ref s.objects
  apply found.set ref
  rw [LamaOS.acpiBeforeLoad, AcpiObjects.get_set] at room
  rw [room]
  exact bounded ref

/-- A registry whose tables fit may replace any other. -/
theorem AcpiRegistries.Fits.of_set {w : AcpiRegistries} {ref : AcpiRef} {r : AcpiRegistry}
    (fits : (w.set ref r).Fits) : r.tables.length ≤ acpiTableMax := by
  simpa [AcpiRegistries.set] using fits ref

theorem AcpiRegistries.Fits.set {w : AcpiRegistries} (fits : w.Fits) {ref : AcpiRef}
    {r : AcpiRegistry} (room : r.tables.length ≤ acpiTableMax) : (w.set ref r).Fits := by
  intro other
  by_cases same : other = ref
  · subst same
    simpa [AcpiRegistries.set] using room
  · simpa [AcpiRegistries.set, same] using fits other

@[simp] theorem AcpiRegistry.setReady_tables (r : AcpiRegistry) (code : RtErrorCode) :
    (r.setReady code).tables = r.tables := by
  cases code <;> rfl

/-- A call that the registries answer within the arrays is answered so by the driver. -/
def Answered (s : AcpiSystem) (call : AcpiOperation) : Prop :=
  ∃ s', acpiOperation s call = .ok (s', (s.registries.operation call).2) ∧ s'.Bounded ∧
    s'.registries = (s.registries.operation call).1

theorem acpiOperation_init (bounded : s.Bounded) {rsdp : AcpiRsdp}
    (found : rsdpIn mem = some rsdp) (ref : AcpiRef) :
    ((s.registries.operation (.init mem (some ref))).1.Fits →
        Answered s (.init mem (some ref))) ∧
      (¬ (s.registries.operation (.init mem (some ref))).1.Fits →
        ∃ fault, acpiOperation s (.init mem (some ref)) = .error fault) := by
  have entered := registry_acpiBeforeLoad found ref s
  have counts := bounded.acpiBeforeLoad mem ref
  have init := acpiInit_of_found found ref s.objects
  generalize acpiBeforeLoad mem ref s.objects = objects at entered counts init
  have here : (objects.get ref).registry =
      ((s.registries.withRsdp rsdp).registry ref).setVersion := by
    have at_ref := congrArg (fun w => w.registry ref) entered
    simpa [AcpiSystem.registries, AcpiRegistries.set] using at_ref
  have brought : (s.registries.bringUp mem ref rsdp).1 =
      ({ s with objects } : AcpiSystem).registries.set ref
        (((objects.get ref).registry.load mem).1.setReady
          ((objects.get ref).registry.load mem).2) := by
    rw [entered, here]
    simp [AcpiRegistries.bringUp, AcpiRegistries.set]
  have code : (s.registries.bringUp mem ref rsdp).2 = ((objects.get ref).registry.load mem).2 := by
    rw [here]
    rfl
  unfold Answered
  rw [s.registries.operation_init found, brought, code, acpiOperation, init]
  constructor
  · intro fits
    obtain ⟨after, loaded, registry, room⟩ := acpiLoadTables_load (counts ref)
      (by simpa using fits.of_set)
    rw [loaded]
    refine ⟨_, rfl, counts.set ref ?_, ?_⟩
    · simp only [Option.getD_some]
      split
      · exact room
      · exact room
    · rw [← registry, ← registry_setReady]
      exact AcpiSystem.registries_set { s with objects } _ ref
  · intro exceeds
    have tooMany : ¬ ((objects.get ref).registry.load mem).1.tables.length ≤ acpiTableMax :=
      fun room => exceeds (counts.fits.set (by simpa using room))
    obtain ⟨fault, stops⟩ := acpiLoadTables_load_overruns (counts ref) tooMany
    rw [stops]
    exact ⟨fault, rfl⟩

/-- A load on an object is the load of its registry. -/
theorem acpiOperation_loadTables (bounded : s.Bounded) (mem : AcpiMemory) (ref : AcpiRef) :
    ((s.registries.operation (.loadTables mem (some ref))).1.Fits →
        Answered s (.loadTables mem (some ref))) ∧
      (¬ (s.registries.operation (.loadTables mem (some ref))).1.Fits →
        ∃ fault, acpiOperation s (.loadTables mem (some ref)) = .error fault) := by
  constructor
  · intro fits
    obtain ⟨after, loaded, registry, room⟩ := acpiLoadTables_load (bounded ref) fits.of_set
    refine ⟨{ s with objects := s.objects.set after ref }, ?_, bounded.set ref room, ?_⟩
    · simp only [acpiOperation, Option.map_some, loaded]
      rfl
    · rw [s.registries_set, registry]
      rfl
  · intro exceeds
    have tooMany : ¬ ((s.objects.get ref).registry.load mem).1.tables.length ≤ acpiTableMax :=
      fun room => exceeds (bounded.fits.set room)
    obtain ⟨fault, stops⟩ := acpiLoadTables_load_overruns (bounded ref) tooMany
    refine ⟨fault, ?_⟩
    simp only [acpiOperation, Option.map_some, stops]
    rfl

theorem acpiSetPowerState_service (driver : RtAcpiDriver) (state : RtU8) :
    acpiSetPowerState (some driver) state = driver.registry.service := by
  by_cases ready : driver.base.state = .ready
  · simp [acpiSetPowerState, AcpiRegistry.service, RtAcpiDriver.registry, ready]
  · simp [acpiSetPowerState, AcpiRegistry.service, RtAcpiDriver.registry, ready]

theorem acpiSuspendCpu_service (driver : RtAcpiDriver) (halts : Nat) :
    acpiSuspendCpu (some driver) halts =
      (driver.registry.service,
        if driver.registry.state = .ready then halts + 1 else halts) := by
  by_cases ready : driver.base.state = .ready
  · simp [acpiSuspendCpu, AcpiRegistry.service, RtAcpiDriver.registry, ready]
  · simp [acpiSuspendCpu, AcpiRegistry.service, RtAcpiDriver.registry, ready]

/-- The calls that load no table are answered as the registries answer them. -/
theorem acpiOperation_answered (bounded : s.Bounded) :
    (∀ mem, Answered s (.init mem none)) ∧ (∀ mem, Answered s (.loadTables mem none)) ∧
      (∀ mem driver signature, Answered s (.findTable mem driver signature)) ∧
      (∀ driver state, Answered s (.setPowerState driver state)) ∧
      (∀ driver, Answered s (.suspendCpu driver)) ∧
      ∀ ref state, Answered s (.setState ref state) := by
  refine ⟨fun mem => ⟨s, rfl, bounded, rfl⟩, fun mem => ⟨s, rfl, bounded, rfl⟩, ?_, ?_, ?_, ?_⟩
  · intro mem driver signature
    cases driver with
    | none => exact ⟨s, rfl, bounded, rfl⟩
    | some ref =>
      cases signature with
      | none => exact ⟨s, rfl, bounded, rfl⟩
      | some signature =>
        refine ⟨s, ?_, bounded, rfl⟩
        simp only [acpiOperation, Option.map_some, acpiFindTable_lookUp (bounded ref), Except.map]
        rfl
  · intro driver state
    cases driver with
    | none => exact ⟨s, rfl, bounded, rfl⟩
    | some ref =>
      refine ⟨s, ?_, bounded, rfl⟩
      simp only [acpiOperation, Option.map_some, acpiSetPowerState_service]
      rfl
  · intro driver
    cases driver with
    | none => exact ⟨s, rfl, bounded, rfl⟩
    | some ref =>
      refine ⟨{ s with halts := (acpiSuspendCpu (some (s.objects.get ref)) s.halts).2 },
        ?_, bounded, ?_⟩
      · simp only [acpiOperation, Option.map_some, acpiSuspendCpu_service]
        rfl
      · simp only [acpiSuspendCpu_service]
        rfl
  · intro ref state
    refine ⟨_, rfl, ?_, s.registries_set _ ref⟩
    exact bounded.set ref (bounded ref)

/-- A call is answered as the registries answer it, or stores a table outside of the array,
by whether the tables of the registries still fit. -/
theorem acpiOperation_iff_fits (bounded : s.Bounded) (call : AcpiOperation) :
    ((s.registries.operation call).1.Fits → Answered s call) ∧
      (¬ (s.registries.operation call).1.Fits → ∃ fault, acpiOperation s call = .error fault) := by
  obtain ⟨initNull, loadNull, find, power, suspend, setState⟩ := acpiOperation_answered bounded
  -- every call but a load leaves the tables as they are
  have total (answered : Answered s call) :
      ((s.registries.operation call).1.Fits → Answered s call) ∧
        (¬ (s.registries.operation call).1.Fits →
          ∃ fault, acpiOperation s call = .error fault) := by
    refine ⟨fun _ => answered, fun exceeds => ?_⟩
    obtain ⟨s', _, bounded', same⟩ := answered
    rw [← same] at exceeds
    exact absurd bounded'.fits exceeds
  cases call with
  | init mem driver =>
    cases driver with
    | none => exact total (initNull mem)
    | some ref =>
      cases found : rsdpIn mem with
      | some rsdp => exact acpiOperation_init bounded found ref
      | none =>
        apply total
        have operation : s.registries.operation (.init mem (some ref)) =
            (s.registries, .code .hardwareFault) := by
          rw [AcpiRegistries.operation, found]
        unfold Answered
        rw [operation]
        refine ⟨s, ?_, bounded, rfl⟩
        simp only [acpiOperation, acpiInit, acpiFindRsdp_eq, found]
        rfl
  | loadTables mem driver =>
    cases driver with
    | none => exact total (loadNull mem)
    | some ref => exact acpiOperation_loadTables bounded mem ref
  | findTable mem driver signature => exact total (find mem driver signature)
  | setPowerState driver state => exact total (power driver state)
  | suspendCpu driver => exact total (suspend driver)
  | setState ref state => exact total (setState ref state)

theorem AcpiRegistry.load_grows (r : AcpiRegistry) (mem : AcpiMemory) :
    r.tables <+: (r.load mem).1.tables := by
  unfold AcpiRegistry.load
  split
  · exact List.prefix_refl _
  · split
    · exact List.prefix_append _ _
    · exact List.prefix_refl _

theorem AcpiRegistries.set_grows (w : AcpiRegistries) {ref : AcpiRef} {r : AcpiRegistry}
    (grown : (w.registry ref).tables <+: r.tables) (other : AcpiRef) :
    (w.registry other).tables <+: ((w.set ref r).registry other).tables := by
  by_cases same : other = ref
  · subst same
    simpa [AcpiRegistries.set] using grown
  · simp [AcpiRegistries.set, same]

/-- No call takes a table out of a registry, or moves one. -/
theorem AcpiRegistries.operation_grows (w : AcpiRegistries) (call : AcpiOperation)
    (ref : AcpiRef) :
    (w.registry ref).tables <+: ((w.operation call).1.registry ref).tables := by
  cases call with
  | init mem driver =>
    cases driver with
    | none => exact List.prefix_refl _
    | some driver =>
      cases found : rsdpIn mem with
      | none => rw [operation, found]
      | some rsdp =>
        have stored := w.set_grows (r := { w.registry .acpiDriverInstance with rsdp })
          (List.prefix_refl _)
        rw [w.operation_init found]
        apply (stored ref).trans
        apply (w.withRsdp rsdp).set_grows
        rw [AcpiRegistry.setReady_tables]
        exact ((w.withRsdp rsdp).registry driver).setVersion.load_grows mem
  | loadTables mem driver =>
    cases driver with
    | none => exact List.prefix_refl _
    | some driver => exact w.set_grows (AcpiRegistry.load_grows _ mem) ref
  | findTable mem driver signature =>
    cases driver <;> cases signature <;> exact List.prefix_refl _
  | setPowerState driver state => cases driver <;> exact List.prefix_refl _
  | suspendCpu driver => cases driver <;> exact List.prefix_refl _
  | setState driver state =>
    have grown := w.set_grows (r := { w.registry driver with state }) (List.prefix_refl _)
    exact grown ref

theorem AcpiRegistries.Fits.of_operation {w : AcpiRegistries} {call : AcpiOperation}
    (fits : (w.operation call).1.Fits) : w.Fits :=
  fun ref => (w.operation_grows call ref).length_le.trans (fits ref)

/-- Every run of calls from objects whose counts are in range is answered as the two registries
answer it, and leaves the objects as the registries are left, exactly if the tables of each
registry fit into an array at the end; otherwise it stores a table outside of one. -/
theorem acpiSystem_refines (s : AcpiSystem) (bounded : s.Bounded) (calls : List AcpiOperation) :
    ((Calls.spec AcpiRegistries.operation s.registries calls).1.Fits →
        ∃ s', Calls.run acpiOperation s calls =
            .ok (s', (Calls.spec AcpiRegistries.operation s.registries calls).2) ∧
          s'.registries = (Calls.spec AcpiRegistries.operation s.registries calls).1) ∧
      (¬ (Calls.spec AcpiRegistries.operation s.registries calls).1.Fits →
        ∃ fault, Calls.run acpiOperation s calls = .error fault) := by
  obtain ⟨ends, faults⟩ := @Calls.run_refines_within _ _ _ _ _ acpiOperation
    AcpiRegistries.operation (fun s w => s.Bounded ∧ s.registries = w) AcpiRegistries.Fits
    (by
      rintro s _ call ⟨bounded, rfl⟩ fits
      exact (acpiOperation_iff_fits bounded call).1 fits)
    (by
      rintro s _ call ⟨bounded, rfl⟩ exceeds
      exact (acpiOperation_iff_fits bounded call).2 exceeds)
    (fun _ _ fits => fits.of_operation) _ _ ⟨bounded, rfl⟩ bounded.fits calls
  refine ⟨fun fits => ?_, faults⟩
  obtain ⟨s', ran, -, same⟩ := ends fits
  exact ⟨s', ran, same⟩

/-- A table that is loaded is found. -/
theorem acpiSystem_refines_sample :
    ∃ s', Calls.run acpiOperation ⟨sampleObjects, 0⟩
        [.setState .object .initializing, .loadTables (sampleTables 0x20) (some .object),
          .setState .object .ready,
          .findTable (sampleTables 0x20) (some .object) (some (cString "APIC"))] =
      .ok (s', [.done, .code .success, .done, .table (some 0x2000)]) := by
  obtain ⟨s', ran, -⟩ := (acpiSystem_refines ⟨sampleObjects, 0⟩
    (by intro ref; cases ref <;> decide)
    [.setState .object .initializing, .loadTables (sampleTables 0x20) (some .object),
      .setState .object .ready,
      .findTable (sampleTables 0x20) (some .object) (some (cString "APIC"))]).1
    (by intro ref; cases ref <;> decide)
  exact ⟨s', ran⟩

end LamaOS
