import LamaOS.Drivers.Common.RtTypes
import Mathlib.Logic.Function.Basic

/-!
# Port I/O

The functions of `drivers/common/io_port.c` over the two static tables `port_configs` and
`port_locks`. What the `in` and `out` instructions do is a parameter, `Hardware`: any
device with a state of its own. Each `IO_In*`/`IO_Out*` call leaves a record in
`Machine.log`, which says whether the instruction was executed or the call was answered by
the port layer itself; the log is a history for the statements and no function reads it.
-/

namespace LamaOS

/-- `IO_PortAccessType`. -/
inductive IoPortAccessType where
  | access8
  | access16
  | access32
  deriving DecidableEq, Repr

/-- `IO_PortMode`. -/
inductive IoPortMode where
  | input
  | output
  | bidir
  deriving DecidableEq, Repr

/-- `IO_PortConfig`. -/
structure IoPortConfig where
  base : RtIoPort
  count : RtU32
  accessType : IoPortAccessType
  mode : IoPortMode
  locked : Bool
  deriving DecidableEq, Repr

/-- The static arrays `port_configs` and `port_locks`. -/
structure IoTables where
  portConfigs : Fin maxIoPorts → IoPortConfig
  portLocks : Fin maxIoPorts → Bool

/-- The tables as the program starts: both arrays are zero-initialised. -/
def ioTablesInit : IoTables where
  portConfigs := fun _ => ⟨0, 0, .access8, .input, false⟩
  portLocks := fun _ => false

/-- `IO_IsValidPort`. -/
def ioIsValidPort (port : RtIoPort) : Bool := decide (port.toNat < maxIoPorts)

/-- `IO_IsPortLocked`: an invalid port counts as locked. -/
def ioIsPortLocked (tables : IoTables) (port : RtIoPort) : Bool :=
  if h : port.toNat < maxIoPorts then tables.portLocks ⟨port.toNat, h⟩ else true

/-- An `IO_PortConfig*`: to an object of the caller's, or to an entry of `port_configs`, as
`IO_GetPortConfig` returns it. -/
inductive IoConfigPtr where
  | object (config : IoPortConfig)
  | entry (port : Fin maxIoPorts)
  deriving DecidableEq, Repr

/-- What is read through a pointer. -/
def IoTables.configAt (tables : IoTables) : IoConfigPtr → IoPortConfig
  | .object config => config
  | .entry port => tables.portConfigs port

/-- `IO_InitPort`. -/
def ioInitPort (config : Option IoConfigPtr) (tables : IoTables) : RtErrorCode × IoTables :=
  match config with
  | none => (.invalidPort, tables)
  | some config =>
    let config := tables.configAt config
    if h : config.base.toNat < maxIoPorts then
      (.success, { tables with
        portConfigs := Function.update tables.portConfigs ⟨config.base.toNat, h⟩ config })
    else (.invalidPort, tables)

/-- `IO_LockPort`. -/
def ioLockPort (port : RtIoPort) (tables : IoTables) : RtErrorCode × IoTables :=
  if h : port.toNat < maxIoPorts then
    if tables.portLocks ⟨port.toNat, h⟩ then (.portLocked, tables)
    else (.success, { tables with
      portLocks := Function.update tables.portLocks ⟨port.toNat, h⟩ true })
  else (.invalidPort, tables)

/-- `IO_UnlockPort`: unlocking a port that is not locked succeeds. -/
def ioUnlockPort (port : RtIoPort) (tables : IoTables) : RtErrorCode × IoTables :=
  if h : port.toNat < maxIoPorts then
    (.success, { tables with
      portLocks := Function.update tables.portLocks ⟨port.toNat, h⟩ false })
  else (.invalidPort, tables)

/-- `IO_GetPortConfig`, as the configuration the returned pointer shows. -/
def ioGetPortConfig (port : RtIoPort) (tables : IoTables) : Option IoPortConfig :=
  if h : port.toNat < maxIoPorts then some (tables.portConfigs ⟨port.toNat, h⟩) else none

/-- The body shared by `IO_SetPortMode` and `IO_SetPortAccessType`. -/
def ioSetConfig (change : IoPortConfig → IoPortConfig) (port : RtIoPort) (tables : IoTables) :
    RtErrorCode × IoTables :=
  if h : port.toNat < maxIoPorts then
    let config := change (tables.portConfigs ⟨port.toNat, h⟩)
    (.success, { tables with
      portConfigs := Function.update tables.portConfigs ⟨port.toNat, h⟩ config })
  else (.invalidPort, tables)

/-- `IO_SetPortMode`. -/
def ioSetPortMode (port : RtIoPort) (mode : IoPortMode) : IoTables → RtErrorCode × IoTables :=
  ioSetConfig (fun config => { config with mode }) port

/-- `IO_SetPortAccessType`. -/
def ioSetPortAccessType (port : RtIoPort) (accessType : IoPortAccessType) :
    IoTables → RtErrorCode × IoTables :=
  ioSetConfig (fun config => { config with accessType }) port

/-! ## Accesses -/

/-- What the `in` and `out` instructions do, for each operand width in bits. -/
structure Hardware (σ : Type) where
  input : (width : Nat) → RtIoPort → σ → BitVec width × σ
  output : (width : Nat) → RtIoPort → BitVec width → σ → σ

inductive IoDirection where
  | input
  | output
  deriving DecidableEq, Repr

/-- The record of one `IO_In*` or `IO_Out*` call. `value` is the value returned or passed,
and `performed` says that the instruction was executed. -/
structure IoAccess where
  direction : IoDirection
  width : Nat
  port : RtIoPort
  value : Nat
  performed : Bool
  deriving DecidableEq, Repr

/-- The port layer's tables, the device behind the ports, and the calls made so far. -/
structure Machine (σ : Type) where
  tables : IoTables
  device : σ
  log : List IoAccess

/-- The test in front of every access: `IO_IsValidPort(port) && !IO_IsPortLocked(port)`. -/
def ioReaches (tables : IoTables) (port : RtIoPort) : Bool :=
  ioIsValidPort port && !ioIsPortLocked tables port

variable {σ : Type}

/-- The body shared by `IO_In8`, `IO_In16` and `IO_In32`: a refused read answers 0. -/
def ioIn (hw : Hardware σ) (width : Nat) (port : RtIoPort) (m : Machine σ) :
    BitVec width × Machine σ :=
  if !ioIsValidPort port || ioIsPortLocked m.tables port then
    (0, { m with log := m.log ++ [⟨.input, width, port, 0, false⟩] })
  else
    let (value, device) := hw.input width port m.device
    (value, { m with
      device, log := m.log ++ [⟨.input, width, port, value.toNat, true⟩] })

/-- The body shared by `IO_Out8`, `IO_Out16` and `IO_Out32`: a refused write is dropped. -/
def ioOut (hw : Hardware σ) (width : Nat) (port : RtIoPort) (value : BitVec width)
    (m : Machine σ) : Machine σ :=
  if !ioIsValidPort port || ioIsPortLocked m.tables port then
    { m with log := m.log ++ [⟨.output, width, port, value.toNat, false⟩] }
  else
    { m with
      device := hw.output width port value m.device
      log := m.log ++ [⟨.output, width, port, value.toNat, true⟩] }

/-- `IO_In8`. -/
def ioIn8 (hw : Hardware σ) (port : RtIoPort) (m : Machine σ) : RtU8 × Machine σ :=
  ioIn hw 8 port m

/-- `IO_In16`. -/
def ioIn16 (hw : Hardware σ) (port : RtIoPort) (m : Machine σ) : RtU16 × Machine σ :=
  ioIn hw 16 port m

/-- `IO_In32`. -/
def ioIn32 (hw : Hardware σ) (port : RtIoPort) (m : Machine σ) : RtU32 × Machine σ :=
  ioIn hw 32 port m

/-- `IO_Out8`. -/
def ioOut8 (hw : Hardware σ) (port : RtIoPort) (value : RtU8) (m : Machine σ) : Machine σ :=
  ioOut hw 8 port value m

/-- `IO_Out16`. -/
def ioOut16 (hw : Hardware σ) (port : RtIoPort) (value : RtU16) (m : Machine σ) : Machine σ :=
  ioOut hw 16 port value m

/-- `IO_Out32`. -/
def ioOut32 (hw : Hardware σ) (port : RtIoPort) (value : RtU32) (m : Machine σ) : Machine σ :=
  ioOut hw 32 port value m

/-- Hardware that answers every access with zero. -/
def silentHardware : Hardware Unit := ⟨fun _ _ s => (0, s), fun _ _ _ s => s⟩

/-! ## What one access does -/

theorem ioReaches_eq_not_refused (tables : IoTables) (port : RtIoPort) :
    (!ioIsValidPort port || ioIsPortLocked tables port) = !ioReaches tables port := by
  simp [ioReaches]

@[simp] theorem ioIn_tables (hw : Hardware σ) (width : Nat) (port : RtIoPort) (m : Machine σ) :
    (ioIn hw width port m).2.tables = m.tables := by
  unfold ioIn; split <;> rfl

@[simp] theorem ioOut_tables (hw : Hardware σ) (width : Nat) (port : RtIoPort)
    (value : BitVec width) (m : Machine σ) : (ioOut hw width port value m).tables = m.tables := by
  unfold ioOut; split <;> rfl

/-- A read that reaches the hardware is the device's own answer. -/
theorem ioIn_of_reaches (hw : Hardware σ) (width : Nat) (port : RtIoPort) (m : Machine σ)
    (h : ioReaches m.tables port = true) :
    ioIn hw width port m =
      ((hw.input width port m.device).1,
        { m with
          device := (hw.input width port m.device).2
          log := m.log ++ [⟨.input, width, port, (hw.input width port m.device).1.toNat, true⟩] }) := by
  simp [ioIn, ioReaches_eq_not_refused, h]

/-- A write that reaches the hardware is handed to the device. -/
theorem ioOut_of_reaches (hw : Hardware σ) (width : Nat) (port : RtIoPort)
    (value : BitVec width) (m : Machine σ) (h : ioReaches m.tables port = true) :
    ioOut hw width port value m =
      { m with
        device := hw.output width port value m.device
        log := m.log ++ [⟨.output, width, port, value.toNat, true⟩] } := by
  simp [ioOut, ioReaches_eq_not_refused, h]

/-- A refused read answers 0 and leaves the device alone. -/
theorem ioIn_of_refused (hw : Hardware σ) (width : Nat) (port : RtIoPort) (m : Machine σ)
    (h : ioReaches m.tables port = false) :
    ioIn hw width port m =
      (0, { m with log := m.log ++ [⟨.input, width, port, 0, false⟩] }) := by
  simp [ioIn, ioReaches_eq_not_refused, h]

/-- A refused write does nothing but leave its record. -/
theorem ioOut_of_refused (hw : Hardware σ) (width : Nat) (port : RtIoPort)
    (value : BitVec width) (m : Machine σ) (h : ioReaches m.tables port = false) :
    ioOut hw width port value m =
      { m with log := m.log ++ [⟨.output, width, port, value.toNat, false⟩] } := by
  simp [ioOut, ioReaches_eq_not_refused, h]

/-- A read adds one record, marked performed exactly when the port check lets it through. -/
theorem ioIn_log (hw : Hardware σ) (width : Nat) (port : RtIoPort) (m : Machine σ) :
    ∃ value, (ioIn hw width port m).2.log =
      m.log ++ [⟨.input, width, port, value, ioReaches m.tables port⟩] := by
  cases h : ioReaches m.tables port with
  | true => exact ⟨_, by rw [ioIn_of_reaches hw width port m h]⟩
  | false => exact ⟨0, by rw [ioIn_of_refused hw width port m h]⟩

/-- A write adds one record, marked performed exactly when the port check lets it through. -/
theorem ioOut_log (hw : Hardware σ) (width : Nat) (port : RtIoPort) (value : BitVec width)
    (m : Machine σ) :
    (ioOut hw width port value m).log =
      m.log ++ [⟨.output, width, port, value.toNat, ioReaches m.tables port⟩] := by
  cases h : ioReaches m.tables port with
  | true => rw [ioOut_of_reaches hw width port value m h]
  | false => rw [ioOut_of_refused hw width port value m h]

end LamaOS
