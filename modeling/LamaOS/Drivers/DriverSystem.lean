import LamaOS.Drivers.Common.IoPortRuns
import LamaOS.Drivers.Mouse.MouseRuns
import LamaOS.Drivers.Network.NetworkTable
import LamaOS.Drivers.PortSuccess
import LamaOS.Drivers.Usb.UsbTable

/-!
# The drivers over one port layer

The mouse, the USB and the network driver share the port layer, its lock table and the device
behind the ports with each other and with any other client. A state of the system is the three
driver objects and the machine, and a call is one of any function of any of them, with all its
arguments and all that it hands back. No call from a state of the invariant faults, whatever
the device answers.
-/

namespace LamaOS

/-- A call of a function of `usb_driver.h`, apart from its driver argument; `δ` is what stands
for the device. -/
inductive UsbOperationOn (δ : Type) where
  | init
  | attachDevice (mem : UsbMemory) (device : Option δ)
  | detachDevice (address : RtU8)
  | findDevice (address : RtU8)
  | sendData (address endpoint : RtU8) (data : Option RtPtr) (length : RtU32)
  | receiveData (address endpoint : RtU8) (buffer : Option RtPtr) (length : RtU32)

/-- The calls with a device pointer. -/
abbrev UsbOperation := UsbOperationOn UsbDevicePtr

/-- A call of a function of one of the drivers or of the port layer. -/
inductive SystemCall where
  | mouse (operation : MouseOperation)
  | usb (operation : UsbOperation)
  | network (operation : NetworkOperation)
  | port (operation : PortOperation)

/-- All that a call hands back: its return value, the callbacks made, and the caller's object
as it is left. -/
inductive SystemReply where
  | mouse (reply : MouseReply)
  | usb (code : RtErrorCode) (device : Option UsbDevice) (callbacks : List UsbCallback)
  | network (code : RtErrorCode) (packet : Option EthernetPacket)
      (callbacks : List NetworkCallback)
  | slot (slot : Option RtU8)
  | port (reply : PortReply)
  deriving DecidableEq

/-- The three driver objects, and the machine they run on. -/
structure DriverSystem (σ : Type) where
  mouse : RtMouseDriver
  usb : RtUsbDriver
  network : RtNetworkDriver
  machine : Machine σ

section Operations

variable {σ : Type} (hw : Hardware σ) (outputFull : Fin 8)

/-- A call on the mouse driver. -/
def mouseSystemCall (driver : RtMouseDriver) (m : Machine σ) (operation : MouseOperation) :
    Except MemoryFault ((RtMouseDriver × Machine σ) × SystemReply) :=
  (mouseOperation hw outputFull driver m operation).map fun done => (done.1, .mouse done.2)

/-- The USB driver and the machine after an operation that was given both. -/
def RtUsbDriver.operated (driver : RtUsbDriver) (result : UsbResult σ)
    (device : Option UsbDevicePtr) : (RtUsbDriver × Machine σ) × SystemReply :=
  let left := result.driver.getD driver
  ((left, result.machine), .usb result.code (device.map left.deviceAt) result.watched)

/-- A call on the USB driver. -/
def usbSystemCall (driver : RtUsbDriver) (m : Machine σ) :
    UsbOperation → Except MemoryFault ((RtUsbDriver × Machine σ) × SystemReply)
  | .init => .ok (driver.operated (usbInit hw driver m) none)
  | .attachDevice mem device =>
    (usbAttachDevice hw mem driver device m).map fun r => driver.operated r.1 r.2
  | .detachDevice address =>
    (usbDetachDevice driver address m).map fun r => driver.operated r none
  | .findDevice address =>
    (usbFindDevice driver address).map fun slot => ((driver, m), .slot slot)
  | .sendData address endpoint data length =>
    .ok (driver.operated (usbSendData hw driver address endpoint data length m) none)
  | .receiveData address endpoint buffer length =>
    .ok (driver.operated (usbReceiveData hw driver address endpoint buffer length m) none)

/-- The network driver and the machine after an operation that was given both. -/
def RtNetworkDriver.operated (driver : RtNetworkDriver) (result : NetworkResult σ) :
    (RtNetworkDriver × Machine σ) × SystemReply :=
  ((result.driver.getD driver, result.machine),
    .network result.code result.packet result.callbacks)

/-- A call on the network driver. -/
def networkSystemCall (driver : RtNetworkDriver) (m : Machine σ) :
    NetworkOperation → Except MemoryFault ((RtNetworkDriver × Machine σ) × SystemReply)
  | .init => .ok (driver.operated (networkInit driver m))
  | .addDevice device => (networkAddDevice driver device m).map driver.operated
  | .findDevice macAddress =>
    (networkFindDevice driver macAddress).map fun slot => ((driver, m), .slot slot)
  | .sendPacket destinationMac packet =>
    .ok (driver.operated (networkSendPacket hw driver destinationMac packet m))
  | .receivePacket mem packet =>
    .ok (driver.operated (networkReceivePacket hw mem driver packet m))

/-- One call. -/
def systemCall (s : DriverSystem σ) :
    SystemCall → Except MemoryFault (DriverSystem σ × SystemReply)
  | .mouse operation =>
    (mouseSystemCall hw outputFull s.mouse s.machine operation).map fun done =>
      ({ s with mouse := done.1.1, machine := done.1.2 }, done.2)
  | .usb operation =>
    (usbSystemCall hw s.usb s.machine operation).map fun done =>
      ({ s with usb := done.1.1, machine := done.1.2 }, done.2)
  | .network operation =>
    (networkSystemCall hw s.network s.machine operation).map fun done =>
      ({ s with network := done.1.1, machine := done.1.2 }, done.2)
  | .port operation =>
    let done := portOperation hw s.machine operation
    .ok ({ s with machine := done.1 }, .port done.2)

end Operations

/-- The replies to the calls that are kept. -/
def repliesTo (keep : SystemCall → Bool) (calls : List SystemCall)
    (replies : List SystemReply) : List SystemReply :=
  ((calls.zip replies).filter fun event => keep event.1).map Prod.snd

/-! ## Whose call it is -/

section Parts

variable {σ : Type} {hw : Hardware σ} {outputFull : Fin 8} {s s' : DriverSystem σ}
  {reply : SystemReply}

/-- A call on the mouse driver is one on its part of the system. -/
theorem systemCall_mouse {operation : MouseOperation}
    (done : systemCall hw outputFull s (.mouse operation) = .ok (s', reply)) :
    ∃ result, mouseSystemCall hw outputFull s.mouse s.machine operation = .ok result ∧
      s' = { s with mouse := result.1.1, machine := result.1.2 } ∧ reply = result.2 := by
  rw [systemCall] at done
  cases ran : mouseSystemCall hw outputFull s.mouse s.machine operation with
  | error fault => rw [ran] at done; cases done
  | ok result =>
    rw [ran] at done
    obtain ⟨rfl, rfl⟩ := Prod.mk.inj (Except.ok.inj done)
    exact ⟨result, rfl, rfl, rfl⟩

theorem systemCall_usb {operation : UsbOperation}
    (done : systemCall hw outputFull s (.usb operation) = .ok (s', reply)) :
    ∃ result, usbSystemCall hw s.usb s.machine operation = .ok result ∧
      s' = { s with usb := result.1.1, machine := result.1.2 } ∧ reply = result.2 := by
  rw [systemCall] at done
  cases ran : usbSystemCall hw s.usb s.machine operation with
  | error fault => rw [ran] at done; cases done
  | ok result =>
    rw [ran] at done
    obtain ⟨rfl, rfl⟩ := Prod.mk.inj (Except.ok.inj done)
    exact ⟨result, rfl, rfl, rfl⟩

theorem systemCall_network {operation : NetworkOperation}
    (done : systemCall hw outputFull s (.network operation) = .ok (s', reply)) :
    ∃ result, networkSystemCall hw s.network s.machine operation = .ok result ∧
      s' = { s with network := result.1.1, machine := result.1.2 } ∧ reply = result.2 := by
  rw [systemCall] at done
  cases ran : networkSystemCall hw s.network s.machine operation with
  | error fault => rw [ran] at done; cases done
  | ok result =>
    rw [ran] at done
    obtain ⟨rfl, rfl⟩ := Prod.mk.inj (Except.ok.inj done)
    exact ⟨result, rfl, rfl, rfl⟩

end Parts

/-! ## No call faults -/

/-- The counters of the three drivers are in range: there is room for the next byte of a
packet, and no more slots are in use than there are. -/
structure CountsInRange (s : DriverSystem σ) : Prop where
  packet : s.mouse.packetIndex.toNat < mousePacketSize
  usb : s.usb.numDevices.toNat ≤ usbMaxDevices
  network : s.network.numDevices.toNat ≤ netMaxDevices

section Counts

variable {σ : Type} (hw : Hardware σ) (outputFull : Fin 8)

/-- A transfer leaves the driver. -/
theorem usbTransfer_driver (command : RtU16) (driver : RtUsbDriver) (address endpoint : RtU8)
    (buffer : Option RtPtr) (length : RtU32) (m : Machine σ) :
    (usbTransfer hw command (some driver) address endpoint buffer length m).driver =
      some driver := by
  cases buffer with
  | none => rfl
  | some buffer =>
    dsimp only [usbTransfer]
    split
    · rfl
    · rfl

/-- A command leaves room for the next byte of a packet. -/
theorem MouseCommanded.room {driver change : RtMouseDriver} {result : MouseResult σ}
    {source : RtDriverState → Prop} (commanded : MouseCommanded driver result source change)
    (room : driver.packetIndex.toNat < mousePacketSize)
    (room' : change.packetIndex.toNat < mousePacketSize) :
    (result.driver.getD driver).packetIndex.toNat < mousePacketSize := by
  by_cases success : result.code = .success
  · rw [(commanded.done success).2]
    exact room'
  · rw [commanded.failed success]
    exact room

theorem mouseSystemCall_total {driver : RtMouseDriver}
    (room : driver.packetIndex.toNat < mousePacketSize) (m : Machine σ)
    (operation : MouseOperation) :
    ∃ done, mouseSystemCall hw outputFull driver m operation = .ok done ∧
      done.1.1.packetIndex.toNat < mousePacketSize := by
  have start : (0 : RtU8).toNat < mousePacketSize := by decide
  cases operation with
  | init => exact ⟨_, rfl, (mouseInit_commanded hw outputFull driver m).room room start⟩
  | enable =>
    exact ⟨_, rfl, (mouseSwitch_commanded hw outputFull mouseCmdEnable .ready .running driver
      m).room room room⟩
  | disable =>
    exact ⟨_, rfl, (mouseSwitch_commanded hw outputFull mouseCmdDisable .running .ready driver
      m).room room room⟩
  | setSampleRate rate =>
    exact ⟨_, rfl, (mouseSetSampleRate_commanded hw outputFull driver rate m).room room room⟩
  | interrupt =>
    simp only [mouseSystemCall, mouseOperation, mouseInterruptHandler]
    by_cases running : driver.base.state = .running
    · obtain ⟨driver', callbacks, collected, room'⟩ :=
        mouseCollect_room room (ioIn8 hw mouseDataRegister m).1
      rw [if_neg (by simp [running]), collected]
      exact ⟨_, rfl, room'⟩
    · rw [if_pos running]
      exact ⟨_, rfl, room⟩
  | processPacket =>
    refine ⟨_, rfl, ?_⟩
    dsimp only [mouseProcessPacket]
    split
    · exact room
    · exact room

theorem usbSystemCall_total {driver : RtUsbDriver}
    (bounded : driver.numDevices.toNat ≤ usbMaxDevices) (m : Machine σ)
    (operation : UsbOperation) :
    ∃ done, usbSystemCall hw driver m operation = .ok done ∧
      done.1.1.numDevices.toNat ≤ usbMaxDevices := by
  have shows : UsbShows ⟨driver, m⟩ driver.attached := ⟨rfl, bounded⟩
  cases operation with
  | init => exact ⟨_, rfl, bounded⟩
  | attachDevice mem device =>
    cases device with
    | none => exact ⟨_, rfl, bounded⟩
    | some device =>
      obtain ⟨result, attached, -, shows', -⟩ :=
        shows.attachDeviceWith hw .callbacks device mem []
      exact ⟨_, by rw [usbSystemCall, usbAttachDevice, attached]; rfl, shows'.bounded⟩
  | detachDevice address =>
    obtain ⟨result, detached, -, shows', -⟩ := shows.detachDeviceWith .callbacks address []
    exact ⟨_, by rw [usbSystemCall, usbDetachDevice, detached]; rfl, shows'.bounded⟩
  | findDevice address =>
    obtain ⟨found, search, -⟩ := shows.search address
    rw [usbSystemCall, usbFindDevice]
    split
    · exact ⟨_, rfl, bounded⟩
    · exact ⟨_, by rw [search]; rfl, bounded⟩
  | sendData address endpoint data length =>
    refine ⟨_, rfl, ?_⟩
    simp only [RtUsbDriver.operated, usbSendData, usbTransfer_driver, Option.getD_some]
    exact bounded
  | receiveData address endpoint buffer length =>
    refine ⟨_, rfl, ?_⟩
    simp only [RtUsbDriver.operated, usbReceiveData, usbTransfer_driver, Option.getD_some]
    exact bounded

theorem networkSystemCall_total {driver : RtNetworkDriver}
    (bounded : driver.numDevices.toNat ≤ netMaxDevices) (m : Machine σ)
    (operation : NetworkOperation) :
    ∃ done, networkSystemCall hw driver m operation = .ok done ∧
      done.1.1.numDevices.toNat ≤ netMaxDevices := by
  cases operation with
  | init => exact ⟨_, rfl, bounded⟩
  | addDevice device =>
    cases device with
    | none => exact ⟨_, rfl, bounded⟩
    | some device =>
      simp only [networkSystemCall, networkAddDevice]
      split
      · exact ⟨_, rfl, bounded⟩
      · rename_i free
        have room : driver.numDevices.toNat < netMaxDevices := Nat.lt_of_not_le free
        have count : (driver.numDevices + 1).toNat = driver.numDevices.toNat + 1 := by
          simp only [netMaxDevices] at room
          bv_omega
        split
        · exact ⟨_, rfl, bounded⟩
        · rw [SlotTable.store, dif_pos room]
          refine ⟨_, rfl, ?_⟩
          simp only [RtNetworkDriver.operated, Option.getD_some, count]
          exact room
  | findDevice macAddress =>
    cases macAddress with
    | none => exact ⟨_, rfl, bounded⟩
    | some macAddress =>
      obtain ⟨found, search, -⟩ := SlotTable.search_eq_findIdx?
        (fun device : NetworkDevice => device.macAddress == macAddress) driver.devices
        driver.numDevices bounded
      exact ⟨_, by rw [networkSystemCall, networkFindDevice, search]; rfl, bounded⟩
  | sendPacket destinationMac packet =>
    refine ⟨_, rfl, ?_⟩
    simp only [RtNetworkDriver.operated, networkSendPacket_driver, Option.getD_some]
    exact bounded
  | receivePacket mem packet =>
    refine ⟨_, rfl, ?_⟩
    simp only [RtNetworkDriver.operated, networkReceivePacket_driver, Option.getD_some]
    exact bounded

/-- Every call from a state whose counts are in range is carried out, and leads to one. -/
theorem systemCall_total {s : DriverSystem σ} (counts : CountsInRange s) (call : SystemCall) :
    ∃ s' reply, systemCall hw outputFull s call = .ok (s', reply) ∧ CountsInRange s' := by
  cases call with
  | mouse operation =>
    obtain ⟨done, ran, room⟩ :=
      mouseSystemCall_total hw outputFull counts.packet s.machine operation
    exact ⟨{ s with mouse := done.1.1, machine := done.1.2 }, done.2,
      by rw [systemCall, ran]; rfl, room, counts.usb, counts.network⟩
  | usb operation =>
    obtain ⟨done, ran, bounded⟩ := usbSystemCall_total hw counts.usb s.machine operation
    exact ⟨{ s with usb := done.1.1, machine := done.1.2 }, done.2,
      by rw [systemCall, ran]; rfl, counts.packet, bounded, counts.network⟩
  | network operation =>
    obtain ⟨done, ran, bounded⟩ := networkSystemCall_total hw counts.network s.machine operation
    exact ⟨{ s with network := done.1.1, machine := done.1.2 }, done.2,
      by rw [systemCall, ran]; rfl, counts.packet, counts.usb, bounded⟩
  | port operation => exact ⟨_, _, rfl, counts.packet, counts.usb, counts.network⟩

end Counts

/-- The sample mouse, and a USB and a network driver without devices. -/
def sampleDrivers : DriverSystem MouseDevice :=
  ⟨sampleMouseWorld.driver, default, default, sampleMouseWorld.machine⟩

end LamaOS
