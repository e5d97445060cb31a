import LamaOS.Drivers.PeripheralRequests

/-!
# The USB and the network driver as registries

What the two drivers are for, whatever their objects and the ports look like: a list of at most
32 USB devices, a list of at most 8 network devices, and a sequence of requests to their
controllers. Every run of the functions of both drivers, in any order, is answered as these
answer it; and as no request reaches a controller, the record of the port layer is all that is
left of it.

A registry knows its devices and not the slots they are kept in. Of a device pointer it is told
what the pointer shows.
-/

namespace LamaOS

/-! ## The registries -/

/-- What a call on a registry leaves behind. -/
structure Registered (α : Type) where
  registry : α
  reply : SystemReply
  requests : List PeripheralRequest

/-- What the USB driver keeps: its state, the attached devices, and who is told of them. -/
structure UsbRegistry where
  state : RtDriverState
  devices : List UsbDevice
  onDeviceConnected : Bool
  onDeviceDisconnected : Bool
  deriving DecidableEq

namespace UsbRegistry

/-- A transfer asks the controller if it has a buffer and a length. -/
def transfer (r : UsbRegistry) (direction : UsbDirection) (endpoint : RtU8)
    (buffer : Option RtPtr) (length : RtU32) : Registered UsbRegistry :=
  match buffer with
  | none => ⟨r, .usb .invalidParameter none [], []⟩
  | some buffer =>
    if length = 0 then ⟨r, .usb .invalidParameter none [], []⟩
    else ⟨r, .usb .success none [],
      [.usbTransfer direction (endpoint.setWidth 4) length (buffer.setWidth 32)]⟩

theorem transfer_registry (r : UsbRegistry) (direction : UsbDirection) (endpoint : RtU8)
    (buffer : Option RtPtr) (length : RtU32) :
    (r.transfer direction endpoint buffer length).registry = r := by
  cases buffer with
  | none => rfl
  | some buffer =>
    rw [transfer]
    split
    · rfl
    · rfl

/-- A call on the registry. -/
def operation (r : UsbRegistry) : UsbOperationOn UsbShown → Registered UsbRegistry
  | .init => ⟨{ r with state := .ready }, .usb .success none [], [.usbReset]⟩
  | .attachDevice _ none => ⟨r, .usb .invalidParameter none [], []⟩
  | .attachDevice mem (some shown) =>
    if r.devices.length < usbMaxDevices then
      let deviceDesc := usbDescriptorAt mem 0xE000
      let device := shown.device.described deviceDesc
      ⟨{ r with devices := shown.describe r.devices deviceDesc ++ [device] },
        .usb .success (some device) (if r.onDeviceConnected then [.connected device] else []),
        [.usbDescriptor]⟩
    else ⟨r, .usb .invalidParameter (some shown.device) [], []⟩
  | .detachDevice address =>
    if address.toNat < usbMaxDevices ∧ ∃ device ∈ r.devices, device.address = address then
      ⟨{ r with devices := r.devices.eraseP fun device => device.address == address },
        .usb .success none (if r.onDeviceDisconnected then [.disconnected address] else []), []⟩
    else ⟨r, .usb .invalidParameter none [], []⟩
  | .findDevice address =>
    ⟨r, .slot (if address.toNat < usbMaxDevices then
      (r.devices.findIdx? fun device => device.address == address).map (BitVec.ofNat 8)
      else none), []⟩
  | .sendData _ endpoint data length => r.transfer .send endpoint data length
  | .receiveData _ endpoint buffer length => r.transfer .receive endpoint buffer length

end UsbRegistry

/-- What the network driver keeps. -/
structure NetworkRegistry where
  state : RtDriverState
  devices : List NetworkDevice
  onPacketReceived : Bool
  onDeviceConnected : Bool
  deriving DecidableEq

namespace NetworkRegistry

/-- A packet is addressed, and its address and length are told to the controller. -/
def sendPacket (r : NetworkRegistry) (destinationMac : Option (Vector RtU8 netMacAddrLen))
    (packet : Option (RtPtr × EthernetPacket)) : Registered NetworkRegistry :=
  match destinationMac, packet with
  | some destinationMac, some (address, packet) =>
    if HasNonZero destinationMac then
      ⟨r, .network .success (some { packet with destinationMac }) [],
        [.networkSend (address.setWidth 32) packet.payloadLength]⟩
    else ⟨r, .network .invalidParameter (some packet) [], []⟩
  | _, packet => ⟨r, .network .invalidParameter (packet.map Prod.snd) [], []⟩

/-- A call on the registry. A packet that is received is what lies at the address 0, which is the
controller's answer as the port layer gives it. -/
def operation (r : NetworkRegistry) : NetworkOperation → Registered NetworkRegistry
  | .init => ⟨{ r with state := .ready }, .network .success none [], []⟩
  | .addDevice none => ⟨r, .network .invalidParameter none [], []⟩
  | .addDevice (some device) =>
    if r.devices.length < netMaxDevices ∧ Addressed device then
      ⟨{ r with devices := r.devices ++ [device] },
        .network .success none (if r.onDeviceConnected then [.deviceConnected device] else []), []⟩
    else ⟨r, .network .invalidParameter none [], []⟩
  | .findDevice macAddress =>
    ⟨r, .slot (macAddress.bind fun macAddress =>
      (r.devices.findIdx? fun device => device.macAddress == macAddress).map (BitVec.ofNat 8)),
      []⟩
  | .sendPacket destinationMac packet => r.sendPacket destinationMac packet
  | .receivePacket _ none => ⟨r, .network .invalidParameter none [], []⟩
  | .receivePacket mem (some _) =>
    let packet := networkPacketAt mem 0
    ⟨r, .network .success (some packet)
      (if r.onPacketReceived then [.packetReceived packet] else []), [.networkReceive]⟩

end NetworkRegistry

/-- The two registries, and all that has been asked of the controllers. -/
structure Peripherals where
  usb : UsbRegistry
  network : NetworkRegistry
  requests : List PeripheralRequest
  deriving DecidableEq

/-- The same call with another device. -/
def UsbOperationOn.map {δ ε : Type} (f : δ → ε) : UsbOperationOn δ → UsbOperationOn ε
  | .init => .init
  | .attachDevice mem device => .attachDevice mem (device.map f)
  | .detachDevice address => .detachDevice address
  | .findDevice address => .findDevice address
  | .sendData address endpoint data length => .sendData address endpoint data length
  | .receiveData address endpoint buffer length => .receiveData address endpoint buffer length

/-- A call of a function of one of the two drivers. -/
inductive PeripheralCallOn (δ : Type) where
  | usb (operation : UsbOperationOn δ)
  | network (operation : NetworkOperation)

/-- The calls with a device pointer. -/
abbrev PeripheralCall := PeripheralCallOn UsbDevicePtr

/-- The same call with another device. -/
def PeripheralCallOn.map {δ ε : Type} (f : δ → ε) : PeripheralCallOn δ → PeripheralCallOn ε
  | .usb operation => .usb (operation.map f)
  | .network operation => .network operation

/-- The call as one on the system. -/
def PeripheralCall.systemCall : PeripheralCall → SystemCall
  | .usb operation => .usb operation
  | .network operation => .network operation

/-- A call on the registries. -/
def Peripherals.operation (p : Peripherals) :
    PeripheralCallOn UsbShown → Peripherals × SystemReply
  | .usb operation =>
    let done := p.usb.operation operation
    ({ p with usb := done.registry, requests := p.requests ++ done.requests }, done.reply)
  | .network operation =>
    let done := p.network.operation operation
    ({ p with network := done.registry, requests := p.requests ++ done.requests }, done.reply)

/-! ## What the drivers show -/

/-- The registry that a driver shows. -/
def RtUsbDriver.registry (driver : RtUsbDriver) : UsbRegistry :=
  ⟨driver.base.state, driver.attached, driver.onDeviceConnected, driver.onDeviceDisconnected⟩

/-- The registry that a driver shows. -/
def RtNetworkDriver.registry (driver : RtNetworkDriver) : NetworkRegistry :=
  ⟨driver.base.state, driver.attached, driver.onPacketReceived, driver.onDeviceConnected⟩

/-- The machine after requests that no controller has seen. -/
def Machine.requested {σ : Type} (m : Machine σ) (requests : List PeripheralRequest) :
    Machine σ :=
  { m with log := m.log ++ requests.flatMap PeripheralRequest.accesses }

section Requests

variable {σ : Type} (hw : Hardware σ) (m : Machine σ)

theorem ioOut_refusedOut (width : Nat) {port : RtIoPort} (value : BitVec width)
    (beyond : maxIoPorts ≤ port.toNat) :
    ioOut hw width port value m = { m with log := m.log ++ [refusedOut width port value] } :=
  ioOut_of_refused hw width port value m (ioReaches_of_outOfRange m.tables beyond)

theorem ioIn_refusedIn (width : Nat) {port : RtIoPort} (beyond : maxIoPorts ≤ port.toNat) :
    ioIn hw width port m = (0, { m with log := m.log ++ [refusedIn width port] }) :=
  ioIn_of_refused hw width port m (ioReaches_of_outOfRange m.tables beyond)

theorem requested_nil : m.requested [] = m := by
  simp [Machine.requested]

theorem requested_append (requests requests' : List PeripheralRequest) :
    (m.requested requests).requested requests' = m.requested (requests ++ requests') := by
  simp [Machine.requested]

/-- Two writes beyond the ports are a request with these accesses. -/
theorem requested_two {request : PeripheralRequest} {width width' : Nat} {port port' : RtIoPort}
    {value : BitVec width} {value' : BitVec width'}
    (made : request.accesses = [refusedOut width port value, refusedOut width' port' value'])
    (beyond : maxIoPorts ≤ port.toNat) (beyond' : maxIoPorts ≤ port'.toNat) :
    ioOut hw width' port' value' (ioOut hw width port value m) = m.requested [request] := by
  rw [ioOut_refusedOut hw _ width value beyond, ioOut_refusedOut hw _ width' value' beyond']
  simp [Machine.requested, made]

theorem usbResetPort_requests : usbResetPort hw m = (.success, m.requested [.usbReset]) := by
  have made := @requested_two σ hw m .usbReset 16 16 0xCF8 0xCFC 0x1004 0x0001 rfl (by decide)
    (by decide)
  rw [← made]
  rfl

theorem usbReadDeviceDescriptor_requests (mem : UsbMemory) (driver : RtUsbDriver)
    (address : RtU8) (desc : UsbDeviceDescriptor) :
    usbReadDeviceDescriptor hw mem (some driver) address (some desc) m =
      (.success, some (usbDescriptorAt mem 0xE000), m.requested [.usbDescriptor]) := by
  -- the address is shifted out of the byte that is written
  have word : (0x80001000 ||| address.setWidth 32 <<< 8 : RtU32).setWidth 8 = 0 := by simp
  have made := @requested_two σ hw m .usbDescriptor 8 16 0xCF8 0xCFC 0x00 0x0001 rfl (by decide)
    (by decide)
  rw [← made]
  simp only [usbReadDeviceDescriptor, Option.isNone_some, Bool.or_self, Bool.false_eq_true,
    if_false, word]
  rfl

theorem usbTransfer_requests (direction : UsbDirection) (driver : RtUsbDriver)
    (address endpoint : RtU8) (buffer : Option RtPtr) (length : RtU32) :
    driver.operated (usbTransfer hw direction.command driver address endpoint buffer length m)
        none =
      ((driver, m.requested (driver.registry.transfer direction endpoint buffer length).requests),
        (driver.registry.transfer direction endpoint buffer length).reply) := by
  cases buffer with
  | none => simp [RtUsbDriver.operated, usbTransfer, UsbRegistry.transfer, requested_nil]
  | some buffer =>
    have endpointByte : ((endpoint.setWidth 4).setWidth 8 <<< 4 : RtU8) = endpoint <<< 4 := by
      apply BitVec.eq_of_toNat_eq
      simp only [BitVec.toNat_shiftLeft, BitVec.toNat_setWidth, Nat.shiftLeft_eq]
      omega
    simp only [usbTransfer, UsbRegistry.transfer]
    by_cases empty : length = 0
    · rw [if_pos empty, if_pos empty]
      simp [RtUsbDriver.operated, requested_nil]
    · rw [if_neg empty, if_neg empty]
      simp only [RtUsbDriver.operated, ioOut8, ioOut16, ioOut32, UsbRequest.addressWord_low,
        Option.getD_some]
      rw [ioOut_refusedOut, ioOut_refusedOut, ioOut_refusedOut, ioOut_refusedOut]
      · simp [Machine.requested, PeripheralRequest.accesses, endpointByte]
      all_goals decide

end Requests

/-! ## Every call -/

section Calls

variable {σ : Type} (hw : Hardware σ)

/-- An index of the list is the slot that is found. -/
theorem slot_of_index {found : Option RtU8} {index : Option Nat}
    (same : found.map BitVec.toNat = index) : found = index.map (BitVec.ofNat 8) := by
  rw [← same, Option.map_map]
  cases found with
  | none => rfl
  | some slot => simp

theorem usbSystemCall_registered {driver : RtUsbDriver}
    (bounded : driver.numDevices.toNat ≤ usbMaxDevices) (m : Machine σ)
    (operation : UsbOperation) :
    ∃ driver', usbSystemCall hw driver m operation =
        .ok ((driver', m.requested
          (driver.registry.operation (operation.map driver.shown)).requests),
          (driver.registry.operation (operation.map driver.shown)).reply) ∧
      driver'.registry = (driver.registry.operation (operation.map driver.shown)).registry ∧
      driver'.numDevices.toNat ≤ usbMaxDevices := by
  have shows : UsbShows ⟨driver, m⟩ driver.attached := ⟨rfl, bounded⟩
  have count : driver.attached.length = driver.numDevices.toNat := shows.length
  cases operation with
  | init =>
    refine ⟨{ driver with base.state := .ready }, ?_, rfl, bounded⟩
    rw [usbSystemCall, usbInit, usbResetPort_requests]
    rfl
  | attachDevice mem device =>
    cases device with
    | none =>
      refine ⟨driver, ?_, rfl, bounded⟩
      show _ = Except.ok ((driver, m.requested []), _)
      rw [requested_nil]
      rfl
    | some device =>
      by_cases room : driver.numDevices.toNat < usbMaxDevices
      · have spec : driver.registry.operation
            (.attachDevice mem (some (driver.shown device))) = _ := if_pos (count ▸ room)
        rw [UsbOperationOn.map, Option.map_some, spec, usbSystemCall, usbAttachDevice,
          usbAttachDeviceWith_room hw _ mem room, usbReadDeviceDescriptor_requests]
        let deviceDesc := usbDescriptorAt mem 0xE000
        refine ⟨(driver.describe device deviceDesc).append
          ((driver.deviceAt device).described deviceDesc) room, ?_, ?_, ?_⟩
        · simp only [Except.map, RtUsbDriver.operated, Option.getD_some, Option.map_some,
            RtUsbDriver.deviceAt_append]
          rfl
        · rw [RtUsbDriver.registry, RtUsbDriver.attached_append (driver.describe device _) _ room,
            RtUsbDriver.attached_describe]
          rfl
        · exact (RtUsbDriver.append_count (driver.describe device _) _ room).trans_le room
      · have spec : driver.registry.operation
            (.attachDevice mem (some (driver.shown device))) = _ := if_neg (count ▸ room)
        rw [UsbOperationOn.map, Option.map_some, spec, requested_nil, usbSystemCall,
          usbAttachDevice, usbAttachDeviceWith_full hw _ mem (Nat.le_of_not_lt room)]
        exact ⟨driver, rfl, rfl, bounded⟩
  | detachDevice address =>
    by_cases found : address.toNat < usbMaxDevices ∧
        ∃ device ∈ driver.attached, device.address = address
    · obtain ⟨devices, driver', same, detached, attached, bounded'⟩ :=
        usbDetachDeviceWith_found bounded found.1 found.2 .callbacks m []
      have spec : driver.registry.operation
          ((.detachDevice address : UsbOperation).map driver.shown) = _ := if_pos found
      rw [spec, requested_nil, usbSystemCall, usbDetachDevice, detached]
      refine ⟨driver', rfl, ?_, bounded'⟩
      rw [RtUsbDriver.registry, attached, same]
      rfl
    · have spec : driver.registry.operation
          ((.detachDevice address : UsbOperation).map driver.shown) =
            ⟨driver.registry, .usb .invalidParameter none [], []⟩ := if_neg found
      rw [spec, requested_nil, usbSystemCall, usbDetachDevice,
        usbDetachDeviceWith_absent bounded found]
      exact ⟨driver, rfl, rfl, bounded⟩
  | findDevice address =>
    obtain ⟨found, search, index⟩ := shows.search address
    refine ⟨driver, ?_, rfl, bounded⟩
    simp only [usbSystemCall, usbFindDevice, UsbOperationOn.map, UsbRegistry.operation,
      RtUsbDriver.registry, requested_nil]
    by_cases valid : address.toNat < usbMaxDevices
    · rw [if_neg (Nat.not_le.mpr valid), if_pos valid, search, slot_of_index index]
      rfl
    · rw [if_pos (Nat.le_of_not_lt valid), if_neg valid]
      rfl
  | sendData address endpoint data length =>
    exact ⟨driver, congrArg Except.ok
      (usbTransfer_requests hw m .send driver address endpoint data length),
      (UsbRegistry.transfer_registry _ .send endpoint data length).symm, bounded⟩
  | receiveData address endpoint buffer length =>
    exact ⟨driver, congrArg Except.ok
      (usbTransfer_requests hw m .receive driver address endpoint buffer length),
      (UsbRegistry.transfer_registry _ .receive endpoint buffer length).symm, bounded⟩

/-- A packet of the driver is a request to the controller, if it has a destination. -/
theorem networkSendPacket_requests (driver : RtNetworkDriver)
    (destinationMac : Option (Vector RtU8 netMacAddrLen))
    (packet : Option (RtPtr × EthernetPacket)) (m : Machine σ) :
    driver.operated (networkSendPacket hw driver destinationMac packet m) =
        ((driver, m.requested (driver.registry.sendPacket destinationMac packet).requests),
          (driver.registry.sendPacket destinationMac packet).reply) ∧
      (driver.registry.sendPacket destinationMac packet).registry = driver.registry := by
  cases destinationMac with
  | none =>
    refine ⟨?_, rfl⟩
    show _ = ((driver, m.requested []), _)
    rw [requested_nil]
    rfl
  | some destinationMac =>
    cases packet with
    | none =>
      refine ⟨?_, rfl⟩
      show _ = ((driver, m.requested []), _)
      rw [requested_nil]
      rfl
    | some packet =>
      obtain ⟨address, packet⟩ := packet
      simp only [networkSendPacket, networkSendPacketVia, layerPorts, NetworkRegistry.sendPacket]
      by_cases valid : HasNonZero destinationMac
      · have mac := (networkIsValidAddress_iff destinationMac).mpr valid
        simp only [networkIsValidMac, mac, Bool.not_true, Bool.false_eq_true, if_false,
          if_pos valid, RtNetworkDriver.operated, ioOut8, ioOut32, Option.getD_some, and_true]
        rw [ioOut_refusedOut, ioOut_refusedOut, ioOut_refusedOut]
        · simp [Machine.requested, PeripheralRequest.accesses]
        all_goals decide
      · have mac : networkIsValidAddress (some destinationMac) = false := by
          rw [← Bool.not_eq_true, networkIsValidAddress_iff]
          exact valid
        simp only [networkIsValidMac, mac, Bool.not_false, if_true, if_neg valid,
          RtNetworkDriver.operated, requested_nil, Option.getD_some, and_self]

/-- A packet is received from the address 0, as the address register is not read. -/
theorem networkReceivePacket_requests (mem : NetworkMemory) (driver : RtNetworkDriver)
    (packet : EthernetPacket) (m : Machine σ) :
    networkReceivePacket hw mem driver (some packet) m =
      ⟨.success, some driver, some (networkPacketAt mem 0), m.requested [.networkReceive],
        if driver.onPacketReceived then [.packetReceived (networkPacketAt mem 0)] else []⟩ := by
  have length : ioIn hw 32 0xE004 m = _ := ioIn_refusedIn hw m 32 (by decide)
  simp only [networkReceivePacket, networkReceivePacketVia_eq, layerPorts, ioIn32, length]
  rw [ioIn_refusedIn hw _ 32 (by decide)]
  simp [Machine.requested, PeripheralRequest.accesses]

theorem networkSystemCall_registered {driver : RtNetworkDriver}
    (bounded : driver.numDevices.toNat ≤ netMaxDevices) (m : Machine σ)
    (operation : NetworkOperation) :
    ∃ driver', networkSystemCall hw driver m operation =
        .ok ((driver', m.requested (driver.registry.operation operation).requests),
          (driver.registry.operation operation).reply) ∧
      driver'.registry = (driver.registry.operation operation).registry ∧
      driver'.numDevices.toNat ≤ netMaxDevices := by
  have count : driver.attached.length = driver.numDevices.toNat :=
    SlotTable.used_length _ bounded
  cases operation with
  | init =>
    exact ⟨{ driver with base.state := .ready }, by rw [NetworkRegistry.operation, requested_nil]; rfl,
      rfl, bounded⟩
  | addDevice device =>
    cases device with
    | none => exact ⟨driver, by rw [NetworkRegistry.operation, requested_nil]; rfl, rfl, bounded⟩
    | some device =>
      by_cases taken : driver.attached.length < netMaxDevices ∧ Addressed device
      · have spec : driver.registry.operation (.addDevice (some device)) = _ := if_pos taken
        have room : driver.numDevices.toNat < netMaxDevices := count ▸ taken.1
        have next : (driver.numDevices + 1).toNat = driver.numDevices.toNat + 1 := by
          simp only [netMaxDevices] at room
          bv_omega
        have mac := (networkIsValidAddress_iff device.macAddress).mpr taken.2.1
        have ip := (networkIsValidAddress_iff device.ipAddress).mpr taken.2.2
        obtain ⟨slots, stored, content⟩ := SlotTable.store_append driver.devices device room
        rw [spec, requested_nil]
        simp only [networkSystemCall, networkAddDevice, Nat.not_le.mpr room, if_false,
          networkIsValidMac, networkIsValidIp, mac, ip, Bool.not_true, Bool.or_self,
          Bool.false_eq_true, stored]
        refine ⟨_, rfl, ?_, ?_⟩
        · simp only [Option.getD_some, RtNetworkDriver.registry, RtNetworkDriver.attached, next,
            content]
        · simp only [Option.getD_some, next]
          exact room
      · have spec : driver.registry.operation (.addDevice (some device)) =
            ⟨driver.registry, .network .invalidParameter none [], []⟩ := if_neg taken
        rw [spec, requested_nil]
        refine ⟨driver, ?_, rfl, bounded⟩
        rw [count] at taken
        simp only [networkSystemCall, networkAddDevice]
        by_cases full : netMaxDevices ≤ driver.numDevices.toNat
        · rw [if_pos full]
          rfl
        · have missing : (!networkIsValidMac device.macAddress ||
              !networkIsValidIp device.ipAddress) = true := by
            have either : ¬ Addressed device := fun addressed =>
              taken ⟨Nat.lt_of_not_le full, addressed⟩
            rw [Addressed, ← networkIsValidAddress_iff, ← networkIsValidAddress_iff] at either
            simpa [networkIsValidMac, networkIsValidIp, ← Bool.not_eq_true,
              imp_iff_not_or] using either
          rw [if_neg full, if_pos missing]
          rfl
  | findDevice macAddress =>
    refine ⟨driver, ?_, rfl, bounded⟩
    rw [NetworkRegistry.operation, requested_nil]
    cases macAddress with
    | none => rfl
    | some macAddress =>
      obtain ⟨found, search, index⟩ := SlotTable.search_eq_findIdx?
        (fun device : NetworkDevice => device.macAddress == macAddress) driver.devices
        driver.numDevices bounded
      rw [networkSystemCall, networkFindDevice, search, slot_of_index index]
      rfl
  | sendPacket destinationMac packet =>
    obtain ⟨sent, kept⟩ := networkSendPacket_requests hw driver destinationMac packet m
    exact ⟨driver, congrArg Except.ok sent, kept.symm, bounded⟩
  | receivePacket mem packet =>
    cases packet with
    | none => exact ⟨driver, by rw [NetworkRegistry.operation, requested_nil]; rfl, rfl, bounded⟩
    | some packet =>
      refine ⟨driver, ?_, rfl, bounded⟩
      rw [networkSystemCall, networkReceivePacket_requests]
      rfl

end Calls

/-! ## Every run -/

section Runs

variable {σ : Type} (hw : Hardware σ) (outputFull : Fin 8)

/-- The registries that a system shows, before it has asked anything. -/
def DriverSystem.peripherals (s : DriverSystem σ) : Peripherals :=
  ⟨s.usb.registry, s.network.registry, []⟩

/-- A call with what its device pointer shows in the state it is made in. -/
def DriverSystem.see (s : DriverSystem σ) (call : PeripheralCall) : PeripheralCallOn UsbShown :=
  call.map s.usb.shown

/-- The calls of a run with what their device pointers show. -/
def peripheralsSeen (s : DriverSystem σ) (calls : List PeripheralCall) :
    List (PeripheralCallOn UsbShown) :=
  Calls.gather (fun s call => systemCall hw outputFull s (PeripheralCall.systemCall call))
    (fun s call => [s.see call]) s calls

/-- The system has come from `start` to show the registries, and the requests are all that has
happened to the machine. -/
structure PeripheralsShow (start s : DriverSystem σ) (p : Peripherals) : Prop where
  usb : s.usb.registry = p.usb
  network : s.network.registry = p.network
  machine : s.machine = start.machine.requested p.requests
  mouse : s.mouse = start.mouse
  usbBounded : s.usb.numDevices.toNat ≤ usbMaxDevices
  networkBounded : s.network.numDevices.toNat ≤ netMaxDevices

theorem peripheralsShow_step {start s : DriverSystem σ} {p : Peripherals}
    (shows : PeripheralsShow start s p) (call : PeripheralCall) :
    ∃ s', systemCall hw outputFull s call.systemCall = .ok (s', (p.operation (s.see call)).2) ∧
      PeripheralsShow start s' (p.operation (s.see call)).1 := by
  cases call with
  | usb operation =>
    obtain ⟨driver', ran, registry, bounded⟩ :=
      usbSystemCall_registered hw shows.usbBounded s.machine operation
    rw [shows.usb] at ran registry
    refine ⟨{ s with
      usb := driver'
      machine := s.machine.requested (p.usb.operation (operation.map s.usb.shown)).requests },
      ?_, registry, shows.network, ?_, shows.mouse, bounded, shows.networkBounded⟩
    · rw [PeripheralCall.systemCall, systemCall, ran]
      rfl
    · show s.machine.requested _ = _
      rw [shows.machine, requested_append]
      rfl
  | network operation =>
    obtain ⟨driver', ran, registry, bounded⟩ :=
      networkSystemCall_registered hw shows.networkBounded s.machine operation
    rw [shows.network] at ran registry
    refine ⟨{ s with
      network := driver', machine := s.machine.requested (p.network.operation operation).requests },
      ?_, shows.usb, registry, ?_, shows.mouse, shows.usbBounded, bounded⟩
    · rw [PeripheralCall.systemCall, systemCall, ran]
      rfl
    · show s.machine.requested _ = _
      rw [shows.machine, requested_append]
      rfl

/-- A run of the two drivers goes as the registries do. -/
theorem peripherals_run {s : DriverSystem σ} (usb : s.usb.numDevices.toNat ≤ usbMaxDevices)
    (network : s.network.numDevices.toNat ≤ netMaxDevices) (calls : List PeripheralCall) :
    ∃ s', Calls.run (systemCall hw outputFull) s (calls.map PeripheralCall.systemCall) =
        .ok (s', (Calls.spec Peripherals.operation s.peripherals
          (peripheralsSeen hw outputFull s calls)).2) ∧
      PeripheralsShow s s' (Calls.spec Peripherals.operation s.peripherals
        (peripheralsSeen hw outputFull s calls)).1 := by
  have start : PeripheralsShow s s s.peripherals :=
    ⟨rfl, rfl, (requested_nil s.machine).symm, rfl, usb, network⟩
  rw [Calls.run_map]
  exact Calls.run_refines_seen DriverSystem.see (PeripheralsShow s)
    (fun _ _ call shows => peripheralsShow_step hw outputFull shows call) start calls

/-- Calls with objects of the caller's are to the registries what they are to the drivers. -/
theorem peripheralsSeen_objects {s s' : DriverSystem σ} {calls : List (PeripheralCallOn UsbDevice)}
    {replies : List SystemReply}
    (ran : Calls.run (systemCall hw outputFull) s
      ((calls.map (.map .object)).map PeripheralCall.systemCall) = .ok (s', replies)) :
    peripheralsSeen hw outputFull s (calls.map (.map .object)) =
      calls.map (.map .outside) := by
  rw [Calls.run_map] at ran
  refine Calls.gather_eq_map (fun s call => ?_) ran
  cases call with
  | network operation => rfl
  | usb operation =>
    cases operation with
    | attachDevice mem device =>
      cases device with
      | none => rfl
      | some device => rfl
    | init | detachDevice | findDevice | sendData | receiveData => rfl

/-- The two drivers refine their registries: a run of calls on both, in any order and with any
arguments, is answered as the registries answer it, down to the callbacks and the objects of the
caller, and leaves the drivers as the registries are left. A device that is attached may be a slot
of the table; then it is what that slot holds when the call is made, and the attached device of
that slot, if there is one, is given the descriptor as well. To the machine nothing happens but
that the requests of the run are on record, whatever device is behind the ports. -/
theorem peripherals_refine (s : DriverSystem σ) (usb : s.usb.numDevices.toNat ≤ usbMaxDevices)
    (network : s.network.numDevices.toNat ≤ netMaxDevices) (calls : List PeripheralCall) :
    ∃ s', Calls.run (systemCall hw outputFull) s (calls.map PeripheralCall.systemCall) =
        .ok (s', (Calls.spec Peripherals.operation s.peripherals
          (peripheralsSeen hw outputFull s calls)).2) ∧
      s'.usb.registry = (Calls.spec Peripherals.operation s.peripherals
        (peripheralsSeen hw outputFull s calls)).1.usb ∧
      s'.network.registry = (Calls.spec Peripherals.operation s.peripherals
        (peripheralsSeen hw outputFull s calls)).1.network ∧
      s'.machine = s.machine.requested (Calls.spec Peripherals.operation s.peripherals
        (peripheralsSeen hw outputFull s calls)).1.requests ∧
      s'.mouse = s.mouse := by
  obtain ⟨s', ran, shows⟩ := peripherals_run hw outputFull usb network calls
  exact ⟨s', ran, shows.usb, shows.network, shows.machine, shows.mouse⟩

/-- A disk is attached and written to, and a packet is sent in between. -/
def samplePeripheralCalls : List (PeripheralCallOn UsbDevice) :=
  [.usb .init, .usb (.attachDevice (fun _ => 0) (some default)),
    .network (.sendPacket (some (.replicate netMacAddrLen 2)) (some (0x7F0000005000, default))),
    .usb (.sendData 0 2 (some 0x7F0000006000) 512)]

/-- All of it succeeds. -/
theorem peripherals_refine_sample : ∃ s' replies,
    Calls.run (systemCall (mouseHardware sampleSurroundings 0) 0) sampleDrivers
        ((samplePeripheralCalls.map (.map .object)).map PeripheralCall.systemCall) =
          .ok (s', replies) ∧
      s'.usb.registry.state = .ready ∧ s'.usb.registry.devices.length = 1 ∧
      s'.mouse = sampleDrivers.mouse := by
  obtain ⟨s', ran, usb, -, -, mouse⟩ := peripherals_refine (mouseHardware sampleSurroundings 0) 0
    sampleDrivers (by decide) (by decide) (samplePeripheralCalls.map (.map .object))
  rw [peripheralsSeen_objects _ _ ran] at usb
  refine ⟨s', _, ran, ?_, ?_, mouse⟩
  · rw [usb]
    rfl
  · rw [usb]
    rfl

/-- What was asked can be told from the record: after a run of calls on both drivers in any
order, although they share registers, the part of the log that the run has added reads as the
requests that the registries have made, in their order, and as nothing else. -/
theorem peripherals_readBack (s : DriverSystem σ) (usb : s.usb.numDevices.toNat ≤ usbMaxDevices)
    (network : s.network.numDevices.toNat ≤ netMaxDevices) (calls : List PeripheralCall) :
    ∃ s' replies, Calls.run (systemCall hw outputFull) s (calls.map PeripheralCall.systemCall) =
        .ok (s', replies) ∧
      readRequests (s'.machine.log.drop s.machine.log.length) =
        some (Calls.spec Peripherals.operation s.peripherals
          (peripheralsSeen hw outputFull s calls)).1.requests := by
  obtain ⟨s', ran, shows⟩ := peripherals_run hw outputFull usb network calls
  refine ⟨s', _, ran, ?_⟩
  rw [readRequests_iff, shows.machine, Machine.requested]
  exact List.drop_left

/-- The controllers were asked to reset, for a descriptor, to send and to write; of the pointers
the low halves are told, of the address of the device nothing. -/
theorem peripherals_readBack_sample : ∃ s' replies,
    Calls.run (systemCall (mouseHardware sampleSurroundings 0) 0) sampleDrivers
        ((samplePeripheralCalls.map (.map .object)).map PeripheralCall.systemCall) =
          .ok (s', replies) ∧
      readRequests (s'.machine.log.drop sampleDrivers.machine.log.length) =
        some [.usbReset, .usbDescriptor, .networkSend 0x5000 0,
          .usbTransfer .send 2 512 0x6000] := by
  obtain ⟨s', replies, ran, readBack⟩ := peripherals_readBack (mouseHardware sampleSurroundings 0) 0
    sampleDrivers (by decide) (by decide) (samplePeripheralCalls.map (.map .object))
  rw [peripheralsSeen_objects _ _ ran] at readBack
  exact ⟨s', replies, ran, readBack⟩

end Runs

end LamaOS
