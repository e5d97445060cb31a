import LamaOS.Drivers.Common.IoPort
import LamaOS.Misc.ByteMemory
import LamaOS.Misc.SlotTable

/-!
# Network driver

The functions of `drivers/network/network_driver.c`, over the port layer. Packets and
devices handed to the driver are objects of the caller that lie outside the driver; a packet
comes with its address, which is what the controller is told. The memory that a received
packet is copied from is an argument of the call. The callbacks are listeners: what they are
called with is returned, in call order.
-/

namespace LamaOS

/-- `NET_MAX_PACKET_SIZE`. -/
abbrev netMaxPacketSize : Nat := 1514

/-- `NET_MAX_DEVICES`. -/
abbrev netMaxDevices : Nat := 8

/-- `NET_IP_ADDR_LEN`. -/
abbrev netIpAddrLen : Nat := 4

/-- `NET_MAC_ADDR_LEN`. -/
abbrev netMacAddrLen : Nat := 6

/-- `NetworkProtocol`. -/
inductive NetworkProtocol where
  | ethernet
  | ip
  | arp
  | tcp
  | udp
  deriving DecidableEq, Repr, Inhabited

/-- `EthernetPacket`. -/
structure EthernetPacket where
  destinationMac : Vector RtU8 netMacAddrLen
  sourceMac : Vector RtU8 netMacAddrLen
  etherType : RtU16
  payload : Vector RtU8 netMaxPacketSize
  payloadLength : RtU16
  deriving DecidableEq, Repr, Inhabited

/-- `NetworkDevice`. -/
structure NetworkDevice where
  macAddress : Vector RtU8 netMacAddrLen
  ipAddress : Vector RtU8 netIpAddrLen
  supportedProtocols : Vector NetworkProtocol 16
  numProtocols : RtU8
  isActive : Bool
  deriving DecidableEq, Repr, Inhabited

/-- `RT_NetworkDriver`; the last two fields tell whether the callback pointers are set. -/
structure RtNetworkDriver where
  base : RtDriver
  devices : Vector NetworkDevice netMaxDevices
  numDevices : RtU8
  onPacketReceived : Bool
  onDeviceConnected : Bool
  deriving DecidableEq, Repr, Inhabited

/-- A call of one of the two callbacks. -/
inductive NetworkCallback where
  | packetReceived (packet : EthernetPacket)
  | deviceConnected (device : NetworkDevice)
  deriving DecidableEq, Repr

/-- What an operation returns and leaves behind; `packet` is the caller's packet, if the
operation was given one. -/
structure NetworkResult (σ : Type) where
  code : RtErrorCode
  driver : Option RtNetworkDriver
  packet : Option EthernetPacket
  machine : Machine σ
  callbacks : List NetworkCallback

abbrev NetworkMemory := Memory 64

/-- The test shared by `Network_IsValidMAC` and `Network_IsValidIP`: some byte is not zero. -/
def networkIsValidAddress {n : Nat} (address : Option (Vector RtU8 n)) : Bool :=
  address.elim false fun bytes => bytes.any (· ≠ 0)

/-- `Network_IsValidMAC`. -/
def networkIsValidMac (mac : Option (Vector RtU8 netMacAddrLen)) : Bool :=
  networkIsValidAddress mac

/-- `Network_IsValidIP`. -/
def networkIsValidIp (ip : Option (Vector RtU8 netIpAddrLen)) : Bool := networkIsValidAddress ip

/-- The `n` bytes at `addr`. -/
def networkBytesAt (mem : NetworkMemory) (addr : RtPtr) (n : Nat) : Vector RtU8 n :=
  Vector.ofFn fun i => mem (addr + BitVec.ofNat 64 i)

/-- The `EthernetPacket` stored at `addr`. -/
def networkPacketAt (mem : NetworkMemory) (addr : RtPtr) : EthernetPacket where
  destinationMac := networkBytesAt mem addr netMacAddrLen
  sourceMac := networkBytesAt mem (addr + 6) netMacAddrLen
  etherType := mem.read16 (addr + 12)
  payload := networkBytesAt mem (addr + 14) netMaxPacketSize
  payloadLength := mem.read16 (addr + 1528)

/-- The accesses that the driver makes to its controller. -/
structure NetworkPorts (σ : Type) where
  in32 : RtIoPort → Machine σ → RtU32 × Machine σ
  out8 : RtIoPort → RtU8 → Machine σ → Machine σ
  out32 : RtIoPort → RtU32 → Machine σ → Machine σ

/-- The ports as the port layer gives them. -/
def layerPorts (hw : Hardware σ) : NetworkPorts σ := ⟨ioIn32 hw, ioOut8 hw, ioOut32 hw⟩

section Operations

variable {σ : Type} (hw : Hardware σ)

/-- `Network_Init`. -/
def networkInit (driver : Option RtNetworkDriver) (m : Machine σ) : NetworkResult σ :=
  match driver with
  | none => ⟨.invalidParameter, none, none, m, []⟩
  | some driver => ⟨.success, some { driver with base.state := .ready }, none, m, []⟩

/-- `Network_AddDevice`. -/
def networkAddDevice (driver : Option RtNetworkDriver) (device : Option NetworkDevice)
    (m : Machine σ) : Except MemoryFault (NetworkResult σ) :=
  match driver, device with
  | some driver, some device =>
    if netMaxDevices ≤ driver.numDevices.toNat then
      .ok ⟨.invalidParameter, some driver, none, m, []⟩
    else if !networkIsValidMac device.macAddress || !networkIsValidIp device.ipAddress then
      .ok ⟨.invalidParameter, some driver, none, m, []⟩
    else
      (SlotTable.store driver.devices driver.numDevices.toNat device).map fun devices =>
        ⟨.success, some { driver with devices, numDevices := driver.numDevices + 1 }, none, m,
          if driver.onDeviceConnected then [.deviceConnected device] else []⟩
  | driver, _ => .ok ⟨.invalidParameter, driver, none, m, []⟩

/-- `Network_FindDevice`, as the index of the slot the returned pointer shows. -/
def networkFindDevice (driver : Option RtNetworkDriver)
    (macAddress : Option (Vector RtU8 netMacAddrLen)) : Except MemoryFault (Option RtU8) :=
  match driver, macAddress with
  | some driver, some macAddress =>
    SlotTable.search (fun device => device.macAddress == macAddress) driver.devices
      driver.numDevices 0
  | _, _ => .ok none

/-- `Network_SendPacket` over any ports, for a packet and its address. -/
def networkSendPacketVia (ports : NetworkPorts σ) (driver : Option RtNetworkDriver)
    (destinationMac : Option (Vector RtU8 netMacAddrLen))
    (packet : Option (RtPtr × EthernetPacket)) (m : Machine σ) : NetworkResult σ :=
  match driver, destinationMac, packet with
  | some driver, some destinationMac, some (address, packet) =>
    if !networkIsValidMac destinationMac then
      ⟨.invalidParameter, some driver, some packet, m, []⟩
    else
      let packet := { packet with destinationMac }
      let m := ports.out32 0xE000 (address.setWidth 32) m
      let m := ports.out32 0xE004 (packet.payloadLength.setWidth 32) m
      let m := ports.out8 0xE008 0x01 m
      ⟨.success, some driver, some packet, m, []⟩
  | driver, _, packet => ⟨.invalidParameter, driver, packet.map Prod.snd, m, []⟩

/-- `Network_SendPacket`. -/
def networkSendPacket (driver : Option RtNetworkDriver)
    (destinationMac : Option (Vector RtU8 netMacAddrLen))
    (packet : Option (RtPtr × EthernetPacket)) (m : Machine σ) : NetworkResult σ :=
  networkSendPacketVia (layerPorts hw) driver destinationMac packet m

/-- `Network_ReceivePacket` over any ports. -/
def networkReceivePacketVia (ports : NetworkPorts σ) (mem : NetworkMemory)
    (driver : Option RtNetworkDriver) (packet : Option EthernetPacket) (m : Machine σ) :
    NetworkResult σ :=
  match driver, packet with
  | some driver, some packet =>
    let length := ports.in32 0xE004 m
    let packet := { packet with payloadLength := length.1.setWidth 16 }
    let address := ports.in32 0xE000 length.2
    -- the copy covers every field, the length just stored included
    let packet := { packet with
      destinationMac := networkBytesAt mem (address.1.setWidth 64) netMacAddrLen
      sourceMac := networkBytesAt mem (address.1.setWidth 64 + 6) netMacAddrLen
      etherType := mem.read16 (address.1.setWidth 64 + 12)
      payload := networkBytesAt mem (address.1.setWidth 64 + 14) netMaxPacketSize
      payloadLength := mem.read16 (address.1.setWidth 64 + 1528) }
    ⟨.success, some driver, some packet, address.2,
      if driver.onPacketReceived then [.packetReceived packet] else []⟩
  | driver, packet => ⟨.invalidParameter, driver, packet, m, []⟩

/-- `Network_ReceivePacket`. -/
def networkReceivePacket (mem : NetworkMemory) (driver : Option RtNetworkDriver)
    (packet : Option EthernetPacket) (m : Machine σ) : NetworkResult σ :=
  networkReceivePacketVia (layerPorts hw) mem driver packet m

/-- What is received is the packet in memory, with the length that stands there. -/
theorem networkReceivePacketVia_eq (ports : NetworkPorts σ) (mem : NetworkMemory)
    (driver : RtNetworkDriver) (packet : EthernetPacket) (m : Machine σ) :
    networkReceivePacketVia ports mem (some driver) (some packet) m =
      let address := ports.in32 0xE000 (ports.in32 0xE004 m).2
      let received := networkPacketAt mem (address.1.setWidth 64)
      ⟨.success, some driver, some received, address.2,
        if driver.onPacketReceived then [.packetReceived received] else []⟩ :=
  rfl

end Operations

end LamaOS
