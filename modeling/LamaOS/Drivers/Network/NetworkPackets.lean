import LamaOS.Drivers.Network.NetworkDriver

/-!
# Packet lengths

The length of a packet crosses a 32-bit register, a 16-bit field and, on the way in, a copy of
the whole structure that covers the field. The driver compares it with `NET_MAX_PACKET_SIZE`
nowhere. The port layer keeps all of this from the device, since the registers lie beyond
`MAX_IO_PORTS`; to say what the driver does with the lengths, its functions are taken over open
ports, where every access reaches the device.
-/

namespace LamaOS

variable {σ : Type}

/-- Ports whose accesses all reach the device. -/
def openPorts (hw : Hardware σ) : NetworkPorts σ where
  in32 port m :=
    let (value, device) := hw.input 32 port m.device
    (value, { m with device, log := m.log ++ [⟨.input, 32, port, value.toNat, true⟩] })
  out8 port value m :=
    { m with
      device := hw.output 8 port value m.device
      log := m.log ++ [⟨.output, 8, port, value.toNat, true⟩] }
  out32 port value m :=
    { m with
      device := hw.output 32 port value m.device
      log := m.log ++ [⟨.output, 32, port, value.toNat, true⟩] }

/-! ## What is handed over -/

/-- The values of the accesses at a port, in one direction, that a call adds to the log. -/
def accessedAt (direction : IoDirection) (port : RtIoPort) (m m' : Machine σ) : List Nat :=
  ((m'.log.drop m.log.length).filter fun access =>
    access.performed && access.direction == direction && access.port == port).map IoAccess.value

/-- If `Network_SendPacket` succeeds, then it hands the device one length, which a payload can
have. -/
def SendHonest (hw : Hardware σ) (driver : Option RtNetworkDriver)
    (destinationMac : Option (Vector RtU8 netMacAddrLen))
    (packet : Option (RtPtr × EthernetPacket)) (m : Machine σ) : Prop :=
  (networkSendPacketVia (openPorts hw) driver destinationMac packet m).code = .success →
    ∃ length, accessedAt .output 0xE004 m
        (networkSendPacketVia (openPorts hw) driver destinationMac packet m).machine = [length] ∧
      length ≤ netMaxPacketSize

/-- If `Network_ReceivePacket` succeeds, then the device reports one length, which a payload can
have, and it is the length in the packet that the caller and the callback get. -/
def ReceiveHonest (hw : Hardware σ) (mem : NetworkMemory) (driver : Option RtNetworkDriver)
    (packet : Option EthernetPacket) (m : Machine σ) : Prop :=
  (networkReceivePacketVia (openPorts hw) mem driver packet m).code = .success →
    ∃ reported received, accessedAt .input 0xE004 m
        (networkReceivePacketVia (openPorts hw) mem driver packet m).machine = [reported] ∧
      (networkReceivePacketVia (openPorts hw) mem driver packet m).packet = some received ∧
      (∀ callback ∈ (networkReceivePacketVia (openPorts hw) mem driver packet m).callbacks,
        callback = .packetReceived received) ∧
      received.payloadLength.toNat = reported ∧ reported ≤ netMaxPacketSize

/-- The arguments are refused, or the packet gives its payload a length that it can have. -/
def SendFits (driver : Option RtNetworkDriver)
    (destinationMac : Option (Vector RtU8 netMacAddrLen))
    (packet : Option (RtPtr × EthernetPacket)) : Prop :=
  driver.isSome = true → networkIsValidMac destinationMac = true →
    ∀ entry, packet = some entry → entry.2.payloadLength.toNat ≤ netMaxPacketSize

/-- The length the device reports to a call that is made now. -/
def reportedLength (hw : Hardware σ) (m : Machine σ) : RtU32 := (hw.input 32 0xE004 m.device).1

/-- The packet's address that the device gives after it has reported the length. -/
def reportedAddress (hw : Hardware σ) (m : Machine σ) : RtPtr :=
  (hw.input 32 0xE000 (hw.input 32 0xE004 m.device).2).1.setWidth 64

/-- The arguments are refused, or the packet in memory has, where its length is, the length the
device reports, and a payload can have it. -/
def ReceiveFits (hw : Hardware σ) (mem : NetworkMemory) (driver : Option RtNetworkDriver)
    (packet : Option EthernetPacket) (m : Machine σ) : Prop :=
  driver.isSome = true → packet.isSome = true →
    (mem.read16 (reportedAddress hw m + 1528)).toNat = (reportedLength hw m).toNat ∧
      (reportedLength hw m).toNat ≤ netMaxPacketSize

section Honest

variable (hw : Hardware σ)

/-- `Network_SendPacket` is refused without a driver, a MAC address that is not zero and a
packet. -/
theorem networkSendPacketVia_refused (ports : NetworkPorts σ) {driver : Option RtNetworkDriver}
    {destinationMac : Option (Vector RtU8 netMacAddrLen)}
    {packet : Option (RtPtr × EthernetPacket)} {m : Machine σ}
    (refused : driver = none ∨ networkIsValidMac destinationMac = false ∨ packet = none) :
    (networkSendPacketVia ports driver destinationMac packet m).code ≠ .success := by
  cases driver with
  | none => nofun
  | some driver =>
    cases destinationMac with
    | none => nofun
    | some destinationMac =>
      cases packet with
      | none => nofun
      | some packet =>
        have invalid : networkIsValidMac (some destinationMac) = false := by
          simpa using refused
        rw [networkSendPacketVia, invalid]
        nofun

/-- Otherwise it hands over the length in the packet, whatever it is. -/
theorem networkSendPacketVia_open (driver : RtNetworkDriver)
    {destinationMac : Vector RtU8 netMacAddrLen} (entry : RtPtr × EthernetPacket) (m : Machine σ)
    (valid : networkIsValidMac (some destinationMac) = true) :
    (networkSendPacketVia (openPorts hw) (some driver) (some destinationMac) (some entry) m).code =
        .success ∧
      accessedAt .output 0xE004 m (networkSendPacketVia (openPorts hw) (some driver)
        (some destinationMac) (some entry) m).machine = [entry.2.payloadLength.toNat] := by
  have bound : entry.2.payloadLength.toNat < 2 ^ 32 :=
    Nat.lt_trans entry.2.payloadLength.isLt (by decide)
  simp only [networkSendPacketVia, valid, Bool.not_true, Bool.false_eq_true, if_false, accessedAt,
    openPorts, List.append_assoc, List.drop_left]
  refine ⟨trivial, ?_⟩
  simpa using bound

theorem sendHonest_iff (driver : Option RtNetworkDriver)
    (destinationMac : Option (Vector RtU8 netMacAddrLen))
    (packet : Option (RtPtr × EthernetPacket)) (m : Machine σ) :
    SendHonest hw driver destinationMac packet m ↔ SendFits driver destinationMac packet := by
  by_cases refused : driver = none ∨ networkIsValidMac destinationMac = false ∨ packet = none
  · constructor
    · rintro - isDriver valid entry isPacket
      rcases refused with none | invalid | none
      · rw [none] at isDriver; cases isDriver
      · rw [invalid] at valid; cases valid
      · rw [none] at isPacket; cases isPacket
    · intro _ success
      exact absurd success (networkSendPacketVia_refused _ refused)
  · obtain ⟨someDriver, valid, somePacket⟩ : driver ≠ none ∧
        networkIsValidMac destinationMac = true ∧ packet ≠ none := by
      simpa only [not_or, Bool.not_eq_false] using refused
    obtain ⟨driver, rfl⟩ := Option.ne_none_iff_exists'.mp someDriver
    obtain ⟨entry, rfl⟩ := Option.ne_none_iff_exists'.mp somePacket
    cases destinationMac with
    | none => cases valid
    | some destinationMac =>
      obtain ⟨success, handed⟩ := networkSendPacketVia_open hw driver entry m valid
      rw [SendHonest, handed]
      constructor
      · rintro honest - - other isOther
        obtain rfl := Option.some.inj isOther
        obtain ⟨length, same, fits⟩ := honest success
        rw [List.head_eq_of_cons_eq same]
        exact fits
      · intro fits _
        exact ⟨_, rfl, fits rfl valid entry rfl⟩

/-- `Network_ReceivePacket` reads one length, and hands out the packet in memory with the length
that stands there. -/
theorem networkReceivePacketVia_open (mem : NetworkMemory) (driver : RtNetworkDriver)
    (packet : EthernetPacket) (m : Machine σ) :
    ∃ received, received.payloadLength = mem.read16 (reportedAddress hw m + 1528) ∧
      (networkReceivePacketVia (openPorts hw) mem (some driver) (some packet) m).code = .success ∧
      (networkReceivePacketVia (openPorts hw) mem (some driver) (some packet) m).packet =
        some received ∧
      (networkReceivePacketVia (openPorts hw) mem (some driver) (some packet) m).callbacks =
        (if driver.onPacketReceived then [.packetReceived received] else []) ∧
      accessedAt .input 0xE004 m (networkReceivePacketVia (openPorts hw) mem (some driver)
        (some packet) m).machine = [(reportedLength hw m).toNat] := by
  refine ⟨networkPacketAt mem (reportedAddress hw m), rfl, rfl, rfl, rfl, ?_⟩
  simp only [networkReceivePacketVia, accessedAt, openPorts, List.append_assoc, List.drop_left]
  simp [reportedLength]

theorem receiveHonest_iff (mem : NetworkMemory) (driver : Option RtNetworkDriver)
    (packet : Option EthernetPacket) (m : Machine σ) :
    ReceiveHonest hw mem driver packet m ↔ ReceiveFits hw mem driver packet m := by
  cases driver with
  | none => exact ⟨fun _ => nofun, fun _ => nofun⟩
  | some driver =>
    cases packet with
    | none => exact ⟨fun _ _ => nofun, fun _ => nofun⟩
    | some packet =>
      obtain ⟨received, length, success, handed, callbacks, accessed⟩ :=
        networkReceivePacketVia_open hw mem driver packet m
      rw [ReceiveHonest, ReceiveFits, accessed, handed, callbacks, ← length]
      constructor
      · rintro honest - -
        obtain ⟨reported, received', same, handed', -, equal, fits⟩ := honest success
        obtain rfl := Option.some.inj handed'
        rw [List.head_eq_of_cons_eq same]
        exact ⟨equal, fits⟩
      · intro fits _
        obtain ⟨equal, small⟩ := fits rfl rfl
        refine ⟨_, received, rfl, rfl, fun callback mem => ?_, equal, small⟩
        split at mem
        · exact List.mem_singleton.mp mem
        · cases mem

/-- Packet lengths are honest exactly as far as the caller and the device are: what is sent has
the length in the packet, and what is received has the length in memory, which overwrites the
one that the device reported. -/
theorem packetLengths_honest_iff (m : Machine σ) :
    (∀ driver destinationMac packet, SendHonest hw driver destinationMac packet m ↔
        SendFits driver destinationMac packet) ∧
      ∀ mem driver packet, ReceiveHonest hw mem driver packet m ↔
        ReceiveFits hw mem driver packet m :=
  ⟨fun driver destinationMac packet => sendHonest_iff hw driver destinationMac packet m,
    fun mem driver packet => receiveHonest_iff hw mem driver packet m⟩

end Honest

/-- Hardware that reports a packet of 100 bytes at address `0x1000`. -/
def packetHardware : Hardware Unit where
  input _ port s := (if port = 0xE004 then 100 else if port = 0xE000 then 0x1000 else 0, s)
  output _ _ _ s := s

/-- A packet with a length of 2000 bytes is sent as it is, and a packet of 100 bytes is received
with the length that stands behind its payload in memory, which is 0. -/
theorem packetLengths_dishonest :
    ¬ SendHonest packetHardware (some default) (some #v[2, 0, 0, 0, 0, 1])
        (some (0x2000, { (default : EthernetPacket) with payloadLength := 2000 }))
        ⟨ioTablesInit, (), []⟩ ∧
      ¬ ReceiveHonest packetHardware (fun _ => 0) (some default) (some default)
        ⟨ioTablesInit, (), []⟩ := by
  rw [sendHonest_iff, receiveHonest_iff]
  constructor
  · intro fits
    exact absurd (fits rfl (by simp [networkIsValidMac, networkIsValidAddress]) _ rfl) (by decide)
  · intro fits
    exact absurd (fits rfl rfl).1 (by decide)

end LamaOS
