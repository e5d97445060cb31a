import LamaOS.Drivers.Network.NetworkDriver
import LamaOS.Drivers.Usb.UsbDriver

/-!
# What `RT_SUCCESS` says about the hardware

The USB and the network driver reach their controllers through the ports `0xCF8`, `0xCFC`
and `0xE000` to `0xE008`. All of these lie above `MAX_IO_PORTS`, so the port layer drops
every write and answers every read with 0, and the drivers, which have no way to notice,
return `RT_SUCCESS` all the same.
-/

namespace LamaOS

variable {σ : Type}

/-! ## Accesses to ports out of range -/

/-- A port from `MAX_IO_PORTS` on is out of reach, whatever the locks. -/
theorem ioReaches_of_outOfRange (tables : IoTables) {port : RtIoPort}
    (h : maxIoPorts ≤ port.toNat) : ioReaches tables port = false := by
  simp [ioReaches, ioIsValidPort, Nat.not_lt.mpr h]

/-- Between the two machines there were port accesses, and none of them was performed. -/
def AllRefused (before after : Machine σ) : Prop :=
  ∃ issued, issued ≠ [] ∧ after.log = before.log ++ issued ∧
    ∀ access ∈ issued, access.performed = false

theorem AllRefused.trans {m m' m'' : Machine σ} (h : AllRefused m m') (h' : AllRefused m' m'') :
    AllRefused m m'' := by
  obtain ⟨issued, some, log, refused⟩ := h
  obtain ⟨issued', _, log', refused'⟩ := h'
  refine ⟨issued ++ issued', by simp [some], by rw [log', log, List.append_assoc], ?_⟩
  rw [List.forall_mem_append]
  exact ⟨refused, refused'⟩

theorem allRefused_ioOut (hw : Hardware σ) (width : Nat) {port : RtIoPort}
    (value : BitVec width) (m : Machine σ) (h : maxIoPorts ≤ port.toNat) :
    AllRefused m (ioOut hw width port value m) := by
  rw [ioOut_of_refused hw width port value m (ioReaches_of_outOfRange m.tables h)]
  exact ⟨_, List.cons_ne_nil _ _, rfl, by simp⟩

theorem allRefused_ioIn (hw : Hardware σ) (width : Nat) {port : RtIoPort} (m : Machine σ)
    (h : maxIoPorts ≤ port.toNat) : AllRefused m (ioIn hw width port m).2 := by
  rw [ioIn_of_refused hw width port m (ioReaches_of_outOfRange m.tables h)]
  exact ⟨_, List.cons_ne_nil _ _, rfl, by simp⟩

/-- Every port access made between the two machines was performed. -/
def HardwareDriven (before after : Machine σ) : Prop :=
  ∀ access ∈ after.log.drop before.log.length, access.performed = true

theorem AllRefused.not_hardwareDriven {m m' : Machine σ} (h : AllRefused m m') :
    ¬ HardwareDriven m m' := by
  obtain ⟨issued, some, log, refused⟩ := h
  intro driven
  obtain ⟨access, mem⟩ := List.exists_mem_of_ne_nil issued some
  have performed := driven access (by simpa [log] using mem)
  rw [refused access mem] at performed
  cases performed

/-! ## The six operations -/

/-- A call of one of the six operations, with its arguments. -/
inductive ControllerCall where
  | usbInit (driver : Option RtUsbDriver)
  | usbAttachDevice (mem : UsbMemory) (driver : Option RtUsbDriver)
      (device : Option UsbDevicePtr)
  | usbSendData (driver : Option RtUsbDriver) (address endpoint : RtU8) (data : Option RtPtr)
      (length : RtU32)
  | usbReceiveData (driver : Option RtUsbDriver) (address endpoint : RtU8)
      (buffer : Option RtPtr) (length : RtU32)
  | networkSendPacket (driver : Option RtNetworkDriver)
      (destinationMac : Option (Vector RtU8 netMacAddrLen))
      (packet : Option (RtPtr × EthernetPacket))
  | networkReceivePacket (mem : NetworkMemory) (driver : Option RtNetworkDriver)
      (packet : Option EthernetPacket)

namespace ControllerCall

/-- The call on a machine: its return code and the machine it leaves. -/
def perform (hw : Hardware σ) (m : Machine σ) :
    ControllerCall → Except MemoryFault (RtErrorCode × Machine σ)
  | .usbInit driver =>
    let r := LamaOS.usbInit hw driver m
    .ok (r.code, r.machine)
  | .usbAttachDevice mem driver device =>
    (LamaOS.usbAttachDevice hw mem driver device m).map fun r => (r.1.code, r.1.machine)
  | .usbSendData driver address endpoint data length =>
    let r := LamaOS.usbSendData hw driver address endpoint data length m
    .ok (r.code, r.machine)
  | .usbReceiveData driver address endpoint buffer length =>
    let r := LamaOS.usbReceiveData hw driver address endpoint buffer length m
    .ok (r.code, r.machine)
  | .networkSendPacket driver destinationMac packet =>
    let r := LamaOS.networkSendPacket hw driver destinationMac packet m
    .ok (r.code, r.machine)
  | .networkReceivePacket mem driver packet =>
    let r := LamaOS.networkReceivePacket hw mem driver packet m
    .ok (r.code, r.machine)

/-- The arguments that an operation refuses before it does anything: a null pointer, a full
device table, an empty transfer, a destination address of zeros. -/
def rejected : ControllerCall → Bool
  | .usbInit driver => driver.isNone
  | .usbAttachDevice _ driver device =>
    device.isNone || driver.all fun driver => usbMaxDevices ≤ driver.numDevices.toNat
  | .usbSendData driver _ _ data length => driver.isNone || data.isNone || length == 0
  | .usbReceiveData driver _ _ buffer length => driver.isNone || buffer.isNone || length == 0
  | .networkSendPacket driver destinationMac packet =>
    driver.isNone || packet.isNone || !networkIsValidMac destinationMac
  | .networkReceivePacket _ driver packet => driver.isNone || packet.isNone

end ControllerCall

/-- A transfer that is not rejected succeeds without reaching the controller. -/
theorem usbTransfer_refused (hw : Hardware σ) (command : RtU16) (driver : RtUsbDriver)
    (address endpoint : RtU8) (buffer : RtPtr) (length : RtU32) (m : Machine σ)
    (h : length ≠ 0) :
    (usbTransfer hw command driver address endpoint buffer length m).code = .success ∧
      AllRefused m (usbTransfer hw command driver address endpoint buffer length m).machine := by
  simp only [usbTransfer, if_neg h, true_and]
  exact (((allRefused_ioOut hw 8 _ _ (by decide)).trans
    (allRefused_ioOut hw 16 _ _ (by decide))).trans
    (allRefused_ioOut hw 32 _ _ (by decide))).trans (allRefused_ioOut hw 32 _ _ (by decide))

/-- The arguments of a transfer that is not rejected. -/
theorem transfer_accepted {driver : Option RtUsbDriver} {buffer : Option RtPtr} {length : RtU32}
    (h : (driver.isNone || buffer.isNone || length == 0) = false) :
    ∃ driver' buffer', driver = some driver' ∧ buffer = some buffer' ∧ length ≠ 0 := by
  cases driver with
  | none => cases h
  | some driver =>
    cases buffer with
    | none => cases h
    | some buffer => exact ⟨driver, buffer, rfl, rfl, by simpa using h⟩

/-- A call that is not rejected succeeds without reaching the controller. -/
theorem perform_refused (hw : Hardware σ) (call : ControllerCall) (m : Machine σ)
    (h : call.rejected = false) :
    ∃ after, call.perform hw m = .ok (.success, after) ∧ AllRefused m after := by
  cases call with
  | usbInit driver =>
    cases driver with
    | none => cases h
    | some driver =>
      exact ⟨_, rfl, (allRefused_ioOut hw 16 _ _ (by decide)).trans
        (allRefused_ioOut hw 16 _ _ (by decide))⟩
  | usbAttachDevice mem driver device =>
    cases driver with
    | none => simp [ControllerCall.rejected] at h
    | some driver =>
      cases device with
      | none => cases h
      | some device =>
        have room : driver.numDevices.toNat < usbMaxDevices := by
          simpa [ControllerCall.rejected] using h
        refine ⟨_, by rw [ControllerCall.perform, usbAttachDevice,
          usbAttachDeviceWith_room hw _ mem room]; rfl, ?_⟩
        exact (allRefused_ioOut hw 8 _ _ (by decide)).trans (allRefused_ioOut hw 16 _ _ (by decide))
  | usbSendData driver address endpoint data length =>
    obtain ⟨driver, data, rfl, rfl, nonzero⟩ := transfer_accepted h
    obtain ⟨success, refused⟩ :=
      usbTransfer_refused hw 0x0001 driver address endpoint data length m nonzero
    exact ⟨_, by rw [← success]; rfl, refused⟩
  | usbReceiveData driver address endpoint buffer length =>
    obtain ⟨driver, buffer, rfl, rfl, nonzero⟩ := transfer_accepted h
    obtain ⟨success, refused⟩ :=
      usbTransfer_refused hw 0x0002 driver address endpoint buffer length m nonzero
    exact ⟨_, by rw [← success]; rfl, refused⟩
  | networkSendPacket driver destinationMac packet =>
    cases driver with
    | none => cases h
    | some driver =>
      cases packet with
      | none => cases h
      | some packet =>
        cases destinationMac with
        | none => cases h
        | some destinationMac =>
          have valid : networkIsValidMac (some destinationMac) = true := by
            simpa [ControllerCall.rejected] using h
          refine ⟨ioOut8 hw 0xE008 0x01 (ioOut32 hw 0xE004 (packet.2.payloadLength.setWidth 32)
            (ioOut32 hw 0xE000 (packet.1.setWidth 32) m)), ?_, ?_⟩
          · simp only [ControllerCall.perform, networkSendPacket, networkSendPacketVia, layerPorts,
              valid, Bool.not_true,
              Bool.false_eq_true, if_false]
          · exact ((allRefused_ioOut hw 32 _ _ (by decide)).trans
              (allRefused_ioOut hw 32 _ _ (by decide))).trans
              (allRefused_ioOut hw 8 _ _ (by decide))
  | networkReceivePacket mem driver packet =>
    cases driver with
    | none => cases h
    | some driver =>
      cases packet with
      | none => cases h
      | some packet =>
        exact ⟨_, rfl, (allRefused_ioIn hw 32 _ (by decide)).trans
          (allRefused_ioIn hw 32 _ (by decide))⟩

theorem usbTransfer_rejected (hw : Hardware σ) (command : RtU16) {driver : Option RtUsbDriver}
    (address endpoint : RtU8) {buffer : Option RtPtr} {length : RtU32} (m : Machine σ)
    (h : (driver.isNone || buffer.isNone || length == 0) = true) :
    usbTransfer hw command driver address endpoint buffer length m =
      ⟨.invalidParameter, driver, m, []⟩ := by
  cases driver with
  | none => rfl
  | some driver =>
    cases buffer with
    | none => rfl
    | some buffer =>
      obtain rfl : length = 0 := by simpa using h
      rfl

/-- A rejected call does not succeed. -/
theorem perform_rejected (hw : Hardware σ) (call : ControllerCall) (m : Machine σ)
    (h : call.rejected = true) : call.perform hw m = .ok (.invalidParameter, m) := by
  cases call with
  | usbInit driver =>
    obtain rfl : driver = none := by simpa [ControllerCall.rejected] using h
    rfl
  | usbAttachDevice mem driver device =>
    cases driver with
    | none => rfl
    | some driver =>
      cases device with
      | none => rfl
      | some device =>
        have full : usbMaxDevices ≤ driver.numDevices.toNat := by
          simpa [ControllerCall.rejected] using h
        rw [ControllerCall.perform, usbAttachDevice, usbAttachDeviceWith_full hw _ mem full]
        rfl
  | usbSendData driver address endpoint data length =>
    simp [ControllerCall.perform, usbSendData, usbTransfer_rejected hw _ address endpoint m h]
  | usbReceiveData driver address endpoint buffer length =>
    simp [ControllerCall.perform, usbReceiveData, usbTransfer_rejected hw _ address endpoint m h]
  | networkSendPacket driver destinationMac packet =>
    cases driver with
    | none => rfl
    | some driver =>
      cases destinationMac with
      | none => rfl
      | some destinationMac =>
        cases packet with
        | none => rfl
        | some packet =>
          have invalid : networkIsValidMac (some destinationMac) = false := by
            simpa [ControllerCall.rejected] using h
          simp [ControllerCall.perform, networkSendPacket, networkSendPacketVia, invalid]
  | networkReceivePacket mem driver packet =>
    cases driver with
    | none => rfl
    | some driver =>
      obtain rfl : packet = none := by simpa [ControllerCall.rejected] using h
      rfl

/-- Success means that the controller was driven for exactly those calls that do not get to
it, because their arguments are rejected. -/
theorem success_hardwareDriven_iff (hw : Hardware σ) (call : ControllerCall) (m : Machine σ) :
    (∀ code after, call.perform hw m = .ok (code, after) → code = .success →
      HardwareDriven m after) ↔ call.rejected = true := by
  constructor
  · intro driven
    by_contra accepted
    obtain ⟨after, result, refused⟩ :=
      perform_refused hw call m (by simpa using accepted)
    exact refused.not_hardwareDriven (driven .success after result rfl)
  · intro rejected code after result success
    rw [perform_rejected hw call m rejected, success] at result
    cases result

/-- `USB_Init` succeeds though the controller has seen neither of its writes. -/
theorem success_undriven_usbInit :
    ¬ ∀ code after, (ControllerCall.usbInit (some default)).perform
        (⟨fun _ _ s => (0, s), fun _ _ _ s => s⟩ : Hardware Unit) ⟨ioTablesInit, (), []⟩ =
          .ok (code, after) → code = .success → HardwareDriven ⟨ioTablesInit, (), []⟩ after := by
  intro driven
  obtain ⟨after, result, refused⟩ := perform_refused
    (⟨fun _ _ s => (0, s), fun _ _ _ s => s⟩ : Hardware Unit) (.usbInit (some default))
    ⟨ioTablesInit, (), []⟩ rfl
  exact refused.not_hardwareDriven (driven .success after result rfl)

end LamaOS
