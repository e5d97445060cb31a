import LamaOS.Drivers.DriverSystem

/-!
# Changes of the machine that no access notices

The functions of the drivers know the machine through the accesses of the port layer only. So
whatever no access notices, no function of a driver notices: each of them does the same on the
changed machine, and leaves the changed machine behind. This is shown once, for any change; the
log and the configurations of the ports are two places that a change may be made in.
-/

namespace LamaOS

variable {σ : Type}

/-- The accesses do the same to the machine and to the changed machine, and read the same. -/
structure Unnoticed (hw : Hardware σ) (change : Machine σ → Machine σ) : Prop where
  input : ∀ width port m, ioIn hw width port (change m) =
    ((ioIn hw width port m).1, change (ioIn hw width port m).2)
  output : ∀ width port (value : BitVec width) m,
    ioOut hw width port value (change m) = change (ioOut hw width port value m)

section Unnoticed

variable {hw : Hardware σ} {change : Machine σ → Machine σ}

/-- A result on the changed machine. -/
def MouseResult.changed (change : Machine σ → Machine σ) (result : MouseResult σ) :
    MouseResult σ :=
  { result with machine := change result.machine }

theorem Unnoticed.in8 (unnoticed : Unnoticed hw change) (port : RtIoPort) (m : Machine σ) :
    ioIn8 hw port (change m) = ((ioIn8 hw port m).1, change (ioIn8 hw port m).2) :=
  unnoticed.input 8 port m

theorem Unnoticed.out8 (unnoticed : Unnoticed hw change) (port : RtIoPort) (value : RtU8)
    (m : Machine σ) : ioOut8 hw port value (change m) = change (ioOut8 hw port value m) :=
  unnoticed.output 8 port value m

theorem Unnoticed.mousePoll (unnoticed : Unnoticed hw change) (ready : RtU8 → Bool)
    (timeout : Nat) (m : Machine σ) :
    mousePoll hw ready timeout (change m) =
      ((mousePoll hw ready timeout m).1, change (mousePoll hw ready timeout m).2) := by
  induction timeout generalizing m with
  | zero => rfl
  | succ timeout ih =>
    simp only [LamaOS.mousePoll, unnoticed.in8, ih]
    by_cases here : ready (ioIn8 hw mouseStatusRegister m).1 = true
    · simp only [if_pos here]
    · simp only [if_neg here]

theorem Unnoticed.mouseWaitOutput (unnoticed : Unnoticed hw change) (outputFull : Fin 8)
    (m : Machine σ) :
    mouseWaitOutput hw outputFull (change m) =
      ((mouseWaitOutput hw outputFull m).1, change (mouseWaitOutput hw outputFull m).2) :=
  unnoticed.mousePoll _ 100000 m

theorem Unnoticed.mouseWaitAck (unnoticed : Unnoticed hw change) (outputFull : Fin 8)
    (m : Machine σ) :
    mouseWaitAck hw outputFull (change m) =
      ((mouseWaitAck hw outputFull m).1, change (mouseWaitAck hw outputFull m).2) := by
  simp only [LamaOS.mouseWaitAck, unnoticed.mouseWaitOutput, unnoticed.in8]
  cases (LamaOS.mouseWaitOutput hw outputFull m).1 with
  | false => rfl
  | true => rfl

theorem Unnoticed.mouseInit (unnoticed : Unnoticed hw change) (outputFull : Fin 8)
    (driver : RtMouseDriver) (m : Machine σ) :
    mouseInit hw outputFull driver (change m) =
      (mouseInit hw outputFull driver m).changed change := by
  simp only [LamaOS.mouseInit, unnoticed.out8, unnoticed.in8, unnoticed.mouseWaitOutput,
    unnoticed.mouseWaitAck, apply_ite (MouseResult.changed change)]
  rfl

theorem Unnoticed.mouseSwitch (unnoticed : Unnoticed hw change) (outputFull : Fin 8)
    (command : RtU8) (source target : RtDriverState) (driver : RtMouseDriver) (m : Machine σ) :
    mouseSwitch hw outputFull command source target driver (change m) =
      (mouseSwitch hw outputFull command source target driver m).changed change := by
  simp only [LamaOS.mouseSwitch, unnoticed.out8, unnoticed.mouseWaitAck,
    apply_ite (MouseResult.changed change)]
  rfl

theorem Unnoticed.mouseSetSampleRate (unnoticed : Unnoticed hw change) (outputFull : Fin 8)
    (driver : RtMouseDriver) (rate : RtU8) (m : Machine σ) :
    mouseSetSampleRate hw outputFull driver rate (change m) =
      (mouseSetSampleRate hw outputFull driver rate m).changed change := by
  simp only [LamaOS.mouseSetSampleRate, unnoticed.out8, unnoticed.mouseWaitAck,
    apply_ite (MouseResult.changed change)]
  rfl

/-- The driver and the changed machine. -/
def changedPart {δ : Type} (change : Machine σ → Machine σ)
    (done : (δ × Machine σ) × SystemReply) : (δ × Machine σ) × SystemReply :=
  ((done.1.1, change done.1.2), done.2)

theorem Unnoticed.mouseSystemCall (unnoticed : Unnoticed hw change) (outputFull : Fin 8)
    (driver : RtMouseDriver) (m : Machine σ) (operation : MouseOperation) :
    mouseSystemCall hw outputFull driver (change m) operation =
      (mouseSystemCall hw outputFull driver m operation).map (changedPart change) := by
  cases operation with
  | init => simp only [LamaOS.mouseSystemCall, mouseOperation, unnoticed.mouseInit]; rfl
  | enable =>
    simp only [LamaOS.mouseSystemCall, mouseOperation, mouseEnable, unnoticed.mouseSwitch]
    rfl
  | disable =>
    simp only [LamaOS.mouseSystemCall, mouseOperation, mouseDisable, unnoticed.mouseSwitch]
    rfl
  | setSampleRate rate =>
    simp only [LamaOS.mouseSystemCall, mouseOperation, unnoticed.mouseSetSampleRate]
    rfl
  | interrupt =>
    simp only [LamaOS.mouseSystemCall, mouseOperation, mouseInterruptHandler, unnoticed.in8]
    split
    · rfl
    · cases mouseCollect driver (ioIn8 hw mouseDataRegister m).1 with
      | error fault => rfl
      | ok collected => rfl
  | processPacket => rfl

theorem Unnoticed.usbSystemCall (unnoticed : Unnoticed hw change) (driver : RtUsbDriver)
    (m : Machine σ) (operation : UsbOperation) :
    usbSystemCall hw driver (change m) operation =
      (usbSystemCall hw driver m operation).map (changedPart change) := by
  have transfer (command : RtU16) (address endpoint : RtU8) (buffer : Option RtPtr)
      (length : RtU32) :
      driver.operated (usbTransfer hw command driver address endpoint buffer length (change m))
          none =
        changedPart change
          (driver.operated (usbTransfer hw command driver address endpoint buffer length m)
            none) := by
    cases buffer with
    | none => rfl
    | some buffer =>
      simp only [usbTransfer, ioOut8, ioOut16, ioOut32, unnoticed.output]
      split
      · rfl
      · rfl
  cases operation with
  | init =>
    simp only [LamaOS.usbSystemCall, usbInit, usbResetPort, ioOut16, unnoticed.output]
    rfl
  | attachDevice mem device =>
    cases device with
    | none => rfl
    | some device =>
      simp only [LamaOS.usbSystemCall, usbAttachDevice]
      by_cases full : usbMaxDevices ≤ driver.numDevices.toNat
      · rw [usbAttachDeviceWith_full hw _ mem full, usbAttachDeviceWith_full hw _ mem full]
        rfl
      · have room := Nat.lt_of_not_le full
        rw [usbAttachDeviceWith_room hw _ mem room, usbAttachDeviceWith_room hw _ mem room]
        simp only [usbReadDeviceDescriptor_eq, ioOut8, ioOut16, unnoticed.output]
        rfl
  | detachDevice address =>
    simp only [LamaOS.usbSystemCall, usbDetachDevice, usbDetachDeviceWith]
    split
    · rfl
    · cases SlotTable.search (fun device : UsbDevice => device.address == address)
        driver.devices driver.numDevices 0 with
      | error fault => rfl
      | ok found =>
        cases found with
        | none => rfl
        | some i =>
          dsimp only
          cases SlotTable.move driver.devices i.toNat (i.toNat + 1)
            (driver.numDevices.toNat - i.toNat - 1) with
          | error fault => rfl
          | ok devices => rfl
  | findDevice address =>
    simp only [LamaOS.usbSystemCall]
    cases usbFindDevice driver address with
    | error fault => rfl
    | ok slot => rfl
  | sendData address endpoint data length =>
    exact congrArg Except.ok (transfer 0x0001 address endpoint data length)
  | receiveData address endpoint buffer length =>
    exact congrArg Except.ok (transfer 0x0002 address endpoint buffer length)

theorem Unnoticed.networkSystemCall (unnoticed : Unnoticed hw change) (driver : RtNetworkDriver)
    (m : Machine σ) (operation : NetworkOperation) :
    networkSystemCall hw driver (change m) operation =
      (networkSystemCall hw driver m operation).map (changedPart change) := by
  cases operation with
  | init => rfl
  | addDevice device =>
    cases device with
    | none => rfl
    | some device =>
      simp only [LamaOS.networkSystemCall, networkAddDevice]
      split
      · rfl
      split
      · rfl
      · cases SlotTable.store driver.devices driver.numDevices.toNat device with
        | error fault => rfl
        | ok devices => rfl
  | findDevice macAddress =>
    simp only [LamaOS.networkSystemCall]
    cases networkFindDevice driver macAddress with
    | error fault => rfl
    | ok slot => rfl
  | sendPacket destinationMac packet =>
    cases destinationMac with
    | none => rfl
    | some destinationMac =>
      cases packet with
      | none => rfl
      | some packet =>
        simp only [LamaOS.networkSystemCall, networkSendPacket, networkSendPacketVia,
          layerPorts, ioOut8, ioOut32,
          unnoticed.output]
        split
        · rfl
        · rfl
  | receivePacket mem packet =>
    cases packet with
    | none => rfl
    | some packet =>
      simp only [LamaOS.networkSystemCall, networkReceivePacket, networkReceivePacketVia,
        layerPorts, ioIn32, unnoticed.input]
      rfl

theorem Unnoticed.portAccess (unnoticed : Unnoticed hw change) (call : PortCall) (m : Machine σ) :
    call.exec hw (change m) = change (call.exec hw m) := by
  cases call with
  | in8 port => exact congrArg Prod.snd (unnoticed.input 8 port m)
  | out8 port value => exact unnoticed.output 8 port value m
  | in16 port => exact congrArg Prod.snd (unnoticed.input 16 port m)
  | out16 port value => exact unnoticed.output 16 port value m
  | in32 port => exact congrArg Prod.snd (unnoticed.input 32 port m)
  | out32 port value => exact unnoticed.output 32 port value m

/-- What carries a change of the machine through does the same on machines that it makes
equal. -/
theorem changed_alike {δ : Type}
    (call : Machine σ → Except MemoryFault ((δ × Machine σ) × SystemReply))
    (carries : ∀ m, call (change m) = (call m).map (changedPart change)) {m m' : Machine σ}
    (same : change m' = change m) {done : (δ × Machine σ) × SystemReply}
    (ran : call m = .ok done) :
    ∃ after, call m' = .ok ((done.1.1, after), done.2) ∧ change after = change done.1.2 := by
  have both : (call m').map (changedPart change) = (call m).map (changedPart change) := by
    rw [← carries, ← carries, same]
  rw [ran] at both
  cases ran' : call m' with
  | error fault => rw [ran'] at both; cases both
  | ok done' =>
    rw [ran'] at both
    obtain ⟨part, reply⟩ := Prod.mk.inj (Except.ok.inj both)
    obtain ⟨driver, machine⟩ := Prod.mk.inj part
    exact ⟨done'.1.2, by rw [← driver, ← reply], machine⟩

end Unnoticed

end LamaOS
