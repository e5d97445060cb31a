import LamaOS.Drivers.DriverChanges

/-!
# What the drivers have to do with each other

All three drivers reach their devices through one port layer, and what keeps them apart is
that layer alone: the registers of the USB and the network controller lie beyond
`MAX_IO_PORTS`, so none of their accesses gets to the device. A run of the whole system, with
the calls of all drivers in any order, is taken apart into a run of each driver.
-/

namespace LamaOS

variable {σ : Type}

/-! ## The registers beyond the port table -/

/-- The machine with a longer past. -/
def Machine.logged (past : List IoAccess) (m : Machine σ) : Machine σ :=
  { m with log := past ++ m.log }

/-- No access reads the log. -/
theorem unnoticed_logged (hw : Hardware σ) (past : List IoAccess) :
    Unnoticed hw (Machine.logged past) where
  input width port m := by
    cases reaches : ioReaches m.tables port with
    | true =>
      rw [ioIn_of_reaches hw width port m reaches,
        ioIn_of_reaches hw width port (m.logged past) reaches]
      simp [Machine.logged]
    | false =>
      rw [ioIn_of_refused hw width port m reaches,
        ioIn_of_refused hw width port (m.logged past) reaches]
      simp [Machine.logged]
  output width port value m := by
    cases reaches : ioReaches m.tables port with
    | true =>
      rw [ioOut_of_reaches hw width port value m reaches,
        ioOut_of_reaches hw width port value (m.logged past) reaches]
      simp [Machine.logged]
    | false =>
      rw [ioOut_of_refused hw width port value m reaches,
        ioOut_of_refused hw width port value (m.logged past) reaches]
      simp [Machine.logged]

/-- The machine with the accesses in its log that were performed. -/
def Machine.carriedOut (m : Machine σ) : Machine σ :=
  { m with log := m.log.filter IoAccess.performed }

theorem carriedOut_ioOut (hw : Hardware σ) (width : Nat) {port : RtIoPort}
    (value : BitVec width) (m : Machine σ) (beyond : maxIoPorts ≤ port.toNat) :
    (ioOut hw width port value m).carriedOut = m.carriedOut := by
  rw [ioOut_of_refused hw width port value m (ioReaches_of_outOfRange m.tables beyond)]
  simp [Machine.carriedOut]

theorem ioIn_beyond (hw : Hardware σ) (width : Nat) {port : RtIoPort} (m : Machine σ)
    (beyond : maxIoPorts ≤ port.toNat) :
    (ioIn hw width port m).1 = 0 ∧ (ioIn hw width port m).2.carriedOut = m.carriedOut := by
  rw [ioIn_of_refused hw width port m (ioReaches_of_outOfRange m.tables beyond)]
  simp [Machine.carriedOut]

/-- A call that carries no access out, and whose outcome does not depend on the machine. -/
def OffDevice {δ : Type}
    (call : Machine σ → Except MemoryFault ((δ × Machine σ) × SystemReply)) : Prop :=
  ∀ m m₀, ∃ m', m'.carriedOut = m.carriedOut ∧
    call m = (call m₀).map fun done => ((done.1.1, m'), done.2)

section OffDevice

variable {δ : Type} {call : Machine σ → Except MemoryFault ((δ × Machine σ) × SystemReply)}
  {done : (δ × Machine σ) × SystemReply} {m : Machine σ}

/-- Such a call has the same outcome on any other machine. -/
theorem OffDevice.elsewhere (off : OffDevice call) (ran : call m = .ok done) (m' : Machine σ) :
    ∃ after, call m' = .ok ((done.1.1, after), done.2) ∧ after.carriedOut = m'.carriedOut := by
  obtain ⟨after, unseen, split⟩ := off m' m
  rw [ran] at split
  exact ⟨after, split, unseen⟩

theorem OffDevice.unseen (off : OffDevice call) (ran : call m = .ok done) :
    done.1.2.carriedOut = m.carriedOut := by
  obtain ⟨after, again, unseen⟩ := off.elsewhere ran m
  have machine : done.1.2 = after := by
    rw [ran] at again
    exact congrArg (fun done => done.1.2) (Except.ok.inj again)
  rw [machine, unseen]

end OffDevice

/-- A transfer carries no access out. -/
theorem usbTransfer_offDevice (hw : Hardware σ) (command : RtU16) (driver : RtUsbDriver)
    (address endpoint : RtU8) (buffer : Option RtPtr) (length : RtU32) :
    OffDevice fun m =>
      .ok (driver.operated (usbTransfer hw command driver address endpoint buffer length m)
        none) := by
  intro m m₀
  cases buffer with
  | none => exact ⟨m, rfl, rfl⟩
  | some buffer =>
    simp only [usbTransfer]
    split
    · exact ⟨m, rfl, rfl⟩
    · refine ⟨_, ?_, rfl⟩
      simp only [ioOut8, ioOut16, ioOut32]
      rw [carriedOut_ioOut, carriedOut_ioOut, carriedOut_ioOut, carriedOut_ioOut]
      all_goals decide

theorem usbSystemCall_offDevice (hw : Hardware σ) (driver : RtUsbDriver)
    (operation : UsbOperation) :
    OffDevice fun m => usbSystemCall hw driver m operation := by
  cases operation with
  | init =>
    intro m m₀
    refine ⟨(usbResetPort hw m).2, ?_, rfl⟩
    simp only [usbResetPort, ioOut16]
    rw [carriedOut_ioOut, carriedOut_ioOut]
    all_goals decide
  | attachDevice mem device =>
    intro m m₀
    cases device with
    | none => exact ⟨m, rfl, rfl⟩
    | some device =>
      simp only [usbSystemCall, usbAttachDevice]
      by_cases full : usbMaxDevices ≤ driver.numDevices.toNat
      · rw [usbAttachDeviceWith_full hw _ mem full, usbAttachDeviceWith_full hw _ mem full]
        exact ⟨m, rfl, rfl⟩
      · have room := Nat.lt_of_not_le full
        rw [usbAttachDeviceWith_room hw _ mem room, usbAttachDeviceWith_room hw _ mem room]
        refine ⟨_, ?_, rfl⟩
        simp only [usbReadDeviceDescriptor_eq, ioOut8, ioOut16]
        rw [carriedOut_ioOut, carriedOut_ioOut]
        all_goals decide
  | detachDevice address =>
    intro m m₀
    refine ⟨m, rfl, ?_⟩
    simp only [usbSystemCall, usbDetachDevice, usbDetachDeviceWith]
    split
    · rfl
    · cases SlotTable.search (fun device : UsbDevice => device.address == address)
        driver.devices driver.numDevices 0 with
      | error fault => rfl
      | ok found =>
        cases found with
        | none => rfl
        | some i =>
          dsimp only
          cases SlotTable.move driver.devices i.toNat (i.toNat + 1)
            (driver.numDevices.toNat - i.toNat - 1) with
          | error fault => rfl
          | ok devices => rfl
  | findDevice address =>
    intro m m₀
    refine ⟨m, rfl, ?_⟩
    simp only [usbSystemCall]
    cases usbFindDevice driver address with
    | error fault => rfl
    | ok slot => rfl
  | sendData address endpoint data length =>
    exact usbTransfer_offDevice hw 0x0001 driver address endpoint data length
  | receiveData address endpoint buffer length =>
    exact usbTransfer_offDevice hw 0x0002 driver address endpoint buffer length

theorem networkSystemCall_offDevice (hw : Hardware σ) (driver : RtNetworkDriver)
    (operation : NetworkOperation) :
    OffDevice fun m => networkSystemCall hw driver m operation := by
  intro m m₀
  cases operation with
  | init => exact ⟨m, rfl, rfl⟩
  | addDevice device =>
    refine ⟨m, rfl, ?_⟩
    cases device with
    | none => rfl
    | some device =>
      simp only [networkSystemCall, networkAddDevice]
      split
      · rfl
      split
      · rfl
      · cases SlotTable.store driver.devices driver.numDevices.toNat device with
        | error fault => rfl
        | ok devices => rfl
  | findDevice macAddress =>
    refine ⟨m, rfl, ?_⟩
    simp only [networkSystemCall]
    cases networkFindDevice driver macAddress with
    | error fault => rfl
    | ok slot => rfl
  | sendPacket destinationMac packet =>
    cases destinationMac with
    | none => exact ⟨m, rfl, rfl⟩
    | some destinationMac =>
      cases packet with
      | none => exact ⟨m, rfl, rfl⟩
      | some packet =>
        simp only [networkSystemCall, networkSendPacket, networkSendPacketVia, layerPorts]
        split
        · exact ⟨m, rfl, rfl⟩
        · refine ⟨_, ?_, rfl⟩
          simp only [ioOut8, ioOut32]
          rw [carriedOut_ioOut, carriedOut_ioOut, carriedOut_ioOut]
          all_goals decide
  | receivePacket mem packet =>
    cases packet with
    | none => exact ⟨m, rfl, rfl⟩
    | some packet =>
      have address : maxIoPorts ≤ (0xE000 : RtIoPort).toNat := by decide
      have length : maxIoPorts ≤ (0xE004 : RtIoPort).toNat := by decide
      simp only [networkSystemCall, networkReceivePacket, networkReceivePacketVia, layerPorts,
        ioIn32]
      refine ⟨(ioIn hw 32 0xE000 (ioIn hw 32 0xE004 m).2).2, ?_, ?_⟩
      · rw [(ioIn_beyond hw 32 _ address).2, (ioIn_beyond hw 32 m length).2]
      · rw [(ioIn_beyond hw 32 (ioIn hw 32 0xE004 m).2 address).1,
          (ioIn_beyond hw 32 (ioIn hw 32 0xE004 m₀).2 address).1]
        rfl

/-! ## A run of the system, taken apart -/

/-- A call that the mouse driver has to do with: its own, or one of a client of the ports. -/
def SystemCall.onMouse : SystemCall → Bool
  | .mouse _ | .port _ => true
  | .usb _ | .network _ => false

def SystemCall.onUsb : SystemCall → Bool
  | .usb _ => true
  | .mouse _ | .network _ | .port _ => false

def SystemCall.onNetwork : SystemCall → Bool
  | .network _ => true
  | .mouse _ | .usb _ | .port _ => false

/-- Machines with the same accesses carried out differ in their pasts only. -/
theorem exists_fresh {m m' : Machine σ} (same : m'.carriedOut = m.carriedOut) :
    ∃ fresh : Machine σ, m = fresh.logged m.log ∧ m' = fresh.logged m'.log := by
  have tables : m'.carriedOut.tables = m.carriedOut.tables := by rw [same]
  have device : m'.carriedOut.device = m.carriedOut.device := by rw [same]
  refine ⟨{ m with log := [] }, by simp [Machine.logged], ?_⟩
  rw [← show m'.tables = m.tables from tables, ← show m'.device = m.device from device]
  simp [Machine.logged]

theorem carriedOut_logged {m m' : Machine σ} (same : m'.carriedOut = m.carriedOut)
    (future : Machine σ) :
    (future.logged m'.log).carriedOut = (future.logged m.log).carriedOut := by
  have past : m'.carriedOut.log = m.carriedOut.log := by rw [same]
  change m'.log.filter IoAccess.performed = m.log.filter IoAccess.performed at past
  simp [Machine.carriedOut, Machine.logged, past]

theorem portOperation_logged (hw : Hardware σ) (past : List IoAccess) (m : Machine σ)
    (operation : PortOperation) :
    portOperation hw (m.logged past) operation =
      ((portOperation hw m operation).1.logged past, (portOperation hw m operation).2) := by
  cases operation with
  | access call =>
    simp only [portOperation, (unnoticed_logged hw past).portAccess]
  | initPort _ | lock _ | unlock _ | getConfig _ | setMode _ _ | setAccessType _ _ => rfl

section Runs

variable (hw : Hardware σ) (outputFull : Fin 8)

theorem mouseSystemCall_alike {m m' : Machine σ} (same : m'.carriedOut = m.carriedOut)
    {driver : RtMouseDriver} {operation : MouseOperation}
    {done : (RtMouseDriver × Machine σ) × SystemReply}
    (ran : mouseSystemCall hw outputFull driver m operation = .ok done) :
    ∃ after, mouseSystemCall hw outputFull driver m' operation =
        .ok ((done.1.1, after), done.2) ∧ after.carriedOut = done.1.2.carriedOut := by
  obtain ⟨fresh, isFresh, isFresh'⟩ := exists_fresh same
  rw [isFresh, (unnoticed_logged hw m.log).mouseSystemCall] at ran
  rw [isFresh', (unnoticed_logged hw m'.log).mouseSystemCall]
  cases first : mouseSystemCall hw outputFull driver fresh operation with
  | error fault => rw [first] at ran; cases ran
  | ok result =>
    rw [first] at ran
    obtain rfl := Except.ok.inj ran
    exact ⟨result.1.2.logged m'.log, rfl, carriedOut_logged same result.1.2⟩

theorem portOperation_alike {m m' : Machine σ} (same : m'.carriedOut = m.carriedOut)
    (operation : PortOperation) :
    (portOperation hw m' operation).2 = (portOperation hw m operation).2 ∧
      (portOperation hw m' operation).1.carriedOut =
        (portOperation hw m operation).1.carriedOut := by
  obtain ⟨fresh, isFresh, isFresh'⟩ := exists_fresh same
  rw [isFresh, isFresh', portOperation_logged, portOperation_logged]
  exact ⟨rfl, carriedOut_logged same _⟩

/-- Two states agree in all that the mouse driver and the clients of the ports can see. -/
structure SameMouseSide (s t : DriverSystem σ) : Prop where
  mouse : t.mouse = s.mouse
  machine : t.machine.carriedOut = s.machine.carriedOut

variable {hw outputFull} {s t s' : DriverSystem σ} {call : SystemCall} {reply : SystemReply}

theorem SameMouseSide.alike (same : SameMouseSide s t) (kept : call.onMouse = true)
    (done : systemCall hw outputFull s call = .ok (s', reply)) :
    ∃ t', systemCall hw outputFull t call = .ok (t', reply) ∧ SameMouseSide s' t' := by
  cases call with
  | mouse operation =>
    obtain ⟨result, ran, rfl, rfl⟩ := systemCall_mouse done
    obtain ⟨after, ran', same'⟩ := mouseSystemCall_alike hw outputFull same.machine ran
    refine ⟨{ t with mouse := result.1.1, machine := after }, ?_, rfl, same'⟩
    rw [systemCall, same.mouse, ran']
    rfl
  | port operation =>
    obtain ⟨rfl, rfl⟩ := Prod.mk.inj (Except.ok.inj done)
    obtain ⟨reply, same'⟩ := portOperation_alike hw same.machine operation
    refine ⟨{ t with machine := (portOperation hw t.machine operation).1 }, ?_, same.mouse, same'⟩
    rw [← reply]
    rfl
  | usb operation => cases kept
  | network operation => cases kept

/-- What the USB and the network driver do is not seen from the mouse driver. -/
theorem SameMouseSide.apart (same : SameMouseSide s t) (left : call.onMouse = false)
    (done : systemCall hw outputFull s call = .ok (s', reply)) : SameMouseSide s' t := by
  cases call with
  | usb operation =>
    obtain ⟨result, ran, rfl, -⟩ := systemCall_usb done
    have unseen := (usbSystemCall_offDevice hw s.usb operation).unseen ran
    exact ⟨same.mouse, same.machine.trans unseen.symm⟩
  | network operation =>
    obtain ⟨result, ran, rfl, -⟩ := systemCall_network done
    have unseen := (networkSystemCall_offDevice hw s.network operation).unseen ran
    exact ⟨same.mouse, same.machine.trans unseen.symm⟩
  | mouse operation => cases left
  | port operation => cases left

/-- A call on the USB driver does the same in any state with the same USB driver, and carries
no access out. -/
theorem usb_alike (same : t.usb = s.usb) (kept : call.onUsb = true)
    (done : systemCall hw outputFull s call = .ok (s', reply)) :
    ∃ t', systemCall hw outputFull t call = .ok (t', reply) ∧ t'.usb = s'.usb ∧
      t'.machine.carriedOut = t.machine.carriedOut := by
  cases call with
  | usb operation =>
    obtain ⟨result, ran, rfl, rfl⟩ := systemCall_usb done
    obtain ⟨after, ran', unseen⟩ :=
      (usbSystemCall_offDevice hw s.usb operation).elsewhere ran t.machine
    refine ⟨{ t with usb := result.1.1, machine := after }, ?_, rfl, unseen⟩
    rw [systemCall, same, ran']
    rfl
  | mouse operation => cases kept
  | network operation => cases kept
  | port operation => cases kept

theorem usb_apart (left : call.onUsb = false)
    (done : systemCall hw outputFull s call = .ok (s', reply)) : s'.usb = s.usb := by
  cases call with
  | usb operation => cases left
  | mouse operation =>
    obtain ⟨result, -, rfl, -⟩ := systemCall_mouse done
    rfl
  | network operation =>
    obtain ⟨result, -, rfl, -⟩ := systemCall_network done
    rfl
  | port operation =>
    obtain ⟨rfl, -⟩ := Prod.mk.inj (Except.ok.inj done)
    rfl

/-- A call on the network driver does the same in any state with the same network driver, and
carries no access out. -/
theorem network_alike (same : t.network = s.network) (kept : call.onNetwork = true)
    (done : systemCall hw outputFull s call = .ok (s', reply)) :
    ∃ t', systemCall hw outputFull t call = .ok (t', reply) ∧ t'.network = s'.network ∧
      t'.machine.carriedOut = t.machine.carriedOut := by
  cases call with
  | network operation =>
    obtain ⟨result, ran, rfl, rfl⟩ := systemCall_network done
    obtain ⟨after, ran', unseen⟩ :=
      (networkSystemCall_offDevice hw s.network operation).elsewhere ran t.machine
    refine ⟨{ t with network := result.1.1, machine := after }, ?_, rfl, unseen⟩
    rw [systemCall, same, ran']
    rfl
  | mouse operation => cases kept
  | usb operation => cases kept
  | port operation => cases kept

theorem network_apart (left : call.onNetwork = false)
    (done : systemCall hw outputFull s call = .ok (s', reply)) : s'.network = s.network := by
  cases call with
  | network operation => cases left
  | mouse operation =>
    obtain ⟨result, -, rfl, -⟩ := systemCall_mouse done
    rfl
  | usb operation =>
    obtain ⟨result, -, rfl, -⟩ := systemCall_usb done
    rfl
  | port operation =>
    obtain ⟨rfl, -⟩ := Prod.mk.inj (Except.ok.inj done)
    rfl

end Runs

/-- The drivers do not interfere. Every run of the system, with the calls of all drivers and
clients in any order, comes to its end; and what each driver is left with, and all that its
calls hand back, is as in the run of its own calls alone. For the mouse driver these are its
calls and those of the clients of the ports, started anywhere with the same mouse driver, tables
and device, and the two runs carry out the same accesses. The USB and the network driver may be
started on any machine, and carry out none. -/
theorem drivers_separate (hw : Hardware σ) (outputFull : Fin 8) {s : DriverSystem σ}
    (counts : CountsInRange s) (calls : List SystemCall) :
    ∃ s' replies, Calls.run (systemCall hw outputFull) s calls = .ok (s', replies) ∧
      (∀ t : DriverSystem σ, SameMouseSide s t →
        ∃ t', Calls.run (systemCall hw outputFull) t (calls.filter SystemCall.onMouse) =
            .ok (t', repliesTo SystemCall.onMouse calls replies) ∧ SameMouseSide s' t') ∧
      (∀ t : DriverSystem σ, t.usb = s.usb →
        ∃ t', Calls.run (systemCall hw outputFull) t (calls.filter SystemCall.onUsb) =
            .ok (t', repliesTo SystemCall.onUsb calls replies) ∧ t'.usb = s'.usb ∧
          t'.machine.carriedOut = t.machine.carriedOut) ∧
      ∀ t : DriverSystem σ, t.network = s.network →
        ∃ t', Calls.run (systemCall hw outputFull) t (calls.filter SystemCall.onNetwork) =
            .ok (t', repliesTo SystemCall.onNetwork calls replies) ∧
          t'.network = s'.network ∧ t'.machine.carriedOut = t.machine.carriedOut := by
  obtain ⟨-, s', replies, ran⟩ :=
    Calls.run_total (fun _ call counts => systemCall_total hw outputFull counts call) counts calls
  refine ⟨s', replies, ran, fun t same => ?_, fun t same => ?_, fun t same => ?_⟩
  · exact Calls.run_project SystemCall.onMouse SameMouseSide
      (fun _ _ _ _ _ same kept done => same.alike kept done)
      (fun _ _ _ _ _ same left done => same.apart left done) same ran
  · -- the machine of the shorter run stays as it was at its start
    refine Calls.run_project SystemCall.onUsb
      (fun s u => u.usb = s.usb ∧ u.machine.carriedOut = t.machine.carriedOut) ?_ ?_
      ⟨same, rfl⟩ ran
    · rintro s u call s' reply ⟨same, unseen⟩ kept done
      obtain ⟨u', done', same', unseen'⟩ := usb_alike same kept done
      exact ⟨u', done', same', unseen'.trans unseen⟩
    · rintro s u call s' reply ⟨same, unseen⟩ left done
      exact ⟨same.trans (usb_apart left done).symm, unseen⟩
  · refine Calls.run_project SystemCall.onNetwork
      (fun s u => u.network = s.network ∧ u.machine.carriedOut = t.machine.carriedOut) ?_ ?_
      ⟨same, rfl⟩ ran
    · rintro s u call s' reply ⟨same, unseen⟩ kept done
      obtain ⟨u', done', same', unseen'⟩ := network_alike same kept done
      exact ⟨u', done', same', unseen'.trans unseen⟩
    · rintro s u call s' reply ⟨same, unseen⟩ left done
      exact ⟨same.trans (network_apart left done).symm, unseen⟩

/-- The mouse is turned on and sends a packet while the USB driver resets its port and the
network driver sends a packet of its own. -/
def interleavedCalls : List SystemCall :=
  [.usb .init, .mouse .enable, .network .init, .mouse .interrupt,
    .network (.sendPacket (some #v[2, 0, 0, 0, 0, 1]) (some (0x2000, default))),
    .mouse .interrupt, .usb (.sendData 3 1 (some 0x1000) 8), .mouse .interrupt]

theorem drivers_separate_interleaved :
    ∃ s' replies t', Calls.run (systemCall (mouseHardware sampleSurroundings 0) 0) sampleDrivers
        interleavedCalls = .ok (s', replies) ∧
      Calls.run (systemCall (mouseHardware sampleSurroundings 0) 0) sampleDrivers
        [.mouse .enable, .mouse .interrupt, .mouse .interrupt, .mouse .interrupt] =
          .ok (t', repliesTo SystemCall.onMouse interleavedCalls replies) ∧
      t'.mouse = s'.mouse := by
  obtain ⟨s', replies, ran, mouse, -, -⟩ :=
    drivers_separate (mouseHardware sampleSurroundings 0) 0 (s := sampleDrivers)
      ⟨by decide, by decide, by decide⟩ interleavedCalls
  obtain ⟨t', alone, same⟩ := mouse sampleDrivers ⟨rfl, rfl⟩
  exact ⟨s', replies, t', ran, alone, same.mouse⟩

end LamaOS
