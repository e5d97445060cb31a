import LamaOS.Drivers.DriverChanges

/-!
# The configurations of the ports

`IO_PortConfig` gives a port a mode, an access type and a range. The port layer stores them and
hands them out, and no access asks for them: a run of the whole system is shown to be the same
without the calls that set them.
-/

namespace LamaOS

variable {σ : Type}

/-- The machine with the configurations of its ports as they are at the start. -/
def Machine.unconfigured (m : Machine σ) : Machine σ :=
  { m with tables := { m.tables with portConfigs := ioTablesInit.portConfigs } }

/-- No access reads a configuration. -/
theorem unnoticed_unconfigured (hw : Hardware σ) : Unnoticed hw Machine.unconfigured where
  input width port m := by
    cases reaches : ioReaches m.tables port with
    | true =>
      rw [ioIn_of_reaches hw width port m reaches,
        ioIn_of_reaches hw width port m.unconfigured reaches]
      rfl
    | false =>
      rw [ioIn_of_refused hw width port m reaches,
        ioIn_of_refused hw width port m.unconfigured reaches]
      rfl
  output width port value m := by
    cases reaches : ioReaches m.tables port with
    | true =>
      rw [ioOut_of_reaches hw width port value m reaches,
        ioOut_of_reaches hw width port value m.unconfigured reaches]
      rfl
    | false =>
      rw [ioOut_of_refused hw width port value m reaches,
        ioOut_of_refused hw width port value m.unconfigured reaches]
      rfl

/-- A call that neither reads nor writes the configuration of a port. -/
def SystemCall.offConfigs : SystemCall → Bool
  | .port (.initPort _) | .port (.getConfig _) | .port (.setMode _ _)
  | .port (.setAccessType _ _) => false
  | .port (.lock _) | .port (.unlock _) | .port (.access _) | .mouse _ | .usb _ | .network _ =>
    true

/-- Two states agree but for the configurations of the ports. -/
structure SameButConfigs (s t : DriverSystem σ) : Prop where
  mouse : t.mouse = s.mouse
  usb : t.usb = s.usb
  network : t.network = s.network
  machine : t.machine.unconfigured = s.machine.unconfigured

section Configs

variable {hw : Hardware σ} {outputFull : Fin 8} {s t s' : DriverSystem σ} {call : SystemCall}
  {reply : SystemReply}

theorem portOperation_unconfigured (hw : Hardware σ) {operation : PortOperation}
    (other : (SystemCall.port operation).offConfigs = true) (m : Machine σ) :
    portOperation hw m.unconfigured operation =
      ((portOperation hw m operation).1.unconfigured, (portOperation hw m operation).2) := by
  cases operation with
  | access call =>
    simp only [portOperation, (unnoticed_unconfigured hw).portAccess]
  | lock port =>
    by_cases valid : port.toNat < maxIoPorts
    · cases held : m.tables.portLocks ⟨port.toNat, valid⟩ with
      | true => simp [portOperation, Machine.after, ioLockPort, Machine.unconfigured, valid, held]
      | false => simp [portOperation, Machine.after, ioLockPort, Machine.unconfigured, valid, held]
    · simp [portOperation, Machine.after, ioLockPort, Machine.unconfigured, valid]
  | unlock port =>
    simp only [portOperation, Machine.after, ioUnlockPort, Machine.unconfigured]
    split
    · rfl
    · rfl
  | initPort _ | getConfig _ | setMode _ _ | setAccessType _ _ => cases other

theorem SameButConfigs.alike (same : SameButConfigs s t) (kept : call.offConfigs = true)
    (done : systemCall hw outputFull s call = .ok (s', reply)) :
    ∃ t', systemCall hw outputFull t call = .ok (t', reply) ∧ SameButConfigs s' t' := by
  have unnoticed := unnoticed_unconfigured hw
  cases call with
  | mouse operation =>
    obtain ⟨result, ran, rfl, rfl⟩ := systemCall_mouse done
    obtain ⟨after, ran', machine⟩ := changed_alike
      (fun m => mouseSystemCall hw outputFull s.mouse m operation)
      (fun m => unnoticed.mouseSystemCall outputFull s.mouse m operation) same.machine ran
    refine ⟨{ t with mouse := result.1.1, machine := after }, ?_, rfl, same.usb, same.network,
      machine⟩
    rw [systemCall, same.mouse, ran']
    rfl
  | usb operation =>
    obtain ⟨result, ran, rfl, rfl⟩ := systemCall_usb done
    obtain ⟨after, ran', machine⟩ := changed_alike (fun m => usbSystemCall hw s.usb m operation)
      (fun m => unnoticed.usbSystemCall s.usb m operation) same.machine ran
    refine ⟨{ t with usb := result.1.1, machine := after }, ?_, same.mouse, rfl, same.network,
      machine⟩
    rw [systemCall, same.usb, ran']
    rfl
  | network operation =>
    obtain ⟨result, ran, rfl, rfl⟩ := systemCall_network done
    obtain ⟨after, ran', machine⟩ := changed_alike
      (fun m => networkSystemCall hw s.network m operation)
      (fun m => unnoticed.networkSystemCall s.network m operation) same.machine ran
    refine ⟨{ t with network := result.1.1, machine := after }, ?_, same.mouse, same.usb, rfl,
      machine⟩
    rw [systemCall, same.network, ran']
    rfl
  | port operation =>
    obtain ⟨rfl, rfl⟩ := Prod.mk.inj (Except.ok.inj done)
    have both := portOperation_unconfigured hw kept t.machine
    rw [same.machine, portOperation_unconfigured hw kept] at both
    obtain ⟨machine, reply⟩ := Prod.mk.inj both
    refine ⟨{ t with machine := (portOperation hw t.machine operation).1 }, ?_, same.mouse,
      same.usb, same.network, machine.symm⟩
    rw [reply]
    rfl

theorem SameButConfigs.apart (same : SameButConfigs s t) (left : call.offConfigs = false)
    (done : systemCall hw outputFull s call = .ok (s', reply)) : SameButConfigs s' t := by
  cases call with
  | port operation =>
    obtain ⟨rfl, rfl⟩ := Prod.mk.inj (Except.ok.inj done)
    refine ⟨same.mouse, same.usb, same.network, same.machine.trans ?_⟩
    -- of the machine such a call changes the table of configurations only
    have locks (other : operation.lockCall = none) :=
      portOperation_portLocks_other hw s.machine other
    cases operation with
    | initPort _ | setMode _ _ | setAccessType _ _ =>
      simp only [Machine.unconfigured, locks rfl]
      rfl
    | getConfig port => rfl
    | lock _ | unlock _ | access _ => cases left
  | mouse operation => cases left
  | usb operation => cases left
  | network operation => cases left

end Configs

/-- Nothing depends on the configurations of the ports. Calls that set up a port, set its mode or
its access type, or ask for its configuration, can be left out of any run of the system, and
the run may start from any other configurations: the other calls hand back the same, and the
drivers, the locks, the device and every access on record with its value end up the same. -/
theorem portConfigs_unenforced (hw : Hardware σ) (outputFull : Fin 8) {s t : DriverSystem σ}
    (counts : CountsInRange s) (same : SameButConfigs s t) (calls : List SystemCall) :
    ∃ s' t' replies, Calls.run (systemCall hw outputFull) s calls = .ok (s', replies) ∧
      Calls.run (systemCall hw outputFull) t (calls.filter SystemCall.offConfigs) =
        .ok (t', repliesTo SystemCall.offConfigs calls replies) ∧
      SameButConfigs s' t' := by
  obtain ⟨-, s', replies, ran⟩ :=
    Calls.run_total (fun _ call counts => systemCall_total hw outputFull counts call) counts calls
  obtain ⟨t', ran', same'⟩ := Calls.run_project SystemCall.offConfigs SameButConfigs
    (fun _ _ _ _ _ same kept done => same.alike kept done)
    (fun _ _ _ _ _ same left done => same.apart left done) same ran
  exact ⟨s', t', replies, ran, ran', same'⟩

/-- The mouse is turned on and sends a byte through ports that have been made output ports of 32
bits. -/
theorem portConfigs_unenforced_mouse :
    let calls : List SystemCall := [.port (.setMode 0x60 .output), .mouse .enable,
      .port (.setAccessType 0x60 .access32), .mouse .interrupt]
    ∃ s' t' replies, Calls.run (systemCall (mouseHardware sampleSurroundings 0) 0) sampleDrivers
        calls = .ok (s', replies) ∧
      Calls.run (systemCall (mouseHardware sampleSurroundings 0) 0) sampleDrivers
        [.mouse .enable, .mouse .interrupt] =
          .ok (t', repliesTo SystemCall.offConfigs calls replies) ∧
      SameButConfigs s' t' :=
  portConfigs_unenforced (mouseHardware sampleSurroundings 0) 0 (s := sampleDrivers)
    (t := sampleDrivers) ⟨by decide, by decide, by decide⟩ ⟨rfl, rfl, rfl, rfl⟩ _

end LamaOS
