import LamaOS.Drivers.Mouse.MouseRuns

/-!
# The driver's state and the device's mode

`Mouse_Enable` and `Mouse_Disable` turn the reporting of the device on and off together with
the state of the driver. `Mouse_Init` turns it on and leaves the driver ready. This module says
when the two agree: a running driver always has a reporting device, but a ready driver may have
one too, and every successful initialisation leaves one.
-/

namespace LamaOS

/-- The device is reporting exactly when the driver is running. -/
def ReportingAgrees (world : MouseWorld) : Prop :=
  world.machine.device.reporting = true ↔ world.driver.base.state = .running

/-- A running driver has a reporting device. -/
def RunningReports (world : MouseWorld) : Prop :=
  world.driver.base.state = .running → world.machine.device.reporting = true

variable (env : MouseSurroundings) (outputFull : Fin 8)

/-! ## Accesses and the mode -/

/-- Between two machines the mode has stayed the same. -/
structure ReportingKept (m m' : Machine MouseDevice) : Prop where
  tables : m'.tables = m.tables
  reporting : m'.device.reporting = m.device.reporting

theorem ReportingKept.trans {m m' m'' : Machine MouseDevice} (first : ReportingKept m m')
    (next : ReportingKept m' m'') : ReportingKept m m'' :=
  ⟨next.tables.trans first.tables, next.reporting.trans first.reporting⟩

theorem MouseDevice.read_reporting (d : MouseDevice) :
    (d.read env).2.reporting = d.reporting := by
  unfold MouseDevice.read
  split <;> rfl

theorem ioIn8_reportingKept (port : RtIoPort) (m : Machine MouseDevice) :
    ReportingKept m (ioIn8 (mouseHardware env outputFull) port m).2 := by
  refine ⟨ioIn_tables _ _ _ _, ?_⟩
  cases opened : ioReaches m.tables port with
  | false => rw [ioIn8, ioIn_of_refused _ _ _ _ opened]
  | true =>
    rw [ioIn8, ioIn_of_reaches _ _ _ _ opened]
    simp only [mouseHardware]
    split
    · exact MouseDevice.read_reporting env _
    split
    · rfl
    · rfl

theorem reads_reportingKept {m m' : Machine MouseDevice}
    (reads : RegisterReads (mouseHardware env outputFull) m m') : ReportingKept m m' := by
  induction reads with
  | refl => exact ⟨rfl, rfl⟩
  | tail _ read ih =>
    cases read with
    | read port => exact ih.trans (ioIn8_reportingKept env outputFull port _)

/-- An acknowledge can only be read from an open port. -/
theorem mouseWaitAck_opened {m : Machine MouseDevice}
    (ack : (mouseWaitAck (mouseHardware env outputFull) outputFull m).1 = true) :
    ioReaches m.tables mouseDataRegister = true := by
  have waited := reads_reportingKept env outputFull
    (mouseWaitOutput_reads (mouseHardware env outputFull) outputFull m)
  cases opened : ioReaches m.tables mouseDataRegister with
  | true => rfl
  | false =>
    rw [← waited.tables] at opened
    unfold mouseWaitAck at ack
    dsimp only at ack
    split at ack
    · exact ack
    · rw [ioIn8, ioIn_of_refused _ _ _ _ opened] at ack
      exact ack

theorem ioOut8_reporting {m : Machine MouseDevice}
    (opened : ioReaches m.tables mouseDataRegister = true) (value : RtU8) :
    (ioOut8 (mouseHardware env outputFull) mouseDataRegister value m).device.reporting =
      ((m.device.arrive env).write value).reporting := by
  rw [ioOut8, ioOut_of_reaches _ _ _ _ _ opened]
  simp [mouseHardware]

/-- A byte that is not a command for the mode leaves it alone, whether it arrives or not. -/
theorem ioOut8_reportingKept (m : Machine MouseDevice) {value : RtU8}
    (plain : value ≠ mouseCmdEnable ∧ value ≠ mouseCmdDisable ∧ value ≠ mouseCmdReset) :
    ReportingKept m (ioOut8 (mouseHardware env outputFull) mouseDataRegister value m) := by
  refine ⟨ioOut_tables _ _ _ _ _, ?_⟩
  cases opened : ioReaches m.tables mouseDataRegister with
  | true =>
    rw [ioOut8_reporting env outputFull opened]
    simp [MouseDevice.write, MouseDevice.arrive, plain]
  | false => rw [ioOut8, ioOut_of_refused _ _ _ _ _ opened]

/-! ## Commands and the mode -/

/-- Once the enable byte is acknowledged, the device reports. -/
theorem mouseWaitAck_enabled (m : Machine MouseDevice)
    (ack : (mouseWaitAck (mouseHardware env outputFull) outputFull
      (ioOut8 (mouseHardware env outputFull) mouseDataRegister mouseCmdEnable m)).1 = true) :
    (mouseWaitAck (mouseHardware env outputFull) outputFull
      (ioOut8 (mouseHardware env outputFull) mouseDataRegister mouseCmdEnable
        m)).2.device.reporting = true := by
  have kept := reads_reportingKept env outputFull
    (mouseWaitAck_reads (mouseHardware env outputFull) outputFull
      (ioOut8 (mouseHardware env outputFull) mouseDataRegister mouseCmdEnable m))
  have opened := mouseWaitAck_opened env outputFull ack
  rw [ioOut8, ioOut_tables] at opened
  rw [kept.reporting, ioOut8_reporting env outputFull opened]
  rfl

theorem mouseInit_reporting (driver : RtMouseDriver) (m : Machine MouseDevice)
    (success : (mouseInit (mouseHardware env outputFull) outputFull driver m).code = .success) :
    (mouseInit (mouseHardware env outputFull) outputFull driver m).machine.device.reporting =
      true := by
  unfold mouseInit at success ⊢
  dsimp only at success ⊢
  split at success
  · cases success
  split at success
  · cases success
  split at success
  · cases success
  split at success
  · cases success
  · rename_i first ready test ack
    rw [if_neg first, if_neg ready, if_neg test, if_neg ack]
    -- neither of the last two bytes is a command that changes the mode
    refine (ioOut8_reportingKept env outputFull _ (by decide)).reporting.trans ?_
    refine (ioOut8_reportingKept env outputFull _ (by decide)).reporting.trans ?_
    exact mouseWaitAck_enabled env outputFull _ (by simpa using ack)

theorem mouseEnable_reporting (driver : RtMouseDriver) (m : Machine MouseDevice)
    (success : (mouseEnable (mouseHardware env outputFull) outputFull driver m).code = .success) :
    (mouseEnable (mouseHardware env outputFull) outputFull driver m).machine.device.reporting =
      true := by
  unfold mouseEnable mouseSwitch at success ⊢
  dsimp only at success ⊢
  split at success
  · cases success
  split at success
  · cases success
  · rename_i permitted ack
    rw [if_neg permitted, if_neg ack]
    exact mouseWaitAck_enabled env outputFull m (by simpa using ack)

/-! ## The life cycle -/

/-- What a call that succeeds does to the state of the driver. -/
inductive LifeCycle : MouseCall → RtDriverState → RtDriverState → Prop where
  | init (state : RtDriverState) : LifeCycle .init state .ready
  | enable : LifeCycle .enable .ready .running
  | disable : LifeCycle .disable .running .ready
  | setSampleRate (rate : RtU8) : LifeCycle (.setSampleRate rate) .ready .ready

variable {world world' : MouseWorld} {call : MouseCall}

theorem mouseCall_lifeCycle
    (done : mouseCall env outputFull world call = .ok (world', .code .success)) :
    LifeCycle call world.driver.base.state world'.driver.base.state := by
  cases call with
  | init =>
    obtain ⟨rfl, success⟩ := Prod.mk.inj (Except.ok.inj done)
    obtain ⟨-, change⟩ := (mouseInit_commanded (mouseHardware env outputFull) outputFull
      world.driver world.machine).done (MouseReply.code.inj success)
    simp only [RtMouseDriver.commanded, change, Option.getD_some]
    exact .init _
  | enable =>
    obtain ⟨rfl, success⟩ := Prod.mk.inj (Except.ok.inj done)
    obtain ⟨ready, change⟩ := (mouseSwitch_commanded (mouseHardware env outputFull) outputFull
      mouseCmdEnable .ready .running world.driver world.machine).done (MouseReply.code.inj success)
    rw [← mouseEnable] at change
    simp only [RtMouseDriver.commanded, change, Option.getD_some, ready]
    exact .enable
  | disable =>
    obtain ⟨rfl, success⟩ := Prod.mk.inj (Except.ok.inj done)
    obtain ⟨running, change⟩ := (mouseSwitch_commanded (mouseHardware env outputFull) outputFull
      mouseCmdDisable .running .ready world.driver world.machine).done (MouseReply.code.inj success)
    rw [← mouseDisable] at change
    simp only [RtMouseDriver.commanded, change, Option.getD_some, running]
    exact .disable
  | setSampleRate rate =>
    obtain ⟨rfl, success⟩ := Prod.mk.inj (Except.ok.inj done)
    obtain ⟨ready, change⟩ := (mouseSetSampleRate_commanded (mouseHardware env outputFull)
      outputFull world.driver rate world.machine).done (MouseReply.code.inj success)
    simp only [RtMouseDriver.commanded, change, Option.getD_some, ready]
    exact .setSampleRate rate
  | interrupt =>
    cases handled : mouseInterruptHandler (mouseHardware env outputFull) world.driver
        world.machine with
    | error fault =>
      rw [mouseCall, MouseCall.operation, mouseOperation, handled] at done
      cases done
    | ok result =>
      rw [mouseCall, MouseCall.operation, mouseOperation, handled] at done
      cases done

/-- `Mouse_Init` and `Mouse_Enable` turn the reporting on. -/
theorem mouseCall_reporting (turnsOn : call = .init ∨ call = .enable)
    (done : mouseCall env outputFull world call = .ok (world', .code .success)) :
    world'.machine.device.reporting = true := by
  rcases turnsOn with rfl | rfl
  · obtain ⟨rfl, success⟩ := Prod.mk.inj (Except.ok.inj done)
    exact mouseInit_reporting env outputFull _ _ (MouseReply.code.inj success)
  · obtain ⟨rfl, success⟩ := Prod.mk.inj (Except.ok.inj done)
    exact mouseEnable_reporting env outputFull _ _ (MouseReply.code.inj success)

/-- Only `Mouse_Enable` leads to a running driver. -/
theorem mouseCall_runningReports
    (done : mouseCall env outputFull world call = .ok (world', .code .success)) :
    RunningReports world' := by
  intro running
  have step := mouseCall_lifeCycle env outputFull done
  rw [running] at step
  generalize world.driver.base.state = before at step
  cases step
  exact mouseCall_reporting env outputFull (.inr rfl) done

/-- The first call that succeeds is an initialisation: it leaves a ready driver and a reporting
device. -/
theorem mouseCall_first (uninitialized : world.driver.base.state = .uninitialized)
    (done : mouseCall env outputFull world call = .ok (world', .code .success)) :
    ¬ ReportingAgrees world' := by
  have step := mouseCall_lifeCycle env outputFull done
  rw [uninitialized] at step
  generalize ready : world'.driver.base.state = state at step
  cases step
  intro agrees
  have running := agrees.mp (mouseCall_reporting env outputFull (.inl rfl) done)
  rw [ready] at running
  cases running

/-! ## Runs -/

/-- From an uninitialised driver and a silent device, in a run of calls that all succeed, a
running driver has a reporting device in every state; but driver and device agree in every state
only if there is no call at all, since the first call is an initialisation. -/
theorem mouseRun_reporting_iff (world : MouseWorld) (calls : List MouseCall)
    (uninitialized : world.driver.base.state = .uninitialized)
    (silent : world.machine.device.reporting = false) {world' : MouseWorld}
    {replies : List MouseReply}
    (ran : Calls.run (mouseCall env outputFull) world calls = .ok (world', replies))
    (success : ∀ reply ∈ replies, reply = .code .success) :
    (Calls.Always (mouseCall env outputFull) ReportingAgrees world calls ↔ calls = []) ∧
      Calls.Always (mouseCall env outputFull) RunningReports world calls := by
  have idle : world.driver.base.state ≠ .running := by rw [uninitialized]; decide
  constructor
  · constructor
    · intro always
      cases calls with
      | nil => rfl
      | cons call calls =>
        obtain ⟨next, reply, rest, first, -, rfl⟩ := Calls.run_cons ran
        have agrees := (always.2 next reply first).here
        rw [success reply List.mem_cons_self] at first
        exact absurd agrees (mouseCall_first env outputFull uninitialized first)
    · rintro rfl
      refine ⟨fun reporting => ?_, fun running => absurd running idle⟩
      rw [silent] at reporting
      cases reporting
  · refine Calls.always_of_replies (fun _ call _ reply _ accepted done => ?_)
      (fun running => absurd running idle) ran success
    rw [accepted] at done
    exact mouseCall_runningReports env outputFull done

/-- An uninitialised driver and a silent device behind open ports. -/
def silentMouseWorld : MouseWorld where
  driver := mouseInitial
  machine := ⟨ioTablesInit, ⟨[], false, 0, [], 0⟩, []⟩

/-- A mouse that does not move. -/
def stillSurroundings : MouseSurroundings := ⟨fun _ => [], fun _ => 0⟩

/-- Turning the mouse on after the initialisation: the replies to its last two bytes are still
in the queue, and the first one passes for the acknowledge. -/
theorem mouseRun_reporting_enable :
    Calls.Always (mouseCall stillSurroundings 0) RunningReports silentMouseWorld
      [.init, .enable] := by
  obtain ⟨world', ran⟩ : ∃ world', Calls.run (mouseCall stillSurroundings 0) silentMouseWorld
      [.init, .enable] = .ok (world', [.code .success, .code .success]) := ⟨_, rfl⟩
  exact (mouseRun_reporting_iff stillSurroundings 0 silentMouseWorld _ rfl rfl ran
    (by decide)).2

/-- Initialisation leaves a ready driver and a reporting device. -/
theorem mouseRun_reporting_init :
    ∃ world', Calls.run (mouseCall stillSurroundings 0) silentMouseWorld [.init] =
        .ok (world', [.code .success]) ∧
      ¬ Calls.Always (mouseCall stillSurroundings 0) ReportingAgrees silentMouseWorld [.init] := by
  obtain ⟨world', ran⟩ : ∃ world', mouseCall stillSurroundings 0 silentMouseWorld .init =
      .ok (world', .code .success) := ⟨_, rfl⟩
  refine ⟨world', by simp [Calls.run, ran, Except.map], fun always => ?_⟩
  exact mouseCall_first stillSurroundings 0 rfl ran (always.2 world' _ ran)

end LamaOS
