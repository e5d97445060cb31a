import LamaOS.Drivers.DriverSystem

/-!
# What the device sees

The device behind the ports is driven by the accesses that the port layer lets through, and by
nothing else. The log of the machine is shown to be a full account: from the device at the
start and the records of a run the device at its end can be computed, and so can every value
that a driver has read. A port that stays locked during the run is silent, whoever holds the
lock; a valid port that stays unlocked is never refused.
-/

namespace LamaOS

variable {σ : Type}

/-! ## The record of an access -/

/-- What an access on record did to the device. -/
def IoAccess.play (hw : Hardware σ) (device : σ) (access : IoAccess) : σ :=
  if access.performed then
    match access.direction with
    | .input => (hw.input access.width access.port device).2
    | .output =>
      hw.output access.width access.port (BitVec.ofNat access.width access.value) device
  else device

/-- The device after the accesses of a log. -/
def replay (hw : Hardware σ) (device : σ) (log : List IoAccess) : σ :=
  log.foldl (IoAccess.play hw) device

/-- The value of a read on record is what the device answers, or 0 if the read was refused. -/
def IoAccess.Answered (hw : Hardware σ) (device : σ) (access : IoAccess) : Prop :=
  access.direction = .input → access.value =
    if access.performed then (hw.input access.width access.port device).1.toNat else 0

/-- Every read of the log was answered by the device as the accesses before it had left it. -/
def AllAnswered (hw : Hardware σ) : σ → List IoAccess → Prop
  | _, [] => True
  | device, access :: log => access.Answered hw device ∧ AllAnswered hw (access.play hw device) log

theorem allAnswered_append (hw : Hardware σ) (device : σ) (first second : List IoAccess) :
    AllAnswered hw device (first ++ second) ↔
      AllAnswered hw device first ∧ AllAnswered hw (replay hw device first) second := by
  induction first generalizing device with
  | nil => simp [AllAnswered, replay]
  | cons access first ih =>
    rw [List.cons_append, AllAnswered, AllAnswered, ih, and_assoc]
    rfl

/-- What happened between two machines, as far as the device is concerned. -/
structure Accessed (hw : Hardware σ) (m m' : Machine σ) (issued : List IoAccess) : Prop where
  log : m'.log = m.log ++ issued
  device : m'.device = replay hw m.device issued
  answered : AllAnswered hw m.device issued

variable {hw : Hardware σ} {m m' m'' : Machine σ} {issued issued' : List IoAccess}

theorem Accessed.nil (hw : Hardware σ) (m : Machine σ) : Accessed hw m m [] :=
  ⟨(List.append_nil _).symm, rfl, trivial⟩

theorem Accessed.trans (before : Accessed hw m m' issued)
    (after : Accessed hw m' m'' issued') : Accessed hw m m'' (issued ++ issued') where
  log := by rw [after.log, before.log, List.append_assoc]
  device := by rw [after.device, before.device, replay, replay, replay, List.foldl_append]
  answered := by
    rw [allAnswered_append, ← before.device]
    exact ⟨before.answered, after.answered⟩

/-! ## Accesses of the drivers -/

/-- One access. -/
inductive PortAccess (hw : Hardware σ) : Machine σ → Machine σ → Prop where
  | input (width : Nat) (port : RtIoPort) (m : Machine σ) :
    PortAccess hw m (ioIn hw width port m).2
  | output (width : Nat) (port : RtIoPort) (value : BitVec width) (m : Machine σ) :
    PortAccess hw m (ioOut hw width port value m)

/-- Accesses, and nothing else. -/
abbrev PortAccesses (hw : Hardware σ) : Machine σ → Machine σ → Prop :=
  Relation.ReflTransGen (PortAccess hw)

/-- An access adds one record to the log, which says whether its port was open. -/
theorem PortAccess.accessed (access : PortAccess hw m m') :
    m'.tables = m.tables ∧ ∃ record, Accessed hw m m' [record] ∧
      record.performed = ioReaches m.tables record.port := by
  cases access with
  | input width port =>
    refine ⟨ioIn_tables hw width port m, ?_⟩
    cases reaches : ioReaches m.tables port with
    | true =>
      rw [ioIn_of_reaches hw width port m reaches]
      exact ⟨_, ⟨rfl, rfl, fun _ => rfl, trivial⟩, reaches.symm⟩
    | false =>
      rw [ioIn_of_refused hw width port m reaches]
      exact ⟨_, ⟨rfl, rfl, fun _ => rfl, trivial⟩, reaches.symm⟩
  | output width port value =>
    refine ⟨ioOut_tables hw width port value m, ?_⟩
    cases reaches : ioReaches m.tables port with
    | true =>
      rw [ioOut_of_reaches hw width port value m reaches]
      refine ⟨_, ⟨rfl, ?_, nofun, trivial⟩, reaches.symm⟩
      simp [replay, IoAccess.play]
    | false =>
      rw [ioOut_of_refused hw width port value m reaches]
      exact ⟨_, ⟨rfl, rfl, nofun, trivial⟩, reaches.symm⟩

/-- Accesses leave the tables, and each of them was performed exactly if its port was open. -/
theorem PortAccesses.accessed (accesses : PortAccesses hw m m') :
    m'.tables = m.tables ∧ ∃ issued, Accessed hw m m' issued ∧
      ∀ access ∈ issued, access.performed = ioReaches m.tables access.port := by
  induction accesses with
  | refl => exact ⟨rfl, [], Accessed.nil hw m, fun _ mem => absurd mem List.not_mem_nil⟩
  | tail _ access ih =>
    obtain ⟨tables, issued, before, checked⟩ := ih
    obtain ⟨tables', record, after, checked'⟩ := access.accessed
    refine ⟨tables'.trans tables, issued ++ [record], before.trans after, ?_⟩
    rw [List.forall_mem_append]
    refine ⟨checked, fun access mem => ?_⟩
    rw [List.mem_singleton.mp mem, checked', tables]

theorem PortAccesses.input (before : PortAccesses hw m m') (width : Nat) (port : RtIoPort) :
    PortAccesses hw m (ioIn hw width port m').2 :=
  before.tail (.input width port m')

theorem PortAccesses.output (before : PortAccesses hw m m') (width : Nat) (port : RtIoPort)
    (value : BitVec width) : PortAccesses hw m (ioOut hw width port value m') :=
  before.tail (.output width port value m')

theorem PortAccesses.reads (before : PortAccesses hw m m') (reads : RegisterReads hw m' m'') :
    PortAccesses hw m m'' := by
  induction reads with
  | refl => exact before
  | tail _ read ih =>
    obtain ⟨port, m⟩ := read
    exact ih.input 8 port

section Operations

variable (hw) (outputFull : Fin 8)

theorem mouseInit_accesses (driver : RtMouseDriver) (m : Machine σ) :
    PortAccesses hw m (mouseInit hw outputFull driver m).machine := by
  have start : PortAccesses hw m m := .refl
  have reset := (start.output 8 mouseCommandRegister 0xA7).output 8 mouseDataRegister mouseCmdReset
  have acked := reset.reads (mouseWaitAck_reads hw outputFull _)
  have waited := acked.reads (mouseWaitOutput_reads hw outputFull _)
  have tested := waited.input 8 mouseDataRegister
  have enabled := (tested.output 8 mouseDataRegister mouseCmdEnable).reads
    (mouseWaitAck_reads hw outputFull _)
  dsimp only [mouseInit]
  split
  · exact acked
  split
  · exact waited
  split
  · exact tested
  split
  · exact enabled
  · exact (enabled.output 8 mouseDataRegister mouseCmdSetSampleRate).output 8 mouseDataRegister 100

theorem mouseSwitch_accesses (command : RtU8) (source target : RtDriverState)
    (driver : RtMouseDriver) (m : Machine σ) :
    PortAccesses hw m (mouseSwitch hw outputFull command source target driver m).machine := by
  have start : PortAccesses hw m m := .refl
  have acked := (start.output 8 mouseDataRegister command).reads
    (mouseWaitAck_reads hw outputFull _)
  dsimp only [mouseSwitch]
  split
  · exact start
  split
  · exact acked
  · exact acked

theorem mouseSetSampleRate_accesses (driver : RtMouseDriver) (rate : RtU8) (m : Machine σ) :
    PortAccesses hw m (mouseSetSampleRate hw outputFull driver rate m).machine := by
  have start : PortAccesses hw m m := .refl
  have sent :=
    (start.output 8 mouseDataRegister mouseCmdSetSampleRate).output 8 mouseDataRegister rate
  have acked := sent.reads (mouseWaitAck_reads hw outputFull _)
  dsimp only [mouseSetSampleRate]
  split
  · exact start
  split
  · exact acked
  · exact acked

theorem mouseSystemCall_accesses {driver : RtMouseDriver} {operation : MouseOperation}
    {done : (RtMouseDriver × Machine σ) × SystemReply}
    (ran : mouseSystemCall hw outputFull driver m operation = .ok done) :
    PortAccesses hw m done.1.2 := by
  cases operation with
  | init =>
    obtain rfl := Except.ok.inj ran
    exact mouseInit_accesses hw outputFull driver m
  | enable =>
    obtain rfl := Except.ok.inj ran
    exact mouseSwitch_accesses hw outputFull mouseCmdEnable .ready .running driver m
  | disable =>
    obtain rfl := Except.ok.inj ran
    exact mouseSwitch_accesses hw outputFull mouseCmdDisable .running .ready driver m
  | setSampleRate rate =>
    obtain rfl := Except.ok.inj ran
    exact mouseSetSampleRate_accesses hw outputFull driver rate m
  | interrupt =>
    simp only [mouseSystemCall, mouseOperation, mouseInterruptHandler] at ran
    split at ran
    · obtain rfl := Except.ok.inj ran
      exact .refl
    · cases collected : mouseCollect driver (ioIn8 hw mouseDataRegister m).1 with
      | error fault => rw [collected] at ran; cases ran
      | ok result =>
        rw [collected] at ran
        obtain rfl := Except.ok.inj ran
        exact .single (.input 8 mouseDataRegister m)
  | processPacket =>
    obtain rfl := Except.ok.inj ran
    exact .refl

/-- A transfer is four writes, or is refused. -/
theorem usbTransfer_accesses (command : RtU16) (driver : RtUsbDriver) (address endpoint : RtU8)
    (buffer : Option RtPtr) (length : RtU32) (m : Machine σ) :
    PortAccesses hw m
      (usbTransfer hw command driver address endpoint buffer length m).machine := by
  have start : PortAccesses hw m m := .refl
  cases buffer with
  | none => exact start
  | some buffer =>
    dsimp only [usbTransfer]
    split
    · exact start
    · exact (((start.output 8 0xCF8 _).output 16 0xCFC command).output 32 0xE000 length).output
        32 0xE004 (buffer.setWidth 32)

/-- `USB_DetachDevice` makes no access. -/
theorem usbDetachDevice_machine {driver : Option RtUsbDriver} {address : RtU8} {m : Machine σ}
    {result : UsbResult σ} (ran : usbDetachDevice driver address m = .ok result) :
    result.machine = m := by
  cases driver with
  | none =>
    obtain rfl := Except.ok.inj ran
    rfl
  | some driver =>
    simp only [usbDetachDevice, usbDetachDeviceWith] at ran
    split at ran
    · obtain rfl := Except.ok.inj ran
      rfl
    split at ran
    · cases ran
    · obtain rfl := Except.ok.inj ran
      rfl
    · rename_i i _
      cases moved : SlotTable.move driver.devices i.toNat (i.toNat + 1)
          (driver.numDevices.toNat - i.toNat - 1) with
      | error fault => rw [moved] at ran; cases ran
      | ok devices =>
        rw [moved] at ran
        obtain rfl := Except.ok.inj ran
        rfl

theorem usbSystemCall_accesses {driver : RtUsbDriver} {operation : UsbOperation}
    {done : (RtUsbDriver × Machine σ) × SystemReply}
    (ran : usbSystemCall hw driver m operation = .ok done) : PortAccesses hw m done.1.2 := by
  have start : PortAccesses hw m m := .refl
  cases operation with
  | init =>
    obtain rfl := Except.ok.inj ran
    exact (start.output 16 0xCF8 _).output 16 0xCFC _
  | attachDevice mem device =>
    cases device with
    | none =>
      obtain rfl := Except.ok.inj ran
      exact start
    | some device =>
      rw [usbSystemCall, usbAttachDevice] at ran
      by_cases full : usbMaxDevices ≤ driver.numDevices.toNat
      · rw [usbAttachDeviceWith_full hw _ mem full] at ran
        obtain rfl := Except.ok.inj ran
        exact start
      · rw [usbAttachDeviceWith_room hw _ mem (Nat.lt_of_not_le full)] at ran
        obtain rfl := Except.ok.inj ran
        exact (start.output 8 0xCF8 _).output 16 0xCFC _
  | detachDevice address =>
    cases detached : usbDetachDevice driver address m with
    | error fault => rw [usbSystemCall, detached] at ran; cases ran
    | ok result =>
      rw [usbSystemCall, detached] at ran
      obtain rfl := Except.ok.inj ran
      simp only [RtUsbDriver.operated, usbDetachDevice_machine detached]
      exact start
  | findDevice address =>
    cases found : usbFindDevice driver address with
    | error fault => rw [usbSystemCall, found] at ran; cases ran
    | ok slot =>
      rw [usbSystemCall, found] at ran
      obtain rfl := Except.ok.inj ran
      exact start
  | sendData address endpoint data length =>
    obtain rfl := Except.ok.inj ran
    exact usbTransfer_accesses hw 0x0001 driver address endpoint data length m
  | receiveData address endpoint buffer length =>
    obtain rfl := Except.ok.inj ran
    exact usbTransfer_accesses hw 0x0002 driver address endpoint buffer length m

/-- `Network_AddDevice` makes no access. -/
theorem networkAddDevice_machine {driver : Option RtNetworkDriver}
    {device : Option NetworkDevice} {m : Machine σ} {result : NetworkResult σ}
    (ran : networkAddDevice driver device m = .ok result) : result.machine = m := by
  cases driver with
  | none =>
    obtain rfl := Except.ok.inj ran
    rfl
  | some driver =>
    cases device with
    | none =>
      obtain rfl := Except.ok.inj ran
      rfl
    | some device =>
      simp only [networkAddDevice] at ran
      split at ran
      · obtain rfl := Except.ok.inj ran
        rfl
      split at ran
      · obtain rfl := Except.ok.inj ran
        rfl
      · cases stored : SlotTable.store driver.devices driver.numDevices.toNat device with
        | error fault => rw [stored] at ran; cases ran
        | ok devices =>
          rw [stored] at ran
          obtain rfl := Except.ok.inj ran
          rfl

theorem networkSystemCall_accesses {driver : RtNetworkDriver} {operation : NetworkOperation}
    {done : (RtNetworkDriver × Machine σ) × SystemReply}
    (ran : networkSystemCall hw driver m operation = .ok done) : PortAccesses hw m done.1.2 := by
  have start : PortAccesses hw m m := .refl
  cases operation with
  | init =>
    obtain rfl := Except.ok.inj ran
    exact start
  | addDevice device =>
    cases added : networkAddDevice driver device m with
    | error fault => rw [networkSystemCall, added] at ran; cases ran
    | ok result =>
      rw [networkSystemCall, added] at ran
      obtain rfl := Except.ok.inj ran
      simp only [RtNetworkDriver.operated, networkAddDevice_machine added]
      exact start
  | findDevice macAddress =>
    cases found : networkFindDevice driver macAddress with
    | error fault => rw [networkSystemCall, found] at ran; cases ran
    | ok slot =>
      rw [networkSystemCall, found] at ran
      obtain rfl := Except.ok.inj ran
      exact start
  | sendPacket destinationMac packet =>
    obtain rfl := Except.ok.inj ran
    cases destinationMac with
    | none => exact start
    | some destinationMac =>
      cases packet with
      | none => exact start
      | some packet =>
        dsimp only [networkSendPacket, networkSendPacketVia, layerPorts, RtNetworkDriver.operated]
        split
        · exact start
        · exact ((start.output 32 0xE000 _).output 32 0xE004 _).output 8 0xE008 0x01
  | receivePacket mem packet =>
    obtain rfl := Except.ok.inj ran
    cases packet with
    | none => exact start
    | some packet => exact (start.input 32 0xE004).input 32 0xE000

end Operations

/-! ## Calls of the system -/

section System

variable {outputFull : Fin 8} {s s' : DriverSystem σ} {call : SystemCall} {reply : SystemReply}

theorem portCall_access (hw : Hardware σ) (call : PortCall) (m : Machine σ) :
    PortAccess hw m (call.exec hw m) := by
  cases call with
  | in8 port => exact .input 8 port m
  | out8 port value => exact .output 8 port value m
  | in16 port => exact .input 16 port m
  | out16 port value => exact .output 16 port value m
  | in32 port => exact .input 32 port m
  | out32 port value => exact .output 32 port value m

/-- The call that a client makes to open or to close a port. -/
def SystemCall.lockCall : SystemCall → Option LockCall
  | .port operation => operation.lockCall
  | .mouse _ | .usb _ | .network _ => none

/-- What a call has done to the device, and to the lock of every port. -/
structure CallTraced (hw : Hardware σ) (s : DriverSystem σ) (call : SystemCall)
    (s' : DriverSystem σ) (issued : List IoAccess) : Prop where
  accessed : Accessed hw s.machine s'.machine issued
  checked : ∀ access ∈ issued, access.performed = ioReaches s.machine.tables access.port
  locks : ∀ port : Fin maxIoPorts, s'.machine.tables.portLocks port =
    call.lockCall.elim (s.machine.tables.portLocks port)
      (LockCall.marks port (s.machine.tables.portLocks port))

theorem systemCall_traced (done : systemCall hw outputFull s call = .ok (s', reply)) :
    ∃ issued, CallTraced hw s call s' issued := by
  have driver (other : call.lockCall = none)
      (accesses : PortAccesses hw s.machine s'.machine) :
      ∃ issued, CallTraced hw s call s' issued := by
    obtain ⟨tables, issued, accessed, checked⟩ := accesses.accessed
    exact ⟨issued, accessed, checked, fun port => by rw [tables, other]; rfl⟩
  cases call with
  | mouse operation =>
    obtain ⟨result, ran, rfl, -⟩ := systemCall_mouse done
    exact driver rfl (mouseSystemCall_accesses hw outputFull ran)
  | usb operation =>
    obtain ⟨result, ran, rfl, -⟩ := systemCall_usb done
    exact driver rfl (usbSystemCall_accesses hw ran)
  | network operation =>
    obtain ⟨result, ran, rfl, -⟩ := systemCall_network done
    exact driver rfl (networkSystemCall_accesses hw ran)
  | port operation =>
    obtain ⟨rfl, -⟩ := Prod.mk.inj (Except.ok.inj done)
    have locks := portOperation_portLocks hw s.machine operation
    cases operation with
    | access call => exact driver rfl (.single (portCall_access hw call s.machine))
    | initPort _ | lock _ | unlock _ | getConfig _ | setMode _ _ | setAccessType _ _ =>
      refine ⟨[], ⟨(List.append_nil _).symm, rfl, trivial⟩, ?_, locks⟩
      exact fun access mem => absurd mem List.not_mem_nil

/-- The call that would end it that a port is open (`true`) or closed (`false`). -/
def SystemCall.turning (port : RtIoPort) : Bool → SystemCall
  | true => .port (.lock port)
  | false => .port (.unlock port)

/-- Only a lock call and an unlock call turn a lock. -/
theorem SystemCall.eq_of_lockCall {call : SystemCall} {turned : LockCall}
    (which : call.lockCall = some turned) :
    call = match turned with
      | .lock q => .port (.lock q)
      | .unlock q => .port (.unlock q) := by
  cases call with
  | port operation =>
    cases operation with
    | lock q => cases which; rfl
    | unlock q => cases which; rfl
    | initPort _ | getConfig _ | setMode _ _ | setAccessType _ _ | access _ => cases which
  | mouse _ | usb _ | network _ => cases which

/-- A port stays open, or closed, over every call but one. -/
theorem CallTraced.reaches {issued : List IoAccess} (traced : CallTraced hw s call s' issued)
    {port : RtIoPort} {opened : Bool} (here : ioReaches s.machine.tables port = opened)
    (other : call ≠ .turning port opened) : ioReaches s'.machine.tables port = opened := by
  by_cases valid : port.toNat < maxIoPorts
  · have lock := traced.locks ⟨port.toNat, valid⟩
    simp only [ioReaches, ioIsValidPort, ioIsPortLocked, valid, dif_pos, decide_true,
      Bool.true_and] at here ⊢
    rw [lock, ← here]
    cases which : call.lockCall with
    | none => rfl
    | some turned =>
      have isTurning := SystemCall.eq_of_lockCall which
      cases turned with
      | lock q =>
        by_cases isPort : q.toNat = port.toNat
        · obtain rfl := BitVec.eq_of_toNat_eq isPort
          cases held : s.machine.tables.portLocks ⟨q.toNat, valid⟩ with
          | true => simp [LockCall.marks]
          | false =>
            -- the port was open, and this is the call that closes it
            rw [held] at here
            subst here
            exact absurd isTurning other
        · simp [LockCall.marks, isPort]
      | unlock q =>
        by_cases isPort : q.toNat = port.toNat
        · obtain rfl := BitVec.eq_of_toNat_eq isPort
          cases held : s.machine.tables.portLocks ⟨q.toNat, valid⟩ with
          | false => simp [LockCall.marks]
          | true =>
            rw [held] at here
            subst here
            exact absurd isTurning other
        · simp [LockCall.marks, isPort]
  · rw [← here]
    simp [ioReaches, ioIsValidPort, valid]

/-- A port was open, or closed, all the time. -/
structure Stays (port : RtIoPort) (opened : Bool) (s s' : DriverSystem σ) : Prop where
  reaches : ioReaches s'.machine.tables port = opened
  performed : ∃ issued, s'.machine.log = s.machine.log ++ issued ∧
    ∀ access ∈ issued, access.port = port → access.performed = opened

/-- A port that is open, or closed, at the start of a run that does not turn its lock stays so. -/
theorem systemRun_stays {calls : List SystemCall} {replies : List SystemReply}
    (ran : Calls.run (systemCall hw outputFull) s calls = .ok (s', replies)) {port : RtIoPort}
    {opened : Bool} (here : ioReaches s.machine.tables port = opened)
    (others : ∀ call ∈ calls, call ≠ .turning port opened) : Stays port opened s s' := by
  refine Calls.run_rel (fun s s' => ioReaches s.machine.tables port = opened →
    Stays port opened s s') ?_ ?_ ?_ others ran here
  · intro s here
    exact ⟨here, [], (List.append_nil _).symm, fun _ mem => absurd mem List.not_mem_nil⟩
  · intro a b c first second here
    obtain ⟨reaches, issued, log, performed⟩ := first here
    obtain ⟨reaches', issued', log', performed'⟩ := second reaches
    refine ⟨reaches', issued ++ issued', by rw [log', log, List.append_assoc], ?_⟩
    rw [List.forall_mem_append]
    exact ⟨performed, performed'⟩
  · intro s call s' reply other done here
    obtain ⟨issued, traced⟩ := systemCall_traced done
    refine ⟨traced.reaches here other, issued, traced.accessed.log, ?_⟩
    intro access mem isPort
    rw [traced.checked access mem, isPort, here]

/-- The device is what the log says. At the end of every run of the system the device is as the
performed accesses of the run left it, in order, and every read of the run returned what the
device answered at its turn, or 0 if it was refused. A port that is locked or out of range at
the start, and is not unlocked during the run, is not accessed at all, by its holder or by
anyone; one that is open, and is not locked during the run, is never refused. -/
theorem systemRun_replays (hw : Hardware σ) (outputFull : Fin 8) {s : DriverSystem σ}
    (counts : CountsInRange s) (calls : List SystemCall) :
    ∃ s' replies issued,
      Calls.run (systemCall hw outputFull) s calls = .ok (s', replies) ∧
      s'.machine.log = s.machine.log ++ issued ∧
      s'.machine.device = replay hw s.machine.device issued ∧
      AllAnswered hw s.machine.device issued ∧
      (∀ port, ioReaches s.machine.tables port = false →
        (∀ call ∈ calls, call ≠ .port (.unlock port)) →
        ∀ access ∈ issued, access.port = port → access.performed = false) ∧
      ∀ port, ioReaches s.machine.tables port = true →
        (∀ call ∈ calls, call ≠ .port (.lock port)) →
        ∀ access ∈ issued, access.port = port → access.performed = true := by
  obtain ⟨-, s', replies, ran⟩ :=
    Calls.run_total (fun _ call counts => systemCall_total hw outputFull counts call) counts calls
  have traced : ∃ issued, Accessed hw s.machine s'.machine issued := by
    refine Calls.run_rel (fun s s' => ∃ issued, Accessed hw s.machine s'.machine issued) ?_ ?_ ?_
      (fun _ _ => trivial) ran
    · exact fun s => ⟨[], Accessed.nil hw s.machine⟩
    · rintro a b c ⟨issued, before⟩ ⟨issued', after⟩
      exact ⟨issued ++ issued', before.trans after⟩
    · intro s call s' reply _ done
      obtain ⟨issued, traced⟩ := systemCall_traced done
      exact ⟨issued, traced.accessed⟩
  obtain ⟨issued, accessed⟩ := traced
  have stays (port : RtIoPort) (opened : Bool)
      (here : ioReaches s.machine.tables port = opened)
      (others : ∀ call ∈ calls, call ≠ .turning port opened) :
      ∀ access ∈ issued, access.port = port → access.performed = opened := by
    obtain ⟨issued', log, performed⟩ := (systemRun_stays ran here others).performed
    rw [accessed.log] at log
    rw [List.append_cancel_left log]
    exact performed
  exact ⟨s', replies, issued, ran, accessed.log, accessed.device, accessed.answered,
    fun port => stays port false, fun port => stays port true⟩

end System

/-- The mouse is turned on while the USB driver resets its port. -/
theorem systemRun_replays_enable :
    ∃ s' replies issued, Calls.run (systemCall (mouseHardware sampleSurroundings 0) 0) sampleDrivers
        [.usb .init, .mouse .enable, .mouse .interrupt] = .ok (s', replies) ∧
      s'.machine.device =
        replay (mouseHardware sampleSurroundings 0) sampleDrivers.machine.device issued ∧
      (∀ access ∈ issued, access.port = 0xCF8 → access.performed = false) ∧
      ∀ access ∈ issued, access.port = 0x60 → access.performed = true := by
  obtain ⟨s', replies, issued, ran, -, device, -, closed, opened⟩ :=
    systemRun_replays (mouseHardware sampleSurroundings 0) 0 (s := sampleDrivers)
      ⟨by decide, by decide, by decide⟩ [.usb .init, .mouse .enable, .mouse .interrupt]
  refine ⟨s', replies, issued, ran, device, closed 0xCF8 rfl ?_, opened 0x60 rfl ?_⟩
  · simp
  · simp

end LamaOS
