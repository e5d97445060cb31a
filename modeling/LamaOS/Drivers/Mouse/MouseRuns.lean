import LamaOS.Drivers.Mouse.MouseMovements
import LamaOS.Drivers.Mouse.MouseReplies

/-!
# Runs of the mouse operations

The six operations work on one driver object, and a packet under construction may be cut at
any byte by a disable command or by a new initialisation. This module is about what no order
of the operations breaks: there is always room for the next byte, a packet under construction
always begins with a sign bit, and a completed packet is folded into the data by the handler
itself, so that a call of `Mouse_ProcessPacket` from outside finds nothing to do. Nothing is
assumed of the ports: each call is made on a machine of its own, whose device may answer
anything and whose tables may lock any port.
-/

namespace LamaOS

/-- The callbacks made during a call. -/
def MouseReply.reported : MouseReply → List MouseData
  | .code _ => []
  | .callbacks made => made

/-- The driver after an operation that was given one. -/
def RtMouseDriver.after {σ : Type} (driver : RtMouseDriver) (result : MouseResult σ) :
    RtMouseDriver × MouseReply :=
  (result.driver.getD driver, .code result.code)

/-- The bytes of the packet under construction. -/
def RtMouseDriver.part (driver : RtMouseDriver) : List RtU8 :=
  driver.packet.toList.take driver.packetIndex.toNat

section Runs

variable {σ : Type} (hw : Hardware σ) (outputFull : Fin 8)

/-- One operation, on a machine. -/
def mouseOperate (driver : RtMouseDriver) (call : MouseOperation × Machine σ) :
    Except MemoryFault (RtMouseDriver × MouseReply) :=
  (mouseOperation hw outputFull driver call.2 call.1).map fun done => (done.1.1, done.2)

/-- The packet that a call completes: the handler of a running driver reads its last byte. -/
def completedPacket (driver : RtMouseDriver) : MouseOperation × Machine σ → List (List RtU8)
  | (.interrupt, m) =>
    if driver.base.state = .running ∧ driver.packetIndex = 2 then
      [driver.part ++ [(ioIn8 hw mouseDataRegister m).1]]
    else []
  | _ => []

/-! ## What a command does to the driver -/

/-- A command that fails leaves the driver as it is, one that succeeds was made in the state
`source` permits and makes `change`. -/
structure MouseCommanded (driver : RtMouseDriver) (result : MouseResult σ)
    (source : RtDriverState → Prop) (change : RtMouseDriver) : Prop where
  failed : result.code ≠ .success → result.driver = some driver
  done : result.code = .success → source driver.base.state ∧ result.driver = some change

theorem MouseCommanded.of_failed {driver change : RtMouseDriver} {result : MouseResult σ}
    {source : RtDriverState → Prop} (failed : result.code ≠ .success)
    (kept : result.driver = some driver) : MouseCommanded driver result source change where
  failed := fun _ => kept
  done := fun success => absurd success failed

theorem mouseInit_commanded (driver : RtMouseDriver) (m : Machine σ) :
    MouseCommanded driver (mouseInit hw outputFull driver m) (fun _ => True)
      { driver with packetIndex := 0, base.state := .ready } := by
  unfold mouseInit
  dsimp only
  split
  · exact .of_failed nofun rfl
  split
  · exact .of_failed nofun rfl
  split
  · exact .of_failed nofun rfl
  split
  · exact .of_failed nofun rfl
  · exact ⟨fun failed => absurd rfl failed, fun _ => ⟨trivial, rfl⟩⟩

theorem mouseSwitch_commanded (command : RtU8) (source target : RtDriverState)
    (driver : RtMouseDriver) (m : Machine σ) :
    MouseCommanded driver (mouseSwitch hw outputFull command source target driver m) (· = source)
      { driver with base.state := target } := by
  unfold mouseSwitch
  dsimp only
  split
  · exact .of_failed nofun rfl
  split
  · exact .of_failed nofun rfl
  · rename_i permitted _
    exact ⟨fun failed => absurd rfl failed, fun _ => ⟨not_not.mp permitted, rfl⟩⟩

theorem mouseSetSampleRate_commanded (driver : RtMouseDriver) (rate : RtU8) (m : Machine σ) :
    MouseCommanded driver (mouseSetSampleRate hw outputFull driver rate m) (· = .ready)
      { driver with data.sampleRate := rate } := by
  unfold mouseSetSampleRate
  dsimp only
  split
  · exact .of_failed nofun rfl
  split
  · exact .of_failed nofun rfl
  · rename_i permitted _
    exact ⟨fun failed => absurd rfl failed, fun _ => ⟨not_not.mp permitted, rfl⟩⟩

/-- What one command keeps of a driver, its change does. -/
theorem MouseCommanded.keeps {driver change : RtMouseDriver} {result : MouseResult σ}
    {source : RtDriverState → Prop} (commanded : MouseCommanded driver result source change)
    {P : RtMouseDriver → Prop} (here : P driver) (changed : P change) :
    P (driver.after result).1 := by
  by_cases success : result.code = .success
  · rw [RtMouseDriver.after, (commanded.done success).2]
    exact changed
  · rw [RtMouseDriver.after, commanded.failed success]
    exact here

/-! ## The invariant -/

/-- What holds of the driver between two operations. -/
structure MouseInvariant (driver : RtMouseDriver) : Prop where
  index : driver.packetIndex.toNat ≤ 2
  complete : driver.packetComplete = false
  begun : 1 ≤ driver.packetIndex.toNat → driver.packet[0] &&& 0x30 ≠ 0
  state : driver.base.state = .uninitialized ∨ driver.base.state = .ready ∨
    driver.base.state = .running

/-- A driver between two operations holds its unfinished frame. -/
theorem MouseInvariant.collecting {driver : RtMouseDriver} (inv : MouseInvariant driver) :
    Collecting driver driver.part := by
  have length : driver.part.length = driver.packetIndex.toNat := by
    have room : driver.packetIndex.toNat ≤ mousePacketSize := Nat.le_succ_of_le inv.index
    rw [RtMouseDriver.part, List.length_take, Vector.length_toList, Nat.min_eq_left room]
  refine ⟨length.symm, by rw [length]; rfl, by rw [length]; exact inv.index, ?_⟩
  intro b head
  by_cases used : 1 ≤ driver.packetIndex.toNat
  · have first : driver.part.head? = some driver.packet[0] := by
      rw [RtMouseDriver.part, packet_toList, List.head?_take, if_neg (by omega)]
      rfl
    rw [first] at head
    cases head
    simpa [mouseStartsPacket] using inv.begun used
  · rw [List.length_eq_zero_iff.mp (by omega : driver.part.length = 0)] at head
    cases head

/-- The packet under construction is the unfinished frame that the driver holds. -/
theorem Collecting.part_eq {driver : RtMouseDriver} {part : List RtU8}
    (h : Collecting driver part) : driver.part = part := by
  rw [RtMouseDriver.part, h.index, h.packet]

theorem MouseInvariant.of_collected {driver driver' : RtMouseDriver}
    {frames : List (List RtU8)} {part : List RtU8} (inv : MouseInvariant driver)
    (collected : Collected driver driver' frames part) : MouseInvariant driver' where
  index := by rw [collected.collecting.index]; exact collected.collecting.unfinished.short
  complete := collected.complete inv.complete
  begun := by
    intro used
    have held := collected.collecting.part_eq
    have first : driver'.part.head? = some driver'.packet[0] := by
      rw [RtMouseDriver.part, packet_toList, List.head?_take, if_neg (by omega)]
      rfl
    rw [held] at first
    have starts := collected.collecting.unfinished.begun _ first
    simpa [mouseStartsPacket] using starts
  state := by rw [collected.base]; exact inv.state

/-! ## One operation -/

/-- What a run does to the data: the packets it completes are folded into them, each once and
in order, and each is reported if there is a callback. `Mouse_SetSampleRate` changes a field of
the data that packets leave alone. -/
structure MouseAdvance (driver : RtMouseDriver) (packets : List (List RtU8))
    (replies : List MouseReply) (driver' : RtMouseDriver) : Prop where
  data : driver'.data =
    { packets.foldl applyPacket driver.data with sampleRate := driver'.data.sampleRate }
  callback : driver'.callback = driver.callback
  reported : (replies.flatMap MouseReply.reported).map report =
    (packetCallbacks driver packets).map report

theorem MouseAdvance.nil (driver : RtMouseDriver) : MouseAdvance driver [] [] driver :=
  ⟨rfl, rfl, by simp [packetCallbacks, packetHistory]⟩

theorem applyPacket_sampleRate (data : MouseData) (rate : RtU8) (packet : List RtU8) :
    applyPacket { data with sampleRate := rate } packet =
      { applyPacket data packet with sampleRate := rate } := by
  unfold applyPacket
  split <;> rfl

theorem foldl_applyPacket_sampleRate (data : MouseData) (rate : RtU8)
    (packets : List (List RtU8)) :
    packets.foldl applyPacket { data with sampleRate := rate } =
      { packets.foldl applyPacket data with sampleRate := rate } := by
  induction packets generalizing data with
  | nil => rfl
  | cons packet packets ih =>
    rw [List.foldl_cons, List.foldl_cons, applyPacket_sampleRate, ih]

theorem packetHistory_sampleRate (data : MouseData) (rate : RtU8) (packets : List (List RtU8)) :
    (packetHistory { data with sampleRate := rate } packets).map report =
      (packetHistory data packets).map report := by
  induction packets generalizing data with
  | nil => rfl
  | cons packet packets ih =>
    rw [packetHistory, packetHistory, List.map_cons, List.map_cons, applyPacket_sampleRate, ih]
    rfl

theorem MouseAdvance.trans {driver driver' driver'' : RtMouseDriver}
    {packets packets' : List (List RtU8)} {replies replies' : List MouseReply}
    (first : MouseAdvance driver packets replies driver')
    (next : MouseAdvance driver' packets' replies' driver'') :
    MouseAdvance driver (packets ++ packets') (replies ++ replies') driver'' where
  data := by
    rw [next.data, first.data, foldl_applyPacket_sampleRate, List.foldl_append]
  callback := next.callback.trans first.callback
  reported := by
    rw [List.flatMap_append, List.map_append, first.reported, next.reported, packetCallbacks,
      packetCallbacks, packetCallbacks, first.callback]
    cases driver.callback with
    | false => rfl
    | true =>
      rw [if_pos rfl, if_pos rfl, if_pos rfl, packetHistory_append, List.map_append, first.data]
      exact congrArg _ (packetHistory_sampleRate _ _ _)

/-- What the next byte completes. -/
theorem push_part {driver : RtMouseDriver} (inv : MouseInvariant driver) (b : RtU8) :
    (Framing.push mouseStartsPacket 2 driver.part b).2.toList =
      if driver.packetIndex = 2 then [driver.part ++ [b]] else [] := by
  have below := inv.index
  have index : driver.packetIndex = 0 ∨ driver.packetIndex = 1 ∨ driver.packetIndex = 2 := by
    bv_omega
  have list := packet_toList driver.packet
  rcases index with index | index | index
  · simp only [RtMouseDriver.part, index, Framing.push]
    cases mouseStartsPacket b <;> simp
  · simp [RtMouseDriver.part, index, list, Framing.push]
  · simp [RtMouseDriver.part, index, list, Framing.push]

/-- The handler of a running driver has room for the byte it reads, and folds the packet that
the byte completes into the data. -/
theorem mouseOperate_interrupt {driver : RtMouseDriver} (inv : MouseInvariant driver)
    (m : Machine σ) (running : driver.base.state = .running) :
    ∃ driver' part, mouseOperate hw outputFull driver (.interrupt, m) = .ok (driver',
        .callbacks (packetCallbacks driver (completedPacket hw driver (.interrupt, m)))) ∧
      Collected driver driver' (completedPacket hw driver (.interrupt, m)) part := by
  obtain ⟨driver', collect, collected⟩ :=
    mouseCollect_push running inv.collecting (ioIn8 hw mouseDataRegister m).1
  have packets : completedPacket hw driver (.interrupt, m) =
      (Framing.push mouseStartsPacket 2 driver.part (ioIn8 hw mouseDataRegister m).1).2.toList := by
    rw [push_part inv, completedPacket]
    simp only [running, true_and]
  rw [packets]
  refine ⟨driver', _, ?_, collected⟩
  simp only [mouseOperate, mouseOperation_interrupt_running hw outputFull m running, collect,
    Except.map, Option.getD_some]

/-- The handler of a driver that is not running does nothing. -/
theorem mouseOperate_interrupt_idle {driver : RtMouseDriver} (m : Machine σ)
    (idle : driver.base.state ≠ .running) :
    mouseOperate hw outputFull driver (.interrupt, m) = .ok (driver, .callbacks []) := by
  rw [mouseOperate, mouseOperation_interrupt_idle hw outputFull m idle, Except.map]

/-- Between two operations no packet is complete, so there is none to process. -/
theorem mouseOperate_processPacket {driver : RtMouseDriver} (inv : MouseInvariant driver)
    (m : Machine σ) :
    mouseOperate hw outputFull driver (.processPacket, m) = .ok (driver, .callbacks []) := by
  simp only [mouseOperate, mouseOperation, mouseProcessPacket, inv.complete, Bool.not_false,
    Bool.true_or, if_true, Option.getD_some, Except.map]

/-- A command completes no packet and touches no field of the data but the sample rate. -/
theorem MouseCommanded.advance {driver change : RtMouseDriver} {result : MouseResult σ}
    {source : RtDriverState → Prop} (commanded : MouseCommanded driver result source change)
    (data : change.data = { driver.data with sampleRate := change.data.sampleRate })
    (callback : change.callback = driver.callback) :
    MouseAdvance driver [] [(driver.after result).2] (driver.after result).1 := by
  have silent : ([(driver.after result).2].flatMap MouseReply.reported).map report =
      (packetCallbacks driver []).map report := by
    simp [RtMouseDriver.after, MouseReply.reported, packetCallbacks, packetHistory]
  exact commanded.keeps (P := fun driver' => MouseAdvance driver [] [(driver.after result).2] driver')
    ⟨rfl, rfl, silent⟩ ⟨data, callback, silent⟩

/-- Every operation is carried out, keeps the invariant, and makes of the data what the packet
it completes makes of them. -/
theorem mouseOperate_step {driver : RtMouseDriver} (inv : MouseInvariant driver)
    (call : MouseOperation × Machine σ) :
    ∃ driver' reply, mouseOperate hw outputFull driver call = .ok (driver', reply) ∧
      MouseInvariant driver' ∧
      MouseAdvance driver (completedPacket hw driver call) [reply] driver' := by
  obtain ⟨operation, m⟩ := call
  have empty : (0 : RtU8).toNat ≤ 2 ∧ ¬ 1 ≤ (0 : RtU8).toNat := by decide
  cases operation with
  | init =>
    have commanded := mouseInit_commanded hw outputFull driver m
    exact ⟨_, _, rfl,
      commanded.keeps inv
        ⟨empty.1, inv.complete, fun used => absurd used empty.2, .inr (.inl rfl)⟩,
      commanded.advance rfl rfl⟩
  | enable =>
    have commanded := mouseSwitch_commanded hw outputFull mouseCmdEnable .ready .running driver m
    exact ⟨_, _, rfl,
      commanded.keeps inv ⟨inv.index, inv.complete, inv.begun, .inr (.inr rfl)⟩,
      commanded.advance rfl rfl⟩
  | disable =>
    have commanded := mouseSwitch_commanded hw outputFull mouseCmdDisable .running .ready driver m
    exact ⟨_, _, rfl,
      commanded.keeps inv ⟨inv.index, inv.complete, inv.begun, .inr (.inl rfl)⟩,
      commanded.advance rfl rfl⟩
  | setSampleRate rate =>
    have commanded := mouseSetSampleRate_commanded hw outputFull driver rate m
    exact ⟨_, _, rfl,
      commanded.keeps inv ⟨inv.index, inv.complete, inv.begun, inv.state⟩,
      commanded.advance rfl rfl⟩
  | interrupt =>
    by_cases running : driver.base.state = .running
    · obtain ⟨driver', part, done, collected⟩ :=
        mouseOperate_interrupt hw outputFull inv m running
      refine ⟨driver', _, done, inv.of_collected collected, by rw [collected.data],
        collected.callback, ?_⟩
      simp [MouseReply.reported]
    · rw [mouseOperate_interrupt_idle hw outputFull m running, completedPacket,
        if_neg fun both => running both.1]
      refine ⟨driver, _, rfl, inv, rfl, rfl, ?_⟩
      simp [MouseReply.reported, packetCallbacks, packetHistory]
  | processPacket =>
    refine ⟨driver, _, mouseOperate_processPacket hw outputFull inv m, inv, rfl, rfl, ?_⟩
    simp [MouseReply.reported, completedPacket, packetCallbacks, packetHistory]

theorem mouseOperate_keeps {driver : RtMouseDriver} (inv : MouseInvariant driver)
    (call : MouseOperation × Machine σ) :
    ∃ driver' reply, mouseOperate hw outputFull driver call = .ok (driver', reply) ∧
      MouseInvariant driver' := by
  obtain ⟨driver', reply, done, inv', _⟩ := mouseOperate_step hw outputFull inv call
  exact ⟨driver', reply, done, inv'⟩

/-! ## Runs -/

/-- A call of `Mouse_ProcessPacket` from outside the handler. -/
def isProcessPacket (call : MouseOperation × Machine σ) : Bool := call.1 = .processPacket

/-- The packets that a run completes, in order. -/
def completedPackets (driver : RtMouseDriver) (calls : List (MouseOperation × Machine σ)) :
    List (List RtU8) :=
  Calls.gather (mouseOperate hw outputFull) (completedPacket hw) driver calls

/-- The invariant holds of an initial driver. -/
theorem mouseInvariant_start {driver : RtMouseDriver} (state : driver.base.state = .uninitialized)
    (index : driver.packetIndex = 0) (complete : driver.packetComplete = false) :
    MouseInvariant driver := by
  refine ⟨by rw [index]; decide, complete, fun used => ?_, .inl state⟩
  rw [index] at used
  exact absurd used (by decide)

/-- From an initial driver every run comes to its end, and keeps the invariant all along. -/
theorem mouseRun_total {driver : RtMouseDriver} (state : driver.base.state = .uninitialized)
    (index : driver.packetIndex = 0) (complete : driver.packetComplete = false)
    (calls : List (MouseOperation × Machine σ)) :
    Calls.Always (mouseOperate hw outputFull) MouseInvariant driver calls ∧
      ∃ driver' replies, Calls.run (mouseOperate hw outputFull) driver calls =
        .ok (driver', replies) :=
  Calls.run_total (fun _ call inv => mouseOperate_keeps hw outputFull inv call)
    (mouseInvariant_start state index complete) calls

/-- From an initial driver every run of operations comes to its end, without a store outside
the packet buffer, and keeps the invariant all along; the calls of `Mouse_ProcessPacket` can be
left out of it without changing the driver it ends in or the replies of the other calls; and
the data at its end are the initial ones with each completed packet folded in once, reported to
the callback in the same order. -/
theorem mouseRun_invariant (driver : RtMouseDriver) (calls : List (MouseOperation × Machine σ))
    (state : driver.base.state = .uninitialized) (index : driver.packetIndex = 0)
    (complete : driver.packetComplete = false) :
    Calls.Always (mouseOperate hw outputFull) MouseInvariant driver calls ∧
      ∃ driver' replies, Calls.run (mouseOperate hw outputFull) driver calls =
          .ok (driver', replies) ∧
        Calls.run (mouseOperate hw outputFull) driver (calls.filter fun call =>
            !isProcessPacket call) =
          .ok (driver', ((calls.zip replies).filter fun event =>
            !isProcessPacket event.1).map Prod.snd) ∧
        (∀ event ∈ calls.zip replies, isProcessPacket event.1 = true →
          event.2 = .callbacks []) ∧
        MouseAdvance driver (completedPackets hw outputFull driver calls) replies driver' := by
  obtain ⟨always, driver', replies, ran⟩ := mouseRun_total hw outputFull state index complete calls
  have stutters : ∀ driver (call : MouseOperation × Machine σ), MouseInvariant driver →
      isProcessPacket call = true →
        mouseOperate hw outputFull driver call = .ok (driver, .callbacks []) := by
    rintro driver ⟨operation, m⟩ inv isProcess
    obtain rfl : operation = .processPacket := by simpa [isProcessPacket] using isProcess
    exact mouseOperate_processPacket hw outputFull inv m
  obtain ⟨filtered, idle⟩ := Calls.run_filter isProcessPacket _ stutters always ran
  refine ⟨always, driver', replies, ran, filtered, idle, ?_⟩
  refine Calls.gather_rel MouseAdvance MouseAdvance.nil MouseAdvance.trans ?_ always ran
  intro driver call driver' reply inv done
  obtain ⟨driver'', reply', done', _, advance⟩ := mouseOperate_step hw outputFull inv call
  obtain ⟨rfl, rfl⟩ := Calls.done_unique done done'
  exact advance

end Runs

/-! ## A run -/

/-- A device that answers its reads one after the other, whatever the port. -/
def scriptHardware : Hardware (List RtU8) where
  input width _ answers := ((answers.headD 0).setWidth width, answers.tail)
  output _ _ _ answers := answers

/-- A call on a machine whose ports are open and whose device gives these answers. -/
def scripted (operation : MouseOperation) (answers : List RtU8) :
    MouseOperation × Machine (List RtU8) :=
  (operation, ⟨ioTablesInit, answers, []⟩)

/-- The static driver object, with a callback set. -/
def mouseInitial : RtMouseDriver :=
  { mouseRunning with base.state := .uninitialized, data.sampleRate := 0 }

/-- Initialisation, and a packet by which the mouse moves left by one. -/
def sampleMouseRun : List (MouseOperation × Machine (List RtU8)) :=
  [scripted .init [1, 0xFA, 1, 0xAA, 1, 0xFA], scripted .enable [1, 0xFA],
    scripted .interrupt [0x18], scripted .processPacket [], scripted .interrupt [0xFF],
    scripted .interrupt [0]]

theorem mouseRun_invariant_left :
    ∃ driver' replies, Calls.run (mouseOperate scriptHardware 0) mouseInitial sampleMouseRun =
        .ok (driver', replies) ∧
      report driver'.data = (-1, 0, 0) := by
  obtain ⟨_, driver', replies, ran, _, _, advance⟩ :=
    mouseRun_invariant scriptHardware 0 mouseInitial sampleMouseRun rfl rfl rfl
  have packets : completedPackets scriptHardware 0 mouseInitial sampleMouseRun =
      [[0x18, 0xFF, 0]] := rfl
  refine ⟨driver', replies, ran, ?_⟩
  rw [advance.data, packets]
  rfl

end LamaOS
