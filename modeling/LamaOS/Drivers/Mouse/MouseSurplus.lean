import LamaOS.Drivers.Mouse.MouseRuns

/-!
# Replies that nobody waits for

The operations send more bytes than they wait for replies, and what is left over goes to the
handler like a movement byte. This module keeps the account over whole runs: of the bytes that
the handler has taken, and those that still wait for it, all but the movement bytes are
replies, two for each initialisation that succeeded and one for each sample rate. How the mouse
moves, and in what order the calls come, does not matter.
-/

namespace LamaOS

/-- A reply to a byte, or the result of the self test. -/
def MouseByte.isReply (e : MouseByte) : Bool := e.origin ≠ .motion

/-- All bytes that the device has put into its queue and kept a record of. -/
def MouseDevice.sent (d : MouseDevice) : List MouseByte := d.taken ++ d.queue

/-- Between two machines `made` replies have come into the queue and `took` bytes have been taken
from it. -/
structure MouseSpent (m m' : Machine MouseDevice) (made took : Nat) : Prop where
  tables : m'.tables = m.tables
  replies : m'.device.sent.countP MouseByte.isReply =
    m.device.sent.countP MouseByte.isReply + made
  taken : m'.device.taken.length = m.device.taken.length + took

namespace MouseSpent

variable {m m' m'' : Machine MouseDevice} {made made' took took' : Nat}

theorem refl (m : Machine MouseDevice) : MouseSpent m m 0 0 := ⟨rfl, rfl, rfl⟩

theorem trans (first : MouseSpent m m' made took) (next : MouseSpent m' m'' made' took') :
    MouseSpent m m'' (made + made') (took + took') where
  tables := next.tables.trans first.tables
  replies := by rw [next.replies, first.replies, Nat.add_assoc]
  taken := by rw [next.taken, first.taken, Nat.add_assoc]

theorem ports (spent : MouseSpent m m' made took) (ports : MousePortsOpen m) : MousePortsOpen m' :=
  ports.of_tables spent.tables

end MouseSpent

theorem AllMotion.countP_isReply {bytes : List MouseByte} (motion : AllMotion bytes) :
    bytes.countP MouseByte.isReply = 0 := by
  rw [List.countP_eq_zero]
  intro e mem
  simp [MouseByte.isReply, motion e mem]

theorem MouseDevice.countP_replies (d : MouseDevice) (value : RtU8) :
    (d.replies value).countP MouseByte.isReply = if value = mouseCmdReset then 2 else 1 := by
  unfold MouseDevice.replies
  split
  · rfl
  · rfl

theorem MouseWrote.spent {m m' : Machine MouseDevice} {value : RtU8} {arrived : List MouseByte}
    (wrote : MouseWrote m m' value arrived) :
    MouseSpent m m' (if value = mouseCmdReset then 2 else 1) 0 where
  tables := wrote.tables
  replies := by
    rw [MouseDevice.sent, wrote.taken, wrote.queue, ← List.append_assoc, ← List.append_assoc,
      List.countP_append, List.countP_append, wrote.motion.countP_isReply,
      MouseDevice.countP_replies]
    rfl
  taken := congrArg List.length wrote.taken

theorem MouseTook.spent {m m' : Machine MouseDevice} {e : MouseByte} {rest : List MouseByte}
    (took : MouseTook m m' e rest) (head : m.device.queue = e :: rest) : MouseSpent m m' 0 1 where
  tables := took.tables
  replies := by
    obtain ⟨moved, motion, -, queue⟩ := took.queue
    rw [MouseDevice.sent, took.taken, queue, MouseDevice.sent, head, ← List.append_assoc,
      List.countP_append, motion.countP_isReply, List.append_assoc]
    rfl
  taken := by rw [took.taken, List.length_append]; rfl

section Calls

variable (env : MouseSurroundings) (outputFull : Fin 8)

/-! ## What the operations spend -/

theorem ioOut8_command_spent {m : Machine MouseDevice} (ports : MousePortsOpen m) (value : RtU8) :
    MouseSpent m (ioOut8 (mouseHardware env outputFull) mouseCommandRegister value m) 0 0 := by
  obtain ⟨tables, device⟩ := ioOut8_command env outputFull ports value
  refine ⟨tables, ?_, by rw [device]; rfl⟩
  rw [device, MouseDevice.sent, MouseDevice.arrive, ← List.append_assoc, List.countP_append,
    (allMotion_arrivals env m.device).countP_isReply]
  rfl

/-- A byte is written, and a reply is waited for. -/
theorem mouseWaitAck_spent {m : Machine MouseDevice} (ports : MousePortsOpen m) (value : RtU8) :
    ∃ e rest m', (ioOut8 (mouseHardware env outputFull) mouseDataRegister value
        m).device.queue = e :: rest ∧
      mouseWaitAck (mouseHardware env outputFull) outputFull
        (ioOut8 (mouseHardware env outputFull) mouseDataRegister value m) =
          (e.byte == 0xFA, m') ∧
      rest <+: m'.device.queue ∧
      MouseSpent m m' (if value = mouseCmdReset then 2 else 1) 1 := by
  have wrote := (ioOut8_wrote env outputFull ports value).spent
  obtain ⟨e, rest, m', head, ack, took⟩ := mouseWaitAck_wrote env outputFull ports value
  obtain ⟨moved, -, -, queue⟩ := took.queue
  exact ⟨e, rest, m', head, ack, ⟨moved, queue.symm⟩, wrote.trans (took.spent head)⟩

variable {world : MouseWorld}

/-- What an initialisation spends: of the replies that come in it takes two less if it succeeds,
and at most one less if it fails. -/
def InitSpent (m : Machine MouseDevice) (result : MouseResult MouseDevice) : Prop :=
  ∃ took left, MouseSpent m result.machine (took + left) took ∧
    (result.code = .success ∧ left = 2 ∨ result.code = .hardwareFault ∧ left ≤ 1)

theorem mouseInit_spent {m : Machine MouseDevice} (ports : MousePortsOpen m)
    (driver : RtMouseDriver) :
    InitSpent m (mouseInit (mouseHardware env outputFull) outputFull driver m) := by
  have off := ioOut8_command_spent env outputFull ports 0xA7
  have ports₁ := off.ports ports
  obtain ⟨e₁, rest, m₃, head, ack, kept, reset⟩ :=
    mouseWaitAck_spent env outputFull ports₁ mouseCmdReset
  have spent₃ := off.trans reset
  cases isAck : e₁.byte == 0xFA with
  | false =>
    rw [isAck] at ack
    have result : mouseInit (mouseHardware env outputFull) outputFull driver m =
        ⟨.hardwareFault, driver, m₃⟩ := by
      simp only [mouseInit, ack, Bool.not_false, if_true]
    rw [result]
    exact ⟨1, 1, spent₃, .inr ⟨rfl, Nat.le_refl 1⟩⟩
  | true =>
    rw [isAck] at ack
    -- the reset has two replies, so there is something behind the byte that was taken
    have two : 2 ≤ (e₁ :: rest).length := by
      rw [← head, (ioOut8_wrote env outputFull ports₁ mouseCmdReset).queue]
      simp only [MouseDevice.replies, if_true, List.length_append, List.length_cons,
        List.length_nil]
      omega
    have pending : m₃.device.queue ≠ [] := by
      intro empty
      rw [empty, List.prefix_nil] at kept
      rw [kept] at two
      exact Nat.not_succ_le_self 1 two
    obtain ⟨e₂, rest₂, head₂⟩ := List.exists_cons_of_ne_nil pending
    obtain ⟨m₄, ready, value, took⟩ :=
      mouseWaitOutput_read_took env outputFull (spent₃.ports ports) head₂
    have spent₅ := spent₃.trans (took.spent head₂)
    by_cases test : e₂.byte = 0xAA
    · obtain ⟨e₃, _, m₆, _, ack', -, enable⟩ :=
        mouseWaitAck_spent env outputFull (spent₅.ports ports) mouseCmdEnable
      have spent₆ := spent₅.trans enable
      cases isAck' : e₃.byte == 0xFA with
      | false =>
        rw [isAck'] at ack'
        have result : mouseInit (mouseHardware env outputFull) outputFull driver m =
            ⟨.hardwareFault, driver, m₆⟩ := by
          simp only [mouseInit, ack, ready, value, test, ack', Bool.not_true, Bool.false_eq_true,
            if_false, ne_eq, not_true_eq_false, Bool.not_false, if_true]
        rw [result]
        exact ⟨3, 0, spent₆, .inr ⟨rfl, Nat.zero_le 1⟩⟩
      | true =>
        rw [isAck'] at ack'
        -- the last two bytes are written and nothing is taken
        have rate := (ioOut8_wrote env outputFull (spent₆.ports ports) mouseCmdSetSampleRate).spent
        have spent₇ := spent₆.trans rate
        have last := (ioOut8_wrote env outputFull (spent₇.ports ports) 100).spent
        have result : mouseInit (mouseHardware env outputFull) outputFull driver m =
            ⟨.success, some { driver with packetIndex := 0, base.state := .ready },
              ioOut8 (mouseHardware env outputFull) mouseDataRegister 100
                (ioOut8 (mouseHardware env outputFull) mouseDataRegister mouseCmdSetSampleRate
                  m₆)⟩ := by
          simp only [mouseInit, ack, ready, value, test, ack', Bool.not_true, Bool.false_eq_true,
            if_false, ne_eq, not_true_eq_false]
        rw [result]
        exact ⟨3, 2, spent₇.trans last, .inl ⟨rfl, rfl⟩⟩
    · have result : mouseInit (mouseHardware env outputFull) outputFull driver m =
          ⟨.hardwareFault, driver,
            (ioIn8 (mouseHardware env outputFull) mouseDataRegister m₄).2⟩ := by
        simp only [mouseInit, ack, ready, value, test, Bool.not_true, Bool.false_eq_true,
          if_false, ne_eq, not_false_eq_true, if_true]
      rw [result]
      exact ⟨2, 0, spent₅, .inr ⟨rfl, Nat.zero_le 1⟩⟩

/-- `Mouse_Enable` and `Mouse_Disable` take as much as they cause. -/
theorem mouseSwitch_spent {m : Machine MouseDevice} (ports : MousePortsOpen m) {command : RtU8}
    (notReset : command ≠ mouseCmdReset) (source target : RtDriverState)
    (driver : RtMouseDriver) :
    ∃ k, MouseSpent m (mouseSwitch (mouseHardware env outputFull) outputFull command source target
      driver m).machine k k := by
  by_cases state : driver.base.state = source
  · obtain ⟨e, rest, m', -, ack, -, spent⟩ := mouseWaitAck_spent env outputFull ports command
    rw [if_neg notReset] at spent
    refine ⟨1, ?_⟩
    simp only [mouseSwitch, state, ne_eq, not_true_eq_false, if_false, ack]
    split
    · exact spent
    · exact spent
  · refine ⟨0, ?_⟩
    simp only [mouseSwitch, state, ne_eq, not_false_eq_true, if_true]
    exact .refl m

/-- `Mouse_SetSampleRate` takes one of the replies it causes: two, or three if the rate is the
reset byte. -/
theorem mouseSetSampleRate_spent {m : Machine MouseDevice} (ports : MousePortsOpen m)
    (rate : RtU8) {driver : RtMouseDriver} (ready : driver.base.state = .ready) :
    MouseSpent m (mouseSetSampleRate (mouseHardware env outputFull) outputFull driver rate
        m).machine (1 + if rate = mouseCmdReset then 2 else 1) 1 ∧
      (mouseSetSampleRate (mouseHardware env outputFull) outputFull driver rate m).code ≠
        .invalidParameter := by
  have wrote := (ioOut8_wrote env outputFull ports mouseCmdSetSampleRate).spent
  obtain ⟨e, rest, m', -, ack, -, spent⟩ :=
    mouseWaitAck_spent env outputFull (wrote.ports ports) rate
  have both := wrote.trans spent
  simp only [mouseSetSampleRate, ready, ne_eq, not_true_eq_false, if_false, ack]
  split
  · exact ⟨both, by simp⟩
  · exact ⟨both, by simp⟩

/-! ## The account of a run -/

/-- The bytes that a call gives to the handler. -/
def handlerTakes (world : MouseWorld) : MouseCall → List MouseByte
  | .interrupt =>
    if world.driver.base.state = .running then (world.machine.device.arrive env).queue.take 1
    else []
  | _ => []

/-- The replies that a call causes and does not take, by what it returns. -/
def unanswered : MouseCall × MouseReply → Nat
  | (.init, .code .success) => 2
  | (.setSampleRate rate, .code code) =>
    if code = .invalidParameter then 0 else if rate = mouseCmdReset then 2 else 1
  | _ => 0

/-- An initialisation that failed: it may have left one, and its code does not tell. -/
def initFailed (done : MouseCall × MouseReply) : Bool := done = (.init, .code .hardwareFault)

/-- Between calls: open ports, and room for a byte. -/
structure MouseOpen (world : MouseWorld) : Prop where
  ports : MousePortsOpen world.machine
  room : world.driver.packetIndex.toNat < mousePacketSize

/-- What calls have spent, with the bytes that went to the handler, and what the calls returned. -/
structure Accounted (before after : MouseWorld) (handled : List MouseByte)
    (done : List (MouseCall × MouseReply)) : Prop where
  spent : ∃ made took left, MouseSpent before.machine after.machine made took ∧
    made + handled.length = took + left ∧ (done.map unanswered).sum ≤ left ∧
    left ≤ (done.map unanswered).sum + done.countP initFailed
  room : after.driver.packetIndex.toNat < mousePacketSize

theorem Accounted.of_spent {before after : MouseWorld} {handled : List MouseByte}
    {call : MouseCall} {reply : MouseReply} {made took : Nat}
    (spent : MouseSpent before.machine after.machine made took)
    (balance : made + handled.length = took + unanswered (call, reply))
    (room : after.driver.packetIndex.toNat < mousePacketSize) :
    Accounted before after handled [(call, reply)] where
  spent := ⟨made, took, _, spent, balance, by simp, by simp⟩
  room := room

theorem Accounted.trans {first second third : MouseWorld} {handled handled' : List MouseByte}
    {done done' : List (MouseCall × MouseReply)} (here : Accounted first second handled done)
    (later : Accounted second third handled' done') :
    Accounted first third (handled ++ handled') (done ++ done') where
  spent := by
    obtain ⟨made, took, left, spent, balance, low, high⟩ := here.spent
    obtain ⟨made', took', left', spent', balance', low', high'⟩ := later.spent
    refine ⟨made + made', took + took', left + left', spent.trans spent', ?_, ?_, ?_⟩
    · rw [List.length_append]
      omega
    · rw [List.map_append, List.sum_append]
      omega
    · rw [List.map_append, List.sum_append, List.countP_append]
      omega
  room := later.room

/-- The handler takes the head of the queue, if there is one. -/
theorem mouseInterrupt_accounted (opened : MouseOpen world) :
    ∃ after reply, mouseCall env outputFull world .interrupt = .ok (after, reply) ∧
      Accounted world after (handlerTakes env world .interrupt) [(.interrupt, reply)] := by
  by_cases running : world.driver.base.state = .running
  · obtain ⟨tables, value, device⟩ := ioIn8_data env outputFull opened.ports
    obtain ⟨driver, callbacks, collected, room⟩ :=
      mouseCollect_room opened.room ((world.machine.device.arrive env).read env).1
    have handled : mouseCall env outputFull world .interrupt =
        .ok (⟨driver, (ioIn8 (mouseHardware env outputFull) mouseDataRegister world.machine).2⟩,
          .callbacks callbacks) := by
      rw [mouseCall, MouseCall.operation, mouseOperation_interrupt_running _ outputFull _ running,
        value, collected]
      rfl
    refine ⟨_, _, handled, ?_⟩
    -- what comes in before the read are movement bytes
    have arrived : (world.machine.device.arrive env).sent.countP MouseByte.isReply =
        world.machine.device.sent.countP MouseByte.isReply := by
      rw [MouseDevice.sent, MouseDevice.arrive, ← List.append_assoc, List.countP_append,
        (allMotion_arrivals env world.machine.device).countP_isReply]
      rfl
    rw [handlerTakes, if_pos running]
    cases queue : (world.machine.device.arrive env).queue with
    | nil =>
      rw [MouseDevice.read, queue] at device
      have spent : MouseSpent world.machine
          (ioIn8 (mouseHardware env outputFull) mouseDataRegister world.machine).2 0 0 :=
        ⟨tables, by rw [device]; exact arrived, by rw [device]; rfl⟩
      exact .of_spent spent rfl room
    | cons e rest =>
      rw [MouseDevice.read, queue] at device
      have spent : MouseSpent world.machine
          (ioIn8 (mouseHardware env outputFull) mouseDataRegister world.machine).2 0 1 := by
        refine ⟨tables, ?_, ?_⟩
        · rw [← arrived, device, MouseDevice.sent, MouseDevice.sent, queue, List.append_assoc]
          rfl
        · rw [device, List.length_append]
          rfl
      exact .of_spent spent rfl room
  · rw [handlerTakes, if_neg running]
    exact ⟨world, _, mouseCall_interrupt_idle env outputFull running,
      .of_spent (.refl _) rfl opened.room⟩

theorem mouseCall_accounted (opened : MouseOpen world) (call : MouseCall) :
    ∃ after reply, mouseCall env outputFull world call = .ok (after, reply) ∧
      Accounted world after (handlerTakes env world call) [(call, reply)] := by
  cases call with
  | init =>
    have room := (mouseInit_commanded (mouseHardware env outputFull) outputFull world.driver
      world.machine).keeps (P := fun driver => driver.packetIndex.toNat < mousePacketSize)
        opened.room (by decide : (0 : RtU8).toNat < mousePacketSize)
    obtain ⟨took, left, spent, outcome⟩ :=
      mouseInit_spent env outputFull opened.ports world.driver
    refine ⟨_, _, rfl, ⟨_, took, left, spent, rfl, ?_, ?_⟩, room⟩
    · rcases outcome with ⟨code, rfl⟩ | ⟨code, small⟩
      · simp [RtMouseDriver.commanded, code, unanswered]
      · simp [RtMouseDriver.commanded, code, unanswered]
    · rcases outcome with ⟨code, rfl⟩ | ⟨code, small⟩
      · simp [RtMouseDriver.commanded, code, unanswered]
      · simpa [RtMouseDriver.commanded, code, unanswered, initFailed] using small
  | enable =>
    have room := (mouseSwitch_commanded (mouseHardware env outputFull) outputFull mouseCmdEnable
      .ready .running world.driver world.machine).keeps
        (P := fun driver => driver.packetIndex.toNat < mousePacketSize) opened.room opened.room
    obtain ⟨k, spent⟩ := mouseSwitch_spent env outputFull opened.ports
      (by decide : mouseCmdEnable ≠ mouseCmdReset) .ready .running world.driver
    exact ⟨_, _, rfl, .of_spent spent rfl room⟩
  | disable =>
    have room := (mouseSwitch_commanded (mouseHardware env outputFull) outputFull mouseCmdDisable
      .running .ready world.driver world.machine).keeps
        (P := fun driver => driver.packetIndex.toNat < mousePacketSize) opened.room opened.room
    obtain ⟨k, spent⟩ := mouseSwitch_spent env outputFull opened.ports
      (by decide : mouseCmdDisable ≠ mouseCmdReset) .running .ready world.driver
    exact ⟨_, _, rfl, .of_spent spent rfl room⟩
  | setSampleRate rate =>
    have room := (mouseSetSampleRate_commanded (mouseHardware env outputFull) outputFull
      world.driver rate world.machine).keeps
        (P := fun driver => driver.packetIndex.toNat < mousePacketSize) opened.room opened.room
    by_cases ready : world.driver.base.state = .ready
    · obtain ⟨spent, sent⟩ := mouseSetSampleRate_spent env outputFull opened.ports rate ready
      refine ⟨_, _, rfl, .of_spent spent ?_ room⟩
      simp only [unanswered, RtMouseDriver.commanded, if_neg sent, handlerTakes, List.length_nil,
        Nat.add_zero]
    · have refused := mouseSetSampleRate_idle env outputFull rate ready
      refine ⟨world, .code .invalidParameter, ?_, .of_spent (.refl _) rfl opened.room⟩
      rw [mouseCall, MouseCall.operation, mouseOperation, refused]
      rfl
  | interrupt => exact mouseInterrupt_accounted env outputFull opened

/-- The account of a run is the one of its calls. -/
theorem mouseRun_accounted (opened : MouseOpen world) (calls : List MouseCall) :
    ∃ after replies, Calls.run (mouseCall env outputFull) world calls = .ok (after, replies) ∧
      Accounted world after (Calls.gather (mouseCall env outputFull) (handlerTakes env) world calls)
        (calls.zip replies) := by
  induction calls generalizing world with
  | nil =>
    exact ⟨world, [], rfl, ⟨0, 0, 0, .refl _, rfl, Nat.le_refl 0, Nat.le_refl 0⟩, opened.room⟩
  | cons call calls ih =>
    obtain ⟨next, reply, first, here⟩ := mouseCall_accounted env outputFull opened call
    obtain ⟨_, _, _, spent, -⟩ := here.spent
    obtain ⟨after, replies, ran, later⟩ := ih ⟨spent.ports opened.ports, here.room⟩
    refine ⟨after, reply :: replies, by simp only [Calls.run, first, ran, Except.map], ?_⟩
    rw [Calls.gather, first]
    exact here.trans later

/-- Every run of the five functions, in any order and however the mouse moves, is carried out. From
an empty queue, the bytes that the handler has taken in the run and those that wait in the queue
at its end are as many as all movement bytes and the replies that nobody has waited for: two for
each initialisation that succeeded, one for each sample rate that was sent, or two if it is the
reset byte, and at most one for each initialisation that failed. -/
theorem mouseRun_surplus (world : MouseWorld) (ports : MousePortsOpen world.machine)
    (room : world.driver.packetIndex.toNat < mousePacketSize)
    (empty : world.machine.device.queue = []) (fresh : world.machine.device.taken = [])
    (calls : List MouseCall) :
    ∃ world' replies, Calls.run (mouseCall env outputFull) world calls = .ok (world', replies) ∧
      world'.machine.device.sent.countP (fun e => e.origin = .motion) +
          ((calls.zip replies).map unanswered).sum ≤
        (Calls.gather (mouseCall env outputFull) (handlerTakes env) world calls).length +
          world'.machine.device.queue.length ∧
      (Calls.gather (mouseCall env outputFull) (handlerTakes env) world calls).length +
          world'.machine.device.queue.length ≤
        world'.machine.device.sent.countP (fun e => e.origin = .motion) +
          ((calls.zip replies).map unanswered).sum + (calls.zip replies).countP initFailed := by
  obtain ⟨world', replies, ran, account⟩ := mouseRun_accounted env outputFull ⟨ports, room⟩ calls
  obtain ⟨made, took, left, spent, balance, low, high⟩ := account.spent
  have start : world.machine.device.sent = [] := by
    rw [MouseDevice.sent, empty, fresh]
    rfl
  have replied := spent.replies
  have taken := spent.taken
  rw [start, List.countP_nil, Nat.zero_add] at replied
  rw [fresh, List.length_nil, Nat.zero_add] at taken
  -- every byte is a movement byte or a reply, and was taken or waits
  have kinds : world'.machine.device.sent.length =
      world'.machine.device.sent.countP MouseByte.isReply +
        world'.machine.device.sent.countP (fun e => ¬ e.isReply = true) :=
    List.length_eq_countP_add_countP MouseByte.isReply
  have places : world'.machine.device.sent.length =
      world'.machine.device.taken.length + world'.machine.device.queue.length :=
    List.length_append
  have moved : world'.machine.device.sent.countP (fun e => ¬ e.isReply = true) =
      world'.machine.device.sent.countP (fun e => e.origin = .motion) :=
    List.countP_congr fun e _ => by simp [MouseByte.isReply]
  rw [moved, places, taken, replied] at kinds
  exact ⟨world', replies, ran, by omega, by omega⟩

/-- The mouse is initialised and enabled and does not move: two bytes wait for the handler. -/
theorem mouseRun_surplus_enabled : ∃ world' replies,
    Calls.run (mouseCall sampleSurroundings 0) sampleMouseWorld [.init, .enable] =
        .ok (world', replies) ∧ 2 ≤ world'.machine.device.queue.length := by
  obtain ⟨world', replies, ran, low, -⟩ := mouseRun_surplus sampleSurroundings 0 sampleMouseWorld
    ⟨rfl, rfl⟩ (by decide) rfl rfl [.init, .enable]
  obtain ⟨_, done⟩ : ∃ after, Calls.run (mouseCall sampleSurroundings 0) sampleMouseWorld
      [.init, .enable] = .ok (after, [.code .success, .code .success]) := ⟨_, rfl⟩
  obtain ⟨-, rfl⟩ := Calls.done_unique done ran
  refine ⟨world', _, ran, ?_⟩
  have none : Calls.gather (mouseCall sampleSurroundings 0) (handlerTakes sampleSurroundings)
      sampleMouseWorld [.init, .enable] = [] := rfl
  rw [none, List.length_nil, Nat.zero_add] at low
  exact Nat.le_trans (Nat.le_add_left 2 _) low

end Calls

end LamaOS
