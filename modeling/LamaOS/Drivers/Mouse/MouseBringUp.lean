import LamaOS.Drivers.Mouse.MouseResync

/-!
# From an idle mouse to the first reports

`Mouse_Init` and `Mouse_Enable`, one after the other, and then the interrupts: what comes out
is decided by the queue of the device alone. The initialisation leaves the replies to its last
two bytes there, and `Mouse_Enable` adds its own and takes one, so two replies or more are read
by the handler as movement. This module follows the queue access by access, and says which
bytes the handler reads and what it makes of them.
-/

namespace LamaOS

namespace MouseSurroundings

variable (env : MouseSurroundings)

/-- The movement bytes that come with an access. -/
def arriving (reporting : Bool) (clock : Nat) : List RtU8 :=
  if reporting then env.moves clock else []

/-- The movement bytes that come with `n` accesses, while the mouse reports. -/
def movesDuring (clock n : Nat) : List RtU8 :=
  (List.range n).flatMap fun i => env.moves (clock + i)

/-- What `n` reads in a row get from a mouse that reports. -/
def readings (queue : List RtU8) (clock : Nat) : Nat → List RtU8
  | 0 => []
  | n + 1 => (queue ++ env.moves clock).headD (env.stale (clock + 1)) ::
      readings (queue ++ env.moves clock).tail (clock + 1) n

/-- What these reads leave in the queue. -/
def left (queue : List RtU8) (clock : Nat) : Nat → List RtU8
  | 0 => queue
  | n + 1 => left (queue ++ env.moves clock).tail (clock + 1) n

/-- The bytes in the queue after the initialisation of a mouse that was idle at `clock`. -/
def initQueue (clock : Nat) : List RtU8 :=
  env.movesDuring (clock + 7) 3 ++ [0xFA] ++ env.moves (clock + 10) ++ [0xFA]

/-- The bytes from which `Mouse_Enable` takes the first, and which it leaves to the handler. -/
def enableQueue (clock : Nat) : List RtU8 :=
  env.initQueue clock ++ env.moves (clock + 11) ++ [0xFA] ++ env.movesDuring (clock + 12) 2

theorem movesDuring_zero (clock : Nat) : env.movesDuring clock 0 = [] := rfl

theorem movesDuring_succ (clock n : Nat) :
    env.movesDuring clock (n + 1) = env.moves clock ++ env.movesDuring (clock + 1) n := by
  rw [movesDuring, List.range_succ_eq_map, List.flatMap_cons, List.flatMap_map]
  congr 1
  refine List.flatMap_congr fun i _ => ?_
  rw [Nat.succ_eq_add_one, Nat.add_right_comm, Nat.add_assoc clock]

theorem movesDuring_two (clock : Nat) :
    env.movesDuring clock 2 = env.moves clock ++ env.moves (clock + 1) := by
  rw [movesDuring_succ, movesDuring_succ, movesDuring_zero, List.append_nil]

theorem movesDuring_three (clock : Nat) :
    env.movesDuring clock 3 =
      env.moves clock ++ env.moves (clock + 1) ++ env.moves (clock + 2) := by
  rw [movesDuring_succ, movesDuring_two, List.append_assoc]

end MouseSurroundings

/-! ## The queue, access by access -/

/-- Behind open ports, what the queue holds and when. -/
structure MouseShows (m : Machine MouseDevice) (reporting : Bool) (queue : List RtU8)
    (clock : Nat) : Prop where
  ports : MousePortsOpen m
  reporting : m.device.reporting = reporting
  queue : m.device.queue.map MouseByte.byte = queue
  clock : m.device.clock = clock

/-- Whether a mouse reports that was sent a byte. -/
def mouseModeAfter (value : RtU8) (reporting : Bool) : Bool :=
  if value = mouseCmdEnable then true
  else if value = mouseCmdDisable ∨ value = mouseCmdReset then false
  else reporting

/-- What a byte is replied to with. -/
def mouseRepliesTo (value : RtU8) : List RtU8 :=
  0xFA :: if value = mouseCmdReset then [0xAA] else []

section Accesses

variable (env : MouseSurroundings) (outputFull : Fin 8)
variable {m : Machine MouseDevice} {reporting : Bool} {queue : List RtU8} {clock : Nat}

theorem MouseShows.arrive (shows : MouseShows m reporting queue clock) :
    (m.device.arrive env).reporting = reporting ∧
      (m.device.arrive env).queue.map MouseByte.byte = queue ++ env.arriving reporting clock ∧
      (m.device.arrive env).clock = clock + 1 := by
  refine ⟨shows.reporting, ?_, congrArg Nat.succ shows.clock⟩
  rw [MouseDevice.arrive, List.map_append, shows.queue, MouseDevice.arrivals, shows.reporting,
    shows.clock, MouseSurroundings.arriving]
  cases reporting with
  | false => rfl
  | true => simp [Function.comp_def]

theorem ioOut8_shows (shows : MouseShows m reporting queue clock) (value : RtU8) :
    MouseShows (ioOut8 (mouseHardware env outputFull) mouseDataRegister value m)
      (mouseModeAfter value reporting)
      (queue ++ env.arriving reporting clock ++ mouseRepliesTo value) (clock + 1) := by
  obtain ⟨mode, bytes, time⟩ := shows.arrive env
  obtain ⟨tables, device⟩ := ioOut8_data env outputFull shows.ports value
  refine ⟨shows.ports.of_tables tables, ?_, ?_, ?_⟩
  · rw [device, MouseDevice.write, mode, mouseModeAfter]
  · rw [device, MouseDevice.write, List.map_append, bytes, MouseDevice.replies, mouseRepliesTo]
    split
    · rfl
    · rfl
  · rw [device]
    exact time

theorem ioOut8_command_shows (shows : MouseShows m reporting queue clock) (value : RtU8) :
    MouseShows (ioOut8 (mouseHardware env outputFull) mouseCommandRegister value m) reporting
      (queue ++ env.arriving reporting clock) (clock + 1) := by
  obtain ⟨mode, bytes, time⟩ := shows.arrive env
  obtain ⟨tables, device⟩ := ioOut8_command env outputFull shows.ports value
  rw [← device] at mode bytes time
  exact ⟨shows.ports.of_tables tables, mode, bytes, time⟩

theorem ioIn8_shows (shows : MouseShows m reporting queue clock) :
    (ioIn8 (mouseHardware env outputFull) mouseDataRegister m).1 =
        (queue ++ env.arriving reporting clock).headD (env.stale (clock + 1)) ∧
      MouseShows (ioIn8 (mouseHardware env outputFull) mouseDataRegister m).2 reporting
        (queue ++ env.arriving reporting clock).tail (clock + 1) := by
  obtain ⟨mode, bytes, time⟩ := shows.arrive env
  obtain ⟨tables, value, device⟩ := ioIn8_data env outputFull shows.ports
  have ports := shows.ports.of_tables tables
  rw [value, ← bytes]
  unfold MouseDevice.read at device ⊢
  cases held : (m.device.arrive env).queue with
  | nil =>
    simp only [held] at device
    refine ⟨congrArg env.stale time, ports, ?_, ?_, ?_⟩
    · rw [device, mode]
    · rw [device, held]
      rfl
    · rw [device, time]
  | cons e rest =>
    simp only [held] at device
    refine ⟨rfl, ports, ?_, ?_, ?_⟩
    · rw [device, mode]
    · rw [device]
      rfl
    · rw [device, time]

/-- With a byte in the queue the wait takes one access. -/
theorem mouseWaitOutput_shows {byte : RtU8}
    (shows : MouseShows m reporting (byte :: queue) clock) :
    ∃ m', mouseWaitOutput (mouseHardware env outputFull) outputFull m = (true, m') ∧
      MouseShows m' reporting (byte :: queue ++ env.arriving reporting clock) (clock + 1) := by
  obtain ⟨mode, bytes, time⟩ := shows.arrive env
  have pending : m.device.queue ≠ [] := by
    intro empty
    have queue := shows.queue
    rw [empty] at queue
    cases queue
  obtain ⟨ready, tables, device⟩ := mouseWaitOutput_ready env outputFull shows.ports pending
  rw [← device] at mode bytes time
  exact ⟨_, Prod.ext ready rfl, shows.ports.of_tables tables, mode, bytes, time⟩

/-- The wait and the read that takes the byte. -/
theorem mouseWaitOutput_read_shows {byte : RtU8}
    (shows : MouseShows m reporting (byte :: queue) clock) :
    ∃ m', mouseWaitOutput (mouseHardware env outputFull) outputFull m = (true, m') ∧
      (ioIn8 (mouseHardware env outputFull) mouseDataRegister m').1 = byte ∧
      MouseShows (ioIn8 (mouseHardware env outputFull) mouseDataRegister m').2 reporting
        (queue ++ env.arriving reporting clock ++ env.arriving reporting (clock + 1))
        (clock + 2) := by
  obtain ⟨m', ready, shows'⟩ := mouseWaitOutput_shows env outputFull shows
  obtain ⟨value, shows''⟩ := ioIn8_shows env outputFull shows'
  exact ⟨m', ready, value, shows''⟩

theorem mouseWaitAck_shows {byte : RtU8}
    (shows : MouseShows m reporting (byte :: queue) clock) :
    ∃ m', mouseWaitAck (mouseHardware env outputFull) outputFull m = (byte == 0xFA, m') ∧
      MouseShows m' reporting
        (queue ++ env.arriving reporting clock ++ env.arriving reporting (clock + 1))
        (clock + 2) := by
  obtain ⟨m', ready, value, shows'⟩ := mouseWaitOutput_read_shows env outputFull shows
  exact ⟨_, by simp [mouseWaitAck, ready, value], shows'⟩

end Accesses

/-! ## The operations -/

section Operations

variable (env : MouseSurroundings) (outputFull : Fin 8)
variable {m : Machine MouseDevice} {queue : List RtU8} {clock : Nat}

/-- An idle mouse can always be initialised, and two replies are left in the queue. -/
theorem mouseInit_shows (driver : RtMouseDriver) (shows : MouseShows m false [] clock) :
    ∃ m', mouseInit (mouseHardware env outputFull) outputFull driver m =
        ⟨.success, some { driver with packetIndex := 0, base.state := .ready }, m'⟩ ∧
      MouseShows m' true (env.initQueue clock) (clock + 11) := by
  let hw := mouseHardware env outputFull
  have off : MouseShows (ioOut8 hw mouseCommandRegister 0xA7 m) false [] (clock + 1) :=
    ioOut8_command_shows env outputFull shows 0xA7
  have reset : MouseShows (ioOut8 hw mouseDataRegister mouseCmdReset _) false [0xFA, 0xAA]
      (clock + 2) := ioOut8_shows env outputFull off mouseCmdReset
  obtain ⟨m₃, ack, shows₃⟩ := mouseWaitAck_shows env outputFull reset
  have shows₃ : MouseShows m₃ false [0xAA] (clock + 4) := shows₃
  obtain ⟨m₄, ready, test, shows₄⟩ := mouseWaitOutput_read_shows env outputFull shows₃
  have shows₄ : MouseShows (ioIn8 hw mouseDataRegister m₄).2 false [] (clock + 6) := shows₄
  -- the mouse is silent up to here, and reports from here on
  have enable : MouseShows (ioOut8 hw mouseDataRegister mouseCmdEnable _) true [0xFA]
      (clock + 7) := ioOut8_shows env outputFull shows₄ mouseCmdEnable
  obtain ⟨m₆, ack', shows₆⟩ := mouseWaitAck_shows env outputFull enable
  have rate : MouseShows (ioOut8 hw mouseDataRegister mouseCmdSetSampleRate m₆) true
      (env.movesDuring (clock + 7) 3 ++ [0xFA]) (clock + 10) := by
    rw [env.movesDuring_three]
    exact ioOut8_shows env outputFull shows₆ mouseCmdSetSampleRate
  have last : MouseShows (ioOut8 hw mouseDataRegister 100
      (ioOut8 hw mouseDataRegister mouseCmdSetSampleRate m₆)) true (env.initQueue clock)
      (clock + 11) := ioOut8_shows env outputFull rate 100
  refine ⟨_, ?_, last⟩
  simp only [mouseInit, hw, ack, ready, test, ack', beq_self_eq_true, Bool.not_true,
    Bool.false_eq_true, if_false, ne_eq, not_true_eq_false]

/-- With a byte in the queue `Mouse_Enable` succeeds if this byte can be taken for a reply. -/
theorem mouseEnable_shows {driver : RtMouseDriver} (ready : driver.base.state = .ready)
    {byte : RtU8} (shows : MouseShows m true (byte :: queue) clock) :
    ∃ m', mouseEnable (mouseHardware env outputFull) outputFull driver m =
        (if byte = 0xFA then ⟨.success, some { driver with base.state := .running }, m'⟩
        else ⟨.hardwareFault, some driver, m'⟩) ∧
      MouseShows m' true
        (queue ++ env.moves clock ++ [0xFA] ++ env.movesDuring (clock + 1) 2) (clock + 3) := by
  have wrote := ioOut8_shows env outputFull shows mouseCmdEnable
  obtain ⟨m', ack, shows'⟩ := mouseWaitAck_shows env outputFull wrote
  refine ⟨m', ?_, ?_⟩
  · rw [mouseEnable, mouseSwitch]
    simp only [ready, ack, ne_eq, not_true_eq_false, if_false]
    by_cases reply : byte = 0xFA
    · simp [reply]
    · simp only [reply, if_false, Bool.not_eq_true', beq_eq_false_iff_ne, ne_eq,
        not_false_eq_true, if_true]
  · rw [env.movesDuring_two, ← List.append_assoc]
    exact shows'

/-- A running driver decodes what its interrupts read, whatever that is. -/
theorem mouseRun_readings (world : MouseWorld) {part : List RtU8}
    (running : world.driver.base.state = .running) (collecting : Collecting world.driver part)
    (shows : MouseShows world.machine true queue clock) (n : Nat) :
    ∃ world' replies, Calls.run (mouseCall env outputFull) world (.replicate n .interrupt) =
        .ok (world', replies) ∧
      replies.flatMap MouseReply.reported = packetCallbacks world.driver
        (Framing.feed mouseStartsPacket 2 part (env.readings queue clock n)).1 ∧
      Collected world.driver world'.driver
        (Framing.feed mouseStartsPacket 2 part (env.readings queue clock n)).1
        (Framing.feed mouseStartsPacket 2 part (env.readings queue clock n)).2 ∧
      MouseShows world'.machine true (env.left queue clock n) (clock + n) := by
  induction n generalizing world part queue clock with
  | zero =>
    refine ⟨world, [], rfl, ?_, ⟨collecting, rfl, rfl, rfl, id⟩, shows⟩
    simp [MouseSurroundings.readings, Framing.feed, packetCallbacks, packetHistory]
  | succ n ih =>
    obtain ⟨value, shows'⟩ := ioIn8_shows env outputFull shows
    obtain ⟨driver, collect, collected⟩ := mouseCollect_push running collecting
      (ioIn8 (mouseHardware env outputFull) mouseDataRegister world.machine).1
    obtain ⟨world', replies, ran, reported, later, shows''⟩ :=
      ih ⟨driver, (ioIn8 (mouseHardware env outputFull) mouseDataRegister world.machine).2⟩
        (by rw [collected.base, running]) collected.collecting shows'
    have first : mouseCall env outputFull world .interrupt =
        .ok (⟨driver, (ioIn8 (mouseHardware env outputFull) mouseDataRegister world.machine).2⟩,
          .callbacks (packetCallbacks world.driver (Framing.push mouseStartsPacket 2 part
            (ioIn8 (mouseHardware env outputFull) mouseDataRegister
              world.machine).1).2.toList)) := by
      rw [mouseCall, MouseCall.operation, mouseOperation_interrupt_running _ outputFull _ running,
        collect]
      rfl
    have readings : env.readings queue clock (n + 1) =
        (ioIn8 (mouseHardware env outputFull) mouseDataRegister world.machine).1 ::
          env.readings (queue ++ env.moves clock).tail (clock + 1) n := by
      rw [value]
      rfl
    rw [readings, Framing.feed]
    refine ⟨world', _, by simp only [List.replicate_succ, Calls.run, first, ran, Except.map]; rfl,
      ?_, collected.trans later, ?_⟩
    · rw [List.flatMap_cons, collected.callbacks_append]
      exact congrArg _ reported
    · rw [MouseSurroundings.left, Nat.add_comm n, ← Nat.add_assoc]
      exact shows''

/-- The interrupts of a driver that is not running change nothing. -/
theorem mouseRun_idle (world : MouseWorld) (state : world.driver.base.state ≠ .running) (n : Nat) :
    Calls.run (mouseCall env outputFull) world (.replicate n .interrupt) =
      .ok (world, .replicate n (.callbacks [])) := by
  induction n with
  | zero => rfl
  | succ n ih =>
    simp only [List.replicate_succ, Calls.run, mouseCall_interrupt_idle env outputFull state, ih,
      Except.map]

end Operations

/-! ## The first reports -/

/-- Open ports, and behind them a mouse that does not report and has nothing to say. -/
structure MouseIdle (m : Machine MouseDevice) : Prop where
  ports : MousePortsOpen m
  empty : m.device.queue = []
  silent : m.device.reporting = false

theorem MouseIdle.shows {m : Machine MouseDevice} (idle : MouseIdle m) :
    MouseShows m false [] m.device.clock :=
  ⟨idle.ports, idle.silent, congrArg (List.map MouseByte.byte) idle.empty, rfl⟩

namespace MouseSurroundings

variable (env : MouseSurroundings)

/-- `Mouse_Enable` takes a byte for its reply. -/
def Enables (clock : Nat) : Prop := (env.enableQueue clock).head? = some 0xFA

instance (clock : Nat) : Decidable (env.Enables clock) :=
  inferInstanceAs (Decidable (_ = _))

/-- The bytes that the handler of an enabled driver gets from `n` interrupts. -/
def handled (clock n : Nat) : List RtU8 :=
  env.readings (env.enableQueue clock).tail (clock + 14) n

theorem initQueue_ne_nil (clock : Nat) : env.initQueue clock ≠ [] :=
  List.append_ne_nil_of_right_ne_nil _ (List.cons_ne_nil _ _)

end MouseSurroundings

section FirstReports

variable (env : MouseSurroundings) (outputFull : Fin 8)

/-- Both operations on an idle mouse. -/
theorem mouseCall_enabled (world : MouseWorld) (idle : MouseIdle world.machine) :
    ∃ ready m, mouseCall env outputFull world .init = .ok (ready, .code .success) ∧
      mouseCall env outputFull ready .enable =
        .ok (⟨{ world.driver with
            packetIndex := 0
            base.state := if env.Enables world.machine.device.clock then .running else .ready },
          m⟩,
          .code (if env.Enables world.machine.device.clock then .success else .hardwareFault)) ∧
      MouseShows m true (env.enableQueue world.machine.device.clock).tail
        (world.machine.device.clock + 14) := by
  obtain ⟨m, init, shows⟩ := mouseInit_shows env outputFull world.driver idle.shows
  obtain ⟨byte, queue, head⟩ :=
    List.exists_cons_of_ne_nil (env.initQueue_ne_nil world.machine.device.clock)
  rw [head] at shows
  have ready : ({ world.driver with packetIndex := 0, base.state := .ready } :
    RtMouseDriver).base.state = .ready := rfl
  obtain ⟨m', enable, shows'⟩ := mouseEnable_shows env outputFull ready shows
  have split : env.enableQueue world.machine.device.clock = byte :: (queue ++
      env.moves (world.machine.device.clock + 11) ++ [0xFA] ++
        env.movesDuring (world.machine.device.clock + 12) 2) := by
    rw [MouseSurroundings.enableQueue, head]
    rfl
  have acked : env.Enables world.machine.device.clock ↔ byte = 0xFA := by
    rw [MouseSurroundings.Enables, split, List.head?_cons, Option.some_inj]
  refine ⟨_, m', by rw [mouseCall, MouseCall.operation, mouseOperation, init]; rfl, ?_, ?_⟩
  · simp only [mouseCall, MouseCall.operation, mouseOperation, RtMouseDriver.commanded,
      Option.getD_some, enable, acked, Except.map]
    by_cases reply : byte = 0xFA
    · simp only [reply, if_true, Option.getD_some]
    · simp only [reply, if_false, Option.getD_some]
  · rw [split, List.tail_cons]
    exact shows'

/-- From an idle mouse, in whatever way it moves: the initialisation succeeds; `Mouse_Enable`
then succeeds exactly if the first byte that it finds in the queue is a reply or looks like
one; and the handler reports the packets that it finds in the bytes behind this one, the
replies to the commands among them. -/
theorem mouse_bringUp (world : MouseWorld) (idle : MouseIdle world.machine) (n : Nat) :
    ∃ world' replies, Calls.run (mouseCall env outputFull) world
          (.init :: .enable :: .replicate n .interrupt) =
        .ok (world', .code .success :: .code (if env.Enables world.machine.device.clock
          then .success else .hardwareFault) :: replies) ∧
      replies.flatMap MouseReply.reported = (if env.Enables world.machine.device.clock
        then packetCallbacks world.driver (Framing.parse mouseStartsPacket 2
          (env.handled world.machine.device.clock n)).1
        else []) ∧
      world'.driver.data = (if env.Enables world.machine.device.clock
        then (Framing.parse mouseStartsPacket 2
          (env.handled world.machine.device.clock n)).1.foldl applyPacket world.driver.data
        else world.driver.data) := by
  obtain ⟨ready, m, init, enable, shows⟩ := mouseCall_enabled env outputFull world idle
  by_cases acked : env.Enables world.machine.device.clock
  · simp only [if_pos acked] at enable ⊢
    obtain ⟨world', replies, ran, reported, collected, -⟩ := mouseRun_readings env outputFull
      ⟨{ world.driver with packetIndex := 0, base.state := .running }, m⟩ rfl
      (⟨rfl, rfl, Framing.partial_nil⟩ : Collecting _ []) shows n
    rw [Framing.feed_eq_parse Framing.partial_nil, List.nil_append] at reported collected
    refine ⟨world', replies, ?_, reported, collected.data⟩
    simp only [Calls.run, init, enable, ran, Except.map]
  · simp only [if_neg acked] at enable ⊢
    have ran := mouseRun_idle env outputFull
      ⟨{ world.driver with packetIndex := 0, base.state := .ready }, m⟩ (by simp) n
    refine ⟨⟨{ world.driver with packetIndex := 0, base.state := .ready }, m⟩,
      .replicate n (.callbacks []), ?_, ?_, rfl⟩
    · simp only [Calls.run, init, enable, ran, Except.map]
    · exact List.flatMap_eq_nil_iff.mpr fun reply made => by
        rw [List.eq_of_mem_replicate made]
        rfl

/-- A mouse that moves left by one as soon as it can. -/
def leftSurroundings : MouseSurroundings where
  moves := fun t => if t = 14 then [0x18, 0xFF, 0x00] else []
  stale := fun _ => 0

/-- The handler takes the replies and the first byte of the mouse for a packet: a move left by 6
and down by 232, with the right button pressed. -/
theorem mouse_bringUp_left : ∃ world' replies, Calls.run (mouseCall leftSurroundings 0)
      sampleMouseWorld (.init :: .enable :: .replicate 5 .interrupt) =
        .ok (world', .code .success :: .code .success :: replies) ∧
      replies.flatMap MouseReply.reported = [⟨-6, 232, 0, 2, true, 100⟩] := by
  have idle : MouseIdle sampleMouseWorld.machine := ⟨⟨rfl, rfl⟩, rfl, rfl⟩
  obtain ⟨world', replies, ran, reported, -⟩ := mouse_bringUp leftSurroundings 0 sampleMouseWorld
    idle 5
  have acked : leftSurroundings.Enables sampleMouseWorld.machine.device.clock := by decide
  have handled : leftSurroundings.handled sampleMouseWorld.machine.device.clock 5 =
      [0xFA, 0xFA, 0x18, 0xFF, 0x00] := by decide
  have frames : (Framing.parse mouseStartsPacket 2 [0xFA, 0xFA, 0x18, 0xFF, 0x00]).1 =
      [[0xFA, 0xFA, 0x18]] := by
    simp [Framing.parse, mouseStartsPacket]
  rw [if_pos acked] at ran
  rw [if_pos acked, handled, frames] at reported
  exact ⟨world', replies, ran, reported⟩

/-! ## A mouse that keeps still until then -/

namespace SendsAfter

variable {env} {clock : Nat} {bytes : List RtU8}

end SendsAfter

end FirstReports

end LamaOS
