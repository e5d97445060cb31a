import LamaOS.Drivers.Mouse.MouseDriver

/-!
# A mouse behind the ports

The device the driver talks to: one output queue for replies and movement bytes alike. Each
byte written to the data register puts `0xFA` into the queue, a reset byte `0xAA` after it,
and while reporting is on the mouse adds movement bytes of its own. These may come at any
moment; the parameter `moves` says which come right before each port access. The queued
bytes carry where they are from, and the device remembers the bytes taken from it; neither
can be seen through the ports.
-/

namespace LamaOS

/-- Where a byte in the output queue is from. -/
inductive MouseByteOrigin where
  | motion
  /-- The reply to the data register write of this number. -/
  | ack (write : Nat)
  | selfTest
  deriving DecidableEq, Repr

/-- A byte in the output queue. -/
structure MouseByte where
  byte : RtU8
  origin : MouseByteOrigin
  deriving DecidableEq, Repr

/-- The state of the device. -/
structure MouseDevice where
  queue : List MouseByte
  reporting : Bool
  /-- The number of data register writes so far. -/
  written : Nat
  /-- The bytes read so far. -/
  taken : List MouseByte
  /-- The number of port accesses so far. -/
  clock : Nat
  deriving DecidableEq, Repr

/-- What the device does not decide: the movement bytes that come before each access, and
what a read from the empty queue answers. -/
structure MouseSurroundings where
  moves : Nat → List RtU8
  stale : Nat → RtU8

namespace MouseDevice

variable (env : MouseSurroundings) (d : MouseDevice)

/-- The movement bytes that come before the next access. -/
def arrivals : List MouseByte :=
  if d.reporting then (env.moves d.clock).map fun byte => ⟨byte, .motion⟩ else []

/-- The device when the next access takes place. -/
def arrive : MouseDevice :=
  { d with queue := d.queue ++ d.arrivals env, clock := d.clock + 1 }

/-- A read of the data register. -/
def read : RtU8 × MouseDevice :=
  match d.queue with
  | [] => (env.stale d.clock, d)
  | e :: rest => (e.byte, { d with queue := rest, taken := d.taken ++ [e] })

/-- What a byte written to the data register is answered with. -/
def replies (value : RtU8) : List MouseByte :=
  ⟨0xFA, .ack d.written⟩ :: if value = mouseCmdReset then [⟨0xAA, .selfTest⟩] else []

/-- A write of the data register. -/
def write (value : RtU8) : MouseDevice :=
  { d with
    queue := d.queue ++ d.replies value
    reporting :=
      if value = mouseCmdEnable then true
      else if value = mouseCmdDisable ∨ value = mouseCmdReset then false
      else d.reporting
    written := d.written + 1 }

end MouseDevice

/-- The device behind the ports `0x60` and `0x64`. -/
def mouseHardware (env : MouseSurroundings) (outputFull : Fin 8) : Hardware MouseDevice where
  input := fun width port d =>
    let d := d.arrive env
    if port = mouseDataRegister then ((d.read env).1.setWidth width, (d.read env).2)
    else if port = mouseStatusRegister then
      ((if d.queue.isEmpty then 0 else statusOutputFull outputFull).setWidth width, d)
    else (0, d)
  output := fun _ port value d =>
    let d := d.arrive env
    if port = mouseDataRegister then d.write (value.setWidth 8) else d

/-- Both ports of the mouse can be reached. -/
structure MousePortsOpen (m : Machine MouseDevice) : Prop where
  data : ioReaches m.tables mouseDataRegister = true
  status : ioReaches m.tables mouseStatusRegister = true

theorem MousePortsOpen.of_tables {m m' : Machine MouseDevice} (ports : MousePortsOpen m)
    (tables : m'.tables = m.tables) : MousePortsOpen m' :=
  ⟨tables ▸ ports.data, tables ▸ ports.status⟩

/-- Movement bytes only. -/
def AllMotion (bytes : List MouseByte) : Prop := ∀ e ∈ bytes, e.origin = .motion

theorem allMotion_arrivals (env : MouseSurroundings) (d : MouseDevice) :
    AllMotion (d.arrivals env) := by
  unfold MouseDevice.arrivals
  split
  · intro e mem
    obtain ⟨byte, -, rfl⟩ := List.mem_map.mp mem
    rfl
  · exact fun e mem => absurd mem List.not_mem_nil

theorem AllMotion.append {xs ys : List MouseByte} (h : AllMotion xs) (h' : AllMotion ys) :
    AllMotion (xs ++ ys) := by
  rw [AllMotion, List.forall_mem_append]
  exact ⟨h, h'⟩

theorem arrivals_of_silent (env : MouseSurroundings) (d : MouseDevice)
    (silent : d.reporting = false) : d.arrivals env = [] := by
  simp [MouseDevice.arrivals, silent]

theorem statusOutputFull_ne_zero (outputFull : Fin 8) : statusOutputFull outputFull ≠ 0 := by
  revert outputFull; decide

/-! ## What the accesses of the driver do -/

section Accesses

variable (env : MouseSurroundings) (outputFull : Fin 8) {m : Machine MouseDevice}

theorem ioOut8_data (ports : MousePortsOpen m) (value : RtU8) :
    (ioOut8 (mouseHardware env outputFull) mouseDataRegister value m).tables = m.tables ∧
      (ioOut8 (mouseHardware env outputFull) mouseDataRegister value m).device =
        (m.device.arrive env).write value := by
  refine ⟨ioOut_tables _ _ _ _ _, ?_⟩
  rw [ioOut8, ioOut_of_reaches _ _ _ _ _ ports.data]
  simp [mouseHardware]

theorem ioOut8_command (ports : MousePortsOpen m) (value : RtU8) :
    (ioOut8 (mouseHardware env outputFull) mouseCommandRegister value m).tables = m.tables ∧
      (ioOut8 (mouseHardware env outputFull) mouseCommandRegister value m).device =
        m.device.arrive env := by
  refine ⟨ioOut_tables _ _ _ _ _, ?_⟩
  -- the command register is the status register
  have opened : ioReaches m.tables mouseCommandRegister = true := ports.status
  rw [ioOut8, ioOut_of_reaches _ _ _ _ _ opened]
  rfl

theorem ioIn8_data (ports : MousePortsOpen m) :
    (ioIn8 (mouseHardware env outputFull) mouseDataRegister m).2.tables = m.tables ∧
      (ioIn8 (mouseHardware env outputFull) mouseDataRegister m).1 =
        ((m.device.arrive env).read env).1 ∧
      (ioIn8 (mouseHardware env outputFull) mouseDataRegister m).2.device =
        ((m.device.arrive env).read env).2 := by
  refine ⟨ioIn_tables _ _ _ _, ?_⟩
  rw [ioIn8, ioIn_of_reaches _ _ _ _ ports.data]
  simp [mouseHardware]

theorem ioIn8_status (ports : MousePortsOpen m) :
    (ioIn8 (mouseHardware env outputFull) mouseStatusRegister m).2.tables = m.tables ∧
      (ioIn8 (mouseHardware env outputFull) mouseStatusRegister m).1 =
        (if (m.device.arrive env).queue.isEmpty then 0 else statusOutputFull outputFull) ∧
      (ioIn8 (mouseHardware env outputFull) mouseStatusRegister m).2.device =
        m.device.arrive env := by
  refine ⟨ioIn_tables _ _ _ _, ?_⟩
  rw [ioIn8, ioIn_of_reaches _ _ _ _ ports.status]
  simp [mouseHardware, mouseDataRegister, mouseStatusRegister]

/-- What an operation has done between two machines: it wrote `value`, and `arrived` came in
before that. -/
structure MouseWrote (m m' : Machine MouseDevice) (value : RtU8) (arrived : List MouseByte) :
    Prop where
  tables : m'.tables = m.tables
  motion : AllMotion arrived
  queue : m'.device.queue = m.device.queue ++ arrived ++ m.device.replies value
  taken : m'.device.taken = m.device.taken
  written : m'.device.written = m.device.written + 1

theorem ioOut8_wrote (ports : MousePortsOpen m) (value : RtU8) :
    MouseWrote m (ioOut8 (mouseHardware env outputFull) mouseDataRegister value m) value
      (m.device.arrivals env) := by
  obtain ⟨tables, device⟩ := ioOut8_data env outputFull ports value
  exact ⟨tables, allMotion_arrivals env _, by rw [device]; rfl, by rw [device]; rfl,
    by rw [device]; rfl⟩

/-- With something in the queue `Mouse_WaitOutput` is done after one look. -/
theorem mouseWaitOutput_ready (ports : MousePortsOpen m) (some : m.device.queue ≠ []) :
    (mouseWaitOutput (mouseHardware env outputFull) outputFull m).1 = true ∧
      (mouseWaitOutput (mouseHardware env outputFull) outputFull m).2.tables = m.tables ∧
      (mouseWaitOutput (mouseHardware env outputFull) outputFull m).2.device =
        m.device.arrive env := by
  obtain ⟨tables, status, device⟩ := ioIn8_status env outputFull ports
  have full : (m.device.arrive env).queue.isEmpty = false := by
    simp [MouseDevice.arrive, some]
  have ready : statusOutputFull outputFull &&& statusOutputFull outputFull ≠ 0 := by
    rw [BitVec.and_self]
    exact statusOutputFull_ne_zero outputFull
  rw [full, if_neg Bool.false_ne_true] at status
  rw [mouseWaitOutput, mousePoll]
  simp only [status, ready, ne_eq, not_false_eq_true, decide_true, if_true, tables, device,
    and_self]

/-- What an operation has read between two machines: it took `e`, the head of the queue, and
movement bytes may have come in behind `rest`. -/
structure MouseTook (m m' : Machine MouseDevice) (e : MouseByte) (rest : List MouseByte) :
    Prop where
  tables : m'.tables = m.tables
  queue : ∃ moved, AllMotion moved ∧ (m.device.reporting = false → moved = []) ∧
    m'.device.queue = rest ++ moved
  taken : m'.device.taken = m.device.taken ++ [e]
  written : m'.device.written = m.device.written
  reporting : m'.device.reporting = m.device.reporting

theorem mouseRead_took (ports : MousePortsOpen m) {e : MouseByte} {rest : List MouseByte}
    (head : m.device.queue = e :: rest) :
    (ioIn8 (mouseHardware env outputFull) mouseDataRegister m).1 = e.byte ∧
      MouseTook m (ioIn8 (mouseHardware env outputFull) mouseDataRegister m).2 e rest := by
  obtain ⟨tables, value, device⟩ := ioIn8_data env outputFull ports
  have arrived : (m.device.arrive env).queue = e :: (rest ++ m.device.arrivals env) := by
    simp [MouseDevice.arrive, head]
  simp only [MouseDevice.read, arrived] at value device
  refine ⟨value, tables, ?_, ?_, ?_, ?_⟩
  · exact ⟨m.device.arrivals env, allMotion_arrivals env _, arrivals_of_silent env _,
      by rw [device]⟩
  all_goals rw [device]; rfl

theorem mouseWaitOutput_read_took (ports : MousePortsOpen m) {e : MouseByte}
    {rest : List MouseByte} (head : m.device.queue = e :: rest) :
    ∃ m', mouseWaitOutput (mouseHardware env outputFull) outputFull m = (true, m') ∧
      (ioIn8 (mouseHardware env outputFull) mouseDataRegister m').1 = e.byte ∧
      MouseTook m (ioIn8 (mouseHardware env outputFull) mouseDataRegister m').2 e rest := by
  obtain ⟨ready, tables, device⟩ :=
    mouseWaitOutput_ready env outputFull ports (by rw [head]; exact List.cons_ne_nil _ _)
  generalize mouseWaitOutput (mouseHardware env outputFull) outputFull m = waited at *
  have ports' := ports.of_tables tables
  have head' : waited.2.device.queue = e :: (rest ++ m.device.arrivals env) := by
    rw [device]; simp [MouseDevice.arrive, head]
  obtain ⟨value, took⟩ := mouseRead_took env outputFull ports' head'
  refine ⟨waited.2, by rw [← ready], value, took.tables.trans tables, ?_, ?_, ?_, ?_⟩
  · obtain ⟨moved, motion, silent, queue⟩ := took.queue
    refine ⟨m.device.arrivals env ++ moved, (allMotion_arrivals env _).append motion, ?_, ?_⟩
    · intro quiet
      rw [arrivals_of_silent env _ quiet, silent (by rw [device]; exact quiet)]
      rfl
    · rw [queue, List.append_assoc]
  · rw [took.taken, device]; rfl
  · rw [took.written, device]; rfl
  · rw [took.reporting, device]; rfl

/-- `Mouse_WaitAck` takes the head of the queue, whatever it is. -/
theorem mouseWaitAck_took (ports : MousePortsOpen m) {e : MouseByte} {rest : List MouseByte}
    (head : m.device.queue = e :: rest) :
    ∃ m', mouseWaitAck (mouseHardware env outputFull) outputFull m = (e.byte == 0xFA, m') ∧
      MouseTook m m' e rest := by
  obtain ⟨m', ready, value, took⟩ := mouseWaitOutput_read_took env outputFull ports head
  refine ⟨_, ?_, took⟩
  simp [mouseWaitAck, ready, value]

end Accesses

end LamaOS
