import LamaOS.Drivers.Common.IoPort
import LamaOS.Misc.SlotTable
import Mathlib.Logic.Relation

/-!
# PS/2 mouse driver

The functions of `drivers/mouse/mouse_driver.c`, over the port layer. `STATUS_OUTPUT_FULL`
is used by the driver and defined nowhere in the repository; it is taken to be one bit of
the status register, whose number is the parameter `outputFull`. The registered callback is
a listener: what the driver calls it with is returned, in call order, and it does not change
the driver.
-/

namespace LamaOS

/-! ## Constants of `mouse_driver.h` -/

def mouseCmdReset : RtU8 := 0xFF
def mouseCmdEnable : RtU8 := 0xF4
def mouseCmdDisable : RtU8 := 0xF5
def mouseCmdSetSampleRate : RtU8 := 0xF3

def mouseStatusRegister : RtIoPort := 0x64
def mouseDataRegister : RtIoPort := 0x60
def mouseCommandRegister : RtIoPort := 0x64

/-- `MOUSE_PACKET_SIZE`. -/
abbrev mousePacketSize : Nat := 3

def mousePacketButtonMask : RtU8 := 0x07
def mousePacketXSignBit : RtU8 := 0x10
def mousePacketYSignBit : RtU8 := 0x20

/-! ## Driver state -/

/-- `MouseMode`. -/
inductive MouseMode where
  | stream
  | remote
  deriving DecidableEq, Repr

/-- `MouseButtons`: a set of button bits in an enumeration's integer. -/
abbrev MouseButtons := RtU32

/-- `MouseData`, with the field `sample_rate` that `Mouse_SetSampleRate` assigns and the
header leaves out. -/
structure MouseData where
  x : RtS16
  y : RtS16
  z : RtS16
  buttons : MouseButtons
  moved : Bool
  sampleRate : RtU8
  deriving DecidableEq, Repr

/-- `RT_MouseDriver`; `callback` tells whether the pointer is set. -/
structure RtMouseDriver where
  base : RtDriver
  data : MouseData
  mode : MouseMode
  callback : Bool
  packet : Vector RtU8 mousePacketSize
  packetIndex : RtU8
  packetComplete : Bool
  deriving DecidableEq, Repr

/-- What a driver operation returns and leaves behind. -/
structure MouseResult (σ : Type) where
  code : RtErrorCode
  driver : Option RtMouseDriver
  machine : Machine σ

/-- What an interrupt leaves behind, with the data each callback was called with. -/
structure MouseInterrupt (σ : Type) where
  driver : Option RtMouseDriver
  machine : Machine σ
  callbacks : List MouseData

section Operations

variable {σ : Type} (hw : Hardware σ) (outputFull : Fin 8)

/-! ## Waiting -/

/-- `STATUS_OUTPUT_FULL`. -/
def statusOutputFull : RtU8 := 1 <<< outputFull.val

/-- The polling loop: read the status register until `ready`, at most `timeout` times. -/
def mousePoll (ready : RtU8 → Bool) : Nat → Machine σ → Bool × Machine σ
  | 0, m => (false, m)
  | timeout + 1, m =>
    let status := ioIn8 hw mouseStatusRegister m
    if ready status.1 then (true, status.2) else mousePoll ready timeout status.2

/-- `Mouse_WaitOutput`. -/
def mouseWaitOutput (m : Machine σ) : Bool × Machine σ :=
  mousePoll hw (fun status => status &&& statusOutputFull outputFull ≠ 0) 100000 m

/-- `Mouse_WaitAck`. -/
def mouseWaitAck (m : Machine σ) : Bool × Machine σ :=
  let ready := mouseWaitOutput hw outputFull m
  if !ready.1 then (false, ready.2)
  else
    let response := ioIn8 hw mouseDataRegister ready.2
    (response.1 == 0xFA, response.2)

/-! ## Commands -/

/-- `Mouse_Init`. -/
def mouseInit (driver : Option RtMouseDriver) (m : Machine σ) : MouseResult σ :=
  match driver with
  | none => ⟨.invalidParameter, none, m⟩
  | some driver =>
    let m := ioOut8 hw mouseCommandRegister 0xA7 m
    let m := ioOut8 hw mouseDataRegister mouseCmdReset m
    let ack := mouseWaitAck hw outputFull m
    if !ack.1 then ⟨.hardwareFault, some driver, ack.2⟩ else
    let ready := mouseWaitOutput hw outputFull ack.2
    if !ready.1 then ⟨.hardwareFault, some driver, ready.2⟩ else
    let selfTest := ioIn8 hw mouseDataRegister ready.2
    if selfTest.1 ≠ 0xAA then ⟨.hardwareFault, some driver, selfTest.2⟩ else
    let m := ioOut8 hw mouseDataRegister mouseCmdEnable selfTest.2
    let ack := mouseWaitAck hw outputFull m
    if !ack.1 then ⟨.hardwareFault, some driver, ack.2⟩ else
    -- the two replies to these bytes are not waited for
    let m := ioOut8 hw mouseDataRegister mouseCmdSetSampleRate ack.2
    let m := ioOut8 hw mouseDataRegister 100 m
    ⟨.success, some { driver with packetIndex := 0, base.state := .ready }, m⟩

/-- The command exchange shared by `Mouse_Enable` and `Mouse_Disable`: in state `source`
only, send one command byte, wait for its reply and go to state `target`. -/
def mouseSwitch (command : RtU8) (source target : RtDriverState) (driver : Option RtMouseDriver)
    (m : Machine σ) : MouseResult σ :=
  match driver with
  | none => ⟨.invalidParameter, none, m⟩
  | some driver =>
    if driver.base.state ≠ source then ⟨.invalidParameter, some driver, m⟩ else
    let m := ioOut8 hw mouseDataRegister command m
    let ack := mouseWaitAck hw outputFull m
    if !ack.1 then ⟨.hardwareFault, some driver, ack.2⟩ else
    ⟨.success, some { driver with base.state := target }, ack.2⟩

/-- `Mouse_Enable`. -/
def mouseEnable (driver : Option RtMouseDriver) (m : Machine σ) : MouseResult σ :=
  mouseSwitch hw outputFull mouseCmdEnable .ready .running driver m

/-- `Mouse_Disable`. -/
def mouseDisable (driver : Option RtMouseDriver) (m : Machine σ) : MouseResult σ :=
  mouseSwitch hw outputFull mouseCmdDisable .running .ready driver m

/-- `Mouse_SetSampleRate`. -/
def mouseSetSampleRate (driver : Option RtMouseDriver) (rate : RtU8) (m : Machine σ) :
    MouseResult σ :=
  match driver with
  | none => ⟨.invalidParameter, none, m⟩
  | some driver =>
    if driver.base.state ≠ .ready then ⟨.invalidParameter, some driver, m⟩ else
    let m := ioOut8 hw mouseDataRegister mouseCmdSetSampleRate m
    let m := ioOut8 hw mouseDataRegister rate m
    -- two bytes were sent, one reply is waited for
    let ack := mouseWaitAck hw outputFull m
    if !ack.1 then ⟨.hardwareFault, some driver, ack.2⟩ else
    ⟨.success, some { driver with data.sampleRate := rate }, ack.2⟩

/-! ## Packets -/

/-- A movement byte with its sign bit in the flags byte, as a 16-bit integer. -/
def mouseMovement (flags signBit byte : RtU8) : RtS16 :=
  let value : RtS16 := byte.setWidth 16
  if flags &&& signBit ≠ 0 then value - 256 else value

/-- `Mouse_ProcessPacket`, with the data its callback was called with. -/
def mouseProcessPacket (driver : Option RtMouseDriver) : Option RtMouseDriver × List MouseData :=
  match driver with
  | none => (none, [])
  | some driver =>
    if !driver.packetComplete || driver.base.state ≠ .running then (some driver, []) else
    let flags := driver.packet[0]
    let x := mouseMovement flags mousePacketXSignBit driver.packet[1]
    let y := mouseMovement flags mousePacketYSignBit driver.packet[2]
    let data := { driver.data with
      buttons := (flags &&& mousePacketButtonMask).setWidth 32
      x := driver.data.x + x
      y := driver.data.y - y
      moved := x ≠ 0 || y ≠ 0 }
    let callbacks := if driver.callback && data.moved then [data] else []
    (some { driver with data, packetComplete := false }, callbacks)

/-- The part of `Mouse_InterruptHandler` after the read: the byte goes to
`packet[packet_index++]`, whose bound the code does not check. -/
def mouseCollect (driver : RtMouseDriver) (data : RtU8) :
    Except MemoryFault (Option RtMouseDriver × List MouseData) :=
  if h : driver.packetIndex.toNat < mousePacketSize then
    let driver := { driver with
      packet := driver.packet.set driver.packetIndex.toNat data h
      packetIndex := driver.packetIndex + 1 }
    if driver.packetIndex = 1 ∧
        driver.packet[0] &&& (mousePacketXSignBit ||| mousePacketYSignBit) = 0 then
      .ok (some { driver with packetIndex := 0 }, [])
    else if mousePacketSize ≤ driver.packetIndex.toNat then
      .ok (mouseProcessPacket (some { driver with packetComplete := true, packetIndex := 0 }))
    else .ok (some driver, [])
  else .error (.outOfBounds driver.packetIndex.toNat)

/-- `Mouse_InterruptHandler`. -/
def mouseInterruptHandler (driver : Option RtMouseDriver) (m : Machine σ) :
    Except MemoryFault (MouseInterrupt σ) :=
  match driver with
  | none => .ok ⟨none, m, []⟩
  | some driver =>
    if driver.base.state ≠ .running then .ok ⟨some driver, m, []⟩ else
    let data := ioIn8 hw mouseDataRegister m
    (mouseCollect driver data.1).map fun collected => ⟨collected.1, data.2, collected.2⟩

/-- The handler called `n` times in a row. -/
def mouseInterrupts : Nat → MouseInterrupt σ → Except MemoryFault (MouseInterrupt σ)
  | 0, s => .ok s
  | n + 1, s =>
    match mouseInterruptHandler hw s.driver s.machine with
    | .error fault => .error fault
    | .ok r => mouseInterrupts n { r with callbacks := s.callbacks ++ r.callbacks }

/-! ## One call -/

/-- The operations on one driver. -/
inductive MouseOperation where
  | init
  | enable
  | disable
  | setSampleRate (rate : RtU8)
  | interrupt
  | processPacket
  deriving DecidableEq, Repr

/-- The answer to a call: a return code, or the callbacks made. -/
inductive MouseReply where
  | code (code : RtErrorCode)
  | callbacks (callbacks : List MouseData)
  deriving DecidableEq, Repr

/-- The driver and the machine after an operation that was given both. -/
def RtMouseDriver.commanded (driver : RtMouseDriver) (result : MouseResult σ) :
    (RtMouseDriver × Machine σ) × MouseReply :=
  ((result.driver.getD driver, result.machine), .code result.code)

/-- A call of one of the operations. -/
def mouseOperation (driver : RtMouseDriver) (m : Machine σ) :
    MouseOperation → Except MemoryFault ((RtMouseDriver × Machine σ) × MouseReply)
  | .init => .ok (driver.commanded (mouseInit hw outputFull driver m))
  | .enable => .ok (driver.commanded (mouseEnable hw outputFull driver m))
  | .disable => .ok (driver.commanded (mouseDisable hw outputFull driver m))
  | .setSampleRate rate => .ok (driver.commanded (mouseSetSampleRate hw outputFull driver rate m))
  | .interrupt =>
    (mouseInterruptHandler hw driver m).map fun r =>
      ((r.driver.getD driver, r.machine), .callbacks r.callbacks)
  | .processPacket =>
    let processed := mouseProcessPacket driver
    .ok ((processed.1.getD driver, m), .callbacks processed.2)

/-- The handler of a running driver collects the byte that it reads. -/
theorem mouseOperation_interrupt_running {driver : RtMouseDriver} (m : Machine σ)
    (running : driver.base.state = .running) :
    mouseOperation hw outputFull driver m .interrupt =
      (mouseCollect driver (ioIn8 hw mouseDataRegister m).1).map fun collected =>
        ((collected.1.getD driver, (ioIn8 hw mouseDataRegister m).2), .callbacks collected.2) := by
  have handled : mouseInterruptHandler hw (some driver) m =
      (mouseCollect driver (ioIn8 hw mouseDataRegister m).1).map fun collected =>
        ⟨collected.1, (ioIn8 hw mouseDataRegister m).2, collected.2⟩ :=
    if_neg (not_not.mpr running)
  rw [mouseOperation, handled]
  cases mouseCollect driver (ioIn8 hw mouseDataRegister m).1 <;> rfl

/-- The handler of a driver that is not running does nothing. -/
theorem mouseOperation_interrupt_idle {driver : RtMouseDriver} (m : Machine σ)
    (idle : driver.base.state ≠ .running) :
    mouseOperation hw outputFull driver m .interrupt = .ok ((driver, m), .callbacks []) := by
  rw [mouseOperation, mouseInterruptHandler, if_pos idle]
  rfl

/-! ## What waiting does -/

/-- One read of a register. -/
inductive RegisterRead : Machine σ → Machine σ → Prop where
  | read (port : RtIoPort) (m : Machine σ) : RegisterRead m (ioIn8 hw port m).2

/-- Reads of registers, and nothing else. -/
abbrev RegisterReads : Machine σ → Machine σ → Prop := Relation.ReflTransGen (RegisterRead hw)

theorem mousePoll_reads (ready : RtU8 → Bool) (timeout : Nat) (m : Machine σ) :
    RegisterReads hw m (mousePoll hw ready timeout m).2 := by
  induction timeout generalizing m with
  | zero => exact .refl
  | succ timeout ih =>
    have looked : RegisterRead hw m (ioIn8 hw mouseStatusRegister m).2 := .read _ m
    rw [mousePoll]
    split
    · exact .single looked
    · exact .head looked (ih _)

theorem mouseWaitOutput_reads (m : Machine σ) :
    RegisterReads hw m (mouseWaitOutput hw outputFull m).2 :=
  mousePoll_reads hw _ 100000 m

theorem mouseWaitAck_reads (m : Machine σ) :
    RegisterReads hw m (mouseWaitAck hw outputFull m).2 := by
  have waited := mouseWaitOutput_reads hw outputFull m
  rw [mouseWaitAck]
  dsimp only
  split
  · exact waited
  · exact waited.tail (.read mouseDataRegister _)

end Operations

end LamaOS
