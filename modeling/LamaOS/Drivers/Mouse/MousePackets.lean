import LamaOS.Drivers.Mouse.MouseDriver
import LamaOS.Misc.Framing

/-!
# Packet decoding

The interrupt handler decodes the byte stream one byte at a time, with `packet` and
`packet_index` as its state. Its abstract counterpart is a whole-stream parser: frames of
three bytes that begin at a byte with a sign bit set (`Framing.parse`), and a fold of the
frames over the mouse data. The handler's state always holds the unfinished frame of the
parser, so the two give the same data, the same leftover and the same callbacks.
-/

namespace LamaOS

/-! ## The batch parser -/

/-- The first-byte test of the handler. -/
def mouseStartsPacket (b : RtU8) : Bool := b &&& 0x30 ≠ 0

/-- A movement byte and its sign bit as a number in `-256 … 255`. -/
def packetDelta (flags : RtU8) (signBit : Nat) (byte : RtU8) : Int :=
  byte.toNat - if flags.getLsbD signBit then 256 else 0

/-- One packet folded into the mouse data. -/
def applyPacket (data : MouseData) : List RtU8 → MouseData
  | [flags, b1, b2] => { data with
      x := data.x + BitVec.ofInt 16 (packetDelta flags 4 b1)
      y := data.y - BitVec.ofInt 16 (packetDelta flags 5 b2)
      buttons := (flags &&& 7).setWidth 32
      moved := true }
  | _ => data

/-- The mouse data after each packet. -/
def packetHistory : MouseData → List (List RtU8) → List MouseData
  | _, [] => []
  | data, frame :: frames => applyPacket data frame :: packetHistory (applyPacket data frame) frames

@[simp] theorem packetHistory_length (data : MouseData) (frames : List (List RtU8)) :
    (packetHistory data frames).length = frames.length := by
  induction frames generalizing data with
  | nil => rfl
  | cons frame frames ih => simp [packetHistory, ih]

theorem packetHistory_append (data : MouseData) (frames frames' : List (List RtU8)) :
    packetHistory data (frames ++ frames') =
      packetHistory data frames ++ packetHistory (frames.foldl applyPacket data) frames' := by
  induction frames generalizing data with
  | nil => rfl
  | cons frame frames ih => simp [packetHistory, ih]

/-! ## One byte -/

theorem packetDelta_range (flags : RtU8) (signBit : Nat) (byte : RtU8) :
    -256 ≤ packetDelta flags signBit byte ∧ packetDelta flags signBit byte ≤ 255 := by
  have := byte.isLt
  unfold packetDelta
  split <;> omega

theorem mouseMovement_eq (flags signMask : RtU8) (signBit : Nat) (byte : RtU8)
    (same : (flags &&& signMask ≠ 0) ↔ flags.getLsbD signBit = true) :
    mouseMovement flags signMask byte = BitVec.ofInt 16 (packetDelta flags signBit byte) := by
  have lt := byte.isLt
  have wrap : (256 : RtS16).toNat = 256 := by decide
  unfold mouseMovement packetDelta
  apply BitVec.eq_of_toNat_eq
  by_cases sign : flags.getLsbD signBit = true
  · rw [if_pos (same.mpr sign), if_pos sign, BitVec.toNat_ofInt]
    simp only [BitVec.toNat_sub, BitVec.toNat_setWidth, wrap]
    omega
  · rw [if_neg (fun h => sign (same.mp h)), if_neg sign, BitVec.toNat_ofInt]
    simp only [BitVec.toNat_setWidth]
    omega

theorem xSignBit_iff (flags : RtU8) :
    (flags &&& mousePacketXSignBit ≠ 0) ↔ flags.getLsbD 4 = true := by
  revert flags; decide

theorem ySignBit_iff (flags : RtU8) :
    (flags &&& mousePacketYSignBit ≠ 0) ↔ flags.getLsbD 5 = true := by
  revert flags; decide

theorem mouseStartsPacket_iff (flags : RtU8) :
    mouseStartsPacket flags = true ↔ flags.getLsbD 4 = true ∨ flags.getLsbD 5 = true := by
  revert flags; decide

/-- An accepted packet moves left or down: the sign bit that made it acceptable makes the
movement negative. -/
theorem packetDelta_neg_of_starts {flags : RtU8} (h : mouseStartsPacket flags = true)
    (b1 b2 : RtU8) : packetDelta flags 4 b1 < 0 ∨ packetDelta flags 5 b2 < 0 := by
  have lt1 := b1.isLt
  have lt2 := b2.isLt
  rcases (mouseStartsPacket_iff flags).mp h with sign | sign
  · left; rw [packetDelta, if_pos sign]; omega
  · right; rw [packetDelta, if_pos sign]; omega

theorem ofInt16_inj {a b : Int} (ha : -256 ≤ a ∧ a ≤ 255) (hb : -256 ≤ b ∧ b ≤ 255)
    (h : BitVec.ofInt 16 a = BitVec.ofInt 16 b) : a = b := by
  have eq := congrArg BitVec.toNat h
  rw [BitVec.toNat_ofInt, BitVec.toNat_ofInt] at eq
  omega

/-- The callbacks made while packets are folded into the data of a driver. -/
def packetCallbacks (driver : RtMouseDriver) (frames : List (List RtU8)) : List MouseData :=
  if driver.callback then packetHistory driver.data frames else []

/-- The driver holds the unfinished frame `part`. -/
structure Collecting (driver : RtMouseDriver) (part : List RtU8) : Prop where
  index : driver.packetIndex.toNat = part.length
  packet : driver.packet.toList.take part.length = part
  unfinished : Framing.Partial mouseStartsPacket 2 part

/-- What bytes have made of a driver: they completed `frames`, and it holds `part`. -/
structure Collected (driver driver' : RtMouseDriver) (frames : List (List RtU8))
    (part : List RtU8) : Prop where
  collecting : Collecting driver' part
  data : driver'.data = frames.foldl applyPacket driver.data
  base : driver'.base = driver.base
  callback : driver'.callback = driver.callback
  complete : driver.packetComplete = false → driver'.packetComplete = false

theorem Collected.trans {driver driver' driver'' : RtMouseDriver}
    {frames frames' : List (List RtU8)} {part part' : List RtU8}
    (first : Collected driver driver' frames part)
    (next : Collected driver' driver'' frames' part') :
    Collected driver driver'' (frames ++ frames') part' where
  collecting := next.collecting
  data := by rw [next.data, first.data, List.foldl_append]
  base := next.base.trans first.base
  callback := next.callback.trans first.callback
  complete := next.complete ∘ first.complete

theorem Collected.callbacks_append {driver driver' : RtMouseDriver} {frames : List (List RtU8)}
    {part : List RtU8} (first : Collected driver driver' frames part)
    (frames' : List (List RtU8)) :
    packetCallbacks driver (frames ++ frames') =
      packetCallbacks driver frames ++ packetCallbacks driver' frames' := by
  rw [packetCallbacks, packetCallbacks, packetCallbacks, first.callback, first.data]
  cases driver.callback with
  | true => exact packetHistory_append _ _ _
  | false => rfl

/-- The driver state between two bytes: it holds the unfinished frame `part`. -/
structure Decoding (driver : RtMouseDriver) (part : List RtU8) : Prop where
  running : driver.base.state = .running
  callback : driver.callback = true
  index : driver.packetIndex.toNat = part.length
  packet : driver.packet.toList.take part.length = part
  unfinished : Framing.Partial mouseStartsPacket 2 part

theorem Decoding.collecting {driver : RtMouseDriver} {part : List RtU8}
    (h : Decoding driver part) : Collecting driver part :=
  ⟨h.index, h.packet, h.unfinished⟩

/-- A driver that goes on decoding. -/
theorem Decoding.of_collected {driver driver' : RtMouseDriver} {frames : List (List RtU8)}
    {part part' : List RtU8} (h : Decoding driver part)
    (collected : Collected driver driver' frames part') : Decoding driver' part' :=
  ⟨by rw [collected.base]; exact h.running, collected.callback.trans h.callback,
    collected.collecting.index, collected.collecting.packet, collected.collecting.unfinished⟩

theorem packet_toList (packet : Vector RtU8 mousePacketSize) :
    packet.toList = [packet[0], packet[1], packet[2]] := by
  rcases packet with ⟨⟨bytes⟩, h⟩
  match bytes, h with
  | [_, _, _], _ => rfl

theorem mouseMovement_ne_zero_of_starts {flags : RtU8} (h : mouseStartsPacket flags = true)
    (b1 b2 : RtU8) :
    mouseMovement flags mousePacketXSignBit b1 ≠ 0 ∨
      mouseMovement flags mousePacketYSignBit b2 ≠ 0 := by
  rw [mouseMovement_eq flags _ 4 b1 (xSignBit_iff flags),
    mouseMovement_eq flags _ 5 b2 (ySignBit_iff flags)]
  have zero : (0 : RtS16) = BitVec.ofInt 16 0 := by decide
  rcases packetDelta_neg_of_starts h b1 b2 with neg | neg
  · left
    intro stays
    have := ofInt16_inj (packetDelta_range flags 4 b1) (by omega) (stays.trans zero)
    omega
  · right
    intro stays
    have := ofInt16_inj (packetDelta_range flags 5 b2) (by omega) (stays.trans zero)
    omega

/-- A completed packet is processed at once and reported to the callback. -/
theorem mouseProcessPacket_complete (driver : RtMouseDriver)
    (running : driver.base.state = .running) (complete : driver.packetComplete = true)
    (starts : mouseStartsPacket driver.packet[0] = true) :
    mouseProcessPacket (some driver) =
      (some { driver with
        data := applyPacket driver.data driver.packet.toList, packetComplete := false },
       packetCallbacks driver [driver.packet.toList]) := by
  have moved := mouseMovement_ne_zero_of_starts starts driver.packet[1] driver.packet[2]
  have hx := mouseMovement_eq driver.packet[0] _ 4 driver.packet[1] (xSignBit_iff _)
  have hy := mouseMovement_eq driver.packet[0] _ 5 driver.packet[2] (ySignBit_iff _)
  have flag : (decide (mouseMovement driver.packet[0] mousePacketXSignBit driver.packet[1] ≠ 0) ||
      decide (mouseMovement driver.packet[0] mousePacketYSignBit driver.packet[2] ≠ 0)) = true := by
    simpa using moved
  have data : applyPacket driver.data driver.packet.toList = { driver.data with
      buttons := (driver.packet[0] &&& mousePacketButtonMask).setWidth 32
      x := driver.data.x + mouseMovement driver.packet[0] mousePacketXSignBit driver.packet[1]
      y := driver.data.y - mouseMovement driver.packet[0] mousePacketYSignBit driver.packet[2]
      moved := true } := by
    rw [packet_toList, hx, hy]
    rfl
  unfold mouseProcessPacket packetCallbacks
  simp only [complete, running, flag, packetHistory, data]
  simp

theorem mouseStartsPacket_eq_false_iff (b : RtU8) :
    mouseStartsPacket b = false ↔ b &&& (mousePacketXSignBit ||| mousePacketYSignBit) = 0 := by
  simp [mouseStartsPacket, mousePacketXSignBit, mousePacketYSignBit]

/-- The first byte of a packet is kept only if it carries a sign bit. -/
theorem mouseCollect_first (driver : RtMouseDriver) (index : driver.packetIndex = 0) (b : RtU8) :
    mouseCollect driver b = .ok (some { driver with
      packet := driver.packet.set 0 b
      packetIndex := if mouseStartsPacket b then 1 else 0 }, []) := by
  unfold mouseCollect
  cases hb : mouseStartsPacket b with
  | false =>
    have skip := (mouseStartsPacket_eq_false_iff b).mp hb
    simp [index, skip]
  | true =>
    have keep : b &&& (mousePacketXSignBit ||| mousePacketYSignBit) ≠ 0 := by
      intro skip
      simp [(mouseStartsPacket_eq_false_iff b).mpr skip] at hb
    simp only [BitVec.ofNat_eq_ofNat] at keep
    simp [index, keep, mousePacketSize]

theorem mouseCollect_second (driver : RtMouseDriver) (index : driver.packetIndex = 1)
    (b : RtU8) :
    mouseCollect driver b =
      .ok (some { driver with packet := driver.packet.set 1 b, packetIndex := 2 }, []) := by
  unfold mouseCollect
  simp [index, mousePacketSize]

theorem mouseCollect_third (driver : RtMouseDriver) (index : driver.packetIndex = 2)
    (b : RtU8) :
    mouseCollect driver b = .ok (mouseProcessPacket (some { driver with
      packet := driver.packet.set 2 b, packetIndex := 0, packetComplete := true })) := by
  unfold mouseCollect
  simp [index]

/-- One byte collected by the handler is one item pushed onto the unfinished frame. -/
theorem mouseCollect_push {driver : RtMouseDriver} {part : List RtU8}
    (running : driver.base.state = .running) (h : Collecting driver part) (b : RtU8) :
    ∃ driver', mouseCollect driver b = .ok (some driver',
        packetCallbacks driver (Framing.push mouseStartsPacket 2 part b).2.toList) ∧
      Collected driver driver' (Framing.push mouseStartsPacket 2 part b).2.toList
        (Framing.push mouseStartsPacket 2 part b).1 := by
  have next := Framing.partial_push h.unfinished b
  have list := packet_toList driver.packet
  have hindex := h.index
  have hpacket := h.packet
  have begun := h.unfinished.begun
  have silent : packetCallbacks driver [] = [] := by simp [packetCallbacks, packetHistory]
  match part, h.unfinished.short with
  | [], _ =>
    have index : driver.packetIndex = 0 := BitVec.eq_of_toNat_eq hindex
    rw [mouseCollect_first driver index]
    cases hb : mouseStartsPacket b with
    | false =>
      have pushed : Framing.push mouseStartsPacket 2 [] b = ([], none) := by
        simp [Framing.push, hb]
      rw [pushed] at next ⊢
      rw [Option.toList_none, silent]
      exact ⟨_, rfl, ⟨⟨rfl, rfl, next⟩, rfl, rfl, rfl, id⟩⟩
    | true =>
      have pushed : Framing.push mouseStartsPacket 2 [] b = ([b], none) := by
        simp [Framing.push, hb]
      rw [pushed] at next ⊢
      rw [Option.toList_none, silent]
      exact ⟨_, rfl, ⟨⟨rfl, by simp [packet_toList], next⟩, rfl, rfl, rfl, id⟩⟩
  | [p0], _ =>
    have index : driver.packetIndex = 1 := BitVec.eq_of_toNat_eq hindex
    have pushed : Framing.push mouseStartsPacket 2 [p0] b = ([p0, b], none) := by
      simp [Framing.push]
    rw [mouseCollect_second driver index]
    rw [pushed] at next ⊢
    rw [Option.toList_none, silent]
    have first : driver.packet[0] = p0 := by simpa [list] using hpacket
    refine ⟨_, rfl, ⟨⟨rfl, ?_, next⟩, rfl, rfl, rfl, id⟩⟩
    simp [packet_toList, first]
  | [p0, p1], _ =>
    have index : driver.packetIndex = 2 := BitVec.eq_of_toNat_eq hindex
    have pushed : Framing.push mouseStartsPacket 2 [p0, p1] b = ([], some [p0, p1, b]) := by
      simp [Framing.push]
    have bytes : driver.packet[0] = p0 ∧ driver.packet[1] = p1 := by simpa [list] using hpacket
    have starts : mouseStartsPacket p0 = true := begun p0 rfl
    have full : (driver.packet.set 2 b).toList = [p0, p1, b] := by
      simp [packet_toList, bytes]
    have processed := mouseProcessPacket_complete
      { driver with packet := driver.packet.set 2 b, packetIndex := 0, packetComplete := true }
      running rfl (by simpa [bytes] using starts)
    simp only [full] at processed
    rw [mouseCollect_third driver index, processed]
    rw [pushed] at next ⊢
    exact ⟨_, rfl, ⟨⟨rfl, rfl, next⟩, rfl, rfl, rfl, fun _ => rfl⟩⟩
  | _ :: _ :: _ :: _, short => simp at short

/-! ## The whole stream -/

/-- A device that delivers a fixed sequence of bytes at the data register. -/
def byteSource : Hardware (List RtU8) where
  input width port bytes :=
    if port = mouseDataRegister then ((bytes.headD 0).setWidth width, bytes.tail) else (0, bytes)
  output _ _ _ bytes := bytes

theorem ioIn8_byteSource (m : Machine (List RtU8)) (b : RtU8) (bytes : List RtU8)
    (unlocked : ioIsPortLocked m.tables mouseDataRegister = false)
    (stream : m.device = b :: bytes) :
    ∃ log, ioIn8 byteSource mouseDataRegister m = (b, ⟨m.tables, bytes, log⟩) := by
  have reaches : ioReaches m.tables mouseDataRegister = true := by
    have valid : ioIsValidPort mouseDataRegister = true := by decide
    simp [ioReaches, valid, unlocked]
  refine ⟨m.log ++ [⟨.input, 8, mouseDataRegister, b.toNat, true⟩], ?_⟩
  rw [ioIn8, ioIn_of_reaches _ _ _ _ reaches]
  simp [byteSource, stream]

/-- The interrupt handler, called once for each byte of a stream, reads the stream as `feed`
does and folds the frames over the mouse data. -/
theorem mouseInterrupts_collect (bytes : List RtU8) {driver : RtMouseDriver} {part : List RtU8}
    (running : driver.base.state = .running) (h : Collecting driver part)
    (m : Machine (List RtU8)) (callbacks : List MouseData)
    (unlocked : ioIsPortLocked m.tables mouseDataRegister = false) (stream : m.device = bytes) :
    ∃ driver' m', mouseInterrupts byteSource bytes.length ⟨some driver, m, callbacks⟩ =
        .ok ⟨some driver', m', callbacks ++
          packetCallbacks driver (Framing.feed mouseStartsPacket 2 part bytes).1⟩ ∧
      Collected driver driver' (Framing.feed mouseStartsPacket 2 part bytes).1
        (Framing.feed mouseStartsPacket 2 part bytes).2 := by
  induction bytes generalizing driver part m callbacks with
  | nil =>
    have silent : packetCallbacks driver [] = [] := by simp [packetCallbacks, packetHistory]
    exact ⟨driver, m, by simp [mouseInterrupts, Framing.feed, silent], ⟨h, rfl, rfl, rfl, id⟩⟩
  | cons b bytes ih =>
    obtain ⟨log, read⟩ := ioIn8_byteSource m b bytes unlocked stream
    obtain ⟨driver₁, collect, collected⟩ := mouseCollect_push running h b
    have running₁ : driver₁.base.state = .running := by rw [collected.base, running]
    obtain ⟨driver₂, m₂, run, collected'⟩ := ih running₁ collected.collecting
      ⟨m.tables, bytes, log⟩
      (callbacks ++
        packetCallbacks driver (Framing.push mouseStartsPacket 2 part b).2.toList)
      unlocked rfl
    have handled : mouseInterruptHandler byteSource (some driver) m =
        .ok ⟨some driver₁, ⟨m.tables, bytes, log⟩,
          packetCallbacks driver (Framing.push mouseStartsPacket 2 part b).2.toList⟩ := by
      simp [mouseInterruptHandler, running, read, collect, Except.map]
    refine ⟨driver₂, m₂, ?_, collected.trans collected'⟩
    rw [List.length_cons, mouseInterrupts, handled]
    simp only [run, Framing.feed, collected.callbacks_append, List.append_assoc]

/-- The same for a driver with a callback. -/
theorem mouseInterrupts_feed (bytes : List RtU8) {driver : RtMouseDriver} {part : List RtU8}
    (h : Decoding driver part) (m : Machine (List RtU8)) (callbacks : List MouseData)
    (unlocked : ioIsPortLocked m.tables mouseDataRegister = false) (stream : m.device = bytes) :
    ∃ driver' m', mouseInterrupts byteSource bytes.length ⟨some driver, m, callbacks⟩ =
        .ok ⟨some driver', m', callbacks ++
          packetHistory driver.data (Framing.feed mouseStartsPacket 2 part bytes).1⟩ ∧
      Decoding driver' (Framing.feed mouseStartsPacket 2 part bytes).2 ∧
      driver'.data =
        (Framing.feed mouseStartsPacket 2 part bytes).1.foldl applyPacket driver.data ∧
      (driver.packetComplete = false → driver'.packetComplete = false) := by
  obtain ⟨driver', m', run, collected⟩ :=
    mouseInterrupts_collect bytes h.running h.collecting m callbacks unlocked stream
  rw [packetCallbacks, if_pos h.callback] at run
  exact ⟨driver', m', run, h.of_collected collected, collected.data, collected.complete⟩

/-- The state a fresh driver is decoding in: between two packets. -/
theorem decoding_start {driver : RtMouseDriver} (running : driver.base.state = .running)
    (index : driver.packetIndex = 0) (callback : driver.callback = true) : Decoding driver [] :=
  ⟨running, callback, by simp [index], rfl, Framing.partial_nil⟩

/-- From a driver between two packets, the handler reads the stream as the parser does. -/
theorem mouseInterrupts_parse (driver : RtMouseDriver) (tables : IoTables)
    (log : List IoAccess) (bytes : List RtU8) (running : driver.base.state = .running)
    (index : driver.packetIndex = 0) (callback : driver.callback = true)
    (unlocked : ioIsPortLocked tables mouseDataRegister = false) :
    ∃ driver' m', mouseInterrupts byteSource bytes.length ⟨some driver, ⟨tables, bytes, log⟩, []⟩ =
        .ok ⟨some driver', m',
          packetHistory driver.data (Framing.parse mouseStartsPacket 2 bytes).1⟩ ∧
      Decoding driver' (Framing.parse mouseStartsPacket 2 bytes).2 ∧
      driver'.data = (Framing.parse mouseStartsPacket 2 bytes).1.foldl applyPacket driver.data ∧
      (driver.packetComplete = false → driver'.packetComplete = false) := by
  have fed := mouseInterrupts_feed bytes (decoding_start running index callback)
    ⟨tables, bytes, log⟩ [] unlocked rfl
  simpa only [Framing.feed_eq_parse Framing.partial_nil, List.nil_append] using fed

/-- The handler, fed any byte stream one byte at a time, decodes what the batch parser
decodes: same data, same leftover, same callback arguments, one for each packet. -/
theorem mouseInterrupts_eq_batch (driver : RtMouseDriver) (tables : IoTables)
    (log : List IoAccess) (bytes : List RtU8) (running : driver.base.state = .running)
    (index : driver.packetIndex = 0) (complete : driver.packetComplete = false)
    (callback : driver.callback = true)
    (unlocked : ioIsPortLocked tables mouseDataRegister = false) :
    let batch := Framing.parse mouseStartsPacket 2 bytes
    ∃ driver' m', mouseInterrupts byteSource bytes.length ⟨some driver, ⟨tables, bytes, log⟩, []⟩ =
        .ok ⟨some driver', m', packetHistory driver.data batch.1⟩ ∧
      driver'.data = batch.1.foldl applyPacket driver.data ∧
      driver'.packetIndex.toNat = batch.2.length ∧
      driver'.packet.toList.take driver'.packetIndex.toNat = batch.2 ∧
      batch.2.length ≤ 2 ∧
      driver'.packetComplete = false ∧
      (packetHistory driver.data batch.1).length = batch.1.length := by
  obtain ⟨driver', m', run, decoding, data, complete'⟩ :=
    mouseInterrupts_parse driver tables log bytes running index callback unlocked
  refine ⟨driver', m', run, data, decoding.index, ?_, decoding.unfinished.short,
    complete' complete, packetHistory_length _ _⟩
  rw [decoding.index, decoding.packet]

/-- A driver as `Mouse_Enable` leaves it, for tests. -/
def mouseRunning : RtMouseDriver where
  base := ⟨.running⟩
  data := ⟨0, 0, 0, 0, false, 100⟩
  mode := .stream
  callback := true
  packet := Vector.replicate 3 0
  packetIndex := 0
  packetComplete := false

/-- A skipped byte, a packet moving left by one, and a packet cut after two bytes. -/
theorem mouseInterrupts_eq_batch_sample :
    ∃ driver' m', mouseInterrupts byteSource 6
        ⟨some mouseRunning, ⟨ioTablesInit, [0x08, 0x18, 0xFF, 0x00, 0x28, 0x01], []⟩, []⟩ =
        .ok ⟨some driver', m', [⟨-1, 0, 0, 0, true, 100⟩]⟩ ∧
      driver'.packetIndex.toNat = 2 := by
  obtain ⟨driver', m', run, _, index, _⟩ := mouseInterrupts_eq_batch mouseRunning ioTablesInit []
    [0x08, 0x18, 0xFF, 0x00, 0x28, 0x01] rfl rfl rfl rfl rfl
  have batch : Framing.parse mouseStartsPacket 2 [0x08, 0x18, 0xFF, 0x00, 0x28, 0x01] =
      ([[0x18, 0xFF, 0x00]], [0x28, 0x01]) := by
    simp [Framing.parse, mouseStartsPacket]
  rw [batch] at run index
  exact ⟨driver', m', run, index⟩

end LamaOS
