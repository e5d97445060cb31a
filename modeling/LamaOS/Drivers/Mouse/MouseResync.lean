import LamaOS.Drivers.Mouse.MouseRuns
import LamaOS.Misc.Resync

/-!
# A decoder out of step

A lost byte, or a disable command in the middle of a packet, leaves the handler at another
place in its packet than the mouse. The PS/2 packet has nothing that marks its first byte, and
the handler's own test, that a first byte has a sign bit, is all that can bring it back. This
module says which bytes do: two handlers that read them report the same movements from then
on, wherever in a packet they were, exactly when the sign bits of the bytes are a word of
`Framing.synchronises`.
-/

namespace LamaOS

/-- A running driver with a callback, at any place in a packet. -/
structure Receiving (driver : RtMouseDriver) : Prop where
  invariant : MouseInvariant driver
  running : driver.base.state = .running
  callback : driver.callback = true

/-- The movements between one report and the next, with the buttons: what a listener sees that
does not know where the pointer was. -/
def movementsFrom : MouseData → List MouseData → List (RtS16 × RtS16 × MouseButtons)
  | _, [] => []
  | data, next :: reports =>
    (next.x - data.x, next.y - data.y, next.buttons) :: movementsFrom next reports

/-- The movements that the handler reports while it reads `rest`, after it has read `bytes`. -/
def movementsAfter (tables : IoTables) (driver : RtMouseDriver) (bytes rest : List RtU8) :
    Except MemoryFault (List (RtS16 × RtS16 × MouseButtons)) :=
  match mouseInterrupts byteSource bytes.length ⟨some driver, ⟨tables, bytes, []⟩, []⟩ with
  | .error fault => .error fault
  | .ok read =>
    (mouseInterrupts byteSource rest.length
      ⟨read.driver, ⟨tables, rest, read.machine.log⟩, []⟩).map fun more =>
        read.driver.elim [] fun driver => movementsFrom driver.data more.callbacks

/-- The movement that a packet stands for. -/
def packetMovement : List RtU8 → RtS16 × RtS16 × MouseButtons
  | [flags, b1, b2] => (BitVec.ofInt 16 (packetDelta flags 4 b1),
      -BitVec.ofInt 16 (packetDelta flags 5 b2), (flags &&& 7).setWidth 32)
  | _ => (0, 0, 0)

theorem movementsFrom_history (data : MouseData) {frames : List (List RtU8)}
    (full : ∀ frame ∈ frames, frame.length = 3) :
    movementsFrom data (packetHistory data frames) = frames.map packetMovement := by
  induction frames generalizing data with
  | nil => rfl
  | cons frame frames ih =>
    rw [List.forall_mem_cons] at full
    obtain ⟨flags, b1, b2, rfl⟩ := List.length_eq_three.mp full.1
    rw [packetHistory, movementsFrom, ih _ full.2, List.map_cons]
    congr 1
    simp only [applyPacket, packetMovement, Prod.mk.injEq, and_true]
    constructor
    · rw [BitVec.add_comm, BitVec.add_sub_cancel]
    · rw [BitVec.sub_eq_add_neg data.y, BitVec.add_comm, BitVec.add_sub_cancel]

/-- The movements between the reports that a driver makes of bytes are those of the packets it
cuts. -/
theorem movementsFrom_feed (data : MouseData) {part : List RtU8}
    (unfinished : Framing.Partial mouseStartsPacket 2 part) (bytes : List RtU8) :
    movementsFrom data (packetHistory data (Framing.feed mouseStartsPacket 2 part bytes).1) =
      (Framing.feed mouseStartsPacket 2 part bytes).1.map packetMovement := by
  apply movementsFrom_history
  intro frame mem
  rw [Framing.feed_eq_parse unfinished] at mem
  obtain ⟨b, ts, rfl, -, two⟩ := Framing.mem_parse mem
  rw [List.length_cons, two]

/-- A receiving driver reads the bytes from the place in a packet where it is. -/
theorem movementsAfter_eq {tables : IoTables} {driver : RtMouseDriver}
    (unlocked : ioIsPortLocked tables mouseDataRegister = false) (receiving : Receiving driver)
    (bytes rest : List RtU8) :
    movementsAfter tables driver bytes rest =
      .ok ((Framing.feed mouseStartsPacket 2
        (Framing.feed mouseStartsPacket 2 driver.part bytes).2 rest).1.map packetMovement) := by
  have collecting := receiving.invariant.collecting
  have decoding : Decoding driver driver.part :=
    ⟨receiving.running, receiving.callback, collecting.index, collecting.packet,
      collecting.unfinished⟩
  obtain ⟨driver', m', read, decoding', -⟩ :=
    mouseInterrupts_feed bytes decoding ⟨tables, bytes, []⟩ [] unlocked rfl
  obtain ⟨driver'', m'', more, -⟩ :=
    mouseInterrupts_feed rest decoding' ⟨tables, rest, m'.log⟩ [] unlocked rfl
  simp only [movementsAfter, read, more, Except.map, Option.elim_some, List.nil_append,
    movementsFrom_feed driver'.data decoding'.unfinished]

/-- The driver with the first `index` bytes of a packet. -/
def mouseAt (index : RtU8) : RtMouseDriver :=
  { mouseRunning with packet := #v[0x10, 0, 0], packetIndex := index }

theorem receiving_mouseAt {index : RtU8} (below : index.toNat ≤ 2) :
    Receiving (mouseAt index) :=
  ⟨⟨below, rfl, fun _ => (by decide : (0x10 : RtU8) &&& 0x30 ≠ 0), .inr (.inr rfl)⟩, rfl, rfl⟩

theorem part_mouseAt_length {index : RtU8} (below : index.toNat ≤ 2) :
    (mouseAt index).part.length = index.toNat := by
  simp only [mouseAt, RtMouseDriver.part, List.length_take, Vector.length_toList, mousePacketSize]
  omega

/-- Readers that have not met report different numbers of movements of some bytes. -/
theorem exists_movements_differ {tables : IoTables} {driver driver' : RtMouseDriver}
    (unlocked : ioIsPortLocked tables mouseDataRegister = false) (receiving : Receiving driver)
    (receiving' : Receiving driver') {bytes : List RtU8}
    (behind : (Framing.feed mouseStartsPacket 2 driver.part bytes).2.length <
      (Framing.feed mouseStartsPacket 2 driver'.part bytes).2.length) :
    ∃ rest, movementsAfter tables driver bytes rest ≠ movementsAfter tables driver' bytes rest := by
  obtain ⟨rest, differ⟩ := Framing.exists_cut_differently 0x10
    (Framing.feed_partial receiving'.invariant.collecting.unfinished bytes) behind
  refine ⟨rest, fun same => differ ?_⟩
  rw [movementsAfter_eq unlocked receiving, movementsAfter_eq unlocked receiving'] at same
  have lengths := congrArg List.length (Except.ok.inj same)
  rwa [List.length_map, List.length_map] at lengths

/-- Two receiving drivers read the same bytes. Wherever in a packet they were before, they report
the same movements of everything that is read after these bytes if and only if the sign bits of
the bytes synchronise: after the first byte without one, and any number of packets of the kinds
"a sign bit, none" and "two sign bits, any byte", there is another byte without one. -/
theorem mouseResync_iff (tables : IoTables)
    (unlocked : ioIsPortLocked tables mouseDataRegister = false) (bytes : List RtU8) :
    (∀ driver driver', Receiving driver → Receiving driver' → ∀ rest,
      movementsAfter tables driver bytes rest = movementsAfter tables driver' bytes rest) ↔
    Framing.synchronises (bytes.map mouseStartsPacket) = true := by
  rw [← Framing.inStep_two_iff]
  constructor
  · intro alike p below
    by_contra apart
    have small : (BitVec.ofNat 8 p).toNat = p := by
      rw [BitVec.toNat_ofNat]
      omega
    have below' : (BitVec.ofNat 8 p).toNat ≤ 2 := by rwa [small]
    have start : Receiving (mouseAt 0) := receiving_mouseAt (by decide)
    have other := receiving_mouseAt below'
    have place : (Framing.feed mouseStartsPacket 2 (mouseAt (BitVec.ofNat 8 p)).part
        bytes).2.length = Framing.place mouseStartsPacket 2 p bytes := by
      rw [Framing.feed_length, part_mouseAt_length below', small]
    have place₀ : (Framing.feed mouseStartsPacket 2 (mouseAt 0).part bytes).2.length =
        Framing.place mouseStartsPacket 2 0 bytes := by
      rw [Framing.feed_length, part_mouseAt_length (by decide)]
      rfl
    rw [← place, ← place₀] at apart
    rcases Nat.lt_or_gt_of_ne apart with behind | ahead
    · obtain ⟨rest, differ⟩ := exists_movements_differ unlocked other start behind
      exact differ (alike _ _ other start rest)
    · obtain ⟨rest, differ⟩ := exists_movements_differ unlocked start other ahead
      exact differ (alike _ _ start other rest)
  · intro inStep driver driver' receiving receiving' rest
    rw [movementsAfter_eq unlocked receiving, movementsAfter_eq unlocked receiving',
      Framing.feed_of_inStep receiving.invariant.collecting.unfinished inStep,
      Framing.feed_of_inStep receiving'.invariant.collecting.unfinished inStep]

/-- After two bytes without a sign bit a handler that waited for its second byte reads the next
packet as one does that waited for its first. -/
theorem mouseResync_two_bytes :
    movementsAfter ioTablesInit (mouseAt 1) [0x08, 0x00] [0x18, 0xFF, 0x00] =
      movementsAfter ioTablesInit (mouseAt 0) [0x08, 0x00] [0x18, 0xFF, 0x00] :=
  (mouseResync_iff ioTablesInit rfl [0x08, 0x00]).mpr (by decide) (mouseAt 1) (mouseAt 0)
    (receiving_mouseAt (by decide)) (receiving_mouseAt (by decide)) _

end LamaOS
