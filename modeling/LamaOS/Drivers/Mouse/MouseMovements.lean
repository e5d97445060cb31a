import LamaOS.Drivers.Mouse.MousePackets
import Mathlib.Algebra.Order.Ring.Int
import Mathlib.Data.List.Basic

/-!
# Movements through the decoder

A PS/2 mouse sends a movement as three bytes, the first of which always has bit 3 set. The
first-byte test of `Mouse_InterruptHandler` asks for a sign bit instead, so a movement
without a negative component is not taken up as a packet: its bytes are skipped, or begin a
packet in the wrong place. This module says exactly which sequences of movements come
through without loss.
-/

namespace LamaOS

/-- A movement the protocol can carry: 9-bit signed distances and three buttons. -/
structure MouseMovement where
  dx : Int
  dy : Int
  buttons : BitVec 3
  dxRange : -256 ≤ dx ∧ dx ≤ 255
  dyRange : -256 ≤ dy ∧ dy ≤ 255

namespace MouseMovement

/-- The flags byte of a movement. -/
def flags (m : MouseMovement) : RtU8 :=
  m.buttons.setWidth 8 ||| 0x08 ||| (if m.dx < 0 then 0x10 else 0) |||
    (if m.dy < 0 then 0x20 else 0)

/-- The three bytes of a movement. -/
def encode (m : MouseMovement) : List RtU8 :=
  [m.flags, BitVec.ofInt 8 m.dx, BitVec.ofInt 8 m.dy]

/-- Only the buttons are reported. -/
def isZero (m : MouseMovement) : Bool := m.dx = 0 ∧ m.dy = 0

/-- The movement has a component whose sign bit is set. -/
def isNegative (m : MouseMovement) : Bool := m.dx < 0 ∨ m.dy < 0

end MouseMovement

/-- The buttons after a sequence of movements. -/
def lastButtons (buttons : MouseButtons) (ms : List MouseMovement) : MouseButtons :=
  ms.foldl (fun _ m => m.buttons.setWidth 32) buttons

/-- What the callback is to be told: position and buttons after each movement that moves. -/
def movementReports : RtS16 → RtS16 → List MouseMovement → List (RtS16 × RtS16 × MouseButtons)
  | _, _, [] => []
  | x, y, m :: ms =>
    let x := x + BitVec.ofInt 16 m.dx
    let y := y - BitVec.ofInt 16 m.dy
    if m.isZero then movementReports x y ms
    else (x, y, m.buttons.setWidth 32) :: movementReports x y ms

/-- The part of the callback's argument that a movement determines. -/
def report (data : MouseData) : RtS16 × RtS16 × MouseButtons := (data.x, data.y, data.buttons)

/-- The driver has taken in all of the movements, and told the callback. -/
structure DecodedWithoutLoss (driver : RtMouseDriver) (ms : List MouseMovement)
    (driver' : RtMouseDriver) (callbacks : List MouseData) : Prop where
  x : driver'.data.x = driver.data.x + BitVec.ofInt 16 (ms.map (·.dx)).sum
  y : driver'.data.y = driver.data.y - BitVec.ofInt 16 (ms.map (·.dy)).sum
  buttons : driver'.data.buttons = lastButtons driver.data.buttons ms
  index : driver'.packetIndex = 0
  callbacks : callbacks.map report = movementReports driver.data.x driver.data.y ms

/-! ## The bytes of one movement -/

theorem flags_sign (m : MouseMovement) :
    m.flags.getLsbD 4 = decide (m.dx < 0) ∧ m.flags.getLsbD 5 = decide (m.dy < 0) ∧
      (m.flags &&& 7).setWidth 32 = (m.buttons.setWidth 32 : MouseButtons) := by
  obtain ⟨dx, dy, buttons, _, _⟩ := m
  unfold MouseMovement.flags
  by_cases hx : dx < 0 <;> by_cases hy : dy < 0 <;> simp only [hx, hy] <;> revert buttons <;>
    decide

/-- Whatever its signs, a movement that is taken as a packet decodes to itself. -/
theorem applyPacket_encode (data : MouseData) (m : MouseMovement) :
    applyPacket data m.encode = { data with
      x := data.x + BitVec.ofInt 16 m.dx
      y := data.y - BitVec.ofInt 16 m.dy
      buttons := m.buttons.setWidth 32
      moved := true } := by
  obtain ⟨hx, hy, hb⟩ := flags_sign m
  have delta : ∀ (d : Int) (bit : Nat), m.flags.getLsbD bit = decide (d < 0) →
      (-256 ≤ d ∧ d ≤ 255) → packetDelta m.flags bit (BitVec.ofInt 8 d) = d := by
    intro d bit sign range
    unfold packetDelta
    rw [sign, BitVec.toNat_ofInt]
    by_cases neg : d < 0 <;> simp only [neg, decide_true, decide_false, if_true] <;> simp <;> omega
  rw [MouseMovement.encode, applyPacket, delta m.dx 4 hx m.dxRange, delta m.dy 5 hy m.dyRange, hb]

theorem starts_flags_iff (m : MouseMovement) :
    mouseStartsPacket m.flags = true ↔ m.isNegative = true := by
  obtain ⟨hx, hy, _⟩ := flags_sign m
  rw [mouseStartsPacket_iff, hx, hy]
  simp [MouseMovement.isNegative]

/-- The three bytes of a movement by zero are skipped one by one. -/
theorem encode_zero_skipped {m : MouseMovement} (zero : m.isZero = true) :
    ∀ b ∈ m.encode, mouseStartsPacket b = false := by
  have eq : m.dx = 0 ∧ m.dy = 0 := by simpa [MouseMovement.isZero] using zero
  have first : mouseStartsPacket m.flags = false := by
    rw [Bool.eq_false_iff, Ne, starts_flags_iff]
    simp [MouseMovement.isNegative, eq]
  simp [MouseMovement.encode, first, eq]
  decide

/-- A stream of movements that are negative or zero is framed as it was sent, with the
movements by zero left out. -/
theorem parse_encode (ms : List MouseMovement)
    (fit : ∀ m ∈ ms, m.isZero = true ∨ m.isNegative = true) :
    Framing.parse mouseStartsPacket 2 (ms.flatMap (·.encode)) =
      ((ms.filter (!·.isZero)).map (·.encode), []) := by
  induction ms with
  | nil => rw [List.flatMap_nil, Framing.parse]; rfl
  | cons m ms ih =>
    have rest := ih fun m' h => fit m' (List.mem_cons_of_mem _ h)
    rw [List.flatMap_cons]
    cases zero : m.isZero with
    | true =>
      rw [Framing.parse_skip _ (encode_zero_skipped zero), rest]
      simp [zero]
    | false =>
      have negative : m.isNegative = true := by simpa [zero] using fit m List.mem_cons_self
      have two : [BitVec.ofInt 8 m.dx, BitVec.ofInt 8 m.dy].length = 2 := rfl
      have frame := Framing.parse_frame _ (ms.flatMap (·.encode))
        ((starts_flags_iff m).mpr negative) two
      rw [rest] at frame
      rw [MouseMovement.encode, frame]
      simp [zero, MouseMovement.encode]

/-! ## Which movements come through -/

/-- The state of one driver after the movements folded over its data. -/
theorem foldl_encode (data : MouseData) (ms : List MouseMovement) :
    let final := ((ms.filter (!·.isZero)).map (·.encode)).foldl applyPacket data
    final.x = data.x + BitVec.ofInt 16 (ms.map (·.dx)).sum ∧
      final.y = data.y - BitVec.ofInt 16 (ms.map (·.dy)).sum ∧
      final.buttons = lastButtons data.buttons (ms.filter (!·.isZero)) := by
  induction ms generalizing data with
  | nil => simp [lastButtons]
  | cons m ms ih =>
    cases zero : m.isZero with
    | true =>
      have eq : m.dx = 0 ∧ m.dy = 0 := by simpa [MouseMovement.isZero] using zero
      simpa [zero, eq] using ih data
    | false =>
      obtain ⟨hx, hy, hb⟩ := ih (applyPacket data m.encode)
      simp only [zero, Bool.not_false, List.filter_cons_of_pos, List.map_cons, List.foldl_cons,
        List.sum_cons]
      rw [hx, hy, hb, applyPacket_encode]
      refine ⟨?_, ?_, rfl⟩
      · rw [BitVec.ofInt_add, BitVec.add_assoc]
      · rw [BitVec.ofInt_add]; grind

theorem history_encode (data : MouseData) (ms : List MouseMovement) :
    (packetHistory data ((ms.filter (!·.isZero)).map (·.encode))).map report =
      movementReports data.x data.y ms := by
  induction ms generalizing data with
  | nil => rfl
  | cons m ms ih =>
    cases zero : m.isZero with
    | true =>
      have eq : m.dx = 0 ∧ m.dy = 0 := by simpa [MouseMovement.isZero] using zero
      have still : data.x + BitVec.ofInt 16 0 = data.x ∧ data.y - BitVec.ofInt 16 0 = data.y := by
        simp
      simpa [zero, movementReports, eq] using ih data
    | false =>
      have rest := ih (applyPacket data m.encode)
      rw [applyPacket_encode] at rest
      simp [zero, movementReports, packetHistory, applyPacket_encode, report, ← rest]

/-- Callbacks that tell the right story come from packets that are right, and these all have
a sign bit set. -/
theorem isNegative_of_reports (data : MouseData) (ms : List MouseMovement)
    (frames : List (List RtU8))
    (framed : ∀ f ∈ frames, ∃ b ts, f = b :: ts ∧ mouseStartsPacket b = true ∧ ts.length = 2)
    (told : (packetHistory data frames).map report = movementReports data.x data.y ms) :
    ∀ m ∈ ms, m.isZero = true ∨ m.isNegative = true := by
  induction ms generalizing data frames with
  | nil => simp
  | cons m ms ih =>
    cases zero : m.isZero with
    | true =>
      have eq : m.dx = 0 ∧ m.dy = 0 := by simpa [MouseMovement.isZero] using zero
      have told' : (packetHistory data frames).map report = movementReports data.x data.y ms := by
        simpa [movementReports, zero, eq] using told
      intro m' h
      rcases List.mem_cons.mp h with rfl | h
      · exact .inl zero
      · exact ih data frames framed told' m' h
    | false =>
      simp only [movementReports, zero, Bool.false_eq_true, if_false] at told
      cases frames with
      | nil => cases told
      | cons frame frames =>
        obtain ⟨flags, ts, rfl, starts, two⟩ := framed _ List.mem_cons_self
        obtain ⟨b1, b2, rfl⟩ := List.length_eq_two.mp two
        simp only [packetHistory, List.map_cons, List.cons.injEq, report, Prod.mk.injEq] at told
        obtain ⟨⟨hx, hy, _⟩, rest⟩ := told
        have dx : packetDelta flags 4 b1 = m.dx := by
          apply ofInt16_inj (packetDelta_range _ _ _) m.dxRange
          simp only [applyPacket] at hx
          grind
        have dy : packetDelta flags 5 b2 = m.dy := by
          apply ofInt16_inj (packetDelta_range _ _ _) m.dyRange
          simp only [applyPacket] at hy
          grind
        have negative : m.isNegative = true := by
          have := packetDelta_neg_of_starts starts b1 b2
          rw [dx, dy] at this
          simpa [MouseMovement.isNegative] using this
        rw [← hx, ← hy] at rest
        intro m' h
        rcases List.mem_cons.mp h with rfl | h
        · exact .inr negative
        · exact ih _ frames (fun f hf => framed f (List.mem_cons_of_mem _ hf)) rest m' h

/-- Of whatever the handler makes of a stream of movements, a lossless result requires that
no movement goes right or up only. -/
theorem fit_of_decoded {driver driver' : RtMouseDriver} {tables : IoTables}
    {log : List IoAccess} {ms : List MouseMovement} {m' : Machine (List RtU8)}
    {callbacks : List MouseData} (running : driver.base.state = .running)
    (index : driver.packetIndex = 0) (callback : driver.callback = true)
    (unlocked : ioIsPortLocked tables mouseDataRegister = false)
    (run : mouseInterrupts byteSource (ms.flatMap (·.encode)).length
      ⟨some driver, ⟨tables, ms.flatMap (·.encode), log⟩, []⟩ = .ok ⟨some driver', m', callbacks⟩)
    (decoded : DecodedWithoutLoss driver ms driver' callbacks) :
    ∀ m ∈ ms, m.isZero = true ∨ m.isNegative = true := by
  obtain ⟨driver₁, m₁, run₁, _⟩ := mouseInterrupts_parse driver tables log
    (ms.flatMap (·.encode)) running index callback unlocked
  have same := run.symm.trans run₁
  simp only [Except.ok.injEq, MouseInterrupt.mk.injEq] at same
  have told := decoded.callbacks
  rw [same.2.2] at told
  exact isNegative_of_reports _ _ _ (fun _ hf => Framing.mem_parse hf) told

/-- A stream of movements is decoded without loss exactly when every movement that is not by
zero goes left or down, and the buttons last reported are those of the last movement that is
not by zero: movements by zero are dropped, with the buttons they carry. -/
theorem mouse_decodes_iff (driver : RtMouseDriver) (tables : IoTables) (log : List IoAccess)
    (ms : List MouseMovement) (running : driver.base.state = .running)
    (index : driver.packetIndex = 0) (callback : driver.callback = true)
    (unlocked : ioIsPortLocked tables mouseDataRegister = false) :
    (∃ driver' m' callbacks,
      mouseInterrupts byteSource (ms.flatMap (·.encode)).length
          ⟨some driver, ⟨tables, ms.flatMap (·.encode), log⟩, []⟩ =
        .ok ⟨some driver', m', callbacks⟩ ∧
      DecodedWithoutLoss driver ms driver' callbacks) ↔
      ((∀ m ∈ ms, m.isZero = true ∨ m.isNegative = true) ∧
        lastButtons driver.data.buttons ms =
          lastButtons driver.data.buttons (ms.filter (!·.isZero))) := by
  obtain ⟨driver₁, m₁, run, decoding, data, _⟩ := mouseInterrupts_parse driver tables log
    (ms.flatMap (·.encode)) running index callback unlocked
  obtain ⟨hx, hy, hb⟩ := foldl_encode driver.data ms
  constructor
  · rintro ⟨driver', m', callbacks, run', decoded⟩
    have fit := fit_of_decoded running index callback unlocked run' decoded
    have same := run'.symm.trans run
    simp only [Except.ok.injEq, MouseInterrupt.mk.injEq, Option.some.injEq] at same
    refine ⟨fit, ?_⟩
    rw [← decoded.buttons, same.1, data, parse_encode ms fit, hb]
  · rintro ⟨fit, buttons⟩
    rw [parse_encode ms fit] at run decoding data
    refine ⟨driver₁, m₁, _, run, ?_, ?_, ?_, ?_, history_encode driver.data ms⟩
    · rw [data, hx]
    · rw [data, hy]
    · rw [data, hb, buttons]
    · exact BitVec.eq_of_toNat_eq decoding.index

/-- Movements by one to the left, and by one to the right and up. -/
def moveLeft : MouseMovement := ⟨-1, 0, 0, by decide, by decide⟩
def moveRightUp : MouseMovement := ⟨1, 1, 0, by decide, by decide⟩

/-- A movement to the left comes through. -/
theorem mouse_decodes_left :
    ∃ driver' m' callbacks,
      mouseInterrupts byteSource ([moveLeft].flatMap (·.encode)).length
          ⟨some mouseRunning, ⟨ioTablesInit, [moveLeft].flatMap (·.encode), []⟩, []⟩ =
        .ok ⟨some driver', m', callbacks⟩ ∧
      DecodedWithoutLoss mouseRunning [moveLeft] driver' callbacks :=
  (mouse_decodes_iff mouseRunning ioTablesInit [] [moveLeft] rfl rfl rfl rfl).mpr
    ⟨by decide, by decide⟩

/-- A movement right and up, sent as `08 01 01`, is lost. -/
theorem mouse_loses_right_up :
    ¬ ∃ driver' m' callbacks,
      mouseInterrupts byteSource ([moveRightUp].flatMap (·.encode)).length
          ⟨some mouseRunning, ⟨ioTablesInit, [moveRightUp].flatMap (·.encode), []⟩, []⟩ =
        .ok ⟨some driver', m', callbacks⟩ ∧
      DecodedWithoutLoss mouseRunning [moveRightUp] driver' callbacks := by
  rintro ⟨driver', m', callbacks, run, decoded⟩
  have fit := fit_of_decoded rfl rfl rfl rfl run decoded moveRightUp List.mem_cons_self
  revert fit
  decide

end LamaOS
