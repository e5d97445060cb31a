import LamaOS.Drivers.Mouse.MouseRuns

/-!
# What a packet leaves behind when the mouse is turned off

`Mouse_Init` sets the packet index back to zero; `Mouse_Enable` and `Mouse_Disable` do not. A
packet that was cut by turning the mouse off is still under construction when it is turned on
again, and the first bytes then are taken for its rest. This module says what two drivers must
have in common to decode alike after they have been turned on: the packet under construction,
up to the bits of its first byte that decoding does not look at.
-/

namespace LamaOS

/-- The bits of the first byte that decoding looks at: both signs and the buttons. -/
def mouseFlagsRead (flags : RtU8) : RtU8 := flags &&& 0x37

/-- The machine delivers these bytes at the data register. -/
structure Delivers (m : Machine (List RtU8)) (bytes : List RtU8) : Prop where
  stream : m.device = bytes
  unlocked : ioIsPortLocked m.tables mouseDataRegister = false

/-- Fed the same bytes, the handler makes the same reports and leaves the same position and
buttons for both drivers. -/
def DecodesAlike (driver₁ driver₂ : RtMouseDriver) : Prop :=
  ∀ (bytes : List RtU8) (m₁ m₂ : Machine (List RtU8)), Delivers m₁ bytes → Delivers m₂ bytes →
    ∃ driver₁' m₁' callbacks₁ driver₂' m₂' callbacks₂,
      mouseInterrupts byteSource bytes.length ⟨some driver₁, m₁, []⟩ =
          .ok ⟨some driver₁', m₁', callbacks₁⟩ ∧
        mouseInterrupts byteSource bytes.length ⟨some driver₂, m₂, []⟩ =
          .ok ⟨some driver₂', m₂', callbacks₂⟩ ∧
        report driver₁'.data = report driver₂'.data ∧
        callbacks₁.map report = callbacks₂.map report

/-- The packets under construction are the same, as far as decoding looks at them: the same
number of bytes, the same signs and buttons, and the same second byte. -/
def SameLeftover (driver₁ driver₂ : RtMouseDriver) : Prop :=
  Framing.Masked mouseFlagsRead driver₁.part driver₂.part

/-! ## One packet -/

theorem mouseFlagsRead_eq_iff (flags flags' : RtU8) :
    mouseFlagsRead flags = mouseFlagsRead flags' ↔
      flags.getLsbD 4 = flags'.getLsbD 4 ∧ flags.getLsbD 5 = flags'.getLsbD 5 ∧
        (flags &&& 7).setWidth 32 = ((flags' &&& 7).setWidth 32 : MouseButtons) := by
  have split : ∀ f : RtU8, (mouseFlagsRead f).getLsbD 4 = f.getLsbD 4 ∧
      (mouseFlagsRead f).getLsbD 5 = f.getLsbD 5 ∧ mouseFlagsRead f &&& 7 = f &&& 7 ∧
      mouseFlagsRead f = ((f &&& 7).setWidth 32).setWidth 8 |||
        (if f.getLsbD 4 then 0x10 else 0) ||| (if f.getLsbD 5 then 0x20 else 0) := by
    unfold mouseFlagsRead
    decide
  obtain ⟨x, y, buttons, whole⟩ := split flags
  obtain ⟨x', y', buttons', whole'⟩ := split flags'
  constructor
  · intro same
    rw [← x, ← y, ← buttons, same, x', y', buttons']
    exact ⟨rfl, rfl, rfl⟩
  · rintro ⟨sameX, sameY, sameButtons⟩
    rw [whole, whole', sameX, sameY, sameButtons]

/-- The nine bits of a movement determine it. -/
theorem packetDelta_inj {flags flags' byte byte' : RtU8} {signBit : Nat}
    (same : packetDelta flags signBit byte = packetDelta flags' signBit byte') :
    flags.getLsbD signBit = flags'.getLsbD signBit ∧ byte = byte' := by
  have below := byte.isLt
  have below' := byte'.isLt
  unfold packetDelta at same
  cases sign : flags.getLsbD signBit <;> cases sign' : flags'.getLsbD signBit <;>
    simp only [sign, sign', if_true, Bool.false_eq_true, if_false] at same
  · exact ⟨rfl, BitVec.eq_of_toNat_eq (by omega)⟩
  · omega
  · omega
  · exact ⟨rfl, BitVec.eq_of_toNat_eq (by omega)⟩

/-- Packets that are the same for decoding make the same report of the same data. -/
theorem report_applyPacket_congr {data data' : MouseData} (same : report data = report data')
    {packet packet' : List RtU8} (masked : Framing.Masked mouseFlagsRead packet packet') :
    report (applyPacket data packet) = report (applyPacket data' packet') := by
  obtain ⟨hx, hy, hb⟩ : data.x = data'.x ∧ data.y = data'.y ∧ data.buttons = data'.buttons := by
    simpa [report] using same
  cases packet with
  | nil =>
    cases packet' with
    | nil => exact same
    | cons _ _ => cases masked
  | cons flags rest =>
    cases packet' with
    | nil => cases masked
    | cons flags' rest' =>
      obtain ⟨head, rfl⟩ := List.cons.inj masked
      obtain ⟨signX, signY, buttons⟩ := (mouseFlagsRead_eq_iff flags flags').mp head
      -- only packets of three bytes are folded in
      rcases rest with _ | ⟨b1, _ | ⟨b2, _ | ⟨_, _⟩⟩⟩
      · exact same
      · exact same
      · simp only [applyPacket, report, packetDelta, hx, hy, signX, signY, buttons]
      · exact same

/-- Packets that make the same report of the same data are the same for decoding. -/
theorem report_applyPacket_inj {data data' : MouseData} (same : report data = report data')
    {packet packet' : List RtU8} (full : packet.length = 3) (full' : packet'.length = 3)
    (reports : report (applyPacket data packet) = report (applyPacket data' packet')) :
    Framing.Masked mouseFlagsRead packet packet' := by
  obtain ⟨flags, b1, b2, rfl⟩ := List.length_eq_three.mp full
  obtain ⟨flags', b1', b2', rfl⟩ := List.length_eq_three.mp full'
  simp only [report, Prod.mk.injEq] at same
  simp only [applyPacket, report, Prod.mk.injEq] at reports
  obtain ⟨hx, hy, hb⟩ := reports
  have moveX : packetDelta flags 4 b1 = packetDelta flags' 4 b1' := by
    apply ofInt16_inj (packetDelta_range _ _ _) (packetDelta_range _ _ _)
    grind
  have moveY : packetDelta flags 5 b2 = packetDelta flags' 5 b2' := by
    apply ofInt16_inj (packetDelta_range _ _ _) (packetDelta_range _ _ _)
    grind
  obtain ⟨signX, rfl⟩ := packetDelta_inj moveX
  obtain ⟨signY, rfl⟩ := packetDelta_inj moveY
  have head := (mouseFlagsRead_eq_iff flags flags').mpr ⟨signX, signY, hb⟩
  exact congrArg (· :: _) head

/-- A packet that was begun moves the position. -/
theorem report_applyPacket_ne {data : MouseData} {packet : List RtU8} (full : packet.length = 3)
    (begun : ∀ b ∈ packet.head?, mouseStartsPacket b = true) :
    report (applyPacket data packet) ≠ report data := by
  obtain ⟨flags, b1, b2, rfl⟩ := List.length_eq_three.mp full
  intro still
  simp only [applyPacket, report, Prod.mk.injEq] at still
  have zero : BitVec.ofInt 16 0 = 0#16 := rfl
  have stillX : packetDelta flags 4 b1 = 0 := by
    apply ofInt16_inj (packetDelta_range _ _ _) (by omega)
    grind
  have stillY : packetDelta flags 5 b2 = 0 := by
    apply ofInt16_inj (packetDelta_range _ _ _) (by omega)
    grind
  rcases packetDelta_neg_of_starts (begun flags rfl) b1 b2 with negative | negative
  · omega
  · omega

/-! ## The bytes that follow -/

/-- The data after the packets that a driver makes of the bytes that follow. -/
def decodedData (driver : RtMouseDriver) (bytes : List RtU8) : MouseData :=
  (Framing.feed mouseStartsPacket 2 driver.part bytes).1.foldl applyPacket driver.data

theorem forall₂_reports {packets packets' : List (List RtU8)}
    (masked : List.Forall₂ (Framing.Masked mouseFlagsRead) packets packets')
    {data data' : MouseData} (same : report data = report data') :
    report (packets.foldl applyPacket data) = report (packets'.foldl applyPacket data') ∧
      (packetHistory data packets).map report = (packetHistory data' packets').map report := by
  induction masked generalizing data data' with
  | nil => exact ⟨same, rfl⟩
  | cons head _ ih =>
    have next := report_applyPacket_congr same head
    obtain ⟨final, history⟩ := ih next
    refine ⟨final, ?_⟩
    rw [packetHistory, packetHistory, List.map_cons, List.map_cons, next, history]

variable {driver₁ driver₂ : RtMouseDriver}

/-- Drivers with the same leftover decode alike. -/
theorem decodesAlike_of_sameLeftover (inv₁ : MouseInvariant driver₁)
    (inv₂ : MouseInvariant driver₂) (running₁ : driver₁.base.state = .running)
    (running₂ : driver₂.base.state = .running)
    (data : report driver₁.data = report driver₂.data)
    (callback : driver₁.callback = driver₂.callback) (leftover : SameLeftover driver₁ driver₂) :
    DecodesAlike driver₁ driver₂ := by
  intro bytes m₁ m₂ delivers₁ delivers₂
  obtain ⟨driver₁', m₁', run₁, collected₁⟩ := mouseInterrupts_collect bytes running₁
    inv₁.collecting m₁ [] delivers₁.unlocked delivers₁.stream
  obtain ⟨driver₂', m₂', run₂, collected₂⟩ := mouseInterrupts_collect bytes running₂
    inv₂.collecting m₂ [] delivers₂.unlocked delivers₂.stream
  obtain ⟨final, history⟩ := forall₂_reports (Framing.feed_masked leftover bytes) data
  refine ⟨_, _, _, _, _, _, run₁, run₂, ?_, ?_⟩
  · rw [collected₁.data, collected₂.data, final]
  · rw [List.nil_append, List.nil_append, packetCallbacks, packetCallbacks, callback]
    cases driver₂.callback with
    | true => exact history
    | false => rfl

/-- Drivers that decode alike make the same report of whatever bytes follow. -/
theorem DecodesAlike.reports (alike : DecodesAlike driver₁ driver₂)
    (inv₁ : MouseInvariant driver₁) (inv₂ : MouseInvariant driver₂)
    (running₁ : driver₁.base.state = .running) (running₂ : driver₂.base.state = .running)
    (bytes : List RtU8) :
    report (decodedData driver₁ bytes) = report (decodedData driver₂ bytes) := by
  have delivers : Delivers ⟨ioTablesInit, bytes, []⟩ bytes := ⟨rfl, rfl⟩
  obtain ⟨driver₁', m₁', run₁, collected₁⟩ := mouseInterrupts_collect bytes running₁
    inv₁.collecting _ [] delivers.unlocked delivers.stream
  obtain ⟨driver₂', m₂', run₂, collected₂⟩ := mouseInterrupts_collect bytes running₂
    inv₂.collecting _ [] delivers.unlocked delivers.stream
  obtain ⟨d₁, _, _, d₂, _, _, ran₁, ran₂, final, _⟩ := alike bytes _ _ delivers delivers
  rw [run₁] at ran₁
  rw [run₂] at ran₂
  simp only [Except.ok.injEq, MouseInterrupt.mk.injEq, Option.some.injEq] at ran₁ ran₂
  rw [← ran₁.1, ← ran₂.1, collected₁.data, collected₂.data] at final
  exact final

/-- With zeros for its missing bytes the packet under construction is decoded. -/
theorem decodedData_filled (inv : MouseInvariant driver₁) (begun : driver₁.part ≠ []) {n : Nat}
    (full : driver₁.part.length + n = 3) :
    decodedData driver₁ (List.replicate n 0) =
      applyPacket driver₁.data (driver₁.part ++ List.replicate n 0) := by
  rw [decodedData, Framing.feed_filler_full begun inv.collecting.unfinished.short full]
  rfl

/-- Of two drivers that decode alike neither holds more bytes than the other: its packet would
be decoded first. -/
theorem part_length_le (inv₁ : MouseInvariant driver₁)
    (data : report driver₁.data = report driver₂.data)
    (alike : ∀ bytes, report (decodedData driver₁ bytes) = report (decodedData driver₂ bytes)) :
    driver₁.part.length ≤ driver₂.part.length := by
  apply Nat.le_of_not_lt
  intro longer
  have short : driver₁.part.length ≤ 2 := inv₁.collecting.unfinished.short
  have begun : driver₁.part ≠ [] := List.ne_nil_of_length_pos (by omega)
  have first := alike (List.replicate (3 - driver₁.part.length) 0)
  rw [decodedData_filled inv₁ begun (by omega), decodedData,
    Framing.feed_filler_short (by omega)] at first
  refine report_applyPacket_ne (by simp; omega) ?_ (first.trans data.symm)
  intro b head
  rw [List.head?_append_of_ne_nil _ begun] at head
  exact inv₁.collecting.unfinished.begun b head

/-- Drivers that decode alike have the same leftover. -/
theorem sameLeftover_of_decodesAlike (inv₁ : MouseInvariant driver₁)
    (inv₂ : MouseInvariant driver₂) (running₁ : driver₁.base.state = .running)
    (running₂ : driver₂.base.state = .running)
    (data : report driver₁.data = report driver₂.data) (alike : DecodesAlike driver₁ driver₂) :
    SameLeftover driver₁ driver₂ := by
  have reports := alike.reports inv₁ inv₂ running₁ running₂
  have length : driver₁.part.length = driver₂.part.length :=
    Nat.le_antisymm (part_length_le inv₁ data reports)
      (part_length_le inv₂ data.symm fun bytes => (reports bytes).symm)
  have short : driver₁.part.length ≤ 2 := inv₁.collecting.unfinished.short
  by_cases begun : driver₁.part = []
  · have begun₂ : driver₂.part = [] := List.length_eq_zero_iff.mp (by rw [← length, begun]; rfl)
    rw [SameLeftover, begun, begun₂]
    rfl
  · have begun₂ : driver₂.part ≠ [] := by
      intro none
      rw [none] at length
      exact begun (List.length_eq_zero_iff.mp length)
    have filled := reports (List.replicate (3 - driver₁.part.length) 0)
    rw [decodedData_filled inv₁ begun (by omega), decodedData_filled inv₂ begun₂ (by omega)]
      at filled
    exact (report_applyPacket_inj data (by simp; omega) (by simp; omega) filled).of_append begun
      begun₂

/-! ## Two runs -/

/-- The driver is left by a run of the operations, from an initial driver, that ends in a
successful `Mouse_Enable`. -/
def LeftByEnable {σ : Type} (hw : Hardware σ) (outputFull : Fin 8) (driver : RtMouseDriver) :
    Prop :=
  ∃ (start : RtMouseDriver) (calls : List (MouseOperation × Machine σ)) (m : Machine σ)
    (replies : List MouseReply),
    start.base.state = .uninitialized ∧ start.packetIndex = 0 ∧ start.packetComplete = false ∧
      Calls.run (mouseOperate hw outputFull) start (calls ++ [(.enable, m)]) =
        .ok (driver, replies ++ [.code .success])

theorem LeftByEnable.running {σ : Type} {hw : Hardware σ} {outputFull : Fin 8}
    {driver : RtMouseDriver} (left : LeftByEnable hw outputFull driver) :
    MouseInvariant driver ∧ driver.base.state = .running := by
  obtain ⟨start, calls, m, replies, state, index, complete, ran⟩ := left
  have always := (mouseRun_total hw outputFull state index complete (calls ++ [(.enable, m)])).1
  refine ⟨always.last ran, ?_⟩
  obtain ⟨mid, before, reply, _, enabled, replied⟩ := Calls.run_snoc ran
  obtain rfl : MouseReply.code .success = reply := by simpa using (List.append_inj' replied rfl).2
  have commanded := mouseSwitch_commanded hw outputFull mouseCmdEnable .ready .running mid m
  obtain ⟨left, success⟩ := Prod.mk.inj (Except.ok.inj enabled)
  have after : (mouseEnable hw outputFull mid m).driver.getD mid = driver := left
  rw [← after, mouseEnable, (commanded.done (MouseReply.code.inj success)).2]
  rfl

/-- Two drivers that runs ending in a successful `Mouse_Enable` have left with the same
position, buttons and callback decode alike from then on exactly when they hold the same
leftover. -/
theorem mouseEnable_decodesAlike_iff {σ₁ σ₂ : Type} (hw₁ : Hardware σ₁) (hw₂ : Hardware σ₂)
    (outputFull : Fin 8) (left₁ : LeftByEnable hw₁ outputFull driver₁)
    (left₂ : LeftByEnable hw₂ outputFull driver₂)
    (data : report driver₁.data = report driver₂.data)
    (callback : driver₁.callback = driver₂.callback) :
    DecodesAlike driver₁ driver₂ ↔ SameLeftover driver₁ driver₂ := by
  obtain ⟨inv₁, running₁⟩ := left₁.running
  obtain ⟨inv₂, running₂⟩ := left₂.running
  exact ⟨sameLeftover_of_decodesAlike inv₁ inv₂ running₁ running₂ data,
    decodesAlike_of_sameLeftover inv₁ inv₂ running₁ running₂ data callback⟩

/-- Turning the mouse on for the first time. -/
def firstEnable : List (MouseOperation × Machine (List RtU8)) :=
  [scripted .init [1, 0xFA, 1, 0xAA, 1, 0xFA], scripted .enable [1, 0xFA]]

/-- Turning it off after the first byte of a packet, and on again. -/
def enableAfterCut (flags : RtU8) : List (MouseOperation × Machine (List RtU8)) :=
  firstEnable ++ [scripted .interrupt [flags], scripted .disable [1, 0xFA],
    scripted .enable [1, 0xFA]]

/-- The driver that is left by the one, and by the other. -/
def mouseEnabled : RtMouseDriver := { mouseInitial with base.state := .running }
def mouseEnabledAfterCut (flags : RtU8) : RtMouseDriver :=
  { mouseEnabled with packet := #v[flags, 0, 0], packetIndex := 1 }

theorem leftByEnable_first : LeftByEnable scriptHardware 0 mouseEnabled :=
  ⟨mouseInitial, firstEnable.dropLast, ⟨ioTablesInit, [1, 0xFA], []⟩, [.code .success], rfl, rfl,
    rfl, rfl⟩

theorem leftByEnable_cut {flags : RtU8}
    (cut : Calls.run (mouseOperate scriptHardware 0) mouseInitial (enableAfterCut flags) =
      .ok (mouseEnabledAfterCut flags, [.code .success, .code .success, .callbacks [],
        .code .success, .code .success])) :
    LeftByEnable scriptHardware 0 (mouseEnabledAfterCut flags) :=
  ⟨mouseInitial, (enableAfterCut flags).dropLast, ⟨ioTablesInit, [1, 0xFA], []⟩,
    [.code .success, .code .success, .callbacks [], .code .success], rfl, rfl, rfl, cut⟩

/-- Packets cut after first bytes that differ only in a bit decoding does not look at. -/
theorem mouseEnable_decodesAlike_cut :
    DecodesAlike (mouseEnabledAfterCut 0x10) (mouseEnabledAfterCut 0x18) :=
  (mouseEnable_decodesAlike_iff scriptHardware scriptHardware 0 (@leftByEnable_cut 0x10 rfl)
    (@leftByEnable_cut 0x18 rfl) rfl rfl).mpr rfl

/-- A mouse turned off after one byte of a packet and on again does not decode like one turned
on for the first time. -/
theorem mouseEnable_leftover :
    LeftByEnable scriptHardware 0 mouseEnabled ∧
      LeftByEnable scriptHardware 0 (mouseEnabledAfterCut 0x10) ∧
      report mouseEnabled.data = report (mouseEnabledAfterCut 0x10).data ∧
      mouseEnabled.callback = (mouseEnabledAfterCut 0x10).callback ∧
      ¬ DecodesAlike mouseEnabled (mouseEnabledAfterCut 0x10) := by
  have left := @leftByEnable_cut 0x10 rfl
  refine ⟨leftByEnable_first, left, rfl, rfl, fun alike => ?_⟩
  have leftover := sameLeftover_of_decodesAlike leftByEnable_first.running.1 left.running.1 rfl rfl
    rfl alike
  have length := congrArg List.length leftover
  revert length
  decide

end LamaOS
