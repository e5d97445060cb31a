import LamaOS.Drivers.Mouse.MouseRuns

/-!
# How far the coordinates reach

Every packet adds two numbers between -256 and 255 to coordinates of 16 bits, and nothing stops
them at the ends of their range. After any run of operations they are the exact sums reduced to
16 bits, hence the sums themselves exactly when these fit.
-/

namespace LamaOS

/-- The distances in a packet, to the right and up. -/
def packetDistance : List RtU8 → Int × Int
  | [flags, b1, b2] => (packetDelta flags 4 b1, packetDelta flags 5 b2)
  | _ => (0, 0)

/-- The whole distance to the right. -/
def distanceX (packets : List (List RtU8)) : Int := (packets.map fun p => (packetDistance p).1).sum

/-- The whole distance up. -/
def distanceY (packets : List (List RtU8)) : Int := (packets.map fun p => (packetDistance p).2).sum

/-- Both distances are 9-bit signed integers. -/
def NineBits (distance : Int × Int) : Prop :=
  (-256 ≤ distance.1 ∧ distance.1 ≤ 255) ∧ (-256 ≤ distance.2 ∧ distance.2 ≤ 255)

theorem packetDistance_range (packet : List RtU8) : NineBits (packetDistance packet) := by
  unfold packetDistance
  split
  · exact ⟨packetDelta_range _ 4 _, packetDelta_range _ 5 _⟩
  · exact ⟨by decide, by decide⟩

/-- The coordinates of one driver are those of another after these packets, in 16 bits. -/
structure Moved (driver : RtMouseDriver) (packets : List (List RtU8)) (driver' : RtMouseDriver) :
    Prop where
  x : driver'.data.x = driver.data.x + BitVec.ofInt 16 (distanceX packets)
  y : driver'.data.y = driver.data.y - BitVec.ofInt 16 (distanceY packets)

theorem Moved.still {driver driver' : RtMouseDriver} (x : driver'.data.x = driver.data.x)
    (y : driver'.data.y = driver.data.y) : Moved driver [] driver' where
  x := by
    rw [x]
    exact (BitVec.add_zero _).symm
  y := by
    rw [y]
    exact (BitVec.sub_zero _).symm

theorem Moved.trans {driver driver' driver'' : RtMouseDriver} {packets packets' : List (List RtU8)}
    (first : Moved driver packets driver') (next : Moved driver' packets' driver'') :
    Moved driver (packets ++ packets') driver'' where
  x := by
    rw [next.x, first.x, distanceX, distanceX, distanceX, List.map_append, List.sum_append_int,
      BitVec.ofInt_add, BitVec.add_assoc]
  y := by
    rw [next.y, first.y, distanceY, distanceY, distanceY, List.map_append, List.sum_append_int,
      BitVec.ofInt_add, BitVec.sub_sub]

/-! ## One operation -/

section Runs

variable {σ : Type} (hw : Hardware σ) (outputFull : Fin 8)

/-- The packet that a call folds into the data: one that it completes, or one that was complete
already when `Mouse_ProcessPacket` was called for it. -/
def processedPacket (driver : RtMouseDriver) (call : MouseOperation × Machine σ) :
    List (List RtU8) :=
  if call.1 = .processPacket then
    if driver.packetComplete = true ∧ driver.base.state = .running then [driver.packet.toList]
    else []
  else completedPacket hw driver call

/-- A complete packet is folded into the coordinates, whatever its bytes are. -/
theorem mouseProcessPacket_moved (driver : RtMouseDriver)
    (complete : driver.packetComplete = true) (running : driver.base.state = .running) :
    ∃ driver', (mouseProcessPacket (some driver)).1 = some driver' ∧
      Moved driver [driver.packet.toList] driver' := by
  have busy : ¬ (!driver.packetComplete || decide (driver.base.state ≠ .running)) = true := by
    simp [complete, running]
  rw [mouseProcessPacket, if_neg busy]
  refine ⟨_, rfl, ?_, ?_⟩
  · show driver.data.x + mouseMovement _ _ _ = _
    rw [mouseMovement_eq _ _ 4 _ (xSignBit_iff _), packet_toList]
    simp [distanceX, packetDistance]
  · show driver.data.y - mouseMovement _ _ _ = _
    rw [mouseMovement_eq _ _ 5 _ (ySignBit_iff _), packet_toList]
    simp [distanceY, packetDistance]

theorem mouseProcessPacket_idle {driver : RtMouseDriver}
    (idle : ¬ (driver.packetComplete = true ∧ driver.base.state = .running)) :
    mouseProcessPacket (some driver) = (some driver, []) := by
  have quiet : (!driver.packetComplete || decide (driver.base.state ≠ .running)) = true := by
    simpa [or_iff_not_imp_left] using idle
  rw [mouseProcessPacket, if_pos quiet]

/-- The byte the handler collects completes a packet if it is the third one. -/
theorem mouseCollect_moved {driver : RtMouseDriver} {b : RtU8}
    {result : Option RtMouseDriver × List MouseData} (running : driver.base.state = .running)
    (collected : mouseCollect driver b = .ok result) :
    Moved driver (if driver.packetIndex = 2 then [driver.part ++ [b]] else [])
      (result.1.getD driver) := by
  by_cases room : driver.packetIndex.toNat < mousePacketSize
  · have index : driver.packetIndex = 0 ∨ driver.packetIndex = 1 ∨ driver.packetIndex = 2 := by
      simp only [mousePacketSize] at room
      bv_omega
    rcases index with index | index | index
    · rw [mouseCollect_first driver index] at collected
      cases collected
      rw [index, if_neg (by decide)]
      exact Moved.still rfl rfl
    · rw [mouseCollect_second driver index] at collected
      cases collected
      rw [index, if_neg (by decide)]
      exact Moved.still rfl rfl
    · rw [mouseCollect_third driver index] at collected
      have packet : (driver.packet.set 2 b).toList = driver.part ++ [b] := by
        simp [RtMouseDriver.part, index, packet_toList]
      rcases mouseProcessPacket_moved
        { driver with packet := driver.packet.set 2 b, packetIndex := 0, packetComplete := true }
        rfl running with ⟨processed, made, moved⟩
      rw [Except.ok.inj collected] at made
      rw [made, Option.getD_some, if_pos index, ← packet]
      exact ⟨moved.x, moved.y⟩
  · rw [mouseCollect, dif_neg room] at collected
    cases collected

/-- An operation moves the coordinates by the packet it folds into the data. -/
theorem mouseOperate_moved {driver driver' : RtMouseDriver} {call : MouseOperation × Machine σ}
    {reply : MouseReply} (done : mouseOperate hw outputFull driver call = .ok (driver', reply)) :
    Moved driver (processedPacket hw driver call) driver' := by
  have commanded : ∀ {result : MouseResult σ} {source : RtDriverState → Prop}
      {change : RtMouseDriver}, MouseCommanded driver result source change →
      change.data.x = driver.data.x → change.data.y = driver.data.y →
      Moved driver [] (driver.after result).1 := by
    intro result source change commanded x y
    exact commanded.keeps (P := Moved driver []) (Moved.still rfl rfl) (Moved.still x y)
  rcases call with ⟨operation, m⟩
  cases operation with
  | init =>
    cases Except.ok.inj done
    exact commanded (mouseInit_commanded hw outputFull driver m) rfl rfl
  | enable =>
    cases Except.ok.inj done
    exact commanded (mouseSwitch_commanded hw outputFull _ _ _ driver m) rfl rfl
  | disable =>
    cases Except.ok.inj done
    exact commanded (mouseSwitch_commanded hw outputFull _ _ _ driver m) rfl rfl
  | setSampleRate rate =>
    cases Except.ok.inj done
    exact commanded (mouseSetSampleRate_commanded hw outputFull driver rate m) rfl rfl
  | interrupt =>
    show Moved driver (completedPacket hw driver (.interrupt, m)) driver'
    rw [completedPacket]
    by_cases running : driver.base.state = .running
    · rw [mouseOperate, mouseOperation_interrupt_running hw outputFull m running] at done
      simp only [running, true_and]
      cases collected : mouseCollect driver (ioIn8 hw mouseDataRegister m).1 with
      | error fault =>
        rw [collected] at done
        cases done
      | ok result =>
        rw [collected] at done
        cases Except.ok.inj done
        exact mouseCollect_moved running collected
    · rw [mouseOperate_interrupt_idle hw outputFull m running] at done
      cases done
      rw [if_neg (fun both => running both.1)]
      exact Moved.still rfl rfl
  | processPacket =>
    rw [processedPacket, if_pos rfl]
    rcases Prod.mk.inj (Except.ok.inj done) with ⟨after, -⟩
    by_cases busy : driver.packetComplete = true ∧ driver.base.state = .running
    · rcases mouseProcessPacket_moved driver busy.1 busy.2 with ⟨processed, made, moved⟩
      rw [made] at after
      rw [if_pos busy, ← after]
      exact moved
    · rw [mouseProcessPacket_idle busy] at after
      rw [if_neg busy, ← after]
      exact Moved.still rfl rfl

/-! ## Runs -/

/-- The packets that a run folds into the data, in order. -/
def processedPackets (driver : RtMouseDriver) (calls : List (MouseOperation × Machine σ)) :
    List (List RtU8) :=
  Calls.gather (mouseOperate hw outputFull) (processedPacket hw) driver calls

/-- The coordinates are the exact sums of the distances, the vertical one negated. -/
structure CoordinatesExact (driver : RtMouseDriver) (packets : List (List RtU8)) : Prop where
  x : driver.data.x.toInt = distanceX packets
  y : driver.data.y.toInt = -distanceY packets

/-- The sums of the distances fit the 16 bits of the coordinates. -/
structure DistancesFit (packets : List (List RtU8)) : Prop where
  x : -32768 ≤ distanceX packets ∧ distanceX packets ≤ 32767
  y : -32768 ≤ -distanceY packets ∧ -distanceY packets ≤ 32767

theorem toInt_range (value : RtS16) : -32768 ≤ value.toInt ∧ value.toInt ≤ 32767 := by
  have below := value.toInt_lt
  have above := value.le_toInt
  omega

theorem toInt_ofInt_of_range {sum : Int} (range : -32768 ≤ sum ∧ sum ≤ 32767) :
    (BitVec.ofInt 16 sum).toInt = sum := by
  rw [BitVec.toInt_ofInt]
  apply Int.bmod_eq_of_le <;> omega

theorem CoordinatesExact.fit {driver : RtMouseDriver} {packets : List (List RtU8)}
    (exact' : CoordinatesExact driver packets) : DistancesFit packets where
  x := by
    rw [← exact'.x]
    exact toInt_range _
  y := by
    rw [← exact'.y]
    exact toInt_range _

/-- From the origin the coordinates are the exact sums exactly when these fit. -/
theorem Moved.exact_iff {driver driver' : RtMouseDriver} {packets : List (List RtU8)}
    (moved : Moved driver packets driver') (x : driver.data.x = 0) (y : driver.data.y = 0) :
    CoordinatesExact driver' packets ↔ DistancesFit packets := by
  constructor
  · intro exact'
    exact exact'.fit
  · intro fit
    constructor
    · rw [moved.x, x]
      show (0#16 + BitVec.ofInt 16 _).toInt = _
      rw [BitVec.zero_add]
      exact toInt_ofInt_of_range fit.x
    · rw [moved.y, y]
      show (0#16 - BitVec.ofInt 16 _).toInt = _
      rw [BitVec.zero_sub, ← BitVec.ofInt_neg]
      exact toInt_ofInt_of_range fit.y

/-- In every state of a run the coordinates have moved by the packets processed so far. -/
theorem mouseRun_always_moved (driver : RtMouseDriver) (calls : List (MouseOperation × Machine σ)) :
    Calls.Always (Calls.watched (mouseOperate hw outputFull) (processedPacket hw))
      (fun world => Moved driver world.2 world.1) (driver, []) calls := by
  apply Calls.always_of_everywhere (Q := fun _ _ => True)
  · intro world call world' reply moved _ done
    obtain ⟨operated, packets⟩ := Calls.watched_eq_ok done
    rw [packets]
    exact moved.trans (mouseOperate_moved hw outputFull operated)
  · exact Moved.still rfl rfl
  · exact Calls.everywhere_of_forall (fun _ _ => trivial) _ calls

/-- A run that starts in the origin. In all of its states the coordinates are the exact sums of
the distances in the packets processed so far, each of 9 bits, exactly when all of these sums fit
16 bits; and at its end they are exactly when the sums there do. -/
theorem mouseCoordinates_exact_iff (driver : RtMouseDriver) (x : driver.data.x = 0)
    (y : driver.data.y = 0) (calls : List (MouseOperation × Machine σ)) (driver' : RtMouseDriver)
    (replies : List MouseReply)
    (ran : Calls.run (mouseOperate hw outputFull) driver calls = .ok (driver', replies)) :
    (∀ packet ∈ processedPackets hw outputFull driver calls, NineBits (packetDistance packet)) ∧
      (Calls.Always (Calls.watched (mouseOperate hw outputFull) (processedPacket hw))
          (fun world => CoordinatesExact world.1 world.2) (driver, []) calls ↔
        Calls.Always (Calls.watched (mouseOperate hw outputFull) (processedPacket hw))
          (fun world => DistancesFit world.2) (driver, []) calls) ∧
      (CoordinatesExact driver' (processedPackets hw outputFull driver calls) ↔
        DistancesFit (processedPackets hw outputFull driver calls)) := by
  have always := mouseRun_always_moved hw outputFull driver calls
  have moved := always.last (Calls.run_watched ran [])
  refine ⟨fun packet _ => packetDistance_range packet, ?_, moved.exact_iff x y⟩
  exact always.congr fun world moved => moved.exact_iff x y

end Runs

theorem mouseCoordinates_exact_left :
    ∃ driver' replies, Calls.run (mouseOperate scriptHardware 0) mouseInitial sampleMouseRun =
        .ok (driver', replies) ∧
      CoordinatesExact driver' [[0x18, 0xFF, 0]] := by
  have state : mouseInitial.base.state = .uninitialized := rfl
  rcases (mouseRun_total scriptHardware 0 state rfl rfl sampleMouseRun).2 with
    ⟨driver', replies, ran⟩
  refine ⟨driver', replies, ran, ?_⟩
  apply (mouseCoordinates_exact_iff scriptHardware 0 mouseInitial rfl rfl sampleMouseRun driver'
    replies ran).2.2.mpr
  exact ⟨by decide, by decide⟩

/-- Initialisation, and 129 packets that each move left by 256. -/
def leftMouseRun : List (MouseOperation × Machine (List RtU8)) :=
  [scripted .init [1, 0xFA, 1, 0xAA, 1, 0xFA], scripted .enable [1, 0xFA]] ++
    (List.replicate 129 [scripted .interrupt [0x18], scripted .interrupt [0],
      scripted .interrupt [0]]).flatten

/-- The sum of the distances is -33024. -/
theorem mouseCoordinates_wrap :
    ¬ ∀ driver' replies, Calls.run (mouseOperate scriptHardware 0) mouseInitial leftMouseRun =
        .ok (driver', replies) →
      CoordinatesExact driver' (processedPackets scriptHardware 0 mouseInitial leftMouseRun) := by
  intro exact'
  have state : mouseInitial.base.state = .uninitialized := rfl
  rcases (mouseRun_total scriptHardware 0 state rfl rfl leftMouseRun).2 with
    ⟨driver', replies, ran⟩
  have sum : distanceX (processedPackets scriptHardware 0 mouseInitial leftMouseRun) = -33024 := by
    decide +kernel
  have above := (exact' driver' replies ran).fit.x.1
  rw [sum] at above
  exact absurd above (by decide)

end LamaOS
