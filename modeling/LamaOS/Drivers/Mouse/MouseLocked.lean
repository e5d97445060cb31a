import LamaOS.Drivers.Mouse.MouseRuns

/-!
# Interrupts while the data port is locked

The port layer answers a read from a locked port with 0, and the handler takes that for a byte
of the mouse. In front of a packet it does no harm: 0 has no sign bit and is skipped. Inside of
a packet it is collected, and behind two bytes it completes one.
-/

namespace LamaOS

section Locked

variable {σ : Type} (hw : Hardware σ) (outputFull : Fin 8)

/-- The handler leaves the packet under construction and the data as they are, and makes no
callback. -/
def InterruptIgnored (driver : RtMouseDriver) (m : Machine σ) : Prop :=
  ∃ driver' m', mouseInterruptHandler hw (some driver) m = .ok ⟨some driver', m', []⟩ ∧
    driver'.packetIndex = driver.packetIndex ∧ driver'.part = driver.part ∧
    driver'.packetComplete = driver.packetComplete ∧ driver'.data = driver.data

variable {driver : RtMouseDriver} {m : Machine σ}

/-! ## The byte that is read -/

/-- With the data port locked the handler collects a 0. -/
theorem mouseInterruptHandler_locked (running : driver.base.state = .running)
    (locked : ioIsPortLocked m.tables mouseDataRegister = true) :
    ∃ m', mouseInterruptHandler hw (some driver) m =
      (mouseCollect driver 0).map fun collected => ⟨collected.1, m', collected.2⟩ := by
  have refused : ioReaches m.tables mouseDataRegister = false := by
    rw [ioReaches, locked, Bool.not_true, Bool.and_false]
  refine ⟨(ioIn8 hw mouseDataRegister m).2, ?_⟩
  have read : (ioIn8 hw mouseDataRegister m).1 = 0 := by
    rw [ioIn8, ioIn_of_refused hw 8 mouseDataRegister m refused]
  rw [mouseInterruptHandler, if_neg (not_not.mpr running)]
  show Except.map _ (mouseCollect driver (ioIn8 hw mouseDataRegister m).1) = _
  rw [read]

/-- Processing a packet does not move the index of the next byte. -/
theorem mouseProcessPacket_index {driver driver' : RtMouseDriver}
    (processed : (mouseProcessPacket (some driver)).1 = some driver') :
    driver'.packetIndex = driver.packetIndex := by
  rw [mouseProcessPacket] at processed
  split at processed
  · cases processed
    rfl
  · cases processed
    rfl

/-- Behind the first byte of a packet the 0 moves the index. -/
theorem mouseCollect_moves {driver' : RtMouseDriver} {callbacks : List MouseData}
    (begun : driver.packetIndex = 1 ∨ driver.packetIndex = 2)
    (collected : mouseCollect driver 0 = .ok (some driver', callbacks)) :
    driver'.packetIndex ≠ driver.packetIndex := by
  rcases begun with index | index
  · rw [mouseCollect_second driver index] at collected
    cases collected
    rw [index]
    show (2 : RtU8) ≠ 1
    decide
  · rw [mouseCollect_third driver index] at collected
    have processed := congrArg Prod.fst (Except.ok.inj collected)
    rw [mouseProcessPacket_index processed, index]
    show (0 : RtU8) ≠ 2
    decide

/-- The interrupt is ignored exactly when it comes between two packets. -/
theorem interruptIgnored_iff (inv : MouseInvariant driver)
    (running : driver.base.state = .running)
    (locked : ioIsPortLocked m.tables mouseDataRegister = true) :
    InterruptIgnored hw driver m ↔ driver.packetIndex = 0 := by
  obtain ⟨left, handled⟩ := mouseInterruptHandler_locked hw running locked
  constructor
  · intro ignored
    rcases ignored with ⟨driver', m', done, kept, -⟩
    apply Classical.byContradiction
    intro inside
    have begun : driver.packetIndex = 1 ∨ driver.packetIndex = 2 := by
      have below := inv.index
      bv_omega
    rw [handled] at done
    cases collected : mouseCollect driver 0 with
    | error fault =>
      rw [collected] at done
      cases done
    | ok result =>
      rw [collected] at done
      have same : result = (some driver', []) := by
        have handed := Except.ok.inj done
        exact Prod.ext (congrArg MouseInterrupt.driver handed)
          (congrArg MouseInterrupt.callbacks handed)
      rw [same] at collected
      exact mouseCollect_moves begun collected kept
  · intro index
    have skipped : mouseStartsPacket 0 = false := by decide
    rw [mouseCollect_first driver index, skipped] at handled
    refine ⟨_, left, handled, index.symm, ?_, rfl, rfl⟩
    show List.take 0 _ = List.take driver.packetIndex.toNat _
    rw [index]
    rfl

/-! ## Runs -/

/-- A call that is an interrupt of a running driver with the data port locked is ignored. -/
def LockedIgnored (driver : RtMouseDriver) (call : MouseOperation × Machine σ) : Prop :=
  call.1 = .interrupt → driver.base.state = .running →
    ioIsPortLocked call.2.tables mouseDataRegister = true → InterruptIgnored hw driver call.2

/-- A call that is an interrupt of a running driver with the data port locked comes between two
packets. -/
def LockedBetween (driver : RtMouseDriver) (call : MouseOperation × Machine σ) : Prop :=
  call.1 = .interrupt → driver.base.state = .running →
    ioIsPortLocked call.2.tables mouseDataRegister = true → driver.packetIndex = 0

theorem lockedIgnored_iff (inv : MouseInvariant driver) (call : MouseOperation × Machine σ) :
    LockedIgnored hw driver call ↔ LockedBetween driver call := by
  rw [LockedIgnored, LockedBetween]
  apply imp_congr_right
  intro _
  apply imp_congr_right
  intro running
  apply imp_congr_right
  intro locked
  exact interruptIgnored_iff hw inv running locked

/-- From an initial driver, the interrupts that come while the data port is locked are ignored
all along a run exactly when they all come between two packets; and in every running state that
a run leads to, an interrupt with the data port locked is ignored exactly when no packet is
under construction. -/
theorem mouseInterrupt_locked_iff (driver : RtMouseDriver)
    (state : driver.base.state = .uninitialized) (index : driver.packetIndex = 0)
    (complete : driver.packetComplete = false) (calls : List (MouseOperation × Machine σ)) :
    (Calls.Everywhere (mouseOperate hw outputFull) (LockedIgnored hw) driver calls ↔
        Calls.Everywhere (mouseOperate hw outputFull) LockedBetween driver calls) ∧
      ∀ reached replies, Calls.run (mouseOperate hw outputFull) driver calls =
          .ok (reached, replies) → reached.base.state = .running →
        ∀ m : Machine σ, ioIsPortLocked m.tables mouseDataRegister = true →
          (InterruptIgnored hw reached m ↔ reached.packetIndex = 0) := by
  constructor
  · apply Calls.everywhere_iff MouseInvariant
    · intro driver call inv
      exact lockedIgnored_iff hw inv call
    · intro driver call driver' reply inv _ done
      rcases mouseOperate_keeps hw outputFull inv call with ⟨next, reply', done', inv'⟩
      rcases Calls.done_unique done done' with ⟨rfl, -⟩
      exact inv'
    · exact mouseInvariant_start state index complete
  · intro reached replies ran running m locked
    have always := (mouseRun_total hw outputFull state index complete calls).1
    exact interruptIgnored_iff hw (always.last ran) running locked

end Locked

/-- An interrupt while the data port is locked. -/
def lockedInterrupt : MouseOperation × Machine (List RtU8) :=
  (.interrupt, ⟨(ioLockPort mouseDataRegister ioTablesInit).2, [], []⟩)

/-- A locked interrupt right after the initialisation is ignored. -/
theorem mouseInterrupt_locked_ignored :
    Calls.Everywhere (mouseOperate scriptHardware 0) (LockedIgnored scriptHardware) mouseInitial
      [scripted .init [1, 0xFA, 1, 0xAA, 1, 0xFA], scripted .enable [1, 0xFA],
        lockedInterrupt] := by
  apply (mouseInterrupt_locked_iff scriptHardware 0 mouseInitial rfl rfl rfl _).1.mpr
  have command : ∀ operation answers (driver : RtMouseDriver), operation ≠ .interrupt →
      LockedBetween driver (scripted operation answers) :=
    fun _ _ _ other isInterrupt => absurd isInterrupt other
  apply Calls.everywhere_cons rfl (command _ _ _ (by decide))
  apply Calls.everywhere_cons rfl (command _ _ _ (by decide))
  exact ⟨fun _ _ _ => rfl, fun _ _ _ => trivial⟩

/-- Behind the first byte of a packet, the 0 from the locked port is taken for the second. -/
theorem mouseInterrupt_locked_collected :
    ¬ Calls.Everywhere (mouseOperate scriptHardware 0) (LockedIgnored scriptHardware) mouseInitial
      [scripted .init [1, 0xFA, 1, 0xAA, 1, 0xFA], scripted .enable [1, 0xFA],
        scripted .interrupt [0x18], lockedInterrupt] := by
  intro ignored
  have state : mouseInitial.base.state = .uninitialized := rfl
  have always := (mouseRun_total scriptHardware 0 state rfl rfl
    [scripted .init [1, 0xFA, 1, 0xAA, 1, 0xFA], scripted .enable [1, 0xFA],
      scripted .interrupt [0x18]]).1
  have inv := ((always.2 _ _ rfl).2 _ _ rfl).2 _ _ rfl
  have last := (((ignored.2 _ _ rfl).2 _ _ rfl).2 _ _ rfl).1
  have index := (interruptIgnored_iff scriptHardware inv rfl rfl).mp (last rfl rfl rfl)
  exact absurd index (by decide)

end LamaOS
