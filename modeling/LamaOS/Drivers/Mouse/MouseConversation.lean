import LamaOS.Drivers.Mouse.MouseRuns
import LamaOS.Misc.Traces

/-!
# The conversation of `Mouse_Init` with its device

Every access of the driver leaves a record in the log of the port layer, so what `Mouse_Init`
says to the device and what it hears from it can be read from the records it adds. The device
may answer anything; only the two ports must not be locked.
-/

namespace LamaOS

/-! ## Reading the records -/

/-- The number of reads. -/
def portReads (trace : List IoAccess) : Nat := trace.countP fun access => access.direction = .input

/-- The ports written to, with the values. -/
def portWrites (trace : List IoAccess) : List (RtIoPort × Nat) :=
  (trace.filter fun access => access.direction = .output).map fun access =>
    (access.port, access.value)

/-- The bytes read from the data register. -/
def mouseReplies (trace : List IoAccess) : List Nat :=
  (trace.filter fun access =>
    access.direction = .input ∧ access.port = mouseDataRegister).map IoAccess.value

/-- A read of the status register that shows a byte waiting. -/
structure ShowsOutputFull (outputFull : Fin 8) (access : IoAccess) : Prop where
  input : access.direction = .input
  port : access.port = mouseStatusRegister
  full : BitVec.ofNat 8 access.value &&& statusOutputFull outputFull ≠ 0

/-- What `Mouse_Init` writes to a device that gives it no reason to stop. -/
def mouseInitWrites : List (RtIoPort × Nat) :=
  [(mouseCommandRegister, 0xA7), (mouseDataRegister, 0xFF), (mouseDataRegister, 0xF4),
    (mouseDataRegister, 0xF3), (mouseDataRegister, 100)]

/-- What an access may depend on: a read of the data register comes right after a status read
that shows a byte waiting, and a command byte after the replies to what was sent before. -/
structure MouseOrderly (outputFull : Fin 8) (before : List IoAccess) (access : IoAccess) : Prop where
  paired : access.direction = .input → access.port = mouseDataRegister →
    ∃ earlier status, before = earlier ++ [status] ∧ ShowsOutputFull outputFull status
  enabling : access.direction = .output → access.port = mouseDataRegister →
    access.value = 0xF4 → mouseReplies before = [0xFA, 0xAA]
  sampling : access.direction = .output → access.port = mouseDataRegister →
    access.value = 0xF3 → mouseReplies before = [0xFA, 0xAA, 0xFA]

/-- The records of a call of `Mouse_Init` that was given a driver. -/
structure MouseInitObserved {σ : Type} (outputFull : Fin 8) (m : Machine σ)
    (result : MouseResult σ) (trace : List IoAccess) : Prop where
  log : result.machine.log = m.log ++ trace
  performed : ∀ access ∈ trace, access.performed = true
  reads : portReads trace ≤ 300003
  writes : portWrites trace <+: mouseInitWrites
  orderly : ∀ before access after, trace = before ++ access :: after →
    MouseOrderly outputFull before access
  success : result.code = .success ↔ portWrites trace = mouseInitWrites
  otherwise : result.code ≠ .success → result.code = .hardwareFault

/-! ## Following the call -/

section Following

variable {σ : Type} (hw : Hardware σ) {outputFull : Fin 8} {start m : Machine σ}
  {trace : List IoAccess} {budget : Nat} {writes : List (RtIoPort × Nat)} {replies : List Nat}

/-- The call so far: it started on one machine, has led to another, and `trace` are its
records. -/
structure MouseFollowed (outputFull : Fin 8) (start m : Machine σ) (trace : List IoAccess)
    (budget : Nat) (writes : List (RtIoPort × Nat)) (replies : List Nat) : Prop where
  data : ioReaches m.tables mouseDataRegister = true
  status : ioReaches m.tables mouseStatusRegister = true
  log : m.log = start.log ++ trace
  performed : ∀ access ∈ trace, access.performed = true
  reads : portReads trace ≤ budget
  writes : portWrites trace = writes
  replies : mouseReplies trace = replies
  orderly : Traces.Follows (MouseOrderly outputFull) [] trace

/-- One more access. -/
theorem MouseFollowed.access (followed : MouseFollowed outputFull start m trace budget writes replies)
    {m' : Machine σ} {access : IoAccess} (tables : m'.tables = m.tables)
    (log : m'.log = m.log ++ [access]) (performed : access.performed = true)
    (orderly : MouseOrderly outputFull trace access) :
    MouseFollowed outputFull start m' (trace ++ [access]) (budget + portReads [access])
      (writes ++ portWrites [access]) (replies ++ mouseReplies [access]) where
  data := tables ▸ followed.data
  status := tables ▸ followed.status
  log := by rw [log, followed.log, List.append_assoc]
  performed := by
    intro other mem
    rcases List.mem_append.mp mem with mem | mem
    · exact followed.performed other mem
    · rw [List.mem_singleton.mp mem]
      exact performed
  reads := by
    have reads := followed.reads
    simp only [portReads, List.countP_append] at reads ⊢
    exact Nat.add_le_add_right reads _
  writes := by
    rw [← followed.writes]
    simp [portWrites]
  replies := by
    rw [← followed.replies]
    simp [mouseReplies]
  orderly := followed.orderly.snoc orderly

theorem MouseFollowed.weaken (followed : MouseFollowed outputFull start m trace budget writes replies)
    {budget' : Nat} (larger : budget ≤ budget') :
    MouseFollowed outputFull start m trace budget' writes replies :=
  { followed with reads := Nat.le_trans followed.reads larger }

/-- A write, which sends `0xF4` and `0xF3` only after the replies they wait for. -/
theorem MouseFollowed.write (followed : MouseFollowed outputFull start m trace budget writes replies)
    (port : RtIoPort) (value : RtU8) (reached : ioReaches m.tables port = true)
    (enabling : port = mouseDataRegister → value = 0xF4 → replies = [0xFA, 0xAA])
    (sampling : port = mouseDataRegister → value = 0xF3 → replies = [0xFA, 0xAA, 0xFA]) :
    ∃ trace', MouseFollowed outputFull start (ioOut8 hw port value m) trace' budget
      (writes ++ [(port, value.toNat)]) replies := by
  have log := ioOut_log hw 8 port value m
  rw [reached] at log
  have next := followed.access (ioOut_tables hw 8 port value m) log rfl
    { paired := by
        intro input
        cases input
      enabling := by
        intro _ here same
        rw [followed.replies]
        exact enabling here (BitVec.eq_of_toNat_eq same)
      sampling := by
        intro _ here same
        rw [followed.replies]
        exact sampling here (BitVec.eq_of_toNat_eq same) }
  exact ⟨_, by simpa [portReads, portWrites, mouseReplies, ioOut8] using next⟩

/-- A read of the data register, right after a status read that shows a byte waiting. -/
theorem MouseFollowed.hear (followed : MouseFollowed outputFull start m trace budget writes replies)
    {earlier : List IoAccess} {status : IoAccess} (last : trace = earlier ++ [status])
    (shown : ShowsOutputFull outputFull status) :
    ∃ trace', MouseFollowed outputFull start (ioIn8 hw mouseDataRegister m).2 trace' (budget + 1)
      writes (replies ++ [(ioIn8 hw mouseDataRegister m).1.toNat]) := by
  have log : (ioIn8 hw mouseDataRegister m).2.log = m.log ++
      [⟨.input, 8, mouseDataRegister, (ioIn8 hw mouseDataRegister m).1.toNat, true⟩] := by
    rw [ioIn8, ioIn_of_reaches hw 8 mouseDataRegister m followed.data]
  have next := followed.access (ioIn_tables hw 8 mouseDataRegister m) log rfl
    { paired := fun _ _ => ⟨earlier, status, last, shown⟩
      enabling := by
        intro output
        cases output
      sampling := by
        intro output
        cases output }
  exact ⟨_, by simpa [portReads, portWrites, mouseReplies, ioIn8] using next⟩

/-- One pass of the polling loop: a read of the status register. -/
theorem MouseFollowed.look (followed : MouseFollowed outputFull start m trace budget writes replies) :
    ∃ status, MouseFollowed outputFull start (ioIn8 hw mouseStatusRegister m).2 (trace ++ [status])
      (budget + 1) writes replies ∧
      ((ioIn8 hw mouseStatusRegister m).1 &&& statusOutputFull outputFull ≠ 0 →
        ShowsOutputFull outputFull status) := by
  have log : (ioIn8 hw mouseStatusRegister m).2.log = m.log ++
      [⟨.input, 8, mouseStatusRegister, (ioIn8 hw mouseStatusRegister m).1.toNat, true⟩] := by
    rw [ioIn8, ioIn_of_reaches hw 8 mouseStatusRegister m followed.status]
  have other : mouseStatusRegister ≠ mouseDataRegister := by decide
  have next := followed.access (ioIn_tables hw 8 mouseStatusRegister m) log rfl
    { paired := by
        intro _ here
        exact absurd here other
      enabling := by
        intro output
        cases output
      sampling := by
        intro output
        cases output }
  refine ⟨_, by simpa [portReads, portWrites, mouseReplies, other, ioIn8] using next, ?_⟩
  intro full
  exact ⟨rfl, rfl, by simpa [ioIn8] using full⟩

/-- The polling loop ends with a status read that shows a byte waiting, or gives up. -/
theorem mousePoll_followed (timeout : Nat)
    (followed : MouseFollowed outputFull start m trace budget writes replies) :
    ∃ trace', MouseFollowed outputFull start
      (mousePoll hw (fun status => status &&& statusOutputFull outputFull ≠ 0) timeout m).2 trace'
      (budget + timeout) writes replies ∧
      ((mousePoll hw (fun status => status &&& statusOutputFull outputFull ≠ 0) timeout m).1 =
        true → ∃ earlier status, trace' = earlier ++ [status] ∧
          ShowsOutputFull outputFull status) := by
  induction timeout generalizing m trace budget with
  | zero =>
    refine ⟨trace, followed, ?_⟩
    intro ready
    cases ready
  | succ timeout ih =>
    rcases followed.look hw with ⟨status, looked, shown⟩
    unfold mousePoll
    dsimp only
    split
    · rename_i full
      refine ⟨trace ++ [status], looked.weaken (by omega), ?_⟩
      intro _
      exact ⟨trace, status, rfl, shown (of_decide_eq_true full)⟩
    · rcases ih looked with ⟨trace', polled, ready⟩
      exact ⟨trace', polled.weaken (by omega), ready⟩

theorem mouseWaitOutput_followed
    (followed : MouseFollowed outputFull start m trace budget writes replies) :
    ∃ trace', MouseFollowed outputFull start (mouseWaitOutput hw outputFull m).2 trace'
      (budget + 100000) writes replies ∧
      ((mouseWaitOutput hw outputFull m).1 = true → ∃ earlier status,
        trace' = earlier ++ [status] ∧ ShowsOutputFull outputFull status) :=
  mousePoll_followed hw 100000 followed

/-- Waiting for a reply takes at most one byte from the device, and succeeds with `0xFA`. -/
theorem mouseWaitAck_followed
    (followed : MouseFollowed outputFull start m trace budget writes replies) :
    ∃ trace' replies', MouseFollowed outputFull start (mouseWaitAck hw outputFull m).2 trace'
      (budget + 100001) writes replies' ∧
      ((mouseWaitAck hw outputFull m).1 = true → replies' = replies ++ [0xFA]) := by
  rcases mouseWaitOutput_followed hw followed with ⟨polls, polled, ready⟩
  unfold mouseWaitAck
  by_cases waiting : (mouseWaitOutput hw outputFull m).1 = true
  · rcases ready waiting with ⟨earlier, status, last, shown⟩
    rcases polled.hear hw last shown with ⟨trace', heard⟩
    simp only [waiting, Bool.not_true, Bool.false_eq_true, if_false]
    refine ⟨trace', _, heard.weaken (by omega), ?_⟩
    intro acknowledged
    rw [eq_of_beq acknowledged]
    rfl
  · simp only [waiting, Bool.not_false, if_true]
    refine ⟨polls, replies, polled.weaken (by omega), ?_⟩
    intro acknowledged
    cases acknowledged

/-- Where the call stops, its records are as they should be. -/
theorem MouseFollowed.observed (followed : MouseFollowed outputFull start m trace budget writes replies)
    (reads : budget ≤ 300003) (begun : writes <+: mouseInitWrites) {code : RtErrorCode}
    {driver : Option RtMouseDriver} (success : code = .success ↔ writes = mouseInitWrites)
    (otherwise : code ≠ .success → code = .hardwareFault) :
    MouseInitObserved outputFull start ⟨code, driver, m⟩ trace where
  log := followed.log
  performed := followed.performed
  reads := Nat.le_trans followed.reads reads
  writes := by
    rw [followed.writes]
    exact begun
  orderly := by
    intro before access after place
    exact followed.orderly.split place
  success := by
    rw [followed.writes]
    exact success
  otherwise := otherwise

/-- A call that gives up has written a proper part of the command bytes. -/
theorem MouseFollowed.gaveUp (followed : MouseFollowed outputFull start m trace budget writes replies)
    (reads : budget ≤ 300003) (begun : writes <+: mouseInitWrites)
    (unfinished : writes ≠ mouseInitWrites) {driver : Option RtMouseDriver} :
    MouseInitObserved outputFull start ⟨.hardwareFault, driver, m⟩ trace := by
  apply followed.observed reads begun
  · constructor
    · intro success
      cases success
    · intro finished
      exact absurd finished unfinished
  · intro _
    rfl

/-- Both ports can be reached and nothing has been said. -/
theorem mouseFollowed_start (outputFull : Fin 8) (m : Machine σ)
    (data : ioReaches m.tables mouseDataRegister = true)
    (status : ioReaches m.tables mouseStatusRegister = true) :
    MouseFollowed outputFull m m [] 0 [] [] where
  data := data
  status := status
  log := (List.append_nil _).symm
  performed := by
    intro access mem
    exact absurd mem List.not_mem_nil
  reads := Nat.le_refl _
  writes := rfl
  replies := rfl
  orderly := trivial

end Following

/-- The conversation of `Mouse_Init` with any device behind two ports that are not locked: at
most 300003 reads, a beginning of the command bytes, each answer and each command in its
place, and success exactly where all the bytes were written. -/
theorem mouseInit_conversation {σ : Type} (hw : Hardware σ) (outputFull : Fin 8)
    (driver : RtMouseDriver) (m : Machine σ) (data : ioReaches m.tables mouseDataRegister = true)
    (status : ioReaches m.tables mouseStatusRegister = true) :
    ∃ trace, MouseInitObserved outputFull m (mouseInit hw outputFull (some driver) m) trace := by
  have fromStart := mouseFollowed_start outputFull m data status
  rcases fromStart.write hw mouseCommandRegister 0xA7 status (by decide) (by decide) with
    ⟨trace, followed⟩
  rcases followed.write hw mouseDataRegister mouseCmdReset followed.data (by decide) (by decide)
    with ⟨trace, followed⟩
  rcases mouseWaitAck_followed hw followed with ⟨trace, replies, followed, acknowledged⟩
  unfold mouseInit
  dsimp only
  split
  · exact ⟨trace, followed.gaveUp (by decide) (by decide) (by decide)⟩
  rename_i heard
  rw [acknowledged (by simpa using heard)] at followed
  rcases mouseWaitOutput_followed hw followed with ⟨trace, followed, ready⟩
  split
  · exact ⟨trace, followed.gaveUp (by decide) (by decide) (by decide)⟩
  rename_i waiting
  rcases ready (by simpa using waiting) with ⟨earlier, shown, last, full⟩
  rcases followed.hear hw last full with ⟨trace, followed⟩
  split
  · exact ⟨trace, followed.gaveUp (by decide) (by decide) (by decide)⟩
  rename_i tested
  rw [not_not.mp tested] at followed
  rcases followed.write hw mouseDataRegister mouseCmdEnable followed.data
    (fun _ _ => rfl) (by decide) with ⟨trace, followed⟩
  rcases mouseWaitAck_followed hw followed with ⟨trace, replies, followed, acknowledged⟩
  split
  · exact ⟨trace, followed.gaveUp (by decide) (by decide) (by decide)⟩
  rename_i heard
  rw [acknowledged (by simpa using heard)] at followed
  rcases followed.write hw mouseDataRegister mouseCmdSetSampleRate followed.data
    (by decide) (fun _ _ => rfl) with ⟨trace, followed⟩
  rcases followed.write hw mouseDataRegister 100 followed.data (by decide) (by decide) with
    ⟨trace, followed⟩
  refine ⟨trace, followed.observed (by decide) (by decide) ?_ ?_⟩
  · exact iff_of_true rfl rfl
  · intro failed
    exact absurd rfl failed

/-- A device that answers each command byte at the first look. -/
theorem mouseInit_conversation_scripted :
    ∃ trace, MouseInitObserved 0 (scripted .init [1, 0xFA, 1, 0xAA, 1, 0xFA]).2
        (mouseInit scriptHardware 0 (some mouseInitial)
          (scripted .init [1, 0xFA, 1, 0xAA, 1, 0xFA]).2) trace ∧
      portWrites trace = mouseInitWrites := by
  rcases mouseInit_conversation scriptHardware 0 mouseInitial
    (scripted .init [1, 0xFA, 1, 0xAA, 1, 0xFA]).2 rfl rfl with ⟨trace, observed⟩
  exact ⟨trace, observed, observed.success.mp rfl⟩

end LamaOS
