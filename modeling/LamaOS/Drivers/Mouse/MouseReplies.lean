import LamaOS.Drivers.Mouse.MouseDevice
import LamaOS.Drivers.Mouse.MousePackets
import LamaOS.Misc.Calls

/-!
# Replies and movement bytes in one queue

The operations of the mouse driver share one queue with the interrupt handler: each must take
the replies to its own command bytes out of it, and leave the movement bytes to the handler.
`Mouse_Init` and `Mouse_SetSampleRate` send more bytes than they wait for, so they always
leave a reply behind; `Mouse_Enable` and `Mouse_Disable` take a movement byte for the reply
whenever one is ahead of it.
-/

namespace LamaOS

/-- The calls made on one driver. -/
inductive MouseCall where
  | init
  | enable
  | disable
  | setSampleRate (rate : RtU8)
  | interrupt
  deriving DecidableEq, Repr

/-- The call as an operation on the driver. -/
def MouseCall.operation : MouseCall → MouseOperation
  | .init => .init
  | .enable => .enable
  | .disable => .disable
  | .setSampleRate rate => .setSampleRate rate
  | .interrupt => .interrupt

/-- A driver and the machine it runs on. -/
structure MouseWorld where
  driver : RtMouseDriver
  machine : Machine MouseDevice

/-- The driver after an operation that was given one. -/
def MouseWorld.after (world : MouseWorld) (result : MouseResult MouseDevice) :
    MouseWorld × MouseReply :=
  (⟨result.driver.getD world.driver, result.machine⟩, .code result.code)

section Calls

variable (env : MouseSurroundings) (outputFull : Fin 8)

/-- One call on the driver. -/
def mouseCall (world : MouseWorld) (call : MouseCall) :
    Except MemoryFault (MouseWorld × MouseReply) :=
  (mouseOperation (mouseHardware env outputFull) outputFull world.driver world.machine
    call.operation).map fun done => (⟨done.1.1, done.1.2⟩, done.2)

/-! ## What must not be confused -/

/-- The bytes a call took from the queue. -/
def takenBetween (before after : MouseWorld) : List MouseByte :=
  after.machine.device.taken.drop before.machine.device.taken.length

/-- Among the bytes a call took, those its waits for a reply took: the second byte that
`Mouse_Init` takes is the result of the self test, and the handler does not wait. -/
def takenByWaits : MouseCall → List MouseByte → List MouseByte
  | .init, taken => taken.eraseIdx 1
  | .interrupt, _ => []
  | _, taken => taken

/-- The replies to the bytes a call wrote are taken by its own waits, and a byte that the
handler stores is a movement byte. -/
structure NotConfused (before : MouseWorld) (call : MouseCall) (after : MouseWorld) : Prop where
  replies : ∀ n, before.machine.device.written ≤ n → n < after.machine.device.written →
    ∃ e ∈ takenByWaits call (takenBetween before after), e.origin = .ack n
  stored : call = .interrupt → before.driver.base.state = .running →
    ∃ e callbacks, takenBetween before after = [e] ∧ e.origin = .motion ∧
      mouseCollect before.driver e.byte = .ok (some after.driver, callbacks)

/-- The call is carried out, and nothing is confused. -/
def CallNotConfused (world : MouseWorld) (call : MouseCall) : Prop :=
  ∃ after reply, mouseCall env outputFull world call = .ok (after, reply) ∧
    NotConfused world call after

/-- When a call does not confuse anything: `Mouse_Init` never, `Mouse_SetSampleRate` if it
refuses, `Mouse_Enable` and `Mouse_Disable` if they refuse or the queue is empty when they
write their command, and the handler if it does nothing or there is a byte in the queue. -/
def Harmless (world : MouseWorld) : MouseCall → Prop
  | .init => False
  | .enable => world.driver.base.state = .ready → (world.machine.device.arrive env).queue = []
  | .disable => world.driver.base.state = .running → (world.machine.device.arrive env).queue = []
  | .setSampleRate _ => world.driver.base.state ≠ .ready
  | .interrupt => world.driver.base.state = .running →
      (world.machine.device.arrive env).queue ≠ []

/-- Between calls: the ports are open, the queue holds movement bytes only, and the handler
has room for a byte. -/
structure MouseQuiet (world : MouseWorld) : Prop where
  ports : MousePortsOpen world.machine
  motion : AllMotion world.machine.device.queue
  room : world.driver.packetIndex.toNat < mousePacketSize

variable {world : MouseWorld} {call : MouseCall}

/-- A call that does nothing confuses nothing. -/
theorem notConfused_self (idle : call = .interrupt → world.driver.base.state ≠ .running) :
    NotConfused world call world where
  replies := fun _ before after => absurd before (Nat.not_le.mpr after)
  stored := fun isInterrupt running => absurd running (idle isInterrupt)

theorem callNotConfused_of_ok {after : MouseWorld} {reply : MouseReply}
    (done : mouseCall env outputFull world call = .ok (after, reply)) :
    CallNotConfused env outputFull world call ↔ NotConfused world call after := by
  constructor
  · rintro ⟨after', reply', done', ok⟩
    obtain ⟨rfl, -⟩ := Calls.done_unique done done'
    exact ok
  · exact fun ok => ⟨after, reply, done, ok⟩

theorem takenBetween_eq {after : MouseWorld} {taken : List MouseByte}
    (h : after.machine.device.taken = world.machine.device.taken ++ taken) :
    takenBetween world after = taken := by
  rw [takenBetween, h, List.drop_left]

/-! ## Operations with one wait -/

/-- What an operation has done that wrote `k` bytes and waited once: it took `e`, the head of
the queue. -/
structure Exchanged (before after : MouseWorld) (k : Nat) (e : MouseByte)
    (rest : List MouseByte) : Prop where
  tables : after.machine.tables = before.machine.tables
  queue : ∃ moved, AllMotion moved ∧ after.machine.device.queue = rest ++ moved
  taken : after.machine.device.taken = before.machine.device.taken ++ [e]
  written : after.machine.device.written = before.machine.device.written + k
  packetIndex : after.driver.packetIndex = before.driver.packetIndex

/-- In another state than its own a switching operation does nothing. -/
theorem mouseSwitch_idle (command : RtU8) {source : RtDriverState} (target : RtDriverState)
    (state : world.driver.base.state ≠ source) :
    mouseSwitch (mouseHardware env outputFull) outputFull command source target world.driver
      world.machine = ⟨.invalidParameter, world.driver, world.machine⟩ := by
  simp only [mouseSwitch, ne_eq, state, not_false_eq_true, if_true]

/-- A byte is written and its reply is waited for: there is something in the queue by then, and
the wait takes the head of it. -/
theorem mouseWaitAck_wrote {m : Machine MouseDevice} (ports : MousePortsOpen m) (value : RtU8) :
    ∃ e rest m', (ioOut8 (mouseHardware env outputFull) mouseDataRegister value
        m).device.queue = e :: rest ∧
      mouseWaitAck (mouseHardware env outputFull) outputFull
        (ioOut8 (mouseHardware env outputFull) mouseDataRegister value m) =
          (e.byte == 0xFA, m') ∧
      MouseTook (ioOut8 (mouseHardware env outputFull) mouseDataRegister value m) m' e rest := by
  have wrote := ioOut8_wrote env outputFull ports value
  have replies : m.device.replies value ≠ [] := by
    rw [MouseDevice.replies]
    split
    · exact List.cons_ne_nil _ _
    · exact List.cons_ne_nil _ _
  have pending := List.append_ne_nil_of_right_ne_nil (m.device.queue ++ m.device.arrivals env)
    replies
  rw [← wrote.queue] at pending
  obtain ⟨e, rest, head⟩ := List.exists_cons_of_ne_nil pending
  obtain ⟨m', ack, took⟩ := mouseWaitAck_took env outputFull (ports.of_tables wrote.tables) head
  exact ⟨e, rest, m', head, ack, took⟩

/-- The exchange of `Mouse_Enable` and `Mouse_Disable`. -/
theorem mouseSwitch_exchanged (ports : MousePortsOpen world.machine) {command : RtU8}
    {source target : RtDriverState} (notReset : command ≠ mouseCmdReset)
    (state : world.driver.base.state = source) :
    ∃ e rest, (world.machine.device.arrive env).queue ++
        [⟨0xFA, .ack world.machine.device.written⟩] = e :: rest ∧
      Exchanged world (world.after (mouseSwitch (mouseHardware env outputFull) outputFull command
        source target world.driver world.machine)).1 1 e rest := by
  have wrote := ioOut8_wrote env outputFull ports command
  obtain ⟨e, rest, m', head, ack, took⟩ := mouseWaitAck_wrote env outputFull ports command
  have split : (world.machine.device.arrive env).queue ++
      [⟨0xFA, .ack world.machine.device.written⟩] = e :: rest := by
    rw [← head, wrote.queue, MouseDevice.replies, if_neg notReset]
    rfl
  refine ⟨e, rest, split, ?_⟩
  have result : ∃ code driver, mouseSwitch (mouseHardware env outputFull) outputFull command
      source target world.driver world.machine = ⟨code, some driver, m'⟩ ∧
      driver.packetIndex = world.driver.packetIndex := by
    simp only [mouseSwitch, state, ne_eq, not_true_eq_false, if_false, ack]
    split
    · exact ⟨_, _, rfl, rfl⟩
    · exact ⟨_, _, rfl, rfl⟩
  obtain ⟨code, driver, result, index⟩ := result
  obtain ⟨moved, motion, -, queue⟩ := took.queue
  rw [result]
  exact ⟨took.tables.trans wrote.tables, ⟨moved, motion, queue⟩,
    by rw [← wrote.taken]; exact took.taken, by rw [← wrote.written]; exact took.written, index⟩

/-- `Mouse_SetSampleRate` writes two bytes and waits once. -/
theorem mouseSetSampleRate_exchanged (ports : MousePortsOpen world.machine) (rate : RtU8)
    (state : world.driver.base.state = .ready) :
    ∃ e rest, Exchanged world (world.after (mouseSetSampleRate (mouseHardware env outputFull)
      outputFull world.driver rate world.machine)).1 2 e rest := by
  have wrote := ioOut8_wrote env outputFull ports mouseCmdSetSampleRate
  have ports' := ports.of_tables wrote.tables
  have wrote' := ioOut8_wrote env outputFull ports' rate
  obtain ⟨e, rest, m', -, ack, took⟩ := mouseWaitAck_wrote env outputFull ports' rate
  have result : ∃ code driver, mouseSetSampleRate (mouseHardware env outputFull) outputFull
      world.driver rate world.machine = ⟨code, some driver, m'⟩ ∧
      driver.packetIndex = world.driver.packetIndex := by
    simp only [mouseSetSampleRate, state, ne_eq, not_true_eq_false, if_false, ack]
    split
    · exact ⟨_, _, rfl, rfl⟩
    · exact ⟨_, _, rfl, rfl⟩
  obtain ⟨code, driver, result, index⟩ := result
  obtain ⟨moved, motion, -, queue⟩ := took.queue
  refine ⟨e, rest, ?_⟩
  rw [result]
  exact ⟨took.tables.trans (wrote'.tables.trans wrote.tables), ⟨moved, motion, queue⟩,
    by rw [← wrote.taken, ← wrote'.taken]; exact took.taken,
    (took.written.trans wrote'.written).trans (by rw [wrote.written]), index⟩

/-- Outside the ready state `Mouse_SetSampleRate` does nothing. -/
theorem mouseSetSampleRate_idle (rate : RtU8) (state : world.driver.base.state ≠ .ready) :
    mouseSetSampleRate (mouseHardware env outputFull) outputFull world.driver rate world.machine =
      ⟨.invalidParameter, world.driver, world.machine⟩ := by
  simp only [mouseSetSampleRate, ne_eq, state, not_false_eq_true, if_true]

/-- One byte was taken: that is enough for one reply, if it is the reply. -/
theorem notConfused_of_exchanged {after : MouseWorld} {e : MouseByte} {rest : List MouseByte}
    (operation : call ≠ .interrupt) (allWaits : ∀ taken, takenByWaits call taken = taken)
    (exchanged : Exchanged world after 1 e rest) :
    NotConfused world call after ↔ e.origin = .ack world.machine.device.written := by
  have taken := takenBetween_eq exchanged.taken
  constructor
  · intro ok
    obtain ⟨e', mem, origin⟩ := ok.replies world.machine.device.written (Nat.le_refl _)
      (by rw [exchanged.written]; exact Nat.lt_succ_self _)
    rw [allWaits, taken] at mem
    rwa [← List.mem_singleton.mp mem]
  · intro origin
    refine ⟨fun n before below => ?_, fun isInterrupt => absurd isInterrupt operation⟩
    rw [exchanged.written] at below
    obtain rfl : world.machine.device.written = n := by omega
    rw [allWaits, taken]
    exact ⟨e, List.mem_singleton_self e, origin⟩

/-- It is not enough for two. -/
theorem confused_of_exchanged {after : MouseWorld} {e : MouseByte} {rest : List MouseByte}
    (allWaits : ∀ taken, takenByWaits call taken = taken)
    (exchanged : Exchanged world after 2 e rest) : ¬ NotConfused world call after := by
  intro ok
  have taken := takenBetween_eq exchanged.taken
  have written := exchanged.written
  obtain ⟨e₁, mem₁, origin₁⟩ :=
    ok.replies world.machine.device.written (by omega) (by omega)
  obtain ⟨e₂, mem₂, origin₂⟩ :=
    ok.replies (world.machine.device.written + 1) (by omega) (by omega)
  rw [allWaits, taken] at mem₁ mem₂
  rw [List.mem_singleton.mp mem₁] at origin₁
  rw [List.mem_singleton.mp mem₂, origin₁] at origin₂
  have := MouseByteOrigin.ack.inj origin₂
  omega

/-- With movement bytes in the queue, its head is the reply exactly when there are none. -/
theorem head_isReply {queue rest : List MouseByte} {e : MouseByte} {n : Nat}
    (motion : AllMotion queue) (split : queue ++ [⟨0xFA, .ack n⟩] = e :: rest) :
    e.origin = .ack n ↔ queue = [] := by
  cases queue with
  | nil =>
    obtain ⟨rfl, rfl⟩ := List.cons.inj split
    simp
  | cons e' queue =>
    obtain ⟨rfl, -⟩ := List.cons.inj split
    simp [motion e' List.mem_cons_self]

/-! ## The initialisation -/

/-- Replies to data register writes are `0xFA`. -/
def Truthful (bytes : List MouseByte) : Prop := ∀ e ∈ bytes, ∀ n, e.origin = .ack n → e.byte = 0xFA

theorem AllMotion.truthful {bytes : List MouseByte} (motion : AllMotion bytes) :
    Truthful bytes := by
  intro e mem n origin
  rw [motion e mem] at origin
  cases origin

theorem Truthful.append {xs ys : List MouseByte} (h : Truthful xs) (h' : Truthful ys) :
    Truthful (xs ++ ys) := by
  rw [Truthful, List.forall_mem_append]
  exact ⟨h, h'⟩

theorem truthful_replies (d : MouseDevice) (value : RtU8) : Truthful (d.replies value) := by
  intro e mem n origin
  rw [MouseDevice.replies] at mem
  split at mem
  · rcases List.mem_pair.mp mem with rfl | rfl
    · rfl
    · cases origin
  · rw [List.mem_singleton.mp mem]

/-- How `Mouse_Init` goes on after the self test: the reply to the enable byte is waited for,
and if it comes, two more bytes are written. -/
theorem mouseInit_enable {m : Machine MouseDevice} (ports : MousePortsOpen m)
    (truthful : Truthful m.device.queue) :
    ∃ e m', Truthful [e] ∧
      mouseWaitAck (mouseHardware env outputFull) outputFull
        (ioOut8 (mouseHardware env outputFull) mouseDataRegister mouseCmdEnable m) =
          (e.byte == 0xFA, m') ∧
      m'.tables = m.tables ∧ m'.device.taken = m.device.taken ++ [e] ∧
      m'.device.written = m.device.written + 1 := by
  have wrote := ioOut8_wrote env outputFull ports mouseCmdEnable
  have truthful' := (truthful.append wrote.motion.truthful).append
    (truthful_replies m.device mouseCmdEnable)
  rw [← wrote.queue] at truthful'
  obtain ⟨e, rest, m', head, ack, took⟩ := mouseWaitAck_wrote env outputFull ports mouseCmdEnable
  refine ⟨e, m', ?_, ack, took.tables.trans wrote.tables, by rw [took.taken, wrote.taken],
    by rw [took.written, wrote.written]⟩
  intro e' only
  rw [List.mem_singleton.mp only]
  exact truthful' e (by rw [head]; exact List.mem_cons_self)

/-- The last two writes of `Mouse_Init` take nothing. -/
theorem mouseInit_sampleRate {m : Machine MouseDevice} (ports : MousePortsOpen m) :
    let m' := ioOut8 (mouseHardware env outputFull) mouseDataRegister 100
      (ioOut8 (mouseHardware env outputFull) mouseDataRegister mouseCmdSetSampleRate m)
    m'.device.taken = m.device.taken ∧ m'.device.written = m.device.written + 2 := by
  have wrote := ioOut8_wrote env outputFull ports mouseCmdSetSampleRate
  have wrote' := ioOut8_wrote env outputFull (ports.of_tables wrote.tables) 100
  exact ⟨wrote'.taken.trans wrote.taken, wrote'.written.trans (by rw [wrote.written])⟩

/-- What `Mouse_Init` takes and how many bytes it writes. The wait for the reset takes `e₁`,
the read of the self test `e₂`, the wait for the enable byte the third one. -/
inductive InitTook (e₁ e₂ : MouseByte) : List MouseByte → Nat → Prop where
  | refused (h : e₁.byte ≠ 0xFA) : InitTook e₁ e₂ [e₁] 1
  | testFailed (h : e₂.byte ≠ 0xAA) : InitTook e₁ e₂ [e₁, e₂] 1
  | notEnabled (e₃ : MouseByte) (h : e₃.byte ≠ 0xFA) (truth : Truthful [e₃]) :
      InitTook e₁ e₂ [e₁, e₂, e₃] 2
  | completed (e₃ : MouseByte) : InitTook e₁ e₂ [e₁, e₂, e₃] 4

/-- In each case a reply is left that no wait has taken. -/
theorem initTook_unanswered {pending rest taken : List MouseByte} {e₁ e₂ : MouseByte}
    {first writes : Nat} (motion : AllMotion pending)
    (split : pending ++ [⟨0xFA, .ack first⟩, ⟨0xAA, .selfTest⟩] = e₁ :: e₂ :: rest)
    (took : InitTook e₁ e₂ taken writes) :
    ∃ n, first ≤ n ∧ n < first + writes ∧ ∀ e ∈ taken.eraseIdx 1, e.origin ≠ .ack n := by
  have reply : e₁.origin = .ack first → e₁.byte = 0xFA ∧ e₂.byte = 0xAA := by
    intro origin
    cases pending with
    | nil =>
      obtain ⟨rfl, rest'⟩ := List.cons.inj split
      obtain ⟨rfl, -⟩ := List.cons.inj rest'
      exact ⟨rfl, rfl⟩
    | cons e pending =>
      obtain ⟨rfl, -⟩ := List.cons.inj split
      rw [motion e List.mem_cons_self] at origin
      cases origin
  cases took with
  | refused h =>
    refine ⟨first, Nat.le_refl _, by omega, ?_⟩
    intro e mem origin
    obtain rfl : e = e₁ := by simpa using mem
    exact h (reply origin).1
  | testFailed h =>
    refine ⟨first, Nat.le_refl _, by omega, ?_⟩
    intro e mem origin
    obtain rfl : e = e₁ := by simpa using mem
    exact h (reply origin).2
  | notEnabled e₃ h truth =>
    have third (n : Nat) : e₃.origin ≠ .ack n :=
      fun origin => h (truth e₃ (List.mem_singleton_self _) n origin)
    by_cases answered : e₁.origin = .ack first
    · refine ⟨first + 1, by omega, by omega, ?_⟩
      simp [third, answered]
    · refine ⟨first, by omega, by omega, ?_⟩
      simp [third, answered]
  | completed e₃ =>
    -- two bytes cannot be three different replies
    by_contra all
    simp only [not_exists, not_and, ne_eq, not_forall, not_not] at all
    obtain ⟨a, memA, originA⟩ := all first (by omega) (by omega)
    obtain ⟨b, memB, originB⟩ := all (first + 1) (by omega) (by omega)
    obtain ⟨c, memC, originC⟩ := all (first + 2) (by omega) (by omega)
    simp only [List.eraseIdx, List.mem_cons, List.not_mem_nil, or_false] at memA memB memC
    grind

theorem exists_two_of_length {α : Type} {xs : List α} (h : 2 ≤ xs.length) :
    ∃ a b rest, xs = a :: b :: rest := by
  match xs, h with
  | a :: b :: rest, _ => exact ⟨a, b, rest, rfl⟩

/-- The reset puts its two replies behind the movement bytes that have arrived by then. -/
theorem mouseInit_reset (quiet : MouseQuiet world) :
    let m := ioOut8 (mouseHardware env outputFull) mouseDataRegister mouseCmdReset
      (ioOut8 (mouseHardware env outputFull) mouseCommandRegister 0xA7 world.machine)
    MousePortsOpen m ∧ m.device.taken = world.machine.device.taken ∧
      m.device.written = world.machine.device.written + 1 ∧
      ∃ pending e₁ e₂ rest, AllMotion pending ∧
        pending ++ [⟨0xFA, .ack world.machine.device.written⟩, ⟨0xAA, .selfTest⟩] =
          e₁ :: e₂ :: rest ∧ m.device.queue = e₁ :: e₂ :: rest ∧ Truthful rest := by
  intro m
  obtain ⟨tables₁, device₁⟩ := ioOut8_command env outputFull quiet.ports 0xA7
  have ports₁ := quiet.ports.of_tables tables₁
  have wrote := ioOut8_wrote env outputFull ports₁ mouseCmdReset
  refine ⟨ports₁.of_tables wrote.tables, ?_, ?_, ?_⟩
  · rw [wrote.taken, device₁]
    rfl
  · rw [wrote.written, device₁]
    rfl
  let pending := (world.machine.device.arrive env).queue ++
    (world.machine.device.arrive env).arrivals env
  have motion : AllMotion pending :=
    (quiet.motion.append (allMotion_arrivals env _)).append (allMotion_arrivals env _)
  have replies : world.machine.device.replies mouseCmdReset =
      [⟨0xFA, .ack world.machine.device.written⟩, ⟨0xAA, .selfTest⟩] := rfl
  have two : 2 ≤ (pending ++ world.machine.device.replies mouseCmdReset).length := by
    simp [replies]
  rcases exists_two_of_length two with ⟨e₁, e₂, rest, split⟩
  refine ⟨pending, e₁, e₂, rest, motion, split, ?_, ?_⟩
  · rw [wrote.queue, device₁, ← split]
    rfl
  · intro e mem
    apply motion.truthful.append (truthful_replies world.machine.device mouseCmdReset)
    rw [split]
    exact List.mem_cons_of_mem _ (List.mem_cons_of_mem _ mem)

/-- What `Mouse_Init` does on a quiet queue. -/
theorem mouseInit_took (quiet : MouseQuiet world) :
    ∃ pending e₁ e₂ rest taken writes, AllMotion pending ∧
      pending ++ [⟨0xFA, .ack world.machine.device.written⟩, ⟨0xAA, .selfTest⟩] =
        e₁ :: e₂ :: rest ∧ InitTook e₁ e₂ taken writes ∧
      (mouseInit (mouseHardware env outputFull) outputFull world.driver
        world.machine).machine.device.taken = world.machine.device.taken ++ taken ∧
      (mouseInit (mouseHardware env outputFull) outputFull world.driver
        world.machine).machine.device.written = world.machine.device.written + writes := by
  rcases mouseInit_reset env outputFull quiet with
    ⟨ports₂, taken₂, written₂, pending, e₁, e₂, rest, motion, split, head, truthful⟩
  refine ⟨pending, e₁, e₂, rest, ?_⟩
  -- the wait for the reply to the reset
  obtain ⟨m₃, ack, took⟩ := mouseWaitAck_took env outputFull ports₂ head
  have taken₃ : m₃.device.taken = world.machine.device.taken ++ [e₁] := by
    rw [took.taken, taken₂]
  have written₃ : m₃.device.written = world.machine.device.written + 1 :=
    took.written.trans written₂
  cases isAck : e₁.byte == 0xFA with
  | false =>
    rw [isAck] at ack
    have result : mouseInit (mouseHardware env outputFull) outputFull world.driver
        world.machine = ⟨.hardwareFault, world.driver, m₃⟩ := by
      simp only [mouseInit, ack, Bool.not_false, if_true]
    refine ⟨[e₁], 1, motion, split, .refused (by simpa using isAck), ?_⟩
    rw [result]
    exact ⟨taken₃, written₃⟩
  | true =>
    rw [isAck] at ack
    -- the result of the self test
    have ports₃ := ports₂.of_tables took.tables
    obtain ⟨moved, moving, -, queue₃⟩ := took.queue
    obtain ⟨m₄, ready, value, took'⟩ :=
      mouseWaitOutput_read_took env outputFull ports₃ (queue₃.trans (List.cons_append ..))
    have taken₅ := took'.taken
    have written₅ := took'.written
    rw [taken₃, List.append_assoc] at taken₅
    rw [written₃] at written₅
    by_cases test : e₂.byte = 0xAA
    · -- the wait for the reply to the enable byte
      have ports₅ := ports₃.of_tables took'.tables
      have truthful₅ : Truthful
          (ioIn8 (mouseHardware env outputFull) mouseDataRegister m₄).2.device.queue := by
        obtain ⟨moved', moving', -, queue₅⟩ := took'.queue
        rw [queue₅]
        exact (truthful.append moving.truthful).append moving'.truthful
      obtain ⟨e₃, m₆, truth, ack', tables₆, taken₆, written₆⟩ :=
        mouseInit_enable env outputFull ports₅ truthful₅
      rw [taken₅, List.append_assoc] at taken₆
      rw [written₅] at written₆
      cases isAck' : e₃.byte == 0xFA with
      | false =>
        rw [isAck'] at ack'
        have result : mouseInit (mouseHardware env outputFull) outputFull world.driver
            world.machine = ⟨.hardwareFault, world.driver, m₆⟩ := by
          simp only [mouseInit, ack, ready, value, test, ack', Bool.not_true, Bool.false_eq_true,
            if_false, ne_eq, not_true_eq_false, Bool.not_false, if_true]
        refine ⟨[e₁, e₂, e₃], 2, motion, split,
          .notEnabled e₃ (by simpa using isAck') truth, ?_⟩
        rw [result]
        exact ⟨taken₆, written₆⟩
      | true =>
        rw [isAck'] at ack'
        obtain ⟨taken₈, written₈⟩ :=
          mouseInit_sampleRate env outputFull (ports₅.of_tables tables₆)
        refine ⟨[e₁, e₂, e₃], 4, motion, split, .completed e₃, ?_⟩
        simp only [mouseInit, ack, ready, value, test, ack', Bool.not_true, Bool.false_eq_true,
          if_false, ne_eq, not_true_eq_false]
        exact ⟨taken₈.trans taken₆, written₈.trans (by rw [written₆])⟩
    · have result : mouseInit (mouseHardware env outputFull) outputFull world.driver
          world.machine = ⟨.hardwareFault, world.driver,
            (ioIn8 (mouseHardware env outputFull) mouseDataRegister m₄).2⟩ := by
        simp only [mouseInit, ack, ready, value, test, Bool.not_true, Bool.false_eq_true,
          if_false, ne_eq, not_false_eq_true, if_true]
      refine ⟨[e₁, e₂], 1, motion, split, .testFailed test, ?_⟩
      rw [result]
      exact ⟨taken₅, written₅⟩

/-! ## The handler -/

/-- With room for a byte the handler stores it, and has room again afterwards. -/
theorem mouseCollect_room {driver : RtMouseDriver}
    (room : driver.packetIndex.toNat < mousePacketSize) (b : RtU8) :
    ∃ driver' callbacks, mouseCollect driver b = .ok (some driver', callbacks) ∧
      driver'.packetIndex.toNat < mousePacketSize := by
  have index : driver.packetIndex = 0 ∨ driver.packetIndex = 1 ∨ driver.packetIndex = 2 := by
    simp only [mousePacketSize] at room
    bv_omega
  rcases index with index | index | index
  · refine ⟨_, _, mouseCollect_first driver index b, ?_⟩
    dsimp only
    split <;> decide
  · exact ⟨_, _, mouseCollect_second driver index b,
      (by decide : (2 : RtU8).toNat < mousePacketSize)⟩
  · rw [mouseCollect_third driver index b]
    unfold mouseProcessPacket
    dsimp only
    have first : (0 : RtU8).toNat < mousePacketSize := by decide
    split
    · exact ⟨_, _, rfl, first⟩
    · exact ⟨_, _, rfl, first⟩

/-- A running handler stores what it reads from the queue. -/
theorem mouseCall_interrupt (quiet : MouseQuiet world)
    (running : world.driver.base.state = .running) :
    ∃ after callbacks, mouseCall env outputFull world .interrupt =
        .ok (after, .callbacks callbacks) ∧
      mouseCollect world.driver ((world.machine.device.arrive env).read env).1 =
        .ok (some after.driver, callbacks) ∧
      after.driver.packetIndex.toNat < mousePacketSize ∧
      after.machine.tables = world.machine.tables ∧
      after.machine.device = ((world.machine.device.arrive env).read env).2 := by
  obtain ⟨tables, value, device⟩ := ioIn8_data env outputFull quiet.ports
  obtain ⟨driver, callbacks, collected, room⟩ :=
    mouseCollect_room quiet.room ((world.machine.device.arrive env).read env).1
  refine ⟨⟨driver, (ioIn8 (mouseHardware env outputFull) mouseDataRegister world.machine).2⟩,
    callbacks, ?_, collected, room, tables, device⟩
  rw [mouseCall, MouseCall.operation, mouseOperation_interrupt_running _ outputFull _ running,
    value, collected]
  rfl

/-- The handler of a driver that is not running does nothing. -/
theorem mouseCall_interrupt_idle (state : world.driver.base.state ≠ .running) :
    mouseCall env outputFull world .interrupt = .ok (world, .callbacks []) := by
  rw [mouseCall, MouseCall.operation, mouseOperation_interrupt_idle _ outputFull _ state]
  rfl

/-- A running handler is right exactly when there is a byte for it. -/
theorem interrupt_notConfused_iff (quiet : MouseQuiet world) :
    CallNotConfused env outputFull world .interrupt ↔
      (world.driver.base.state = .running → (world.machine.device.arrive env).queue ≠ []) := by
  by_cases running : world.driver.base.state = .running
  · obtain ⟨after, callbacks, call, collected, -, -, device⟩ :=
      mouseCall_interrupt env outputFull quiet running
    have motion : AllMotion (world.machine.device.arrive env).queue :=
      quiet.motion.append (allMotion_arrivals env _)
    rw [callNotConfused_of_ok env outputFull call]
    cases queue : (world.machine.device.arrive env).queue with
    | nil =>
      simp only [MouseDevice.read, queue] at device
      have taken : takenBetween world after = [] :=
        takenBetween_eq (by rw [device]; exact (List.append_nil _).symm)
      constructor
      · intro ok
        obtain ⟨e, _, taken', _⟩ := ok.stored rfl running
        rw [taken] at taken'
        cases taken'
      · exact fun harmless => absurd rfl (harmless running)
    | cons e rest =>
      simp only [MouseDevice.read, queue] at device collected
      have taken : takenBetween world after = [e] := takenBetween_eq (by rw [device]; rfl)
      refine ⟨fun _ _ => List.cons_ne_nil _ _, fun _ => ⟨?_, ?_⟩⟩
      · intro n before below
        rw [device] at below
        exact absurd below (Nat.not_lt.mpr before)
      · intro _ _
        exact ⟨e, callbacks, taken, motion e (by rw [queue]; exact List.mem_cons_self), collected⟩
  · rw [callNotConfused_of_ok env outputFull (mouseCall_interrupt_idle env outputFull running)]
    exact ⟨fun _ state => absurd state running, fun _ => notConfused_self fun _ => running⟩

/-! ## Single calls -/

/-- The operations that `Mouse_Enable` and `Mouse_Disable` are. -/
theorem switch_notConfused_iff (quiet : MouseQuiet world) {command : RtU8}
    {source target : RtDriverState} (notReset : command ≠ mouseCmdReset)
    (operation : call ≠ .interrupt) (allWaits : ∀ taken, takenByWaits call taken = taken) :
    NotConfused world call (world.after (mouseSwitch (mouseHardware env outputFull) outputFull
        command source target world.driver world.machine)).1 ↔
      (world.driver.base.state = source → (world.machine.device.arrive env).queue = []) := by
  by_cases state : world.driver.base.state = source
  · obtain ⟨e, rest, split, exchanged⟩ :=
      mouseSwitch_exchanged env outputFull quiet.ports notReset state
    have motion := quiet.motion.append (allMotion_arrivals env world.machine.device)
    rw [notConfused_of_exchanged operation allWaits exchanged, head_isReply motion split]
    simp only [state, true_implies]
    rfl
  · rw [mouseSwitch_idle env outputFull command target state]
    exact ⟨fun _ running => absurd running state,
      fun _ => notConfused_self fun isInterrupt => absurd isInterrupt operation⟩

theorem switch_quiet (quiet : MouseQuiet world) {command : RtU8} {source target : RtDriverState}
    (notReset : command ≠ mouseCmdReset)
    (harmless : world.driver.base.state = source →
      (world.machine.device.arrive env).queue = []) :
    MouseQuiet (world.after (mouseSwitch (mouseHardware env outputFull) outputFull
      command source target world.driver world.machine)).1 := by
  by_cases state : world.driver.base.state = source
  · obtain ⟨e, rest, split, exchanged⟩ :=
      mouseSwitch_exchanged env outputFull quiet.ports notReset state
    rw [harmless state] at split
    obtain ⟨rfl, rfl⟩ := List.cons.inj split
    obtain ⟨moved, motion, queue⟩ := exchanged.queue
    exact ⟨quiet.ports.of_tables exchanged.tables, by rw [queue]; exact motion,
      by rw [exchanged.packetIndex]; exact quiet.room⟩
  · rw [mouseSwitch_idle env outputFull command target state]
    exact quiet

/-- Whatever has been done before, a call confuses nothing exactly when it is harmless. -/
theorem callNotConfused_iff (quiet : MouseQuiet world) (call : MouseCall) :
    CallNotConfused env outputFull world call ↔ Harmless env world call := by
  cases call with
  | init =>
    rw [callNotConfused_of_ok env outputFull rfl]
    refine ⟨fun ok => ?_, False.elim⟩
    obtain ⟨pending, e₁, e₂, rest, taken, writes, motion, split, took, taken', written⟩ :=
      mouseInit_took env outputFull quiet
    obtain ⟨n, from_, below, unanswered⟩ := initTook_unanswered motion split took
    obtain ⟨e, mem, origin⟩ := ok.replies n from_ (by rw [← written] at below; exact below)
    rw [takenBetween_eq taken'] at mem
    exact unanswered e mem origin
  | enable =>
    rw [callNotConfused_of_ok env outputFull rfl]
    exact switch_notConfused_iff env outputFull quiet (by decide) (by simp) fun _ => rfl
  | disable =>
    rw [callNotConfused_of_ok env outputFull rfl]
    exact switch_notConfused_iff env outputFull quiet (by decide) (by simp) fun _ => rfl
  | setSampleRate rate =>
    rw [callNotConfused_of_ok env outputFull rfl]
    by_cases ready : world.driver.base.state = .ready
    · obtain ⟨e, rest, exchanged⟩ :=
        mouseSetSampleRate_exchanged env outputFull quiet.ports rate ready
      exact ⟨fun ok => absurd ok (confused_of_exchanged (fun _ => rfl) exchanged),
        fun harmless => absurd ready harmless⟩
    · rw [mouseSetSampleRate_idle env outputFull rate ready]
      exact ⟨fun _ => ready, fun _ => notConfused_self fun h => by cases h⟩
  | interrupt => exact interrupt_notConfused_iff env outputFull quiet

/-- A harmless call leaves a quiet queue. -/
theorem mouseQuiet_call (quiet : MouseQuiet world) (call : MouseCall) {after : MouseWorld}
    {reply : MouseReply} (harmless : Harmless env world call)
    (done : mouseCall env outputFull world call = .ok (after, reply)) : MouseQuiet after := by
  cases call with
  | init => exact harmless.elim
  | enable =>
    obtain ⟨rfl, -⟩ := Prod.mk.inj (Except.ok.inj done)
    exact switch_quiet env outputFull quiet (by decide) harmless
  | disable =>
    obtain ⟨rfl, -⟩ := Prod.mk.inj (Except.ok.inj done)
    exact switch_quiet env outputFull quiet (by decide) harmless
  | setSampleRate rate =>
    obtain ⟨rfl, -⟩ := Prod.mk.inj (Except.ok.inj done)
    rw [mouseSetSampleRate_idle env outputFull rate harmless]
    exact quiet
  | interrupt =>
    by_cases running : world.driver.base.state = .running
    · obtain ⟨after', callbacks, call, -, room, tables, device⟩ :=
        mouseCall_interrupt env outputFull quiet running
      obtain ⟨rfl, -⟩ := Calls.done_unique call done
      have motion : AllMotion (world.machine.device.arrive env).queue :=
        quiet.motion.append (allMotion_arrivals env _)
      obtain ⟨e, rest, queue⟩ := List.exists_cons_of_ne_nil (harmless running)
      simp only [MouseDevice.read, queue] at device
      rw [queue] at motion
      exact ⟨quiet.ports.of_tables tables,
        by rw [device]; exact fun e mem => motion e (List.mem_cons_of_mem _ mem), room⟩
    · rw [mouseCall_interrupt_idle env outputFull running] at done
      obtain ⟨rfl, -⟩ := Prod.mk.inj (Except.ok.inj done)
      exact quiet

/-- In a run from an empty queue no reply and no movement byte is taken for the other exactly
when every call of the run is harmless in the state it is made in. -/
theorem mouseRun_notConfused_iff (world : MouseWorld) (calls : List MouseCall)
    (ports : MousePortsOpen world.machine) (empty : world.machine.device.queue = [])
    (room : world.driver.packetIndex.toNat < mousePacketSize) :
    Calls.Everywhere (mouseCall env outputFull) (CallNotConfused env outputFull) world calls ↔
      Calls.Everywhere (mouseCall env outputFull) (Harmless env) world calls := by
  apply Calls.everywhere_iff MouseQuiet
  · exact fun _ call quiet => callNotConfused_iff env outputFull quiet call
  · exact fun _ call _ _ quiet harmless done =>
      mouseQuiet_call env outputFull quiet call harmless done
  · refine ⟨ports, ?_, room⟩
    rw [empty]
    exact fun e mem => absurd mem List.not_mem_nil

end Calls

/-! ## Two runs -/

/-- A mouse that moves once, right before the fourth port access. -/
def sampleSurroundings : MouseSurroundings where
  moves := fun t => if t = 3 then [0x38, 5, 7] else []
  stale := fun _ => 0

/-- A driver that is ready without `Mouse_Init`, and an idle mouse behind unlocked ports. -/
def sampleMouseWorld : MouseWorld where
  driver := { mouseRunning with base.state := .ready }
  machine := ⟨ioTablesInit, ⟨[], false, 0, [], 0⟩, []⟩

/-- Turning the mouse on, one packet, and turning the mouse off again. -/
theorem mouseRun_notConfused_packet :
    Calls.Everywhere (mouseCall sampleSurroundings 0) (CallNotConfused sampleSurroundings 0)
      sampleMouseWorld [.enable, .interrupt, .interrupt, .interrupt, .disable] :=
  (mouseRun_notConfused_iff sampleSurroundings 0 sampleMouseWorld _ ⟨rfl, rfl⟩ rfl
      (by decide)).mpr <|
    Calls.everywhere_cons rfl (fun _ => rfl) <|
    Calls.everywhere_cons rfl (fun _ => by decide) <|
    Calls.everywhere_cons rfl (fun _ => by decide) <|
    Calls.everywhere_cons rfl (fun _ => by decide) <|
    Calls.everywhere_cons rfl (fun _ => rfl) trivial

/-- The replies to the last two bytes of `Mouse_Init` are left in the queue. -/
theorem mouseRun_confused_init :
    ¬ Calls.Everywhere (mouseCall sampleSurroundings 0) (CallNotConfused sampleSurroundings 0)
      sampleMouseWorld [.init] := by
  have quiet : MouseQuiet sampleMouseWorld :=
    ⟨⟨rfl, rfl⟩, fun e mem => absurd mem List.not_mem_nil, by decide⟩
  intro fine
  exact (callNotConfused_iff sampleSurroundings 0 quiet .init).mp fine.1

end LamaOS
