import LamaOS.Drivers.Common.IoPortRuns

/-!
# The port layer, step by step

`IO_LockPort` tests the lock of a port and then sets it, and the access functions test it and
then execute an instruction. Nothing keeps an interrupt or another client from coming between
the two: here a call is made of these steps, and the steps of several clients come in any order.
The other functions work on the lock table with a single store or not at all.

As long as no store and no instruction finds its port locked in the meantime, the calls are
those of the port layer, each made when it is completed; the first one that does is not. And
it is such stores that give a port to two clients.
-/

namespace LamaOS

/-! ## Steps -/

/-- A client behind the test of a call. -/
inductive PortPoint where
  | storing (port : RtIoPort)
  | performing (call : PortCall)
  deriving DecidableEq, Repr

namespace PortPoint

/-- The call that is being made. -/
def operation : PortPoint → PortOperation
  | storing port => .lock port
  | performing call => .access call

/-- The port that was tested. -/
def port : PortPoint → RtIoPort
  | storing port => port
  | performing call => call.port

end PortPoint

/-- Where the first step of a call leaves its client, if the call goes on. -/
def PortOperation.afterTest (tables : IoTables) : PortOperation → Option PortPoint
  | .lock port => if ioReaches tables port then some (.storing port) else none
  | .access call => if ioReaches tables call.port then some (.performing call) else none
  | .initPort _ | .unlock _ | .getConfig _ | .setMode _ _ | .setAccessType _ _ => none

section Steps

variable {σ γ : Type} [DecidableEq γ] (hw : Hardware σ)

/-- An `in` instruction. -/
def inInstruction (width : Nat) (port : RtIoPort) (m : Machine σ) : Machine σ :=
  let (value, device) := hw.input width port m.device
  { m with device, log := m.log ++ [⟨.input, width, port, value.toNat, true⟩] }

/-- An `out` instruction. -/
def outInstruction (width : Nat) (port : RtIoPort) (value : BitVec width) (m : Machine σ) :
    Machine σ :=
  { m with
    device := hw.output width port value m.device
    log := m.log ++ [⟨.output, width, port, value.toNat, true⟩] }

/-- The instruction of an access function. -/
def PortCall.perform (m : Machine σ) : PortCall → Machine σ
  | in8 port => inInstruction hw 8 port m
  | out8 port value => outInstruction hw 8 port value m
  | in16 port => inInstruction hw 16 port m
  | out16 port value => outInstruction hw 16 port value m
  | in32 port => inInstruction hw 32 port m
  | out32 port value => outInstruction hw 32 port value m

/-- The store of `IO_LockPort`. -/
def Machine.storeLock (m : Machine σ) (port : RtIoPort) : Machine σ :=
  if h : port.toNat < maxIoPorts then
    { m with tables.portLocks := Function.update m.tables.portLocks ⟨port.toNat, h⟩ true }
  else m

/-- The last step of a call, and the answer to it. -/
def PortPoint.finish (m : Machine σ) : PortPoint → Machine σ × PortReply
  | .storing port => (m.storeLock port, .code .success)
  | .performing call => (call.perform hw m, .accessed)

/-- The machine, where the clients are, and the calls that are completed. -/
structure PortWorld (σ γ : Type) where
  machine : Machine σ
  point : γ → Option PortPoint
  past : List (PortEvent γ)

/-- Nobody is in a call, and none has been made. -/
def PortWorld.start (m : Machine σ) : PortWorld σ γ := ⟨m, fun _ => none, []⟩

/-- A call is completed. -/
def PortWorld.complete (w : PortWorld σ γ) (client : γ) (op : PortOperation)
    (result : Machine σ × PortReply) : PortWorld σ γ :=
  ⟨result.1, Function.update w.point client none, w.past ++ [((client, op), result.2)]⟩

theorem PortWorld.complete_point_self (w : PortWorld σ γ) (client : γ) (op : PortOperation)
    (result : Machine σ × PortReply) : (w.complete client op result).point client = none :=
  Function.update_self _ _ _

theorem PortWorld.complete_point_of_ne (w : PortWorld σ γ) {client other : γ}
    (different : other ≠ client) (op : PortOperation) (result : Machine σ × PortReply) :
    (w.complete client op result).point other = w.point other :=
  Function.update_of_ne different _ _

/-- A client makes the first step of a call, or the next one. -/
inductive PortStep (γ : Type) where
  | enter (client : γ) (op : PortOperation)
  | proceed (client : γ)

/-- One step. A client makes one call at a time. -/
def portStep (w : PortWorld σ γ) : PortStep γ → PortWorld σ γ
  | .enter client op =>
    match w.point client with
    | some _ => w
    | none =>
      match op.afterTest w.machine.tables with
      | some point => { w with point := Function.update w.point client (some point) }
      | none => w.complete client op (portOperation hw w.machine op)
  | .proceed client =>
    match w.point client with
    | some point => w.complete client point.operation (point.finish hw w.machine)
    | none => w

/-- One step as a call that does not fault. -/
def portStepCall (w : PortWorld σ γ) (step : PortStep γ) : Except Empty (PortWorld σ γ × Unit) :=
  .ok (portStep hw w step, ())

/-- The port of a call has been locked behind its test. -/
def Overtaken (w : PortWorld σ γ) : PortStep γ → Prop
  | .enter _ _ => False
  | .proceed client => ∃ point, w.point client = some point ∧
      ioReaches w.machine.tables point.port = false

/-! ## One call -/

/-- A client goes on with the call it has entered, if the port of the call is open. -/
theorem afterTest_eq_some_iff {tables : IoTables} {op : PortOperation} {point : PortPoint} :
    op.afterTest tables = some point ↔
      point.operation = op ∧ ioReaches tables point.port = true := by
  cases op with
  | lock port =>
    unfold PortOperation.afterTest
    cases point <;> grind [PortPoint.operation, PortPoint.port]
  | access call =>
    unfold PortOperation.afterTest
    cases point <;> grind [PortPoint.operation, PortPoint.port]
  | initPort _ | unlock _ | getConfig _ | setMode _ _ | setAccessType _ _ =>
    cases point <;> simp [PortOperation.afterTest, PortPoint.operation]

/-- With the port open, the instruction is the whole access. -/
theorem perform_of_reaches (m : Machine σ) {call : PortCall}
    (reaches : ioReaches m.tables call.port = true) : call.perform hw m = call.exec hw m := by
  cases call with
  | in8 port => exact (congrArg Prod.snd (ioIn_of_reaches hw 8 port m reaches)).symm
  | out8 port value => exact (ioOut_of_reaches hw 8 port value m reaches).symm
  | in16 port => exact (congrArg Prod.snd (ioIn_of_reaches hw 16 port m reaches)).symm
  | out16 port value => exact (ioOut_of_reaches hw 16 port value m reaches).symm
  | in32 port => exact (congrArg Prod.snd (ioIn_of_reaches hw 32 port m reaches)).symm
  | out32 port value => exact (ioOut_of_reaches hw 32 port value m reaches).symm

/-- With the port still open, the last step does what the whole call does now. -/
theorem finish_of_reaches (m : Machine σ) {point : PortPoint}
    (reaches : ioReaches m.tables point.port = true) :
    point.finish hw m = portOperation hw m point.operation := by
  cases point with
  | storing port =>
    obtain ⟨valid, free⟩ := (ioReaches_iff m.tables port).mp reaches
    simp [PortPoint.finish, Machine.storeLock, PortPoint.operation, portOperation, Machine.after,
      ioLockPort, valid, free]
  | performing call =>
    rw [PortPoint.finish, PortPoint.operation, portOperation, perform_of_reaches hw m reaches]

theorem exec_log (m : Machine σ) (call : PortCall) :
    ∃ access, (call.exec hw m).log = m.log ++ [access] ∧
      access.performed = ioReaches m.tables call.port := by
  cases call with
  | in8 port =>
    obtain ⟨value, logged⟩ := ioIn_log hw 8 port m
    exact ⟨_, logged, rfl⟩
  | out8 port value => exact ⟨_, ioOut_log hw 8 port value m, rfl⟩
  | in16 port =>
    obtain ⟨value, logged⟩ := ioIn_log hw 16 port m
    exact ⟨_, logged, rfl⟩
  | out16 port value => exact ⟨_, ioOut_log hw 16 port value m, rfl⟩
  | in32 port =>
    obtain ⟨value, logged⟩ := ioIn_log hw 32 port m
    exact ⟨_, logged, rfl⟩
  | out32 port value => exact ⟨_, ioOut_log hw 32 port value m, rfl⟩

theorem perform_log (m : Machine σ) (call : PortCall) :
    ∃ access, (call.perform hw m).log = m.log ++ [access] ∧ access.performed = true := by
  cases call with
  | in8 port => exact ⟨_, rfl, rfl⟩
  | out8 port value => exact ⟨_, rfl, rfl⟩
  | in16 port => exact ⟨_, rfl, rfl⟩
  | out16 port value => exact ⟨_, rfl, rfl⟩
  | in32 port => exact ⟨_, rfl, rfl⟩
  | out32 port value => exact ⟨_, rfl, rfl⟩

@[simp] theorem perform_tables (m : Machine σ) (call : PortCall) :
    (call.perform hw m).tables = m.tables := by
  cases call with
  | in8 port => rfl
  | out8 port value => rfl
  | in16 port => rfl
  | out16 port value => rfl
  | in32 port => rfl
  | out32 port value => rfl

theorem storeLock_log (m : Machine σ) (port : RtIoPort) : (m.storeLock port).log = m.log := by
  unfold Machine.storeLock
  split
  · rfl
  · rfl

/-- With the port locked in the meantime, the whole call would have been refused: either the
answer is another one or the record of the access. -/
theorem finish_of_overtaken (m : Machine σ) {point : PortPoint}
    (locked : ioReaches m.tables point.port = false) :
    (portOperation hw m point.operation).2 ≠ (point.finish hw m).2 ∨
      ∃ access access', (portOperation hw m point.operation).1.log = m.log ++ [access] ∧
        (point.finish hw m).1.log = m.log ++ [access'] ∧ access ≠ access' := by
  cases point with
  | storing port =>
    left
    intro same
    obtain ⟨valid, free⟩ := (portOperation_lock_success hw m port).mp same
    have reaches : ioReaches m.tables port = true := (ioReaches_iff m.tables port).mpr ⟨valid, free⟩
    rw [PortPoint.port, reaches] at locked
    cases locked
  | performing call =>
    right
    obtain ⟨access, logged, refused⟩ := exec_log hw m call
    obtain ⟨access', logged', performed⟩ := perform_log hw m call
    refine ⟨access, access', logged, logged', ?_⟩
    rintro rfl
    rw [performed] at refused
    rw [PortPoint.port, ← refused] at locked
    cases locked

theorem portOperation_log (m : Machine σ) (op : PortOperation) :
    m.log <+: (portOperation hw m op).1.log := by
  cases op with
  | access call =>
    obtain ⟨access, logged, -⟩ := exec_log hw m call
    exact ⟨[access], logged.symm⟩
  | initPort config => exact List.prefix_refl _
  | lock port => exact List.prefix_refl _
  | unlock port => exact List.prefix_refl _
  | getConfig port => exact List.prefix_refl _
  | setMode port mode => exact List.prefix_refl _
  | setAccessType port accessType => exact List.prefix_refl _

theorem finish_log (m : Machine σ) (point : PortPoint) : m.log <+: (point.finish hw m).1.log := by
  cases point with
  | storing port => exact ⟨[], (List.append_nil _).trans (storeLock_log m port).symm⟩
  | performing call =>
    obtain ⟨access, logged, -⟩ := perform_log hw m call
    exact ⟨[access], logged.symm⟩

/-! ## Runs -/

/-- What was completed and recorded stays so. -/
def Extends (w w' : PortWorld σ γ) : Prop :=
  w.past <+: w'.past ∧ w.machine.log <+: w'.machine.log

theorem portStep_extends (w : PortWorld σ γ) (step : PortStep γ) :
    Extends w (portStep hw w step) := by
  have stays : Extends w w := ⟨List.prefix_refl _, List.prefix_refl _⟩
  cases step with
  | enter client op =>
    unfold portStep
    dsimp only
    split
    · exact stays
    · split
      · exact stays
      · exact ⟨List.prefix_append _ _, portOperation_log hw w.machine op⟩
  | proceed client =>
    unfold portStep
    dsimp only
    split
    · exact ⟨List.prefix_append _ _, finish_log hw w.machine _⟩
    · exact stays

theorem foldl_portStep_extends (w : PortWorld σ γ) (steps : List (PortStep γ)) :
    Extends w (steps.foldl (portStep hw) w) := by
  induction steps generalizing w with
  | nil => exact ⟨List.prefix_refl _, List.prefix_refl _⟩
  | cons step steps ih =>
    obtain ⟨past, log⟩ := portStep_extends hw w step
    obtain ⟨past', log'⟩ := ih (portStep hw w step)
    exact ⟨past.trans past', log.trans log'⟩

/-- The machine and the answers are those of whole calls, made one after the other in the order
in which they were completed. -/
def AsCalls (m : Machine σ) (w : PortWorld σ γ) : Prop :=
  Calls.run (clientCall hw) m (w.past.map Prod.fst) = .ok (w.machine, w.past.map Prod.snd)

variable {hw} {m : Machine σ} {w : PortWorld σ γ}

omit [DecidableEq γ] in
/-- The calls that are completed after a world are whole calls too. -/
theorem AsCalls.append_iff (asCalls : AsCalls hw m w) {w' : PortWorld σ γ}
    {more : List (PortEvent γ)} (past : w'.past = w.past ++ more) :
    AsCalls hw m w' ↔ Calls.run (clientCall hw) w.machine (more.map Prod.fst) =
      .ok (w'.machine, more.map Prod.snd) := by
  rw [AsCalls, past, List.map_append, List.map_append, Calls.run_append_iff asCalls]

/-- A call that is completed as the whole call would be made. -/
theorem AsCalls.complete (asCalls : AsCalls hw m w) (client : γ) (op : PortOperation) :
    AsCalls hw m (w.complete client op (portOperation hw w.machine op)) :=
  (asCalls.append_iff rfl).mpr rfl

theorem AsCalls.step (asCalls : AsCalls hw m w) {step : PortStep γ}
    (intime : ¬ Overtaken w step) : AsCalls hw m (portStep hw w step) := by
  cases step with
  | enter client op =>
    unfold portStep
    dsimp only
    split
    · exact asCalls
    · split
      · exact asCalls
      · exact asCalls.complete client op
  | proceed client =>
    unfold portStep
    dsimp only
    split
    · rename_i point inCall
      have reaches : ioReaches w.machine.tables point.port = true := by
        rw [← Bool.not_eq_false]
        exact fun locked => intime ⟨point, inCall, locked⟩
      rw [finish_of_reaches hw w.machine reaches]
      exact asCalls.complete client point.operation
    · exact asCalls

omit [DecidableEq γ] in
/-- A run of whole calls only adds to the record. -/
theorem clientRun_log {m' : Machine σ} {calls : List (γ × PortOperation)}
    {replies : List PortReply} (ran : Calls.run (clientCall hw) m calls = .ok (m', replies)) :
    m.log <+: m'.log := by
  refine Calls.run_rel (fun m m' : Machine σ => m.log <+: m'.log) (fun _ => List.prefix_refl _)
    List.IsPrefix.trans ?_ (fun call _ => trivial : ∀ call ∈ calls, True) ran
  intro m call m' reply _ done
  have result : portOperation hw m call.2 = (m', reply) := Except.ok.inj done
  have log := portOperation_log hw m call.2
  rwa [result] at log

/-- Nothing that is done after a call that was overtaken makes up for it. -/
theorem AsCalls.overtaken (asCalls : AsCalls hw m w) {step : PortStep γ}
    (overtaken : Overtaken w step) (steps : List (PortStep γ)) :
    ¬ AsCalls hw m (steps.foldl (portStep hw) (portStep hw w step)) := by
  cases step with
  | enter client op => exact overtaken.elim
  | proceed client =>
    obtain ⟨point, inCall, locked⟩ := overtaken
    have completed : portStep hw w (.proceed client) =
        w.complete client point.operation (point.finish hw w.machine) := by
      rw [portStep, inCall]
    rw [completed]
    obtain ⟨⟨more, past⟩, log⟩ :=
      foldl_portStep_extends hw (w.complete client point.operation (point.finish hw w.machine)) steps
    generalize steps.foldl (portStep hw) _ = final at past log ⊢
    rw [asCalls.append_iff (past.symm.trans (List.append_assoc _ _ _))]
    intro ran
    -- the whole call in the place of the one that was overtaken
    obtain ⟨next, reply, rest, first, later, replies⟩ := Calls.run_cons ran
    have answer : reply = (point.finish hw w.machine).2 := (List.cons.inj replies).1.symm
    have done : portOperation hw w.machine point.operation = (next, reply) := Except.ok.inj first
    rcases finish_of_overtaken hw w.machine locked with other | ⟨access, access', logged, logged',
      differ⟩
    · rw [done] at other
      exact other answer
    · rw [done] at logged
      have before := clientRun_log later
      rw [logged] at before
      rw [PortWorld.complete, logged'] at log
      have shorter := List.prefix_of_prefix_length_le before log (by simp)
      have equal := shorter.eq_of_length (by simp)
      exact differ (List.cons.inj (List.append_cancel_left equal)).1

/-- Clients that make their calls step by step, in whatever order the steps come, leave the
machine, and are answered, as if every call were made at once when it is completed, exactly if no
call finds its port locked behind its test. -/
theorem portSteps_atomic_iff (hw : Hardware σ) (m : Machine σ) (steps : List (PortStep γ)) :
    AsCalls hw m (steps.foldl (portStep hw) (.start m)) ↔
      Calls.Everywhere (portStepCall hw) (fun w step => ¬ Overtaken w step) (.start m) steps := by
  have start : AsCalls hw m (.start m : PortWorld σ γ) := rfl
  generalize (PortWorld.start m : PortWorld σ γ) = w at start ⊢
  induction steps generalizing w with
  | nil => exact iff_of_true start trivial
  | cons step steps ih =>
    rw [List.foldl_cons, Calls.Everywhere]
    by_cases overtaken : Overtaken w step
    · exact iff_of_false (start.overtaken overtaken steps) fun intime => intime.1 overtaken
    · refine (ih _ (start.step overtaken)).trans ?_
      constructor
      · intro later
        refine ⟨overtaken, fun w' reply done => ?_⟩
        cases done
        exact later
      · intro intime
        exact intime.2 _ () rfl

/-! ## Holders -/

/-- Each port has at most one holder. -/
def HeldOnce (w : PortWorld σ γ) : Prop :=
  ∀ port client client', holds w.past client port = true → holds w.past client' port = true →
    client = client'

/-- A client that unlocks a port holds it. -/
def UnlocksHeld (w : PortWorld σ γ) : PortStep γ → Prop
  | .enter client op => w.point client = none → UnlocksOwn (w.machine, w.past) (client, op)
  | .proceed _ => True

/-- The store of `IO_LockPort` finds the port locked. -/
def StoreOvertaken (w : PortWorld σ γ) : PortStep γ → Prop
  | .enter _ _ => False
  | .proceed client => ∃ port, w.point client = some (.storing port) ∧
      ioReaches w.machine.tables port = false

/-- The lock table agrees with the holders, and a client that is about to lock a port does not
hold it. -/
structure LocksAgree (w : PortWorld σ γ) : Prop where
  held : LocksHeld (w.machine, w.past)
  storing : ∀ client port, w.point client = some (.storing port) →
    port.toNat < maxIoPorts ∧ holds w.past client port = false

theorem locksAgree_start (device : σ) (log : List IoAccess) :
    LocksAgree (.start ⟨ioTablesInit, device, log⟩ : PortWorld σ γ) where
  held := locksHeld_init device log
  storing := by
    intro client port storing
    cases storing

/-- A call that is completed changes nothing for the clients that are about to lock a port. -/
theorem LocksAgree.complete (agree : LocksAgree w) {client : γ} {op : PortOperation}
    {result : Machine σ × PortReply}
    (held : LocksHeld ((w.complete client op result).machine, (w.complete client op result).past)) :
    LocksAgree (w.complete client op result) where
  held := held
  storing := by
    intro other port storing
    by_cases same : other = client
    · rw [same, w.complete_point_self] at storing
      cases storing
    · rw [w.complete_point_of_ne same] at storing
      obtain ⟨valid, free⟩ := agree.storing other port storing
      refine ⟨valid, ?_⟩
      rw [PortWorld.complete, holds_append, holdsAfter_of_ne (Ne.symm same), free]

/-- A call that is completed as the whole call would be made, and is permitted. -/
theorem LocksAgree.whole (agree : LocksAgree w) {client : γ} {op : PortOperation}
    (permitted : UnlocksOwn (w.machine, w.past) (client, op)) :
    LocksAgree (w.complete client op (portOperation hw w.machine op)) := by
  have done : Calls.recorded (clientCall hw) (w.machine, w.past) (client, op) =
      .ok (((portOperation hw w.machine op).1,
        w.past ++ [((client, op), (portOperation hw w.machine op).2)]),
        (portOperation hw w.machine op).2) := rfl
  exact agree.complete (agree.held.step permitted done)

/-- A client that has found a port free does not hold it. -/
theorem LocksAgree.enter (agree : LocksAgree w) {client : γ} {op : PortOperation}
    {point : PortPoint} (tested : op.afterTest w.machine.tables = some point) :
    LocksAgree { w with point := Function.update w.point client (some point) } where
  held := agree.held
  storing := by
    intro other port storing
    by_cases same : other = client
    · subst same
      have here : point = .storing port := by simpa using storing
      subst here
      have reaches : ioReaches w.machine.tables port = true := (afterTest_eq_some_iff.mp tested).2
      obtain ⟨valid, free⟩ := (ioReaches_iff _ port).mp reaches
      refine ⟨valid, Bool.eq_false_iff.mpr fun mine => ?_⟩
      rw [(agree.held.locked_iff port valid).mpr ⟨other, mine⟩] at free
      cases free
    · have before : w.point other = some (.storing port) := by simpa [same] using storing
      exact agree.storing other port before

/-- A step keeps the agreement, unless it is a store to a port that has been locked. -/
theorem LocksAgree.step (agree : LocksAgree w) {step : PortStep γ} (permitted : UnlocksHeld w step)
    (intime : ¬ StoreOvertaken w step) : LocksAgree (portStep hw w step) := by
  cases step with
  | enter client op =>
    unfold portStep
    dsimp only
    split
    · exact agree
    · rename_i idle
      split
      · rename_i point tested
        exact agree.enter tested
      · exact agree.whole (permitted idle)
  | proceed client =>
    cases inCall : w.point client with
    | none =>
      rw [portStep, inCall]
      exact agree
    | some point =>
      rw [portStep, inCall]
      cases point with
      | storing port =>
        have reaches : ioReaches w.machine.tables port = true := by
          rw [← Bool.not_eq_false]
          exact fun locked => intime ⟨port, inCall, locked⟩
        have whole : PortPoint.finish hw w.machine (.storing port) =
            portOperation hw w.machine (.lock port) := finish_of_reaches hw w.machine reaches
        dsimp only
        rw [whole]
        exact agree.whole trivial
      | performing call =>
        refine agree.complete (agree.held.other ?_ fun c p => ?_)
        · exact congrArg IoTables.portLocks (perform_tables hw w.machine call)
        · rw [PortWorld.complete, holds_append]
          rfl

/-- A store to a port that has been locked gives it a second holder. -/
theorem LocksAgree.overtaken (agree : LocksAgree w) {step : PortStep γ}
    (overtaken : StoreOvertaken w step) : ¬ HeldOnce (portStep hw w step) := by
  cases step with
  | enter client op => exact overtaken.elim
  | proceed client =>
    obtain ⟨port, inCall, locked⟩ := overtaken
    obtain ⟨valid, free⟩ := agree.storing client port inCall
    have taken : w.machine.tables.portLocks ⟨port.toNat, valid⟩ = true := by
      rw [← Bool.not_eq_false]
      intro unlocked
      rw [(ioReaches_iff _ port).mpr ⟨valid, unlocked⟩] at locked
      cases locked
    obtain ⟨holder, his⟩ := (agree.held.locked_iff port valid).mp taken
    intro once
    have after (c : γ) : holds (portStep hw w (.proceed client)).past c port =
        (holds w.past c port || decide (client = c)) := by
      rw [portStep, inCall]
      simp [PortWorld.complete, PortPoint.operation, PortPoint.finish, holdsAfter]
    have same : client = holder := by
      apply once port client holder
      · simp [after]
      · simp [after, his]
    rw [← same, free] at his
    cases his

/-- Clients that unlock only ports they hold, and make their calls step by step in any order,
never hold a port together exactly if no store of `IO_LockPort` finds the port locked. -/
theorem portSteps_exclusive_iff (hw : Hardware σ) (device : σ) (log : List IoAccess)
    (steps : List (PortStep γ))
    (permitted : Calls.Everywhere (portStepCall hw) UnlocksHeld
      (.start ⟨ioTablesInit, device, log⟩) steps) :
    Calls.Always (portStepCall hw) HeldOnce (.start ⟨ioTablesInit, device, log⟩) steps ↔
      Calls.Everywhere (portStepCall hw) (fun w step => ¬ StoreOvertaken w step)
        (.start ⟨ioTablesInit, device, log⟩) steps := by
  refine Calls.always_iff_of_everywhere LocksAgree (fun w agree => agree.held.one_holder) ?_ ?_
    (locksAgree_start device log) permitted
  · intro w step w' reply agree permitted intime done
    cases done
    exact agree.step permitted intime
  · intro w step agree overtaken
    exact ⟨_, (), rfl, agree.overtaken (Classical.not_not.mp overtaken)⟩

/-- Two clients that both test the port `0x60` before either of them locks it. -/
def raceSteps : List (PortStep Bool) :=
  [.enter true (.lock 0x60), .enter false (.lock 0x60), .proceed true, .proceed false]

theorem portSteps_exclusive_race :
    ¬ Calls.Always (portStepCall silentHardware) HeldOnce (.start ⟨ioTablesInit, (), []⟩)
      raceSteps := by
  have permitted : Calls.Everywhere (portStepCall silentHardware) UnlocksHeld
      (.start ⟨ioTablesInit, (), []⟩) raceSteps := by
    refine Calls.everywhere_cons rfl (fun _ => trivial) ?_
    refine Calls.everywhere_cons rfl (fun _ => trivial) ?_
    exact Calls.everywhere_cons rfl trivial (Calls.everywhere_cons rfl trivial trivial)
  intro once
  have intime := (portSteps_exclusive_iff silentHardware () [] raceSteps permitted).mp once
  have last := ((intime.2 _ () rfl).2 _ () rfl).2 _ () rfl
  exact last.1 ⟨0x60, rfl, by decide⟩

end Steps

end LamaOS
