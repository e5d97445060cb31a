import LamaOS.Drivers.Common.IoPortLocks
import LamaOS.Misc.Calls

/-!
# Clients of the port layer

`port_locks` says that a port is taken and not by whom. Clients that give back only what they
took can share it all the same: who holds a port is then a function of the calls made so far,
and this module shows that the table agrees with it after any calls of any clients in any
order. The record of the lock inside a port's configuration is another matter: no function
but `IO_InitPort` writes it, and it copies what the caller put there.
-/

namespace LamaOS

/-- A call of a function of the port layer. -/
inductive PortOperation where
  | initPort (config : Option IoConfigPtr)
  | lock (port : RtIoPort)
  | unlock (port : RtIoPort)
  | getConfig (port : RtIoPort)
  | setMode (port : RtIoPort) (mode : IoPortMode)
  | setAccessType (port : RtIoPort) (accessType : IoPortAccessType)
  | access (call : PortCall)

/-- The answer to a call. What an access returns is in the log. -/
inductive PortReply where
  | code (code : RtErrorCode)
  | config (config : Option IoPortConfig)
  | accessed
  deriving DecidableEq, Repr

section Operations

variable {σ : Type} (hw : Hardware σ)

/-- The machine after a call that works on the tables. -/
def Machine.after (m : Machine σ) (result : RtErrorCode × IoTables) : Machine σ × PortReply :=
  ({ m with tables := result.2 }, .code result.1)

/-- One call. -/
def portOperation (m : Machine σ) : PortOperation → Machine σ × PortReply
  | .initPort config => m.after (ioInitPort config m.tables)
  | .lock port => m.after (ioLockPort port m.tables)
  | .unlock port => m.after (ioUnlockPort port m.tables)
  | .getConfig port => (m, .config (ioGetPortConfig port m.tables))
  | .setMode port mode => m.after (ioSetPortMode port mode m.tables)
  | .setAccessType port accessType => m.after (ioSetPortAccessType port accessType m.tables)
  | .access call => (call.exec hw m, .accessed)

/-- One call as a step: no call faults. -/
def portLayerCall (m : Machine σ) (op : PortOperation) : Except Empty (Machine σ × PortReply) :=
  .ok (portOperation hw m op)

/-- What the call does to the lock table, if it is one that does. -/
def PortOperation.lockCall : PortOperation → Option LockCall
  | .lock port => some (.lock port)
  | .unlock port => some (.unlock port)
  | .initPort _ | .getConfig _ | .setMode _ _ | .setAccessType _ _ | .access _ => none

@[simp] theorem portCall_exec_tables (m : Machine σ) (call : PortCall) :
    (call.exec hw m).tables = m.tables := by
  cases call with
  | in8 port => exact ioIn_tables hw 8 port m
  | out8 port value => exact ioOut_tables hw 8 port value m
  | in16 port => exact ioIn_tables hw 16 port m
  | out16 port value => exact ioOut_tables hw 16 port value m
  | in32 port => exact ioIn_tables hw 32 port m
  | out32 port value => exact ioOut_tables hw 32 port value m

theorem ioInitPort_portLocks (config : Option IoConfigPtr) (tables : IoTables) :
    (ioInitPort config tables).2.portLocks = tables.portLocks := by
  cases config with
  | none => rfl
  | some config => unfold ioInitPort; dsimp only; split <;> rfl

theorem ioSetConfig_portLocks (change : IoPortConfig → IoPortConfig) (port : RtIoPort)
    (tables : IoTables) : (ioSetConfig change port tables).2.portLocks = tables.portLocks := by
  unfold ioSetConfig; split <;> rfl

/-- The lock of every port after a call. -/
theorem portOperation_portLocks (m : Machine σ) (op : PortOperation) (port : Fin maxIoPorts) :
    (portOperation hw m op).1.tables.portLocks port =
      op.lockCall.elim (m.tables.portLocks port)
        (LockCall.marks port.val (m.tables.portLocks port)) := by
  cases op with
  | initPort config => exact congrFun (ioInitPort_portLocks config m.tables) port
  | lock q => exact lockCall_exec_portLocks (.lock q) m.tables port
  | unlock q => exact lockCall_exec_portLocks (.unlock q) m.tables port
  | getConfig q => rfl
  | setMode q mode => exact congrFun (ioSetConfig_portLocks _ q m.tables) port
  | setAccessType q accessType => exact congrFun (ioSetConfig_portLocks _ q m.tables) port
  | access call =>
    exact congrFun (congrArg IoTables.portLocks (portCall_exec_tables hw m call)) port

/-- Only lock and unlock calls write the lock table. -/
theorem portOperation_portLocks_other (m : Machine σ) {op : PortOperation}
    (other : op.lockCall = none) :
    (portOperation hw m op).1.tables.portLocks = m.tables.portLocks := by
  funext port
  rw [portOperation_portLocks, other]
  rfl

theorem ioInitPort_failed (config : Option IoConfigPtr) (tables : IoTables)
    (failed : (ioInitPort config tables).1 ≠ .success) : (ioInitPort config tables).2 = tables := by
  cases config with
  | none => rfl
  | some config =>
    simp only [ioInitPort] at failed ⊢
    split at failed
    · exact absurd rfl failed
    · rename_i invalid
      rw [dif_neg invalid]

theorem ioLockPort_failed (port : RtIoPort) (tables : IoTables)
    (failed : (ioLockPort port tables).1 ≠ .success) : (ioLockPort port tables).2 = tables := by
  simp only [ioLockPort] at failed ⊢
  split at failed
  · rename_i valid
    rw [dif_pos valid]
    split at failed
    · rename_i held
      rw [if_pos held]
    · exact absurd rfl failed
  · rename_i invalid
    rw [dif_neg invalid]

theorem ioUnlockPort_failed (port : RtIoPort) (tables : IoTables)
    (failed : (ioUnlockPort port tables).1 ≠ .success) :
    (ioUnlockPort port tables).2 = tables := by
  simp only [ioUnlockPort] at failed ⊢
  split at failed
  · exact absurd rfl failed
  · rename_i invalid
    rw [dif_neg invalid]

theorem ioSetConfig_failed (change : IoPortConfig → IoPortConfig) (port : RtIoPort)
    (tables : IoTables) (failed : (ioSetConfig change port tables).1 ≠ .success) :
    (ioSetConfig change port tables).2 = tables := by
  simp only [ioSetConfig] at failed ⊢
  split at failed
  · exact absurd rfl failed
  · rename_i invalid
    rw [dif_neg invalid]

/-- Only a call that is answered with `RT_SUCCESS` changes a table. -/
theorem portOperation_failed (m : Machine σ) (op : PortOperation)
    (failed : (portOperation hw m op).2 ≠ .code .success) :
    (portOperation hw m op).1.tables = m.tables := by
  have code {err : RtErrorCode} (other : PortReply.code err ≠ .code .success) :
      err ≠ .success := fun same => other (congrArg _ same)
  cases op with
  | initPort config => exact ioInitPort_failed config m.tables (code failed)
  | lock port => exact ioLockPort_failed port m.tables (code failed)
  | unlock port => exact ioUnlockPort_failed port m.tables (code failed)
  | getConfig port => rfl
  | setMode port mode => exact ioSetConfig_failed _ port m.tables (code failed)
  | setAccessType port accessType => exact ioSetConfig_failed _ port m.tables (code failed)
  | access call => exact portCall_exec_tables hw m call

/-- A lock call succeeds at a valid port that is not locked. -/
theorem portOperation_lock_success (m : Machine σ) (port : RtIoPort) :
    (portOperation hw m (.lock port)).2 = .code .success ↔
      ∃ h : port.toNat < maxIoPorts, m.tables.portLocks ⟨port.toNat, h⟩ = false := by
  simp only [portOperation, Machine.after, ioLockPort, PortReply.code.injEq]
  by_cases valid : port.toNat < maxIoPorts
  · rw [dif_pos valid]
    cases held : m.tables.portLocks ⟨port.toNat, valid⟩ with
    | true => simp [valid, held]
    | false => simp [valid, held]
  · rw [dif_neg valid]
    simp [valid]

end Operations

/-! ## Holders -/

section Clients

variable {σ γ : Type} [DecidableEq γ] (hw : Hardware σ)

/-- A call of a client, and the answer it got. -/
abbrev PortEvent (γ : Type) := (γ × PortOperation) × PortReply

/-- One call of a client. -/
def clientCall (m : Machine σ) (call : γ × PortOperation) :
    Except Empty (Machine σ × PortReply) :=
  portLayerCall hw m call.2

/-- Whether a client holds a port after an event. -/
def holdsAfter (client : γ) (port : RtIoPort) (held : Bool) : PortEvent γ → Bool
  | ((c, .lock q), .code .success) => held || decide (c = client ∧ q = port)
  | ((c, .unlock q), .code .success) => held && !decide (c = client ∧ q = port)
  | _ => held

/-- The client has locked the port, and not unlocked it since. -/
def holds (past : List (PortEvent γ)) (client : γ) (port : RtIoPort) : Bool :=
  past.foldl (holdsAfter client port) false

@[simp] theorem holds_append (past : List (PortEvent γ)) (event : PortEvent γ) (client : γ)
    (port : RtIoPort) :
    holds (past ++ [event]) client port =
      holdsAfter client port (holds past client port) event := by
  simp [holds]

/-- An unlock call is made by a client that holds the port. -/
def UnlocksOwn (world : Machine σ × List (PortEvent γ)) : γ × PortOperation → Prop
  | (client, .unlock port) => holds world.2 client port = true
  | _ => True

/-- The lock table agrees with the record of the calls: a port has at most one holder, and is
locked exactly when it has one. -/
structure LocksHeld (world : Machine σ × List (PortEvent γ)) : Prop where
  one_holder : ∀ port client client', holds world.2 client port = true →
    holds world.2 client' port = true → client = client'
  locked_iff : ∀ (port : RtIoPort) (h : port.toNat < maxIoPorts),
    world.1.tables.portLocks ⟨port.toNat, h⟩ = true ↔ ∃ client, holds world.2 client port = true

/-- A call that is not a successful lock or unlock call passes a port on to nobody. -/
theorem holdsAfter_of_failed (client : γ) (port : RtIoPort) (held : Bool)
    (call : γ × PortOperation) {reply : PortReply} (failed : reply ≠ .code .success) :
    holdsAfter client port held (call, reply) = held := by
  unfold holdsAfter
  split
  · rename_i locked
    exact absurd (congrArg Prod.snd locked) failed
  · rename_i unlocked
    exact absurd (congrArg Prod.snd unlocked) failed
  · rfl

/-- A call of another client passes no port on to this one. -/
theorem holdsAfter_of_ne {client client' : γ} (other : client ≠ client') (port : RtIoPort)
    (held : Bool) (op : PortOperation) (reply : PortReply) :
    holdsAfter client' port held ((client, op), reply) = held := by
  unfold holdsAfter
  split
  · rename_i locked
    cases locked
    simp [other]
  · rename_i unlocked
    cases unlocked
    simp [other]
  · rfl

theorem locksHeld_init (device : σ) (log : List IoAccess) :
    LocksHeld ((⟨ioTablesInit, device, log⟩, []) : Machine σ × List (PortEvent γ)) where
  one_holder := fun _ _ _ held => absurd held (by simp [holds])
  locked_iff := fun _ _ => by simp [holds, ioTablesInit]

variable {hw} {world world' : Machine σ × List (PortEvent γ)} {client : γ}

/-- A lock call that succeeds makes its client the one holder of a port nobody held. -/
theorem LocksHeld.lock (held : LocksHeld world) {port : RtIoPort}
    (success : (portOperation hw world.1 (.lock port)).2 = .code .success)
    (tables : world'.1.tables = (portOperation hw world.1 (.lock port)).1.tables)
    (past : world'.2 = world.2 ++ [((client, .lock port), .code .success)]) :
    LocksHeld world' := by
  obtain ⟨valid, free⟩ := (portOperation_lock_success hw world.1 port).mp success
  have nobody (c : γ) : holds world.2 c port = false := by
    cases taken : holds world.2 c port with
    | false => rfl
    | true =>
      have locked := (held.locked_iff port valid).mpr ⟨c, taken⟩
      rw [free] at locked
      cases locked
  have after (c : γ) (p : RtIoPort) :
      holds world'.2 c p = true ↔ holds world.2 c p = true ∨ client = c ∧ port = p := by
    rw [past, holds_append]
    simp [holdsAfter]
  constructor
  · intro p c c' mine yours
    rw [after] at mine yours
    rcases mine with mine | ⟨rfl, rfl⟩
    · rcases yours with yours | ⟨rfl, rfl⟩
      · exact held.one_holder p c c' mine yours
      · rw [nobody c] at mine; cases mine
    · rcases yours with yours | ⟨rfl, -⟩
      · rw [nobody c'] at yours; cases yours
      · rfl
  · intro p h
    rw [tables, portOperation_portLocks]
    simp only [PortOperation.lockCall, Option.elim_some, LockCall.marks, after]
    by_cases same : port = p
    · subst same
      simp
    · have other : port.toNat ≠ p.toNat := fun e => same (BitVec.eq_of_toNat_eq e)
      rw [if_neg other, held.locked_iff p h]
      simp [same]

/-- An unlock call by the holder leaves its port without one. -/
theorem LocksHeld.unlock (held : LocksHeld world) {port : RtIoPort}
    (own : holds world.2 client port = true)
    (tables : world'.1.tables = (portOperation hw world.1 (.unlock port)).1.tables)
    (past : world'.2 = world.2 ++ [((client, .unlock port), .code .success)]) :
    LocksHeld world' := by
  have after (c : γ) (p : RtIoPort) :
      holds world'.2 c p = true ↔ holds world.2 c p = true ∧ ¬ (client = c ∧ port = p) := by
    rw [past, holds_append]
    simp only [holdsAfter, Bool.and_eq_true, Bool.not_eq_true', decide_eq_false_iff_not]
  constructor
  · intro p c c' mine yours
    exact held.one_holder p c c' ((after c p).mp mine).1 ((after c' p).mp yours).1
  · intro p h
    rw [tables, portOperation_portLocks]
    simp only [PortOperation.lockCall, Option.elim_some, LockCall.marks, after]
    by_cases same : port = p
    · subst same
      rw [if_pos rfl]
      constructor
      · intro locked
        cases locked
      · rintro ⟨c, mine, other⟩
        exact absurd ⟨held.one_holder port client c own mine, rfl⟩ other
    · have other : port.toNat ≠ p.toNat := fun e => same (BitVec.eq_of_toNat_eq e)
      rw [if_neg other, held.locked_iff p h]
      simp [same]

/-- A call that neither locks nor unlocks a port leaves the holders. -/
theorem LocksHeld.other (held : LocksHeld world)
    (locks : world'.1.tables.portLocks = world.1.tables.portLocks)
    (same : ∀ c p, holds world'.2 c p = holds world.2 c p) : LocksHeld world' := by
  constructor
  · intro p c c' mine yours
    rw [same] at mine yours
    exact held.one_holder p c c' mine yours
  · intro p h
    rw [locks, held.locked_iff p h]
    simp only [same]

/-- A call that is permitted keeps the agreement. -/
theorem LocksHeld.step (held : LocksHeld world) {call : γ × PortOperation} {reply : PortReply}
    (permitted : UnlocksOwn world call)
    (done : Calls.recorded (clientCall hw) world call = .ok (world', reply)) :
    LocksHeld world' := by
  obtain ⟨carried, past⟩ := Calls.recorded_eq_ok done
  obtain ⟨client, op⟩ := call
  have result : portOperation hw world.1 op = (world'.1, reply) := Except.ok.inj carried
  have tables : world'.1.tables = (portOperation hw world.1 op).1.tables := by rw [result]
  have answer : (portOperation hw world.1 op).2 = reply := by rw [result]
  by_cases success : reply = .code .success
  · subst success
    cases op with
    | lock port => exact held.lock answer tables past
    | unlock port => exact held.unlock permitted tables past
    | initPort _ | setMode _ _ | setAccessType _ _ =>
      refine held.other ?_ fun c p => by rw [past, holds_append]; rfl
      rw [tables, portOperation_portLocks_other hw world.1 rfl]
    | getConfig port => cases answer
    | access call => cases answer
  · refine held.other ?_ fun c p => ?_
    · rw [tables, portOperation_failed hw world.1 op (answer ▸ success)]
    · rw [past, holds_append]
      exact holdsAfter_of_failed c p _ _ success

/-- What the clients rely on at any moment. -/
structure PortsExclusive (hw : Hardware σ) (world : Machine σ × List (PortEvent γ)) : Prop where
  one_holder : ∀ port client client', holds world.2 client port = true →
    holds world.2 client' port = true → client = client'
  locked_iff : ∀ (port : RtIoPort) (h : port.toNat < maxIoPorts),
    world.1.tables.portLocks ⟨port.toNat, h⟩ = true ↔ ∃ client, holds world.2 client port = true
  lock_success_iff : ∀ port, (portOperation hw world.1 (.lock port)).2 = .code .success ↔
    port.toNat < maxIoPorts ∧ ¬ ∃ client, holds world.2 client port = true
  failed : ∀ op, (portOperation hw world.1 op).2 ≠ .code .success →
    (portOperation hw world.1 op).1.tables = world.1.tables
  guarded : ∀ client (call : PortCall), holds world.2 client call.port = true →
    ¬ call.ReachesHardware hw world.1

theorem LocksHeld.exclusive (hw : Hardware σ) (held : LocksHeld world) :
    PortsExclusive hw world where
  one_holder := held.one_holder
  locked_iff := held.locked_iff
  lock_success_iff := by
    intro port
    rw [portOperation_lock_success]
    constructor
    · rintro ⟨valid, free⟩
      refine ⟨valid, fun taken => ?_⟩
      rw [(held.locked_iff port valid).mpr taken] at free
      cases free
    · rintro ⟨valid, nobody⟩
      refine ⟨valid, Bool.eq_false_iff.mpr fun locked => nobody ?_⟩
      exact (held.locked_iff port valid).mp locked
  failed := portOperation_failed hw world.1
  guarded := by
    intro client call mine reaches
    rw [portCall_reachesHardware_iff, ioReaches_iff] at reaches
    obtain ⟨valid, free⟩ := reaches
    rw [(held.locked_iff call.port valid).mpr ⟨client, mine⟩] at free
    cases free

/-- Port locks give mutual exclusion. Over every run of calls of any clients, in any order, in
which a client unlocks only ports it holds, at every moment each port has at most one holder,
is locked exactly when it has one, can be locked exactly when it is valid and has none, and no
access to it reaches the hardware while it has one; and a call that fails changes no table. -/
theorem portLocks_exclusive (hw : Hardware σ) (device : σ) (log : List IoAccess)
    (calls : List (γ × PortOperation))
    (permitted : Calls.Everywhere (Calls.recorded (clientCall hw)) UnlocksOwn
      (⟨ioTablesInit, device, log⟩, []) calls) :
    Calls.Always (Calls.recorded (clientCall hw)) (PortsExclusive hw)
      (⟨ioTablesInit, device, log⟩, []) calls := by
  have always := Calls.always_of_everywhere
    (fun _ _ _ _ held here done => LocksHeld.step held here done)
    (locksHeld_init device log) permitted
  exact always.imp fun _ held => held.exclusive hw

/-- Two clients take turns at port `0x60`; the second one tries to lock and to read it while
the first one holds it. -/
theorem portLocks_exclusive_two_clients :
    Calls.Always (Calls.recorded (clientCall silentHardware)) (PortsExclusive silentHardware)
      (⟨ioTablesInit, (), []⟩, [])
      [(true, .lock 0x60), (false, .lock 0x60), (false, .access (.in8 0x60)),
        (true, .unlock 0x60), (false, .lock 0x60)] := by
  apply portLocks_exclusive
  refine Calls.everywhere_cons rfl trivial ?_
  refine Calls.everywhere_cons rfl trivial ?_
  refine Calls.everywhere_cons rfl trivial ?_
  refine Calls.everywhere_cons rfl ?_ ?_
  · change holds _ true 0x60 = true
    decide
  · exact Calls.everywhere_cons rfl trivial trivial

end Clients

/-! ## The lock in a port's configuration -/

section Configurations

variable {σ : Type} (hw : Hardware σ)

/-- The `locked` field of the configuration `IO_GetPortConfig` answers with is, for every
port, the flag of the lock table. -/
def LockRecordsAgree (m : Machine σ) : Prop :=
  ∀ (port : RtIoPort) (h : port.toNat < maxIoPorts),
    (ioGetPortConfig port m.tables).map IoPortConfig.locked =
      some (m.tables.portLocks ⟨port.toNat, h⟩)

/-- A call that turns neither record of a lock on: it is not a lock call of a valid port, and
not one that stores a configuration of the caller's marked as locked. -/
def PortOperation.LeavesOpen : PortOperation → Prop
  | .initPort (some (.object config)) => config.base.toNat < maxIoPorts → config.locked = false
  | .lock port => maxIoPorts ≤ port.toNat
  -- an entry of `port_configs` is marked as locked only after a call that is not of this kind
  | .initPort (some (.entry _)) | .initPort none | .unlock _ | .getConfig _ | .setMode _ _
  | .setAccessType _ _ | .access _ => True

/-- What a call does to the `locked` field of one port's configuration. -/
def PortOperation.marksConfig (tables : IoTables) (port : Nat) (locked : Bool) :
    PortOperation → Bool
  | .initPort (some config) =>
    if (tables.configAt config).base.toNat = port then (tables.configAt config).locked else locked
  | _ => locked

theorem ioInitPort_locked (config : IoConfigPtr) (tables : IoTables) (port : Fin maxIoPorts) :
    ((ioInitPort (some config) tables).2.portConfigs port).locked =
      if (tables.configAt config).base.toNat = port then (tables.configAt config).locked
      else (tables.portConfigs port).locked := by
  simp only [ioInitPort]
  generalize tables.configAt config = config
  by_cases valid : config.base.toNat < maxIoPorts
  · rw [dif_pos valid]
    by_cases same : config.base.toNat = port
    · obtain rfl : (⟨config.base.toNat, valid⟩ : Fin maxIoPorts) = port := Fin.ext same
      simp
    · have other : port ≠ ⟨config.base.toNat, valid⟩ := fun e => same (congrArg Fin.val e).symm
      rw [if_neg same]
      exact congrArg IoPortConfig.locked (Function.update_of_ne other _ _)
  · have other : config.base.toNat ≠ port := fun e => valid (e ▸ port.isLt)
    rw [dif_neg valid, if_neg other]

/-- A change of the configuration that keeps the field keeps it at every port. -/
theorem ioSetConfig_locked (change : IoPortConfig → IoPortConfig)
    (keeps : ∀ config, (change config).locked = config.locked) (q : RtIoPort)
    (tables : IoTables) (port : Fin maxIoPorts) :
    ((ioSetConfig change q tables).2.portConfigs port).locked =
      (tables.portConfigs port).locked := by
  simp only [ioSetConfig]
  by_cases valid : q.toNat < maxIoPorts
  · rw [dif_pos valid]
    by_cases same : port = ⟨q.toNat, valid⟩
    · subst same
      simp [keeps]
    · exact congrArg IoPortConfig.locked (Function.update_of_ne same _ _)
  · rw [dif_neg valid]

theorem ioLockPort_portConfigs (port : RtIoPort) (tables : IoTables) :
    (ioLockPort port tables).2.portConfigs = tables.portConfigs := by
  unfold ioLockPort; split
  · split <;> rfl
  · rfl

theorem ioUnlockPort_portConfigs (port : RtIoPort) (tables : IoTables) :
    (ioUnlockPort port tables).2.portConfigs = tables.portConfigs := by
  unfold ioUnlockPort; split <;> rfl

/-- The `locked` field of every port's configuration after a call. -/
theorem portOperation_locked (m : Machine σ) (op : PortOperation) (port : Fin maxIoPorts) :
    ((portOperation hw m op).1.tables.portConfigs port).locked =
      op.marksConfig m.tables port (m.tables.portConfigs port).locked := by
  cases op with
  | initPort config =>
    cases config with
    | none => rfl
    | some config => exact ioInitPort_locked config m.tables port
  | lock q =>
    exact congrArg IoPortConfig.locked (congrFun (ioLockPort_portConfigs q m.tables) port)
  | unlock q =>
    exact congrArg IoPortConfig.locked (congrFun (ioUnlockPort_portConfigs q m.tables) port)
  | getConfig q => rfl
  | setMode q mode =>
    exact ioSetConfig_locked (fun config => { config with mode }) (fun _ => rfl) q m.tables port
  | setAccessType q accessType =>
    exact ioSetConfig_locked (fun config => { config with accessType }) (fun _ => rfl) q m.tables
      port
  | access call =>
    have same := congrArg IoTables.portConfigs (portCall_exec_tables hw m call)
    exact congrArg IoPortConfig.locked (congrFun same port)

/-- Both records of every lock are off. -/
structure AllOpen (m : Machine σ) : Prop where
  locks : ∀ port, m.tables.portLocks port = false
  configs : ∀ port, (m.tables.portConfigs port).locked = false

theorem lockRecordsAgree_iff (m : Machine σ) :
    LockRecordsAgree m ↔
      ∀ port, (m.tables.portConfigs port).locked = m.tables.portLocks port := by
  constructor
  · intro agree port
    have small : port.val < 2 ^ 32 := Nat.lt_of_lt_of_le port.isLt (by decide)
    have named : (BitVec.ofNat 32 port.val).toNat = port.val := by
      rw [BitVec.toNat_ofNat, Nat.mod_eq_of_lt small]
    have valid : (BitVec.ofNat 32 port.val).toNat < maxIoPorts := by
      rw [named]
      exact port.isLt
    have here := agree (BitVec.ofNat 32 port.val) valid
    rw [ioGetPortConfig, dif_pos valid] at here
    obtain same : (⟨(BitVec.ofNat 32 port.val).toNat, valid⟩ : Fin maxIoPorts) = port :=
      Fin.ext named
    rw [same] at here
    exact Option.some.inj here
  · intro agree port h
    rw [ioGetPortConfig, dif_pos h]
    exact congrArg some (agree ⟨port.toNat, h⟩)

variable {hw} {m : Machine σ} {op : PortOperation}

theorem AllOpen.step (opened : AllOpen m) (leaves : op.LeavesOpen) :
    AllOpen (portOperation hw m op).1 := by
  constructor
  · intro port
    rw [portOperation_portLocks, opened.locks]
    cases op with
    | lock q =>
      have other : q.toNat ≠ port := fun e => Nat.not_le.mpr (e ▸ port.isLt) leaves
      simp [PortOperation.lockCall, LockCall.marks, other]
    | unlock q => simp [PortOperation.lockCall, LockCall.marks]
    | initPort _ | getConfig _ | setMode _ _ | setAccessType _ _ | access _ => rfl
  · intro port
    rw [portOperation_locked, opened.configs]
    cases op with
    | initPort config =>
      cases config with
      | none => rfl
      | some config =>
        simp only [PortOperation.marksConfig]
        split
        · rename_i same
          cases config with
          | object config => exact leaves (same ▸ port.isLt)
          | entry q => exact opened.configs q
        · rfl
    | lock _ | unlock _ | getConfig _ | setMode _ _ | setAccessType _ _ | access _ => rfl

/-- A call that turns one of the records of a lock on does not turn the other one on. -/
theorem AllOpen.breaks (opened : AllOpen m) (turns : ¬ op.LeavesOpen) :
    ¬ LockRecordsAgree (portOperation hw m op).1 := by
  rw [lockRecordsAgree_iff]
  intro agree
  cases op with
  | lock q =>
    have valid : q.toNat < maxIoPorts := Nat.lt_of_not_le turns
    have here := agree ⟨q.toNat, valid⟩
    rw [portOperation_portLocks, portOperation_locked, opened.configs, opened.locks] at here
    simp [PortOperation.lockCall, LockCall.marks, PortOperation.marksConfig] at here
  | initPort config =>
    cases config with
    | none => exact turns trivial
    | some config =>
      cases config with
      | entry q => exact turns trivial
      | object config =>
        have marked : ∃ _ : config.base.toNat < maxIoPorts, config.locked = true := by
          simpa [PortOperation.LeavesOpen] using turns
        obtain ⟨valid, locked⟩ := marked
        have here := agree ⟨config.base.toNat, valid⟩
        rw [portOperation_portLocks, portOperation_locked, opened.configs, opened.locks] at here
        simp [PortOperation.lockCall, PortOperation.marksConfig, IoTables.configAt, locked] at here
  | unlock _ | getConfig _ | setMode _ _ | setAccessType _ _ | access _ => exact turns trivial

theorem allOpen_init (device : σ) (log : List IoAccess) : AllOpen ⟨ioTablesInit, device, log⟩ where
  locks := fun _ => rfl
  configs := fun _ => rfl

theorem AllOpen.agree (opened : AllOpen m) : LockRecordsAgree m := by
  rw [lockRecordsAgree_iff]
  intro port
  rw [opened.configs, opened.locks]

/-- The two records of every port's lock agree in all the states of a run exactly when no call
of the run turns one of them on: `IO_LockPort` sets the flag of the lock table alone, and
`IO_InitPort` stores the `locked` field it is handed alone. -/
theorem lockRecords_agree_iff (hw : Hardware σ) (device : σ) (log : List IoAccess)
    (calls : List PortOperation) :
    Calls.Always (portLayerCall hw) LockRecordsAgree ⟨ioTablesInit, device, log⟩ calls ↔
      ∀ op ∈ calls, op.LeavesOpen := by
  have start := allOpen_init device log
  have carried :
      Calls.Always (portLayerCall hw) LockRecordsAgree ⟨ioTablesInit, device, log⟩ calls ↔
      Calls.Everywhere (portLayerCall hw) (fun _ => PortOperation.LeavesOpen)
        ⟨ioTablesInit, device, log⟩ calls := by
    refine Calls.always_iff AllOpen ?_ ?_ start start.agree calls
    · intro m op m' reply opened _ leaves done
      obtain ⟨rfl, -⟩ := Prod.mk.inj (Except.ok.inj done)
      have opened' : AllOpen (portOperation hw m op).1 := opened.step leaves
      exact ⟨opened', opened'.agree⟩
    · intro m op opened _ turns
      exact ⟨_, _, rfl, opened.breaks turns⟩
  rw [carried]
  exact Calls.everywhere_iff_forall fun m op => ⟨_, _, rfl⟩

/-- A port that was locked, and whose configuration says that it is not. -/
theorem lockRecords_disagree_lock :
    ¬ Calls.Always (portLayerCall silentHardware) LockRecordsAgree ⟨ioTablesInit, (), []⟩
      [.lock 0x60] := by
  intro always
  have agree := (always.2 _ _ rfl).here
  have here := agree 0x60 (by decide)
  exact absurd here (by decide)

end Configurations

end LamaOS
