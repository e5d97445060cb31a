import LamaOS.Drivers.Mouse.MouseCommands
import LamaOS.Misc.Traces

/-!
# Writing into a full controller

`Mouse_WaitInput` polls the status register until the controller has room for a byte. It ensures
what it is for, and no function of the driver calls it: the commands write their first byte
without a look at the status, and their second byte right behind the first.
-/

namespace LamaOS

/-- `STATUS_INPUT_FULL`, like `STATUS_OUTPUT_FULL` one bit of the status register. -/
def statusInputFull (inputFull : Fin 8) : RtU8 := 1 <<< inputFull.val

/-- `Mouse_WaitInput`. -/
def mouseWaitInput {σ : Type} (hw : Hardware σ) (inputFull : Fin 8) (m : Machine σ) :
    Bool × Machine σ :=
  mousePoll hw (fun status => status &&& statusInputFull inputFull = 0) 100000 m

/-! ## Reading the records -/

/-- A write to one of the two registers. -/
def ControllerWrite (access : IoAccess) : Prop :=
  access.direction = .output ∧
    (access.port = mouseCommandRegister ∨ access.port = mouseDataRegister)

/-- A read of the status register that shows room for a byte. -/
structure ShowsInputClear (inputFull : Fin 8) (access : IoAccess) : Prop where
  input : access.direction = .input
  port : access.port = mouseStatusRegister
  clear : BitVec.ofNat 8 access.value &&& statusInputFull inputFull = 0

/-- A status read has shown room for a byte, and nothing was written since. -/
def InputClear (inputFull : Fin 8) (past : List IoAccess) : Prop :=
  ∃ earlier status later, past = earlier ++ status :: later ∧ ShowsInputClear inputFull status ∧
    ∀ access ∈ later, ¬ ControllerWrite access

/-- What is allowed behind the records so far: a write only where there is room for it. -/
def WrittenWhenClear (inputFull : Fin 8) (past : List IoAccess) (access : IoAccess) : Prop :=
  ControllerWrite access → InputClear inputFull past

variable {inputFull : Fin 8} {past trace : List IoAccess} {access : IoAccess}

theorem not_controllerWrite_of_input (input : access.direction = .input) :
    ¬ ControllerWrite access := by
  intro write
  have output := write.1
  rw [input] at output
  cases output

/-- Right behind a write nothing shows room for the next one. -/
theorem not_inputClear_write (write : ControllerWrite access) :
    ¬ InputClear inputFull (past ++ [access]) := by
  intro shown
  rcases shown with ⟨earlier, status, later, place, clear, unwritten⟩
  have last : access ∈ status :: later := by
    have ends := congrArg List.getLast? place
    rw [List.getLast?_concat, List.getLast?_append_of_ne_nil _ (List.cons_ne_nil _ _)] at ends
    exact List.mem_of_getLast? ends.symm
  rcases List.mem_cons.mp last with same | mem
  · apply not_controllerWrite_of_input clear.input
    rw [← same]
    exact write
  · exact unwritten access mem write

/-- Reads are always allowed. -/
theorem follows_reads (reads : ∀ access ∈ trace, access.direction = .input) :
    Traces.Follows (WrittenWhenClear inputFull) past trace := by
  induction trace generalizing past with
  | nil => trivial
  | cons access trace ih =>
    have first := reads access List.mem_cons_self
    constructor
    · intro write
      exact absurd write (not_controllerWrite_of_input first)
    · apply ih
      intro other mem
      exact reads other (List.mem_cons_of_mem _ mem)

/-- One write with reads behind it. -/
theorem follows_write_iff (write : ControllerWrite access)
    (reads : ∀ access ∈ trace, access.direction = .input) :
    Traces.Follows (WrittenWhenClear inputFull) past (access :: trace) ↔
      InputClear inputFull past := by
  constructor
  · intro follows
    exact follows.1 write
  · intro clear
    exact ⟨fun _ => clear, follows_reads reads⟩

/-- Two writes in a row. -/
theorem not_follows_two_writes {access' : IoAccess} (write : ControllerWrite access)
    (write' : ControllerWrite access') :
    ¬ Traces.Follows (WrittenWhenClear inputFull) past (access :: access' :: trace) := by
  intro follows
  exact not_inputClear_write write (follows.2.1 write')

/-! ## The records of a command -/

section Records

variable {σ : Type} (hw : Hardware σ) (outputFull : Fin 8)

/-- Between the two machines there were reads only. -/
def OnlyReads (m m' : Machine σ) : Prop :=
  ∃ trace, m'.log = m.log ++ trace ∧ ∀ access ∈ trace, access.direction = .input

theorem OnlyReads.trans {m m' m'' : Machine σ} (first : OnlyReads m m')
    (second : OnlyReads m' m'') : OnlyReads m m'' := by
  rcases first with ⟨trace, log, reads⟩
  rcases second with ⟨trace', log', reads'⟩
  refine ⟨trace ++ trace', by rw [log', log, List.append_assoc], ?_⟩
  rw [List.forall_mem_append]
  exact ⟨reads, reads'⟩

theorem OnlyReads.extends {m m' : Machine σ} (reads : OnlyReads m m') : m.log <+: m'.log := by
  rcases reads with ⟨trace, log, -⟩
  rw [log]
  exact List.prefix_append _ _

theorem ioIn8_onlyReads (port : RtIoPort) (m : Machine σ) :
    OnlyReads m (ioIn8 hw port m).2 := by
  rcases ioIn_log hw 8 port m with ⟨value, log⟩
  refine ⟨_, log, ?_⟩
  intro access mem
  rw [List.mem_singleton.mp mem]

theorem onlyReads_of_reads {m m' : Machine σ} (reads : RegisterReads hw m m') : OnlyReads m m' := by
  induction reads with
  | refl => exact ⟨[], (List.append_nil _).symm, fun _ mem => absurd mem List.not_mem_nil⟩
  | tail _ read ih =>
    cases read with
    | read port => exact ih.trans (ioIn8_onlyReads hw port _)

theorem mouseWaitAck_onlyReads (m : Machine σ) :
    OnlyReads m (mouseWaitAck hw outputFull m).2 :=
  onlyReads_of_reads hw (mouseWaitAck_reads hw outputFull m)

theorem ioOut8_extends (port : RtIoPort) (value : RtU8) (m : Machine σ) :
    m.log <+: (ioOut8 hw port value m).log := by
  rw [ioOut8, ioOut_log]
  exact List.prefix_append _ _

/-- The record of a read holds the value that was read. -/
theorem ioIn8_log_value (port : RtIoPort) (m : Machine σ) :
    (ioIn8 hw port m).2.log = m.log ++
      [⟨.input, 8, port, (ioIn8 hw port m).1.toNat, ioReaches m.tables port⟩] := by
  cases reached : ioReaches m.tables port with
  | true => rw [ioIn8, ioIn_of_reaches hw 8 port m reached]
  | false =>
    rw [ioIn8, ioIn_of_refused hw 8 port m reached]
    rfl

theorem mousePoll_inputClear (timeout : Nat) (m : Machine σ)
    (ready : (mousePoll hw (fun status => status &&& statusInputFull inputFull = 0) timeout
      m).1 = true) :
    InputClear inputFull
      (mousePoll hw (fun status => status &&& statusInputFull inputFull = 0) timeout m).2.log := by
  induction timeout generalizing m with
  | zero => cases ready
  | succ timeout ih =>
    rw [mousePoll] at ready ⊢
    split at ready
    · rename_i clear
      rw [if_pos clear, ioIn8_log_value]
      refine ⟨m.log, _, [], rfl, ⟨rfl, rfl, ?_⟩, fun _ mem => absurd mem List.not_mem_nil⟩
      rw [BitVec.ofNat_toNat, BitVec.setWidth_eq]
      exact of_decide_eq_true clear
    · rename_i full
      rw [if_neg full]
      exact ih _ ready

/-- What `Mouse_WaitInput` is written to ensure. -/
theorem mouseWaitInput_inputClear (m : Machine σ)
    (ready : (mouseWaitInput hw inputFull m).1 = true) :
    InputClear inputFull (mouseWaitInput hw inputFull m).2.log :=
  mousePoll_inputClear hw 100000 m ready

/-! ## The four commands -/

variable {m m' : Machine σ}

/-- A write to one of the registers with reads behind it. -/
theorem follows_of_write {port : RtIoPort} (register : port = mouseCommandRegister ∨
    port = mouseDataRegister) (value : RtU8) (reads : OnlyReads (ioOut8 hw port value m) m') :
    ∃ trace, m'.log = m.log ++ trace ∧
      (Traces.Follows (WrittenWhenClear inputFull) m.log trace ↔ InputClear inputFull m.log) := by
  rcases reads with ⟨trace, log, reads⟩
  rw [ioOut8, ioOut_log, List.append_assoc] at log
  exact ⟨_, log, follows_write_iff ⟨rfl, register⟩ reads⟩

/-- Two writes to the registers in a row, whatever comes behind them. -/
theorem not_follows_of_writes {port port' : RtIoPort} (register : port = mouseCommandRegister ∨
    port = mouseDataRegister) (register' : port' = mouseCommandRegister ∨
    port' = mouseDataRegister) (value value' : RtU8)
    (extends' : (ioOut8 hw port' value' (ioOut8 hw port value m)).log <+: m'.log) :
    ∃ trace, m'.log = m.log ++ trace ∧
      ¬ Traces.Follows (WrittenWhenClear inputFull) m.log trace := by
  rcases extends' with ⟨trace, log⟩
  rw [ioOut8, ioOut_log, ioOut8, ioOut_log, List.append_assoc, List.append_assoc] at log
  exact ⟨_, log.symm, not_follows_two_writes ⟨rfl, register⟩ ⟨rfl, register'⟩⟩

/-- `Mouse_Init` goes on behind its first two writes. -/
theorem mouseInit_extends (driver : RtMouseDriver) (m : Machine σ) :
    (ioOut8 hw mouseDataRegister mouseCmdReset (ioOut8 hw mouseCommandRegister 0xA7 m)).log <+:
      (mouseInit hw outputFull (some driver) m).machine.log := by
  have acknowledged : ∀ m : Machine σ, m.log <+: (mouseWaitAck hw outputFull m).2.log :=
    fun m => (mouseWaitAck_onlyReads hw outputFull m).extends
  have waited : ∀ m : Machine σ, m.log <+: (mouseWaitOutput hw outputFull m).2.log :=
    fun m => (onlyReads_of_reads hw (mouseWaitOutput_reads hw outputFull m)).extends
  have heard : ∀ m : Machine σ, m.log <+: (ioIn8 hw mouseDataRegister m).2.log :=
    fun m => (ioIn8_onlyReads hw mouseDataRegister m).extends
  rw [mouseInit]
  dsimp only
  split
  · exact acknowledged _
  split
  · exact (acknowledged _).trans (waited _)
  split
  · exact ((acknowledged _).trans (waited _)).trans (heard _)
  have reset := ((acknowledged (ioOut8 hw mouseDataRegister mouseCmdReset
    (ioOut8 hw mouseCommandRegister 0xA7 m))).trans (waited _)).trans (heard _)
  have enabled := (reset.trans (ioOut8_extends hw mouseDataRegister mouseCmdEnable _)).trans
    (acknowledged _)
  split
  · exact enabled
  · exact (enabled.trans (ioOut8_extends hw mouseDataRegister mouseCmdSetSampleRate _)).trans
      (ioOut8_extends hw mouseDataRegister 100 _)

/-- Where it is permitted, the command exchange of `Mouse_Enable` and `Mouse_Disable` writes
once. -/
theorem mouseSwitch_reads (command : RtU8) {source : RtDriverState} (target : RtDriverState)
    {driver : RtMouseDriver} (permitted : driver.base.state = source) (m : Machine σ) :
    OnlyReads (ioOut8 hw mouseDataRegister command m)
      (mouseSwitch hw outputFull command source target (some driver) m).machine := by
  have acknowledged := mouseWaitAck_onlyReads hw outputFull (ioOut8 hw mouseDataRegister command m)
  rw [mouseSwitch, if_neg (not_not.mpr permitted)]
  dsimp only
  split
  · exact acknowledged
  · exact acknowledged

theorem mouseSetSampleRate_reads {driver : RtMouseDriver} (rate : RtU8)
    (permitted : driver.base.state = .ready) (m : Machine σ) :
    OnlyReads (ioOut8 hw mouseDataRegister rate
        (ioOut8 hw mouseDataRegister mouseCmdSetSampleRate m))
      (mouseSetSampleRate hw outputFull (some driver) rate m).machine := by
  have acknowledged := mouseWaitAck_onlyReads hw outputFull
    (ioOut8 hw mouseDataRegister rate (ioOut8 hw mouseDataRegister mouseCmdSetSampleRate m))
  rw [mouseSetSampleRate, if_neg (not_not.mpr permitted)]
  dsimp only
  split
  · exact acknowledged
  · exact acknowledged

/-! ## Runs -/

/-- When a command is called for: what the driver pointer shows, and what was recorded before.
The commands that write twice do not wait whatever was recorded. -/
def MouseCommand.Roomy (inputFull : Fin 8) (driver : Option RtMouseDriver)
    (past : List IoAccess) : MouseCommand → Prop
  | .init => driver = none
  | .enable => ∀ given, driver = some given → given.base.state = .ready → InputClear inputFull past
  | .disable =>
    ∀ given, driver = some given → given.base.state = .running → InputClear inputFull past
  | .setSampleRate _ => ∀ given, driver = some given → given.base.state ≠ .ready

/-- A command that the driver refuses leaves no record. -/
theorem follows_of_refused (past : List IoAccess) {condition : Prop} (holds : condition) :
    ∃ trace, past = past ++ trace ∧
      (Traces.Follows (WrittenWhenClear inputFull) past trace ↔ condition) :=
  ⟨[], (List.append_nil _).symm, iff_of_true trivial holds⟩

theorem mouseSwitch_follows_iff (command : RtU8) (source target : RtDriverState)
    (driver : RtMouseDriver) (m : Machine σ) :
    ∃ trace, (mouseSwitch hw outputFull command source target (some driver) m).machine.log =
        m.log ++ trace ∧
      (Traces.Follows (WrittenWhenClear inputFull) m.log trace ↔
        ∀ given, some driver = some given → given.base.state = source →
          InputClear inputFull m.log) := by
  by_cases permitted : driver.base.state = source
  · rcases follows_of_write hw (.inr rfl) command
      (mouseSwitch_reads hw outputFull command target permitted m) with ⟨trace, log, follows⟩
    refine ⟨trace, log, follows.trans ?_⟩
    constructor
    · intro clear _ _ _
      exact clear
    · intro clear
      exact clear driver rfl permitted
  · rw [mouseSwitch, if_pos permitted]
    apply follows_of_refused
    intro given same source
    cases same
    exact absurd source permitted

/-- The records of one command are those of a driver that waits exactly under the condition of
the command. -/
theorem mouseCommand_follows_iff (driver : Option RtMouseDriver) (m : Machine σ)
    (command : MouseCommand) :
    ∃ trace, (mouseCommand hw outputFull driver m command).machine.log = m.log ++ trace ∧
      (Traces.Follows (WrittenWhenClear inputFull) m.log trace ↔
        command.Roomy inputFull driver m.log) := by
  cases driver with
  | none =>
    rw [mouseCommand_none]
    apply follows_of_refused
    cases command with
    | init => rfl
    | enable => exact fun _ given => nomatch given
    | disable => exact fun _ given => nomatch given
    | setSampleRate rate => exact fun _ given => nomatch given
  | some driver =>
    cases command with
    | init =>
      rcases not_follows_of_writes hw (.inl rfl) (.inr rfl) _ _
        (mouseInit_extends hw outputFull driver m) with ⟨trace, log, broken⟩
      exact ⟨trace, log, iff_of_false broken (Option.some_ne_none driver)⟩
    | enable => exact mouseSwitch_follows_iff hw outputFull mouseCmdEnable .ready .running driver m
    | disable =>
      exact mouseSwitch_follows_iff hw outputFull mouseCmdDisable .running .ready driver m
    | setSampleRate rate =>
      by_cases permitted : driver.base.state = .ready
      · rcases not_follows_of_writes hw (.inr rfl) (.inr rfl) _ _
          (mouseSetSampleRate_reads hw outputFull rate permitted m).extends with
          ⟨trace, log, broken⟩
        refine ⟨trace, log, iff_of_false broken ?_⟩
        intro refused
        exact refused driver rfl permitted
      · rw [mouseCommand, mouseSetSampleRate, if_pos permitted]
        apply follows_of_refused
        intro given same
        cases same
        exact permitted

/-- A driver pointer and the machine that its commands are made on. -/
structure MouseConnection (σ : Type) where
  driver : Option RtMouseDriver
  machine : Machine σ

/-- One command. -/
def mouseCommandCall (connection : MouseConnection σ) (command : MouseCommand) :
    Except MemoryFault (MouseConnection σ × RtErrorCode) :=
  let result := mouseCommand hw outputFull connection.driver connection.machine command
  .ok (⟨result.driver, result.machine⟩, result.code)

/-- The run comes to its end, and in the records it adds each write comes after a status read
that shows room for it, with no write between the two. -/
def WaitsForRoom (inputFull : Fin 8) (connection : MouseConnection σ)
    (commands : List MouseCommand) : Prop :=
  ∃ connection' codes trace,
    Calls.run (mouseCommandCall hw outputFull) connection commands = .ok (connection', codes) ∧
      connection'.machine.log = connection.machine.log ++ trace ∧
      Traces.Follows (WrittenWhenClear inputFull) connection.machine.log trace

/-- The condition of a command, in the state it is made in. -/
def CommandRoomy (inputFull : Fin 8) (connection : MouseConnection σ) (command : MouseCommand) :
    Prop :=
  command.Roomy inputFull connection.driver connection.machine.log

/-- The records of a run, command by command. -/
theorem mouseCommands_follows_iff (inputFull : Fin 8) (connection : MouseConnection σ)
    (commands : List MouseCommand) :
    ∃ connection' codes trace,
      Calls.run (mouseCommandCall hw outputFull) connection commands = .ok (connection', codes) ∧
        connection'.machine.log = connection.machine.log ++ trace ∧
        (Traces.Follows (WrittenWhenClear inputFull) connection.machine.log trace ↔
          Calls.Everywhere (mouseCommandCall hw outputFull) (CommandRoomy inputFull) connection
            commands) := by
  induction commands generalizing connection with
  | nil => exact ⟨connection, [], [], rfl, (List.append_nil _).symm, Iff.rfl⟩
  | cons command commands ih =>
    rcases mouseCommand_follows_iff hw outputFull connection.driver connection.machine command
      with ⟨trace, log, follows⟩
    have first : mouseCommandCall hw outputFull connection command = .ok (⟨_, _⟩, _) := rfl
    rcases ih ⟨(mouseCommand hw outputFull connection.driver connection.machine command).driver,
      (mouseCommand hw outputFull connection.driver connection.machine command).machine⟩ with
      ⟨connection', codes, trace', ran, log', follows'⟩
    refine ⟨connection', (mouseCommand hw outputFull connection.driver connection.machine
      command).code :: codes, trace ++ trace', ?_, ?_, ?_⟩
    · rw [Calls.run, first]
      dsimp only
      rw [ran]
      rfl
    · rw [log', log, List.append_assoc]
    · rw [log] at follows'
      rw [Traces.follows_append, follows, follows']
      constructor
      · intro both
        exact Calls.everywhere_cons first both.1 both.2
      · intro all
        exact ⟨all.1, all.2 _ _ first⟩

theorem WaitsForRoom.everywhere {inputFull : Fin 8} {connection : MouseConnection σ}
    {commands : List MouseCommand}
    (waits : WaitsForRoom hw outputFull inputFull connection commands) :
    Calls.Everywhere (mouseCommandCall hw outputFull) (CommandRoomy inputFull) connection
      commands := by
  rcases waits with ⟨connection', codes, trace, ran, log, follows⟩
  rcases mouseCommands_follows_iff hw outputFull inputFull connection commands with
    ⟨connection'', codes', trace', ran', log', follows'⟩
  rcases Calls.done_unique ran ran' with ⟨rfl, -⟩
  rw [log] at log'
  rw [← List.append_cancel_left log'] at follows'
  exact follows'.mp follows

/-- Whatever the device answers, a run of commands writes only into a controller that has shown
room for the byte exactly when each of its commands is made under its condition: no
initialisation, no sample rate in the ready state, and an enable or disable command that is
carried out only where room was shown since the last write. -/
theorem mouseCommands_inputClear_iff (inputFull : Fin 8) (connection : MouseConnection σ)
    (commands : List MouseCommand) :
    WaitsForRoom hw outputFull inputFull connection commands ↔
      Calls.Everywhere (mouseCommandCall hw outputFull) (CommandRoomy inputFull) connection
        commands := by
  constructor
  · intro waits
    exact waits.everywhere
  · intro roomy
    rcases mouseCommands_follows_iff hw outputFull inputFull connection commands with
      ⟨connection', codes, trace, ran, log, follows⟩
    exact ⟨connection', codes, trace, ran, log, follows.mpr roomy⟩

end Records

/-- `Mouse_Init`, on a controller that has just shown room: the second byte is written right
behind the first. -/
theorem mouseInit_inputFull :
    ¬ WaitsForRoom scriptHardware 0 1
      ⟨some mouseInitial, ⟨ioTablesInit, [1, 0xFA, 1, 0xAA, 1, 0xFA],
        [⟨.input, 8, mouseStatusRegister, 0, true⟩]⟩⟩ [.init] := by
  intro waits
  exact absurd waits.everywhere.1 (Option.some_ne_none mouseInitial)

end LamaOS
