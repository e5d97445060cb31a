import LamaOS.Drivers.Mouse.MouseRuns

/-!
# What a command leaves in the mouse driver

`Mouse_Init`, `Mouse_Enable`, `Mouse_Disable` and `Mouse_SetSampleRate` talk to a device that
may answer anything, through ports that may be locked. Whichever of its exits a command takes,
it has changed the driver only where it succeeds.
-/

namespace LamaOS

/-- The operations that command the device. -/
inductive MouseCommand where
  | init
  | enable
  | disable
  | setSampleRate (rate : RtU8)
  deriving DecidableEq, Repr

/-- A command, on any driver pointer and any machine. -/
def mouseCommand {σ : Type} (hw : Hardware σ) (outputFull : Fin 8) (driver : Option RtMouseDriver)
    (m : Machine σ) : MouseCommand → MouseResult σ
  | .init => mouseInit hw outputFull driver m
  | .enable => mouseEnable hw outputFull driver m
  | .disable => mouseDisable hw outputFull driver m
  | .setSampleRate rate => mouseSetSampleRate hw outputFull driver rate m

/-- The fields a successful command may change: every other field of the second driver is the
one of the first. -/
def MouseCommand.Changes (before after : RtMouseDriver) : MouseCommand → Prop
  | .init => ∃ state index,
    after = { before with base.state := state, packetIndex := index }
  | .enable => ∃ state, after = { before with base.state := state }
  | .disable => ∃ state, after = { before with base.state := state }
  | .setSampleRate _ => ∃ rate, after = { before with data.sampleRate := rate }

/-- The driver that a successful command leaves. -/
def MouseCommand.result (driver : RtMouseDriver) : MouseCommand → RtMouseDriver
  | .init => { driver with packetIndex := 0, base.state := .ready }
  | .enable => { driver with base.state := .running }
  | .disable => { driver with base.state := .ready }
  | .setSampleRate rate => { driver with data.sampleRate := rate }

/-- The states a command works in. -/
def MouseCommand.Permitted : MouseCommand → RtDriverState → Prop
  | .init => fun _ => True
  | .enable => (· = .ready)
  | .disable => (· = .running)
  | .setSampleRate _ => (· = .ready)

theorem mouseCommand_commanded {σ : Type} (hw : Hardware σ) (outputFull : Fin 8)
    (driver : RtMouseDriver) (m : Machine σ) (command : MouseCommand) :
    MouseCommanded driver (mouseCommand hw outputFull (some driver) m command) command.Permitted
      (command.result driver) := by
  cases command with
  | init => exact mouseInit_commanded hw outputFull driver m
  | enable => exact mouseSwitch_commanded hw outputFull _ _ _ driver m
  | disable => exact mouseSwitch_commanded hw outputFull _ _ _ driver m
  | setSampleRate rate => exact mouseSetSampleRate_commanded hw outputFull driver rate m

theorem MouseCommand.changes_result (command : MouseCommand) (driver : RtMouseDriver) :
    command.Changes driver (command.result driver) := by
  cases command with
  | init => exact ⟨_, _, rfl⟩
  | enable => exact ⟨_, rfl⟩
  | disable => exact ⟨_, rfl⟩
  | setSampleRate rate => exact ⟨_, rfl⟩

/-- No command takes a NULL driver. -/
theorem mouseCommand_none {σ : Type} (hw : Hardware σ) (outputFull : Fin 8) (m : Machine σ)
    (command : MouseCommand) :
    mouseCommand hw outputFull none m command = ⟨.invalidParameter, none, m⟩ := by
  cases command <;> rfl

/-- Whatever the device answers and whichever ports are locked, a command that fails leaves
the driver as it is, and one that succeeds changes no field but its own. -/
theorem mouseCommand_leaves {σ : Type} (hw : Hardware σ) (outputFull : Fin 8)
    (driver : Option RtMouseDriver) (m : Machine σ) (command : MouseCommand) :
    ((mouseCommand hw outputFull driver m command).code ≠ .success →
      (mouseCommand hw outputFull driver m command).driver = driver) ∧
    ((mouseCommand hw outputFull driver m command).code = .success →
      ∃ before after, driver = some before ∧
        (mouseCommand hw outputFull driver m command).driver = some after ∧
        command.Changes before after) := by
  cases driver with
  | none =>
    rw [mouseCommand_none]
    constructor
    · intro _
      rfl
    · intro success
      cases success
  | some driver =>
    have commanded := mouseCommand_commanded hw outputFull driver m command
    constructor
    · intro failed
      exact commanded.failed failed
    · intro success
      refine ⟨driver, command.result driver, rfl, (commanded.done success).2, ?_⟩
      exact command.changes_result driver

end LamaOS
