import LamaOS.Desktop.DesktopCommand
import LamaOS.Misc.Calls
import LamaOS.Misc.NamedFile
import LamaOS.Misc.Numerals

/-!
# The PID file

`/var/run/elf_monitor.pid` is written by two programs. The `main` of `exe.c` writes the number
of its process there before it monitors and unlinks the file when it is done; a click on a
button of the desktop lets a shell start the service and then echo the name of the application
into the same file. All file operations succeed. `systemctl` only asks for the start: a monitor
starts at any time, if none is alive. A command that the shell reads in another way than it is
meant runs whatever the name says, so from the first such click on anything else may happen to
the file as well, at any time.
-/

namespace LamaOS

open Shell

/-! ## The monitor -/

/-- What `%d` prints of the number of a process. -/
def decimalText (pid : Nat) : List RtU8 := numeral 10 pid

/-- Where `main` is, after `daemonize`: `opened` is between `fopen` and `fclose`, where the text
is written, and `monitoring` in front of the test of `running`. -/
inductive MonitorPhase where
  | started
  | registered
  | opened (file : Nat)
  | monitoring
  | leaving
  | cleaned
  deriving DecidableEq, Repr

structure Monitor where
  pid : Nat
  phase : MonitorPhase
  running : Bool
  deriving DecidableEq, Repr

/-- The process has written its PID file and not yet removed it. -/
def Monitor.Listed (m : Monitor) : Prop := m.phase = .monitoring ∨ m.phase = .leaving

/-- Whether `fopen` and `unlink` succeed on the PID file. -/
structure PidFileAnswer where
  opens : Bool
  unlinks : Bool
  deriving DecidableEq, Repr

/-- The next step of `main`, as far as it is one of the process and the PID file. -/
def Monitor.stepWith (answer : PidFileAnswer) (m : Monitor) (file : NamedFile RtU8) :
    NamedFile RtU8 × Option Monitor :=
  match m.phase with
  | .started => (file, some { m with phase := .registered })
  | .registered =>
    if answer.opens then
      (file.openTrunc.1, some { m with phase := .opened file.openTrunc.2 })
    else (file, some { m with phase := .monitoring })
  | .opened i => (file.write i (decimalText m.pid), some { m with phase := .monitoring })
  | .monitoring => (file, some (if m.running then m else { m with phase := .leaving }))
  | .leaving =>
    (if answer.unlinks then file.unlink else file, some { m with phase := .cleaned })
  | .cleaned => (file, none)

/-- The next step of `main` where all file operations succeed. -/
def Monitor.step (m : Monitor) (file : NamedFile RtU8) : NamedFile RtU8 × Option Monitor :=
  m.stepWith ⟨true, true⟩ file

/-- `signal_handler`, once it is registered; a signal before that kills the process. -/
def Monitor.signal (m : Monitor) : Option Monitor :=
  match m.phase with
  | .started => none
  | _ => some { m with running := false }

/-! ## The shell -/

/-- Where the shell of a click is: `systemctl` runs, the file is to be opened for the echo, or
it has been opened. -/
inductive ShellPhase where
  | starting
  | opening
  | writing (file : Nat)
  deriving DecidableEq, Repr

/-- What `systemctl` returns, and what the shell expands the name to, if it does. -/
structure ShellAnswer where
  status : RtU32
  expansion : Text
  deriving DecidableEq, Repr

/-- The characters from which the shell may begin an expansion: `*`, `?`, `[`, `{`, `~`. -/
def expandable : List RtU8 := [0x2A, 0x3F, 0x5B, 0x7B, 0x7E]

/-- The line that `echo` prints. -/
def echoLine (app : AppName) (answer : ShellAnswer) : Text :=
  (if ∃ b ∈ app.bytes, b ∈ expandable then answer.expansion else app.bytes) ++ [newline]

/-- The next step of the shell. -/
def AppName.shellStep (app : AppName) (answer : ShellAnswer) (file : NamedFile RtU8) :
    ShellPhase → NamedFile RtU8 × Option ShellPhase
  | .starting => (file, if answer.status = 0 then some .opening else none)
  | .opening => (file.openTrunc.1, some (.writing file.openTrunc.2))
  | .writing i => (file.write i (echoLine app answer), none)

/-! ## Both -/

/-- The PID file, the monitor that is alive, the command that `on_button_clicked` waits for, and
whether one has been run that is not the one that is meant. -/
structure PidWorld where
  file : NamedFile RtU8
  monitor : Option Monitor
  shell : Option (AppName × ShellPhase)
  astray : Bool

/-- No monitor is alive and nothing has been clicked; an old file may be left. -/
def pidStart (text : Option (List RtU8)) : PidWorld := ⟨.initial text, none, none, false⟩

inductive PidEvent where
  | start (pid : Nat)
  | monitor
  | signal
  | click (app : AppName)
  | shell (answer : ShellAnswer)
  /-- An operation by a command that is not the one that is meant. -/
  | other (op : NamedFile.Operation RtU8)

/-- The world after an event. -/
def pidNext (w : PidWorld) : PidEvent → PidWorld
  | .start pid =>
    match w.monitor with
    | none => { w with monitor := some ⟨pid, .started, true⟩ }
    | some _ => w
  | .monitor =>
    match w.monitor with
    | none => w
    | some m => { w with file := (m.step w.file).1, monitor := (m.step w.file).2 }
  | .signal => { w with monitor := w.monitor.bind Monitor.signal }
  | .click app =>
    match w.shell with
    | some _ => w
    | none =>
      if split (buttonCommand app.bytes) = .ok (meantCommands app.bytes) then
        { w with shell := some (app, .starting) }
      else { w with astray := true }
  | .shell answer =>
    match w.shell with
    | none => w
    | some (app, phase) =>
      { w with
        file := (app.shellStep answer w.file phase).1
        shell := (app.shellStep answer w.file phase).2.map fun phase' => (app, phase') }
  | .other op => if w.astray then { w with file := w.file.apply op } else w

/-- An event as a step: none of them faults. -/
def pidStep (w : PidWorld) (event : PidEvent) : Except Empty (PidWorld × Unit) :=
  .ok (pidNext w event, ())

/-- A monitor is between writing the file and its cleanup. -/
def PidWorld.Monitored (w : PidWorld) : Prop := ∃ m, w.monitor = some m ∧ m.Listed

/-- The PID file names the running monitor. -/
def PidFileNames (w : PidWorld) : Prop :=
  ∀ m, w.monitor = some m → m.Listed → w.file.text = some (decimalText m.pid)

/-- The event does not damage the PID file: a monitor writes its number to a file that takes
it, and while one is monitored, the shell of a click neither opens the file nor writes its line
to it, and other commands spare it. -/
def SparesPidFile (w : PidWorld) : PidEvent → Prop
  | .monitor => ∀ m i, w.monitor = some m → m.phase = .opened i →
      w.file.Takes i (decimalText m.pid)
  | .shell _ => w.Monitored → ∀ app phase, w.shell = some (app, phase) →
      phase ≠ .opening ∧ ∀ i, phase = .writing i → w.file.current ≠ some i
  | .other op => w.astray = true → w.Monitored → w.file.Spares op
  | .start _ | .signal | .click _ => True

/-! ## One event -/

theorem decimalText_ne_nil (pid : Nat) : decimalText pid ≠ [] := numeral_ne_nil 10 pid

/-- A number is printed without a newline. -/
theorem newline_notMem_decimalText (pid : Nat) : newline ∉ decimalText pid := by
  have noDigit : ∀ d < 16, digitByte d ≠ newline := by decide
  exact notMem_numeral (by decide) (by decide) noDigit pid

/-- An operation that is not the monitor's keeps its name in the file exactly if it spares it
while one is monitored. -/
theorem pidFileNames_apply {w : PidWorld} {shell : Option (AppName × ShellPhase)} {astray : Bool}
    (op : NamedFile.Operation RtU8) (names : PidFileNames w) :
    PidFileNames ⟨w.file.apply op, w.monitor, shell, astray⟩ ↔
      (w.Monitored → w.file.Spares op) := by
  constructor
  · rintro named ⟨m, alive, listed⟩
    have kept := named m alive listed
    rwa [NamedFile.text_apply_eq_iff (names m alive listed) (decimalText_ne_nil _)] at kept
  · intro spared m alive listed
    rw [NamedFile.text_apply_eq_iff (names m alive listed) (decimalText_ne_nil _)]
    exact spared ⟨m, alive, listed⟩

/-- While a monitor is named, a line of an echo spares the file only if it goes elsewhere. -/
theorem spares_echoLine_iff {w : PidWorld} (names : PidFileNames w) (monitored : w.Monitored)
    (app : AppName) (answer : ShellAnswer) (i : Nat) :
    w.file.Spares (.write i (echoLine app answer)) ↔ w.file.current ≠ some i := by
  constructor
  · intro spared current
    rcases monitored with ⟨m, alive, listed⟩
    have text := names m alive listed
    rw [NamedFile.text, current] at text
    have begins := spared current
    rw [Option.some.inj text] at begins
    apply newline_notMem_decimalText m.pid
    apply begins.subset
    exact List.mem_append_right _ List.mem_cons_self
  · intro other current
    exact absurd current other

/-- A monitor in another phase is not listed. -/
theorem not_listed {pid : Nat} {phase : MonitorPhase} {running : Bool}
    (looping : phase ≠ .monitoring) (leaving : phase ≠ .leaving) :
    ¬ Monitor.Listed ⟨pid, phase, running⟩ := by
  rintro (listed | listed)
  · exact looping listed
  · exact leaving listed

/-- A monitor that is listed after a step in which it did not write was listed before it. -/
theorem Monitor.step_unopened {m m' : Monitor} {file : NamedFile RtU8}
    (unopened : ∀ i, m.phase ≠ .opened i) (next : (m.step file).2 = some m')
    (listed : m'.Listed) : m.Listed ∧ m'.pid = m.pid ∧ (m.step file).1 = file := by
  rcases m with ⟨pid, phase, running⟩
  cases phase with
  | opened i => exact absurd rfl (unopened i)
  | monitoring =>
    refine ⟨.inl rfl, ?_, rfl⟩
    cases running with
    | true =>
      cases next
      rfl
    | false =>
      cases next
      rfl
  | started =>
    cases next
    exact absurd listed (not_listed nofun nofun)
  | registered =>
    cases next
    exact absurd listed (not_listed nofun nofun)
  | leaving =>
    cases next
    exact absurd listed (not_listed nofun nofun)
  | cleaned => cases next

/-- A monitor that a signal leaves alive is where it was. -/
theorem Monitor.signal_eq_some {m m' : Monitor} (signalled : m.signal = some m') :
    m'.phase = m.phase ∧ m'.pid = m.pid := by
  unfold Monitor.signal at signalled
  split at signalled
  · cases signalled
  · cases signalled
    exact ⟨rfl, rfl⟩

/-- After a step of a monitor the file names it exactly if it took what the step wrote. -/
theorem pidNext_monitor_names {w : PidWorld} (names : PidFileNames w) :
    PidFileNames (pidNext w .monitor) ↔ SparesPidFile w .monitor := by
  rw [SparesPidFile, pidNext]
  cases alive : w.monitor with
  | none =>
    refine iff_of_true names ?_
    intro m i same
    cases same
  | some m =>
    by_cases opened : ∃ i, m.phase = .opened i
    · rcases opened with ⟨i, opened⟩
      have step : m.step w.file =
          (w.file.write i (decimalText m.pid), some { m with phase := .monitoring }) := by
        rw [Monitor.step, Monitor.stepWith, opened]
      dsimp only
      rw [step]
      constructor
      · intro named m' j same opened'
        cases same
        rw [opened] at opened'
        cases opened'
        rw [← NamedFile.text_write_eq_iff]
        have written := named _ rfl (.inl rfl)
        exact written
      · intro taken m' same _
        cases same
        exact (NamedFile.text_write_eq_iff _ _ _).mpr (taken m i rfl opened)
    · have unopened := not_exists.mp opened
      refine iff_of_true ?_ ?_
      · intro m' next listed
        rcases m.step_unopened unopened next listed with ⟨before, pid, file⟩
        dsimp only
        rw [file, pid]
        exact names m alive before
      · intro m' i same opened'
        cases same
        exact absurd opened' (unopened i)

/-- A signal ends the loop or the process, and touches no file. -/
theorem pidNext_signal_names {w : PidWorld} (names : PidFileNames w) :
    PidFileNames (pidNext w .signal) := by
  intro m signalled listed
  rcases Option.bind_eq_some_iff.mp signalled with ⟨before, alive, after⟩
  rcases Monitor.signal_eq_some after with ⟨phase, pid⟩
  rw [Monitor.Listed, phase] at listed
  rw [pid]
  exact names before alive listed

/-- After a step of a shell the file names the monitor exactly if the step was not one on the
file while the monitor is listed. -/
theorem pidNext_shell_names {w : PidWorld} (names : PidFileNames w) (answer : ShellAnswer) :
    PidFileNames (pidNext w (.shell answer)) ↔ SparesPidFile w (.shell answer) := by
  rw [SparesPidFile, pidNext]
  cases running : w.shell with
  | none =>
    refine iff_of_true names ?_
    intro _ app phase same
    cases same
  | some command =>
    rcases command with ⟨app, phase⟩
    cases phase with
    | starting =>
      refine iff_of_true names ?_
      intro _ app' phase same
      cases same
      exact ⟨nofun, nofun⟩
    | opening =>
      refine (pidFileNames_apply .openTrunc names).trans ?_
      constructor
      · intro spared monitored
        exact (spared monitored).elim
      · intro elsewhere monitored
        exact absurd rfl (elsewhere monitored app .opening rfl).1
    | writing i =>
      refine (pidFileNames_apply (.write i (echoLine app answer)) names).trans ?_
      constructor
      · intro spared monitored app' phase same
        cases same
        refine ⟨nofun, ?_⟩
        intro j same
        cases same
        exact (spares_echoLine_iff names monitored app answer i).mp (spared monitored)
      · intro elsewhere monitored
        rw [spares_echoLine_iff names monitored app answer i]
        exact (elsewhere monitored app (.writing i) rfl).2 i rfl

/-- From a state in which the file names the monitor, exactly the events that do not damage the
file lead to such a state. -/
theorem pidNext_names_iff {w : PidWorld} (names : PidFileNames w) (event : PidEvent) :
    PidFileNames (pidNext w event) ↔ SparesPidFile w event := by
  cases event with
  | start pid =>
    refine iff_of_true ?_ trivial
    rw [pidNext]
    cases alive : w.monitor with
    | none =>
      intro m started listed
      cases started
      exact absurd listed (not_listed nofun nofun)
    | some m => exact names
  | monitor => exact pidNext_monitor_names names
  | signal => exact iff_of_true (pidNext_signal_names names) trivial
  | click app =>
    refine iff_of_true ?_ trivial
    rw [pidNext]
    cases w.shell with
    | some command => exact names
    | none =>
      dsimp only
      split
      · exact names
      · exact names
  | shell answer => exact pidNext_shell_names names answer
  | other op =>
    rw [pidNext, SparesPidFile]
    cases astray : w.astray with
    | false =>
      refine iff_of_true names ?_
      intro wrong
      cases wrong
    | true =>
      rw [if_pos rfl, pidFileNames_apply op names]
      exact ⟨fun spared _ => spared, fun spared => spared rfl⟩

/-! ## Runs -/

/-- In every order of starts, signals, clicks and steps of the monitor, the shells and other
commands, the file names the monitor all along exactly if no event damages it. -/
theorem pidRun_names_iff (text : Option (List RtU8)) (events : List PidEvent) :
    Calls.Always pidStep PidFileNames (pidStart text) events ↔
      Calls.Everywhere pidStep SparesPidFile (pidStart text) events := by
  apply Calls.always_iff fun _ => True
  · intro w event w' reply _ names spared done
    cases done
    exact ⟨trivial, (pidNext_names_iff names event).mpr spared⟩
  · intro w event _ names damaged
    refine ⟨_, _, rfl, ?_⟩
    rwa [pidNext_names_iff names event]
  · trivial
  · intro m alive
    cases alive

/-- A run comes to its end. -/
theorem pidRun_eq (w : PidWorld) (events : List PidEvent) :
    ∃ replies, Calls.run pidStep w events = .ok (events.foldl pidNext w, replies) := by
  induction events generalizing w with
  | nil => exact ⟨[], rfl⟩
  | cons event events ih =>
    rcases ih (pidNext w event) with ⟨replies, ran⟩
    exact ⟨() :: replies, by simp [Calls.run, pidStep, ran, Except.map]⟩

theorem plainApp_name : (cString "a.exe").length ≤ 255 ∧ 0 ∉ cString "a.exe" ∧
    0x2F ∉ cString "a.exe" ∧ hasExe (cString "a.exe") = true := by
  decide

def plainApp : AppName where
  bytes := cString "a.exe"
  short := plainApp_name.1
  noNul := plainApp_name.2.1
  noSlash := plainApp_name.2.2.1
  exe := plainApp_name.2.2.2

/-- A monitor starts and writes its number; then a button is clicked. -/
def clickWhileMonitored : List PidEvent :=
  [.start 42, .monitor, .monitor, .monitor, .click plainApp, .shell ⟨0, []⟩, .shell ⟨0, []⟩,
    .shell ⟨0, []⟩]

/-- The file of a running monitor holds the name of the application that was clicked. -/
theorem pidRun_click_overwrites :
    ¬ Calls.Always pidStep PidFileNames (pidStart none) clickWhileMonitored := by
  intro always
  rcases pidRun_eq (pidStart none) clickWhileMonitored with ⟨replies, ran⟩
  have names := always.last ran
  have alive : (clickWhileMonitored.foldl pidNext (pidStart none)).monitor =
      some ⟨42, .monitoring, true⟩ := by
    decide +kernel
  have text : (clickWhileMonitored.foldl pidNext (pidStart none)).file.text =
      some (cString "a.exe\n") := by
    decide +kernel
  rw [PidFileNames, alive, text] at names
  have same := names _ rfl (.inl rfl)
  revert same
  decide +kernel

end LamaOS
