import LamaOS.Monitor.PidFile

/-!
# What the PID file can hold

The monitor and the shell of a click open the PID file, which empties it, and write to it later,
each once and from its beginning on; only the monitor unlinks it. So what is written since the
file was emptied last is a number, the line of an echo, or both, the later one over the beginning
of the other. Each of these is possible for names that the shell neither splits nor expands, and
so a number can be read that no monitor has.
-/

namespace LamaOS

open Shell

/-! ## Who writes -/

/-- The monitor has opened the PID file and not yet written to it. -/
def PidWorld.Numbering (w : PidWorld) : Prop := ∃ m i, w.monitor = some m ∧ m.phase = .opened i

/-- The shell of a click has opened the file that is the PID file now, and not yet written to
it. -/
def PidWorld.Echoing (w : PidWorld) : Prop :=
  ∃ app i, w.shell = some (app, .writing i) ∧ w.file.current = some i

/-- A text that a number and a line, either of which may be missing, leave when they are written
to an empty file. -/
def Overlaid (Number Line : List RtU8 → Prop) (text : List RtU8) : Prop :=
  ∃ number line, Number number ∧ Line line ∧
    (text = overwrite number line ∨ text = overwrite line number)

section Texts

variable (old : Option (List RtU8)) (Number Line : List RtU8 → Prop)

/-- An event that brings in no other numbers and lines. -/
def Contributes : PidEvent → Prop
  | .start pid => Number (decimalText pid)
  | .click app => PlainName app.bytes ∧ ∀ answer, Line (echoLine app answer)
  | _ => True

/-- What holds of the PID file and those who write it. -/
structure Kept (w : PidWorld) : Prop where
  meant : w.astray = false
  number : ∀ m, w.monitor = some m → Number (decimalText m.pid)
  line : ∀ app phase, w.shell = some (app, phase) → ∀ answer, Line (echoLine app answer)
  opened : ∀ m i, w.monitor = some m → m.phase = .opened i → w.file.current = some i
  text : w.file.text = old ∨ w.file.text = none ∨
    ∃ found, Overlaid Number Line found ∧ w.file.text = some found
  /-- Under a number that is still to be written there is a line at most. -/
  numbering : w.Numbering → ∃ line, Line line ∧ w.file.text = some line
  /-- Under a line that is still to be written there is a number at most. -/
  echoing : w.Echoing → ∃ number, Number number ∧ w.file.text = some number
  both : w.Numbering → w.Echoing → w.file.text = some []

end Texts

section Kept

variable {old : Option (List RtU8)} {Number Line : List RtU8 → Prop}

theorem Overlaid.number (noLine : Line []) {number : List RtU8} (written : Number number) :
    Overlaid Number Line number :=
  ⟨number, [], written, noLine, .inl (overwrite_nil number).symm⟩

theorem Overlaid.line (noNumber : Number []) {line : List RtU8} (written : Line line) :
    Overlaid Number Line line :=
  ⟨[], line, noNumber, written, .inr (overwrite_nil line).symm⟩

/-- Neither of the two has the file open. -/
theorem Kept.of_closed {w : PidWorld} (meant : w.astray = false)
    (number : ∀ m, w.monitor = some m → Number (decimalText m.pid))
    (line : ∀ app phase, w.shell = some (app, phase) → ∀ answer, Line (echoLine app answer))
    (closed : ¬ w.Numbering) (closed' : ¬ w.Echoing)
    (text : w.file.text = old ∨ w.file.text = none ∨
      ∃ found, Overlaid Number Line found ∧ w.file.text = some found) : Kept old Number Line w where
  meant := meant
  number := number
  line := line
  opened := fun m i alive opened => absurd ⟨m, i, alive, opened⟩ closed
  text := text
  numbering := fun numbering => absurd numbering closed
  echoing := fun echoing => absurd echoing closed'
  both := fun numbering => absurd numbering closed

/-- As long as the file is not touched and no one else has it open, all stays as it is. -/
theorem Kept.of_untouched {w w' : PidWorld} (kept : Kept old Number Line w)
    (file : w'.file = w.file) (meant : w'.astray = false)
    (number : ∀ m, w'.monitor = some m → Number (decimalText m.pid))
    (line : ∀ app phase, w'.shell = some (app, phase) → ∀ answer, Line (echoLine app answer))
    (opened : ∀ m' i, w'.monitor = some m' → m'.phase = .opened i →
      ∃ m, w.monitor = some m ∧ m.phase = .opened i)
    (echoing : w'.Echoing → w.Echoing) : Kept old Number Line w' := by
  have numbering : w'.Numbering → w.Numbering := by
    rintro ⟨m', i, alive, phase⟩
    rcases opened m' i alive phase with ⟨m, alive, phase⟩
    exact ⟨m, i, alive, phase⟩
  refine ⟨meant, number, line, ?_, ?_, ?_, ?_, ?_⟩
  · intro m' i alive phase
    rcases opened m' i alive phase with ⟨m, alive, phase⟩
    rw [file]
    exact kept.opened m i alive phase
  · rw [file]
    exact kept.text
  · rw [file]
    exact fun now => kept.numbering (numbering now)
  · rw [file]
    exact fun now => kept.echoing (echoing now)
  · rw [file]
    exact fun now now' => kept.both (numbering now) (echoing now')

/-- Whoever empties the file. -/
theorem Kept.of_emptied (noNumber : Number []) (noLine : Line []) {w : PidWorld}
    (meant : w.astray = false) (number : ∀ m, w.monitor = some m → Number (decimalText m.pid))
    (line : ∀ app phase, w.shell = some (app, phase) → ∀ answer, Line (echoLine app answer))
    (opened : ∀ m i, w.monitor = some m → m.phase = .opened i → w.file.current = some i)
    (emptied : w.file.text = some []) : Kept old Number Line w where
  meant := meant
  number := number
  line := line
  opened := opened
  text := .inr (.inr ⟨[], .number noLine noNumber, emptied⟩)
  numbering := fun _ => ⟨[], noLine, emptied⟩
  echoing := fun _ => ⟨[], noNumber, emptied⟩
  both := fun _ _ => emptied

/-! ## One event -/

/-- The command of a plain name is the one that is meant. -/
theorem PlainName.split_eq {app : AppName} (plain : PlainName app.bytes) :
    split (buttonCommand app.bytes) = .ok (meantCommands app.bytes) := by
  have nonempty : app.bytes ≠ [] := by
    intro none
    have exe := app.exe
    rw [none] at exe
    revert exe
    decide
  rw [(buttonCommand_complete_iff _).mpr plain.short]
  exact commands_of_literal nonempty plain.noComment plain.literal

theorem kept_start (old : Option (List RtU8)) : Kept old Number Line (pidStart old) := by
  refine .of_closed rfl ?_ ?_ ?_ ?_ (.inl (NamedFile.text_initial old))
  · intro m alive
    cases alive
  · intro app phase running
    cases running
  · rintro ⟨m, i, alive, -⟩
    cases alive
  · rintro ⟨app, i, running, -⟩
    cases running

/-- A monitor that is not about to write, and has not touched the file. -/
theorem Kept.with_monitor {w : PidWorld} (kept : Kept old Number Line w)
    {monitor : Option Monitor} (number : ∀ m, monitor = some m → Number (decimalText m.pid))
    (opened : ∀ m' i, monitor = some m' → m'.phase = .opened i →
      ∃ m, w.monitor = some m ∧ m.phase = .opened i) :
    Kept old Number Line { w with monitor } :=
  kept.of_untouched rfl kept.meant number kept.line opened id

theorem Kept.with_shell {w : PidWorld} (kept : Kept old Number Line w)
    {shell : Option (AppName × ShellPhase)}
    (line : ∀ app phase, shell = some (app, phase) → ∀ answer, Line (echoLine app answer))
    (closed : ∀ app i, shell ≠ some (app, .writing i)) :
    Kept old Number Line { w with shell } := by
  refine kept.of_untouched rfl kept.meant kept.number line (fun m i alive opened => ?_) ?_
  · exact ⟨m, alive, opened⟩
  · rintro ⟨app, i, writing, -⟩
    exact absurd writing (closed app i)

/-- The monitor writes its number, over a line at most. -/
theorem Kept.write_number {w : PidWorld} (kept : Kept old Number Line w) {m : Monitor} {i : Nat}
    (alive : w.monitor = some m) (phase : m.phase = .opened i) :
    Kept old Number Line { w with
      file := w.file.write i (decimalText m.pid)
      monitor := some { m with phase := .monitoring } } := by
  have current := kept.opened m i alive phase
  have numbering : w.Numbering := ⟨m, i, alive, phase⟩
  have number := kept.number m alive
  rcases kept.numbering numbering with ⟨line, written, held⟩
  have text := NamedFile.text_write_of_text current held (decimalText m.pid)
  refine ⟨kept.meant, ?_, kept.line, ?_, .inr (.inr ⟨_, ?_, text⟩), ?_, ?_, ?_⟩
  · rintro _ ⟨⟩
    exact number
  · rintro _ j ⟨⟩ opened
    cases opened
  · exact ⟨_, line, number, written, .inl rfl⟩
  · rintro ⟨_, j, ⟨⟩, opened⟩
    cases opened
  · intro echoing
    have empty := kept.both numbering echoing
    rw [held, Option.some_inj] at empty
    refine ⟨_, number, ?_⟩
    rw [text, empty, overwrite_nil]
  · rintro ⟨_, j, ⟨⟩, opened⟩
    cases opened

/-- A step of the monitor. -/
theorem Kept.next_monitor {w : PidWorld} (kept : Kept old Number Line w) (noNumber : Number [])
    (noLine : Line []) : Kept old Number Line (pidNext w .monitor) := by
  rw [pidNext]
  cases alive : w.monitor with
  | none => exact kept
  | some m =>
    have number := kept.number m alive
    rcases m with ⟨pid, phase, running⟩
    cases phase with
    | started =>
      refine kept.with_monitor ?_ ?_
      · rintro _ ⟨⟩
        exact number
      · rintro _ i ⟨⟩ opened
        cases opened
    | registered =>
      refine .of_emptied noNumber noLine kept.meant ?_ kept.line ?_ (NamedFile.text_openTrunc _)
      · rintro _ ⟨⟩
        exact number
      · rintro _ i ⟨⟩ opened
        cases opened
        exact NamedFile.current_openTrunc _
    | opened i => exact kept.write_number alive rfl
    | monitoring =>
      refine kept.with_monitor ?_ ?_
      · rintro _ ⟨⟩
        split
        · exact number
        · exact number
      · rintro _ i ⟨⟩ opened
        split at opened
        · cases opened
        · cases opened
    | leaving =>
      refine .of_closed kept.meant ?_ kept.line ?_ ?_ (.inr (.inl rfl))
      · rintro _ ⟨⟩
        exact number
      · rintro ⟨_, i, ⟨⟩, opened⟩
        cases opened
      · rintro ⟨app, i, -, current⟩
        cases current
    | cleaned =>
      refine kept.with_monitor ?_ ?_
      · intro m none
        cases none
      · intro m i none
        cases none

theorem Kept.next_signal {w : PidWorld} (kept : Kept old Number Line w) :
    Kept old Number Line (pidNext w .signal) := by
  refine kept.with_monitor ?_ ?_
  · intro m signalled
    rcases Option.bind_eq_some_iff.mp signalled with ⟨before, alive, after⟩
    rw [(Monitor.signal_eq_some after).2]
    exact kept.number before alive
  · intro m i signalled opened
    rcases Option.bind_eq_some_iff.mp signalled with ⟨before, alive, after⟩
    rw [(Monitor.signal_eq_some after).1] at opened
    exact ⟨before, alive, opened⟩

/-- The shell of a click writes its line, over a number at most, unless the monitor has unlinked
the file. -/
theorem Kept.write_line {w : PidWorld} (kept : Kept old Number Line w) {app : AppName} {i : Nat}
    (running : w.shell = some (app, .writing i)) (answer : ShellAnswer) :
    Kept old Number Line { w with
      file := w.file.write i (echoLine app answer)
      shell := none } := by
  have line := kept.line app _ running answer
  by_cases current : w.file.current = some i
  · have echoing : w.Echoing := ⟨app, i, running, current⟩
    rcases kept.echoing echoing with ⟨number, written, held⟩
    have text := NamedFile.text_write_of_text current held (echoLine app answer)
    refine ⟨kept.meant, kept.number, ?_, kept.opened, .inr (.inr ⟨_, ?_, text⟩), ?_, ?_, ?_⟩
    · intro app phase none
      cases none
    · exact ⟨number, _, written, line, .inr rfl⟩
    · intro numbering
      have empty := kept.both numbering echoing
      rw [held, Option.some_inj] at empty
      refine ⟨_, line, ?_⟩
      rw [text, empty, overwrite_nil]
    · rintro ⟨app, j, none, -⟩
      cases none
    · rintro - ⟨app, j, none, -⟩
      cases none
  · have text := NamedFile.text_write_of_ne current (echoLine app answer)
    refine ⟨kept.meant, kept.number, ?_, kept.opened, ?_, ?_, ?_, ?_⟩
    · intro app phase none
      cases none
    · rw [text]
      exact kept.text
    · rw [text]
      exact kept.numbering
    · rintro ⟨app, j, none, -⟩
      cases none
    · rintro - ⟨app, j, none, -⟩
      cases none

/-- A step of the shell. -/
theorem Kept.next_shell {w : PidWorld} (kept : Kept old Number Line w) (noNumber : Number [])
    (noLine : Line []) (answer : ShellAnswer) :
    Kept old Number Line (pidNext w (.shell answer)) := by
  rw [pidNext]
  cases running : w.shell with
  | none => exact kept
  | some command =>
    rcases command with ⟨app, phase⟩
    have line := kept.line app phase running
    cases phase with
    | starting =>
      refine kept.with_shell ?_ ?_
      · intro app' phase' next
        rcases Option.map_eq_some_iff.mp next with ⟨_, -, ⟨⟩⟩
        exact line
      · intro app' i next
        rcases Option.map_eq_some_iff.mp next with ⟨_, writing, ⟨⟩⟩
        simp only [AppName.shellStep] at writing
        split at writing
        · cases writing
        · cases writing
    | opening =>
      refine .of_emptied noNumber noLine kept.meant kept.number ?_ ?_ (NamedFile.text_openTrunc _)
      · rintro _ _ ⟨⟩
        exact line
      · intro m i alive opened
        exact NamedFile.current_openTrunc_of_current (kept.opened m i alive opened)
    | writing i => exact kept.write_line running answer

theorem Kept.next_click {w : PidWorld} (kept : Kept old Number Line w) {app : AppName}
    (plain : PlainName app.bytes) (line : ∀ answer, Line (echoLine app answer)) :
    Kept old Number Line (pidNext w (.click app)) := by
  rw [pidNext]
  cases running : w.shell with
  | some command => exact kept
  | none =>
    dsimp only
    rw [if_pos plain.split_eq]
    refine kept.with_shell ?_ ?_
    · rintro _ _ ⟨⟩
      exact line
    · rintro _ i ⟨⟩

/-- An event keeps all of it. -/
theorem Kept.next {w : PidWorld} (kept : Kept old Number Line w) (noNumber : Number [])
    (noLine : Line []) {event : PidEvent} (contributes : Contributes Number Line event) :
    Kept old Number Line (pidNext w event) := by
  cases event with
  | start pid =>
    rw [pidNext]
    cases alive : w.monitor with
    | some m => exact kept
    | none =>
      refine kept.with_monitor ?_ ?_
      · rintro _ ⟨⟩
        exact contributes
      · rintro _ i ⟨⟩ opened
        cases opened
  | monitor => exact kept.next_monitor noNumber noLine
  | signal => exact kept.next_signal
  | click app => exact kept.next_click contributes.1 contributes.2
  | shell answer => exact kept.next_shell noNumber noLine answer
  | other op =>
    rw [pidNext, kept.meant, if_neg Bool.false_ne_true]
    exact kept

/-- And so does a run. -/
theorem kept_run (old : Option (List RtU8)) (noNumber : Number []) (noLine : Line [])
    {events : List PidEvent} (contributes : ∀ event ∈ events, Contributes Number Line event) :
    Kept old Number Line (events.foldl pidNext (pidStart old)) := by
  apply List.foldlRecOn events pidNext (kept_start old)
  intro w kept event mem
  exact kept.next noNumber noLine (contributes event mem)

end Kept

/-! ## What is found -/

/-- A name that `echo` prints as it is. -/
structure LiteralName (app : AppName) : Prop where
  plain : PlainName app.bytes
  unexpanded : ∀ b ∈ app.bytes, b ∉ expandable

theorem LiteralName.echoLine_eq {app : AppName} (literal : LiteralName app)
    (answer : ShellAnswer) : echoLine app answer = app.bytes ++ [newline] := by
  have none : ¬ ∃ b ∈ app.bytes, b ∈ expandable := by
    rintro ⟨b, mem, expands⟩
    exact literal.unexpanded b mem expands
  rw [echoLine, if_neg none]

/-- The number of a process is a positive `int`. -/
def IsProcess (pid : Nat) : Prop := 0 < pid ∧ IsInt pid

/-- What the monitor may have written, if it has. -/
def IsPid (text : List RtU8) : Prop :=
  text = [] ∨ ∃ pid, IsProcess pid ∧ text = decimalText pid

/-- What the shell of a click may have written, if it has. -/
def IsLine (text : List RtU8) : Prop :=
  text = [] ∨ ∃ app, LiteralName app ∧ text = app.bytes ++ [newline]

/-- A monitor and the shell of a click have the file open. -/
def bothOpen (pid : Nat) (app : AppName) : List PidEvent :=
  [.start pid, .monitor, .monitor, .click app, .shell ⟨0, []⟩, .shell ⟨0, []⟩]

theorem bothOpen_world (old : Option (List RtU8)) (pid : Nat) {app : AppName}
    (plain : PlainName app.bytes) :
    ∃ file i, (bothOpen pid app).foldl pidNext (pidStart old) =
        ⟨file, some ⟨pid, .opened i, true⟩, some (app, .writing i), false⟩ ∧
      file.current = some i ∧ file.text = some [] := by
  have first := NamedFile.current_openTrunc (NamedFile.initial old)
  generalize opened : (NamedFile.initial old).openTrunc = result at first
  refine ⟨result.1.openTrunc.1, result.2, ?_, NamedFile.current_openTrunc_of_current first,
    NamedFile.text_openTrunc _⟩
  have second : result.1.openTrunc.2 = result.2 := by
    rw [NamedFile.openTrunc, first]
  simp only [bothOpen, List.foldl_cons, List.foldl_nil, pidStart, pidNext, Monitor.step,
    Monitor.stepWith, opened, if_pos plain.split_eq, AppName.shellStep, if_true,
    Option.map_some, second]

/-- Steps of those who have the file open. -/
theorem text_bothOpen_append (old : Option (List RtU8)) (pid : Nat) {app : AppName}
    (plain : PlainName app.bytes) (writes : List PidEvent) {found : Option (List RtU8)}
    (reads : ∀ file i, file.current = some i → file.text = some [] →
      (writes.foldl pidNext
        ⟨file, some ⟨pid, .opened i, true⟩, some (app, .writing i), false⟩).file.text = found) :
    ((bothOpen pid app ++ writes).foldl pidNext (pidStart old)).file.text = found := by
  rcases bothOpen_world old pid plain with ⟨file, i, opened, current, text⟩
  rw [List.foldl_append, opened]
  exact reads file i current text

/-- The monitor writes after the shell. -/
theorem text_number_over_line (old : Option (List RtU8)) (pid : Nat) {app : AppName}
    (plain : PlainName app.bytes) (answer : ShellAnswer) :
    ((bothOpen pid app ++ [PidEvent.shell answer, .monitor]).foldl pidNext
        (pidStart old)).file.text =
      some (overwrite (decimalText pid) (echoLine app answer)) := by
  apply text_bothOpen_append old pid plain
  intro file i current text
  refine NamedFile.text_write_of_text ?_ (NamedFile.text_write_of_empty current text _) _
  exact current

/-- And the other way round. -/
theorem text_line_over_number (old : Option (List RtU8)) (pid : Nat) {app : AppName}
    (plain : PlainName app.bytes) (answer : ShellAnswer) :
    ((bothOpen pid app ++ [PidEvent.monitor, .shell answer]).foldl pidNext
        (pidStart old)).file.text =
      some (overwrite (echoLine app answer) (decimalText pid)) := by
  apply text_bothOpen_append old pid plain
  intro file i current text
  refine NamedFile.text_write_of_text ?_ (NamedFile.text_write_of_empty current text _) _
  exact current

/-- `found` is in the PID file after some run in which only literal names are clicked. -/
def Found (old found : Option (List RtU8)) : Prop :=
  ∃ events : List PidEvent, (∀ pid, .start pid ∈ events → IsProcess pid) ∧
    (∀ app, .click app ∈ events → LiteralName app) ∧
    (events.foldl pidNext (pidStart old)).file.text = found

theorem found_bothOpen {old : Option (List RtU8)} {pid : Nat} {app : AppName}
    (process : IsProcess pid) (literal : LiteralName app) (writes : List PidEvent)
    {found : Option (List RtU8)} (noStart : ∀ other, PidEvent.start other ∉ writes)
    (noClick : ∀ other, PidEvent.click other ∉ writes)
    (text : ((bothOpen pid app ++ writes).foldl pidNext (pidStart old)).file.text = found) :
    Found old found := by
  refine ⟨bothOpen pid app ++ writes, ?_, ?_, text⟩
  · intro other started
    rcases List.mem_append.mp started with started | started
    · simp only [bothOpen, List.mem_cons, PidEvent.start.injEq, reduceCtorEq, List.not_mem_nil,
        or_false] at started
      rw [started]
      exact process
    · exact absurd started (noStart other)
  · intro other clicked
    rcases List.mem_append.mp clicked with clicked | clicked
    · simp only [bothOpen, List.mem_cons, PidEvent.click.injEq, reduceCtorEq, List.not_mem_nil,
        false_or, or_false] at clicked
      rw [clicked]
      exact literal
    · exact absurd clicked (noClick other)

/-- The texts that a monitor and a click can leave. -/
theorem found_writes (old : Option (List RtU8)) {pid : Nat} {app : AppName}
    (process : IsProcess pid) (literal : LiteralName app) :
    Found old (some []) ∧ Found old (some (decimalText pid)) ∧
      Found old (some (app.bytes ++ [newline])) ∧
      Found old (some (overwrite (decimalText pid) (app.bytes ++ [newline]))) ∧
      Found old (some (overwrite (app.bytes ++ [newline]) (decimalText pid))) := by
  have plain := literal.plain
  rw [← literal.echoLine_eq ⟨0, []⟩]
  refine ⟨?_, ?_, ?_, ?_, ?_⟩
  · refine found_bothOpen process literal [] (by simp) (by simp)
      (text_bothOpen_append old pid plain _ ?_)
    exact fun file i current text => text
  · refine found_bothOpen process literal [.monitor] (by simp) (by simp)
      (text_bothOpen_append old pid plain _ ?_)
    exact fun file i current text => NamedFile.text_write_of_empty current text _
  · refine found_bothOpen process literal [.shell ⟨0, []⟩] (by simp) (by simp)
      (text_bothOpen_append old pid plain _ ?_)
    exact fun file i current text => NamedFile.text_write_of_empty current text _
  · exact found_bothOpen process literal _ (by simp) (by simp)
      (text_number_over_line old pid plain ⟨0, []⟩)
  · exact found_bothOpen process literal _ (by simp) (by simp)
      (text_line_over_number old pid plain ⟨0, []⟩)

theorem isProcess_one : IsProcess 1 := ⟨by decide, by decide⟩

theorem plainApp_literal : LiteralName plainApp :=
  ⟨⟨by decide, by decide, plainApp.bytes, by decide, .inl rfl⟩, by decide⟩

/-- A monitor starts, is asked to stop and cleans up. -/
theorem found_none (old : Option (List RtU8)) : Found old none := by
  refine ⟨[.start 1, .monitor, .monitor, .monitor, .signal, .monitor, .monitor], ?_, by simp, rfl⟩
  intro pid started
  simp only [List.mem_cons, PidEvent.start.injEq, reduceCtorEq, List.not_mem_nil,
    or_false] at started
  rw [started]
  exact isProcess_one

/-- In every order of starts, signals, clicks on buttons with literal names and steps of the
monitor and the shells, the PID file is as it was at first or missing, or holds a number and a
line of an echo, either of which may be missing, the later one written over the beginning of the
other; and each of these occurs. -/
theorem pidFile_texts_iff (old found : Option (List RtU8)) :
    Found old found ↔
      found = old ∨ found = none ∨ ∃ text, Overlaid IsPid IsLine text ∧ found = some text := by
  constructor
  · rintro ⟨events, processes, literals, rfl⟩
    have contributes (event : PidEvent) (mem : event ∈ events) :
        Contributes IsPid IsLine event := by
      cases event with
      | start pid => exact .inr ⟨pid, processes pid mem, rfl⟩
      | click app =>
        have literal := literals app mem
        exact ⟨literal.plain, fun answer => .inr ⟨app, literal, literal.echoLine_eq answer⟩⟩
      | monitor => trivial
      | signal => trivial
      | shell answer => trivial
      | other op => trivial
    exact (kept_run old (.inl rfl) (.inl rfl) contributes).text
  · rintro (rfl | rfl | ⟨text, overlaid, rfl⟩)
    · exact ⟨[], by simp, by simp, NamedFile.text_initial found⟩
    · exact found_none old
    · rcases overlaid with ⟨number, line, isPid, isLine, which⟩
      rcases isPid with rfl | ⟨pid, process, rfl⟩
      · rw [overwrite_nil, nil_overwrite, or_self] at which
        rcases isLine with rfl | ⟨app, literal, rfl⟩
        · rw [which]
          exact (found_writes old isProcess_one plainApp_literal).1
        · rw [which]
          exact (found_writes old isProcess_one literal).2.2.1
      · rcases isLine with rfl | ⟨app, literal, rfl⟩
        · rw [overwrite_nil, nil_overwrite, or_self] at which
          rw [which]
          exact (found_writes old process plainApp_literal).2.1
        · rcases which with rfl | rfl
          · exact (found_writes old process literal).2.2.2.1
          · exact (found_writes old process literal).2.2.2.2

end LamaOS
