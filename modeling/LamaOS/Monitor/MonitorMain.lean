import LamaOS.Monitor.MonitorPass
import LamaOS.Monitor.PidFile

/-!
# The life of the monitor

`main` of `exe.c` after `daemonize`, with the PID file, the log file and the system log. Signals
come at any time, during a pass as well: a pass goes on as a list of writes that are still to be
made, and only the head of the loop asks for `running`. Each pass finds a tree, files and a clock
of its own; `fopen` and `unlink` may fail on the PID file, and what has been opened is written.
No one else touches the PID file here: what the desktop does to it is the subject of its own
module.
-/

namespace LamaOS

/-- A call of `analyze_elf64` writes to the log file, and then to the system log. -/
def ElfOutput.writes (output : ElfOutput) : List ElfOutput :=
  [⟨output.log, []⟩, ⟨[], output.syslog⟩]

/-- The process, if it is alive, what is left of the pass that it is making, if it is making one,
and what it writes. -/
structure MonitorWorld where
  monitor : Option Monitor
  pass : Option (List ElfOutput)
  file : NamedFile RtU8
  log : List Byte
  syslog : List (List Byte)

/-- What the next step of `main` finds. -/
structure MainAnswer where
  pidFile : PidFileAnswer
  scan : ScanPass

inductive MainEvent where
  | step (answer : MainAnswer)
  | signal

/-- What an event shows: how `fopen` or `unlink` have ended on the PID file, or what the calls of
`analyze_elf64` write in a pass that begins. -/
inductive MainReply where
  | nothing
  | opened (opens : Bool)
  | pass (outputs : List ElfOutput)
  | unlinked (unlinks : Bool)
  deriving DecidableEq, Repr

/-- A pass comes to no end. -/
inductive MainFault where
  | endlessScan
  deriving DecidableEq, Repr

/-- The line at the start. -/
def startedLine : List Byte := cString "ELF monitor başlatıldı"

/-- The line at the end. -/
def stoppedLine : List Byte := cString "ELF monitor durduruldu"

namespace MonitorWorld

/-- `main` has been started. -/
def start (pid : Nat) (file : NamedFile RtU8) (log : List Byte) : MonitorWorld :=
  ⟨some ⟨pid, .started, true⟩, none, file, log, []⟩

/-- What the pass in progress has still to write. -/
def left (w : MonitorWorld) : List ElfOutput := w.pass.getD []

/-- A line for the system log. -/
def writeSyslog (w : MonitorWorld) (line : List Byte) : MonitorWorld :=
  { w with syslog := w.syslog ++ [line] }

/-- A write of a pass, in which these are left. -/
def writeOutput (w : MonitorWorld) (write : ElfOutput) (left : List ElfOutput) : MonitorWorld :=
  { w with
    pass := some left
    log := w.log ++ write.log
    syslog := w.syslog ++ write.syslog }

/-- The process and the PID file after the next step. -/
def advance (w : MonitorWorld) (answer : PidFileAnswer) (m : Monitor) : MonitorWorld :=
  { w with file := (m.stepWith answer w.file).1, monitor := (m.stepWith answer w.file).2 }

end MonitorWorld

/-- One event. -/
def mainStep (w : MonitorWorld) : MainEvent → Except MainFault (MonitorWorld × MainReply)
  | .signal => .ok ({ w with monitor := w.monitor.bind Monitor.signal }, .nothing)
  | .step answer =>
    match w.monitor with
    | none => .ok (w, .nothing)
    | some m =>
      match w.pass with
      | some (write :: rest) => .ok (w.writeOutput write rest, .nothing)
      -- the pass has made its last write: `sleep`
      | some [] => .ok ({ w with pass := none }, .nothing)
      | none =>
        match m.phase with
        | .registered =>
          .ok ((w.advance answer.pidFile m).writeSyslog startedLine, .opened answer.pidFile.opens)
        | .monitoring =>
          if m.running then
            match answer.scan.outputs answer.scan.fs.root.depth with
            | none => .error .endlessScan
            | some outputs =>
              .ok ({ w.advance answer.pidFile m with
                pass := some (outputs.flatMap ElfOutput.writes) }, .pass outputs)
          else .ok (w.advance answer.pidFile m, .nothing)
        | .leaving =>
          .ok ((w.advance answer.pidFile m).writeSyslog stoppedLine,
            .unlinked answer.pidFile.unlinks)
        | _ => .ok (w.advance answer.pidFile m, .nothing)

/-! ## One step -/

section MainStep

variable {w : MonitorWorld} {m : Monitor} (answer : MainAnswer)

/-- What a step does outside of a pass that begins none. -/
def quietStep (w : MonitorWorld) (answer : PidFileAnswer) (m : Monitor) :
    MonitorWorld × MainReply :=
  match m.phase with
  | .started => ({ w with monitor := some { m with phase := .registered } }, .nothing)
  | .registered =>
    ({ w with
      monitor := some { m with
        phase := if answer.opens then .opened w.file.openTrunc.2 else .monitoring }
      file := if answer.opens then w.file.openTrunc.1 else w.file
      syslog := w.syslog ++ [startedLine] }, .opened answer.opens)
  | .opened i =>
    ({ w with
      monitor := some { m with phase := .monitoring }
      file := w.file.write i (decimalText m.pid) }, .nothing)
  | .monitoring => ({ w with monitor := some { m with phase := .leaving } }, .nothing)
  | .leaving =>
    ({ w with
      monitor := some { m with phase := .cleaned }
      file := if answer.unlinks then w.file.unlink else w.file
      syslog := w.syslog ++ [stoppedLine] }, .unlinked answer.unlinks)
  | .cleaned => ({ w with monitor := none }, .nothing)

theorem mainStep_none (dead : w.monitor = none) :
    mainStep w (.step answer) = .ok (w, .nothing) := by
  rw [mainStep, dead]

theorem mainStep_write {write : ElfOutput} {rest : List ElfOutput} (alive : w.monitor = some m)
    (left : w.pass = some (write :: rest)) :
    mainStep w (.step answer) = .ok (w.writeOutput write rest, .nothing) := by
  rw [mainStep, alive, left]

theorem mainStep_sleep (alive : w.monitor = some m) (left : w.pass = some []) :
    mainStep w (.step answer) = .ok ({ w with pass := none }, .nothing) := by
  rw [mainStep, alive, left]

/-- At the head of its loop a monitor that has not been told to stop begins a pass. -/
theorem mainStep_pass (alive : w.monitor = some m) (between : w.pass = none)
    (monitoring : m.phase = .monitoring) (running : m.running = true) :
    mainStep w (.step answer) =
      match answer.scan.outputs answer.scan.fs.root.depth with
      | none => .error .endlessScan
      | some outputs =>
        .ok ({ w with pass := some (outputs.flatMap ElfOutput.writes) }, .pass outputs) := by
  have same : w.advance answer.pidFile m = w := by
    rw [MonitorWorld.advance, Monitor.stepWith, monitoring]
    dsimp only
    rw [if_pos running, ← alive]
  rw [mainStep, alive, between]
  simp only [monitoring, running, if_true, same]
  rw [alive]

/-- Any other step between two passes is a quiet one. -/
theorem mainStep_quiet (alive : w.monitor = some m) (between : w.pass = none)
    (quiet : m.phase = .monitoring → m.running = false) :
    mainStep w (.step answer) = .ok (quietStep w answer.pidFile m) := by
  rw [mainStep, alive, between]
  cases phase : m.phase with
  | started => simp [quietStep, MonitorWorld.advance, Monitor.stepWith, phase, between]
  | registered =>
    simp only [quietStep, MonitorWorld.advance, MonitorWorld.writeSyslog, Monitor.stepWith, phase,
      between]
    split
    · rfl
    · rfl
  | opened i => simp [quietStep, MonitorWorld.advance, Monitor.stepWith, phase, between]
  | monitoring =>
    simp [quietStep, MonitorWorld.advance, Monitor.stepWith, phase, between, quiet phase]
  | leaving =>
    simp [quietStep, MonitorWorld.advance, MonitorWorld.writeSyslog, Monitor.stepWith, phase,
      between]
  | cleaned => simp [quietStep, MonitorWorld.advance, Monitor.stepWith, phase, between]

end MainStep

/-! ## What has happened so far -/

/-- The writes of the passes that have begun. -/
def passWrites (replies : List MainReply) : List ElfOutput :=
  replies.flatMap fun
    | .pass outputs => outputs.flatMap ElfOutput.writes
    | _ => []

/-- The text of the PID file after what a reply shows. -/
def pidTextAfter (pid : Nat) (text : Option (List RtU8)) : MainReply → Option (List RtU8)
  | .opened true => some (decimalText pid)
  | .unlinked true => none
  | _ => text

/-- The text of the PID file, where it is not being written. -/
def pidTextSoFar (pid : Nat) (before : NamedFile RtU8) (replies : List MainReply) :
    Option (List RtU8) :=
  replies.foldl (pidTextAfter pid) before.text

/-- The lines in the system log of a monitor whose passes have made these writes. -/
def syslogSoFar (written : List ElfOutput) : List (List Byte) :=
  startedLine :: written.flatMap ElfOutput.syslog

/-- The system log and the PID file, by where the monitor is. -/
def PhaseTells (text : Option (List RtU8)) (written : List ElfOutput) (w : MonitorWorld)
    (pid : Nat) : MonitorPhase → Prop
  | .started | .registered => w.pass = none ∧ written = [] ∧ w.syslog = [] ∧ w.file.text = text
  | .opened i => w.pass = none ∧ written = [] ∧ w.syslog = [startedLine] ∧
      w.file.current = some i ∧ w.file.content i = [] ∧ text = some (decimalText pid)
  | .monitoring => w.syslog = syslogSoFar written ∧ w.file.text = text
  | .leaving => w.pass = none ∧ w.syslog = syslogSoFar written ∧ w.file.text = text
  | .cleaned => w.pass = none ∧ w.syslog = syslogSoFar written ++ [stoppedLine] ∧
      w.file.text = text

/-- The last thing the monitor does is to call `unlink`. -/
def Unlinked (w : MonitorWorld) (replies : List MainReply) : Prop :=
  ∃ done, .unlinked done ∈ replies ∧ (done = true → w.file.text = none)

/-- What the replies so far say about the world of a monitor, of whose passes these writes have
been made. -/
structure Story (pid : Nat) (before : NamedFile RtU8) (log : List Byte)
    (replies : List MainReply) (written : List ElfOutput) (w : MonitorWorld) : Prop where
  passes : passWrites replies = written ++ w.left
  log : w.log = log ++ written.flatMap ElfOutput.log
  alive : ∀ m, w.monitor = some m → m.pid = pid ∧
    PhaseTells (pidTextSoFar pid before replies) written w pid m.phase ∧
    (m.phase = .cleaned → Unlinked w replies)
  -- a signal kills it before it has done anything, or it has come to its end
  gone : w.monitor = none → w.pass = none ∧ w.file.text = pidTextSoFar pid before replies ∧
    (written = [] ∧ w.syslog = [] ∨
      w.syslog = syslogSoFar written ++ [stoppedLine] ∧ Unlinked w replies)

variable {pid : Nat} {before : NamedFile RtU8} {log : List Byte} {replies : List MainReply}
  {written : List ElfOutput} {w w' : MonitorWorld}

theorem passWrites_append (first second : List MainReply) :
    passWrites (first ++ second) = passWrites first ++ passWrites second := List.flatMap_append

theorem pidTextSoFar_append (reply : MainReply) :
    pidTextSoFar pid before (replies ++ [reply]) =
      pidTextAfter pid (pidTextSoFar pid before replies) reply := by
  rw [pidTextSoFar, List.foldl_append]
  rfl

theorem Unlinked.append (unlinked : Unlinked w replies) (file : w'.file = w.file)
    (reply : MainReply) : Unlinked w' (replies ++ [reply]) := by
  obtain ⟨done, mem, removed⟩ := unlinked
  rw [Unlinked, file]
  exact ⟨done, List.mem_append_left _ mem, removed⟩

theorem story_start (pid : Nat) (before : NamedFile RtU8) (log : List Byte) :
    Story pid before log [] [] (.start pid before log) := by
  refine ⟨rfl, by simp [MonitorWorld.start], ?_, nofun⟩
  intro m same
  cases same
  exact ⟨rfl, ⟨rfl, rfl, rfl, rfl⟩, nofun⟩

/-- An event that shows nothing and leaves everything but the process as it is. -/
theorem Story.of_monitor {monitor : Option Monitor}
    (story : Story pid before log replies written w)
    (alive : ∀ m', monitor = some m' →
      ∃ m, w.monitor = some m ∧ m'.phase = m.phase ∧ m'.pid = m.pid)
    (killed : monitor = none → w.monitor = none ∨
      ∃ m, w.monitor = some m ∧ (m.phase = .started ∨ m.phase = .cleaned)) :
    Story pid before log (replies ++ [.nothing]) written { w with monitor } := by
  have text : pidTextSoFar pid before (replies ++ [.nothing]) = pidTextSoFar pid before replies :=
    pidTextSoFar_append .nothing
  refine ⟨?_, story.log, ?_, ?_⟩
  · rw [passWrites_append, story.passes]
    exact List.append_nil _
  · intro m' now
    obtain ⟨m, was, phase, same⟩ := alive m' now
    obtain ⟨named, tells, unlinked⟩ := story.alive m was
    rw [text, phase, same]
    exact ⟨named, tells, fun cleaned => (unlinked cleaned).append rfl .nothing⟩
  · intro dead
    rw [text]
    rcases killed dead with gone | ⟨m, was, started | cleaned⟩
    · obtain ⟨between, held, which⟩ := story.gone gone
      exact ⟨between, held, which.imp_right fun end' => ⟨end'.1, end'.2.append rfl .nothing⟩⟩
    · obtain ⟨-, tells, -⟩ := story.alive m was
      rw [started] at tells
      exact ⟨tells.1, tells.2.2.2, .inl ⟨tells.2.1, tells.2.2.1⟩⟩
    · obtain ⟨-, tells, unlinked⟩ := story.alive m was
      rw [cleaned] at tells
      exact ⟨tells.1, tells.2.2, .inr ⟨tells.2.1, (unlinked cleaned).append rfl .nothing⟩⟩

/-- A signal changes nothing but `running`, or kills a monitor that has done nothing. -/
theorem Story.signal (story : Story pid before log replies written w) :
    Story pid before log (replies ++ [.nothing]) written
      { w with monitor := w.monitor.bind Monitor.signal } := by
  apply story.of_monitor
  · intro m' signalled
    obtain ⟨m, alive, after⟩ := Option.bind_eq_some_iff.mp signalled
    obtain ⟨phase, same⟩ := Monitor.signal_eq_some after
    exact ⟨m, alive, phase, same⟩
  · intro killed
    cases alive : w.monitor with
    | none => exact .inl rfl
    | some m =>
      rw [alive, Option.bind_some] at killed
      unfold Monitor.signal at killed
      split at killed
      · rename_i started
        exact .inr ⟨m, rfl, .inl started⟩
      · cases killed

/-- A step between two passes is told by where it was. -/
theorem Story.quiet {m : Monitor} (story : Story pid before log replies written w)
    (alive : w.monitor = some m) (between : w.pass = none) (answer : PidFileAnswer) :
    Story pid before log (replies ++ [(quietStep w answer m).2]) written
      (quietStep w answer m).1 := by
  obtain ⟨named, tells, unlinked⟩ := story.alive m alive
  have passes (reply : MainReply) (quiet : passWrites [reply] = []) :
      passWrites (replies ++ [reply]) = written ++ w.left := by
    rw [passWrites_append, story.passes, quiet, List.append_nil]
  rcases m with ⟨number, phase, running⟩
  have same : number = pid := named
  subst same
  cases phase with
  | started =>
    refine ⟨passes _ rfl, story.log, ?_, by rintro ⟨⟩⟩
    rintro _ ⟨⟩
    refine ⟨rfl, ?_, by rintro ⟨⟩⟩
    rw [pidTextSoFar_append]
    exact tells
  | registered =>
    obtain ⟨-, none, silent, held⟩ := tells
    refine ⟨passes _ rfl, story.log, ?_, by rintro ⟨⟩⟩
    rintro _ ⟨⟩
    refine ⟨rfl, ?_, ?_⟩
    · rw [pidTextSoFar_append]
      cases opens : answer.opens with
      | true =>
        simp only [quietStep, opens, if_true, silent, List.nil_append]
        exact ⟨between, none, rfl, NamedFile.current_openTrunc _, NamedFile.content_openTrunc _,
          rfl⟩
      | false =>
        simp only [quietStep, opens, Bool.false_eq_true, if_false, silent, List.nil_append]
        exact ⟨by rw [none]; rfl, held⟩
    · intro cleaned
      dsimp only [quietStep] at cleaned
      split at cleaned
      · cases cleaned
      · cases cleaned
  | opened i =>
    obtain ⟨-, none, silent, current, empty, text⟩ := tells
    refine ⟨passes _ rfl, story.log, ?_, by rintro ⟨⟩⟩
    rintro _ ⟨⟩
    refine ⟨rfl, ⟨?_, ?_⟩, by rintro ⟨⟩⟩
    · rw [none]
      exact silent
    · rw [pidTextSoFar_append, text]
      exact NamedFile.text_write_of_empty current (by rw [NamedFile.text, current, ← empty]; rfl) _
  | monitoring =>
    refine ⟨passes _ rfl, story.log, ?_, by rintro ⟨⟩⟩
    rintro _ ⟨⟩
    refine ⟨rfl, ⟨between, tells.1, ?_⟩, by rintro ⟨⟩⟩
    rw [pidTextSoFar_append]
    exact tells.2
  | leaving =>
    refine ⟨passes _ rfl, story.log, ?_, by rintro ⟨⟩⟩
    rintro _ ⟨⟩
    refine ⟨rfl, ⟨between, ?_, ?_⟩, fun _ => ⟨answer.unlinks, by simp [quietStep], ?_⟩⟩
    · simp only [quietStep, tells.2.1]
    · rw [pidTextSoFar_append]
      cases unlinks : answer.unlinks with
      | true =>
        simp only [quietStep, unlinks, if_true]
        exact NamedFile.text_unlink w.file
      | false =>
        simp only [quietStep, unlinks, Bool.false_eq_true, if_false]
        exact tells.2.2
    · intro done
      simp only [quietStep, done, if_true]
      exact NamedFile.text_unlink w.file
  | cleaned =>
    apply story.of_monitor
    · rintro _ ⟨⟩
    · rintro -
      exact .inr ⟨_, alive, .inr rfl⟩

/-- Only at the head of its loop does a monitor have a pass to go on with. -/
theorem Story.monitoring {m : Monitor} {left : List ElfOutput}
    (story : Story pid before log replies written w) (alive : w.monitor = some m)
    (inside : w.pass = some left) : m.phase = .monitoring := by
  obtain ⟨-, tells, -⟩ := story.alive m alive
  have between : w.pass ≠ none := by
    rw [inside]
    exact Option.some_ne_none left
  cases phase : m.phase with
  | monitoring => rfl
  | started =>
    rw [phase] at tells
    exact absurd tells.1 between
  | registered =>
    rw [phase] at tells
    exact absurd tells.1 between
  | opened i =>
    rw [phase] at tells
    exact absurd tells.1 between
  | leaving =>
    rw [phase] at tells
    exact absurd tells.1 between
  | cleaned =>
    rw [phase] at tells
    exact absurd tells.1 between

/-- A monitor that goes on with its pass, or begins one: what it has written is told by the writes
that it has made. -/
theorem Story.of_pass {m : Monitor} (story : Story pid before log replies written w)
    (alive : w.monitor = some m) (monitoring : m.phase = .monitoring) {reply : MainReply}
    (spares : ∀ text, pidTextAfter pid text reply = text) (now : List ElfOutput)
    (next : Option (List ElfOutput))
    (passes : w.left ++ passWrites [reply] = now ++ next.getD []) :
    Story pid before log (replies ++ [reply]) (written ++ now)
      { w with
        pass := next
        log := w.log ++ now.flatMap ElfOutput.log
        syslog := w.syslog ++ now.flatMap ElfOutput.syslog } := by
  refine ⟨?_, ?_, ?_, ?_⟩
  · rw [passWrites_append, story.passes, List.append_assoc, passes, ← List.append_assoc]
    rfl
  · rw [story.log, List.flatMap_append, List.append_assoc]
  · intro m' same
    obtain rfl : m = m' := Option.some.inj (alive.symm.trans same)
    obtain ⟨named, tells, -⟩ := story.alive m alive
    rw [pidTextSoFar_append, spares]
    rw [monitoring] at tells ⊢
    refine ⟨named, ⟨?_, tells.2⟩, nofun⟩
    simp only [syslogSoFar, tells.1, List.flatMap_append, List.cons_append]
  · intro dead
    exact absurd (alive.symm.trans dead) (Option.some_ne_none m)

/-- A step of `main` is told by where it was, what it shows and the write of a pass that it
makes. -/
theorem Story.step {answer : MainAnswer} {reply : MainReply}
    (story : Story pid before log replies written w)
    (done : mainStep w (.step answer) = .ok (w', reply)) :
    ∃ now, Story pid before log (replies ++ [reply]) (written ++ now) w' := by
  cases alive : w.monitor with
  | none =>
    rw [mainStep_none answer alive] at done
    cases done
    refine ⟨[], ?_⟩
    rw [List.append_nil]
    have quiet : Story pid before log (replies ++ [.nothing]) written { w with
        monitor := w.monitor } := story.of_monitor (fun m' same => ⟨m', same, rfl, rfl⟩) .inl
    exact quiet
  | some m =>
    cases inside : w.pass with
    | some left =>
      have monitoring := story.monitoring alive inside
      cases left with
      | nil =>
        rw [mainStep_sleep answer alive inside] at done
        cases done
        refine ⟨[], ?_⟩
        have passes : w.left ++ passWrites [.nothing] = [] := by
          rw [MonitorWorld.left, inside]
          rfl
        have same := story.of_pass alive monitoring (fun _ => rfl) [] none passes
        simpa using same
      | cons write rest =>
        rw [mainStep_write answer alive inside] at done
        cases done
        refine ⟨[write], ?_⟩
        have passes : w.left ++ passWrites [.nothing] = [write] ++ rest := by
          rw [MonitorWorld.left, inside]
          exact List.append_nil _
        have same := story.of_pass alive monitoring (fun _ => rfl) [write] (some rest) passes
        simpa [MonitorWorld.writeOutput] using same
    | none =>
      by_cases passes : m.phase = .monitoring ∧ m.running = true
      · rw [mainStep_pass answer alive inside passes.1 passes.2] at done
        cases scanned : answer.scan.outputs answer.scan.fs.root.depth with
        | none => simp only [scanned, reduceCtorEq] at done
        | some outputs =>
          simp only [scanned] at done
          cases done
          refine ⟨[], ?_⟩
          have begun : w.left ++ passWrites [.pass outputs] =
              outputs.flatMap ElfOutput.writes := by
            rw [MonitorWorld.left, inside]
            exact List.append_nil _
          have same := story.of_pass alive passes.1 (fun _ => rfl) []
            (some (outputs.flatMap ElfOutput.writes)) begun
          simpa using same
      · rw [mainStep_quiet answer alive inside (by simpa using passes)] at done
        have quiet := story.quiet alive inside answer.pidFile
        rw [Except.ok.inj done] at quiet
        exact ⟨[], by rwa [List.append_nil]⟩

theorem Story.run (story : Story pid before log replies written w) {events : List MainEvent}
    {later : List MainReply} (ran : Calls.run mainStep w events = .ok (w', later)) :
    ∃ now, Story pid before log (replies ++ later) (written ++ now) w' := by
  induction events generalizing w replies written later with
  | nil =>
    obtain ⟨rfl, rfl⟩ := Prod.mk.inj (Except.ok.inj ran)
    exact ⟨[], by simpa using story⟩
  | cons event events ih =>
    obtain ⟨next, reply, rest, first, last, rfl⟩ := Calls.run_cons ran
    obtain ⟨now, story'⟩ :
        ∃ now, Story pid before log (replies ++ [reply]) (written ++ now) next := by
      cases event with
      | step answer => exact story.step first
      | signal =>
        cases first
        exact ⟨[], by simpa using story.signal⟩
    obtain ⟨now', story''⟩ := ih story' last
    exact ⟨now ++ now', by simpa using story''⟩

/-- Whenever steps and signals leave it, in a pass or between two, what the monitor has written is
told by what it has shown: the writes of its passes in order, up to some point of the last one;
the log file has grown by them, the system log is the line at the start, their lines and, at the
very end, the line at the end, and the PID file is as it was at first until the monitor has opened
it, holds its number when it has been written, and is gone once `unlink` has succeeded. -/
theorem monitor_story (pid : Nat) (before : NamedFile RtU8) (log : List Byte)
    (events : List MainEvent) (w : MonitorWorld) (replies : List MainReply)
    (ran : Calls.run mainStep (.start pid before log) events = .ok (w, replies)) :
    ∃ written, Story pid before log replies written w :=
  (story_start pid before log).run ran

/-- In a pass the monitor makes one write after the other. -/
theorem run_writes {m : Monitor} (answer : MainAnswer) (alive : w.monitor = some m)
    (writes rest : List ElfOutput) (left : w.pass = some (writes ++ rest)) :
    Calls.run mainStep w (List.replicate writes.length (.step answer)) =
      .ok ({ w with
        pass := some rest
        log := w.log ++ writes.flatMap ElfOutput.log
        syslog := w.syslog ++ writes.flatMap ElfOutput.syslog },
        List.replicate writes.length .nothing) := by
  induction writes generalizing w with
  | nil =>
    rw [List.nil_append] at left
    simp [Calls.run, ← left]
  | cons write writes ih =>
    have first := mainStep_write answer alive left
    have later := ih (w := w.writeOutput write (writes ++ rest)) alive rfl
    rw [List.length_cons, List.replicate_succ, Calls.run, first]
    dsimp only
    rw [List.append_eq, later]
    simp [Except.map, MonitorWorld.writeOutput, List.replicate_succ]

/-- What the calls on the two files of the sample tree write that can be reached. -/
def sampleOutputs : List ElfOutput :=
  [⟨elfReport (cString "2024-01-01 00:00:00") (cString "//a") (elfNumbers .little aarch64Elf),
      [cString "X64 ELF tespit edildi: //a"]⟩,
    ⟨elfReport (cString "2024-01-01 00:00:00") (cString "//aa/a") (elfNumbers .little aarch64Elf),
      [cString "X64 ELF tespit edildi: //aa/a"]⟩]

theorem samplePass_outputs :
    samplePass.outputs samplePass.fs.root.depth = some sampleOutputs := by
  decide +kernel

/-- A step that finds the sample tree, and a PID file that can be opened and removed. -/
def sampleStep : MainEvent := .step ⟨⟨true, true⟩, samplePass⟩

/-- What a monitor shows that registers its handler, opens its PID file, writes it, begins a pass
and makes three of its four writes. -/
def sampleReplies : List MainReply :=
  [.nothing, .opened true, .nothing, .pass sampleOutputs, .nothing, .nothing, .nothing]

/-- The write that is left. -/
def lastWrite : ElfOutput := ⟨[], [cString "X64 ELF tespit edildi: //aa/a"]⟩

theorem sample_run : ∃ w, Calls.run mainStep (.start 42 (.initial none) [])
      (List.replicate 7 sampleStep) = .ok (w, sampleReplies) ∧
    w.monitor = some ⟨42, .monitoring, true⟩ ∧
    w.left = [lastWrite] := by
  obtain ⟨w, first, alive, between⟩ : ∃ w, Calls.run mainStep (.start 42 (.initial none) [])
      (List.replicate 3 sampleStep) = .ok (w, [.nothing, .opened true, .nothing]) ∧
      w.monitor = some ⟨42, .monitoring, true⟩ ∧ w.pass = none := ⟨_, rfl, rfl, rfl⟩
  have begins : mainStep w sampleStep = .ok
      ({ w with pass := some (sampleOutputs.flatMap ElfOutput.writes) }, .pass sampleOutputs) := by
    rw [sampleStep, mainStep_pass _ alive between rfl rfl, samplePass_outputs]
  have writes := run_writes ⟨⟨true, true⟩, samplePass⟩
    (w := { w with pass := some (sampleOutputs.flatMap ElfOutput.writes) }) alive
    ((sampleOutputs.flatMap ElfOutput.writes).take 3) [lastWrite] rfl
  obtain ⟨w', later, alive', left⟩ : ∃ w',
      Calls.run mainStep { w with pass := some (sampleOutputs.flatMap ElfOutput.writes) }
        (List.replicate 3 sampleStep) = .ok (w', List.replicate 3 .nothing) ∧
      w'.monitor = some ⟨42, .monitoring, true⟩ ∧ w'.left = [lastWrite] := ⟨_, writes, alive, rfl⟩
  have whole : List.replicate 7 sampleStep =
    List.replicate 3 sampleStep ++ sampleStep :: List.replicate 3 sampleStep := rfl
  refine ⟨w', ?_, alive', left⟩
  rw [whole, Calls.run_append first, Calls.run, begins]
  dsimp only
  rw [later]
  rfl

/-- The system log and the PID file of a monitor inside its first pass, before its last line. -/
theorem monitor_story_sample :
    ∃ w, Calls.run mainStep (.start 42 (.initial none) []) (List.replicate 7 sampleStep) =
        .ok (w, sampleReplies) ∧
      w.syslog = [startedLine, cString "X64 ELF tespit edildi: //a"] ∧
      w.file.text = some (decimalText 42) := by
  obtain ⟨w, ran, alive, left⟩ := sample_run
  obtain ⟨written, story⟩ :=
    monitor_story 42 (.initial none) [] (List.replicate 7 sampleStep) w _ ran
  obtain ⟨-, ⟨syslog, text⟩, -⟩ := story.alive _ alive
  have passes := story.passes
  rw [left] at passes
  have made : written = (sampleOutputs.flatMap ElfOutput.writes).take 3 := by
    have same : written ++ [lastWrite] =
        (sampleOutputs.flatMap ElfOutput.writes).take 3 ++ [lastWrite] := passes.symm
    exact List.append_cancel_right same
  refine ⟨w, ran, ?_, text⟩
  rw [syslog, made]
  rfl

/-! ## Stopping -/

/-- How many steps a monitor takes that does not go round its loop. -/
def stepsLeft : MonitorPhase → Nat
  | .started => 6
  | .registered => 5
  | .opened _ => 4
  | .monitoring => 3
  | .leaving => 2
  | .cleaned => 1

/-- And how many there are in its pass: the writes and the `sleep`. -/
def passSteps : Option (List ElfOutput) → Nat
  | none => 0
  | some left => left.length + 1

/-- The lines it writes on the way. -/
def linesLeft : MonitorPhase → List (List Byte)
  | .started | .registered => [startedLine, stoppedLine]
  | .opened _ | .monitoring | .leaving => [stoppedLine]
  | .cleaned => []

/-- The monitor has been told to stop, is at most `n` steps from its end, and is about to leave
the system log and the log file like this. -/
structure Stopping (final : List (List Byte)) (finalLog : List Byte) (n : Nat) (w : MonitorWorld) :
    Prop where
  log : w.log ++ w.left.flatMap ElfOutput.log = finalLog
  alive : ∀ m, w.monitor = some m → m.running = false ∧ m.phase ≠ .started ∧
    passSteps w.pass + stepsLeft m.phase ≤ n ∧
    w.syslog ++ w.left.flatMap ElfOutput.syslog ++ linesLeft m.phase = final
  gone : w.monitor = none → w.left = [] ∧ w.syslog = final

variable {final : List (List Byte)} {finalLog : List Byte} {n : Nat}

theorem Stopping.signal (stopping : Stopping final finalLog n w) :
    Stopping final finalLog n { w with monitor := w.monitor.bind Monitor.signal } := by
  refine ⟨stopping.log, ?_, ?_⟩
  · intro m' signalled
    obtain ⟨m, alive, after⟩ := Option.bind_eq_some_iff.mp signalled
    obtain ⟨phase, -⟩ := Monitor.signal_eq_some after
    obtain ⟨-, registered, left⟩ := stopping.alive m alive
    have stopped : m'.running = false := by
      unfold Monitor.signal at after
      split at after
      · cases after
      · cases after
        rfl
    rw [phase]
    exact ⟨stopped, registered, left⟩
  · intro killed
    cases alive : w.monitor with
    | none => exact stopping.gone alive
    | some m =>
      obtain ⟨-, registered, -⟩ := stopping.alive m alive
      rw [alive, Option.bind_some] at killed
      unfold Monitor.signal at killed
      split at killed
      · rename_i started
        exact absurd started registered
      · cases killed

theorem quietStep_pass (answer : PidFileAnswer) (m : Monitor) :
    (quietStep w answer m).1.pass = w.pass := by
  unfold quietStep
  split <;> rfl

theorem quietStep_log (answer : PidFileAnswer) (m : Monitor) :
    (quietStep w answer m).1.log = w.log := by
  unfold quietStep
  split <;> rfl

theorem quietStep_noPass {answer : PidFileAnswer} {m : Monitor} (outputs : List ElfOutput) :
    (quietStep w answer m).2 ≠ .pass outputs := by
  unfold quietStep
  split <;> exact nofun

/-- A monitor that has been told to stop goes on to its next phase. -/
theorem quietStep_stopped {m m' : Monitor} {answer : PidFileAnswer} (stopped : m.running = false)
    (registered : m.phase ≠ .started) (alive : (quietStep w answer m).1.monitor = some m') :
    m'.running = false ∧ m'.phase ≠ .started ∧ stepsLeft m'.phase < stepsLeft m.phase ∧
      (quietStep w answer m).1.syslog ++ linesLeft m'.phase = w.syslog ++ linesLeft m.phase := by
  rcases m with ⟨number, phase, running⟩
  cases phase with
  | started => exact absurd rfl registered
  | registered =>
    cases alive
    cases opens : answer.opens with
    | true =>
      simp only [if_true]
      exact ⟨stopped, by simp, by simp [stepsLeft], List.append_assoc _ _ _⟩
    | false =>
      simp only [Bool.false_eq_true, if_false]
      exact ⟨stopped, by simp, by simp [stepsLeft], List.append_assoc _ _ _⟩
  | opened i =>
    cases alive
    exact ⟨stopped, by simp, by simp [stepsLeft], rfl⟩
  | monitoring =>
    cases alive
    exact ⟨stopped, by simp, by simp [stepsLeft], rfl⟩
  | leaving =>
    cases alive
    exact ⟨stopped, by simp, by simp [stepsLeft], List.append_assoc _ _ _⟩
  | cleaned => cases alive

/-- Or ends, with all its lines written. -/
theorem quietStep_ended {m : Monitor} {answer : PidFileAnswer}
    (gone : (quietStep w answer m).1.monitor = none) :
    (quietStep w answer m).1.syslog = w.syslog ++ linesLeft m.phase := by
  rcases m with ⟨number, phase, running⟩
  cases phase with
  | cleaned => exact (List.append_nil _).symm
  | started => cases gone
  | registered => cases gone
  | opened i => cases gone
  | monitoring => cases gone
  | leaving => cases gone

/-- A step brings it nearer to its end, and begins no pass. -/
theorem Stopping.step (stopping : Stopping final finalLog (n + 1) w) (answer : MainAnswer) :
    ∃ w' reply, mainStep w (.step answer) = .ok (w', reply) ∧ (∀ outputs, reply ≠ .pass outputs) ∧
      Stopping final finalLog n w' := by
  cases alive : w.monitor with
  | none =>
    refine ⟨w, .nothing, mainStep_none answer alive, nofun, stopping.log, ?_, fun _ =>
      stopping.gone alive⟩
    intro m same
    exact absurd (alive.symm.trans same).symm (Option.some_ne_none m)
  | some m =>
    have log := stopping.log
    obtain ⟨stopped, registered, steps, lines⟩ := stopping.alive m alive
    cases inside : w.pass with
    | some left =>
      have held : w.left = left := by rw [MonitorWorld.left, inside, Option.getD_some]
      rw [inside, passSteps] at steps
      rw [held] at log lines
      cases left with
      | nil =>
        refine ⟨_, _, mainStep_sleep answer alive inside, nofun, log, ?_, ?_⟩
        · intro m' same
          obtain rfl : m = m' := Option.some.inj (alive.symm.trans same)
          exact ⟨stopped, registered, by simp only [passSteps, List.length_nil] at steps ⊢; omega,
            lines⟩
        · intro dead
          exact absurd (alive.symm.trans dead) (Option.some_ne_none m)
      | cons write rest =>
        refine ⟨_, _, mainStep_write answer alive inside, nofun, ?_, ?_, ?_⟩
        · rw [← log, List.flatMap_cons, ← List.append_assoc]
          rfl
        · intro m' same
          obtain rfl : m = m' := Option.some.inj (alive.symm.trans same)
          refine ⟨stopped, registered, ?_, ?_⟩
          · simp only [MonitorWorld.writeOutput, passSteps, List.length_cons] at steps ⊢
            omega
          · rw [← lines, List.flatMap_cons, ← List.append_assoc]
            rfl
        · intro dead
          exact absurd (alive.symm.trans dead) (Option.some_ne_none m)
    | none =>
      have nothing : w.left = [] := by rw [MonitorWorld.left, inside, Option.getD_none]
      have nothing' : (quietStep w answer.pidFile m).1.left = [] := by
        rw [MonitorWorld.left, quietStep_pass, inside, Option.getD_none]
      rw [inside, passSteps] at steps
      rw [nothing] at log lines
      rw [List.flatMap_nil, List.append_nil] at lines
      refine ⟨(quietStep w answer.pidFile m).1, (quietStep w answer.pidFile m).2,
        mainStep_quiet answer alive inside fun _ => stopped, quietStep_noPass, ?_, ?_, ?_⟩
      · rw [nothing', quietStep_log]
        exact log
      · intro m' same
        obtain ⟨stopped', registered', fewer, lines'⟩ := quietStep_stopped stopped registered same
        refine ⟨stopped', registered', ?_, ?_⟩
        · rw [quietStep_pass, inside, passSteps]
          omega
        · rw [nothing', List.flatMap_nil, List.append_nil, lines', lines]
      · intro dead
        exact ⟨nothing', (quietStep_ended dead).trans lines⟩

/-- At the end there is no monitor. -/
theorem Stopping.ended (stopping : Stopping final finalLog 0 w) : w.monitor = none := by
  cases alive : w.monitor with
  | none => rfl
  | some m =>
    obtain ⟨-, -, left, -⟩ := stopping.alive m alive
    cases phase : m.phase <;> simp [phase, stepsLeft] at left

def isStep : MainEvent → Bool
  | .step _ => true
  | .signal => false

/-- Every step of a run brings it nearer to its end, and nothing in the run delays it. -/
theorem Stopping.run (stopping : Stopping final finalLog n w) (events : List MainEvent) :
    ∃ w' replies, Calls.run mainStep w events = .ok (w', replies) ∧
      (∀ outputs, .pass outputs ∉ replies) ∧
      Stopping final finalLog (n - events.countP isStep) w' := by
  induction events generalizing w n with
  | nil => exact ⟨w, [], rfl, by simp, stopping⟩
  | cons event events ih =>
    cases event with
    | signal =>
      obtain ⟨w', replies, ran, none, later⟩ := ih stopping.signal
      refine ⟨w', .nothing :: replies, by simp [Calls.run, mainStep, ran, Except.map], ?_,
        by simpa [isStep] using later⟩
      intro outputs
      simp [none outputs]
    | step answer =>
      obtain ⟨next, reply, first, quiet, stopping'⟩ : ∃ next reply,
          mainStep w (.step answer) = .ok (next, reply) ∧ (∀ outputs, reply ≠ .pass outputs) ∧
          Stopping final finalLog (n - 1) next := by
        cases n with
        | succ n => exact stopping.step answer
        | zero => exact ⟨w, .nothing, mainStep_none answer stopping.ended, by simp, stopping⟩
      obtain ⟨w', replies, ran, none, later⟩ := ih stopping'
      refine ⟨w', reply :: replies, by simp [Calls.run, first, ran, Except.map], ?_, ?_⟩
      · intro outputs
        simp [none outputs, (quiet outputs).symm]
      · rw [List.countP_cons_of_pos rfl, Nat.add_comm, ← Nat.sub_sub]
        exact later

/-- A signal to a monitor that has its handler registered, with the end that is ahead of it. -/
theorem Story.stopping {m : Monitor} (story : Story pid before log replies written w)
    (alive : w.monitor = some m) (registered : m.phase ≠ .started) :
    Stopping (syslogSoFar (passWrites replies) ++ [stoppedLine])
      (w.log ++ w.left.flatMap ElfOutput.log) (5 + w.left.length)
      { w with monitor := w.monitor.bind Monitor.signal } := by
  obtain ⟨-, tells, -⟩ := story.alive m alive
  have signalled : w.monitor.bind Monitor.signal = some { m with running := false } := by
    rw [alive, Option.bind_some]
    unfold Monitor.signal
    split
    · rename_i started
      exact absurd started registered
    · rfl
  have idle (between : w.pass = none) : w.left = [] := by
    rw [MonitorWorld.left, between, Option.getD_none]
  rw [signalled, story.passes]
  refine ⟨rfl, ?_, nofun⟩
  rintro _ ⟨⟩
  refine ⟨rfl, registered, ?_⟩
  dsimp only
  cases phase : m.phase with
  | started => exact absurd phase registered
  | registered =>
    rw [phase] at tells
    obtain ⟨between, none, silent, -⟩ := tells
    refine ⟨by simp [between, passSteps, stepsLeft], ?_⟩
    simp [MonitorWorld.left, between, silent, none, syslogSoFar, linesLeft]
  | opened i =>
    rw [phase] at tells
    obtain ⟨between, none, silent, -⟩ := tells
    refine ⟨by simp [between, passSteps, stepsLeft]; omega, ?_⟩
    simp [MonitorWorld.left, between, silent, none, syslogSoFar, linesLeft]
  | monitoring =>
    rw [phase] at tells
    refine ⟨?_, ?_⟩
    · rw [MonitorWorld.left]
      cases w.pass with
      | none => simp [passSteps, stepsLeft]
      | some left => simp [passSteps, stepsLeft]; omega
    · rw [tells.1]
      simp [MonitorWorld.left, syslogSoFar, linesLeft]
  | leaving =>
    rw [phase] at tells
    refine ⟨by simp [tells.1, passSteps, stepsLeft]; omega, ?_⟩
    simp [MonitorWorld.left, tells.1, tells.2.1, linesLeft]
  | cleaned =>
    rw [phase] at tells
    refine ⟨by simp [tells.1, passSteps, stepsLeft]; omega, ?_⟩
    simp [MonitorWorld.left, tells.1, tells.2.1, linesLeft]

/-- A monitor that is given a signal once its handler is registered, in a pass or between two,
begins no further pass, be the tree what it may. It makes what writes are left of the pass that it
is in; after at most five more steps it is gone, whatever other signals come. It has then called
`unlink` on its PID file, the log file has grown by the writes that were left and nothing else,
and the line at the end is the last one in the system log. -/
theorem monitor_shutdown (pid : Nat) (before : NamedFile RtU8) (log : List Byte)
    (events : List MainEvent) (w : MonitorWorld) (replies : List MainReply)
    (ran : Calls.run mainStep (.start pid before log) events = .ok (w, replies)) (m : Monitor)
    (alive : w.monitor = some m) (registered : m.phase ≠ .started) (later : List MainEvent)
    (enough : 5 + w.left.length ≤ later.countP isStep) :
    ∃ w' replies', Calls.run mainStep w (.signal :: later) = .ok (w', replies') ∧
      (∀ outputs, .pass outputs ∉ replies') ∧ w'.monitor = none ∧
      Unlinked w' (replies ++ replies') ∧
      w'.log = w.log ++ w.left.flatMap ElfOutput.log ∧
      w'.syslog = syslogSoFar (passWrites replies) ++ [stoppedLine] := by
  obtain ⟨written, story⟩ := (story_start pid before log).run ran
  rw [List.nil_append, List.nil_append] at story
  obtain ⟨w', replies', ran', none, stopping⟩ := (story.stopping alive registered).run later
  rw [Nat.sub_eq_zero_of_le enough] at stopping
  have ended := stopping.ended
  obtain ⟨nothing, syslog⟩ := stopping.gone ended
  have whole : Calls.run mainStep w (.signal :: later) = .ok (w', .nothing :: replies') := by
    simp [Calls.run, mainStep, ran', Except.map]
  obtain ⟨now, story'⟩ := story.run whole
  refine ⟨w', .nothing :: replies', whole, ?_, ended, ?_, ?_, syslog⟩
  · intro outputs
    simp [none outputs]
  · rcases (story'.gone ended).2.2 with ⟨-, silent⟩ | ⟨-, unlinked⟩
    · rw [syslog] at silent
      simp [syslogSoFar] at silent
    · exact unlinked
  · rw [← stopping.log, nothing, List.flatMap_nil, List.append_nil]

/-- A signal inside the pass: its last line is written, and then the one at the end. -/
theorem monitor_shutdown_sample :
    ∃ w w' replies, Calls.run mainStep (.start 42 (.initial none) [])
        (List.replicate 7 sampleStep) = .ok (w, sampleReplies) ∧
      Calls.run mainStep w (.signal :: List.replicate 6 sampleStep) = .ok (w', replies) ∧
      w'.monitor = none ∧
      w'.syslog = [startedLine, cString "X64 ELF tespit edildi: //a",
        cString "X64 ELF tespit edildi: //aa/a", stoppedLine] := by
  obtain ⟨w, ran, alive, left⟩ := sample_run
  have enough : 5 + w.left.length ≤ (List.replicate 6 sampleStep).countP isStep := by
    rw [left]
    decide
  obtain ⟨w', replies, ran', -, ended, -, -, syslog⟩ := monitor_shutdown 42 (.initial none) []
    (List.replicate 7 sampleStep) w _ ran _ alive nofun (List.replicate 6 sampleStep) enough
  refine ⟨w, w', replies, ran, ran', ended, ?_⟩
  rw [syslog]
  rfl

end LamaOS
