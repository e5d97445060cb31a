import LamaOS.Desktop.Desktop
import LamaOS.Misc.Shell

/-!
# The command of a button

`on_button_clicked` puts the name of a file between two fixed parts of a command and hands the
text to the shell, through a buffer of 256 bytes. The shell knows nothing of names: it splits
the text by its own rules. For which names that gives the two commands that are meant is
settled here for every name that the scan of the desktop can pass on.
-/

namespace LamaOS

open Shell

/-- A name that `scan_applications` can pass to a button. -/
structure AppName where
  bytes : List RtU8
  short : bytes.length ≤ 255
  noNul : 0 ∉ bytes
  noSlash : 0x2F ∉ bytes
  exe : hasExe bytes = true

/-- The commands that are meant: the start of the service, and an echo of the name that is
redirected to the PID file. -/
def meantCommands (appName : List RtU8) : List (Command × Text) :=
  [(⟨[cString "systemctl", cString "--no-block", cString "start",
      cString "elf_monitor.service"], []⟩, cString "&&"),
    (⟨[cString "echo", appName],
      [⟨none, cString ">", cString "/var/run/elf_monitor.pid"⟩]⟩, [])]

/-- The shell is given the complete text, and splits it into the commands that are meant. -/
structure RunsAsMeant (appName : List RtU8) : Prop where
  complete : buttonCommand appName = buttonText appName
  commands : split (buttonCommand appName) = .ok (meantCommands appName)

/-- A name that the shell reads as one word, short enough for the buffer. -/
structure PlainName (appName : List RtU8) : Prop where
  short : appName.length ≤ 173
  noComment : appName.head? ≠ some hash
  literal : Literal appName

/-! ## The fixed parts -/

/-- The tokens in front of the name. -/
def tokensBefore : List Token :=
  [.word (cString "systemctl"), .word (cString "--no-block"), .word (cString "start"),
    .word (cString "elf_monitor.service"), .operator (cString "&&"), .word (cString "echo")]

theorem read_before :
    Reader.start.read (cString "systemctl --no-block start elf_monitor.service && echo ") =
      .ok (tokensBefore, Reader.start) := by
  decide +kernel

/-- The part behind the name, without the blank it begins with. -/
def redirectionText : Text := cString "> /var/run/elf_monitor.pid"

theorem textAfter_eq : cString " > /var/run/elf_monitor.pid" = space :: redirectionText := by
  decide

theorem read_redirection :
    Reader.start.read redirectionText =
      .ok ([.operator (cString ">")], ⟨.word (cString "/var/run/elf_monitor.pid") false,
        .unquoted⟩) := by
  decide +kernel

/-- An unquoted token in progress ends at the blank behind the name. -/
theorem read_after_unquoted {p : Progress} {quoting : Quoting} {ended : List Token} {r : Reader}
    (unquoted : quoting = .unquoted ∨ quoting = .dollar)
    (done : Reader.read ⟨p, quoting⟩ (space :: redirectionText) = .ok (ended, r)) :
    ended = p.delimit false ++ [.operator (cString ">")] ∧
      r = ⟨.word (cString "/var/run/elf_monitor.pid") false, .unquoted⟩ := by
  rcases Reader.read_cons_iff.mp done with ⟨before, next, after, pushed, rest, rfl⟩
  rw [Reader.push_space p unquoted] at pushed
  cases pushed
  rw [read_redirection] at rest
  cases rest
  exact ⟨rfl, rfl⟩

/-- An escaped blank belongs to the word in front of it. -/
theorem read_after_escaped {p : Progress} {ended : List Token} {r : Reader}
    (done : Reader.read ⟨p, .escaped⟩ (space :: redirectionText) = .ok (ended, r)) :
    ∃ text, text ++ [space] ∈ ended.flatMap Token.texts := by
  rcases Reader.read_cons_iff.mp done with ⟨before, next, after, pushed, rest, rfl⟩
  have first : redirectionText = greater :: redirectionText.tail := by decide
  rw [first] at rest
  rcases Reader.read_cons_iff.mp rest with ⟨before', next', after', pushed', _, rfl⟩
  have added : ∃ text, (p.add [space] true).2 = .word (text ++ [space]) true := by
    cases p with
    | none => exact ⟨[], rfl⟩
    | operator op => exact ⟨[], rfl⟩
    | word text quoted => exact ⟨text, by simp [Progress.add]⟩
  rcases added with ⟨text, added⟩
  rw [Reader.push, if_neg (by decide)] at pushed
  cases pushed
  simp only [added] at pushed'
  have ends : before' = [.word (text ++ [space])] := by
    cases pushed'
    rfl
  refine ⟨text, ?_⟩
  rw [ends]
  simp [Token.texts]

/-- A quotation that is open behind the name is never closed: the text cannot be split. -/
theorem read_after_quoted {r r' : Reader} {after : List Token}
    (quoted : r.quoting = .single ∨ r.quoting = .double ∨ r.quoting = .doubleEscaped ∨
      r.quoting = .doubleDollar)
    (done : r.read (space :: redirectionText) = .ok (after, r')) (last : List Token) :
    r'.finish ≠ .ok last := by
  intro finished
  rcases quoted with single | double
  · rcases r with ⟨p, quoting⟩
    obtain rfl : quoting = .single := single
    have stays := Reader.read_single (by decide) done
    simp [Reader.finish, stays] at finished
  · rcases Reader.read_double (by decide) (by decide) double done with stays | stays | stays
    · simp [Reader.finish, stays] at finished
    · simp [Reader.finish, stays] at finished
    · simp [Reader.finish, stays] at finished

/-! ## Names that are no single word -/

/-- A name that is a comment or does not stand for itself adds fewer bytes to the words than it
has. -/
theorem read_name_size {appName : Text} {ended : List Token} {r : Reader}
    (done : Reader.start.read appName = .ok (ended, r))
    (meant : appName.head? = some hash ∨ ¬ Literal appName) :
    textsSize ended + r.size < appName.length := by
  rcases meant with comment | other
  · cases appName with
    | nil => cases comment
    | cons b rest =>
      obtain rfl : b = hash := Option.some.inj comment
      rcases Reader.read_cons_iff.mp done with ⟨before, next, after, pushed, later, rfl⟩
      have none := Reader.pushUnquoted_meant_size (p := .none) (.inr ⟨rfl, rfl⟩) (by decide)
        pushed
      have few := Reader.read_size later
      rw [textsSize_append, List.length_cons]
      change _ ≤ 0 at none
      omega
  · have fewer := Reader.read_unquoted_size done other
    rwa [Progress.size, Nat.zero_add] at fewer

/-- The bytes of the words in the meant commands. -/
theorem meantCommands_size {appName : Text} {list : List Token}
    (same : (list.flatMap Token.texts).Perm
      ((meantCommands appName).flatMap (·.1.texts))) :
    textsSize list = textsSize tokensBefore + appName.length + 24 := by
  have sizes := (same.map List.length).sum_nat
  have before : textsSize tokensBefore = 47 := by decide
  have lengths : ((meantCommands appName).flatMap (·.1.texts)).map List.length =
      [9, 10, 5, 19, 4, appName.length, 24] := rfl
  rw [textsSize, sizes, lengths, before]
  simp only [List.sum_cons, List.sum_nil]
  omega

/-- What the shell makes of a complete text, as far as the name decides it. -/
theorem split_buttonText {appName : List RtU8} {commands : List (Command × Text)}
    (done : split (buttonText appName) = .ok commands) :
    ∃ ended r after r' last, Reader.start.read appName = .ok (ended, r) ∧
      r.read (space :: redirectionText) = .ok (after, r') ∧ r'.finish = .ok last ∧
      ((tokensBefore ++ (ended ++ after) ++ last).flatMap Token.texts).Perm
        (commands.flatMap (·.1.texts)) := by
  rcases split_texts done with ⟨list, listed, same⟩
  rcases tokens_iff.mp listed with ⟨all, r', last, read, finished, rfl⟩
  rw [buttonText, textAfter_eq, List.append_assoc] at read
  rcases Reader.read_append_iff.mp read with ⟨before, next, rest, first, read, rfl⟩
  rw [read_before] at first
  cases first
  rcases Reader.read_append_iff.mp read with ⟨ended, r, after, second, third, rfl⟩
  exact ⟨ended, r, after, r', last, second, third, finished, same⟩

/-- A word of the meant commands that ends with a blank is the name. -/
theorem eq_appName_of_blank {appName text : Text}
    (mem : text ++ [space] ∈ (meantCommands appName).flatMap (·.1.texts)) :
    text ++ [space] = appName := by
  have fixed : ∀ word ∈ [cString "systemctl", cString "--no-block", cString "start",
      cString "elf_monitor.service", cString "echo", cString "/var/run/elf_monitor.pid"],
      word.getLast? ≠ some space := by decide
  have words : (meantCommands appName).flatMap (·.1.texts) =
      [cString "systemctl", cString "--no-block", cString "start", cString "elf_monitor.service",
        cString "echo", appName, cString "/var/run/elf_monitor.pid"] := rfl
  by_contra different
  apply fixed (text ++ [space]) _ List.getLast?_concat
  rw [words] at mem
  simp only [List.mem_cons, List.not_mem_nil, or_false, different, false_or] at mem ⊢
  exact mem

/-- A name that ends in an unquoted token comes to stand in words as a whole. -/
theorem size_eq_of_unquoted {appName : Text} {ended after last : List Token} {p : Progress}
    {quoting : Quoting} {r : Reader} (unquoted : quoting = .unquoted ∨ quoting = .dollar)
    (rest : Reader.read ⟨p, quoting⟩ (space :: redirectionText) = .ok (after, r))
    (finished : r.finish = .ok last)
    (total : textsSize tokensBefore + (textsSize ended + textsSize after) + textsSize last =
      textsSize tokensBefore + appName.length + 24) :
    textsSize ended + (Reader.mk p quoting).size = appName.length := by
  rcases read_after_unquoted unquoted rest with ⟨rfl, rfl⟩
  cases finished
  rw [textsSize_append, Progress.delimit_size, Progress.delimit_size] at total
  have operator : textsSize [.operator (cString ">")] = 0 := rfl
  have pidFile : (Progress.word (cString "/var/run/elf_monitor.pid") false).size = 24 := by decide
  have size : (Reader.mk p quoting).size = p.size := by
    rcases unquoted with rfl | rfl
    · rfl
    · rfl
  dsimp only at total
  omega

/-- If the text is split as it is meant to be, the name stands for itself. -/
theorem literal_of_commands {appName : List RtU8}
    (done : split (buttonText appName) = .ok (meantCommands appName)) :
    appName.head? ≠ some hash ∧ Literal appName := by
  by_contra other
  have meant : appName.head? = some hash ∨ ¬ Literal appName := by
    rcases not_and_or.mp other with comment | other
    · exact .inl (not_not.mp comment)
    · exact .inr other
  rcases split_buttonText done with ⟨ended, r, after, r', last, name, rest, finished, same⟩
  have fewer := read_name_size name meant
  have total := meantCommands_size same
  simp only [textsSize_append] at total
  rcases r with ⟨p, quoting⟩
  -- what the fixed text behind the name can make up for depends on how it is read
  cases quoting with
  | unquoted => exact Nat.ne_of_lt fewer (size_eq_of_unquoted (.inl rfl) rest finished total)
  | dollar => exact Nat.ne_of_lt fewer (size_eq_of_unquoted (.inr rfl) rest finished total)
  | escaped =>
    rcases read_after_escaped rest with ⟨text, mem⟩
    have listed := same.subset (List.mem_flatMap.mpr (by
      rcases List.mem_flatMap.mp mem with ⟨token, here, texts⟩
      exact ⟨token, by simp [here], texts⟩))
    have blank := eq_appName_of_blank listed
    have backslashed := Reader.read_escaped name (by decide) rfl
    rw [← blank, List.getLast?_concat] at backslashed
    revert backslashed
    decide
  | single => exact read_after_quoted (.inl rfl) rest last finished
  | double => exact read_after_quoted (.inr (.inl rfl)) rest last finished
  | doubleEscaped => exact read_after_quoted (.inr (.inr (.inl rfl))) rest last finished
  | doubleDollar => exact read_after_quoted (.inr (.inr (.inr rfl))) rest last finished
  | comment =>
    rw [Reader.read_comment (by decide)] at rest
    cases rest
    cases finished
    rw [Progress.delimit_size] at total
    have nothing : textsSize [] = 0 := rfl
    dsimp only at total
    change _ + p.size < _ at fewer
    omega

/-! ## Names that are one word -/

/-- A plain name is the only argument of the echo. -/
theorem commands_of_literal {appName : List RtU8} (nonempty : appName ≠ [])
    (noComment : appName.head? ≠ some hash) (literal : Literal appName) :
    split (buttonText appName) = .ok (meantCommands appName) := by
  rcases Reader.read_word nonempty noComment literal with ⟨quoting, unquoted, name⟩
  have behind : Reader.read ⟨.word appName false, quoting⟩ (space :: redirectionText) =
      .ok ([.word appName, .operator (cString ">")],
        ⟨.word (cString "/var/run/elf_monitor.pid") false, .unquoted⟩) :=
    Reader.read_cons_iff.mpr ⟨[.word appName], Reader.start, [.operator (cString ">")],
      Reader.push_space _ unquoted, read_redirection, rfl⟩
  have list : tokens (buttonText appName) =
      .ok (tokensBefore ++ [.word appName, .operator (cString ">")] ++
        [.word (cString "/var/run/elf_monitor.pid")]) := by
    rw [tokens_iff]
    refine ⟨tokensBefore ++ [.word appName, .operator (cString ">")],
      ⟨.word (cString "/var/run/elf_monitor.pid") false, .unquoted⟩,
      [.word (cString "/var/run/elf_monitor.pid")], ?_, rfl, rfl⟩
    rw [buttonText, textAfter_eq, List.append_assoc]
    apply Reader.read_append_iff.mpr
    refine ⟨_, _, _, read_before, ?_, rfl⟩
    exact Reader.read_append_iff.mpr ⟨[], _, _, name, behind, rfl⟩
  rw [split, list]
  rfl

theorem buttonCommand_complete_iff (appName : List RtU8) :
    buttonCommand appName = buttonText appName ↔ appName.length ≤ 173 := by
  have before : (cString "systemctl --no-block start elf_monitor.service && echo ").length = 55 :=
    by decide
  have after : (cString " > /var/run/elf_monitor.pid").length = 27 := by decide
  have length : (buttonText appName).length = 82 + appName.length := by
    rw [buttonText, List.length_append, List.length_append, before, after]
    omega
  rw [buttonCommand, snprintf, List.take_eq_self_iff, length]
  omega

/-- Of all names that the scan of the desktop can pass on, exactly those run as meant that are
at most 173 bytes long, begin with no hash mark and hold no blank, newline, operator, quote,
backslash or backquote, and no dollar but at their end. -/
theorem onButtonClicked_runsAsMeant_iff (app : AppName) :
    RunsAsMeant app.bytes ↔ PlainName app.bytes := by
  constructor
  · rintro ⟨complete, commands⟩
    rw [complete] at commands
    rcases literal_of_commands commands with ⟨noComment, literal⟩
    exact ⟨(buttonCommand_complete_iff _).mp complete, noComment, literal⟩
  · rintro ⟨short, noComment, literal⟩
    have complete := (buttonCommand_complete_iff _).mpr short
    have nonempty : app.bytes ≠ [] := by
      intro none
      have exe := app.exe
      rw [none] at exe
      revert exe
      decide
    refine ⟨complete, ?_⟩
    rw [complete]
    exact commands_of_literal nonempty noComment literal

theorem twoCommands_name : (cString "a;b.exe").length ≤ 255 ∧ 0 ∉ cString "a;b.exe" ∧
    0x2F ∉ cString "a;b.exe" ∧ hasExe (cString "a;b.exe") = true := by
  decide

/-- A file whose name holds a semicolon. -/
def twoCommands : AppName where
  bytes := cString "a;b.exe"
  short := twoCommands_name.1
  noNul := twoCommands_name.2.1
  noSlash := twoCommands_name.2.2.1
  exe := twoCommands_name.2.2.2

/-- The part behind the semicolon is a command. -/
theorem onButtonClicked_runs_name : ¬ RunsAsMeant twoCommands.bytes := by
  intro runs
  have commands := runs.commands
  have split' : split (buttonCommand twoCommands.bytes) =
      .ok [(⟨[cString "systemctl", cString "--no-block", cString "start",
          cString "elf_monitor.service"], []⟩, cString "&&"),
        (⟨[cString "echo", cString "a"], []⟩, cString ";"),
        (⟨[cString "b.exe"], [⟨none, cString ">", cString "/var/run/elf_monitor.pid"⟩]⟩, [])] := by
    decide +kernel
  rw [split'] at commands
  revert commands
  decide

end LamaOS
