import LamaOS.Monitor.PidFileTexts

/-!
# Which numbers the PID file can hold

Who reads the PID file takes the number in it for that of a monitor. It is one, unless the number
of a monitor has been written over the beginning of a name whose rest is made of digits.
-/

namespace LamaOS

open Shell

/-- Only monitors with these numbers are started, and only buttons with these names are
clicked. -/
def Among (pids : Nat → Prop) (apps : AppName → Prop) : PidEvent → Prop
  | .start pid => pids pid
  | .click app => apps app ∧ LiteralName app
  | _ => True

/-- The text is that of a number, with or without the end of the line. -/
def IsNumeral (n : Nat) (text : List RtU8) : Prop :=
  text = decimalText n ∨ text = decimalText n ++ [newline]

/-- Where the text of the number ends, only digits follow in the name. -/
def Completes (pid : Nat) (app : AppName) : Prop :=
  (decimalText pid).length < app.bytes.length ∧
    ∀ b ∈ app.bytes.drop (decimalText pid).length, ∃ d < 10, b = digitByte d

/-! ## Texts -/

section Texts

variable {m n : Nat} {app : AppName} {text : List RtU8}

theorem isNumeral_nil : ¬ IsNumeral n [] := by
  rintro (same | same)
  · exact decimalText_ne_nil n same.symm
  · simp at same

theorem isNumeral_decimalText (isNumeral : IsNumeral n (decimalText m)) : n = m := by
  rcases isNumeral with same | same
  · exact (numeral_inj (by decide) (by decide) same).symm
  · have ends : newline ∈ decimalText m := by
      rw [same]
      exact List.mem_append_right _ List.mem_cons_self
    exact absurd ends (newline_notMem_decimalText m)

/-- A name has a dot, and a number has none. -/
theorem AppName.bytes_ne_decimalText (app : AppName) (n : Nat) : app.bytes ≠ decimalText n := by
  intro same
  have exe : cString ".exe" <:+: app.bytes := by simpa only [hasExe, decide_eq_true_eq] using app.exe
  have dot : (0x2E : RtU8) ∈ app.bytes := exe.subset (by decide)
  have noDigit : ∀ d < 16, digitByte d ≠ 0x2E := by decide
  rw [same, decimalText] at dot
  exact notMem_numeral (by decide) (by decide) noDigit n dot

theorem LiteralName.newline_notMem (literal : LiteralName app) : newline ∉ app.bytes := by
  intro mem
  have dollar := literal.plain.literal.eq_dollar mem (by decide)
  exact absurd dollar (by decide)

/-- The line of a name is not that of a number, whatever follows. -/
theorem LiteralName.not_isNumeral (literal : LiteralName app) (rest : List RtU8) :
    ¬ IsNumeral n (app.bytes ++ newline :: rest) := by
  rintro (same | same)
  · have ends : newline ∈ decimalText n := by
      rw [← same]
      exact List.mem_append_right _ List.mem_cons_self
    exact newline_notMem_decimalText n ends
  · have both := append_end_inj literal.newline_notMem (newline_notMem_decimalText n) same
    exact app.bytes_ne_decimalText n both.1

/-- What is left of the line behind a number, as far as the number is shorter. -/
theorem overwrite_line (bytes name : List RtU8) (shorter : bytes.length ≤ name.length) :
    overwrite bytes (name ++ [newline]) = bytes ++ name.drop bytes.length ++ [newline] := by
  rw [overwrite, List.drop_append_of_le_length shorter, List.append_assoc]

/-- A number over the line of a name is that number or one that is completed by the name. -/
theorem isNumeral_overwrite
    (isNumeral : IsNumeral n (overwrite (decimalText m) (app.bytes ++ [newline]))) :
    n = m ∨ 0 < m ∧ Completes m app := by
  by_cases shorter : (decimalText m).length ≤ app.bytes.length
  · rw [overwrite_line _ _ shorter] at isNumeral
    have text : decimalText n = decimalText m ++ app.bytes.drop (decimalText m).length := by
      rcases isNumeral with same | same
      · have ends : newline ∈ decimalText n := by
          rw [← same]
          exact List.mem_append_right _ List.mem_cons_self
        exact absurd ends (newline_notMem_decimalText n)
      · exact (List.append_cancel_right same).symm
    by_cases none : app.bytes.drop (decimalText m).length = []
    · rw [none, List.append_nil] at text
      exact .inl (numeral_inj (by decide) (by decide) text)
    · refine .inr ⟨?_, ?_, ?_⟩
      · -- the text of a longer number does not begin with a zero
        apply Nat.pos_of_ne_zero
        rintro rfl
        exact numeral_ne_zero_cons (by decide) (by decide) none text
      · rw [List.drop_eq_nil_iff] at none
        exact Nat.lt_of_not_le none
      · intro b mem
        have digit : b ∈ decimalText n := by
          rw [text]
          exact List.mem_append_right _ mem
        exact mem_numeral (by decide) digit
  · have longer : (app.bytes ++ [newline]).length ≤ (decimalText m).length := by
      rw [List.length_append, List.length_singleton]
      omega
    rw [(overwrite_eq_iff _ _).mpr longer] at isNumeral
    exact .inl (isNumeral_decimalText isNumeral)

end Texts

/-! ## Runs -/

/-- The texts that the monitors of a run write, if they do. -/
def StartedIn (events : List PidEvent) (text : List RtU8) : Prop :=
  text = [] ∨ ∃ pid, PidEvent.start pid ∈ events ∧ text = decimalText pid

/-- The lines that the clicks of a run write, if they do. -/
def ClickedIn (events : List PidEvent) (text : List RtU8) : Prop :=
  text = [] ∨ ∃ app, PidEvent.click app ∈ events ∧ text = app.bytes ++ [newline]

/-- A number in the file that no monitor of the run has is one that a name completes. -/
theorem completes_of_isNumeral {pids : Nat → Prop} {apps : AppName → Prop}
    {events : List PidEvent} {n : Nat} {text : List RtU8}
    (among : ∀ event ∈ events, Among pids apps event) (unknown : PidEvent.start n ∉ events)
    (overlaid : Overlaid (StartedIn events) (ClickedIn events) text)
    (isNumeral : IsNumeral n text) :
    ∃ pid app, pids pid ∧ apps app ∧ LiteralName app ∧ 0 < pid ∧ Completes pid app := by
  have started {pid : Nat} (start : PidEvent.start pid ∈ events) : n ≠ pid := by
    rintro rfl
    exact unknown start
  rcases overlaid with ⟨number, line, wrote, wrote', which⟩
  rcases wrote with rfl | ⟨pid, start, rfl⟩
  · rw [overwrite_nil, nil_overwrite, or_self] at which
    rcases wrote' with rfl | ⟨app, click, rfl⟩
    · rw [which] at isNumeral
      exact absurd isNumeral isNumeral_nil
    · rw [which] at isNumeral
      exact absurd isNumeral ((among _ click).2.not_isNumeral [])
  · rcases wrote' with rfl | ⟨app, click, rfl⟩
    · rw [overwrite_nil, nil_overwrite, or_self] at which
      rw [which] at isNumeral
      exact absurd (isNumeral_decimalText isNumeral) (started start)
    · rcases which with rfl | rfl
      · rcases isNumeral_overwrite isNumeral with same | ⟨positive, completes⟩
        · exact absurd same (started start)
        · exact ⟨pid, app, among _ start, (among _ click).1, (among _ click).2, positive, completes⟩
      · rw [overwrite, List.append_assoc] at isNumeral
        exact absurd isNumeral ((among _ click).2.not_isNumeral _)

/-- A monitor writes its number over the line of a name that completes it. -/
theorem exists_misread {pid : Nat} {app : AppName} (literal : LiteralName app) (positive : 0 < pid)
    (completes : Completes pid app) :
    ∃ n, n ≠ pid ∧ ∃ text, IsNumeral n text ∧
      ((bothOpen pid app ++ [PidEvent.shell ⟨0, []⟩, .monitor]).foldl pidNext
        (pidStart none)).file.text = some text := by
  rcases completes with ⟨shorter, digits⟩
  rcases exists_numeral_append (by decide) positive digits with ⟨n, completed⟩
  have text : decimalText n = decimalText pid ++ app.bytes.drop (decimalText pid).length :=
    completed
  refine ⟨n, ?_, overwrite (decimalText pid) (app.bytes ++ [newline]), ?_, ?_⟩
  · rintro rfl
    have none := List.append_right_eq_self.mp text.symm
    rw [List.drop_eq_nil_iff] at none
    omega
  · rw [overwrite_line _ _ (Nat.le_of_lt shorter), ← text]
    exact .inr rfl
  · rw [← literal.echoLine_eq ⟨0, []⟩]
    exact text_number_over_line none pid literal.plain ⟨0, []⟩

/-- The number of a monitor over the line of a name that ends in digits. -/
example : overwrite (decimalText 1234) (cString "a.exe5\n") = cString "1234e5\n" ∧
    overwrite (decimalText 12345) (cString "a.exe5\n") = decimalText 123455 ++ [newline] := by
  decide +kernel

/-- Monitors with numbers among `pids` and clicks on names among `apps`, in whatever order they
come and take their steps, can leave a number in the PID file that no monitor has been given
exactly if the text of one of these numbers covers one of these names up to some last digits. -/
theorem pidFile_misread_iff (pids : Nat → Prop) (apps : AppName → Prop) :
    (∃ (events : List PidEvent) (n : Nat) (text : List RtU8),
        (∀ event ∈ events, Among pids apps event) ∧ .start n ∉ events ∧
        (events.foldl pidNext (pidStart none)).file.text = some text ∧ IsNumeral n text) ↔
      ∃ pid app, pids pid ∧ apps app ∧ LiteralName app ∧ 0 < pid ∧ Completes pid app := by
  constructor
  · rintro ⟨events, n, text, among, unknown, held, isNumeral⟩
    have contributes (event : PidEvent) (mem : event ∈ events) :
        Contributes (StartedIn events) (ClickedIn events) event := by
      cases event with
      | start pid => exact .inr ⟨pid, mem, rfl⟩
      | click app =>
        have literal := (among _ mem).2
        exact ⟨literal.plain, fun answer => .inr ⟨app, mem, literal.echoLine_eq answer⟩⟩
      | monitor => trivial
      | signal => trivial
      | shell answer => trivial
      | other op => trivial
    have kept := kept_run none (.inl rfl) (.inl rfl) contributes
    rcases kept.text with none | none | ⟨found, overlaid, same⟩
    · rw [held] at none
      cases none
    · rw [held] at none
      cases none
    · rw [held, Option.some_inj] at same
      exact completes_of_isNumeral among unknown overlaid (same ▸ isNumeral)
  · rintro ⟨pid, app, isPid, isApp, literal, positive, completes⟩
    rcases exists_misread literal positive completes with ⟨n, other, text, isNumeral, held⟩
    refine ⟨_, n, text, ?_, ?_, held, isNumeral⟩
    · simp [bothOpen, Among, isPid, isApp, literal]
    · simp [bothOpen, other]

end LamaOS
