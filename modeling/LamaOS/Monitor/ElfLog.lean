import LamaOS.Misc.Forms
import LamaOS.Monitor.AnalyzeElf

/-!
# The log of the monitor

The log file is the reports of `analyze_elf64` one behind another. It can be read back: as long
as no path contains a newline, the text tells the time, the path and the numbers of every report.
A path with a newline in it is printed as it is, and what it contains can look like the end of
one report and the beginning of the next.
-/

namespace LamaOS

/-- What a report tells. -/
structure ElfLogEntry where
  timestamp : List Byte
  filepath : List Byte
  numbers : ElfNumbers
  deriving DecidableEq, Repr

namespace ElfLogEntry

/-- The report. -/
def text (entry : ElfLogEntry) : List Byte :=
  elfReport entry.timestamp entry.filepath entry.numbers

/-- The parts of the first line do not contain what ends them. -/
def Plain (entry : ElfLogEntry) : Prop :=
  0x5D ∉ entry.timestamp ∧ 0x0A ∉ entry.filepath

end ElfLogEntry

/-! ## Reading the log -/

/-- A number at the end of a line. -/
def numberLine (b : Nat) (base : 1 < b) (small : b ≤ 16) : Form Byte Nat :=
  (Form.field 0x0A).via (readNumeral b) (numeral b) (readNumeral_eq_some_iff base small)

/-- The parts of a report, in order. -/
def elfLogParts : Form Byte (Unit × List Byte × Unit × List Byte × Unit × Nat × Unit × Nat ×
    Unit × Nat × Unit) :=
  (Form.literal (cString "[")).pair <| (Form.field 0x5D).pair <|
  (Form.literal (cString " Tespit edilen x64 ELF: ")).pair <| (Form.field 0x0A).pair <|
  (Form.literal (cString "Entry Point: 0x")).pair <|
  (numberLine 16 (by decide) (by decide)).pair <|
  (Form.literal (cString "Section sayisi: ")).pair <|
  (numberLine 10 (by decide) (by decide)).pair <|
  (Form.literal (cString "Program header sayisi: ")).pair <|
  (numberLine 10 (by decide) (by decide)).pair <|
  Form.literal (cString "\n")

/-- The form of a report. -/
def elfLogForm : Form Byte ElfLogEntry :=
  elfLogParts.via
    (fun (_, timestamp, _, filepath, _, entry, _, shnum, _, phnum, _) =>
      some ⟨timestamp, filepath, ⟨entry, shnum, phnum⟩⟩)
    (fun entry => ((), entry.timestamp, (), entry.filepath, (), entry.numbers.entry, (),
      entry.numbers.shnum, (), entry.numbers.phnum, ()))
    (by
      rintro ⟨_, timestamp, _, filepath, _, entry, _, shnum, _, phnum, _⟩ c
      constructor
      · intro reads
        cases reads
        rfl
      · intro same
        cases c
        cases same
        rfl)

/-- The entries that a log tells, if it is one. -/
def readElfLog (log : List Byte) : Option (List ElfLogEntry) := elfLogForm.readAll log

theorem elfLogForm_write (entry : ElfLogEntry) : elfLogForm.write entry = entry.text := by
  have bracket : cString "] Tespit edilen x64 ELF: " =
      0x5D :: cString " Tespit edilen x64 ELF: " := by decide
  have newline : cString "\n" = [0x0A] := by decide
  have newlines : cString "\n\n" = [0x0A, 0x0A] := by decide
  simp only [elfLogForm, elfLogParts, numberLine, Form.via_write, Form.pair_write,
    Form.literal_write, Form.field_write, ElfLogEntry.text, elfReport, bracket, newline, newlines,
    List.append_assoc, List.cons_append, List.nil_append]

theorem elfLogForm_good (entry : ElfLogEntry) : elfLogForm.Good entry ↔ entry.Plain := by
  have noDigit : ∀ d < 16, digitByte d ≠ 0x0A := by decide
  have hexadecimal := notMem_numeral (b := 16) (by decide) (by decide) noDigit
  have decimal := notMem_numeral (b := 10) (by decide) (by decide) noDigit
  simp only [elfLogForm, elfLogParts, numberLine, Form.via_good, Form.pair_good,
    Form.literal_good, Form.field_good, hexadecimal, decimal, not_false_eq_true, true_and,
    and_true, ElfLogEntry.Plain]

theorem ElfLogEntry.text_ne_nil (entry : ElfLogEntry) : entry.text ≠ [] :=
  elfReport_ne_nil _ _ _

/-- A text reads as some entries exactly if it is the reports of these and they are plain. -/
theorem readElfLog_iff (log : List Byte) (entries : List ElfLogEntry) :
    readElfLog log = some entries ↔
      (∀ entry ∈ entries, entry.Plain) ∧ log = entries.flatMap ElfLogEntry.text := by
  have visible (entry : ElfLogEntry) : elfLogForm.write entry ≠ [] := by
    rw [elfLogForm_write]
    exact entry.text_ne_nil
  rw [readElfLog, elfLogForm.readAll_eq_some_iff visible]
  simp only [elfLogForm_good]
  rw [funext elfLogForm_write]

/-! ## Paths with a newline -/

/-- A path that has the end of one report and the beginning of another in it. -/
def forgedPath (first second : ElfLogEntry) : List Byte :=
  first.filepath ++ cString "\n" ++
    (cString "Entry Point: 0x" ++ numeral 16 first.numbers.entry ++ cString "\n") ++
    (cString "Section sayisi: " ++ numeral 10 first.numbers.shnum ++ cString "\n") ++
    (cString "Program header sayisi: " ++ numeral 10 first.numbers.phnum ++ cString "\n\n") ++
    cString "[" ++ second.timestamp ++ cString "] Tespit edilen x64 ELF: " ++ second.filepath

/-- The report of one file can be the reports of two. -/
theorem text_forgedPath (first second : ElfLogEntry) :
    ElfLogEntry.text ⟨first.timestamp, forgedPath first second, second.numbers⟩ =
      first.text ++ second.text := by
  simp only [ElfLogEntry.text, elfReport, forgedPath, List.append_assoc]

end LamaOS
