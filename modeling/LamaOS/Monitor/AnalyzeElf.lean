import LamaOS.Drivers.Common.RtTypes
import LamaOS.Misc.Numerals
import Mathlib.Data.List.Basic

/-!
# Reporting ELF files

`analyze_elf64` reads the header of a file as the machine reads memory and looks at the magic
number and the class. What the file is for, and in which byte order its header is written, it
does not ask; the report calls every 64-bit ELF file one for x64.
-/

namespace LamaOS

/-- `sizeof(Elf64_Ehdr)`. -/
abbrev elf64EhdrSize : Nat := 64

/-- `ELFMAG`. -/
def elfMag : List Byte := [0x7F, 0x45, 0x4C, 0x46]

/-- `ELFCLASS64`. -/
def elfClass64 : Byte := 2

/-- `EM_X86_64`. -/
def emX8664 : Nat := 62

/-- Some bytes of the header. -/
def headerBytes (content : List Byte) (offset size : Nat) : List Byte :=
  (content.drop offset).take size

/-- The numbers in a report: `e_entry`, `e_shnum` and `e_phnum`. -/
@[ext] structure ElfNumbers where
  entry : Nat
  shnum : Nat
  phnum : Nat
  deriving DecidableEq, Repr

/-- The numbers of a header, read in this byte order. -/
def elfNumbers (order : ByteOrder) (content : List Byte) : ElfNumbers where
  entry := order.value (headerBytes content 24 8)
  shnum := order.value (headerBytes content 60 2)
  phnum := order.value (headerBytes content 56 2)

/-- `e_machine`, read in this byte order. -/
def elfMachine (order : ByteOrder) (content : List Byte) : Nat :=
  order.value (headerBytes content 18 2)

/-- The four lines of a report. -/
def elfReport (timestamp filepath : List Byte) (numbers : ElfNumbers) : List Byte :=
  cString "[" ++ timestamp ++ cString "] Tespit edilen x64 ELF: " ++ filepath ++ cString "\n" ++
    (cString "Entry Point: 0x" ++ numeral 16 numbers.entry ++ cString "\n") ++
    (cString "Section sayisi: " ++ numeral 10 numbers.shnum ++ cString "\n") ++
    (cString "Program header sayisi: " ++ numeral 10 numbers.phnum ++ cString "\n\n")

/-- What a call writes to the log file and to the system log. -/
structure ElfOutput where
  log : List Byte
  syslog : List (List Byte)
  deriving DecidableEq, Repr

/-- `analyze_elf64`, for a file that cannot be opened or has this content, and a log file that
can be opened or not. The processor is a little-endian one. -/
def analyzeElf64 (timestamp : List Byte) (logOpens : Bool) (filepath : List Byte)
    (file : Option (List Byte)) : ElfOutput :=
  match file with
  | none => ⟨[], []⟩
  | some content =>
    if content.length < elf64EhdrSize then ⟨[], []⟩
    else if content.take 4 = elfMag ∧ content[4]? = some elfClass64 then
      ⟨if logOpens then elfReport timestamp filepath (elfNumbers .little content) else [],
        [cString "X64 ELF tespit edildi: " ++ filepath]⟩
    else ⟨[], []⟩

/-! ## What a report should say -/

/-- A 64-bit ELF file with a whole header. -/
structure IsElf64 (content : List Byte) : Prop where
  whole : elf64EhdrSize ≤ content.length
  magic : content.take 4 = elfMag
  class64 : content[4]? = some elfClass64

/-- The byte order that `EI_DATA` declares. -/
def declaredOrder (content : List Byte) : Option ByteOrder :=
  if content[5]? = some 1 then some .little
  else if content[5]? = some 2 then some .big
  else none

/-- A 64-bit ELF file for x64. -/
structure IsX64Elf (content : List Byte) : Prop where
  elf64 : IsElf64 content
  machine : ∃ order, declaredOrder content = some order ∧ elfMachine order content = emX8664

/-- What is written to the log is a report of the file, if it is an ELF file for x64: one with
the numbers that its header holds in the byte order it declares. -/
structure ReportsX64Elf (timestamp filepath content log : List Byte) : Prop where
  written : log ≠ [] ↔ IsX64Elf content
  numbers : log ≠ [] → ∀ order, declaredOrder content = some order →
    log = elfReport timestamp filepath (elfNumbers order content)

/-- The file declares a byte order in which it is for x64, and in which its numbers read as they
do on the processor. -/
def ReadsAsDeclared (content : List Byte) : Prop :=
  ∃ order, declaredOrder content = some order ∧ elfMachine order content = emX8664 ∧
    elfNumbers order content = elfNumbers .little content

/-! ## The text of a report -/

/-- A report tells its numbers. -/
theorem elfReport_inj {timestamp filepath : List Byte} {numbers numbers' : ElfNumbers}
    (same : elfReport timestamp filepath numbers = elfReport timestamp filepath numbers') :
    numbers = numbers' := by
  have newline : cString "\n" = [0x0A] := by decide
  have newlines : cString "\n\n" = [0x0A, 0x0A] := by decide
  have noDigit : ∀ d < 16, digitByte d ≠ 0x0A := by decide
  simp only [elfReport, newline, newlines, List.append_assoc, List.append_cancel_left_eq,
    List.cons_append, List.nil_append] at same
  have hexadecimal : 1 < 16 ∧ 16 ≤ 16 := by decide
  have decimal : 1 < 10 ∧ 10 ≤ 16 := by decide
  have lines := List.append_cancel_left (List.cons.inj same).2
  rcases numeral_end_inj hexadecimal.1 hexadecimal.2 noDigit lines with ⟨entry, lines⟩
  rcases numeral_end_inj decimal.1 decimal.2 noDigit (List.append_cancel_left lines) with
    ⟨shnum, lines⟩
  rcases numeral_end_inj decimal.1 decimal.2 noDigit (List.append_cancel_left lines) with
    ⟨phnum, -⟩
  exact ElfNumbers.ext entry shnum phnum

theorem elfReport_ne_nil (timestamp filepath : List Byte) (numbers : ElfNumbers) :
    elfReport timestamp filepath numbers ≠ [] := by
  have opening : cString "[" = [0x5B] := by decide
  rw [elfReport, opening]
  exact List.cons_ne_nil _ _

/-! ## What is reported -/

variable (timestamp filepath : List Byte) {content : List Byte}

theorem analyzeElf64_elf64 (elf64 : IsElf64 content) :
    (analyzeElf64 timestamp true filepath (some content)).log =
      elfReport timestamp filepath (elfNumbers .little content) := by
  rw [analyzeElf64, if_neg (Nat.not_lt.mpr elf64.whole), if_pos ⟨elf64.magic, elf64.class64⟩]
  rfl

theorem analyzeElf64_other (other : ¬ IsElf64 content) :
    (analyzeElf64 timestamp true filepath (some content)).log = [] := by
  rw [analyzeElf64]
  split
  · rfl
  · rename_i whole
    split
    · rename_i found
      exact absurd ⟨Nat.le_of_not_lt whole, found.1, found.2⟩ other
    · rfl

/-- What `analyze_elf64` writes to its log is a report of the x64 ELF files exactly for the files
that are no 64-bit ELF files at all, and those that are for x64, and read on the processor, as
they declare. -/
theorem analyzeElf64_reports_iff (content : List Byte) :
    ReportsX64Elf timestamp filepath content
        (analyzeElf64 timestamp true filepath (some content)).log ↔
      (IsElf64 content → ReadsAsDeclared content) := by
  by_cases elf64 : IsElf64 content
  · rw [analyzeElf64_elf64 timestamp filepath elf64]
    have written := elfReport_ne_nil timestamp filepath (elfNumbers .little content)
    constructor
    · intro reports _
      rcases (reports.written.mp written).machine with ⟨order, declared, machine⟩
      have same := elfReport_inj (reports.numbers written order declared)
      exact ⟨order, declared, machine, same.symm⟩
    · intro declared
      rcases declared elf64 with ⟨order, declares, machine, same⟩
      refine ⟨iff_of_true written ⟨elf64, order, declares, machine⟩, ?_⟩
      intro _ order' declares'
      rw [declares] at declares'
      cases declares'
      rw [same]
  · rw [analyzeElf64_other timestamp filepath elf64]
    constructor
    · intro _ found
      exact absurd found elf64
    · intro _
      refine ⟨iff_of_false (fun written => written rfl) (fun x64 => elf64 x64.elf64), ?_⟩
      intro written
      exact absurd rfl written

/-- The header of a little-endian ELF file for AArch64, whose machine is 183. -/
def aarch64Elf : List Byte :=
  elfMag ++ [2, 1, 1] ++ List.replicate 9 0 ++ [2, 0, 183, 0] ++ List.replicate 44 0

/-- The program for AArch64 is reported as one for x64. -/
theorem analyzeElf64_reports_aarch64 :
    ¬ ReportsX64Elf (cString "2024-01-01 00:00:00") (cString "/bin/a") aarch64Elf
      (analyzeElf64 (cString "2024-01-01 00:00:00") true (cString "/bin/a")
        (some aarch64Elf)).log := by
  intro reports
  have elf64 : IsElf64 aarch64Elf := ⟨by decide, by decide, by decide⟩
  rw [analyzeElf64_elf64 _ _ elf64] at reports
  rcases (reports.written.mp (elfReport_ne_nil _ _ _)).machine with ⟨order, declared, machine⟩
  have little : declaredOrder aarch64Elf = some .little := by decide
  rw [little] at declared
  cases declared
  exact absurd machine (by decide)

end LamaOS
