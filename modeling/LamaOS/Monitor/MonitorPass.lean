import LamaOS.Monitor.ElfLog
import LamaOS.Monitor.ScanFiles

/-!
# A pass of the monitor

What one call of `scan_directory("/")` leaves behind: `analyze_elf64` is called on the paths that
the scan builds, one after the other, and each call looks at the clock, at the file its path
leads to and at the log file anew. The tree stays the same during the pass; what the files hold
may change between two calls.
-/

namespace LamaOS

/-- What a pass finds: the tree, and for each call of `analyze_elf64`, by its number, what it
reads of the file at a location, if it can open it, the time, and whether the log file can be
opened. -/
structure ScanPass where
  fs : FileSystem
  content : Nat → Location → Option (List Byte)
  timestamp : Nat → List Byte
  logOpens : Nat → Bool

namespace ScanPass

/-- The call of this number, on a path. -/
def analyze (p : ScanPass) (path : List Byte) (k : Nat) : ElfOutput :=
  analyzeElf64 (p.timestamp k) (p.logOpens k) path ((p.fs.resolve path).bind (p.content k))

/-- `scan_directory("/")`, with at most `fuel` calls nested in one another: what the calls of
`analyze_elf64` write, in order. -/
def outputs (p : ScanPass) (fuel : Nat) : Option (List ElfOutput) :=
  (scanDirectory p.fs fuel [slash]).map fun paths =>
    paths.zipIdx.map fun call => p.analyze call.1 call.2

/-- The same, taken together. -/
def run (p : ScanPass) (fuel : Nat) : Option ElfOutput :=
  (p.outputs fuel).map fun outputs =>
    ⟨outputs.flatMap ElfOutput.log, outputs.flatMap ElfOutput.syslog⟩

end ScanPass

/-! ## What a pass should leave behind -/

instance (content : List Byte) : Decidable (IsElf64 content) :=
  decidable_of_iff (elf64EhdrSize ≤ content.length ∧ content.take 4 = elfMag ∧
      content[4]? = some elfClass64)
    ⟨fun h => ⟨h.1, h.2.1, h.2.2⟩, fun h => ⟨h.whole, h.magic, h.class64⟩⟩

namespace ScanPass

/-- What the call of this number finds in the file at a location. -/
def entryAt (p : ScanPass) (loc : Location) (k : Nat) : Option ElfLogEntry :=
  (p.content k loc).bind fun content =>
    if IsElf64 content then
      some ⟨p.timestamp k, pathString loc, elfNumbers .little content⟩
    else none

/-- What the calls on some files find. -/
def found (p : ScanPass) (files : List Location) : List ElfLogEntry :=
  files.zipIdx.filterMap fun call => p.entryAt call.1 call.2

/-- What of this goes to the log file: what is found while that can be opened. -/
def logged (p : ScanPass) (files : List Location) : List ElfLogEntry :=
  files.zipIdx.filterMap fun call =>
    if p.logOpens call.2 then p.entryAt call.1 call.2 else none

end ScanPass

/-- The line for the system log. -/
def elfSyslog (entry : ElfLogEntry) : List Byte :=
  cString "X64 ELF tespit edildi: " ++ entry.filepath

variable {p : ScanPass} {loc : Location}

theorem analyzeElf64_isElf64 (timestamp filepath : List Byte) (logOpens : Bool)
    {content : List Byte} (elf64 : IsElf64 content) :
    analyzeElf64 timestamp logOpens filepath (some content) =
      ⟨if logOpens then elfReport timestamp filepath (elfNumbers .little content) else [],
        [cString "X64 ELF tespit edildi: " ++ filepath]⟩ := by
  rw [analyzeElf64, if_neg (Nat.not_lt.mpr elf64.whole), if_pos ⟨elf64.magic, elf64.class64⟩]

theorem analyzeElf64_not_isElf64 (timestamp filepath : List Byte) (logOpens : Bool)
    {content : List Byte} (other : ¬ IsElf64 content) :
    analyzeElf64 timestamp logOpens filepath (some content) = ⟨[], []⟩ := by
  rw [analyzeElf64]
  split
  · rfl
  · rename_i whole
    rw [if_neg]
    rintro ⟨magic, class64⟩
    exact other ⟨Nat.le_of_not_lt whole, magic, class64⟩

/-- A call on the path string of a location writes what it finds there. -/
theorem ScanPass.analyze_pathString (resolves : p.fs.resolve (pathString loc) = some loc)
    (k : Nat) :
    p.analyze (pathString loc) k =
      ⟨((if p.logOpens k then p.entryAt loc k else none).map ElfLogEntry.text).getD [],
        ((p.entryAt loc k).map fun entry => [elfSyslog entry]).getD []⟩ := by
  rw [analyze, resolves, Option.bind_some, entryAt]
  cases held : p.content k loc with
  | none => cases p.logOpens k <;> rfl
  | some content =>
    rw [Option.bind_some]
    by_cases elf64 : IsElf64 content
    · rw [analyzeElf64_isElf64 _ _ _ elf64, if_pos elf64]
      cases p.logOpens k <;> rfl
    · rw [analyzeElf64_not_isElf64 _ _ _ elf64, if_neg elf64]
      cases p.logOpens k <;> rfl

theorem flatMap_map_getD {α β γ : Type} (xs : List α) (f : α → Option β) (g : β → List γ) :
    (xs.flatMap fun x => ((f x).map g).getD []) = (xs.filterMap f).flatMap g := by
  induction xs with
  | nil => rfl
  | cons x xs ih =>
    rw [List.flatMap_cons, ih]
    cases here : f x <;> simp [here]

/-- The calls of a pass are made on the path strings of some files, in order. -/
theorem ScanPass.run_files {files : List Location} {fuel : Nat}
    (scanned : scanDirectory p.fs fuel [slash] = some (files.map pathString))
    (resolves : ∀ loc ∈ files, p.fs.resolve (pathString loc) = some loc) :
    p.run fuel = some ⟨(p.logged files).flatMap ElfLogEntry.text,
      (p.found files).map elfSyslog⟩ := by
  have calls : ∀ call ∈ files.zipIdx, p.analyze (pathString call.1) call.2 =
      ⟨((if p.logOpens call.2 then p.entryAt call.1 call.2 else none).map
          ElfLogEntry.text).getD [],
        ((p.entryAt call.1 call.2).map fun entry => [elfSyslog entry]).getD []⟩ := by
    intro call mem
    exact p.analyze_pathString (resolves call.1 (List.fst_mem_of_mem_zipIdx mem)) call.2
  rw [run, outputs, scanned, Option.map_some, Option.map_some, logged, ← flatMap_map_getD, found,
    List.map_eq_flatMap (f := elfSyslog), ← flatMap_map_getD]
  simp only [List.zipIdx_map, List.flatMap_map, Prod.map_fst, Prod.map_snd, id_eq]
  rw [List.flatMap_congr fun call mem => congrArg ElfOutput.log (calls call mem),
    List.flatMap_congr fun call mem => congrArg ElfOutput.syslog (calls call mem)]

/-- A pass over a tree in which the paths that the scan builds fit comes to its end. It looks once
at each regular file that has no ancestor that cannot be opened, in some order, tells the system
log of every 64-bit ELF file it finds among them, and appends to the log file their reports while
that can be opened; and what it has appended can be read back exactly if no path in it contains a
newline and no time a bracket. -/
theorem scanPass_reports (p : ScanPass) (fit : p.fs.PathsFit) :
    ∃ (files : List Location) (output : ElfOutput), files.Nodup ∧
      (∀ loc, loc ∈ files ↔ nodeAt p.fs.root loc = some .regular ∧ p.fs.OpensTo [] loc) ∧
      p.run p.fs.root.depth = some output ∧
      output.syslog = (p.found files).map elfSyslog ∧
      output.log = (p.logged files).flatMap ElfLogEntry.text ∧
      (readElfLog output.log = some (p.logged files) ↔
        ∀ entry ∈ p.logged files, entry.Plain) := by
  have here : nodeAt p.fs.root [] = some p.fs.root := rfl
  have files (loc : Location) : loc ∈ p.fs.filesAt [] p.fs.root ↔
      nodeAt p.fs.root loc = some .regular ∧ p.fs.OpensTo [] loc := by
    rw [mem_filesAt here]
    constructor
    · rintro ⟨rest, rfl, file, opens⟩
      exact ⟨file, opens⟩
    · rintro ⟨file, opens⟩
      exact ⟨loc, rfl, file, opens⟩
  have scanned := scanDirectory_files fit .root here (Nat.le_refl _)
  have resolves : ∀ loc ∈ p.fs.filesAt [] p.fs.root,
      p.fs.resolve (pathString loc) = some loc := fun loc mem =>
    resolve_pathString ((files loc).mp mem).1 (by simp)
  refine ⟨_, _, filesAt_nodup here, files, p.run_files scanned resolves, rfl, rfl, ?_⟩
  rw [readElfLog_iff]
  exact and_iff_left rfl

/-- A pass in which every file of the sample tree is an ELF file. -/
def samplePass : ScanPass where
  fs := sampleSystem
  content := fun _ _ => some aarch64Elf
  timestamp := fun _ => cString "2024-01-01 00:00:00"
  logOpens := fun _ => true

/-- It reports the file in the first directory. -/
theorem scanPass_reports_sample :
    ∃ output, samplePass.run sampleSystem.root.depth = some output ∧
      cString "X64 ELF tespit edildi: //aa/a" ∈ output.syslog := by
  obtain ⟨files, output, -, covered, ran, syslog, -⟩ :=
    scanPass_reports samplePass (pathsFit_of_depth _ (by decide))
  have mem : [(letter 1).bytes, (letter 0).bytes] ∈ files := by
    refine (covered _).mpr ⟨rfl, ?_⟩
    intro before name after split
    refine bne_iff_ne.mpr ?_
    rintro rfl
    have same := (List.cons.inj split).1
    revert same
    decide
  obtain ⟨k, inside, here⟩ := List.getElem_of_mem mem
  refine ⟨output, ran, ?_⟩
  rw [syslog]
  refine List.mem_map.mpr ⟨⟨cString "2024-01-01 00:00:00",
    pathString [(letter 1).bytes, (letter 0).bytes], elfNumbers .little aarch64Elf⟩, ?_, by decide⟩
  refine List.mem_filterMap.mpr ⟨([(letter 1).bytes, (letter 0).bytes], k), ?_, rfl⟩
  rw [List.mem_zipIdx_iff_getElem?, ← here]
  exact List.getElem?_eq_getElem inside

end LamaOS
