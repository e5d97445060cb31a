import LamaOS.Desktop.DesktopLabels

/-!
# One pass of the scan

A pass that is given a list of files takes all buttons away and puts one up for each name with
`.exe` somewhere in it, one below the other, as long as its two `int`s have room for the index
and the position. These are the buttons of the `.exe` files if no name has the text in another
place than at its end.
-/

namespace LamaOS

/-- The name has the extension `.exe`. -/
def isExe (name : List RtU8) : Bool := cString ".exe" <:+ name

/-- Steps of the thread that get the same answers. -/
def scanSteps (answer : ScanAnswer) : Nat → DesktopState → Except DesktopFault DesktopState
  | 0, s => .ok s
  | n + 1, s => (scanApplications answer s).bind fun done => scanSteps answer n done.1

/-- A pass in which the directory holds these names, from the front of the loop to its sleep:
four steps to the first entry, one for each entry and for the end of the list, and two behind
it. -/
def scanPass (names : List (List RtU8)) (s : DesktopState) : Except DesktopFault DesktopState :=
  scanSteps ⟨0, some names⟩ (4 + (names.length + 1) + 2) s

/-- The index of the loop goes up to the end of the list and its position to below the last
button. -/
def RoomFor (names : List (List RtU8)) : Prop :=
  IsInt names.length ∧ IsInt (50 + (buttonHeight + 10) * names.countP hasExe)

/-- Two buttons have no point in common. -/
def Apart (a b : DesktopButton) : Prop :=
  a.x + a.width ≤ b.x ∨ b.x + b.width ≤ a.x ∨ a.y + a.height ≤ b.y ∨ b.y + b.height ≤ a.y

/-- The buttons are those of the `.exe` files in a list: one for each, in order, and no other
one, each in a place of its own. -/
structure ShowsExeFiles (handle : Nat) (names : List (List RtU8)) (buttons : List DesktopButton) :
    Prop where
  entries : buttons.map (fun button => (button.label, button.userData)) =
    (names.zipIdx.filter fun entry => isExe entry.1).map fun entry =>
      (entry.1, ⟨handle, entry.2⟩)
  size : ∀ button ∈ buttons, button.width = buttonWidth ∧ button.height = buttonHeight
  apart : buttons.Pairwise Apart

/-! ## The buttons -/

theorem hasExe_of_isExe {name : List RtU8} (exe : isExe name = true) : hasExe name = true := by
  apply decide_eq_true
  exact (of_decide_eq_true exe).isInfix

theorem exeButtons_entries (handle : Nat) (names : List (List RtU8)) :
    (exeButtons handle names).map (fun button => (button.label, button.userData)) =
      (names.zipIdx.filter fun entry => hasExe entry.1).map fun entry =>
        (entry.1, ⟨handle, entry.2⟩) := by
  rw [exeButtons, List.map_map]
  generalize names.zipIdx.filter (fun entry => hasExe entry.1) = entries
  apply List.ext_getElem
  · simp
  · intro i _ _
    simp

/-- The buttons stand one below the other. -/
theorem exeButtons_apart (handle : Nat) (names : List (List RtU8)) :
    (exeButtons handle names).Pairwise Apart := by
  rw [List.pairwise_iff_getElem]
  intro i j inside inside' before
  right
  right
  left
  simp only [exeButtons, List.getElem_map, List.getElem_zipIdx, buttonHeight]
  omega

theorem exeButtons_size {handle : Nat} {names : List (List RtU8)} {button : DesktopButton}
    (mem : button ∈ exeButtons handle names) :
    button.width = buttonWidth ∧ button.height = buttonHeight := by
  rcases List.mem_map.mp mem with ⟨entry, -, rfl⟩
  exact ⟨rfl, rfl⟩

/-- The buttons for the names with `.exe` in them are those of the `.exe` files exactly when
these are the same names. -/
theorem exeButtons_shows_iff (handle : Nat) (names : List (List RtU8)) :
    ShowsExeFiles handle names (exeButtons handle names) ↔
      ∀ name ∈ names, hasExe name = true → isExe name = true := by
  constructor
  · intro shows' name mem exe
    have entries := shows'.entries
    rw [exeButtons_entries] at entries
    rcases List.getElem_of_mem mem with ⟨i, inside, here⟩
    have entry : (name, (⟨handle, i⟩ : NameRef)) ∈
        (names.zipIdx.filter fun entry => hasExe entry.1).map fun entry =>
          (entry.1, (⟨handle, entry.2⟩ : NameRef)) := by
      apply List.mem_map.mpr
      refine ⟨(name, i), List.mem_filter.mpr ⟨?_, exe⟩, rfl⟩
      rw [List.mem_zipIdx_iff_getElem?, ← here]
      exact List.getElem?_eq_getElem inside
    rw [entries] at entry
    rcases List.mem_map.mp entry with ⟨other, kept, same⟩
    have named : other.1 = name := congrArg Prod.fst same
    rw [← named]
    exact (List.mem_filter.mp kept).2
  · intro same
    refine ⟨?_, fun _ => exeButtons_size, exeButtons_apart handle names⟩
    rw [exeButtons_entries]
    apply congrArg
    apply List.filter_congr
    intro entry mem
    have named : entry.1 ∈ names :=
      List.mem_of_getElem? (List.mem_zipIdx_iff_getElem?.mp mem)
    rw [Bool.eq_iff_iff]
    exact ⟨same entry.1 named, hasExe_of_isExe⟩

theorem exeButtons_countP (handle : Nat) (names : List (List RtU8)) :
    (exeButtons handle names).length = names.countP hasExe := by
  induction names using List.reverseRecOn with
  | nil => rfl
  | append_singleton names name ih =>
    rw [exeButtons_snoc, List.length_append, List.countP_append, ih, List.countP_singleton]
    split
    · rfl
    · rfl

/-! ## The pass -/

theorem scanSteps_add (answer : ScanAnswer) (m n : Nat) (s : DesktopState) :
    scanSteps answer (m + n) s = (scanSteps answer m s).bind (scanSteps answer n) := by
  induction m generalizing s with
  | zero => rw [Nat.zero_add, scanSteps, Except.bind]
  | succ m ih =>
    rw [Nat.succ_add, scanSteps, scanSteps]
    cases scanApplications answer s with
    | error fault => rfl
    | ok done => exact ih done.1

/-- An entry that cannot be passed. -/
theorem showEntry_overflow {s : DesktopState} {files : FileInfoList} {name : List RtU8} {i : Nat}
    {x y : Int} {fault : DesktopFault} (failed : showEntry files name i x y s = .error fault) :
    fault = .overflow ∧
      (¬ IsInt (i + 1) ∨ hasExe name = true ∧ ¬ IsInt (y + (buttonHeight + 10))) := by
  unfold showEntry at failed
  split at failed
  · rename_i exe
    split at failed
    · cases failed
    · rename_i beyond
      refine ⟨(Except.error.inj failed).symm, ?_⟩
      rw [Decidable.not_and_iff_not_or_not] at beyond
      exact beyond.symm.imp_right fun high => ⟨exe, high⟩
  · split at failed
    · cases failed
    · rename_i beyond
      exact ⟨(Except.error.inj failed).symm, .inl beyond⟩

/-- A list with an entry that cannot be passed has no room. -/
theorem not_roomFor_of_overflow {names : List (List RtU8)} {name : List RtU8} {i : Nat}
    (entry : names[i]? = some name)
    (beyond : ¬ IsInt (i + 1) ∨ hasExe name = true ∧
      ¬ IsInt (50 + (buttonHeight + 10) * (exeButtons 0 (names.take i)).length +
        (buttonHeight + 10))) : ¬ RoomFor names := by
  have inside : i < names.length := (List.getElem?_eq_some_iff.mp entry).1
  simp only [RoomFor, IsInt, buttonHeight] at beyond ⊢
  rcases beyond with index | ⟨exe, place⟩
  · omega
  · have counted : (names.take (i + 1)).countP hasExe ≤ names.countP hasExe :=
      (List.take_sublist _ _).countP_le
    rw [List.take_add_one, entry, List.countP_append, ← exeButtons_countP 0 (names.take i)]
      at counted
    simp only [Option.toList_some, List.countP_singleton, exe, if_true] at counted
    omega

/-- The loop over the entries puts up the buttons of the list if it has room for them, and
otherwise does not come to its end. -/
theorem scanSteps_files (answer : ScanAnswer) {s : DesktopState} {files : FileInfoList}
    {i left : Nat} {x y : Int} (point : s.point = .files files i x y)
    (shown : ShownAt s (.files files i x y)) (rest : i + left = files.names.length)
    (index : IsInt i) (place : IsInt y) :
    scanSteps answer (left + 1) s = .error .overflow ∧ ¬ RoomFor files.names ∨
      ∃ s', scanSteps answer (left + 1) s = .ok s' ∧ s'.point = .unlock files ∧
        s'.buttons = exeButtons files.handle files.names ∧ RoomFor files.names := by
  -- the induction is on the number of entries that are left
  induction left generalizing s i x y with
  | zero =>
    have entry : files.names[i]? = none := List.getElem?_eq_none (by omega)
    obtain ⟨buttons, -, -, rfl, -⟩ := shown
    obtain rfl : i = files.names.length := rest
    rw [List.take_length] at buttons
    rw [buttons, exeButtons_countP] at place
    refine .inr ⟨{ s with point := .unlock files }, ?_, rfl, buttons, index, place⟩
    rw [scanSteps, scanApplications, point]
    dsimp only
    rw [entry]
    rfl
  | succ left ih =>
    have inside : i < files.names.length := by omega
    have entry := List.getElem?_eq_getElem inside
    rw [scanSteps, scanApplications, point]
    dsimp only
    rw [entry]
    dsimp only
    cases body : showEntry files files.names[i] i x y s with
    | error fault =>
      obtain ⟨rfl, beyond⟩ := showEntry_overflow body
      obtain ⟨buttons, -, -, rfl, -⟩ := shown
      rw [buttons, exeButtons_countP, ← exeButtons_countP 0] at beyond
      exact .inl ⟨rfl, not_roomFor_of_overflow entry beyond⟩
    | ok next =>
      have shown' := showEntry_shownAt shown entry body
      obtain ⟨index', ⟨-, place', rfl⟩ | ⟨-, rfl⟩⟩ := showEntry_cases body
      · exact ih rfl shown' (by omega) index' place'
      · exact ih rfl shown' (by omega) index' place

/-- A pass over a list that has room ends in its sleep, with the buttons of the list and no
other, and a pass over another list does not come to its end. -/
theorem scanPass_buttons (names : List (List RtU8)) (buttons : List DesktopButton)
    (live : List FileInfoList) (returned : Nat) :
    scanPass names ⟨.fat32Init, false, buttons, live, returned⟩ = .error .overflow ∧
        ¬ RoomFor names ∨
      ∃ s, scanPass names ⟨.fat32Init, false, buttons, live, returned⟩ = .ok s ∧
        s.point = .sleep ∧ s.buttons = exeButtons returned names ∧ RoomFor names := by
  let files : FileInfoList := ⟨returned, names⟩
  let cleared : DesktopState := ⟨.files files 0 50 50, true, [], live ++ [files], returned + 1⟩
  have first : scanSteps ⟨0, some names⟩ 4 ⟨.fat32Init, false, buttons, live, returned⟩ =
    .ok cleared := rfl
  have shown : ShownAt cleared (.files files 0 50 50) :=
    ⟨rfl, List.mem_append_right _ List.mem_cons_self, rfl, rfl, Nat.zero_le _⟩
  rw [scanPass, scanSteps_add, scanSteps_add, first]
  rcases scanSteps_files ⟨0, some names⟩ (show cleared.point = .files files 0 50 50 from rfl) shown
    (Nat.zero_add names.length) (by decide) (by decide) with
    ⟨failed, full⟩ | ⟨s, looped, point, put, room⟩
  · rw [Except.bind, failed]
    exact .inl ⟨rfl, full⟩
  · rw [Except.bind, looped]
    have last : scanSteps ⟨0, some names⟩ 2 s = .ok
        { s with
          locked := false, point := .sleep,
          live := s.live.filter (·.handle ≠ files.handle) } := by
      rw [scanSteps, scanApplications, point]
      rfl
    exact .inr ⟨_, last, rfl, put, room⟩

/-- From any desktop, a pass that is given a list of files comes to its end with the buttons of
its `.exe` files exactly when every name in the list that contains `.exe` ends with it and the
loop has room for the list. -/
theorem scanPass_showsExeFiles_iff (names : List (List RtU8)) (buttons : List DesktopButton)
    (live : List FileInfoList) (returned : Nat) :
    (∃ s, scanPass names ⟨.fat32Init, false, buttons, live, returned⟩ = .ok s ∧
        s.point = .sleep ∧ ShowsExeFiles returned names s.buttons) ↔
      (∀ name ∈ names, hasExe name = true → isExe name = true) ∧ RoomFor names := by
  rcases scanPass_buttons names buttons live returned with
    ⟨failed, full⟩ | ⟨s, done, sleep, put, room⟩
  · rw [failed]
    constructor
    · rintro ⟨s, done, -⟩
      cases done
    · rintro ⟨-, room⟩
      exact absurd room full
  · rw [done, ← exeButtons_shows_iff returned, ← put]
    constructor
    · rintro ⟨s', same, -, shows'⟩
      rw [← Except.ok.inj same] at shows'
      exact ⟨shows', room⟩
    · rintro ⟨shows', -⟩
      exact ⟨s, rfl, sleep, shows'⟩

/-- The file `a.exe.txt` is given a button. -/
theorem scanPass_shows_other :
    ∃ s, scanPass [cString "a.exe.txt"] desktopStart = .ok s ∧ s.point = .sleep ∧
      ¬ ShowsExeFiles 0 [cString "a.exe.txt"] s.buttons := by
  rcases scanPass_buttons [cString "a.exe.txt"] [] [] 0 with ⟨-, full⟩ | ⟨s, done, sleep, put, -⟩
  · exact absurd ⟨by decide +kernel, by decide +kernel⟩ full
  · refine ⟨s, done, sleep, ?_⟩
    rw [put, exeButtons_shows_iff]
    intro shows'
    have exe := shows' (cString "a.exe.txt") List.mem_cons_self (by decide +kernel)
    exact absurd exe (by decide +kernel)

end LamaOS
