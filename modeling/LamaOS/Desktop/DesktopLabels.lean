import LamaOS.Desktop.Desktop
import LamaOS.Misc.Calls

/-!
# The labels of the buttons

A button is given a pointer into the list of files that the pass works on, and the pass frees
that list when it is done. The buttons stay until the next pass has come as far as to remove
them, so they point to freed names as soon as a pass that has shown one is over.
-/

namespace LamaOS

/-- Every button points into a list that is live. -/
def LabelsLive (s : DesktopState) : Prop :=
  ∀ button ∈ s.buttons, ∃ files ∈ s.live, files.handle = button.userData.list

/-- The step does not free a list with a name that contains `.exe`. -/
def FreesNoLabel (s : DesktopState) (event : DesktopEvent) : Prop :=
  ∀ answer files, event = .scan answer → s.point = .freeFileInfo files →
    ∀ name ∈ files.names, hasExe name = false

/-! ## The buttons of a pass -/

/-- The buttons for the names of a list, from the first on. -/
def exeButtons (handle : Nat) (names : List (List RtU8)) : List DesktopButton :=
  (names.zipIdx.filter fun entry => hasExe entry.1).zipIdx.map fun entry =>
    ⟨entry.1.1, 50, 50 + (buttonHeight + 10) * entry.2, buttonWidth, buttonHeight,
      ⟨handle, entry.1.2⟩⟩

theorem exeButtons_length (handle : Nat) (names : List (List RtU8)) :
    (exeButtons handle names).length =
      (names.zipIdx.filter fun entry => hasExe entry.1).length := by
  simp [exeButtons]

/-- One more name has a button at the end if it contains `.exe`. -/
theorem exeButtons_snoc (handle : Nat) (names : List (List RtU8)) (name : List RtU8) :
    exeButtons handle (names ++ [name]) =
      exeButtons handle names ++
        if hasExe name then
          [⟨name, 50, 50 + (buttonHeight + 10) * (exeButtons handle names).length, buttonWidth,
            buttonHeight, ⟨handle, names.length⟩⟩]
        else [] := by
  rw [exeButtons_length]
  by_cases exe : hasExe name = true
  · simp [exeButtons, List.zipIdx_append, exe]
  · simp [exeButtons, List.zipIdx_append, exe]

/-- The buttons for one more entry of a list. -/
theorem exeButtons_take_succ (handle : Nat) {names : List (List RtU8)} {i : Nat}
    {name : List RtU8} (entry : names[i]? = some name) :
    exeButtons handle (names.take (i + 1)) =
      exeButtons handle (names.take i) ++
        if hasExe name then
          [⟨name, 50, 50 + (buttonHeight + 10) * (exeButtons handle (names.take i)).length,
            buttonWidth, buttonHeight, ⟨handle, i⟩⟩]
        else [] := by
  have inside : i < names.length := (List.getElem?_eq_some_iff.mp entry).1
  have length : (names.take i).length = i := by
    rw [List.length_take, Nat.min_eq_left (Nat.le_of_lt inside)]
  have next : names.take (i + 1) = names.take i ++ [name] := by
    rw [List.take_add_one, entry]
    rfl
  rw [next, exeButtons_snoc, length]

theorem exeButtons_userData {handle : Nat} {names : List (List RtU8)} {button : DesktopButton}
    (mem : button ∈ exeButtons handle names) : button.userData.list = handle := by
  rcases List.mem_map.mp mem with ⟨entry, _, rfl⟩
  rfl

theorem exeButtons_eq_nil_iff (handle : Nat) (names : List (List RtU8)) :
    exeButtons handle names = [] ↔ ∀ name ∈ names, hasExe name = false := by
  induction names using List.reverseRecOn with
  | nil => simp [exeButtons]
  | append_singleton names name ih =>
    rw [exeButtons_snoc, List.append_eq_nil_iff, ih]
    cases exe : hasExe name with
    | true => simp [exe]
    | false => simp [exe, or_imp, forall_and]

/-! ## What holds where -/

/-- What the desktop shows, by where the thread is, as long as no label is freed. -/
def ShownAt (s : DesktopState) : ScanPoint → Prop
  | .fat32Init => s.buttons = []
  | .readDirectory => s.buttons = []
  | .lock files => s.buttons = [] ∧ files ∈ s.live
  | .removeButtons files => s.buttons = [] ∧ files ∈ s.live
  | .files files i x y =>
    s.buttons = exeButtons files.handle (files.names.take i) ∧ files ∈ s.live ∧ x = 50 ∧
      y = 50 + (buttonHeight + 10) * s.buttons.length ∧ i ≤ files.names.length
  | .unlock files => s.buttons = exeButtons files.handle files.names ∧ files ∈ s.live
  | .freeFileInfo files => s.buttons = exeButtons files.handle files.names ∧ files ∈ s.live
  | .sleep => s.buttons = []

/-- Without buttons every label is live. -/
theorem labelsLive_of_nil {s : DesktopState} (none : s.buttons = []) : LabelsLive s := by
  intro button mem
  rw [none] at mem
  cases mem

/-- The labels of a list that is live are live. -/
theorem labelsLive_of_exeButtons {s : DesktopState} {files : FileInfoList}
    {names : List (List RtU8)} (shown : s.buttons = exeButtons files.handle names)
    (live : files ∈ s.live) : LabelsLive s := by
  intro button mem
  rw [shown] at mem
  exact ⟨files, live, (exeButtons_userData mem).symm⟩

theorem shownAt_labelsLive {s : DesktopState} (shown : ShownAt s s.point) : LabelsLive s := by
  cases point : s.point with
  | fat32Init =>
    rw [point] at shown
    exact labelsLive_of_nil shown
  | readDirectory =>
    rw [point] at shown
    exact labelsLive_of_nil shown
  | lock files =>
    rw [point] at shown
    exact labelsLive_of_nil shown.1
  | removeButtons files =>
    rw [point] at shown
    exact labelsLive_of_nil shown.1
  | files files i x y =>
    rw [point] at shown
    exact labelsLive_of_exeButtons shown.1 shown.2.1
  | unlock files =>
    rw [point] at shown
    exact labelsLive_of_exeButtons shown.1 shown.2
  | freeFileInfo files =>
    rw [point] at shown
    exact labelsLive_of_exeButtons shown.1 shown.2
  | sleep =>
    rw [point] at shown
    exact labelsLive_of_nil shown

/-- What the loop does at an entry. -/
theorem showEntry_cases {s s' : DesktopState} {files : FileInfoList} {name : List RtU8} {i : Nat}
    {x y : Int} (done : showEntry files name i x y s = .ok s') :
    IsInt (i + 1) ∧
      (hasExe name = true ∧ IsInt (y + (buttonHeight + 10)) ∧
          s' = { addDesktopButton name ⟨files.handle, i⟩ x y s with
            point := .files files (i + 1) x (y + (buttonHeight + 10)) } ∨
        hasExe name = false ∧ s' = { s with point := .files files (i + 1) x y }) := by
  unfold showEntry at done
  split at done
  · rename_i exe
    split at done
    · rename_i fits
      exact ⟨fits.2, .inl ⟨exe, fits.1, (Except.ok.inj done).symm⟩⟩
    · cases done
  · rename_i other
    split at done
    · rename_i fits
      exact ⟨fits, .inr ⟨by simpa using other, (Except.ok.inj done).symm⟩⟩
    · cases done

/-- At an entry the loop goes on with the buttons of one entry more. -/
theorem showEntry_shownAt {s s' : DesktopState} {files : FileInfoList} {name : List RtU8} {i : Nat}
    {x y : Int} (shown : ShownAt s (.files files i x y)) (entry : files.names[i]? = some name)
    (body : showEntry files name i x y s = .ok s') : ShownAt s' s'.point := by
  rcases shown with ⟨shown, live, rfl, place, within⟩
  have inside := (List.getElem?_eq_some_iff.mp entry).1
  have buttons := exeButtons_take_succ files.handle entry
  rw [← shown] at buttons
  rcases (showEntry_cases body).2 with ⟨exe, -, rfl⟩ | ⟨other, rfl⟩
  · rw [if_pos exe, ← place] at buttons
    refine ⟨buttons.symm, live, rfl, ?_, inside⟩
    simp only [addDesktopButton, List.length_append, List.length_singleton, place]
    push_cast
    rw [Int.mul_add, Int.mul_one, Int.add_assoc]
  · rw [if_neg (by simp [other]), List.append_nil] at buttons
    exact ⟨buttons.symm, live, rfl, place, inside⟩

/-- A step of the thread that frees no label shows what it should where it leads. -/
theorem scanApplications_shownAt {answer : ScanAnswer} {s s' : DesktopState}
    {reply : DesktopReply} (shown : ShownAt s s.point) (allowed : FreesNoLabel s (.scan answer))
    (done : scanApplications answer s = .ok (s', reply)) : ShownAt s' s'.point := by
  cases scanStep_of_ok done with
  | failed point =>
    rcases point with point | point
    · rw [point] at shown
      exact shown
    · rw [point] at shown
      exact shown
  | initialised point =>
    rw [point] at shown
    exact shown
  | returned point =>
    rw [point] at shown
    exact ⟨shown, List.mem_append_right _ List.mem_cons_self⟩
  | waits => exact shown
  | locks point =>
    rw [point] at shown
    exact shown
  | removes point =>
    rw [point] at shown
    exact ⟨rfl, shown.2, rfl, rfl, Nat.zero_le _⟩
  | shows point entry body =>
    rw [point] at shown
    exact showEntry_shownAt shown entry body
  | ends point entry =>
    rw [point] at shown
    rcases shown with ⟨shown, live, -⟩
    rw [List.take_of_length_le (List.getElem?_eq_none_iff.mp entry)] at shown
    exact ⟨shown, live⟩
  | unlocks point =>
    rw [point] at shown
    exact shown
  | @frees files point =>
    rw [point] at shown
    have none := allowed answer files rfl point
    rw [← exeButtons_eq_nil_iff files.handle, ← shown.1] at none
    exact none
  | wakes point =>
    rw [point] at shown
    exact shown

/-- Freeing a list with a label leaves a button that points into it. -/
theorem scanApplications_freed (answer : ScanAnswer) {s : DesktopState} {files : FileInfoList}
    (point : s.point = .freeFileInfo files) (shown : ShownAt s s.point)
    (label : ∃ name ∈ files.names, hasExe name = true) :
    ∃ s' reply, scanApplications answer s = .ok (s', reply) ∧ ¬ LabelsLive s' := by
  rw [point] at shown
  have some : s.buttons ≠ [] := by
    rw [shown.1]
    intro none
    rcases label with ⟨name, mem, exe⟩
    rw [(exeButtons_eq_nil_iff files.handle files.names).mp none name mem] at exe
    cases exe
  rcases List.exists_mem_of_ne_nil _ some with ⟨button, mem⟩
  refine ⟨_, _, by rw [scanApplications, point], ?_⟩
  intro live
  rcases live button mem with ⟨other, still, same⟩
  rw [shown.1] at mem
  rw [exeButtons_userData mem] at same
  simp [same] at still

/-! ## Runs -/

/-- In every run of passes and clicks the labels of all buttons stay live exactly as long as no
list is freed in which a name contains `.exe`. -/
theorem desktopRun_labelsLive_iff (events : List DesktopEvent) :
    Calls.Always desktopStep LabelsLive desktopStart events ↔
      Calls.Everywhere desktopStep FreesNoLabel desktopStart events := by
  apply Calls.always_iff fun s => ShownAt s s.point
  · intro s event s' reply shown live allowed done
    cases event with
    | scan answer =>
      have shown' := scanApplications_shownAt shown allowed done
      exact ⟨shown', shownAt_labelsLive shown'⟩
    | click button =>
      rw [desktopStep] at done
      cases clicked : onButtonClicked button s with
      | error fault =>
        rw [clicked] at done
        cases done
      | ok reply' =>
        rw [clicked] at done
        cases done
        exact ⟨shown, live⟩
  · intro s event shown live refused
    simp only [FreesNoLabel, not_forall] at refused
    rcases refused with ⟨answer, files, rfl, point, name, mem, label⟩
    exact scanApplications_freed answer point shown ⟨name, mem, by simpa using label⟩
  · rfl
  · exact labelsLive_of_nil rfl

/-- A directory with one file. -/
def oneFile (name : List RtU8) : DesktopEvent := .scan ⟨0, some [name]⟩

/-- After a pass that has shown `a.exe` its button points into the list that the pass has
freed. -/
theorem desktopRun_frees_label :
    ¬ Calls.Always desktopStep LabelsLive desktopStart
      (List.replicate 8 (oneFile (cString "a.exe"))) := by
  intro always
  have last : LabelsLive ⟨.sleep, false, [⟨cString "a.exe", 50, 50, 100, 50, ⟨0, 0⟩⟩], [], 1⟩ :=
    always.last rfl
  rcases last _ List.mem_cons_self with ⟨files, live, _⟩
  cases live

end LamaOS
