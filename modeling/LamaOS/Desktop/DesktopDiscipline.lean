import LamaOS.Desktop.DesktopPass

/-!
# Lists, lock and clicks

The thread holds at most one list of files at a time and the mutex only while it rebuilds the
desktop; it frees every list it was given and lets the mutex go before it sleeps. A click is a
different matter: it reads the label of its button through the list that the button came from,
and that list is live from the moment the buttons are taken away to the moment it is freed.
Everywhere else on its way round the loop the thread leaves buttons that must not be clicked.
-/

namespace LamaOS

namespace ScanPoint

/-- The list that the thread has been given and has not freed. -/
def held : ScanPoint → Option FileInfoList
  | .lock list | .removeButtons list | .files list _ _ _ | .unlock list
  | .freeFileInfo list => some list
  | .fat32Init | .readDirectory | .sleep => none

/-- The thread is between `pthread_mutex_lock` and `pthread_mutex_unlock`. -/
def holdsLock : ScanPoint → Bool
  | .removeButtons _ | .files .. | .unlock _ => true
  | _ => false

/-- The buttons of earlier passes have been taken away, and the list of this pass is live. -/
def rebuilt : ScanPoint → Bool
  | .files .. | .unlock _ | .freeFileInfo _ => true
  | _ => false

end ScanPoint

/-- The button stands for an entry of the list. -/
def StandsFor (files : FileInfoList) (button : DesktopButton) : Prop :=
  button.userData.list = files.handle ∧ files.names[button.userData.index]? = some button.label

/-- What the buttons point to, by where the thread is. -/
def LabelsAt (s : DesktopState) : ScanPoint → Prop
  | .files files i _ y =>
    (∀ button ∈ s.buttons, StandsFor files button ∧ button.y + button.height ≤ y) ∧
      0 ≤ y ∧ y ≤ 50 + (buttonHeight + 10) * i
  | .unlock files | .freeFileInfo files => ∀ button ∈ s.buttons, StandsFor files button
  -- the lists of the buttons are older than the one that is live
  | _ => ∀ button ∈ s.buttons, button.userData.list + s.live.length < s.returned

/-- What holds of the desktop whenever the thread and the clicks leave it. -/
structure Orderly (s : DesktopState) : Prop where
  live : s.live = s.point.held.toList
  newest : ∀ files, s.point.held = some files → files.handle + 1 = s.returned
  locked : s.locked = s.point.holdsLock
  apart : s.buttons.Pairwise Apart
  labels : LabelsAt s s.point

variable {s s' : DesktopState} {files : FileInfoList} {button : DesktopButton}

theorem desktopStart_orderly : Orderly desktopStart :=
  ⟨rfl, nofun, rfl, List.Pairwise.nil, fun _ mem => absurd mem List.not_mem_nil⟩

/-- A button goes below those that are there. -/
theorem pairwise_apart_addDesktopButton {label : List RtU8} {ref : NameRef} {x y : Int}
    (apart : s.buttons.Pairwise Apart)
    (above : ∀ button ∈ s.buttons, button.y + button.height ≤ y) :
    (addDesktopButton label ref x y s).buttons.Pairwise Apart := by
  rw [addDesktopButton, List.pairwise_append]
  refine ⟨apart, List.pairwise_singleton _ _, ?_⟩
  intro button mem new new_mem
  rw [List.mem_singleton.mp new_mem]
  right
  right
  left
  exact above button mem

/-- The loop at an entry. -/
theorem orderly_showEntry {i : Nat} {x y : Int} {name : List RtU8}
    (point : s.point = .files files i x y) (orderly : Orderly s)
    (entry : files.names[i]? = some name) (body : showEntry files name i x y s = .ok s') :
    Orderly s' := by
  obtain ⟨live, newest, locked, apart, labels⟩ := orderly
  rw [point] at live newest locked labels
  obtain ⟨buttons, low, high⟩ := labels
  have grown : (0 : Int) ≤ buttonHeight + 10 := by decide
  have higher : 50 + (buttonHeight + 10) * ((i + 1 : Nat) : Int) =
      50 + (buttonHeight + 10) * i + (buttonHeight + 10) := by
    push_cast
    rw [Int.mul_add, Int.mul_one, Int.add_assoc]
  rcases (showEntry_cases body).2 with ⟨-, -, rfl⟩ | ⟨-, rfl⟩
  · have above : ∀ button ∈ s.buttons, button.y + button.height ≤ y := fun button mem =>
      (buttons button mem).2
    refine ⟨live, newest, locked, pairwise_apart_addDesktopButton apart above, ?_, by omega,
      by omega⟩
    intro button mem
    rcases List.mem_append.mp mem with old | new
    · have lower := above button old
      exact ⟨(buttons button old).1, by omega⟩
    · rw [List.mem_singleton.mp new]
      have fits : y + buttonHeight ≤ y + (buttonHeight + 10) := by omega
      exact ⟨⟨rfl, entry⟩, fits⟩
  · exact ⟨live, newest, locked, apart, buttons, low, by omega⟩

/-- A step of the thread leaves the desktop in order. -/
theorem orderly_scan {answer : ScanAnswer} {reply : DesktopReply} (orderly : Orderly s)
    (done : scanApplications answer s = .ok (s', reply)) : Orderly s' := by
  have ⟨live, newest, locked, apart, labels⟩ := orderly
  cases scanStep_of_ok done with
  | failed point =>
    rcases point with point | point
    · rw [point] at live newest locked labels
      exact ⟨live, nofun, locked, apart, labels⟩
    · rw [point] at live newest locked labels
      exact ⟨live, nofun, locked, apart, labels⟩
  | initialised point =>
    rw [point] at live newest locked labels
    exact ⟨live, nofun, locked, apart, labels⟩
  | returned point =>
    rw [point] at live newest locked labels
    have none : s.live = [] := live
    refine ⟨by simp [none, ScanPoint.held], ?_, locked, apart, ?_⟩
    · rintro files same
      cases same
      rfl
    · intro button mem
      have older := labels button mem
      simp only [none, List.length_nil] at older
      simp only [none, List.nil_append, List.length_singleton]
      omega
  | waits => exact orderly
  | locks point =>
    rw [point] at live newest locked labels
    exact ⟨live, newest, rfl, apart, labels⟩
  | removes point =>
    rw [point] at live newest locked labels
    exact ⟨live, newest, locked, List.Pairwise.nil,
      fun _ mem => absurd mem List.not_mem_nil, by decide, by decide⟩
  | shows point entry body => exact orderly_showEntry point orderly entry body
  | ends point =>
    rw [point] at live newest locked labels
    exact ⟨live, newest, locked, apart, fun button mem => (labels.1 button mem).1⟩
  | unlocks point =>
    rw [point] at live newest locked labels
    exact ⟨live, newest, rfl, apart, labels⟩
  | @frees files point =>
    rw [point] at live newest locked labels
    have only : s.live = [files] := live
    have freed : s.live.filter (·.handle ≠ files.handle) = [] := by simp [only]
    refine ⟨freed, nofun, locked, apart, ?_⟩
    intro button mem
    have last := newest files rfl
    have from_list := (labels button mem).1
    simp only [freed, List.length_nil]
    omega
  | wakes point =>
    rw [point] at live newest locked labels
    exact ⟨live, nofun, locked, apart, labels⟩

/-- The `int`s of the loop have room for the first 35791393 entries of a list. -/
theorem Orderly.overflow {answer : ScanAnswer} {fault : DesktopFault} (orderly : Orderly s)
    (failed : scanApplications answer s = .error fault) :
    fault = .overflow ∧ ∃ files ∈ s.live, 35791393 < files.names.length := by
  obtain ⟨_, _, done, -⟩ | ⟨files, i, x, y, name, fault', point, entry, body, failed'⟩ :=
    scanApplications_step answer s
  · rw [failed] at done
    cases done
  obtain rfl : fault' = fault := Except.error.inj (failed'.symm.trans failed)
  obtain ⟨live, -, -, -, labels⟩ := orderly
  rw [point] at live labels
  obtain ⟨-, low, high⟩ := labels
  obtain ⟨rfl, beyond⟩ := showEntry_overflow body
  have inside : i < files.names.length := (List.getElem?_eq_some_iff.mp entry).1
  refine ⟨rfl, files, by simp [live, ScanPoint.held], ?_⟩
  simp only [IsInt, buttonHeight] at beyond high
  rcases beyond with index | ⟨-, place⟩
  · omega
  · omega

/-! ## Clicks -/

/-- The buttons of the list that is live do what they show. -/
theorem onButtonClicked_of_standsFor {i : Nat} (there : s.buttons[i]? = some button)
    (live : s.live = [files]) (stands : StandsFor files button) :
    onButtonClicked i s = .ok (.clicked (buttonCommand button.label) (buttonMessage button.label)) := by
  obtain ⟨handle, name⟩ := stands
  simp [onButtonClicked, there, live, handle, name]

/-- A button of an older list is read through a pointer into freed memory. -/
theorem onButtonClicked_of_older {i : Nat} (there : s.buttons[i]? = some button)
    (older : ∀ files ∈ s.live, files.handle ≠ button.userData.list) :
    onButtonClicked i s = .error (.freed button.userData.list) := by
  have gone : s.live.find? (·.handle = button.userData.list) = none := by
    simpa using older
  simp [onButtonClicked, there, gone]

theorem Orderly.older (orderly : Orderly s) (mem : button ∈ s.buttons)
    (stale : s.point.rebuilt = false) : ∀ files ∈ s.live, files.handle ≠ button.userData.list := by
  obtain ⟨live, newest, -, -, labels⟩ := orderly
  intro files held same
  rw [live, Option.mem_toList] at held
  have last := newest files held
  have before : button.userData.list + s.live.length < s.returned := by
    cases point : s.point with
    | files _ _ _ _ => rw [point] at stale; cases stale
    | unlock _ => rw [point] at stale; cases stale
    | freeFileInfo _ => rw [point] at stale; cases stale
    | fat32Init => rw [point] at labels; exact labels button mem
    | readDirectory => rw [point] at labels; exact labels button mem
    | lock _ => rw [point] at labels; exact labels button mem
    | removeButtons _ => rw [point] at labels; exact labels button mem
    | sleep => rw [point] at labels; exact labels button mem
  rw [live, Option.mem_def.mp held, Option.toList_some, List.length_singleton] at before
  omega

theorem Orderly.standsFor (orderly : Orderly s) (mem : button ∈ s.buttons)
    (fresh : s.point.rebuilt = true) : ∃ files, s.live = [files] ∧ StandsFor files button := by
  obtain ⟨live, -, -, -, labels⟩ := orderly
  cases point : s.point with
  | files files _ _ _ =>
    rw [point] at live labels
    exact ⟨files, live, (labels.1 button mem).1⟩
  | unlock files =>
    rw [point] at live labels
    exact ⟨files, live, labels button mem⟩
  | freeFileInfo files =>
    rw [point] at live labels
    exact ⟨files, live, labels button mem⟩
  | fat32Init => rw [point] at fresh; cases fresh
  | readDirectory => rw [point] at fresh; cases fresh
  | lock _ => rw [point] at fresh; cases fresh
  | removeButtons _ => rw [point] at fresh; cases fresh
  | sleep => rw [point] at fresh; cases fresh

/-! ## Runs -/

theorem orderly_step {event : DesktopEvent} {reply : DesktopReply} (orderly : Orderly s)
    (done : desktopStep s event = .ok (s', reply)) : Orderly s' := by
  cases event with
  | scan answer => exact orderly_scan orderly done
  | click i =>
    rw [desktopStep] at done
    cases clicked : onButtonClicked i s with
    | error fault => rw [clicked] at done; cases done
    | ok reply' => rw [clicked] at done; cases done; exact orderly

/-- In every state that passes and clicks lead to, whatever the file system answers, exactly
the list of the pass in progress is live, the mutex is locked exactly while the thread is
between its two calls, and no two buttons overlap. A click starts the application that the
button shows while the buttons are those of this list, and at every other moment it reads a
name that has been freed. A step of the thread fails only by an overflow, for which the list
has to hold more than 35791393 names. -/
theorem desktop_discipline (events : List DesktopEvent) (s : DesktopState)
    (replies : List DesktopReply)
    (ran : Calls.run desktopStep desktopStart events = .ok (s, replies)) :
    s.live = s.point.held.toList ∧ s.locked = s.point.holdsLock ∧
      s.buttons.Pairwise Apart ∧
      (∀ i button, s.buttons[i]? = some button →
        desktopStep s (.click i) =
          if s.point.rebuilt then
            .ok (s, .clicked (buttonCommand button.label) (buttonMessage button.label))
          else .error (.freed button.userData.list)) ∧
      ∀ answer fault, desktopStep s (.scan answer) = .error fault →
        fault = .overflow ∧ ∃ files ∈ s.live, 35791393 < files.names.length := by
  have always : Calls.Always desktopStep Orderly desktopStart events :=
    Calls.always_of_everywhere (Q := fun _ _ => True)
      (fun _ _ _ _ orderly _ done => orderly_step orderly done) desktopStart_orderly
      (Calls.everywhere_of_forall (fun _ _ => trivial) _ events)
  have orderly := always.last ran
  refine ⟨orderly.live, orderly.locked, orderly.apart, ?_, fun _ _ => orderly.overflow⟩
  intro i button there
  have mem := List.mem_of_getElem? there
  rw [desktopStep]
  split
  · rename_i fresh
    obtain ⟨files, live, stands⟩ := orderly.standsFor mem fresh
    rw [onButtonClicked_of_standsFor there live stands]
    rfl
  · rename_i stale
    rw [onButtonClicked_of_older there (orderly.older mem (by simpa using stale))]
    rfl

/-- Before the list of its pass is freed the button of `a.exe` may be clicked. -/
theorem desktop_discipline_click :
    ∃ s, Calls.run desktopStep desktopStart (List.replicate 7 (oneFile (cString "a.exe"))) =
        .ok (s, List.replicate 7 .nothing) ∧
      desktopStep s (.click 0) =
        .ok (s, .clicked (buttonCommand (cString "a.exe")) (buttonMessage (cString "a.exe"))) := by
  obtain ⟨s, ran, point, buttons⟩ : ∃ s,
      Calls.run desktopStep desktopStart (List.replicate 7 (oneFile (cString "a.exe"))) =
        .ok (s, List.replicate 7 .nothing) ∧ s.point.rebuilt = true ∧
      s.buttons[0]? = some ⟨cString "a.exe", 50, 50, 100, 50, ⟨0, 0⟩⟩ := ⟨_, rfl, rfl, rfl⟩
  have click := (desktop_discipline _ s _ ran).2.2.2.1 0 _ buttons
  rw [if_pos point] at click
  exact ⟨s, ran, click⟩

end LamaOS
