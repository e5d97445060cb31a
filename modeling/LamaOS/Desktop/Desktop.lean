import LamaOS.Drivers.Common.RtTypes
import Mathlib.Data.List.Infix

/-!
# The desktop

The functions of `desktop.c` that show the applications and start one: the thread
`scan_applications` goes round its loop, and the user clicks on buttons. `fat32_init`,
`fat32_read_directory` and `fat32_free_file_info` are defined nowhere in the repository. What
the first two answer comes with each step of the thread; a list is live from the call that
returns it to the call that frees it, and a pointer into it is its handle with the index of
the entry. A list of files holds the names in front of its terminating entry, each as the
bytes before the zero. The index and the position of the loop are `int`s, and a step that would
take one of them over the end of its range is a fault.
-/

namespace LamaOS

/-- `BUTTON_WIDTH`. -/
def buttonWidth : Int := 100

/-- `BUTTON_HEIGHT`. -/
def buttonHeight : Int := 50

/-- A pointer to the name of an entry in a list of files. -/
structure NameRef where
  list : Nat
  index : Nat
  deriving DecidableEq, Repr

/-- A list of `FileInfo` entries. -/
structure FileInfoList where
  handle : Nat
  names : List (List RtU8)
  deriving DecidableEq, Repr

/-- A button: the text it shows, its place and size, and the pointer that `on_button_clicked`
is called with. -/
structure DesktopButton where
  label : List RtU8
  x : Int
  y : Int
  width : Int
  height : Int
  userData : NameRef
  deriving DecidableEq, Repr

/-- Where `scan_applications` is: in front of the call or the loop of this name. -/
inductive ScanPoint where
  | fat32Init
  | readDirectory
  | lock (files : FileInfoList)
  | removeButtons (files : FileInfoList)
  | files (files : FileInfoList) (i : Nat) (x y : Int)
  | unlock (files : FileInfoList)
  | freeFileInfo (files : FileInfoList)
  | sleep
  deriving DecidableEq, Repr

/-- The desktop and the thread; `returned` is the number of lists that have been returned. -/
structure DesktopState where
  point : ScanPoint
  locked : Bool
  buttons : List DesktopButton
  live : List FileInfoList
  returned : Nat
  deriving DecidableEq, Repr

/-- The desktop when the thread is started. -/
def desktopStart : DesktopState := ⟨.fat32Init, false, [], [], 0⟩

/-! ## The button -/

/-- What `snprintf` leaves of a text in a buffer of `size` bytes, before the zero. -/
def snprintf (size : Nat) (text : List RtU8) : List RtU8 := text.take (size - 1)

/-- The formatted text of `on_button_clicked`. -/
def buttonText (appName : List RtU8) : List RtU8 :=
  cString "systemctl --no-block start elf_monitor.service && echo " ++ appName ++
    cString " > /var/run/elf_monitor.pid"

/-- The string that `on_button_clicked` gives to `system`. -/
def buttonCommand (appName : List RtU8) : List RtU8 := snprintf 256 (buttonText appName)

/-- The line that `on_button_clicked` prints. -/
def buttonMessage (appName : List RtU8) : List RtU8 :=
  appName ++ cString " uygulaması çalıştırıldı.\n"

/-! ## Steps -/

/-- What the file system answers, where it is asked. -/
structure ScanAnswer where
  fat32Init : RtU32
  readDirectory : Option (List (List RtU8))
  deriving DecidableEq, Repr

inductive DesktopEvent where
  | scan (answer : ScanAnswer)
  | click (button : Nat)
  deriving DecidableEq, Repr

/-- What a step shows: a line on the error output, or what a click gives to `system` and
prints. -/
inductive DesktopReply where
  | nothing
  | error (line : List RtU8)
  | clicked (command message : List RtU8)
  deriving DecidableEq, Repr

inductive DesktopFault where
  /-- A name is read through a list that has been freed. -/
  | freed (list : Nat)
  /-- An addition has no result in an `int`, and what the code does then is undefined. -/
  | overflow
  deriving DecidableEq, Repr

/-- The number is a value of `int`. -/
def IsInt (n : Int) : Prop := -2147483648 ≤ n ∧ n ≤ 2147483647

instance (n : Int) : Decidable (IsInt n) := inferInstanceAs (Decidable (_ ∧ _))

/-- `strstr(name, ".exe") != NULL`. -/
def hasExe (name : List RtU8) : Bool := cString ".exe" <:+: name

/-- `add_desktop_button`. -/
def addDesktopButton (label : List RtU8) (ref : NameRef) (x y : Int) (s : DesktopState) :
    DesktopState :=
  { s with buttons := s.buttons ++ [⟨label, x, y, buttonWidth, buttonHeight, ref⟩] }

/-- `remove_desktop_buttons`. -/
def removeDesktopButtons (s : DesktopState) : DesktopState := { s with buttons := [] }

/-- The loop over the entries for the entry `i` with this name, its `i++` included. -/
def showEntry (files : FileInfoList) (name : List RtU8) (i : Nat) (x y : Int) (s : DesktopState) :
    Except DesktopFault DesktopState :=
  if hasExe name then
    if IsInt (y + (buttonHeight + 10)) ∧ IsInt (i + 1) then
      .ok { addDesktopButton name ⟨files.handle, i⟩ x y s with
        point := .files files (i + 1) x (y + (buttonHeight + 10)) }
    else .error .overflow
  else if IsInt (i + 1) then .ok { s with point := .files files (i + 1) x y }
  else .error .overflow

/-- The next step of `scan_applications`. -/
def scanApplications (answer : ScanAnswer) (s : DesktopState) :
    Except DesktopFault (DesktopState × DesktopReply) :=
  match s.point with
  | .fat32Init =>
    if answer.fat32Init ≠ 0 then
      .ok ({ s with point := .sleep }, .error (cString "FAT32 başlatılamadı!\n"))
    else .ok ({ s with point := .readDirectory }, .nothing)
  | .readDirectory =>
    match answer.readDirectory with
    | none => .ok ({ s with point := .sleep }, .error (cString "Dosyalar okunamadı!\n"))
    | some names =>
      let files := ⟨s.returned, names⟩
      .ok ({ s with
        point := .lock files, live := s.live ++ [files], returned := s.returned + 1 }, .nothing)
  | .lock files =>
    if s.locked then .ok (s, .nothing)
    else .ok ({ s with locked := true, point := .removeButtons files }, .nothing)
  | .removeButtons files =>
    .ok ({ removeDesktopButtons s with point := .files files 0 50 50 }, .nothing)
  | .files files i x y =>
    match files.names[i]? with
    | none => .ok ({ s with point := .unlock files }, .nothing)
    | some name => (showEntry files name i x y s).map fun s => (s, .nothing)
  | .unlock files => .ok ({ s with locked := false, point := .freeFileInfo files }, .nothing)
  | .freeFileInfo files =>
    .ok ({ s with point := .sleep, live := s.live.filter (·.handle ≠ files.handle) }, .nothing)
  | .sleep => .ok ({ s with point := .fat32Init }, .nothing)

/-- What a step of the thread does, by where the thread is. -/
inductive ScanStep (answer : ScanAnswer) (s : DesktopState) : DesktopState → Prop where
  | failed (point : s.point = .fat32Init ∨ s.point = .readDirectory) :
      ScanStep answer s { s with point := .sleep }
  | initialised (point : s.point = .fat32Init) :
      ScanStep answer s { s with point := .readDirectory }
  | returned {names : List (List RtU8)} (point : s.point = .readDirectory)
      (read : answer.readDirectory = some names) :
      ScanStep answer s { s with
        point := .lock ⟨s.returned, names⟩
        live := s.live ++ [⟨s.returned, names⟩]
        returned := s.returned + 1 }
  | waits {files : FileInfoList} (point : s.point = .lock files) (taken : s.locked = true) :
      ScanStep answer s s
  | locks {files : FileInfoList} (point : s.point = .lock files) (free : s.locked = false) :
      ScanStep answer s { s with locked := true, point := .removeButtons files }
  | removes {files : FileInfoList} (point : s.point = .removeButtons files) :
      ScanStep answer s { removeDesktopButtons s with point := .files files 0 50 50 }
  | shows {files : FileInfoList} {i : Nat} {x y : Int} {name : List RtU8} {s' : DesktopState}
      (point : s.point = .files files i x y) (entry : files.names[i]? = some name)
      (body : showEntry files name i x y s = .ok s') : ScanStep answer s s'
  | ends {files : FileInfoList} {i : Nat} {x y : Int} (point : s.point = .files files i x y)
      (entry : files.names[i]? = none) : ScanStep answer s { s with point := .unlock files }
  | unlocks {files : FileInfoList} (point : s.point = .unlock files) :
      ScanStep answer s { s with locked := false, point := .freeFileInfo files }
  | frees {files : FileInfoList} (point : s.point = .freeFileInfo files) :
      ScanStep answer s { s with
        point := .sleep, live := s.live.filter (·.handle ≠ files.handle) }
  | wakes (point : s.point = .sleep) : ScanStep answer s { s with point := .fat32Init }

/-- The thread does one of these, unless it fails, and it fails only at an entry. -/
theorem scanApplications_step (answer : ScanAnswer) (s : DesktopState) :
    (∃ s' reply, scanApplications answer s = .ok (s', reply) ∧ ScanStep answer s s') ∨
      ∃ files i x y name fault, s.point = .files files i x y ∧ files.names[i]? = some name ∧
        showEntry files name i x y s = .error fault ∧
        scanApplications answer s = .error fault := by
  unfold scanApplications
  cases point : s.point with
  | fat32Init =>
    left
    dsimp only
    split
    · exact ⟨_, _, rfl, .failed (.inl point)⟩
    · exact ⟨_, _, rfl, .initialised point⟩
  | readDirectory =>
    left
    cases read : answer.readDirectory with
    | none => exact ⟨_, _, rfl, .failed (.inr point)⟩
    | some names => exact ⟨_, _, rfl, .returned point read⟩
  | lock files =>
    left
    cases taken : s.locked with
    | true => exact ⟨_, _, rfl, .waits point taken⟩
    | false => exact ⟨_, _, rfl, .locks point taken⟩
  | removeButtons files => exact .inl ⟨_, _, rfl, .removes point⟩
  | files files i x y =>
    dsimp only
    cases entry : files.names[i]? with
    | none => exact .inl ⟨_, _, rfl, .ends point entry⟩
    | some name =>
      dsimp only
      cases body : showEntry files name i x y s with
      | ok s' => exact .inl ⟨_, _, rfl, .shows point entry body⟩
      | error fault => exact .inr ⟨files, i, x, y, name, fault, rfl, entry, body, rfl⟩
  | unlock files => exact .inl ⟨_, _, rfl, .unlocks point⟩
  | freeFileInfo files => exact .inl ⟨_, _, rfl, .frees point⟩
  | sleep => exact .inl ⟨_, _, rfl, .wakes point⟩

theorem scanStep_of_ok {answer : ScanAnswer} {s s' : DesktopState} {reply : DesktopReply}
    (done : scanApplications answer s = .ok (s', reply)) : ScanStep answer s s' := by
  rcases scanApplications_step answer s with ⟨s'', reply', done', step⟩ | ⟨_, _, _, _, _, _, failed⟩
  · obtain ⟨rfl, -⟩ := Prod.mk.inj (Except.ok.inj (done.symm.trans done'))
    exact step
  · rw [done] at failed
    cases failed.2.2.2

/-- `on_button_clicked`, for the button of this number, if there is one. -/
def onButtonClicked (button : Nat) (s : DesktopState) : Except DesktopFault DesktopReply :=
  match s.buttons[button]? with
  | none => .ok .nothing
  | some button =>
    let name := (s.live.find? (·.handle = button.userData.list)).bind
      (·.names[button.userData.index]?)
    match name with
    | none => .error (.freed button.userData.list)
    | some appName => .ok (.clicked (buttonCommand appName) (buttonMessage appName))

/-- One step of the thread, or one click. -/
def desktopStep (s : DesktopState) :
    DesktopEvent → Except DesktopFault (DesktopState × DesktopReply)
  | .scan answer => scanApplications answer s
  | .click button => (onButtonClicked button s).map fun reply => (s, reply)

end LamaOS
