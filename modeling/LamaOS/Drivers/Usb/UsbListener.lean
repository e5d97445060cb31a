import LamaOS.Drivers.Usb.UsbAddresses

/-!
# A listener behind the USB callbacks

`USB_AttachDevice` and `USB_DetachDevice` call back when the table has changed and before they
return. Here the code behind the callback pointers is run where it is called, on a state of its
own, and is shown the driver as it is then. A listener keeps a list of its own, from what the
callbacks tell it and nothing else. It is shown to hold the table at every moment, as long as no
attached device is attached once more: that one is given another descriptor, and the callback
tells of the new entry only.
-/

namespace LamaOS

variable {σ : Type}

/-- What a listener holds right after a callback, beside the devices attached then. -/
structure UsbMoment where
  heard : List UsbDevice
  attached : List UsbDevice

/-- A listener: its list, and the moments of the callbacks it got. -/
structure UsbListener where
  heard : List UsbDevice
  moments : List UsbMoment

/-- The listener appends a device that is connected, and removes the first one with an address
that is disconnected. -/
def UsbListener.notify (driver : RtUsbDriver) (callback : UsbCallback) (listener : UsbListener) :
    UsbListener :=
  let heard := match callback with
    | .connected device => listener.heard ++ [device]
    | .disconnected address => listener.heard.eraseP fun device => device.address == address
  ⟨heard, listener.moments ++ [⟨heard, driver.attached⟩]⟩

/-- The listener gets the callbacks, and nothing else of an operation. -/
def UsbListener.watch : UsbWatch UsbListener := ⟨fun _ listener => listener, UsbListener.notify⟩

/-- A call that plugs a device in or out. -/
inductive UsbPlugCall where
  | attach (device : Option UsbDevicePtr) (mem : UsbMemory)
  | detach (address : RtU8)

/-- The lists hold the same devices, but for their descriptors. -/
def SameDevices (devices devices' : List UsbDevice) : Prop :=
  devices.map (·.described default) = devices'.map (·.described default)

section Plug

variable (hw : Hardware σ)

/-- One call on a driver with the listener behind its callbacks. -/
def usbPlugCall (world : UsbWorld σ × UsbListener) :
    UsbPlugCall → Except MemoryFault ((UsbWorld σ × UsbListener) × RtErrorCode)
  | .attach device mem =>
    (usbAttachDeviceWith hw UsbListener.watch mem (some world.1.driver) device world.1.machine
      world.2).map fun result =>
        (((world.1.after result.1).1, result.1.watched), result.1.code)
  | .detach address =>
    (usbDetachDeviceWith UsbListener.watch (some world.1.driver) address world.1.machine
      world.2).map fun result => (((world.1.after result).1, result.watched), result.code)

/-- A driver with an empty table and both callbacks set, and a listener with an empty list. -/
def UsbWorld.listening (driver : RtUsbDriver) (m : Machine σ) : UsbWorld σ × UsbListener :=
  (⟨{ driver with numDevices := 0, onDeviceConnected := true, onDeviceDisconnected := true }, m⟩,
    ⟨[], []⟩)

/-- A call that succeeds adds one moment of a callback, and a call that fails adds none. -/
def OneCallback (world world' : UsbWorld σ × UsbListener) (reply : RtErrorCode) : Prop :=
  ∃ fresh, world'.2.moments = world.2.moments ++ fresh ∧
    fresh.length = if reply = .success then 1 else 0

/-- What `f` leaves of the devices is the same in the listener's list and in the table, the
callbacks are set, and at every callback so far it was the same as well. -/
structure UsbTold (f : UsbDevice → UsbDevice) (world : UsbWorld σ × UsbListener) : Prop where
  bounded : world.1.driver.numDevices.toNat ≤ usbMaxDevices
  heard : world.2.heard.map f = world.1.driver.attached.map f
  connected : world.1.driver.onDeviceConnected = true
  disconnected : world.1.driver.onDeviceDisconnected = true
  moments : ∀ moment ∈ world.2.moments, moment.heard.map f = moment.attached.map f

/-- The descriptor that an attach call reads is, as far as `f` leaves it, given to no device that
is attached already. -/
def AttachesApart (f : UsbDevice → UsbDevice) (world : UsbWorld σ × UsbListener) :
    UsbPlugCall → Prop
  | .attach (some device) mem =>
    world.1.driver.numDevices.toNat < usbMaxDevices →
      ((world.1.driver.shown device).describe world.1.driver.attached
        (usbDescriptorAt mem 0xE000)).map f = world.1.driver.attached.map f
  | .attach none _ => True
  | .detach _ => True

variable {hw} {f : UsbDevice → UsbDevice} {world : UsbWorld σ × UsbListener}

theorem UsbTold.shows (told : UsbTold f world) :
    UsbShows world.1 world.1.driver.attached :=
  ⟨rfl, told.bounded⟩

/-- A callback carries over to the listener what the operation did to the table. -/
theorem UsbTold.after (told : UsbTold f world) {result : UsbOutcome σ UsbListener}
    {devices : List UsbDevice} {callback : UsbCallback}
    (shows : UsbShows (world.1.after result).1 devices)
    (unchanged : result.code ≠ .success →
      result.driver = some world.1.driver ∧ result.watched = world.2)
    (changed : result.code = .success → ∃ driver', result.driver = some driver' ∧
      driver'.onDeviceConnected = world.1.driver.onDeviceConnected ∧
      driver'.onDeviceDisconnected = world.1.driver.onDeviceDisconnected ∧
      result.watched = world.2.notify driver' callback)
    (carried : result.code = .success →
      (world.2.notify world.1.driver callback).heard.map f = devices.map f) :
    UsbTold f ((world.1.after result).1, result.watched) ∧
      OneCallback world ((world.1.after result).1, result.watched) result.code := by
  by_cases done : result.code = .success
  · obtain ⟨driver', driver, connected, disconnected, watched⟩ := changed done
    have left : (world.1.after result).1.driver = driver' := by
      simp [UsbWorld.after, driver]
    have now : (world.2.notify driver' callback).heard.map f = driver'.attached.map f := by
      rw [← left, shows.attached]
      exact carried done
    refine ⟨⟨shows.bounded, ?_, ?_, ?_, ?_⟩, ?_⟩
    · rw [left, watched]
      exact now
    · rw [left, connected, told.connected]
    · rw [left, disconnected, told.disconnected]
    · intro moment mem
      rw [watched] at mem
      rcases List.mem_append.mp mem with earlier | new
      · exact told.moments moment earlier
      · obtain rfl := List.mem_singleton.mp new
        exact now
    · exact ⟨_, by rw [watched]; rfl, by rw [if_pos done]; rfl⟩
  · obtain ⟨driver, watched⟩ := unchanged done
    have left : (world.1.after result).1.driver = world.1.driver := by
      simp [UsbWorld.after, driver]
    rw [watched]
    refine ⟨⟨shows.bounded, ?_, ?_, ?_, told.moments⟩, [], by simp, by rw [if_neg done]; rfl⟩
    · rw [left]
      exact told.heard
    · rw [left]
      exact told.connected
    · rw [left]
      exact told.disconnected

theorem UsbTold.attach (told : UsbTold f world) (device : UsbDevicePtr) (mem : UsbMemory)
    (apart : AttachesApart f world (.attach (some device) mem)) :
    ∃ world' reply, usbPlugCall hw world (.attach (some device) mem) = .ok (world', reply) ∧
      UsbTold f world' ∧ OneCallback world world' reply := by
  obtain ⟨result, attached, code, shows, unchanged, changed⟩ :=
    told.shows.attachDeviceWith hw UsbListener.watch device mem world.2
  simp only [if_pos told.connected, UsbListener.watch] at changed
  refine ⟨_, result.1.code, ?_, told.after shows unchanged changed fun success => ?_⟩
  · rw [usbPlugCall, attached]
    rfl
  · rw [success] at code
    obtain ⟨room, list⟩ := usbListCall_attach_success code.symm
    rw [told.shows.length] at room
    rw [list, List.map_append, apart room, ← told.heard, ← List.map_append]
    rfl

theorem UsbTold.detach (hw : Hardware σ) (told : UsbTold f world)
    (address : ∀ device, (f device).address = device.address) (a : RtU8) :
    ∃ world' reply, usbPlugCall hw world (.detach a) = .ok (world', reply) ∧
      UsbTold f world' ∧ OneCallback world world' reply := by
  obtain ⟨result, detached, code, shows, unchanged, changed⟩ :=
    told.shows.detachDeviceWith UsbListener.watch a world.2
  simp only [if_pos told.disconnected, UsbListener.watch] at changed
  refine ⟨_, result.code, ?_, told.after shows unchanged changed fun success => ?_⟩
  · rw [usbPlugCall, detached]
    rfl
  · rw [success] at code
    have erased (devices : List UsbDevice) :
        (devices.eraseP fun device => device.address == a).map f =
          (devices.map f).eraseP fun device => device.address == a := by
      rw [List.eraseP_map]
      simp only [Function.comp_def, address]
    rw [usbListCall_detach_success code.symm, erased, ← told.heard, ← erased]
    rfl

/-- Every call is carried out, leaves the listener with the table's list, as far as `f` leaves it,
and makes one callback or none. -/
theorem UsbTold.step (hw : Hardware σ) (told : UsbTold f world)
    (address : ∀ device, (f device).address = device.address) (call : UsbPlugCall)
    (apart : AttachesApart f world call) :
    ∃ world' reply, usbPlugCall hw world call = .ok (world', reply) ∧
      UsbTold f world' ∧ OneCallback world world' reply := by
  cases call with
  | attach device mem =>
    cases device with
    | none => exact ⟨world, .invalidParameter, rfl, told, [], by simp, rfl⟩
    | some device => exact told.attach device mem apart
  | detach a => exact told.detach hw address a

theorem usbTold_listening (f : UsbDevice → UsbDevice) (driver : RtUsbDriver) (m : Machine σ) :
    UsbTold f (UsbWorld.listening driver m) :=
  ⟨Nat.zero_le _, rfl, rfl, rfl, fun _ mem => absurd mem List.not_mem_nil⟩

/-- But for the descriptors, no attach call changes a device that is attached. -/
theorem attachesApart_described (world : UsbWorld σ × UsbListener) (call : UsbPlugCall) :
    AttachesApart (·.described default) world call := by
  cases call with
  | attach device mem =>
    cases device with
    | none => trivial
    | some device =>
      intro _
      exact UsbShown.describe_map (fun _ => rfl) _ _
  | detach a => trivial

/-! ## What the listener knows -/

/-- What the listener knows after any calls, and what its next callback will be: but for the
descriptors its list is the table's and was at every callback, and a call makes a callback exactly
if it succeeds, and one only. -/
structure UsbStory (hw : Hardware σ) (world : UsbWorld σ × UsbListener) : Prop where
  heard : SameDevices world.2.heard world.1.driver.attached
  moments : ∀ moment ∈ world.2.moments, SameDevices moment.heard moment.attached
  one_callback : ∀ call world' reply, usbPlugCall hw world call = .ok (world', reply) →
    OneCallback world world' reply

/-- The listener's list is the table's, and was at every callback. -/
structure UsbWholeStory (world : UsbWorld σ × UsbListener) : Prop where
  heard : world.2.heard = world.1.driver.attached
  moments : ∀ moment ∈ world.2.moments, moment.heard = moment.attached

/-- An attach call that finds room is not given a device that is attached already. -/
def AttachesOther (world : UsbWorld σ × UsbListener) : UsbPlugCall → Prop
  | .attach (some (.slot i)) _ =>
    world.1.driver.numDevices.toNat < usbMaxDevices → world.1.driver.numDevices.toNat ≤ i.val
  | .attach (some (.object _)) _ => True
  | .attach none _ => True
  | .detach _ => True

theorem attachesApart_of_other {call : UsbPlugCall} (told : UsbTold f world)
    (other : AttachesOther world call) : AttachesApart f world call := by
  cases call with
  | attach device mem =>
    cases device with
    | none => trivial
    | some device =>
      intro room
      cases device with
      | object device => rfl
      | slot i =>
        have behind : world.1.driver.attached.length ≤ i.val := by
          rw [told.shows.length]
          exact other room
        show (List.modify _ i.val _).map f = _
        rw [List.modify_eq_self behind]
  | detach a => trivial

/-- USB callbacks tell of every device: over every run of attach and detach calls on an empty table
with both callbacks set, no call faults, the listener's list is the list of the attached devices
right after each callback and after each call, but for their descriptors, and each call that
succeeds makes one callback. If no call is given a device that is attached already, the lists are
equal. -/
theorem usbListener_tells (hw : Hardware σ) (driver : RtUsbDriver) (m : Machine σ)
    (calls : List UsbPlugCall) :
    (∃ world replies,
        Calls.run (usbPlugCall hw) (UsbWorld.listening driver m) calls = .ok (world, replies)) ∧
      Calls.Always (usbPlugCall hw) (UsbStory hw) (UsbWorld.listening driver m) calls ∧
      (Calls.Everywhere (usbPlugCall hw) AttachesOther (UsbWorld.listening driver m) calls →
        Calls.Always (usbPlugCall hw) UsbWholeStory (UsbWorld.listening driver m) calls) := by
  have total := Calls.run_total (fun world call (told : UsbTold (·.described default) world) => by
    obtain ⟨world', reply, done, told', -⟩ :=
      told.step hw (fun _ => rfl) call (attachesApart_described world call)
    exact ⟨world', reply, done, told'⟩) (usbTold_listening _ driver m) calls
  refine ⟨total.2, total.1.imp fun world told => ?_, fun others => ?_⟩
  · refine ⟨told.heard, told.moments, fun call world' reply done => ?_⟩
    obtain ⟨world'', reply', done', -, counted⟩ :=
      told.step hw (fun _ => rfl) call (attachesApart_described world call)
    obtain ⟨rfl, rfl⟩ := Calls.done_unique done done'
    exact counted
  · have always := Calls.always_of_everywhere (fun world call world' reply
        (told : UsbTold id world) other done => by
      obtain ⟨world'', reply', done', told', -⟩ :=
        told.step hw (fun _ => rfl) call (attachesApart_of_other told other)
      obtain ⟨rfl, -⟩ := Calls.done_unique done done'
      exact told') (usbTold_listening id driver m) others
    refine always.imp fun world told => ⟨by simpa using told.heard, fun moment mem => ?_⟩
    simpa using told.moments moment mem

/-- Two devices come and the first one goes; the listener is told of all of it. -/
theorem usbListener_tells_detach :
    Calls.Always (usbPlugCall silentHardware) UsbWholeStory
      (UsbWorld.listening default ⟨ioTablesInit, (), []⟩)
      [.attach (some (.object (usbDeviceAt 1))) fun _ => 0,
        .attach (some (.object (usbDeviceAt 2))) fun _ => 1, .detach 1] :=
  (usbListener_tells silentHardware default ⟨ioTablesInit, (), []⟩ _).2.2
    ⟨trivial, fun _ _ _ => ⟨trivial, fun _ _ _ => ⟨trivial, fun _ _ _ => trivial⟩⟩⟩

/-- The device in slot 0 is attached once more, and has another descriptor than the listener was
told. -/
theorem usbListener_misses_descriptor :
    ¬ Calls.Always (usbPlugCall silentHardware) UsbWholeStory
      (UsbWorld.listening default ⟨ioTablesInit, (), []⟩)
      [.attach (some (.object (usbDeviceAt 1))) fun _ => 0,
        .attach (some (.slot 0)) fun _ => 1] := by
  intro always
  have ends : ∃ world replies, Calls.run (usbPlugCall silentHardware)
        (UsbWorld.listening default ⟨ioTablesInit, (), []⟩)
        [.attach (some (.object (usbDeviceAt 1))) fun _ => 0,
          .attach (some (.slot 0)) fun _ => 1] = .ok (world, replies) ∧
      world.2.heard.head? = some (usbDeviceAt 1) ∧
      world.1.driver.attached.head? =
        some ((usbDeviceAt 1).described (usbDescriptorAt (fun _ => 1) 0xE000)) :=
    ⟨_, _, rfl, rfl, rfl⟩
  obtain ⟨world, replies, ran, heard, attached⟩ := ends
  rw [(always.last ran).heard, attached] at heard
  exact absurd heard (by decide)

end Plug

end LamaOS
