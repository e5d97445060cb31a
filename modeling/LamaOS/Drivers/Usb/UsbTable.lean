import LamaOS.Drivers.Usb.UsbDriver
import LamaOS.Misc.Calls

/-!
# The USB device table as a bounded list

What the table is for: a list of at most `USB_MAX_DEVICES` devices to which one can be
appended, from which the first one with an address can be taken, and in which the first one
with an address can be looked up. The operations of the driver are shown to do exactly this
over runs of any length, whatever the slots behind the last device hold. A device that is
attached may be an element of the list itself; then that element is given its new descriptor
as well.
-/

namespace LamaOS

/-- The calls made on one driver; `δ` is what stands for the device of an attach call, and the
memory is the one its descriptor is read from. -/
inductive UsbCallOn (δ : Type) where
  | attach (device : δ) (mem : UsbMemory)
  | detach (address : RtU8)
  | find (address : RtU8)

/-- The calls with a device pointer. -/
abbrev UsbCall := UsbCallOn UsbDevicePtr

/-- The same call with another device. -/
def UsbCallOn.map {δ ε : Type} (f : δ → ε) : UsbCallOn δ → UsbCallOn ε
  | .attach device mem => .attach (f device) mem
  | .detach address => .detach address
  | .find address => .find address

/-- The answer to a call: a return code, or the device behind the returned pointer. -/
inductive UsbReply where
  | code (code : RtErrorCode)
  | device (device : Option UsbDevice)
  deriving DecidableEq, Repr

/-- The answers of the calls that did nothing. -/
def UsbReply.failed : UsbReply → Bool
  | .code err => err ≠ .success
  | .device found => found.isNone

/-! ## The list -/

/-- What a device pointer shows: the object, and its place if it is a slot of the table. -/
structure UsbShown where
  device : UsbDevice
  place : Option Nat

/-- An object that is not a slot of the table. -/
def UsbShown.outside (device : UsbDevice) : UsbShown := ⟨device, none⟩

/-- What a pointer shows before a call. -/
def RtUsbDriver.shown (driver : RtUsbDriver) (device : UsbDevicePtr) : UsbShown :=
  ⟨driver.deviceAt device, match device with
    | .object _ => none
    | .slot i => some i⟩

/-- The list when the object has been given a descriptor. -/
def UsbShown.describe (shown : UsbShown) (devices : List UsbDevice)
    (deviceDesc : UsbDeviceDescriptor) : List UsbDevice :=
  match shown.place with
  | none => devices
  | some i => devices.modify i (·.described deviceDesc)

@[simp] theorem UsbShown.describe_length (shown : UsbShown) (devices : List UsbDevice)
    (deviceDesc : UsbDeviceDescriptor) :
    (shown.describe devices deviceDesc).length = devices.length := by
  unfold UsbShown.describe
  split
  · rfl
  · exact List.length_modify ..

/-- What does not depend on the descriptors stays as it is. -/
theorem UsbShown.describe_map {β : Type} {f : UsbDevice → β} {deviceDesc : UsbDeviceDescriptor}
    (apart : ∀ device : UsbDevice, f (device.described deviceDesc) = f device) (shown : UsbShown)
    (devices : List UsbDevice) : (shown.describe devices deviceDesc).map f = devices.map f := by
  unfold UsbShown.describe
  split
  · rfl
  · apply List.ext_getElem?
    intro j
    rw [List.getElem?_map, List.getElem?_modify, List.getElem?_map]
    cases devices[j]? with
    | none => rfl
    | some device =>
      show some (f (if _ then _ else _)) = some (f device)
      split
      · rw [apart]
      · rfl

/-- One call on the list of attached devices. -/
def usbListCall (devices : List UsbDevice) : UsbCallOn UsbShown → List UsbDevice × UsbReply
  | .attach shown mem =>
    if devices.length < usbMaxDevices then
      let deviceDesc := usbDescriptorAt mem 0xE000
      (shown.describe devices deviceDesc ++ [shown.device.described deviceDesc], .code .success)
    else (devices, .code .invalidParameter)
  | .detach address =>
    if address.toNat < usbMaxDevices ∧ ∃ device ∈ devices, device.address = address then
      (devices.eraseP fun device => device.address == address, .code .success)
    else (devices, .code .invalidParameter)
  | .find address =>
    (devices, .device (if address.toNat < usbMaxDevices then
      devices.find? fun device => device.address == address else none))

theorem usbListCall_attach_success {devices : List UsbDevice} {shown : UsbShown}
    {mem : UsbMemory} (success : (usbListCall devices (.attach shown mem)).2 = .code .success) :
    devices.length < usbMaxDevices ∧ (usbListCall devices (.attach shown mem)).1 =
      shown.describe devices (usbDescriptorAt mem 0xE000) ++
        [shown.device.described (usbDescriptorAt mem 0xE000)] := by
  simp only [usbListCall] at success ⊢
  split at success
  · rename_i room
    rw [if_pos room]
    exact ⟨room, rfl⟩
  · cases success

theorem usbListCall_detach_success {devices : List UsbDevice} {address : RtU8}
    (success : (usbListCall devices (.detach address)).2 = .code .success) :
    (usbListCall devices (.detach address)).1 =
      devices.eraseP fun device => device.address == address := by
  simp only [usbListCall] at success ⊢
  split at success
  · rename_i found
    rw [if_pos found]
  · cases success

/-! ## The table -/

/-- Writing to an object writes to the list, if it is one of its elements. -/
theorem RtUsbDriver.attached_describe (driver : RtUsbDriver) (device : UsbDevicePtr)
    (deviceDesc : UsbDeviceDescriptor) :
    (driver.describe device deviceDesc).attached =
      (driver.shown device).describe driver.attached deviceDesc := by
  cases device with
  | object device => rfl
  | slot i => exact SlotTable.used_set driver.devices (·.described deviceDesc) _ i.isLt

theorem RtUsbDriver.append_count (driver : RtUsbDriver) (device : UsbDevice)
    (room : driver.numDevices.toNat < usbMaxDevices) :
    (driver.append device room).numDevices.toNat = driver.numDevices.toNat + 1 := by
  simp only [usbMaxDevices] at room
  simp only [RtUsbDriver.append]
  bv_omega

theorem RtUsbDriver.attached_append (driver : RtUsbDriver) (device : UsbDevice)
    (room : driver.numDevices.toNat < usbMaxDevices) :
    (driver.append device room).attached = driver.attached ++ [device] := by
  rw [RtUsbDriver.attached, driver.append_count device room]
  exact SlotTable.used_set_append driver.devices device room

/-- A driver and the machine it runs on. -/
structure UsbWorld (σ : Type) where
  driver : RtUsbDriver
  machine : Machine σ

/-- A driver whose table is empty. -/
def UsbWorld.empty {σ : Type} (driver : RtUsbDriver) (m : Machine σ) : UsbWorld σ :=
  ⟨{ driver with numDevices := 0 }, m⟩

section Calls

variable {σ : Type} (hw : Hardware σ)

/-- The driver after an operation that was given one. -/
def UsbWorld.after {ω : Type} (world : UsbWorld σ) (result : UsbOutcome σ ω) :
    UsbWorld σ × UsbReply :=
  (⟨result.driver.getD world.driver, result.machine⟩, .code result.code)

/-- One call on the driver. -/
def usbTableCall (world : UsbWorld σ) : UsbCall → Except MemoryFault (UsbWorld σ × UsbReply)
  | .attach device mem =>
    (usbAttachDevice hw mem (some world.driver) (some device) world.machine).map fun result =>
      world.after result.1
  | .detach address =>
    (usbDetachDevice (some world.driver) address world.machine).map world.after
  | .find address =>
    (usbFindDevice (some world.driver) address).map fun slot =>
      (world, .device (slot.bind fun i => world.driver.devices[i.toNat]?))

/-- A call with what its pointer shows in the state it is made in. -/
def UsbWorld.see (world : UsbWorld σ) (call : UsbCall) : UsbCallOn UsbShown :=
  call.map world.driver.shown

/-- An object of the caller's is to the list what it is to the driver. -/
theorem UsbWorld.see_object (world : UsbWorld σ) (call : UsbCallOn UsbDevice) :
    world.see (call.map .object) = call.map .outside := by
  cases call with
  | attach device mem => rfl
  | detach address => rfl
  | find address => rfl

/-- The calls of a run with what their pointers show. -/
def usbSeen (world : UsbWorld σ) (calls : List UsbCall) : List (UsbCallOn UsbShown) :=
  Calls.gather (usbTableCall hw) (fun world call => [world.see call]) world calls

/-- The table shows the list, and its count is in range. -/
structure UsbShows (world : UsbWorld σ) (devices : List UsbDevice) : Prop where
  attached : world.driver.attached = devices
  bounded : world.driver.numDevices.toNat ≤ usbMaxDevices

theorem usbShows_empty (driver : RtUsbDriver) (m : Machine σ) :
    UsbShows (UsbWorld.empty driver m) [] :=
  ⟨rfl, Nat.zero_le _⟩

variable {world : UsbWorld σ} {devices : List UsbDevice}

theorem UsbShows.length (shows : UsbShows world devices) :
    devices.length = world.driver.numDevices.toNat := by
  rw [← shows.attached]
  exact SlotTable.used_length _ shows.bounded

/-- The search for an address, with the index it gives in the list. -/
theorem UsbShows.search (shows : UsbShows world devices) (address : RtU8) :
    ∃ found, SlotTable.search (fun device => device.address == address) world.driver.devices
        world.driver.numDevices 0 = .ok found ∧
      found.map BitVec.toNat = devices.findIdx? fun device => device.address == address := by
  rw [← shows.attached]
  exact SlotTable.search_eq_findIdx? _ _ _ shows.bounded

/-- `USB_AttachDevice` on a table that shows a list, whatever looks on. -/
theorem UsbShows.attachDeviceWith {ω : Type} (shows : UsbShows world devices)
    (watch : UsbWatch ω) (device : UsbDevicePtr) (mem : UsbMemory) (w : ω) :
    ∃ result, usbAttachDeviceWith hw watch mem (some world.driver) (some device) world.machine w =
        .ok result ∧
      .code result.1.code =
        (usbListCall devices (.attach (world.driver.shown device) mem)).2 ∧
      UsbShows (world.after result.1).1
        (usbListCall devices (.attach (world.driver.shown device) mem)).1 ∧
      (result.1.code ≠ .success → result.1.driver = some world.driver ∧ result.1.watched = w) ∧
      (result.1.code = .success → ∃ driver', result.1.driver = some driver' ∧
        driver'.onDeviceConnected = world.driver.onDeviceConnected ∧
        driver'.onDeviceDisconnected = world.driver.onDeviceDisconnected ∧
        result.1.watched =
          let w := watch.read world.driver.numDevices w
          if world.driver.onDeviceConnected then
            watch.notify driver' (.connected
              ((world.driver.deviceAt device).described (usbDescriptorAt mem 0xE000))) w
          else w) := by
  have len := shows.length
  by_cases room : devices.length < usbMaxDevices
  · have room' : world.driver.numDevices.toNat < usbMaxDevices := len ▸ room
    refine ⟨_, usbAttachDeviceWith_room hw watch mem room' device world.machine w, ?_⟩
    simp only [usbListCall, if_pos room, true_and]
    refine ⟨⟨?_, ?_⟩, fun failed => absurd rfl failed, fun _ => ⟨_, rfl, rfl, rfl, rfl⟩⟩
    · refine (RtUsbDriver.attached_append (world.driver.describe device _) _ room').trans ?_
      rw [RtUsbDriver.attached_describe, shows.attached]
      rfl
    · exact (RtUsbDriver.append_count (world.driver.describe device _) _ room').trans_le room'
  · have full : usbMaxDevices ≤ world.driver.numDevices.toNat := len ▸ Nat.le_of_not_lt room
    refine ⟨_, usbAttachDeviceWith_full hw watch mem full device world.machine w, ?_⟩
    simp only [usbListCall, if_neg room, true_and]
    exact ⟨shows, fun _ => trivial, fun done => absurd done (by decide)⟩

theorem usbTableCall_attach (shows : UsbShows world devices) (device : UsbDevicePtr)
    (mem : UsbMemory) :
    ∃ world', usbTableCall hw world (.attach device mem) =
        .ok (world', (usbListCall devices (world.see (.attach device mem))).2) ∧
      UsbShows world' (usbListCall devices (world.see (.attach device mem))).1 ∧
      ((usbListCall devices (world.see (.attach device mem))).2.failed →
        world'.driver = world.driver) := by
  obtain ⟨result, attached, code, shows', unchanged, -⟩ :=
    shows.attachDeviceWith hw .callbacks device mem []
  refine ⟨(world.after result.1).1, ?_, shows', fun failed => ?_⟩
  · rw [usbTableCall, usbAttachDevice, attached]
    exact congrArg (fun reply => Except.ok ((world.after result.1).1, reply)) code
  · have kept := (unchanged (by simpa [UsbWorld.see, UsbCallOn.map, ← code, UsbReply.failed]
      using failed)).1
    simp [UsbWorld.after, kept]

/-- A detach call that finds no device does nothing. -/
theorem usbDetachDeviceWith_absent {ω : Type} {driver : RtUsbDriver} {address : RtU8}
    (bounded : driver.numDevices.toNat ≤ usbMaxDevices)
    (absent : ¬ (address.toNat < usbMaxDevices ∧
      ∃ device ∈ driver.attached, device.address = address))
    (watch : UsbWatch ω) (m : Machine σ) (w : ω) :
    usbDetachDeviceWith watch (some driver) address m w =
      .ok ⟨.invalidParameter, some driver, m, w⟩ := by
  rw [usbDetachDeviceWith]
  by_cases valid : address.toNat < usbMaxDevices
  · obtain ⟨found, search, index⟩ := SlotTable.search_eq_findIdx?
      (fun device : UsbDevice => device.address == address) driver.devices _ bounded
    cases found with
    | none => rw [if_neg (Nat.not_le.mpr valid), search]
    | some i =>
      obtain ⟨below, here, -⟩ := List.findIdx?_eq_some_iff_getElem.mp index.symm
      exact absurd ⟨valid, _, List.getElem_mem below, by simpa using here⟩ absent
  · exact if_pos (Nat.le_of_not_lt valid)

/-- A detach call that finds a device takes the first one out of the list. -/
theorem usbDetachDeviceWith_found {ω : Type} {driver : RtUsbDriver} {address : RtU8}
    (bounded : driver.numDevices.toNat ≤ usbMaxDevices) (valid : address.toNat < usbMaxDevices)
    (present : ∃ device ∈ driver.attached, device.address = address)
    (watch : UsbWatch ω) (m : Machine σ) (w : ω) :
    ∃ devices driver', driver' = { driver with devices, numDevices := driver.numDevices - 1 } ∧
      usbDetachDeviceWith watch (some driver) address m w = .ok ⟨.success, some driver', m,
        if driver.onDeviceDisconnected then watch.notify driver' (.disconnected address) w
        else w⟩ ∧
      driver'.attached = driver.attached.eraseP (fun device => device.address == address) ∧
      driver'.numDevices.toNat ≤ usbMaxDevices := by
  obtain ⟨found, search, index⟩ := SlotTable.search_eq_findIdx?
    (fun device : UsbDevice => device.address == address) driver.devices _ bounded
  cases found with
  | none =>
    obtain ⟨device, mem, isAddress⟩ := present
    have other := List.findIdx?_eq_none_iff.mp index.symm device mem
    simp [isAddress] at other
  | some i =>
    have first : driver.attached.findIdx? (fun device => device.address == address) =
        some i.toNat := index.symm
    have below := (List.findIdx?_eq_some_iff_getElem.mp first).1
    rw [RtUsbDriver.attached, SlotTable.used_length _ bounded] at below
    have count : (driver.numDevices - 1).toNat = driver.numDevices.toNat - 1 := by
      bv_omega
    obtain ⟨slots, moved, content⟩ := SlotTable.move_erase driver.devices below bounded
    refine ⟨slots, _, rfl, ?_, ?_, ?_⟩
    · simp only [usbDetachDeviceWith, if_neg (Nat.not_le.mpr valid), search, moved, Except.map]
    · rw [List.eraseP_eq_eraseIdx, first]
      simp only [RtUsbDriver.attached, count, content]
    · simp only [count]
      exact Nat.le_trans (Nat.sub_le _ _) bounded

/-- `USB_DetachDevice` on a table that shows a list, whatever looks on. -/
theorem UsbShows.detachDeviceWith {ω : Type} (shows : UsbShows world devices)
    (watch : UsbWatch ω) (address : RtU8) (w : ω) :
    ∃ result, usbDetachDeviceWith watch (some world.driver) address world.machine w =
        .ok result ∧
      .code result.code = (usbListCall devices (.detach address)).2 ∧
      UsbShows (world.after result).1 (usbListCall devices (.detach address)).1 ∧
      (result.code ≠ .success → result.driver = some world.driver ∧ result.watched = w) ∧
      (result.code = .success → ∃ driver', result.driver = some driver' ∧
        driver'.onDeviceConnected = world.driver.onDeviceConnected ∧
        driver'.onDeviceDisconnected = world.driver.onDeviceDisconnected ∧
        result.watched =
          if world.driver.onDeviceDisconnected then
            watch.notify driver' (.disconnected address) w
          else w) := by
  obtain ⟨rfl, bounded⟩ := shows
  by_cases found : address.toNat < usbMaxDevices ∧
      ∃ device ∈ world.driver.attached, device.address = address
  · obtain ⟨devices, driver', same, detached, attached, bounded'⟩ :=
      usbDetachDeviceWith_found bounded found.1 found.2 watch world.machine w
    refine ⟨_, detached, ?_⟩
    simp only [usbListCall, if_pos found, true_and]
    exact ⟨⟨attached, bounded'⟩, fun failed => absurd rfl failed,
      fun _ => ⟨driver', rfl, by rw [same], by rw [same], rfl⟩⟩
  · refine ⟨_, usbDetachDeviceWith_absent bounded found watch world.machine w, ?_⟩
    simp only [usbListCall, if_neg found, true_and]
    exact ⟨⟨rfl, bounded⟩, fun _ => trivial, fun done => absurd done (by decide)⟩

theorem usbTableCall_detach (shows : UsbShows world devices) (address : RtU8) :
    ∃ world', usbTableCall hw world (.detach address) =
        .ok (world', (usbListCall devices (.detach address)).2) ∧
      UsbShows world' (usbListCall devices (.detach address)).1 ∧
      ((usbListCall devices (.detach address)).2.failed → world'.driver = world.driver) := by
  obtain ⟨result, detached, code, shows', unchanged, -⟩ :=
    shows.detachDeviceWith .callbacks address []
  refine ⟨(world.after result).1, ?_, shows', fun failed => ?_⟩
  · rw [usbTableCall, usbDetachDevice, detached]
    exact congrArg (fun reply => Except.ok ((world.after result).1, reply)) code
  · have kept := (unchanged (by simpa [← code, UsbReply.failed] using failed)).1
    simp [UsbWorld.after, kept]

theorem usbTableCall_find (shows : UsbShows world devices) (address : RtU8) :
    usbTableCall hw world (.find address) =
        .ok (world, (usbListCall devices (.find address)).2) := by
  obtain ⟨found, search, index⟩ := shows.search address
  by_cases valid : address.toNat < usbMaxDevices
  · have same : (found.bind fun i => world.driver.devices[i.toNat]?) =
        devices.find? fun device => device.address == address := by
      rw [List.find?_eq_bind_findIdx?_getElem?, ← index]
      cases found with
      | none => rfl
      | some i =>
        have below := (List.findIdx?_eq_some_iff_getElem.mp index.symm).1
        rw [shows.length] at below
        simp only [Option.bind_some, Option.map_some]
        rw [← shows.attached, RtUsbDriver.attached, SlotTable.used_getElem?, if_pos below]
    simp only [usbTableCall, usbFindDevice, Nat.not_le.mpr valid, if_false, search, usbListCall,
      valid, if_true, Except.map, same]
  · have refused : usbMaxDevices ≤ address.toNat := by omega
    simp [usbTableCall, usbFindDevice, refused, usbListCall, valid, Except.map]

/-- Every call is answered as the list answers it, leaves the table showing the list, and
leaves the driver as it was if it fails. -/
theorem usbTableCall_refines (shows : UsbShows world devices) (call : UsbCall) :
    ∃ world', usbTableCall hw world call =
        .ok (world', (usbListCall devices (world.see call)).2) ∧
      UsbShows world' (usbListCall devices (world.see call)).1 ∧
      ((usbListCall devices (world.see call)).2.failed → world'.driver = world.driver) := by
  cases call with
  | attach device mem => exact usbTableCall_attach hw shows device mem
  | detach address => exact usbTableCall_detach hw shows address
  | find address => exact ⟨world, usbTableCall_find hw shows address, shows, fun _ => rfl⟩

end Calls

section Runs

variable {σ : Type} (hw : Hardware σ) {world : UsbWorld σ} {devices : List UsbDevice}

/-- A run of calls on a table that shows a list replies what the list does, and leaves a table
that shows what is left of the list. -/
theorem usbTable_run_shows (shows : UsbShows world devices) (calls : List UsbCall) :
    ∃ world', Calls.run (usbTableCall hw) world calls =
        .ok (world', (Calls.spec usbListCall devices (usbSeen hw world calls)).2) ∧
      UsbShows world' (Calls.spec usbListCall devices (usbSeen hw world calls)).1 := by
  refine Calls.run_refines_seen UsbWorld.see UsbShows (fun world devices call shows => ?_) shows
    calls
  obtain ⟨world', step, shows', -⟩ := usbTableCall_refines hw shows call
  exact ⟨world', step, shows'⟩

/-- The same of calls with objects of the caller's. -/
theorem usbTable_run_objects (shows : UsbShows world devices)
    (calls : List (UsbCallOn UsbDevice)) :
    ∃ world', Calls.run (usbTableCall hw) world (calls.map (.map .object)) =
        .ok (world', (Calls.spec usbListCall devices (calls.map (.map .outside))).2) ∧
      UsbShows world' (Calls.spec usbListCall devices (calls.map (.map .outside))).1 := by
  obtain ⟨world', ran, shows'⟩ := usbTable_run_shows hw shows (calls.map (.map .object))
  have seen : usbSeen hw world (calls.map (.map .object)) = calls.map (.map .outside) :=
    Calls.gather_eq_map (fun world call => by rw [world.see_object call]) ran
  rw [seen] at ran shows'
  exact ⟨world', ran, shows'⟩

end Runs

/-- Over every run of calls on an empty table, the table behaves as the list: no access
leaves the array, every reply is the one of the list, the slots in use show the list, their
number stays in range, and a call that fails leaves the driver as it is. -/
theorem usbTable_refines_list {σ : Type} (hw : Hardware σ) (driver : RtUsbDriver)
    (m : Machine σ) (calls : List UsbCall) :
    ∃ world, Calls.run (usbTableCall hw) (UsbWorld.empty driver m) calls =
        .ok (world, (Calls.spec usbListCall []
          (usbSeen hw (UsbWorld.empty driver m) calls)).2) ∧
      world.driver.attached =
        (Calls.spec usbListCall [] (usbSeen hw (UsbWorld.empty driver m) calls)).1 ∧
      world.driver.numDevices.toNat ≤ usbMaxDevices ∧
      ∀ call world' reply, usbTableCall hw world call = .ok (world', reply) →
        reply.failed → world'.driver = world.driver := by
  obtain ⟨world, run, shows⟩ := usbTable_run_shows hw (usbShows_empty driver m) calls
  refine ⟨world, run, shows.attached, shows.bounded, ?_⟩
  intro call world' reply step failed
  obtain ⟨world'', step', _, unchanged⟩ := usbTableCall_refines hw shows call
  obtain ⟨rfl, rfl⟩ := Calls.done_unique step' step
  exact unchanged failed

/-- A device with an address, and otherwise zero. -/
def usbDeviceAt (address : RtU8) : UsbDevice := { (default : UsbDevice) with address }

/-- An empty table and a machine on which nothing happens. -/
def sampleUsbWorld : UsbWorld Unit := UsbWorld.empty default ⟨ioTablesInit, (), []⟩

/-- The device found in slot 0 is attached once more, and its new descriptor does not only go
to the end of the list. -/
theorem usbTable_attach_found : ∃ world world' : UsbWorld Unit,
    Calls.run (usbTableCall silentHardware) sampleUsbWorld
        [.attach (.object (usbDeviceAt 1)) fun _ => 0] = .ok (world, [.code .success]) ∧
      usbFindDevice (some world.driver) 1 = .ok (some 0) ∧
      Calls.run (usbTableCall silentHardware) world [.attach (.slot 0) fun _ => 1] =
        .ok (world', [.code .success]) ∧
      world'.driver.attached ≠ world.driver.attached ++
        [(usbDeviceAt 1).described (usbDescriptorAt (fun _ => 1) 0xE000)] := by
  have start : UsbShows sampleUsbWorld [] := usbShows_empty _ _
  obtain ⟨world, ran, shows⟩ := usbTable_run_objects silentHardware start
    [.attach (usbDeviceAt 1) fun _ => 0]
  obtain ⟨found, search, index⟩ := shows.search 1
  obtain ⟨world', again, shows', -⟩ :=
    usbTableCall_refines silentHardware shows (.attach (.slot 0) fun _ => 1)
  refine ⟨world, world', ran, ?_, ?_, fun same => ?_⟩
  · cases found with
    | none => exact absurd index (by decide)
    | some i =>
      obtain rfl : i = 0 := BitVec.eq_of_toNat_eq (Option.some.inj index)
      rw [usbFindDevice, if_neg (by decide), search]
  · rw [Calls.run, again]
    rfl
  · rw [shows'.attached, shows.attached] at same
    have heads : some ((usbDeviceAt 1).described (usbDescriptorAt (fun _ => 1) 0xE000)) =
        some (usbDeviceAt 1) := congrArg List.head? same
    exact absurd heads (by decide)

end LamaOS
