import LamaOS.Drivers.Usb.UsbAddresses

/-!
# Slots of the USB table

`USB_FindDevice` hands out a pointer to a slot. The table is kept without gaps: when a device
goes, the ones behind it move down, and a pointer taken before is one to another device or to
none. This module says where a device is found later, and for which runs two devices in the
table had their descriptors read from one bus address, which `USB_AttachDevice` takes to be the
number of devices in the table.
-/

namespace LamaOS

variable {σ : Type} {hw : Hardware σ} {world : UsbWorld σ} {devices : List UsbDevice}

/-- The first slot in use whose device has the address. -/
def usbSlotOf (devices : List UsbDevice) (address : RtU8) : Option Nat :=
  devices.findIdx? fun device => device.address == address

theorem usbSlotOf_eq_some {address : RtU8} {i : Nat} (first : usbSlotOf devices address = some i) :
    ∃ device, devices[i]? = some device ∧ device.address = address := by
  obtain ⟨below, here, -⟩ := List.findIdx?_eq_some_iff_getElem.mp first
  exact ⟨devices[i], List.getElem?_eq_getElem below, by simpa using here⟩

theorem usbSlotOf_eq_none {address : RtU8} :
    usbSlotOf devices address = none ↔ ¬ ∃ device ∈ devices, device.address = address := by
  simp [usbSlotOf, List.findIdx?_eq_none_iff]

/-- `USB_FindDevice` on a table that shows a list. -/
theorem UsbShows.findDevice (shows : UsbShows world devices) (address : RtU8) :
    ∃ found, usbFindDevice (some world.driver) address = .ok found ∧
      found.map BitVec.toNat =
        if address.toNat < usbMaxDevices then usbSlotOf devices address else none := by
  rw [usbFindDevice]
  by_cases valid : address.toNat < usbMaxDevices
  · rw [if_neg (Nat.not_le.mpr valid), if_pos valid]
    exact shows.search address
  · rw [if_pos (Nat.le_of_not_lt valid), if_neg valid]
    exact ⟨none, rfl, rfl⟩

/-- A detach call that succeeds takes the device out of its slot. -/
theorem usbListCall_detach_eraseIdx {address : RtU8} {j : Nat}
    (valid : address.toNat < usbMaxDevices) (first : usbSlotOf devices address = some j) :
    usbListCall devices (.detach address) = (devices.eraseIdx j, .code .success) := by
  have present : ∃ device ∈ devices, device.address = address := by
    obtain ⟨device, here, same⟩ := usbSlotOf_eq_some first
    exact ⟨device, List.mem_of_getElem? here, same⟩
  have erased : devices.eraseP (fun device => device.address == address) = devices.eraseIdx j := by
    rw [List.eraseP_eq_eraseIdx]
    rw [usbSlotOf] at first
    rw [first]
  rw [usbListCall, if_pos ⟨valid, present⟩, erased]

theorem usbListCall_detach_failed {address : RtU8}
    (absent : usbMaxDevices ≤ address.toNat ∨ usbSlotOf devices address = none) :
    usbListCall devices (.detach address) = (devices, .code .invalidParameter) := by
  rw [usbListCall, if_neg]
  rintro ⟨valid, present⟩
  rcases absent with invalid | none
  · exact Nat.not_le.mpr valid invalid
  · exact usbSlotOf_eq_none.mp none present

/-! ## Where a device is found later -/

/-- The address of a device that a call takes out of a slot in front of the one that
`USB_FindDevice` gives for `address`. -/
def usbDetachesBelow {δ : Type} (address : RtU8) (devices : List UsbDevice) :
    UsbCallOn δ → List RtU8
  | .detach other =>
    if other.toNat < usbMaxDevices ∧
        ∃ j ∈ usbSlotOf devices other, ∃ i ∈ usbSlotOf devices address, j < i then [other]
    else []
  | .attach _ _ | .find _ => []

/-- A call attaches the device in the first slot that has the address, and finds room. -/
def AttachesFound (address : RtU8) (world : UsbWorld σ) : UsbCall → Prop
  | .attach (.slot i) _ =>
    world.driver.numDevices.toNat < usbMaxDevices ∧
      usbSlotOf world.driver.attached address = some i.val
  | .attach (.object _) _ => False
  | .detach _ => False
  | .find _ => False

/-- A descriptor that is written to an element leaves all the slots of addresses. -/
theorem usbSlotOf_describe (shown : UsbShown) (devices : List UsbDevice)
    (deviceDesc : UsbDeviceDescriptor) (address : RtU8) :
    usbSlotOf (shown.describe devices deviceDesc) address = usbSlotOf devices address := by
  have byAddress (devices : List UsbDevice) :
      usbSlotOf devices address = (devices.map UsbDevice.address).findIdx? (· == address) := by
    rw [List.findIdx?_map]
    rfl
  rw [byAddress, byAddress, UsbShown.describe_addresses]

/-- An attach call leaves the device of an address in its slot; it has the same content unless it
is the one that is attached. -/
theorem usbSlotOf_attach {address : RtU8} {i : Nat} {here : UsbDevice}
    (first : usbSlotOf devices address = some i) (there : devices[i]? = some here)
    (shown : UsbShown) (mem : UsbMemory) :
    usbSlotOf (usbListCall devices (.attach shown mem)).1 address = some i ∧
      ∃ deviceDesc, (usbListCall devices (.attach shown mem)).1[i]? =
          some (here.described deviceDesc) ∧
        (¬ (devices.length < usbMaxDevices ∧ shown.place = some i) →
          deviceDesc = here.deviceDesc) := by
  have below := (List.getElem?_eq_some_iff.mp there).1
  simp only [usbListCall]
  split
  · rename_i room
    rw [List.getElem?_append_left (by rw [UsbShown.describe_length]; exact below)]
    constructor
    · rw [usbSlotOf, List.findIdx?_append, ← usbSlotOf, usbSlotOf_describe, first]
      rfl
    · unfold UsbShown.describe
      cases place : shown.place with
      | none => exact ⟨here.deviceDesc, there, fun _ => rfl⟩
      | some k =>
        rw [List.getElem?_modify, there, Option.map_eq_map, Option.map_some]
        by_cases same : k = i
        · rw [if_pos same]
          exact ⟨_, rfl, fun other => absurd ⟨room, congrArg some same⟩ other⟩
        · rw [if_neg same]
          exact ⟨here.deviceDesc, rfl, fun _ => rfl⟩
  · exact ⟨first, here.deviceDesc, there, fun _ => rfl⟩

/-- A call that does not take the device out leaves it in its slot, or one slot further down if
it takes out a device in front of it. -/
theorem UsbShows.slot_step (shows : UsbShows world devices) {address : RtU8} {i : Nat}
    {here : UsbDevice} (first : usbSlotOf devices address = some i)
    (there : devices[i]? = some here) (call : UsbCall)
    (kept : ¬ (call = .detach address ∧
      (usbListCall devices (world.see call)).2 = .code .success)) :
    ∃ j deviceDesc, usbSlotOf (usbListCall devices (world.see call)).1 address = some j ∧
      j + (usbDetachesBelow address devices call).length = i ∧
      (usbListCall devices (world.see call)).1[j]? = some (here.described deviceDesc) ∧
      (¬ AttachesFound address world call → deviceDesc = here.deviceDesc) := by
  cases call with
  | attach device mem =>
    obtain ⟨slot, deviceDesc, content, same⟩ :=
      usbSlotOf_attach first there (world.driver.shown device) mem
    refine ⟨i, deviceDesc, slot, rfl, content, fun other => same ?_⟩
    rintro ⟨room, place⟩
    cases device with
    | object device => cases place
    | slot k =>
      obtain rfl : k.val = i := Option.some.inj place
      exact other ⟨shows.length ▸ room, shows.attached.symm ▸ first⟩
  | find other => exact ⟨i, here.deviceDesc, first, rfl, there, fun _ => rfl⟩
  | detach other =>
    simp only [UsbWorld.see, UsbCallOn.map, usbDetachesBelow, first, Option.mem_some_iff,
      exists_eq_left'] at kept ⊢
    by_cases valid : other.toNat < usbMaxDevices
    · cases slot : usbSlotOf devices other with
      | none =>
        rw [usbListCall_detach_failed (.inr slot)]
        exact ⟨i, here.deviceDesc, first, by simp, there, fun _ => rfl⟩
      | some j =>
        have done := usbListCall_detach_eraseIdx valid slot
        have apart : j ≠ i := by
          rintro rfl
          obtain ⟨device, there', same⟩ := usbSlotOf_eq_some first
          obtain ⟨device', there'', same'⟩ := usbSlotOf_eq_some slot
          obtain rfl : device = device' := Option.some.inj (there'.symm.trans there'')
          rw [same] at same'
          exact kept ⟨by rw [same'], by rw [done]⟩
        rw [done]
        refine ⟨SlotTable.slotAfterErase j i, here.deviceDesc,
          SlotTable.findIdx?_eraseIdx first apart, ?_,
          (SlotTable.getElem?_eraseIdx_slotAfterErase devices apart).trans there, fun _ => rfl⟩
        simp only [valid, Option.mem_some_iff, exists_eq_left', true_and]
        unfold SlotTable.slotAfterErase
        by_cases below : j < i
        · rw [if_pos below, if_pos below, List.length_singleton]
          omega
        · rw [if_neg below, if_neg below]
          rfl
    · rw [usbListCall_detach_failed (.inl (Nat.le_of_not_lt valid))]
      exact ⟨i, here.deviceDesc, first, by simp [valid], there, fun _ => rfl⟩

/-- The same over a run. -/
theorem usbTable_run_slot {address : RtU8} {i : Nat} {here : UsbDevice} {calls : List UsbCall}
    {world' : UsbWorld σ} {replies : List UsbReply} (shows : UsbShows world devices)
    (ran : Calls.run (usbTableCall hw) world calls = .ok (world', replies))
    (first : usbSlotOf devices address = some i) (there : devices[i]? = some here)
    (kept : ∀ event ∈ calls.zip replies, event ≠ (.detach address, .code .success)) :
    ∃ devices' j deviceDesc, UsbShows world' devices' ∧ usbSlotOf devices' address = some j ∧
      j + (Calls.gather (usbTableCall hw)
        (fun world => usbDetachesBelow address world.driver.attached) world calls).length = i ∧
      devices'[j]? = some (here.described deviceDesc) ∧
      (Calls.Everywhere (usbTableCall hw) (fun world call => ¬ AttachesFound address world call)
        world calls → deviceDesc = here.deviceDesc) := by
  induction calls generalizing world devices i here replies with
  | nil =>
    obtain ⟨rfl, -⟩ := Prod.mk.inj (Except.ok.inj ran)
    exact ⟨devices, i, here.deviceDesc, shows, first, rfl, there, fun _ => rfl⟩
  | cons call calls ih =>
    obtain ⟨next, reply, rest, done, later, rfl⟩ := Calls.run_cons ran
    obtain ⟨shows', rfl⟩ := shows.step done
    rw [List.zip_cons_cons, List.forall_mem_cons] at kept
    obtain ⟨now, kept⟩ := kept
    obtain ⟨j, deviceDesc, slot, moved, content, same⟩ :=
      shows.slot_step first there call fun ⟨isDetach, success⟩ => now (Prod.ext isDetach success)
    obtain ⟨devices', k, deviceDesc', shows'', slot', moved', content', same'⟩ :=
      ih shows' later slot content kept
    refine ⟨devices', k, deviceDesc', shows'', slot', ?_, content', fun others => ?_⟩
    · rw [Calls.gather, done, List.length_append, shows.attached]
      dsimp only
      omega
    · exact (same' (others.2 next _ done)).trans (same others.1)

/-- A device of the list stands in the slot of its index. -/
theorem UsbShows.slot (shows : UsbShows world devices) {i : Nat} {device : UsbDevice}
    (here : devices[i]? = some device) :
    i < world.driver.numDevices.toNat ∧ world.driver.devices[i]? = some device := by
  rw [← shows.attached, RtUsbDriver.attached] at here
  exact SlotTable.used_getElem?_eq_some here

/-- The slot in which an address is found is the one of the list. -/
theorem UsbShows.found_iff (shows : UsbShows world devices) (address slot : RtU8) :
    usbFindDevice (some world.driver) address = .ok (some slot) ↔
      address.toNat < usbMaxDevices ∧ usbSlotOf devices address = some slot.toNat := by
  obtain ⟨found, search, index⟩ := shows.findDevice address
  rw [search]
  by_cases valid : address.toNat < usbMaxDevices
  · rw [if_pos valid] at index
    rw [← index]
    cases found with
    | none => simp
    | some i =>
      simp only [Except.ok.injEq, Option.some.injEq, Option.map_some, valid, true_and]
      exact ⟨congrArg BitVec.toNat, BitVec.eq_of_toNat_eq⟩
  · rw [if_neg valid] at index
    obtain rfl := Option.map_eq_none_iff.mp index
    simp [valid]

/-- A device that was found is found later, in every run of calls that does not detach its
address: in its slot, less one for every successful detach call that took out a device in front of
it. Its content is the same but for the descriptor, which only changes where a call attaches the
device that is found. -/
theorem usbFindDevice_follows (hw : Hardware σ) (driver : RtUsbDriver) (m : Machine σ)
    {before later : List UsbCall} {world world' : UsbWorld σ} {replies replies' : List UsbReply}
    {address slot : RtU8}
    (ran : Calls.run (usbTableCall hw) (UsbWorld.empty driver m) before = .ok (world, replies))
    (found : usbFindDevice (some world.driver) address = .ok (some slot))
    (ran' : Calls.run (usbTableCall hw) world later = .ok (world', replies'))
    (kept : ∀ event ∈ later.zip replies', event ≠ (.detach address, .code .success)) :
    ∃ (slot' : RtU8) (device : UsbDevice) (deviceDesc : UsbDeviceDescriptor),
      usbFindDevice (some world'.driver) address = .ok (some slot') ∧
      slot'.toNat + (Calls.gather (usbTableCall hw)
        (fun world => usbDetachesBelow address world.driver.attached) world later).length =
        slot.toNat ∧
      slot'.toNat < world'.driver.numDevices.toNat ∧
      device.address = address ∧
      world.driver.devices[slot.toNat]? = some device ∧
      world'.driver.devices[slot'.toNat]? = some (device.described deviceDesc) ∧
      (Calls.Everywhere (usbTableCall hw) (fun world call => ¬ AttachesFound address world call)
        world later → deviceDesc = device.deviceDesc) := by
  obtain ⟨reached, ran'', shows⟩ := usbTable_run_shows hw (usbShows_empty driver m) before
  obtain ⟨rfl, -⟩ := Calls.done_unique ran ran''
  obtain ⟨valid, first⟩ := (shows.found_iff address slot).mp found
  obtain ⟨device, here, isAddress⟩ := usbSlotOf_eq_some first
  obtain ⟨devices', j, deviceDesc, shows', first', moved, content, same⟩ :=
    usbTable_run_slot shows ran' first here kept
  have bound : j < 2 ^ 8 := by
    have := slot.isLt
    omega
  have named : (BitVec.ofNat 8 j).toNat = j := by
    rw [BitVec.toNat_ofNat, Nat.mod_eq_of_lt bound]
  refine ⟨BitVec.ofNat 8 j, device, deviceDesc, ?_, ?_, ?_, isAddress, (shows.slot here).2, ?_,
    same⟩
  · exact (shows'.found_iff address _).mpr ⟨valid, by rw [named]; exact first'⟩
  · rw [named]
    exact moved
  · rw [named]
    exact (shows'.slot content).1
  · rw [named]
    exact (shows'.slot content).2

/-- The device in slot 2 moves down when the one in slot 0 goes, and is still found. -/
theorem usbFindDevice_follows_detach :
    ∃ (world world' : UsbWorld Unit) (slot' : RtU8) (device : UsbDevice),
      usbFindDevice (some world.driver) 3 = .ok (some 2) ∧
      usbFindDevice (some world'.driver) 3 = .ok (some slot') ∧
      slot'.toNat + (Calls.gather (usbTableCall silentHardware)
        (fun world => usbDetachesBelow 3 world.driver.attached) world
        [.detach 1, .attach (.object (usbDeviceAt 4)) fun _ => 0]).length = 2 ∧
      world'.driver.devices[slot'.toNat]? = some device ∧ device.address = 3 := by
  obtain ⟨world, ran, shows⟩ := usbTable_run_objects silentHardware
    (usbShows_empty default ⟨ioTablesInit, (), []⟩)
    [.attach (usbDeviceAt 1) fun _ => 0, .attach (usbDeviceAt 2) fun _ => 0,
      .attach (usbDeviceAt 3) fun _ => 0]
  have found : usbFindDevice (some world.driver) 3 = .ok (some 2) :=
    (shows.found_iff 3 2).mpr ⟨by decide, by decide⟩
  obtain ⟨world', ran', -⟩ := usbTable_run_objects silentHardware shows
    [.detach 1, .attach (usbDeviceAt 4) fun _ => 0]
  obtain ⟨slot', device, deviceDesc, found', moved, -, isAddress, -, here, -⟩ :=
    usbFindDevice_follows silentHardware default _ ran found ran' (by
      rintro event mem rfl
      have call := (List.of_mem_zip mem).1
      simp [UsbCallOn.map] at call)
  exact ⟨world, world', slot', _, found, found', moved, here, isAddress⟩

/-- The slot found for address 2, when the device in front of it has gone and another one has
come, holds the new device. -/
theorem usbSlot_overwritten :
    ∃ world world' : UsbWorld Unit,
      Calls.run (usbTableCall silentHardware) sampleUsbWorld
          [.attach (.object (usbDeviceAt 1)) fun _ => 0,
            .attach (.object (usbDeviceAt 2)) fun _ => 0] =
        .ok (world, [.code .success, .code .success]) ∧
      usbFindDevice (some world.driver) 2 = .ok (some 1) ∧
      world.driver.devices[1]? = some (usbDeviceAt 2) ∧
      Calls.run (usbTableCall silentHardware) world
          [.detach 1, .attach (.object (usbDeviceAt 3)) fun _ => 0] =
        .ok (world', [.code .success, .code .success]) ∧
      world'.driver.devices[1]? = some (usbDeviceAt 3) := by
  obtain ⟨world, ran, shows⟩ := usbTable_run_objects silentHardware
    (usbShows_empty default ⟨ioTablesInit, (), []⟩)
    [.attach (usbDeviceAt 1) fun _ => 0, .attach (usbDeviceAt 2) fun _ => 0]
  obtain ⟨world', ran', shows'⟩ := usbTable_run_objects silentHardware shows
    [.detach 1, .attach (usbDeviceAt 3) fun _ => 0]
  refine ⟨world, world', ran, (shows.found_iff 2 1).mpr ⟨by decide, by decide⟩, ?_, ran', ?_⟩
  · exact (shows.slot (by decide)).2
  · exact (shows'.slot (by decide)).2

/-! ## Bus addresses -/

/-- A device and the bus address its descriptor was read from. -/
abbrev UsbBusEntry := UsbDevice × RtU8

/-- The address arguments of the calls of `USB_ReadDeviceDescriptor`. -/
def UsbWatch.addresses : UsbWatch (List RtU8) :=
  ⟨fun address addresses => addresses ++ [address], fun _ _ addresses => addresses⟩

/-- The notes on the devices in the table when a descriptor has been read from a bus address for
the object, which is then copied behind the last device. -/
def UsbShown.note (shown : UsbShown) (notes : List UsbBusEntry)
    (deviceDesc : UsbDeviceDescriptor) (address : RtU8) : List UsbBusEntry :=
  (match shown.place with
    | none => notes
    | some i => notes.modify i fun entry => (entry.1.described deviceDesc, address)) ++
      [(shown.device.described deviceDesc, address)]

/-- The driver and, for each device in the table, the bus address its descriptor was read
from. -/
abbrev UsbBusWorld (σ : Type) := UsbWorld σ × List UsbBusEntry

/-- One call, with the notes that go with the table: an attached device adds its own, and a
detached one takes it along. -/
def usbBusCall (hw : Hardware σ) (world : UsbBusWorld σ) :
    UsbCall → Except MemoryFault (UsbBusWorld σ × UsbReply)
  | .attach device mem =>
    (usbAttachDeviceWith hw UsbWatch.addresses mem (some world.1.driver) (some device)
      world.1.machine []).map fun result =>
        (((world.1.after result.1).1,
          if result.1.code = .success then
            result.1.watched.foldl (fun notes address =>
              (world.1.driver.shown device).note notes (usbDescriptorAt mem 0xE000) address) world.2
          else world.2),
          .code result.1.code)
  | .detach address =>
    (usbDetachDevice (some world.1.driver) address world.1.machine).map fun result =>
      (((world.1.after result).1,
        if result.code = .success then
          world.2.eraseP fun entry => entry.1.address == address
        else world.2),
        .code result.code)
  | .find address =>
    (usbTableCall hw world.1 (.find address)).map fun done => ((done.1, world.2), done.2)

/-- The notes are about the devices in the table, in their order. -/
def UsbNoted (world : UsbBusWorld σ) : Prop := UsbShows world.1 (world.2.map Prod.fst)

/-- No two devices in the table had their descriptors read from one bus address. -/
def DistinctBusAddresses (world : UsbBusWorld σ) : Prop := (world.2.map Prod.snd).Nodup

/-- An attach call that finds room is not given a device of the table, and is made when no device
in the table was read from the address that is now the number of devices. -/
def AttachesAtFreeCount (world : UsbBusWorld σ) : UsbCall → Prop
  | .attach device _ =>
    world.1.driver.numDevices.toNat < usbMaxDevices →
      (∀ i, (world.1.driver.shown device).place = some i → world.1.driver.numDevices.toNat ≤ i) ∧
        world.1.driver.numDevices ∉ world.2.map Prod.snd
  | .detach _ | .find _ => True

/-- What a call does to the notes that go with the table. -/
def usbNotesAfter (notes : List UsbBusEntry) : UsbCallOn UsbShown → List UsbBusEntry
  | .attach shown mem =>
    if notes.length < usbMaxDevices then
      shown.note notes (usbDescriptorAt mem 0xE000) (BitVec.ofNat 8 notes.length)
    else notes
  | .detach address =>
    if address.toNat < usbMaxDevices then notes.eraseP fun entry => entry.1.address == address
    else notes
  | .find _ => notes

/-- One call on the list of attached devices with their notes. -/
def usbNotesCall (notes : List UsbBusEntry) (call : UsbCallOn UsbShown) :
    List UsbBusEntry × UsbReply :=
  (usbNotesAfter notes call, (usbListCall (notes.map Prod.fst) call).2)

variable {bus bus' : UsbBusWorld σ}

theorem UsbNoted.length (noted : UsbNoted bus) :
    bus.2.length = bus.1.driver.numDevices.toNat := by
  rw [← UsbShows.length noted, List.length_map]

/-- The count is the number of notes. -/
theorem UsbNoted.numDevices (noted : UsbNoted bus) :
    BitVec.ofNat 8 bus.2.length = bus.1.driver.numDevices := by
  rw [noted.length]
  exact BitVec.ofNat_toNat ..

/-- The devices of the notes change as the list does. -/
theorem UsbShown.note_devices (shown : UsbShown) (notes : List UsbBusEntry)
    (deviceDesc : UsbDeviceDescriptor) (address : RtU8) :
    (shown.note notes deviceDesc address).map Prod.fst =
      shown.describe (notes.map Prod.fst) deviceDesc ++ [shown.device.described deviceDesc] := by
  rw [UsbShown.note, List.map_append, UsbShown.describe]
  apply congrArg (· ++ _)
  cases shown.place with
  | none => rfl
  | some i =>
    apply List.ext_getElem?
    intro j
    simp only [List.getElem?_map, List.getElem?_modify]
    cases notes[j]? with
    | none => rfl
    | some entry =>
      by_cases here : i = j
      · simp [here]
      · simp [here]

theorem UsbNoted.attach (hw : Hardware σ) (noted : UsbNoted bus) (device : UsbDevicePtr)
    (mem : UsbMemory) :
    ∃ bus', usbBusCall hw bus (.attach device mem) =
        .ok (bus', (usbNotesCall bus.2 (bus.1.see (.attach device mem))).2) ∧
      UsbNoted bus' ∧ bus'.2 = usbNotesAfter bus.2 (bus.1.see (.attach device mem)) := by
  obtain ⟨result, attached, code, shows, -, watched⟩ :=
    UsbShows.attachDeviceWith hw noted UsbWatch.addresses device mem []
  refine ⟨_, by rw [usbBusCall, attached, usbNotesCall, UsbWorld.see, UsbCallOn.map, ← code]; rfl,
    ?_⟩
  simp only [UsbNoted, UsbWorld.see, UsbCallOn.map, usbNotesAfter, noted.numDevices]
  simp only [usbListCall, List.length_map] at code shows
  by_cases room : bus.2.length < usbMaxDevices
  · rw [if_pos room] at code shows ⊢
    have success : result.1.code = .success := UsbReply.code.inj code
    obtain ⟨driver', -, -, -, read⟩ := watched success
    have one : result.1.watched = [bus.1.driver.numDevices] := by
      rw [read]
      simp [UsbWatch.addresses]
    rw [if_pos success, one, List.foldl_cons, List.foldl_nil, UsbShown.note_devices]
    exact ⟨shows, rfl⟩
  · rw [if_neg room] at code shows ⊢
    have failed : result.1.code ≠ .success := by
      rw [UsbReply.code.inj code]
      decide
    rw [if_neg failed]
    exact ⟨shows, rfl⟩

theorem UsbNoted.detach (hw : Hardware σ) (noted : UsbNoted bus) (address : RtU8) :
    ∃ bus', usbBusCall hw bus (.detach address) =
        .ok (bus', (usbNotesCall bus.2 (.detach address)).2) ∧
      UsbNoted bus' ∧ bus'.2 = usbNotesAfter bus.2 (.detach address) := by
  obtain ⟨result, detached, code, shows, -⟩ :=
    UsbShows.detachDeviceWith noted UsbWatch.callbacks address []
  refine ⟨_, by rw [usbBusCall, usbDetachDevice, detached, usbNotesCall, ← code]; rfl, ?_⟩
  simp only [UsbNoted, usbNotesAfter]
  simp only [usbListCall] at code shows
  by_cases found : address.toNat < usbMaxDevices ∧
      ∃ device ∈ bus.2.map Prod.fst, device.address = address
  · rw [if_pos found] at code shows
    have success : result.code = .success := UsbReply.code.inj code
    rw [List.eraseP_map] at shows
    rw [if_pos success, if_pos found.1]
    exact ⟨shows, rfl⟩
  · rw [if_neg found] at code shows
    have failed : result.code ≠ .success := by
      rw [UsbReply.code.inj code]
      decide
    rw [if_neg failed]
    refine ⟨shows, ?_⟩
    by_cases valid : address.toNat < usbMaxDevices
    · -- no device has the address
      rw [if_pos valid]
      refine (List.eraseP_of_forall_not fun entry mem same => found ⟨valid, entry.1, ?_, ?_⟩).symm
      · exact List.mem_map_of_mem mem
      · simpa using same
    · rw [if_neg valid]

/-- Every call is answered as the list answers it, and the notes stay with the table. -/
theorem UsbNoted.step (hw : Hardware σ) (noted : UsbNoted bus) (call : UsbCall) :
    ∃ bus', usbBusCall hw bus call = .ok (bus', (usbNotesCall bus.2 (bus.1.see call)).2) ∧
      UsbNoted bus' ∧ bus'.2 = usbNotesAfter bus.2 (bus.1.see call) := by
  cases call with
  | attach device mem => exact noted.attach hw device mem
  | detach address => exact noted.detach hw address
  | find address =>
    exact ⟨bus, by rw [usbBusCall, usbTableCall_find hw noted address]; rfl, noted, rfl⟩

/-- The notes that a call adds to distinct ones are distinct from them exactly if the object is
none of the devices and the address is new. -/
theorem UsbShown.note_nodup_iff (shown : UsbShown) {notes : List UsbBusEntry}
    (distinct : (notes.map Prod.snd).Nodup) (deviceDesc : UsbDeviceDescriptor) (address : RtU8) :
    ((shown.note notes deviceDesc address).map Prod.snd).Nodup ↔
      (∀ i, shown.place = some i → notes.length ≤ i) ∧ address ∉ notes.map Prod.snd := by
  have append (notes : List UsbBusEntry) (distinct : (notes.map Prod.snd).Nodup) :
      ((notes ++ [(shown.device.described deviceDesc, address)]).map Prod.snd).Nodup ↔
        address ∉ notes.map Prod.snd := by
    rw [List.map_append, List.perm_append_comm.nodup_iff, List.map_singleton,
      List.singleton_append, List.nodup_cons]
    exact and_iff_left distinct
  rw [UsbShown.note]
  cases place : shown.place with
  | none => simpa using append notes distinct
  | some i =>
    by_cases behind : notes.length ≤ i
    · dsimp only
      rw [List.modify_eq_self behind, append notes distinct]
      refine (and_iff_right fun k same => ?_).symm
      obtain rfl := Option.some.inj same
      exact behind
    · -- the device in the table was read from the same address as its copy
      have twice : address ∈
          (notes.modify i fun entry => (entry.1.described deviceDesc, address)).map Prod.snd := by
        refine List.mem_iff_getElem?.mpr ⟨i, ?_⟩
        rw [List.getElem?_map, List.getElem?_modify,
          List.getElem?_eq_getElem (Nat.lt_of_not_le behind)]
        simp
      constructor
      · intro nodup
        rw [List.map_append, List.nodup_append] at nodup
        exact absurd rfl (nodup.2.2 _ twice _ (List.mem_singleton_self _))
      · exact fun apart => absurd (apart.1 i rfl) behind

/-- From distinct bus addresses a call leads to distinct ones exactly when it attaches no device
of the table, and none at a count that one in the table was read from. -/
theorem usbNotesAfter_nodup_iff (noted : UsbNoted bus) (distinct : DistinctBusAddresses bus)
    (call : UsbCall) :
    ((usbNotesAfter bus.2 (bus.1.see call)).map Prod.snd).Nodup ↔
      AttachesAtFreeCount bus call := by
  cases call with
  | attach device mem =>
    simp only [UsbWorld.see, UsbCallOn.map, usbNotesAfter, AttachesAtFreeCount, noted.numDevices,
      ← noted.length]
    by_cases room : bus.2.length < usbMaxDevices
    · rw [if_pos room, UsbShown.note_nodup_iff _ distinct]
      exact ⟨fun apart _ => apart, fun apart => apart room⟩
    · rw [if_neg room]
      exact ⟨fun _ room' => absurd room' room, fun _ => distinct⟩
  | detach address =>
    refine ⟨fun _ => trivial, fun _ => ?_⟩
    simp only [UsbWorld.see, UsbCallOn.map, usbNotesAfter]
    split
    · exact distinct.sublist (List.eraseP_sublist.map _)
    · exact distinct
  | find address => exact ⟨fun _ => trivial, fun _ => distinct⟩

/-- A run is answered as the list answers it, and ends with the list's notes. -/
theorem usbBus_run_notes (hw : Hardware σ) (noted : UsbNoted bus) (calls : List UsbCall) :
    let seen := Calls.gather (usbBusCall hw) (fun bus call => [bus.1.see call]) bus calls
    ∃ bus', Calls.run (usbBusCall hw) bus calls =
        .ok (bus', (Calls.spec usbNotesCall bus.2 seen).2) ∧
      UsbNoted bus' ∧ bus'.2 = (Calls.spec usbNotesCall bus.2 seen).1 := by
  refine Calls.run_refines_seen (fun bus call => bus.1.see call)
    (fun bus notes => UsbNoted bus ∧ bus.2 = notes) ?_ ⟨noted, rfl⟩ calls
  rintro bus notes call ⟨noted, rfl⟩
  exact noted.step hw call

/-- The devices in the table have distinct bus addresses in all the states of a run from an
empty table exactly when every attach call that finds room is given no device of the table, and
is made at a count that no device in the table was read from. The notes are about the devices in
the table throughout. -/
theorem usbBusAddresses_distinct_iff (hw : Hardware σ) (driver : RtUsbDriver) (m : Machine σ)
    (calls : List UsbCall) :
    (Calls.Always (usbBusCall hw) DistinctBusAddresses (UsbWorld.empty driver m, []) calls ↔
        Calls.Everywhere (usbBusCall hw) AttachesAtFreeCount (UsbWorld.empty driver m, []) calls) ∧
      Calls.Always (usbBusCall hw) UsbNoted (UsbWorld.empty driver m, []) calls := by
  have start : UsbNoted (UsbWorld.empty driver m, []) := usbShows_empty driver m
  have total := Calls.run_total (fun bus call (noted : UsbNoted bus) => by
    obtain ⟨bus', done, noted', -⟩ := noted.step hw call
    exact ⟨bus', _, done, noted'⟩) start calls
  refine ⟨Calls.always_iff UsbNoted ?_ ?_ start List.nodup_nil calls, total.1⟩
  · intro bus call bus' reply noted distinct allowed done
    obtain ⟨bus'', done', noted', notes⟩ := noted.step hw call
    obtain ⟨rfl, -⟩ := Calls.done_unique done done'
    refine ⟨noted', ?_⟩
    rw [DistinctBusAddresses, notes]
    exact (usbNotesAfter_nodup_iff noted distinct call).mpr allowed
  · intro bus call noted distinct refused
    obtain ⟨bus', done, -, notes⟩ := noted.step hw call
    refine ⟨bus', _, done, fun distinct' => refused ?_⟩
    rw [DistinctBusAddresses, notes] at distinct'
    exact (usbNotesAfter_nodup_iff noted distinct call).mp distinct'

/-- Of three devices the first one goes before the third one comes: the second and the third
were both read from bus address 1. -/
theorem usbBusAddresses_shared :
    ¬ Calls.Always (usbBusCall silentHardware) DistinctBusAddresses (sampleUsbWorld, [])
      [.attach (.object (usbDeviceAt 1)) fun _ => 0, .attach (.object (usbDeviceAt 2)) fun _ => 0,
        .detach 1, .attach (.object (usbDeviceAt 3)) fun _ => 0] := by
  intro always
  have start : UsbNoted (sampleUsbWorld, []) := usbShows_empty _ _
  obtain ⟨bus, ran, -, notes⟩ := usbBus_run_notes silentHardware start
    (([.attach (usbDeviceAt 1) fun _ => 0, .attach (usbDeviceAt 2) fun _ => 0, .detach 1,
      .attach (usbDeviceAt 3) fun _ => 0] : List (UsbCallOn UsbDevice)).map (.map .object))
  have same (bus : UsbBusWorld Unit) (call : UsbCallOn UsbDevice) :
      [bus.1.see (call.map .object)] = [call.map .outside] := by
    rw [UsbWorld.see_object]
  rw [Calls.gather_eq_map same ran] at notes
  have distinct := always.last ran
  rw [DistinctBusAddresses, notes] at distinct
  revert distinct
  decide

end LamaOS
