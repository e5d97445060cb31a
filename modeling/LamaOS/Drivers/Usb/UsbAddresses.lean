import LamaOS.Drivers.Usb.UsbTable

/-!
# Addresses in the USB device table

A device brings its address with it. `USB_AttachDevice` does not look at it, while
`USB_FindDevice` and `USB_DetachDevice` take it for the key of the table, and refuse the ones
from `USB_MAX_DEVICES` on. So two devices may share an address, and a device may have one
that it can neither be found nor detached by; this module says for which runs that happens.
-/

namespace LamaOS

variable {σ : Type}

/-- The addresses of the devices in the table. -/
def UsbWorld.addresses (world : UsbWorld σ) : List RtU8 :=
  world.driver.attached.map UsbDevice.address

variable {hw : Hardware σ} {world : UsbWorld σ} {devices : List UsbDevice}

theorem UsbShows.addresses (shows : UsbShows world devices) :
    world.addresses = devices.map UsbDevice.address := by
  rw [UsbWorld.addresses, shows.attached]

/-- What a call does to a table that shows a list is what it does to the list. -/
theorem UsbShows.step (shows : UsbShows world devices) {call : UsbCall} {world' : UsbWorld σ}
    {reply : UsbReply} (done : usbTableCall hw world call = .ok (world', reply)) :
    UsbShows world' (usbListCall devices (world.see call)).1 ∧
      reply = (usbListCall devices (world.see call)).2 := by
  obtain ⟨world'', done', shows', _⟩ := usbTableCall_refines hw shows call
  obtain ⟨rfl, rfl⟩ := Calls.done_unique done done'
  exact ⟨shows', rfl⟩

/-- A property of the table that is one of the list it shows holds all along a run from an empty
table exactly when every call meets the condition under which it keeps the property of the
list. -/
theorem usbTable_always_iff {P : UsbWorld σ → Prop} {Q : UsbWorld σ → UsbCall → Prop}
    (L : List UsbDevice → Prop)
    (same : ∀ world devices, UsbShows world devices → (P world ↔ L devices))
    (keeps : ∀ world devices call, UsbShows world devices → L devices →
      (L (usbListCall devices (world.see call)).1 ↔ Q world call))
    (empty : L []) (driver : RtUsbDriver) (m : Machine σ) (calls : List UsbCall) :
    Calls.Always (usbTableCall hw) P (UsbWorld.empty driver m) calls ↔
      Calls.Everywhere (usbTableCall hw) Q (UsbWorld.empty driver m) calls := by
  have start := usbShows_empty driver m
  refine Calls.always_iff (fun world => UsbShows world world.driver.attached) ?_ ?_
    (start.attached ▸ start) ((same _ _ start).mpr empty) calls
  · intro world call world' reply shows here allowed done
    obtain ⟨shows', -⟩ := shows.step done
    refine ⟨shows'.attached ▸ shows', (same _ _ shows').mpr ?_⟩
    exact (keeps world _ call shows ((same _ _ shows).mp here)).mpr allowed
  · intro world call shows here refused
    obtain ⟨world', done, shows', -⟩ := usbTableCall_refines hw shows call
    refine ⟨world', _, done, fun there => refused ?_⟩
    exact (keeps world _ call shows ((same _ _ shows).mp here)).mp ((same _ _ shows').mp there)

/-! ## Distinct addresses -/

/-- The addresses in the table differ from each other. -/
def DistinctAddresses (world : UsbWorld σ) : Prop := world.addresses.Nodup

/-- An attach call that finds room brings an address that no device in the table has. -/
def AttachesFresh (world : UsbWorld σ) : UsbCall → Prop
  | .attach device _ =>
    world.driver.numDevices.toNat < usbMaxDevices →
      (world.driver.deviceAt device).address ∉ world.addresses
  | .detach _ => True
  | .find _ => True

theorem usbListCall_detach_sublist (devices : List UsbDevice) (address : RtU8) :
    (usbListCall devices (.detach address)).1.Sublist devices := by
  simp only [usbListCall]
  split
  · exact List.eraseP_sublist
  · exact List.Sublist.refl _

/-- A descriptor that is written to an element leaves its address. -/
theorem UsbShown.describe_addresses (shown : UsbShown) (devices : List UsbDevice)
    (deviceDesc : UsbDeviceDescriptor) :
    (shown.describe devices deviceDesc).map UsbDevice.address = devices.map UsbDevice.address :=
  shown.describe_map (fun device => device.described_address deviceDesc) devices

/-- From a list of distinct addresses a call leads to one exactly when it attaches fresh
addresses only. -/
theorem usbListCall_nodup_iff (shows : UsbShows world devices)
    (distinct : (devices.map UsbDevice.address).Nodup) (call : UsbCall) :
    ((usbListCall devices (world.see call)).1.map UsbDevice.address).Nodup ↔
      AttachesFresh world call := by
  cases call with
  | attach device mem =>
    simp only [UsbWorld.see, UsbCallOn.map, usbListCall, AttachesFresh, shows.addresses,
      ← shows.length]
    by_cases room : devices.length < usbMaxDevices
    · simp only [room, if_true, true_implies, List.map_append, List.map_singleton,
        UsbShown.describe_addresses]
      rw [List.nodup_append]
      constructor
      · rintro ⟨_, _, apart⟩ known
        exact apart _ known _ (List.mem_singleton_self _) rfl
      · intro fresh
        refine ⟨distinct, by simp, fun a known b new same => fresh ?_⟩
        rw [List.mem_singleton.mp new] at same
        exact same ▸ known
    · simp only [room, if_false, false_implies, iff_true]
      exact distinct
  | detach address =>
    exact ⟨fun _ => trivial, fun _ =>
      distinct.sublist ((usbListCall_detach_sublist devices address).map _)⟩
  | find address => exact ⟨fun _ => trivial, fun _ => distinct⟩

/-- Whether an address counts as detached after a call: a successful attach or detach call
with the address settles it. -/
def detachedAfter (address : RtU8) (detached : Bool) : UsbCallOn UsbShown × UsbReply → Bool
  | (.attach shown _, .code .success) => detached && shown.device.address != address
  | (.detach a, .code .success) => detached || a == address
  | _ => detached

/-- What the calls so far say about an address: the last successful attach or detach call
with this address was a detach call. -/
def detachedLast (address : RtU8) (past : List (UsbCallOn UsbShown × UsbReply)) : Bool :=
  past.foldl (detachedAfter address) false

@[simp] theorem detachedLast_append (address : RtU8)
    (past : List (UsbCallOn UsbShown × UsbReply)) (event : UsbCallOn UsbShown × UsbReply) :
    detachedLast address (past ++ [event]) =
      detachedAfter address (detachedLast address past) event := by
  simp [detachedLast]

/-- After a successful detach call the address is gone, if addresses are distinct. -/
theorem usbListCall_detach_absent {address : RtU8}
    (distinct : (devices.map UsbDevice.address).Nodup)
    (success : (usbListCall devices (.detach address)).2 = .code .success) :
    address ∉ (usbListCall devices (.detach address)).1.map UsbDevice.address := by
  simp only [usbListCall] at success ⊢
  split at success
  · rename_i found
    rw [if_pos found]
    obtain ⟨_, device, mem, here⟩ := found
    obtain ⟨first, before, behind, absent, this, split, erased⟩ :=
      List.exists_of_eraseP (p := fun device : UsbDevice => device.address == address) mem
        (by simpa using here)
    have this : first.address = address := by simpa using this
    rw [split, List.map_append, List.map_cons, this] at distinct
    rw [erased, List.map_append, List.mem_append, not_or]
    constructor
    · rintro earlier
      obtain ⟨other, otherMem, same⟩ := List.mem_map.mp earlier
      exact absent other otherMem (by simpa using same)
    · exact (List.nodup_cons.mp (List.nodup_append.mp distinct).2.1).1
  · cases success

/-- What holds of a table of distinct addresses after the calls so far: an address that was
detached last is not in it. -/
structure DetachedStays (past : List (UsbCallOn UsbShown × UsbReply)) (world : UsbWorld σ) :
    Prop where
  shows : UsbShows world world.driver.attached
  distinct : DistinctAddresses world
  absent : ∀ address, detachedLast address past = true → address ∉ world.addresses

theorem DetachedStays.step {past : List (UsbCallOn UsbShown × UsbReply)}
    (stays : DetachedStays past world) {call : UsbCall} {world' : UsbWorld σ} {reply : UsbReply}
    (fresh : AttachesFresh world call)
    (done : usbTableCall hw world call = .ok (world', reply)) :
    DetachedStays (past ++ [(world.see call, reply)]) world' := by
  obtain ⟨shows', answer⟩ := stays.shows.step done
  have distinct' := (usbListCall_nodup_iff stays.shows stays.distinct call).mpr fresh
  refine ⟨shows'.attached ▸ shows', ?_, fun address detached => ?_⟩
  · rwa [DistinctAddresses, shows'.addresses]
  · rw [shows'.addresses]
    rw [detachedLast_append] at detached
    have before := stays.absent address
    rw [UsbWorld.addresses] at before
    cases call with
    | attach device mem =>
      simp only [UsbWorld.see, UsbCallOn.map, usbListCall] at answer detached ⊢
      split at answer
      · subst answer
        simp only [detachedAfter, Bool.and_eq_true, bne_iff_ne] at detached
        rename_i room
        rw [if_pos room, List.map_append, List.mem_append, not_or, UsbShown.describe_addresses]
        exact ⟨before detached.1, by simpa using Ne.symm detached.2⟩
      · subst answer
        rename_i full
        rw [if_neg full]
        exact before detached
    | detach a =>
      by_cases success : reply = .code .success
      · subst success
        simp only [UsbWorld.see, UsbCallOn.map, detachedAfter, Bool.or_eq_true,
          beq_iff_eq] at detached
        by_cases same : a = address
        · subst same
          exact usbListCall_detach_absent stays.distinct answer.symm
        · have kept := before (detached.resolve_right same)
          exact fun still => kept
            (((usbListCall_detach_sublist _ a).map UsbDevice.address).subset still)
      · have kept : detachedLast address past = true := by
          unfold detachedAfter at detached
          split at detached <;> simp_all
        exact fun still => before kept
          (((usbListCall_detach_sublist _ a).map UsbDevice.address).subset still)
    | find a =>
      exact before detached

/-- An address that no device in the table has is not found. -/
theorem usbFindDevice_absent (shows : UsbShows world devices) {address : RtU8}
    (absent : address ∉ world.addresses) :
    usbFindDevice (some world.driver) address = .ok none := by
  rw [usbFindDevice]
  split
  · rfl
  · obtain ⟨found, search, index⟩ := shows.search address
    have nowhere : devices.findIdx? (fun device => device.address == address) = none := by
      rw [List.findIdx?_eq_none_iff]
      intro device mem
      rw [beq_eq_false_iff_ne]
      rintro rfl
      exact absent (shows.addresses ▸ List.mem_map_of_mem mem)
    rw [nowhere, Option.map_eq_none_iff] at index
    rw [search, index]

/-- From an empty table, the addresses of the devices differ from each other in every state of
a run exactly when every attach call of the run that finds room brings an address no device in
the table has; and after such a run an address whose last successful attach or detach call was
a detach call is not found. -/
theorem usbTable_distinct_iff (hw : Hardware σ) (driver : RtUsbDriver) (m : Machine σ)
    (calls : List UsbCall) :
    (Calls.Always (usbTableCall hw) DistinctAddresses (UsbWorld.empty driver m) calls ↔
        Calls.Everywhere (usbTableCall hw) AttachesFresh (UsbWorld.empty driver m) calls) ∧
      (Calls.Everywhere (usbTableCall hw) AttachesFresh (UsbWorld.empty driver m) calls →
        ∀ world replies, Calls.run (usbTableCall hw) (UsbWorld.empty driver m) calls =
            .ok (world, replies) →
          ∀ address, detachedLast address
              ((usbSeen hw (UsbWorld.empty driver m) calls).zip replies) = true →
            usbFindDevice (some world.driver) address = .ok none) := by
  have start := usbShows_empty driver m
  have distinct : DistinctAddresses (UsbWorld.empty driver m) := by
    rw [DistinctAddresses, start.addresses]
    exact List.nodup_nil
  constructor
  · refine usbTable_always_iff (fun devices => (devices.map UsbDevice.address).Nodup) ?_ ?_
      List.nodup_nil driver m calls
    · intro world devices shows
      rw [DistinctAddresses, shows.addresses]
    · exact fun _ _ call shows distinct => usbListCall_nodup_iff shows distinct call
  · intro fresh world replies ran address detached
    have stays : DetachedStays [] (UsbWorld.empty driver m) :=
      ⟨start.attached ▸ start, distinct, fun _ never => absurd never Bool.false_ne_true⟩
    have stays' := Calls.run_history_seen UsbWorld.see DetachedStays
      (fun _ _ _ _ _ stays fresh done => stays.step fresh done) stays fresh ran
    exact usbFindDevice_absent stays'.shows (stays'.absent address detached)

/-- Attaching two devices with different addresses and detaching one of them. -/
theorem usbTable_distinct_pair :
    Calls.Always (usbTableCall silentHardware) DistinctAddresses sampleUsbWorld
      [.attach (.object (usbDeviceAt 1)) fun _ => 0,
        .attach (.object (usbDeviceAt 2)) fun _ => 0, .detach 1] := by
  refine (usbTable_distinct_iff silentHardware default ⟨ioTablesInit, (), []⟩ _).1.mpr ?_
  have start := usbShows_empty default ⟨ioTablesInit, (), []⟩
  refine ⟨fun _ => start.addresses ▸ List.not_mem_nil, fun world reply first => ?_⟩
  have one : world.addresses = [1] := (start.step first).1.addresses
  refine ⟨fun _ => ?_, fun _ _ _ => ⟨trivial, fun _ _ _ => trivial⟩⟩
  rw [one]
  show (2 : RtU8) ∉ ([1] : List RtU8)
  decide

/-- Two devices with address 1 are both taken into the table, and when one of them has been
detached, address 1 is still found. -/
theorem usbTable_shares_address :
    ¬ Calls.Always (usbTableCall silentHardware) DistinctAddresses sampleUsbWorld
        [.attach (.object (usbDeviceAt 1)) fun _ => 0,
          .attach (.object (usbDeviceAt 1)) fun _ => 0] ∧
      ∃ world, Calls.run (usbTableCall silentHardware) sampleUsbWorld
        [.attach (.object (usbDeviceAt 1)) fun _ => 0,
          .attach (.object (usbDeviceAt 1)) fun _ => 0, .detach 1, .find 1] =
        .ok (world, [.code .success, .code .success, .code .success,
          .device (some (usbDeviceAt 1))]) := by
  have start : UsbShows sampleUsbWorld [] := usbShows_empty _ _
  constructor
  · intro always
    obtain ⟨world, ran, shows⟩ := usbTable_run_objects silentHardware start
      [.attach (usbDeviceAt 1) fun _ => 0, .attach (usbDeviceAt 1) fun _ => 0]
    have distinct := always.last ran
    rw [DistinctAddresses, shows.addresses] at distinct
    revert distinct
    decide
  · obtain ⟨world, ran, -⟩ := usbTable_run_objects silentHardware start
      [.attach (usbDeviceAt 1) fun _ => 0, .attach (usbDeviceAt 1) fun _ => 0, .detach 1, .find 1]
    have replies : (Calls.spec usbListCall [] [.attach (.outside (usbDeviceAt 1)) fun _ => 0,
        .attach (.outside (usbDeviceAt 1)) fun _ => 0, .detach 1, .find 1]).2 =
        [.code .success, .code .success, .code .success, .device (some (usbDeviceAt 1))] := by
      decide
    exact ⟨world, replies ▸ ran⟩

/-! ## Addresses in range -/

/-- Every device in the table can be found and detached by its address, and detaching the
addresses of all of them leaves an empty table. -/
structure DevicesReachable (hw : Hardware σ) (world : UsbWorld σ) : Prop where
  found : ∀ device ∈ world.driver.attached,
    ∃ slot, usbFindDevice (some world.driver) device.address = .ok (some slot)
  detached : ∀ device ∈ world.driver.attached,
    ∃ result, usbDetachDevice (some world.driver) device.address world.machine = .ok result ∧
      result.code = .success
  emptied : ∃ world', Calls.run (usbTableCall hw) world (world.addresses.map .detach) =
      .ok (world', world.addresses.map fun _ => .code .success) ∧
    world'.driver.numDevices = 0

/-- An attach call that finds room brings an address below `USB_MAX_DEVICES`. -/
def AttachesInRange (world : UsbWorld σ) : UsbCall → Prop
  | .attach device _ =>
    world.driver.numDevices.toNat < usbMaxDevices →
      (world.driver.deviceAt device).address.toNat < usbMaxDevices
  | .detach _ => True
  | .find _ => True

/-- The addresses in a list of devices are ones that find and detach accept. -/
def AddressesInRange (devices : List UsbDevice) : Prop :=
  ∀ device ∈ devices, device.address.toNat < usbMaxDevices

theorem addressesInRange_iff :
    AddressesInRange devices ↔
      ∀ address ∈ devices.map UsbDevice.address, address.toNat < usbMaxDevices := by
  simp [AddressesInRange]

theorem usbListCall_inRange_iff (shows : UsbShows world devices)
    (inRange : AddressesInRange devices) (call : UsbCall) :
    AddressesInRange (usbListCall devices (world.see call)).1 ↔ AttachesInRange world call := by
  cases call with
  | attach device mem =>
    simp only [UsbWorld.see, UsbCallOn.map, usbListCall, AttachesInRange, ← shows.length]
    by_cases room : devices.length < usbMaxDevices
    · simp only [room, if_true, true_implies]
      rw [addressesInRange_iff, List.map_append, UsbShown.describe_addresses,
        List.forall_mem_append]
      constructor
      · rintro ⟨-, new⟩
        exact new _ (List.mem_singleton_self _)
      · intro below
        refine ⟨addressesInRange_iff.mp inRange, fun address new => ?_⟩
        rw [List.mem_singleton.mp new]
        exact below
    · simp only [room, if_false, false_implies, iff_true]
      exact inRange
  | detach address =>
    exact ⟨fun _ => trivial, fun _ d mem =>
      inRange d ((usbListCall_detach_sublist devices address).subset mem)⟩
  | find address => exact ⟨fun _ => trivial, fun _ => inRange⟩

/-- Detaching the addresses of a list of devices one after the other, from the front, takes
the devices out one after the other. -/
theorem spec_detach_all (inRange : AddressesInRange devices) :
    Calls.spec usbListCall devices ((devices.map UsbDevice.address).map .detach) =
      ([], (devices.map UsbDevice.address).map fun _ => .code .success) := by
  induction devices with
  | nil => rfl
  | cons device devices ih =>
    have first : usbListCall (device :: devices) (.detach device.address) =
        (devices, .code .success) := by
      have below := inRange device List.mem_cons_self
      simp [usbListCall, below]
    rw [List.map_cons, List.map_cons, Calls.spec, first,
      ih fun d mem => inRange d (List.mem_cons_of_mem _ mem)]
    rfl

/-- The devices of a table are reachable exactly when their addresses are in range. -/
theorem devicesReachable_iff (hw : Hardware σ) (shows : UsbShows world devices) :
    DevicesReachable hw world ↔ AddressesInRange devices := by
  have attached := shows.attached
  constructor
  · intro reachable device mem
    obtain ⟨slot, found⟩ := reachable.found device (attached ▸ mem)
    apply Nat.lt_of_not_le
    intro refused
    rw [usbFindDevice, if_pos refused] at found
    cases found
  · intro inRange
    refine ⟨fun device mem => ?_, fun device mem => ?_, ?_⟩
    · rw [attached] at mem
      obtain ⟨found, search, index⟩ := shows.search device.address
      rw [usbFindDevice, if_neg (Nat.not_le.mpr (inRange device mem)), search]
      cases found with
      | some slot => exact ⟨slot, rfl⟩
      | none =>
        have absent := List.findIdx?_eq_none_iff.mp index.symm device mem
        simp at absent
    · rw [attached] at mem
      obtain ⟨result, detached, code, -⟩ :=
        shows.detachDeviceWith .callbacks device.address []
      rw [usbListCall, if_pos ⟨inRange device mem, device, mem, rfl⟩] at code
      exact ⟨result, detached, UsbReply.code.inj code⟩
    · obtain ⟨world', ran, shows'⟩ :=
        usbTable_run_objects hw shows ((devices.map UsbDevice.address).map .detach)
      have same {δ : Type} (f : UsbDevice → δ) :
          ((devices.map UsbDevice.address).map UsbCallOn.detach).map (UsbCallOn.map f) =
            (devices.map UsbDevice.address).map UsbCallOn.detach := List.map_map
      rw [same, same, spec_detach_all inRange] at ran
      rw [same, spec_detach_all inRange] at shows'
      rw [shows.addresses]
      refine ⟨world', ran, BitVec.eq_of_toNat_eq ?_⟩
      rw [← shows'.length]
      rfl

/-- From an empty table, in every state of a run every device in the table can be found and
detached by its address, exactly when every attach call of the run that finds room brings an
address below `USB_MAX_DEVICES`. -/
theorem usbTable_reachable_iff (hw : Hardware σ) (driver : RtUsbDriver) (m : Machine σ)
    (calls : List UsbCall) :
    Calls.Always (usbTableCall hw) (DevicesReachable hw) (UsbWorld.empty driver m) calls ↔
      Calls.Everywhere (usbTableCall hw) AttachesInRange (UsbWorld.empty driver m) calls := by
  apply usbTable_always_iff AddressesInRange
  · exact fun _ _ shows => devicesReachable_iff hw shows
  · exact fun _ _ call shows inRange => usbListCall_inRange_iff shows inRange call
  · exact fun _ mem => absurd mem List.not_mem_nil

/-- A device with address 32 is taken into the table, and cannot be reached there. -/
theorem usbTable_unreachable_address :
    ¬ Calls.Always (usbTableCall silentHardware) (DevicesReachable silentHardware) sampleUsbWorld
      [.attach (.object (usbDeviceAt 32)) fun _ => 0] := by
  intro always
  have start : UsbShows sampleUsbWorld [] := usbShows_empty _ _
  obtain ⟨world, ran, shows⟩ := usbTable_run_objects silentHardware start
    [.attach (usbDeviceAt 32) fun _ => 0]
  have inRange := (devicesReachable_iff silentHardware shows).mp (always.last ran)
  have below := inRange _ List.mem_cons_self
  revert below
  decide

end LamaOS
