import LamaOS.Drivers.Network.NetworkDriver
import LamaOS.Misc.Calls

/-!
# The network device table as a list that only grows

What the table is for: a list of at most `NET_MAX_DEVICES` devices with a MAC and an IP address
each, to which one can be appended and in which the first one with a MAC address can be looked
up. Over runs of any calls the driver does exactly this. As no device is ever taken out, what
was found once is found ever after; but a device may be added under a MAC address that another
one has already, and it is then the other one that is found.
-/

namespace LamaOS

/-- A call of a function of the driver, apart from its driver argument. The memory of a receive
call is the one the packet is copied from. -/
inductive NetworkOperation where
  | init
  | addDevice (device : Option NetworkDevice)
  | findDevice (macAddress : Option (Vector RtU8 netMacAddrLen))
  | sendPacket (destinationMac : Option (Vector RtU8 netMacAddrLen))
      (packet : Option (RtPtr × EthernetPacket))
  | receivePacket (mem : NetworkMemory) (packet : Option EthernetPacket)

/-- A call with its driver argument, which is the driver or `NULL`. -/
structure NetworkCall where
  onDriver : Bool
  operation : NetworkOperation

/-- The answer to a call: a return code, or the slot behind the returned pointer. -/
inductive NetworkReply where
  | code (code : RtErrorCode)
  | slot (slot : Option RtU8)
  deriving DecidableEq, Repr

/-- A driver and the machine it runs on. -/
structure NetworkWorld (σ : Type) where
  driver : RtNetworkDriver
  machine : Machine σ

/-- `devices[0..num_devices)`. -/
def RtNetworkDriver.attached (driver : RtNetworkDriver) : List NetworkDevice :=
  SlotTable.used driver.devices driver.numDevices.toNat

/-- Some byte is not zero. -/
def HasNonZero {n : Nat} (bytes : Vector RtU8 n) : Prop := ∃ i : Fin n, bytes.get i ≠ 0

instance {n : Nat} (bytes : Vector RtU8 n) : Decidable (HasNonZero bytes) :=
  inferInstanceAs (Decidable (∃ i : Fin n, bytes.get i ≠ 0))

theorem networkIsValidAddress_iff {n : Nat} (bytes : Vector RtU8 n) :
    networkIsValidAddress (some bytes) = true ↔ HasNonZero bytes := by
  simp only [networkIsValidAddress, Option.elim_some, Vector.any_eq_true, HasNonZero]
  constructor
  · rintro ⟨i, below, here⟩
    exact ⟨⟨i, below⟩, of_decide_eq_true here⟩
  · rintro ⟨i, here⟩
    exact ⟨i.val, i.isLt, decide_eq_true here⟩

/-- The device has a MAC and an IP address. -/
def Addressed (device : NetworkDevice) : Prop :=
  HasNonZero device.macAddress ∧ HasNonZero device.ipAddress

instance (device : NetworkDevice) : Decidable (Addressed device) :=
  inferInstanceAs (Decidable (HasNonZero device.macAddress ∧ HasNonZero device.ipAddress))

/-- The list of attached devices after a call. -/
def networkListAfter (devices : List NetworkDevice) : NetworkCall → List NetworkDevice
  | ⟨true, .addDevice (some device)⟩ =>
    if devices.length < netMaxDevices ∧ Addressed device then devices ++ [device] else devices
  | _ => devices

section Calls

variable {σ : Type} (hw : Hardware σ)

/-- The driver after an operation, which the operation returns if it was given one. -/
def NetworkWorld.after (world : NetworkWorld σ) (result : NetworkResult σ) :
    NetworkWorld σ × NetworkReply :=
  (⟨result.driver.getD world.driver, result.machine⟩, .code result.code)

/-- The driver argument of a call. -/
def NetworkWorld.argument (world : NetworkWorld σ) (call : NetworkCall) :
    Option RtNetworkDriver :=
  if call.onDriver then some world.driver else none

/-- One call. -/
def networkCall (world : NetworkWorld σ) (call : NetworkCall) :
    Except MemoryFault (NetworkWorld σ × NetworkReply) :=
  match call.operation with
  | .init => .ok (world.after (networkInit (world.argument call) world.machine))
  | .addDevice device =>
    (networkAddDevice (world.argument call) device world.machine).map world.after
  | .findDevice macAddress =>
    (networkFindDevice (world.argument call) macAddress).map fun slot => (world, .slot slot)
  | .sendPacket destinationMac packet =>
    .ok (world.after
      (networkSendPacket hw (world.argument call) destinationMac packet world.machine))
  | .receivePacket mem packet =>
    .ok (world.after (networkReceivePacket hw mem (world.argument call) packet world.machine))

/-- The table shows the list, its count is in range, and its devices have their addresses. -/
structure NetworkShows (world : NetworkWorld σ) (devices : List NetworkDevice) : Prop where
  attached : world.driver.attached = devices
  bounded : world.driver.numDevices.toNat ≤ netMaxDevices
  addressed : ∀ device ∈ devices, Addressed device

/-- The slots and their count are the same. -/
def SameTable (driver driver' : RtNetworkDriver) : Prop :=
  driver'.devices = driver.devices ∧ driver'.numDevices = driver.numDevices

variable {hw} {world world' : NetworkWorld σ} {devices : List NetworkDevice}

theorem NetworkShows.length (shows : NetworkShows world devices) :
    devices.length = world.driver.numDevices.toNat := by
  rw [← shows.attached]
  exact SlotTable.used_length _ shows.bounded

theorem NetworkShows.of_same (shows : NetworkShows world devices)
    (same : SameTable world.driver world'.driver) : NetworkShows world' devices := by
  obtain ⟨slots, count⟩ := same
  constructor
  · rw [RtNetworkDriver.attached, slots, count]
    exact shows.attached
  · rw [count]
    exact shows.bounded
  · exact shows.addressed

/-- `Network_FindDevice` finds the lowest slot in use with the MAC address. -/
theorem NetworkShows.findDevice (shows : NetworkShows world devices)
    (macAddress : Vector RtU8 netMacAddrLen) :
    ∃ found, networkFindDevice (some world.driver) (some macAddress) = .ok found ∧
      found.map BitVec.toNat = devices.findIdx? fun device => device.macAddress == macAddress := by
  rw [← shows.attached]
  exact SlotTable.search_eq_findIdx? _ _ _ shows.bounded

/-- An add call that finds room for a device with its addresses appends it. -/
theorem networkCall_add (hw : Hardware σ) (shows : NetworkShows world devices)
    (device : NetworkDevice) (room : devices.length < netMaxDevices)
    (addressed : Addressed device) :
    ∃ world', networkCall hw world ⟨true, .addDevice (some device)⟩ =
        .ok (world', .code .success) ∧
      NetworkShows world' (devices ++ [device]) := by
  rw [shows.length] at room
  have count : (world.driver.numDevices + 1).toNat = world.driver.numDevices.toNat + 1 := by
    simp only [netMaxDevices] at room
    bv_omega
  have mac := (networkIsValidAddress_iff device.macAddress).mpr addressed.1
  have ip := (networkIsValidAddress_iff device.ipAddress).mpr addressed.2
  obtain ⟨slots, stored, content⟩ := SlotTable.store_append world.driver.devices device room
  simp only [networkCall, NetworkWorld.argument, if_true, networkAddDevice,
    Nat.not_le.mpr room, if_false, networkIsValidMac, networkIsValidIp, mac, ip, Bool.not_true,
    Bool.or_self, Bool.false_eq_true, stored, Except.map, NetworkWorld.after]
  refine ⟨_, rfl, ?_, ?_, ?_⟩
  · simp only [Option.getD_some, RtNetworkDriver.attached, count, content]
    rw [← shows.attached]
    rfl
  · simp only [Option.getD_some, count]
    exact room
  · intro other mem
    rcases List.mem_append.mp mem with earlier | now
    · exact shows.addressed other earlier
    · exact List.mem_singleton.mp now ▸ addressed

/-- Any other add call is refused. -/
theorem networkCall_add_refused (hw : Hardware σ) (shows : NetworkShows world devices)
    {device : NetworkDevice}
    (refused : ¬ (devices.length < netMaxDevices ∧ Addressed device)) :
    networkCall hw world ⟨true, .addDevice (some device)⟩ =
      .ok (world, .code .invalidParameter) := by
  rw [shows.length] at refused
  simp only [networkCall, NetworkWorld.argument, if_true, networkAddDevice]
  by_cases full : netMaxDevices ≤ world.driver.numDevices.toNat
  · rw [if_pos full]
    rfl
  · have missing : (!networkIsValidMac device.macAddress || !networkIsValidIp device.ipAddress) =
        true := by
      have either : ¬ Addressed device := fun addressed =>
        refused ⟨Nat.lt_of_not_le full, addressed⟩
      rw [Addressed, ← networkIsValidAddress_iff, ← networkIsValidAddress_iff] at either
      simpa [networkIsValidMac, networkIsValidIp, ← Bool.not_eq_true, imp_iff_not_or] using either
    rw [if_neg full, if_pos missing]
    rfl

/-- The call is one that hands a device to the driver. -/
def NetworkCall.Adds (call : NetworkCall) (device : NetworkDevice) : Prop :=
  call = ⟨true, .addDevice (some device)⟩

/-- A call on no driver does nothing. -/
theorem networkCall_noDriver (hw : Hardware σ) (world : NetworkWorld σ)
    (operation : NetworkOperation) :
    ∃ reply, networkCall hw world ⟨false, operation⟩ = .ok (world, reply) := by
  cases operation with
  | init => exact ⟨_, rfl⟩
  | addDevice device => exact ⟨_, rfl⟩
  | findDevice macAddress => exact ⟨_, rfl⟩
  | sendPacket destinationMac packet => exact ⟨_, rfl⟩
  | receivePacket mem packet => exact ⟨_, rfl⟩

theorem networkSendPacket_driver (hw : Hardware σ) (driver : RtNetworkDriver)
    (destinationMac : Option (Vector RtU8 netMacAddrLen))
    (packet : Option (RtPtr × EthernetPacket)) (m : Machine σ) :
    (networkSendPacket hw (some driver) destinationMac packet m).driver = some driver := by
  cases destinationMac with
  | none => rfl
  | some destinationMac =>
    cases packet with
    | none => rfl
    | some packet =>
      simp only [networkSendPacket, networkSendPacketVia]
      split <;> rfl

theorem networkReceivePacket_driver (hw : Hardware σ) (mem : NetworkMemory)
    (driver : RtNetworkDriver) (packet : Option EthernetPacket) (m : Machine σ) :
    (networkReceivePacket hw mem (some driver) packet m).driver = some driver := by
  cases packet with
  | none => rfl
  | some packet => rfl

/-- A call that hands no device to the driver leaves the table. -/
theorem networkCall_other (hw : Hardware σ) (shows : NetworkShows world devices)
    {call : NetworkCall} (other : ∀ device, ¬ call.Adds device) :
    ∃ world' reply, networkCall hw world call = .ok (world', reply) ∧
      SameTable world.driver world'.driver := by
  obtain ⟨onDriver, operation⟩ := call
  cases onDriver with
  | false =>
    obtain ⟨reply, done⟩ := networkCall_noDriver hw world operation
    exact ⟨world, reply, done, rfl, rfl⟩
  | true =>
    cases operation with
    | init => exact ⟨_, _, rfl, rfl, rfl⟩
    | addDevice device =>
      cases device with
      | none => exact ⟨_, _, rfl, rfl, rfl⟩
      | some device => exact absurd rfl (other device)
    | findDevice macAddress =>
      cases macAddress with
      | none => exact ⟨world, _, rfl, rfl, rfl⟩
      | some macAddress =>
        obtain ⟨found, search, -⟩ := shows.findDevice macAddress
        refine ⟨world, .slot found, ?_, rfl, rfl⟩
        simp only [networkCall, NetworkWorld.argument, if_true, search]
        rfl
    | sendPacket destinationMac packet =>
      refine ⟨_, _, rfl, ?_⟩
      simp only [NetworkWorld.argument, if_true, networkSendPacket_driver]
      exact ⟨rfl, rfl⟩
    | receivePacket mem packet =>
      refine ⟨_, _, rfl, ?_⟩
      simp only [NetworkWorld.argument, if_true, networkReceivePacket_driver]
      exact ⟨rfl, rfl⟩

theorem networkListAfter_other {call : NetworkCall} (other : ∀ device, ¬ call.Adds device) :
    networkListAfter devices call = devices := by
  unfold networkListAfter
  split
  · rename_i device
    exact absurd rfl (other device)
  · rfl

/-- Every call is carried out, and does to the table what it does to the list. -/
theorem networkCall_step (hw : Hardware σ) (shows : NetworkShows world devices)
    (call : NetworkCall) :
    ∃ world' reply, networkCall hw world call = .ok (world', reply) ∧
      NetworkShows world' (networkListAfter devices call) := by
  by_cases adds : ∃ device, call.Adds device
  · obtain ⟨device, rfl⟩ := adds
    by_cases taken : devices.length < netMaxDevices ∧ Addressed device
    · obtain ⟨world', done, shows'⟩ := networkCall_add hw shows _ taken.1 taken.2
      refine ⟨world', _, done, ?_⟩
      rw [networkListAfter, if_pos taken]
      exact shows'
    · refine ⟨world, _, networkCall_add_refused hw shows taken, ?_⟩
      rw [networkListAfter, if_neg taken]
      exact shows
  · have other : ∀ device, ¬ call.Adds device := not_exists.mp adds
    obtain ⟨world', reply, done, same⟩ := networkCall_other hw shows other
    refine ⟨world', reply, done, ?_⟩
    rw [networkListAfter_other other]
    exact shows.of_same same

/-- What a call does is what it does to the list. -/
theorem NetworkShows.step (shows : NetworkShows world devices) {call : NetworkCall}
    {reply : NetworkReply} (done : networkCall hw world call = .ok (world', reply)) :
    NetworkShows world' (networkListAfter devices call) := by
  obtain ⟨world'', reply', done', shows'⟩ := networkCall_step hw shows call
  obtain ⟨rfl, -⟩ := Calls.done_unique done done'
  exact shows'

theorem networkListAfter_grows (devices : List NetworkDevice) (call : NetworkCall) :
    devices <+: networkListAfter devices call := by
  unfold networkListAfter
  split
  · split
    · exact List.prefix_append _ _
    · exact List.prefix_refl _
  · exact List.prefix_refl _

/-- A run adds devices behind the ones of the table. -/
theorem NetworkShows.run (shows : NetworkShows world devices) {calls : List NetworkCall}
    {replies : List NetworkReply}
    (ran : Calls.run (networkCall hw) world calls = .ok (world', replies)) :
    ∃ devices', NetworkShows world' devices' ∧ devices <+: devices' := by
  induction calls generalizing world devices replies with
  | nil =>
    obtain ⟨rfl, -⟩ := Prod.mk.inj (Except.ok.inj ran)
    exact ⟨devices, shows, List.prefix_refl _⟩
  | cons call calls ih =>
    obtain ⟨next, reply, rest, done, later, -⟩ := Calls.run_cons ran
    obtain ⟨devices', shows', grown⟩ := ih (shows.step done) later
    exact ⟨devices', shows', (networkListAfter_grows devices call).trans grown⟩

/-- A device of the list stands in the slot of its index. -/
theorem NetworkShows.slot (shows : NetworkShows world devices) {i : Nat} {device : NetworkDevice}
    (here : devices[i]? = some device) : world.driver.devices[i]? = some device := by
  rw [← shows.attached, RtNetworkDriver.attached] at here
  exact (SlotTable.used_getElem?_eq_some here).2

/-- A device found in a slot is found there after every run. -/
theorem NetworkShows.find_stays (shows : NetworkShows world devices)
    {macAddress : Vector RtU8 netMacAddrLen} {slot : RtU8}
    (found : networkFindDevice (some world.driver) (some macAddress) = .ok (some slot))
    {calls : List NetworkCall} {replies : List NetworkReply}
    (ran : Calls.run (networkCall hw) world calls = .ok (world', replies)) :
    networkFindDevice (some world'.driver) (some macAddress) = .ok (some slot) ∧
      ∃ device, device.macAddress = macAddress ∧
        world.driver.devices[slot.toNat]? = some device ∧
        world'.driver.devices[slot.toNat]? = some device := by
  obtain ⟨devices', shows', grown⟩ := shows.run ran
  obtain ⟨first, search, index⟩ := shows.findDevice macAddress
  rw [found] at search
  obtain rfl := Except.ok.inj search
  obtain ⟨below, here, -⟩ := List.findIdx?_eq_some_iff_getElem.mp index.symm
  obtain ⟨index', same⟩ := SlotTable.findIdx?_of_prefix grown index.symm
  have there : devices[slot.toNat]? = some devices[slot.toNat] := List.getElem?_eq_getElem below
  rw [there] at same
  constructor
  · obtain ⟨found', search', again⟩ := shows'.findDevice macAddress
    rw [index'] at again
    rw [search']
    cases found' with
    | none => cases again
    | some slot' => rw [BitVec.eq_of_toNat_eq (Option.some.inj again)]
  · exact ⟨_, by simpa using here, shows.slot there, shows'.slot same⟩

/-- What holds of the table in every reachable state. -/
structure NetworkTableSound (hw : Hardware σ) (world : NetworkWorld σ) : Prop where
  bounded : world.driver.numDevices.toNat ≤ netMaxDevices
  addressed : ∀ device ∈ world.driver.attached, Addressed device
  add_success_iff : ∀ device world' reply,
    networkCall hw world ⟨true, .addDevice (some device)⟩ = .ok (world', reply) →
      (reply = .code .success ↔
        world.driver.numDevices.toNat < netMaxDevices ∧ Addressed device) ∧
      (reply = .code .success → world'.driver.attached = world.driver.attached ++ [device])
  add_null : ∀ onDriver device world' reply, onDriver = false ∨ device = none →
    networkCall hw world ⟨onDriver, .addDevice device⟩ = .ok (world', reply) →
      reply = .code .invalidParameter
  unchanged : ∀ call world' reply, networkCall hw world call = .ok (world', reply) →
    ¬ ((∃ device, call.Adds device) ∧ reply = .code .success) →
      SameTable world.driver world'.driver
  lowest : ∀ macAddress, ∃ found,
    networkFindDevice (some world.driver) (some macAddress) = .ok found ∧
      found.map BitVec.toNat =
        world.driver.attached.findIdx? fun device => device.macAddress == macAddress
  find_stays : ∀ macAddress slot calls world' replies,
    networkFindDevice (some world.driver) (some macAddress) = .ok (some slot) →
    Calls.run (networkCall hw) world calls = .ok (world', replies) →
      networkFindDevice (some world'.driver) (some macAddress) = .ok (some slot) ∧
        ∃ device, device.macAddress = macAddress ∧
          world.driver.devices[slot.toNat]? = some device ∧
          world'.driver.devices[slot.toNat]? = some device

theorem NetworkShows.sound (hw : Hardware σ) (shows : NetworkShows world devices) :
    NetworkTableSound hw world where
  bounded := shows.bounded
  addressed := by
    rw [shows.attached]
    exact shows.addressed
  add_success_iff := by
    intro device world' reply done
    rw [← shows.length]
    by_cases taken : devices.length < netMaxDevices ∧ Addressed device
    · obtain ⟨world'', done', shows'⟩ := networkCall_add hw shows _ taken.1 taken.2
      obtain ⟨rfl, rfl⟩ := Calls.done_unique done done'
      refine ⟨⟨fun _ => taken, fun _ => rfl⟩, fun _ => ?_⟩
      rw [shows'.attached, shows.attached]
    · rw [networkCall_add_refused hw shows taken] at done
      obtain ⟨-, rfl⟩ := Prod.mk.inj (Except.ok.inj done)
      refine ⟨⟨fun success => ?_, fun taken' => absurd taken' taken⟩, fun success => ?_⟩
      · cases success
      · cases success
  add_null := by
    intro onDriver device world' reply null done
    have refused : networkCall hw world ⟨onDriver, .addDevice device⟩ =
        .ok (world, .code .invalidParameter) := by
      rcases null with rfl | rfl
      · rfl
      · cases onDriver with
        | false => rfl
        | true => rfl
    exact (Calls.done_unique done refused).2
  unchanged := by
    intro call world' reply done failed
    by_cases adds : ∃ device, call.Adds device
    · obtain ⟨device, rfl⟩ := adds
      by_cases taken : devices.length < netMaxDevices ∧ Addressed device
      · obtain ⟨world'', done', -⟩ := networkCall_add hw shows _ taken.1 taken.2
        obtain ⟨-, rfl⟩ := Calls.done_unique done done'
        exact absurd ⟨⟨device, rfl⟩, rfl⟩ failed
      · rw [networkCall_add_refused hw shows taken] at done
        obtain ⟨rfl, -⟩ := Prod.mk.inj (Except.ok.inj done)
        exact ⟨rfl, rfl⟩
    · obtain ⟨world'', reply', done', same⟩ := networkCall_other hw shows (not_exists.mp adds)
      obtain ⟨rfl, -⟩ := Calls.done_unique done done'
      exact same
  lowest := by
    rw [shows.attached]
    exact shows.findDevice
  find_stays := by
    intro macAddress slot calls world' replies found ran
    exact shows.find_stays found ran

/-- A driver without devices. -/
def NetworkWorld.empty (driver : RtNetworkDriver) (m : Machine σ) : NetworkWorld σ :=
  ⟨{ driver with numDevices := 0 }, m⟩

theorem networkShows_empty (driver : RtNetworkDriver) (m : Machine σ) :
    NetworkShows (NetworkWorld.empty driver m) [] :=
  ⟨rfl, Nat.zero_le _, fun _ mem => absurd mem List.not_mem_nil⟩

/-- The network device table is a bounded list of valid devices that only grows: over every run
of calls with any arguments from an empty table no call faults, and every state is sound. -/
theorem networkTable_appends (hw : Hardware σ) (driver : RtNetworkDriver) (m : Machine σ)
    (calls : List NetworkCall) :
    Calls.Always (networkCall hw) (NetworkTableSound hw) (NetworkWorld.empty driver m) calls ∧
      ∃ world replies,
        Calls.run (networkCall hw) (NetworkWorld.empty driver m) calls = .ok (world, replies) := by
  have start : ∃ devices, NetworkShows (NetworkWorld.empty driver m) devices :=
    ⟨[], networkShows_empty driver m⟩
  have total := Calls.run_total
    (fun world call (reached : ∃ devices, NetworkShows world devices) => by
      obtain ⟨devices, shows⟩ := reached
      obtain ⟨world', reply, done, shows'⟩ := networkCall_step hw shows call
      exact ⟨world', reply, done, _, shows'⟩) start calls
  refine ⟨total.1.imp fun world reached => ?_, total.2⟩
  obtain ⟨devices, shows⟩ := reached
  exact shows.sound hw

/-! ## Devices with the same MAC address -/

/-- No two devices in the table have the same MAC address. -/
def DistinctMacs (world : NetworkWorld σ) : Prop :=
  (world.driver.attached.map NetworkDevice.macAddress).Nodup

/-- A device that the call adds to the table brings a MAC address that none there has. -/
def AddsFresh (world : NetworkWorld σ) (call : NetworkCall) : Prop :=
  ∀ device, call.Adds device → world.driver.numDevices.toNat < netMaxDevices →
    Addressed device → device.macAddress ∉ world.driver.attached.map NetworkDevice.macAddress

/-- From distinct MAC addresses a call leads to distinct ones exactly when it adds a fresh one
or none. -/
theorem networkListAfter_nodup_iff (shows : NetworkShows world devices)
    (distinct : (devices.map NetworkDevice.macAddress).Nodup) (call : NetworkCall) :
    ((networkListAfter devices call).map NetworkDevice.macAddress).Nodup ↔
      AddsFresh world call := by
  rw [AddsFresh, shows.attached, ← shows.length]
  by_cases adds : ∃ device, call.Adds device
  · obtain ⟨device, rfl⟩ := adds
    rw [networkListAfter]
    by_cases taken : devices.length < netMaxDevices ∧ Addressed device
    · rw [if_pos taken, List.map_append, List.nodup_append]
      constructor
      · rintro ⟨-, -, apart⟩ other same _ _ known
        obtain rfl : device = other := by simpa [NetworkCall.Adds] using same
        exact apart _ known _ (List.mem_singleton_self _) rfl
      · intro fresh
        refine ⟨distinct, by simp, fun a known b new same => ?_⟩
        rw [List.map_singleton, List.mem_singleton] at new
        obtain rfl : a = device.macAddress := same.trans new
        exact fresh device rfl taken.1 taken.2 known
    · rw [if_neg taken]
      refine ⟨fun _ other same room addressed => ?_, fun _ => distinct⟩
      obtain rfl : device = other := by simpa [NetworkCall.Adds] using same
      exact absurd ⟨room, addressed⟩ taken
  · rw [networkListAfter_other (not_exists.mp adds)]
    exact ⟨fun _ device adds' => absurd ⟨device, adds'⟩ adds, fun _ => distinct⟩

/-- The MAC addresses in the table are distinct all along a run exactly when every device that
is added brings a fresh one. -/
theorem networkTable_distinct_iff (hw : Hardware σ) (driver : RtNetworkDriver) (m : Machine σ)
    (calls : List NetworkCall) :
    Calls.Always (networkCall hw) DistinctMacs (NetworkWorld.empty driver m) calls ↔
      Calls.Everywhere (networkCall hw) AddsFresh (NetworkWorld.empty driver m) calls := by
  have start := networkShows_empty driver m
  refine Calls.always_iff (fun world => NetworkShows world world.driver.attached) ?_ ?_
    (start.attached ▸ start) List.nodup_nil calls
  · intro world call world' reply shows distinct fresh done
    have shows' := shows.step done
    refine ⟨shows'.attached ▸ shows', ?_⟩
    rw [DistinctMacs, shows'.attached]
    exact (networkListAfter_nodup_iff shows distinct call).mpr fresh
  · intro world call shows distinct stale
    obtain ⟨world', reply, done, shows'⟩ := networkCall_step hw shows call
    refine ⟨world', reply, done, fun distinct' => stale ?_⟩
    rw [DistinctMacs, shows'.attached] at distinct'
    exact (networkListAfter_nodup_iff shows distinct call).mp distinct'

/-- A MAC address of the list is found, at the first device that has it. -/
theorem NetworkShows.found (shows : NetworkShows world devices) {device : NetworkDevice}
    {macAddress : Vector RtU8 netMacAddrLen}
    (first : devices.find? (fun device => device.macAddress == macAddress) = some device) :
    ∃ slot, networkFindDevice (some world.driver) (some macAddress) = .ok (some slot) ∧
      world.driver.devices[slot.toNat]? = some device := by
  obtain ⟨found, search, index⟩ := shows.findDevice macAddress
  rw [List.find?_eq_bind_findIdx?_getElem?, ← index] at first
  cases found with
  | none => cases first
  | some slot => exact ⟨slot, search, shows.slot first⟩

/-- What is found for the MAC address of a device that was added, in the state after and in
every later one: the device of the table that had it first. That is the device itself exactly
if none in the table had its MAC address, or the first one that had it was equal to it. And no
two devices share one in any state of a run exactly if each device that is added is fresh. -/
theorem networkAdded_found (hw : Hardware σ) (driver : RtNetworkDriver) (m : Machine σ) :
    (∀ before later world next world' replies replies' device,
      Calls.run (networkCall hw) (NetworkWorld.empty driver m) before = .ok (world, replies) →
      networkCall hw world ⟨true, .addDevice (some device)⟩ = .ok (next, .code .success) →
      Calls.run (networkCall hw) next later = .ok (world', replies') →
      ∃ slot entry,
        networkFindDevice (some world'.driver) (some device.macAddress) = .ok (some slot) ∧
        world'.driver.devices[slot.toNat]? = some entry ∧
        entry.macAddress = device.macAddress ∧
        (entry = device ↔ ∀ other, world.driver.attached.find?
          (fun other => other.macAddress == device.macAddress) = some other → other = device)) ∧
    ∀ calls, Calls.Always (networkCall hw) DistinctMacs (NetworkWorld.empty driver m) calls ↔
      Calls.Everywhere (networkCall hw) AddsFresh (NetworkWorld.empty driver m) calls := by
  refine ⟨?_, networkTable_distinct_iff hw driver m⟩
  intro before later world next world' replies replies' device ran added ran'
  obtain ⟨devices, shows, -⟩ := (networkShows_empty driver m).run ran
  obtain ⟨success, appended⟩ := (shows.sound hw).add_success_iff device next _ added
  have shows' : NetworkShows next (devices ++ [device]) := by
    have stepped := shows.step added
    rw [← shows.attached, ← appended rfl, stepped.attached]
    exact stepped
  obtain ⟨devices', shows'', added', rfl⟩ := shows'.run ran'
  rw [shows.attached]
  cases first : devices.find? fun other => other.macAddress == device.macAddress with
  | none =>
    have found : (devices ++ [device] ++ added').find?
        (fun other => other.macAddress == device.macAddress) = some device := by
      simp [List.find?_append, first]
    obtain ⟨slot, search, here⟩ := shows''.found found
    exact ⟨slot, device, search, here, rfl, fun _ _ none => absurd none nofun, fun _ => rfl⟩
  | some other =>
    have found : (devices ++ [device] ++ added').find?
        (fun other => other.macAddress == device.macAddress) = some other := by
      simp [List.find?_append, first]
    have mac : other.macAddress = device.macAddress := by
      simpa using List.find?_some first
    obtain ⟨slot, search, here⟩ := shows''.found found
    refine ⟨slot, other, search, here, mac, ?_, fun same => same other rfl⟩
    intro same other' isOther
    rw [← Option.some.inj isOther]
    exact same

/-- A device with a MAC and an IP address that end in these bytes. -/
def networkDeviceAt (mac host : RtU8) : NetworkDevice :=
  { (default : NetworkDevice) with
    macAddress := #v[2, 0, 0, 0, 0, mac]
    ipAddress := #v[10, 0, 0, host] }

/-- Of two devices with different MAC addresses the second one is found by its own. -/
theorem networkAdded_found_second :
    ∃ (world' : NetworkWorld Unit) (slot : RtU8) (entry : NetworkDevice),
      networkFindDevice (some world'.driver) (some (networkDeviceAt 2 2).macAddress) =
        .ok (some slot) ∧
      world'.driver.devices[slot.toNat]? = some entry ∧ entry = networkDeviceAt 2 2 := by
  have start := networkShows_empty default (⟨ioTablesInit, (), []⟩ : Machine Unit)
  obtain ⟨world, first, shows⟩ :=
    networkCall_add silentHardware start (networkDeviceAt 1 1) (by decide) (by decide)
  obtain ⟨next, second, shows'⟩ :=
    networkCall_add silentHardware shows (networkDeviceAt 2 2) (by decide) (by decide)
  have ran : Calls.run (networkCall silentHardware)
      (NetworkWorld.empty default ⟨ioTablesInit, (), []⟩)
      [⟨true, .addDevice (some (networkDeviceAt 1 1))⟩] = .ok (world, [.code .success]) := by
    rw [Calls.run, first]
    rfl
  obtain ⟨slot, entry, found, here, -, same⟩ :=
    (networkAdded_found silentHardware default _).1 _ [⟨true, .init⟩] world next _ _ _
      (networkDeviceAt 2 2) ran second rfl
  refine ⟨_, slot, entry, found, here, same.mpr ?_⟩
  rw [shows.attached]
  decide

/-- A device is added under the MAC address of another one, and the other one is found. -/
theorem networkAdded_other_found :
    ∃ (world next : NetworkWorld Unit) (slot : RtU8) (entry : NetworkDevice),
      Calls.run (networkCall silentHardware)
          (NetworkWorld.empty default ⟨ioTablesInit, (), []⟩)
          [⟨true, .addDevice (some (networkDeviceAt 1 1))⟩] = .ok (world, [.code .success]) ∧
      networkCall silentHardware world ⟨true, .addDevice (some (networkDeviceAt 1 2))⟩ =
        .ok (next, .code .success) ∧
      networkFindDevice (some next.driver) (some (networkDeviceAt 1 2).macAddress) =
        .ok (some slot) ∧
      next.driver.devices[slot.toNat]? = some entry ∧ entry ≠ networkDeviceAt 1 2 := by
  have start := networkShows_empty default (⟨ioTablesInit, (), []⟩ : Machine Unit)
  obtain ⟨world, first, shows⟩ :=
    networkCall_add silentHardware start (networkDeviceAt 1 1) (by decide) (by decide)
  obtain ⟨next, second, shows'⟩ :=
    networkCall_add silentHardware shows (networkDeviceAt 1 2) (by decide) (by decide)
  have earlier : ([] ++ [networkDeviceAt 1 1] ++ [networkDeviceAt 1 2]).find?
      (fun device => device.macAddress == (networkDeviceAt 1 2).macAddress) =
        some (networkDeviceAt 1 1) := by
    decide
  obtain ⟨slot, found, here⟩ := shows'.found earlier
  refine ⟨world, next, slot, _, ?_, second, found, here, by decide⟩
  rw [Calls.run, first]
  rfl

end Calls

end LamaOS
