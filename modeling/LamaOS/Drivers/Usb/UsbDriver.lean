import LamaOS.Drivers.Common.IoPort
import LamaOS.Misc.ByteMemory
import LamaOS.Misc.SlotTable

/-!
# USB driver

The functions of `drivers/usb/usb_driver.c`, over the port layer. The device object handed
to `USB_AttachDevice` belongs to the caller or is a slot of the driver's own table, where
writing to it changes the table; the memory at `0xE000` that its descriptor is copied from is
an argument of the call, since the controller may have filled it in. A pointer that
`USB_FindDevice` returns is the index of its slot. The callbacks are listeners: what they are
called with is returned, in call order.
-/

namespace LamaOS

/-- `USB_MAX_DEVICES`. -/
abbrev usbMaxDevices : Nat := 32

/-- `USB_MAX_ENDPOINTS`. -/
abbrev usbMaxEndpoints : Nat := 16

/-- `USB_MAX_INTERFACES`. -/
abbrev usbMaxInterfaces : Nat := 8

/-- `USB_DeviceType`. -/
inductive UsbDeviceType where
  | device
  | hub
  | host
  deriving DecidableEq, Repr, Inhabited

/-- `USB_Speed`. -/
inductive UsbSpeed where
  | low
  | full
  | high
  | super
  deriving DecidableEq, Repr, Inhabited

/-- `USB_DeviceDescriptor`. -/
structure UsbDeviceDescriptor where
  length : RtU8
  descriptorType : RtU8
  bcdUsb : RtU16
  deviceClass : RtU8
  deviceSubClass : RtU8
  deviceProtocol : RtU8
  maxPacketSize : RtU8
  vendorId : RtU16
  productId : RtU16
  deviceVersion : RtU16
  manufacturerIndex : RtU8
  productIndex : RtU8
  serialNumberIndex : RtU8
  numConfigurations : RtU8
  deriving DecidableEq, Repr, Inhabited

/-- `USB_ConfigDescriptor`. -/
structure UsbConfigDescriptor where
  length : RtU8
  descriptorType : RtU8
  totalLength : RtU16
  numInterfaces : RtU8
  configValue : RtU8
  configIndex : RtU8
  attributes : RtU8
  maxPower : RtU8
  deriving DecidableEq, Repr, Inhabited

/-- `USB_InterfaceDescriptor`. -/
structure UsbInterfaceDescriptor where
  length : RtU8
  descriptorType : RtU8
  interfaceNumber : RtU8
  alternateSetting : RtU8
  numEndpoints : RtU8
  interfaceClass : RtU8
  interfaceSubClass : RtU8
  interfaceProtocol : RtU8
  interfaceIndex : RtU8
  deriving DecidableEq, Repr, Inhabited

/-- `USB_EndpointDescriptor`. -/
structure UsbEndpointDescriptor where
  length : RtU8
  descriptorType : RtU8
  endpointAddress : RtU8
  attributes : RtU8
  maxPacketSize : RtU16
  interval : RtU8
  deriving DecidableEq, Repr, Inhabited

/-- `USB_Device`. -/
structure UsbDevice where
  deviceDesc : UsbDeviceDescriptor
  configDesc : UsbConfigDescriptor
  interfaceDesc : Vector UsbInterfaceDescriptor usbMaxInterfaces
  endpointDesc : Vector UsbEndpointDescriptor usbMaxEndpoints
  type : UsbDeviceType
  speed : UsbSpeed
  address : RtU8
  connected : Bool
  deriving DecidableEq, Repr, Inhabited

/-- The device with another descriptor. -/
def UsbDevice.described (device : UsbDevice) (deviceDesc : UsbDeviceDescriptor) : UsbDevice :=
  { device with deviceDesc }

@[simp] theorem UsbDevice.described_address (device : UsbDevice)
    (deviceDesc : UsbDeviceDescriptor) : (device.described deviceDesc).address = device.address :=
  rfl

/-- A `USB_Device *` that is not null: to an object of the caller's, or to one of the slots of
the driver, as `USB_FindDevice` hands them out. -/
inductive UsbDevicePtr where
  | object (device : UsbDevice)
  | slot (i : Fin usbMaxDevices)
  deriving DecidableEq, Repr

/-- `device->device_desc = deviceDesc`, where the object is the caller's. -/
def UsbDevicePtr.described (deviceDesc : UsbDeviceDescriptor) : UsbDevicePtr → UsbDevicePtr
  | .object device => .object (device.described deviceDesc)
  | .slot i => .slot i

/-- `RT_USBDriver`; the last two fields tell whether the callback pointers are set. -/
structure RtUsbDriver where
  base : RtDriver
  devices : Vector UsbDevice usbMaxDevices
  numDevices : RtU8
  onDeviceConnected : Bool
  onDeviceDisconnected : Bool
  deriving DecidableEq, Repr, Inhabited

namespace RtUsbDriver

/-- `devices[0..num_devices)`. -/
def attached (driver : RtUsbDriver) : List UsbDevice :=
  SlotTable.used driver.devices driver.numDevices.toNat

/-- `*device`. -/
def deviceAt (driver : RtUsbDriver) : UsbDevicePtr → UsbDevice
  | .object device => device
  | .slot i => driver.devices[i.val]

/-- `device->device_desc = deviceDesc`, where the object is a slot of the driver. -/
def describe (driver : RtUsbDriver) (device : UsbDevicePtr) (deviceDesc : UsbDeviceDescriptor) :
    RtUsbDriver :=
  { driver with
    devices := match device with
      | .object _ => driver.devices
      | .slot i => driver.devices.set i (driver.devices[i.val].described deviceDesc) }

/-- The object that a descriptor was written to is the one it was, with this descriptor. -/
theorem deviceAt_described (driver : RtUsbDriver) (device : UsbDevicePtr)
    (deviceDesc : UsbDeviceDescriptor) :
    (driver.describe device deviceDesc).deviceAt (device.described deviceDesc) =
      (driver.deviceAt device).described deviceDesc := by
  cases device with
  | object device => rfl
  | slot i => exact Vector.getElem_set_self ..

/-- The driver with a device in the slot behind the last one. -/
def append (driver : RtUsbDriver) (device : UsbDevice)
    (room : driver.numDevices.toNat < usbMaxDevices) : RtUsbDriver :=
  { driver with
    devices := driver.devices.set driver.numDevices.toNat device
    numDevices := driver.numDevices + 1 }

/-- What has been copied into the table is what the pointer shows, also where it points into the
table itself. -/
theorem deviceAt_append (driver : RtUsbDriver) (device : UsbDevicePtr)
    (deviceDesc : UsbDeviceDescriptor) (room : driver.numDevices.toNat < usbMaxDevices) :
    ((driver.describe device deviceDesc).append
        ((driver.deviceAt device).described deviceDesc) room).deviceAt
      (device.described deviceDesc) = (driver.deviceAt device).described deviceDesc := by
  cases device with
  | object device => rfl
  | slot i =>
    show (Vector.set _ driver.numDevices.toNat
        (driver.devices[i.val].described deviceDesc))[i.val] =
      driver.devices[i.val].described deviceDesc
    rw [Vector.getElem_set]
    split
    · rfl
    · exact Vector.getElem_set_self ..

end RtUsbDriver

/-- A call of one of the two callbacks. -/
inductive UsbCallback where
  | connected (device : UsbDevice)
  | disconnected (address : RtU8)
  deriving DecidableEq, Repr

/-- What looks on at an operation, on a state of its own: where `USB_ReadDeviceDescriptor` is
called, which is told the address argument, and where a callback is, which is shown the driver
as it is then. -/
structure UsbWatch (ω : Type) where
  read : RtU8 → ω → ω
  notify : RtUsbDriver → UsbCallback → ω → ω

/-- The calls of the callbacks, in their order. -/
def UsbWatch.callbacks : UsbWatch (List UsbCallback) :=
  ⟨fun _ calls => calls, fun _ callback calls => calls ++ [callback]⟩

/-- What an operation returns and leaves behind, also of what looks on. -/
structure UsbOutcome (σ ω : Type) where
  code : RtErrorCode
  driver : Option RtUsbDriver
  machine : Machine σ
  watched : ω

/-- What an operation returns and leaves behind, and the callbacks that were called. -/
abbrev UsbResult (σ : Type) := UsbOutcome σ (List UsbCallback)

abbrev UsbMemory := Memory 64

/-- The descriptor stored at `addr`. -/
def usbDescriptorAt (mem : UsbMemory) (addr : RtPtr) : UsbDeviceDescriptor where
  length := mem addr
  descriptorType := mem (addr + 1)
  bcdUsb := mem.read16 (addr + 2)
  deviceClass := mem (addr + 4)
  deviceSubClass := mem (addr + 5)
  deviceProtocol := mem (addr + 6)
  maxPacketSize := mem (addr + 7)
  vendorId := mem.read16 (addr + 8)
  productId := mem.read16 (addr + 10)
  deviceVersion := mem.read16 (addr + 12)
  manufacturerIndex := mem (addr + 14)
  productIndex := mem (addr + 15)
  serialNumberIndex := mem (addr + 16)
  numConfigurations := mem (addr + 17)

section Operations

variable {σ ω : Type} (hw : Hardware σ)

/-- `USB_ResetPort`. The first value does not fit the 16 bits of the access. -/
def usbResetPort (m : Machine σ) : RtErrorCode × Machine σ :=
  let m := ioOut16 hw 0xCF8 ((0x80001004 : RtU32).setWidth 16) m
  let m := ioOut16 hw 0xCFC 0x0001 m
  (.success, m)

/-- `USB_ReadDeviceDescriptor`, with what it leaves in `*desc`. -/
def usbReadDeviceDescriptor (mem : UsbMemory) (driver : Option RtUsbDriver) (address : RtU8)
    (desc : Option UsbDeviceDescriptor) (m : Machine σ) :
    RtErrorCode × Option UsbDeviceDescriptor × Machine σ :=
  if driver.isNone || desc.isNone then (.invalidParameter, desc, m)
  else
    let m := ioOut8 hw 0xCF8 ((0x80001000 ||| address.setWidth 32 <<< 8 : RtU32).setWidth 8) m
    let m := ioOut16 hw 0xCFC 0x0001 m
    (.success, some (usbDescriptorAt mem 0xE000), m)

/-- `USB_Init`. -/
def usbInit (driver : Option RtUsbDriver) (m : Machine σ) : UsbResult σ :=
  match driver with
  | none => ⟨.invalidParameter, none, m, []⟩
  | some driver =>
    let reset := usbResetPort hw m
    if reset.1 ≠ .success then ⟨reset.1, some driver, reset.2, []⟩
    else ⟨.success, some { driver with base.state := .ready }, reset.2, []⟩

/-- `USB_FindDevice`, as the index of the slot the returned pointer shows. -/
def usbFindDevice (driver : Option RtUsbDriver) (address : RtU8) :
    Except MemoryFault (Option RtU8) :=
  match driver with
  | none => .ok none
  | some driver =>
    if usbMaxDevices ≤ address.toNat then .ok none
    else SlotTable.search (fun device => device.address == address) driver.devices
      driver.numDevices 0

/-- `USB_AttachDevice`, with what looks on. The last value is the pointer with the caller's
object as it is left. -/
def usbAttachDeviceWith (watch : UsbWatch ω) (mem : UsbMemory) (driver : Option RtUsbDriver)
    (device : Option UsbDevicePtr) (m : Machine σ) (w : ω) :
    Except MemoryFault (UsbOutcome σ ω × Option UsbDevicePtr) :=
  match driver, device with
  | some driver, some device =>
    if usbMaxDevices ≤ driver.numDevices.toNat then
      .ok (⟨.invalidParameter, some driver, m, w⟩, some device)
    else
      let w := watch.read driver.numDevices w
      match usbReadDeviceDescriptor hw mem (some driver) driver.numDevices
          (some (driver.deviceAt device).deviceDesc) m with
      | (.success, some deviceDesc, m) =>
        let driver := driver.describe device deviceDesc
        let device := device.described deviceDesc
        (SlotTable.store driver.devices driver.numDevices.toNat (driver.deviceAt device)).map
          fun devices =>
            let driver := { driver with devices, numDevices := driver.numDevices + 1 }
            let w := if driver.onDeviceConnected then
                watch.notify driver (.connected (driver.deviceAt device)) w
              else w
            (⟨.success, some driver, m, w⟩, some device)
      | (err, _, m) => .ok (⟨err, some driver, m, w⟩, some device)
  | driver, device => .ok (⟨.invalidParameter, driver, m, w⟩, device)

/-- `USB_AttachDevice`. -/
def usbAttachDevice (mem : UsbMemory) (driver : Option RtUsbDriver)
    (device : Option UsbDevicePtr) (m : Machine σ) :
    Except MemoryFault (UsbResult σ × Option UsbDevicePtr) :=
  usbAttachDeviceWith hw .callbacks mem driver device m []

/-- `USB_DetachDevice`, with what looks on. -/
def usbDetachDeviceWith (watch : UsbWatch ω) (driver : Option RtUsbDriver) (address : RtU8)
    (m : Machine σ) (w : ω) : Except MemoryFault (UsbOutcome σ ω) :=
  match driver with
  | none => .ok ⟨.invalidParameter, none, m, w⟩
  | some driver =>
    if usbMaxDevices ≤ address.toNat then .ok ⟨.invalidParameter, some driver, m, w⟩
    else
      match SlotTable.search (fun device => device.address == address) driver.devices
          driver.numDevices 0 with
      | .error fault => .error fault
      | .ok none => .ok ⟨.invalidParameter, some driver, m, w⟩
      | .ok (some i) =>
        (SlotTable.move driver.devices i.toNat (i.toNat + 1)
          (driver.numDevices.toNat - i.toNat - 1)).map fun devices =>
            let driver := { driver with devices, numDevices := driver.numDevices - 1 }
            let w := if driver.onDeviceDisconnected then
                watch.notify driver (.disconnected address) w
              else w
            ⟨.success, some driver, m, w⟩

/-- `USB_DetachDevice`. -/
def usbDetachDevice (driver : Option RtUsbDriver) (address : RtU8) (m : Machine σ) :
    Except MemoryFault (UsbResult σ) :=
  usbDetachDeviceWith .callbacks driver address m []

/-- The request shared by `USB_SendData` and `USB_ReceiveData`; `command` is the word that
tells them apart. -/
def usbTransfer (command : RtU16) (driver : Option RtUsbDriver) (address endpoint : RtU8)
    (buffer : Option RtPtr) (length : RtU32) (m : Machine σ) : UsbResult σ :=
  match driver, buffer with
  | some driver, some buffer =>
    if length = 0 then ⟨.invalidParameter, some driver, m, []⟩
    else
      let request : RtU32 :=
        0x80001000 ||| address.setWidth 32 <<< 8 ||| endpoint.setWidth 32 <<< 4
      let m := ioOut8 hw 0xCF8 (request.setWidth 8) m
      let m := ioOut16 hw 0xCFC command m
      let m := ioOut32 hw 0xE000 length m
      let m := ioOut32 hw 0xE004 (buffer.setWidth 32) m
      ⟨.success, some driver, m, []⟩
  | driver, _ => ⟨.invalidParameter, driver, m, []⟩

/-- `USB_SendData`. -/
def usbSendData (driver : Option RtUsbDriver) (address endpoint : RtU8) (data : Option RtPtr)
    (length : RtU32) (m : Machine σ) : UsbResult σ :=
  usbTransfer hw 0x0001 driver address endpoint data length m

/-- `USB_ReceiveData`. -/
def usbReceiveData (driver : Option RtUsbDriver) (address endpoint : RtU8)
    (buffer : Option RtPtr) (length : RtU32) (m : Machine σ) : UsbResult σ :=
  usbTransfer hw 0x0002 driver address endpoint buffer length m

/-! ## What the table operations do -/

variable (watch : UsbWatch ω) (mem : UsbMemory)

theorem usbReadDeviceDescriptor_eq (driver : RtUsbDriver) (address : RtU8)
    (desc : UsbDeviceDescriptor) (m : Machine σ) :
    usbReadDeviceDescriptor hw mem (some driver) address (some desc) m =
      (.success, some (usbDescriptorAt mem 0xE000),
        ioOut16 hw 0xCFC 0x0001 (ioOut8 hw 0xCF8
          ((0x80001000 ||| address.setWidth 32 <<< 8 : RtU32).setWidth 8) m)) :=
  rfl

/-- On a full table nothing happens. -/
theorem usbAttachDeviceWith_full {driver : RtUsbDriver}
    (full : usbMaxDevices ≤ driver.numDevices.toNat) (device : UsbDevicePtr) (m : Machine σ)
    (w : ω) :
    usbAttachDeviceWith hw watch mem (some driver) (some device) m w =
      .ok (⟨.invalidParameter, some driver, m, w⟩, some device) := by
  simp [usbAttachDeviceWith, full]

/-- Where there is room, the object is given the descriptor and its copy goes into the table. -/
theorem usbAttachDeviceWith_room {driver : RtUsbDriver}
    (room : driver.numDevices.toNat < usbMaxDevices) (device : UsbDevicePtr) (m : Machine σ)
    (w : ω) :
    usbAttachDeviceWith hw watch mem (some driver) (some device) m w =
      let deviceDesc := usbDescriptorAt mem 0xE000
      let attached := (driver.deviceAt device).described deviceDesc
      let driver' := (driver.describe device deviceDesc).append attached room
      let w := watch.read driver.numDevices w
      .ok (⟨.success, some driver',
        (usbReadDeviceDescriptor hw mem (some driver) driver.numDevices
          (some (driver.deviceAt device).deviceDesc) m).2.2,
        if driver.onDeviceConnected then watch.notify driver' (.connected attached) w else w⟩,
        some (device.described deviceDesc)) := by
  have room' : (driver.describe device (usbDescriptorAt mem 0xE000)).numDevices.toNat <
      usbMaxDevices := room
  simp only [usbAttachDeviceWith, if_neg (Nat.not_le.mpr room), usbReadDeviceDescriptor_eq,
    RtUsbDriver.deviceAt_described, SlotTable.store]
  rw [dif_pos room']
  -- the callback is shown the device that has been copied
  let driver' := (driver.describe device (usbDescriptorAt mem 0xE000)).append
    ((driver.deviceAt device).described (usbDescriptorAt mem 0xE000)) room
  exact congrArg (fun shown => Except.ok (UsbOutcome.mk RtErrorCode.success (some driver') _
      (if driver.onDeviceConnected then watch.notify driver' (.connected shown) _ else _), _))
    (driver.deviceAt_append device (usbDescriptorAt mem 0xE000) room)

end Operations

end LamaOS
