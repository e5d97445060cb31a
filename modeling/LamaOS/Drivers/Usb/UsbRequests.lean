import LamaOS.Drivers.Usb.UsbDriver

/-!
# What the controller is told of a transfer

`USB_SendData` and `USB_ReceiveData` write a request in four accesses. The word with the
address and the endpoint goes through the 8-bit parameter of `IO_Out8`, the buffer pointer
through a cast to 32 bits: of two requests with the same endpoint, length and low half of the
pointer, the controller is told the same.
-/

namespace LamaOS

/-- The arguments of a transfer that the driver accepts, with an address and an endpoint in
their ranges. -/
@[ext] structure UsbRequest where
  address : RtU8
  endpoint : RtU8
  buffer : RtPtr
  length : RtU32
  address_lt : address.toNat < usbMaxDevices
  endpoint_lt : endpoint.toNat < usbMaxEndpoints
  buffer_ne : buffer ≠ 0
  length_ne : length ≠ 0

/-- The two kinds of transfer. -/
inductive UsbDirection where
  | send
  | receive
  deriving DecidableEq, Repr

/-- The word that is written to `0xCFC`. -/
def UsbDirection.command : UsbDirection → RtU16
  | .send => 0x0001
  | .receive => 0x0002

namespace UsbRequest

variable {σ : Type}

/-- The call that makes the request. -/
def perform (hw : Hardware σ) (direction : UsbDirection) (driver : RtUsbDriver)
    (request : UsbRequest) (m : Machine σ) : UsbResult σ :=
  match direction with
  | .send => usbSendData hw (some driver) request.address request.endpoint
      (some request.buffer) request.length m
  | .receive => usbReceiveData hw (some driver) request.address request.endpoint
      (some request.buffer) request.length m

/-- The ports and values that the call hands to the port layer, in their order. -/
def handed (hw : Hardware σ) (direction : UsbDirection) (driver : RtUsbDriver)
    (request : UsbRequest) (m : Machine σ) : List (RtIoPort × Nat) :=
  ((request.perform hw direction driver m).machine.log.drop m.log.length).map fun access =>
    (access.port, access.value)

/-- The low half of the buffer pointer, which is the part that is written. -/
def bufferLow (request : UsbRequest) : RtU32 := request.buffer.setWidth 32

/-! ## The four writes -/

theorem perform_eq (hw : Hardware σ) (direction : UsbDirection) (driver : RtUsbDriver)
    (request : UsbRequest) (m : Machine σ) :
    request.perform hw direction driver m =
      usbTransfer hw direction.command (some driver) request.address request.endpoint
        (some request.buffer) request.length m := by
  cases direction <;> rfl

/-- Of the word with the address and the endpoint, the 8 bits that are written hold the
endpoint only. -/
theorem addressWord_low (address endpoint : RtU8) :
    (0x80001000 ||| address.setWidth 32 <<< 8 ||| endpoint.setWidth 32 <<< 4 : RtU32).setWidth 8 =
      endpoint <<< 4 := by
  have constant : (Nat.cast 0x80001000 : RtU32).setWidth 8 = 0 := by decide
  have shiftedOut : (address.setWidth 32 <<< 8 : RtU32).setWidth 8 = 0 := by
    apply BitVec.eq_of_toNat_eq
    show _ = 0
    simp only [BitVec.toNat_setWidth, BitVec.toNat_shiftLeft, Nat.shiftLeft_eq]
    omega
  have kept : (endpoint.setWidth 32 <<< 4 : RtU32).setWidth 8 = endpoint <<< 4 := by
    apply BitVec.eq_of_toNat_eq
    simp only [BitVec.toNat_setWidth, BitVec.toNat_shiftLeft, Nat.shiftLeft_eq]
    omega
  rw [BitVec.setWidth_or, BitVec.setWidth_or, constant, shiftedOut, kept]
  exact BitVec.zero_or

theorem handed_eq (hw : Hardware σ) (direction : UsbDirection) (driver : RtUsbDriver)
    (request : UsbRequest) (m : Machine σ) :
    request.handed hw direction driver m =
      [((0xCF8 : RtIoPort), (request.endpoint <<< 4).toNat), (0xCFC, direction.command.toNat),
        (0xE000, request.length.toNat), (0xE004, request.bufferLow.toNat)] := by
  unfold handed
  rw [perform_eq, usbTransfer, if_neg request.length_ne]
  simp only [ioOut8, ioOut16, ioOut32, ioOut_log, ioOut_tables, addressWord_low,
    List.append_assoc, List.drop_left]
  rfl

/-- An endpoint in range keeps all its bits in the word that is written. -/
theorem endpoint_shift_inj {a b : RtU8} (below : a.toNat < usbMaxEndpoints)
    (below' : b.toNat < usbMaxEndpoints) (same : (a <<< 4).toNat = (b <<< 4).toNat) : a = b := by
  apply BitVec.eq_of_toNat_eq
  simp only [BitVec.toNat_shiftLeft, Nat.shiftLeft_eq] at same
  simp only [usbMaxEndpoints] at below below'
  omega

/-- Two requests are written alike exactly when they agree on the endpoint, the length and the
low half of the buffer pointer. -/
theorem handed_eq_iff (hw : Hardware σ) (direction : UsbDirection) (driver driver' : RtUsbDriver)
    (request request' : UsbRequest) (m m' : Machine σ) :
    request.handed hw direction driver m = request'.handed hw direction driver' m' ↔
      request.endpoint = request'.endpoint ∧ request.length = request'.length ∧
        request.bufferLow = request'.bufferLow := by
  rw [handed_eq, handed_eq]
  constructor
  · intro same
    simp only [List.cons.injEq, Prod.mk.injEq, true_and, and_true] at same
    rcases same with ⟨endpoint, length, buffer⟩
    exact ⟨endpoint_shift_inj request.endpoint_lt request'.endpoint_lt endpoint,
      BitVec.eq_of_toNat_eq length, BitVec.eq_of_toNat_eq buffer⟩
  · intro agree
    rcases agree with ⟨endpoint, length, buffer⟩
    rw [endpoint, length, buffer]

end UsbRequest

/-- Two transfers in one direction succeed, and what is written of them tells them apart
exactly when they are one request or differ in the endpoint, the length or the low half of the
buffer pointer. -/
theorem usbRequest_determined_iff {σ : Type} (hw : Hardware σ) (direction : UsbDirection)
    (driver driver' : RtUsbDriver) (request request' : UsbRequest) (m m' : Machine σ) :
    (request.perform hw direction driver m).code = .success ∧
      (request'.perform hw direction driver' m').code = .success ∧
      ((request ≠ request' →
          request.handed hw direction driver m ≠ request'.handed hw direction driver' m') ↔
        request = request' ∨ request.endpoint ≠ request'.endpoint ∨
          request.length ≠ request'.length ∨ request.bufferLow ≠ request'.bufferLow) := by
  have succeeds : ∀ (driver : RtUsbDriver) (request : UsbRequest) (m : Machine σ),
      (request.perform hw direction driver m).code = .success := by
    intro driver request m
    rw [UsbRequest.perform_eq, usbTransfer, if_neg request.length_ne]
  refine ⟨succeeds driver request m, succeeds driver' request' m', ?_⟩
  simp only [ne_eq, UsbRequest.handed_eq_iff, not_and_or, or_iff_not_imp_left]

/-- Two requests for endpoint 1 and 8 bytes at `0x2000` are written in the same way, though one
is for the device 2 and the other for the device 3. -/
theorem usbRequest_collide :
    ¬ ∀ request request' : UsbRequest, request ≠ request' →
      request.handed silentHardware .send default ⟨ioTablesInit, (), []⟩ ≠
        request'.handed silentHardware .send default ⟨ioTablesInit, (), []⟩ := by
  intro told
  let second : UsbRequest := ⟨2, 1, 0x2000, 8, by decide, by decide, by decide, by decide⟩
  let third : UsbRequest := ⟨3, 1, 0x2000, 8, by decide, by decide, by decide, by decide⟩
  have different : second ≠ third := by
    intro same
    exact absurd (congrArg UsbRequest.address same) (by decide)
  apply told second third different
  exact (UsbRequest.handed_eq_iff silentHardware .send default default second third _ _).mpr
    ⟨rfl, rfl, rfl⟩

end LamaOS
