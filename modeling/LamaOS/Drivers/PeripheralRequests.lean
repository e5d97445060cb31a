import LamaOS.Drivers.DriverSystem
import LamaOS.Drivers.Usb.UsbRequests
import LamaOS.Misc.Forms

/-!
# What the USB and the network driver ask of their controllers

Every request is a few accesses, and the two drivers write to some of the same registers. None of
the accesses is let through, but all are on record; and the record tells the requests apart when
it is read from its end, since the last access of a request tells how many belong to it. Read from
the front it would not: a descriptor request with the packet behind it begins as a transfer does.
-/

namespace LamaOS

/-- The record of a write that was refused. -/
def refusedOut (width : Nat) (port : RtIoPort) (value : BitVec width) : IoAccess :=
  ⟨.output, width, port, value.toNat, false⟩

/-- The record of a read that was refused. -/
def refusedIn (width : Nat) (port : RtIoPort) : IoAccess := ⟨.input, width, port, 0, false⟩

/-- A request, with what is left of its arguments in the accesses that make it. -/
inductive PeripheralRequest where
  | usbReset
  | usbDescriptor
  | usbTransfer (direction : UsbDirection) (endpoint : BitVec 4) (length buffer : RtU32)
  | networkSend (packet : RtU32) (length : RtU16)
  | networkReceive
  deriving DecidableEq, Repr

namespace PeripheralRequest

/-- The accesses that make a request, in their order. -/
def accesses : PeripheralRequest → List IoAccess
  | .usbReset => [refusedOut 16 0xCF8 0x1004, refusedOut 16 0xCFC 0x0001]
  | .usbDescriptor => [refusedOut 8 0xCF8 0x00, refusedOut 16 0xCFC 0x0001]
  | .usbTransfer direction endpoint length buffer =>
    [refusedOut 8 0xCF8 (endpoint.setWidth 8 <<< 4), refusedOut 16 0xCFC direction.command,
      refusedOut 32 0xE000 length, refusedOut 32 0xE004 buffer]
  | .networkSend packet length =>
    [refusedOut 32 0xE000 packet, refusedOut 32 0xE004 (length.setWidth 32),
      refusedOut 8 0xE008 0x01]
  | .networkReceive => [refusedIn 32 0xE004, refusedIn 32 0xE000]

/-- How many accesses a request has, by its last one. -/
def size (last : IoAccess) : Nat :=
  if last.port = 0xE008 then 3 else if last.port = 0xE004 then 4 else 2

/-- What accesses, the last one first, seem to request. -/
def guess : List IoAccess → Option PeripheralRequest
  | [last, first] =>
    some (if last.direction = .input then .networkReceive
      else if first.width = 16 then .usbReset else .usbDescriptor)
  | [_, length, packet] =>
    some (.networkSend (BitVec.ofNat 32 packet.value) (BitVec.ofNat 16 length.value))
  | [buffer, length, command, address] =>
    some (.usbTransfer (if command.value = 1 then .send else .receive)
      (BitVec.ofNat 4 (address.value / 16)) (BitVec.ofNat 32 length.value)
      (BitVec.ofNat 32 buffer.value))
  | _ => none

theorem size_last (request : PeripheralRequest) :
    ∃ last before, request.accesses.reverse = last :: before ∧
      size last = request.accesses.reverse.length := by
  cases request with
  | usbReset => exact ⟨_, _, rfl, rfl⟩
  | usbDescriptor => exact ⟨_, _, rfl, rfl⟩
  | usbTransfer direction endpoint length buffer => exact ⟨_, _, rfl, rfl⟩
  | networkSend packet length => exact ⟨_, _, rfl, rfl⟩
  | networkReceive => exact ⟨_, _, rfl, rfl⟩

theorem guess_accesses (request : PeripheralRequest) :
    guess request.accesses.reverse = some request := by
  cases request with
  | usbReset => rfl
  | usbDescriptor => rfl
  | usbTransfer direction endpoint length buffer =>
    have shifted : BitVec.ofNat 4 ((endpoint.setWidth 8 <<< 4).toNat / 16) = endpoint := by
      apply BitVec.eq_of_toNat_eq
      simp only [BitVec.toNat_ofNat, BitVec.toNat_shiftLeft, BitVec.toNat_setWidth,
        Nat.shiftLeft_eq]
      omega
    show some (usbTransfer _ _ _ _) = _
    simp only [refusedOut, shifted, BitVec.ofNat_toNat, BitVec.setWidth_eq]
    cases direction with
    | send => rfl
    | receive => rfl
  | networkSend packet length =>
    have narrowed : (length.setWidth 32).setWidth 16 = length :=
      BitVec.setWidth_setWidth_of_le length (by decide)
    show some (networkSend _ _) = _
    simp only [refusedOut, BitVec.ofNat_toNat, BitVec.setWidth_eq, narrowed]
  | networkReceive => rfl

/-- The form of a request in the record, from its end. -/
def form : Form IoAccess PeripheralRequest :=
  .block size guess (fun request => request.accesses.reverse) size_last guess_accesses

end PeripheralRequest

/-- The requests that a record of accesses tells, if it is made of requests. -/
def readRequests (log : List IoAccess) : Option (List PeripheralRequest) :=
  (PeripheralRequest.form.readAll log.reverse).map List.reverse

/-- A record reads as the requests that it is made of, and as no others. -/
theorem readRequests_iff {log : List IoAccess} {requests : List PeripheralRequest} :
    readRequests log = some requests ↔ log = requests.flatMap PeripheralRequest.accesses := by
  have visible (request : PeripheralRequest) : PeripheralRequest.form.write request ≠ [] := by
    obtain ⟨last, before, written, -⟩ := request.size_last
    show request.accesses.reverse ≠ []
    rw [written]
    exact List.cons_ne_nil last before
  have backwards (requests : List PeripheralRequest) :
      requests.reverse.flatMap PeripheralRequest.form.write =
        (requests.flatMap PeripheralRequest.accesses).reverse :=
    List.reverse_flatMap.symm
  have read (values : List PeripheralRequest) :
      PeripheralRequest.form.readAll log.reverse = some values ↔
        (∀ request ∈ values, PeripheralRequest.form.Good request) ∧
          log.reverse = values.flatMap PeripheralRequest.form.write :=
    PeripheralRequest.form.readAll_eq_some_iff visible
  rw [readRequests, Option.map_eq_some_iff]
  constructor
  · rintro ⟨values, reads, rfl⟩
    have written := ((read values).mp reads).2
    rw [← List.reverse_reverse values, backwards] at written
    exact List.reverse_injective written
  · rintro rfl
    refine ⟨requests.reverse, (read _).mpr ⟨fun _ _ => trivial, ?_⟩, List.reverse_reverse requests⟩
    exact (backwards requests).symm

end LamaOS
