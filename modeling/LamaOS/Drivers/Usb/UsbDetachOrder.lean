import LamaOS.Drivers.Usb.UsbAddresses

/-!
# Detaching in either order

A detach takes the first device with its address from the list and closes the gap. Where the
device of another address stands does not matter to it, so two detaches with different
addresses can be made in either order: on the list, and by what the table shows of it.
-/

namespace LamaOS

variable {devices : List UsbDevice} {a b : RtU8}

/-! ## The list -/

/-- The list holds a device that can be detached by this address. -/
def Detachable (devices : List UsbDevice) (address : RtU8) : Prop :=
  address.toNat < usbMaxDevices ∧ ∃ device ∈ devices, device.address = address

theorem usbListCall_detachable (found : Detachable devices a) :
    usbListCall devices (.detach a) = (devices.eraseP (·.address == a), .code .success) :=
  if_pos found

theorem usbListCall_undetachable (missing : ¬ Detachable devices a) :
    usbListCall devices (.detach a) = (devices, .code .invalidParameter) :=
  if_neg missing

/-- What is at one address can be detached after a detach at another as before it. -/
theorem detachable_detach_iff (different : a ≠ b) :
    Detachable (usbListCall devices (.detach a)).1 b ↔ Detachable devices b := by
  by_cases found : Detachable devices a
  · rw [usbListCall_detachable found]
    have kept : ∀ device : UsbDevice, device.address = b →
        (device ∈ devices.eraseP (·.address == a) ↔ device ∈ devices) := by
      intro device here
      apply List.mem_eraseP_of_neg
      intro same
      exact different ((beq_iff_eq.mp same).symm.trans here)
    apply and_congr_right
    intro _
    constructor
    · rintro ⟨device, mem, here⟩
      exact ⟨device, (kept device here).mp mem, here⟩
    · rintro ⟨device, mem, here⟩
      exact ⟨device, (kept device here).mpr mem, here⟩
  · rw [usbListCall_undetachable found]

/-- A detach is answered in the same way after one at another address. -/
theorem usbListCall_detach_reply (different : a ≠ b) :
    (usbListCall (usbListCall devices (.detach a)).1 (.detach b)).2 =
      (usbListCall devices (.detach b)).2 := by
  by_cases found : Detachable devices b
  · rw [usbListCall_detachable ((detachable_detach_iff different).mpr found),
      usbListCall_detachable found]
  · have missing := mt (detachable_detach_iff different).mp found
    rw [usbListCall_undetachable missing, usbListCall_undetachable found]

/-- Two detaches at different addresses leave the same list in either order. -/
theorem usbListCall_detach_comm (different : a ≠ b) :
    (usbListCall (usbListCall devices (.detach a)).1 (.detach b)).1 =
      (usbListCall (usbListCall devices (.detach b)).1 (.detach a)).1 := by
  have laterB : Detachable (usbListCall devices (.detach a)).1 b ↔ Detachable devices b :=
    detachable_detach_iff different
  have laterA : Detachable (usbListCall devices (.detach b)).1 a ↔ Detachable devices a :=
    detachable_detach_iff different.symm
  by_cases foundA : Detachable devices a
  · by_cases foundB : Detachable devices b
    · rw [usbListCall_detachable (laterB.mpr foundB), usbListCall_detachable (laterA.mpr foundA),
        usbListCall_detachable foundA, usbListCall_detachable foundB]
      apply List.eraseP_comm
      intro device _
      by_cases atA : device.address = a
      · right
        intro atB
        exact different (atA.symm.trans (beq_iff_eq.mp atB))
      · left
        intro same
        exact atA (beq_iff_eq.mp same)
    · rw [usbListCall_undetachable (mt laterB.mp foundB), usbListCall_undetachable foundB]
  · rw [usbListCall_undetachable foundA, usbListCall_undetachable (mt laterA.mp foundA)]

/-! ## The table -/

/-- Two detaches with different addresses, on any table whose count is in range, are carried
out in either order: each is answered in the same way, and the devices and their number are
the same in the end. -/
theorem usbDetachDevice_comm {σ : Type} (hw : Hardware σ) (world : UsbWorld σ) (a b : RtU8)
    (bounded : world.driver.numDevices.toNat ≤ usbMaxDevices) (different : a ≠ b) :
    ∃ replyA replyB forward backward,
      Calls.run (usbTableCall hw) world [.detach a, .detach b] =
          .ok (forward, [replyA, replyB]) ∧
        Calls.run (usbTableCall hw) world [.detach b, .detach a] =
          .ok (backward, [replyB, replyA]) ∧
        forward.driver.attached = backward.driver.attached ∧
        forward.driver.numDevices = backward.driver.numDevices := by
  have shows : UsbShows world world.driver.attached := ⟨rfl, bounded⟩
  rcases usbTable_run_objects hw shows [.detach a, .detach b] with ⟨forward, ran, left⟩
  rcases usbTable_run_objects hw shows [.detach b, .detach a] with ⟨backward, ran', left'⟩
  simp only [List.map, UsbCallOn.map, Calls.spec] at ran ran' left left'
  rw [usbListCall_detach_reply different] at ran
  rw [usbListCall_detach_reply different.symm] at ran'
  rw [usbListCall_detach_comm different] at left
  refine ⟨_, _, forward, backward, ran, ran', left.attached.trans left'.attached.symm, ?_⟩
  apply BitVec.eq_of_toNat_eq
  rw [← left.length, left'.length]

/-- A table in which two devices share the address 1, with one of address 2 between them. -/
def sharedAddressWorld : UsbWorld Unit :=
  let devices := Vector.ofFn fun i => usbDeviceAt (if i.val = 1 then 2 else 1)
  ⟨{ (default : RtUsbDriver) with devices, numDevices := 3 }, ⟨ioTablesInit, (), []⟩⟩

/-- The first of the shared addresses and the one behind it are taken in either order. -/
theorem usbDetachDevice_comm_shared :
    (1 : RtU8) ≠ 2 ∧ ∃ replyA replyB forward backward,
      Calls.run (usbTableCall silentHardware) sharedAddressWorld [.detach 1, .detach 2] =
          .ok (forward, [replyA, replyB]) ∧
        Calls.run (usbTableCall silentHardware) sharedAddressWorld [.detach 2, .detach 1] =
          .ok (backward, [replyB, replyA]) ∧
        forward.driver.attached = backward.driver.attached ∧
        forward.driver.numDevices = backward.driver.numDevices := by
  have different : (1 : RtU8) ≠ 2 := by decide
  exact ⟨different, usbDetachDevice_comm silentHardware sharedAddressWorld 1 2
    (show 3 ≤ usbMaxDevices by decide) different⟩

end LamaOS
