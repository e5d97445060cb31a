import LamaOS.Drivers.Acpi.AcpiEntries
import LamaOS.Misc.Checksum

/-!
# Corrupted tables

`ACPI_CheckTableChecksum` adds up as many bytes as the length field of the table says. While
this field is intact the test is a checksum over a list of bytes, and one changed byte among them
is always noticed; `ACPI_LoadTables` then refuses the root table.
-/

namespace LamaOS

/-- The bytes that `ACPI_CheckTableChecksum` adds up. -/
def acpiTableBytes (mem : AcpiMemory) (table : RtPtr) : List RtU8 :=
  mem.readBytes table (acpiTableLength mem table).toNat

/-- The memory with byte `i` of a table replaced. -/
def replaceTableByte (mem : AcpiMemory) (table : RtPtr) (i : Nat) (b : RtU8) : AcpiMemory :=
  Function.update mem (table + BitVec.ofNat 64 i) b

/-- The offset lies in the table, and not in its length field. -/
structure ReplaceableByte (mem : AcpiMemory) (table : RtPtr) (i : Nat) : Prop where
  inside : i < (acpiTableLength mem table).toNat
  notLength : i < 4 ∨ 8 ≤ i

variable {mem : AcpiMemory} {table : RtPtr} {i : Nat}

theorem acpiCheckTableChecksum_iff (mem : AcpiMemory) (table : RtPtr) :
    acpiCheckTableChecksum mem table = true ↔ byteSum (acpiTableBytes mem table) = 0 := by
  rw [acpiCheckTableChecksum, beq_iff_eq]
  rfl

theorem acpiCheckTableChecksum_eq_false_iff (mem : AcpiMemory) (table : RtPtr) :
    acpiCheckTableChecksum mem table = false ↔ byteSum (acpiTableBytes mem table) ≠ 0 := by
  rw [← Bool.not_eq_true, acpiCheckTableChecksum_iff]

/-! ## One byte of a table -/

/-- A table is smaller than the address space, so its offsets do not wrap. -/
theorem ReplaceableByte.small (replaceable : ReplaceableByte mem table i) : i < 2 ^ 64 := by
  have inside := replaceable.inside
  have length := (acpiTableLength mem table).isLt
  omega

theorem acpiTableLength_replace (replaceable : ReplaceableByte mem table i) (b : RtU8) :
    acpiTableLength (replaceTableByte mem table i b) table = acpiTableLength mem table :=
  Memory.read32_update mem table (n := 4) (by decide) replaceable.small replaceable.notLength b

/-- The bytes that are added up afterwards are the same but for the one. -/
theorem acpiTableBytes_replace (replaceable : ReplaceableByte mem table i) (b : RtU8) :
    acpiTableBytes (replaceTableByte mem table i b) table = (acpiTableBytes mem table).set i b := by
  have fits : (acpiTableLength mem table).toNat ≤ 2 ^ 64 := by
    have length := (acpiTableLength mem table).isLt
    omega
  rw [acpiTableBytes, acpiTableLength_replace replaceable]
  exact Memory.readBytes_update mem table fits replaceable.small b

/-- A byte with another value changes the sum. -/
theorem byteSum_replace_ne (replaceable : ReplaceableByte mem table i)
    (valid : acpiCheckTableChecksum mem table = true) {b : RtU8}
    (different : b ≠ mem (table + BitVec.ofNat 64 i)) :
    byteSum (acpiTableBytes (replaceTableByte mem table i b) table) ≠ 0 := by
  have inside : i < (acpiTableBytes mem table).length := by
    rw [acpiTableBytes, Memory.readBytes_length]
    exact replaceable.inside
  have here : (acpiTableBytes mem table)[i] = mem (table + BitVec.ofNat 64 i) :=
    Memory.readBytes_getElem mem table inside
  rw [acpiTableBytes_replace replaceable]
  apply byteSum_detectsOneChange 0 _ ((acpiCheckTableChecksum_iff mem table).mp valid) i inside
  rw [here]
  exact different

/-! ## The test -/

/-- A table that passes the checksum test, whatever its length, does not pass it with any one of
its bytes changed, those of the length field apart. -/
theorem acpiCheckTableChecksum_detects (mem : AcpiMemory) (table : RtPtr)
    (valid : acpiCheckTableChecksum mem table = true) (i : Nat)
    (inside : i < (acpiTableLength mem table).toNat) (notLength : i < 4 ∨ 8 ≤ i) (b : RtU8)
    (different : b ≠ mem (table + BitVec.ofNat 64 i)) :
    acpiCheckTableChecksum (Function.update mem (table + BitVec.ofNat 64 i) b) table = false := by
  have replaceable : ReplaceableByte mem table i := ⟨inside, notLength⟩
  rw [acpiCheckTableChecksum_eq_false_iff]
  exact byteSum_replace_ne replaceable valid different

/-- The table at `0x2000` with the first byte of its OEM id changed. -/
theorem acpiCheckTableChecksum_detects_sample :
    acpiCheckTableChecksum (Function.update (sampleTables 0x20) (0x2000 + BitVec.ofNat 64 10) 1)
      0x2000 = false :=
  acpiCheckTableChecksum_detects (sampleTables 0x20) 0x2000 (by decide) 10 (by decide)
    (.inr (by decide)) 1 (by decide)

/-- With one of its bytes changed, a root table that has been accepted is refused: if not for its
signature, for its checksum. -/
theorem acpiLoadTables_refuses_replaced {driver : RtAcpiDriver} (accepted : RootAccepted mem driver)
    (replaceable : ReplaceableByte mem (acpiRootAddress driver) i) {b : RtU8}
    (different : b ≠ mem (acpiRootAddress driver + BitVec.ofNat 64 i)) :
    acpiLoadTables (replaceTableByte mem (acpiRootAddress driver) i b) (some driver) =
      .ok ⟨.hardwareFault, some driver⟩ := by
  have refused : acpiCheckTableChecksum (replaceTableByte mem (acpiRootAddress driver) i b)
      (acpiRootAddress driver) = false := by
    rw [acpiCheckTableChecksum_eq_false_iff]
    exact byteSum_replace_ne replaceable accepted.checksum different
  rw [acpiLoadTables, if_neg (not_not.mpr accepted.initializing)]
  dsimp only
  rw [refused]
  split
  · rfl
  · rfl

end LamaOS
