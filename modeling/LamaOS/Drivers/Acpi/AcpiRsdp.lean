import LamaOS.Drivers.Acpi.AcpiEntries
import LamaOS.Drivers.Acpi.AcpiInit
import LamaOS.Misc.Checksum

/-!
# Finding the RSDP

`ACPI_FindRSDP` asks every candidate for the sum of all 36 bytes of an `ACPI_RSDP`. The
checksum of an ACPI 1.0 structure covers its first 20 bytes, and what follows them in memory
is not part of it. What the scan has found is stored before `ACPI_Init` knows that it will
succeed.
-/

namespace LamaOS

/-- The `k`-th address that the scan looks at. -/
def acpiCandidate (k : Nat) : RtPtr := acpiRsdpAddress + BitVec.ofNat 64 (16 * k)

/-- The scan comes to the `k`-th candidate and stops there. -/
structure FirstRsdp (mem : AcpiMemory) (k : Nat) : Prop where
  inWindow : 16 * k < 0xFFFFF
  rsdp : acpiIsRsdp mem (acpiCandidate k) = true
  first : ∀ j < k, acpiIsRsdp mem (acpiCandidate j) = false

variable {mem : AcpiMemory} {ref : AcpiRef} {s : AcpiObjects}

theorem FirstRsdp.unique {j k : Nat} (found : FirstRsdp mem j) (found' : FirstRsdp mem k) :
    j = k := by
  rcases Nat.lt_trichotomy j k with before | same | after
  · have passed := found.rsdp
    rw [found'.first j before] at passed
    cases passed
  · exact same
  · have passed := found'.rsdp
    rw [found.first k after] at passed
    cases passed

/-- Where one candidate passes the test there is a first one. -/
theorem exists_firstRsdp_le {k : Nat} (inWindow : 16 * k < 0xFFFFF)
    (rsdp : acpiIsRsdp mem (acpiCandidate k) = true) : ∃ j ≤ k, FirstRsdp mem j := by
  induction k using Nat.strongRecOn with
  | ind k ih =>
    by_cases earlier : ∃ j < k, acpiIsRsdp mem (acpiCandidate j) = true
    · rcases earlier with ⟨j, before, rsdp'⟩
      rcases ih j before (by omega) rsdp' with ⟨i, below, found⟩
      exact ⟨i, by omega, found⟩
    · refine ⟨k, Nat.le_refl k, inWindow, rsdp, ?_⟩
      intro j before
      exact Bool.eq_false_iff.mpr fun rsdp' => earlier ⟨j, before, rsdp'⟩

theorem acpiCandidate_lt_end_iff {k : Nat} (small : k ≤ 65536) :
    acpiCandidate k < acpiRsdpEnd ↔ 16 * k < 0xFFFFF := by
  have last : acpiRsdpEnd.toNat = 0xE0000 + 0xFFFFF := by decide
  have here : (acpiCandidate k).toNat = 0xE0000 + 16 * k := by
    simp only [acpiCandidate, acpiRsdpAddress]
    bv_omega
  rw [BitVec.lt_def, here, last]
  omega

theorem acpiCandidate_succ (k : Nat) : acpiCandidate k + 16 = acpiCandidate (k + 1) := by
  simp only [acpiCandidate, Nat.mul_succ, BitVec.ofNat_add, BitVec.add_assoc]
  rfl

/-- The scan from the `k`-th candidate on: the first one that passes the test, if there is
one. -/
theorem acpiFindRsdpFrom_candidate (mem : AcpiMemory) {k : Nat} (inside : k ≤ 65536) :
    (∃ j, k ≤ j ∧ 16 * j < 0xFFFFF ∧ acpiIsRsdp mem (acpiCandidate j) = true ∧
        (∀ i, k ≤ i → i < j → acpiIsRsdp mem (acpiCandidate i) = false) ∧
        acpiFindRsdpFrom mem (acpiCandidate k) = some (acpiCandidate j)) ∨
      ((∀ i, k ≤ i → 16 * i < 0xFFFFF → acpiIsRsdp mem (acpiCandidate i) = false) ∧
        acpiFindRsdpFrom mem (acpiCandidate k) = none) := by
  -- the induction is on the number of candidates that are left
  obtain ⟨left, total⟩ : ∃ left, k + left = 65536 := ⟨65536 - k, by omega⟩
  induction left generalizing k with
  | zero =>
    have outside : ¬ acpiCandidate k < acpiRsdpEnd := by
      rw [acpiCandidate_lt_end_iff inside]
      omega
    right
    rw [acpiFindRsdpFrom, if_neg outside]
    refine ⟨?_, rfl⟩
    intro i behind below
    omega
  | succ left ih =>
    have below : 16 * k < 0xFFFFF := by omega
    rw [acpiFindRsdpFrom, if_pos ((acpiCandidate_lt_end_iff inside).mpr below)]
    by_cases here : acpiIsRsdp mem (acpiCandidate k) = true
    · left
      rw [if_pos here]
      refine ⟨k, Nat.le_refl k, below, here, ?_, rfl⟩
      intro i from_k before
      omega
    · rw [if_neg here, acpiCandidate_succ]
      have skipped : acpiIsRsdp mem (acpiCandidate k) = false := by simpa using here
      have later := ih (k := k + 1) (by omega) (by omega)
      rcases later with ⟨j, behind, inWindow, rsdp, first, found⟩ | ⟨none, found⟩
      · left
        refine ⟨j, by omega, inWindow, rsdp, ?_, found⟩
        intro i from_k before
        rcases Nat.eq_or_lt_of_le from_k with rfl | later
        · exact skipped
        · exact first i later before
      · right
        refine ⟨?_, found⟩
        intro i from_k inWindow
        rcases Nat.eq_or_lt_of_le from_k with rfl | later
        · exact skipped
        · exact none i later inWindow

/-- The scan finds the first candidate that passes its test. -/
theorem acpiFindRsdpFrom_eq_some_iff (mem : AcpiMemory) (address : RtPtr) :
    acpiFindRsdpFrom mem acpiRsdpAddress = some address ↔
      ∃ k, FirstRsdp mem k ∧ address = acpiCandidate k := by
  have start : acpiCandidate 0 = acpiRsdpAddress := by decide
  rw [← start]
  rcases acpiFindRsdpFrom_candidate mem (Nat.zero_le 65536) with
    ⟨j, _, inWindow, rsdp, first, found⟩ | ⟨none, found⟩
  · have here : FirstRsdp mem j := ⟨inWindow, rsdp, fun i before => first i (Nat.zero_le i) before⟩
    rw [found]
    constructor
    · intro same
      cases same
      exact ⟨j, here, rfl⟩
    · rintro ⟨k, there, rfl⟩
      rw [here.unique there]
  · rw [found]
    constructor
    · intro same
      cases same
    · rintro ⟨k, there, _⟩
      have passed := there.rsdp
      rw [none k (Nat.zero_le k) there.inWindow] at passed
      cases passed

theorem acpiFindRsdp_of_first {k : Nat} (found : FirstRsdp mem k) (s : AcpiObjects) :
    acpiFindRsdp mem s =
      (true, { s with acpiDriverInstance.rsdp := acpiRsdpAt mem (acpiCandidate k) }) := by
  have scan := (acpiFindRsdpFrom_eq_some_iff mem _).mpr ⟨k, found, rfl⟩
  rw [acpiFindRsdp, scan]

theorem acpiFindRsdp_fst (mem : AcpiMemory) (s : AcpiObjects) :
    (acpiFindRsdp mem s).1 = true ↔ ∃ k, FirstRsdp mem k := by
  constructor
  · intro success
    unfold acpiFindRsdp at success
    cases scan : acpiFindRsdpFrom mem acpiRsdpAddress with
    | some address =>
      rcases (acpiFindRsdpFrom_eq_some_iff mem address).mp scan with ⟨k, found, _⟩
      exact ⟨k, found⟩
    | none =>
      rw [scan] at success
      cases success
  · rintro ⟨k, found⟩
    rw [acpiFindRsdp_of_first found]

/-! ## Structures of ACPI 1.0 -/

/-- An ACPI 1.0 RSDP at the `k`-th candidate, with no signature at an earlier one: nothing is
said about the bytes behind its first 20. -/
structure LegacyRsdp (mem : AcpiMemory) (k : Nat) : Prop where
  inWindow : 16 * k < 0x20000
  signature : mem.readBytes (acpiCandidate k) 8 = cString "RSD PTR "
  revision : (acpiRsdpAt mem (acpiCandidate k)).revision = 0
  checksum : byteSum (mem.readBytes (acpiCandidate k) 20) = 0
  first : ∀ j < k, mem.readBytes (acpiCandidate j) 8 ≠ cString "RSD PTR "

/-- Two RSDPs that agree in the fields of ACPI 1.0. -/
structure SameLegacy (rsdp rsdp' : AcpiRsdp) : Prop where
  signature : rsdp.signature = rsdp'.signature
  checksum : rsdp.checksum = rsdp'.checksum
  oemId : rsdp.oemId = rsdp'.oemId
  revision : rsdp.revision = rsdp'.revision
  rsdtAddress : rsdp.rsdtAddress = rsdp'.rsdtAddress

/-- The four bytes of a word in memory. -/
def wordBytes (word : RtU32) : List RtU8 :=
  [word.setWidth 8, (word >>> 8).setWidth 8, (word >>> 16).setWidth 8, (word >>> 24).setWidth 8]

/-- The first 20 bytes of an `ACPI_RSDP`. -/
def AcpiRsdp.legacyBytes (rsdp : AcpiRsdp) : List RtU8 :=
  rsdp.signature.toList ++ [rsdp.checksum] ++ rsdp.oemId.toList ++ [rsdp.revision] ++
    wordBytes rsdp.rsdtAddress

theorem wordBytes_append (a b c d : RtU8) : wordBytes (d ++ c ++ b ++ a) = [a, b, c, d] := by
  simp only [wordBytes, List.cons.injEq, and_true]
  refine ⟨?_, ?_, ?_, ?_⟩
  · ext i small
    grind
  · ext i small
    grind
  · ext i small
    grind
  · ext i small
    grind

theorem wordBytes_read32 (mem : AcpiMemory) (address : RtPtr) :
    wordBytes (mem.read32 address) = mem.readBytes address 4 := by
  rw [Memory.read32, wordBytes_append]
  simp [Memory.readBytes, BitVec.add_assoc]

theorem legacyBytes_acpiRsdpAt (mem : AcpiMemory) (address : RtPtr) :
    (acpiRsdpAt mem address).legacyBytes = mem.readBytes address 20 := by
  simp only [AcpiRsdp.legacyBytes, acpiRsdpAt, Memory.toList_bytesAt, wordBytes_read32]
  rw [show (20 : Nat) = 8 + 1 + 6 + 1 + 4 from rfl]
  simp only [Memory.readBytes_add]
  rfl

/-- The sum that the scan asks for. -/
theorem byteSum_rsdp (mem : AcpiMemory) (address : RtPtr) :
    byteSum (mem.readBytes address 36) =
      byteSum (mem.readBytes address 20) + byteSum (mem.readBytes (address + 20) 16) := by
  rw [← byteSum_append, show (36 : Nat) = 20 + 16 from rfl, Memory.readBytes_add]
  rfl

theorem acpiIsRsdp_iff (mem : AcpiMemory) (address : RtPtr) :
    acpiIsRsdp mem address = true ↔ mem.readBytes address 8 = cString "RSD PTR " ∧
      byteSum (mem.readBytes address 20) + byteSum (mem.readBytes (address + 20) 16) = 0 := by
  rw [← byteSum_rsdp]
  simp [acpiIsRsdp, byteSum]

/-- `ACPI_FindRSDP` finds every ACPI 1.0 structure, and what it stores is one as far as the
checksum tells. -/
structure FindsLegacy (mem : AcpiMemory) (s : AcpiObjects) : Prop where
  found : ∀ k, LegacyRsdp mem k → (acpiFindRsdp mem s).1 = true ∧
    SameLegacy (acpiFindRsdp mem s).2.acpiDriverInstance.rsdp (acpiRsdpAt mem (acpiCandidate k))
  stored : (acpiFindRsdp mem s).1 = true →
    byteSum (acpiFindRsdp mem s).2.acpiDriverInstance.rsdp.legacyBytes = 0

/-- The `k`-th address of the window carries the signature. -/
structure RsdpSigned (mem : AcpiMemory) (k : Nat) : Prop where
  inWindow : 16 * k < 0xFFFFF
  signature : mem.readBytes (acpiCandidate k) 8 = cString "RSD PTR "

/-- The sum of the first 20 bytes there. -/
def headSum (mem : AcpiMemory) (k : Nat) : RtU8 := byteSum (mem.readBytes (acpiCandidate k) 20)

/-- The sum of the 16 bytes behind them. -/
def tailSum (mem : AcpiMemory) (k : Nat) : RtU8 :=
  byteSum (mem.readBytes (acpiCandidate k + 20) 16)

/-- What lies behind the first 20 bytes does no harm. -/
structure TailsHarmless (mem : AcpiMemory) : Prop where
  -- it sums to zero behind an ACPI 1.0 structure or a copy of one, and lends the sum of zero to
  -- no signature before that with other bytes behind it
  legacy : ∀ k, LegacyRsdp mem k → ∃ j, 16 * j < 0xFFFFF ∧
    mem.readBytes (acpiCandidate j) 20 = mem.readBytes (acpiCandidate k) 20 ∧ tailSum mem j = 0 ∧
      ∀ i < j, RsdpSigned mem i → headSum mem i + tailSum mem i = 0 →
        mem.readBytes (acpiCandidate i) 20 = mem.readBytes (acpiCandidate k) 20
  -- where it makes up for the sum of the first 20, both sums are zero at an earlier address
  lent : ∀ k, RsdpSigned mem k → headSum mem k + tailSum mem k = 0 → headSum mem k ≠ 0 →
    ∃ j < k, RsdpSigned mem j ∧ headSum mem j = 0 ∧ tailSum mem j = 0

theorem acpiIsRsdp_iff_signed {k : Nat} (inWindow : 16 * k < 0xFFFFF) :
    acpiIsRsdp mem (acpiCandidate k) = true ↔
      RsdpSigned mem k ∧ headSum mem k + tailSum mem k = 0 := by
  rw [acpiIsRsdp_iff]
  exact and_congr_left fun _ => ⟨fun signature => ⟨inWindow, signature⟩, RsdpSigned.signature⟩

theorem wordBytes_injective {word word' : RtU32} (same : wordBytes word = wordBytes word') :
    word = word' := by
  simp only [wordBytes, List.cons.injEq, and_true] at same
  rcases same with ⟨first, second, third, fourth⟩
  apply BitVec.eq_of_toNat_eq
  have low := congrArg BitVec.toNat first
  have low' := congrArg BitVec.toNat second
  have high' := congrArg BitVec.toNat third
  have high := congrArg BitVec.toNat fourth
  simp only [BitVec.toNat_setWidth, BitVec.toNat_ushiftRight, Nat.shiftRight_eq_div_pow] at *
  omega

/-- The fields of ACPI 1.0 are the first 20 bytes. -/
theorem sameLegacy_iff (a b : RtPtr) :
    SameLegacy (acpiRsdpAt mem a) (acpiRsdpAt mem b) ↔
      mem.readBytes a 20 = mem.readBytes b 20 := by
  rw [← legacyBytes_acpiRsdpAt, ← legacyBytes_acpiRsdpAt]
  constructor
  · rintro ⟨signature, checksum, oemId, revision, rsdtAddress⟩
    simp only [AcpiRsdp.legacyBytes, signature, checksum, oemId, revision, rsdtAddress]
  · intro same
    simp only [AcpiRsdp.legacyBytes] at same
    obtain ⟨same, rsdtAddress⟩ := List.append_inj' same rfl
    obtain ⟨same, revision⟩ := List.append_inj' same rfl
    obtain ⟨same, oemId⟩ := List.append_inj' same (by simp)
    obtain ⟨signature, checksum⟩ := List.append_inj' same rfl
    exact ⟨Vector.toList_inj.mp signature, List.singleton_inj.mp checksum,
      Vector.toList_inj.mp oemId, List.singleton_inj.mp revision, wordBytes_injective rsdtAddress⟩

/-- The scan does right by ACPI 1.0 structures exactly when what lies behind 20 bytes does no
harm. -/
theorem acpiFindRsdp_findsLegacy_iff (mem : AcpiMemory) (s : AcpiObjects) :
    FindsLegacy mem s ↔ TailsHarmless mem := by
  constructor
  · rintro ⟨found, stored⟩
    constructor
    · intro k legacy
      rcases found k legacy with ⟨success, same⟩
      rcases (acpiFindRsdp_fst mem s).mp success with ⟨j, first⟩
      rw [acpiFindRsdp_of_first first, sameLegacy_iff] at same
      have sum := ((acpiIsRsdp_iff_signed first.inWindow).mp first.rsdp).2
      rw [headSum, same, legacy.checksum] at sum
      refine ⟨j, first.inWindow, same, (BitVec.zero_add _).symm.trans sum, ?_⟩
      intro i before signed sum
      have passed := (acpiIsRsdp_iff_signed signed.inWindow).mpr ⟨signed, sum⟩
      rw [first.first i before] at passed
      cases passed
    · intro k signed sum head
      have passed := (acpiIsRsdp_iff_signed signed.inWindow).mpr ⟨signed, sum⟩
      rcases exists_firstRsdp_le signed.inWindow passed with ⟨j, below, first⟩
      rw [acpiFindRsdp_of_first first] at stored
      have head' := stored rfl
      rw [legacyBytes_acpiRsdpAt, ← headSum] at head'
      rcases (acpiIsRsdp_iff_signed first.inWindow).mp first.rsdp with ⟨signed', sum'⟩
      rw [head'] at sum'
      refine ⟨j, Nat.lt_of_le_of_ne below ?_, signed', head', (BitVec.zero_add _).symm.trans sum'⟩
      rintro rfl
      exact head head'
  · rintro ⟨legacies, lent⟩
    constructor
    · intro k legacy
      rcases legacies k legacy with ⟨j, inWindow, copy, tail, before⟩
      have signature : mem.readBytes (acpiCandidate j) 8 = cString "RSD PTR " := by
        rw [show (20 : Nat) = 8 + 12 from rfl, Memory.readBytes_add, Memory.readBytes_add] at copy
        refine (List.append_inj_left copy ?_).trans legacy.signature
        simp only [Memory.readBytes_length]
      have sum : headSum mem j + tailSum mem j = 0 := by
        rw [headSum, copy, legacy.checksum, tail]
        rfl
      rcases exists_firstRsdp_le inWindow
        ((acpiIsRsdp_iff_signed inWindow).mpr ⟨⟨inWindow, signature⟩, sum⟩) with ⟨i, below, first⟩
      rw [acpiFindRsdp_of_first first, sameLegacy_iff]
      refine ⟨rfl, ?_⟩
      rcases Nat.eq_or_lt_of_le below with rfl | earlier
      · exact copy
      · rcases (acpiIsRsdp_iff_signed first.inWindow).mp first.rsdp with ⟨signed, passed⟩
        exact before i earlier signed passed
    · intro success
      rcases (acpiFindRsdp_fst mem s).mp success with ⟨k, first⟩
      rw [acpiFindRsdp_of_first first, legacyBytes_acpiRsdpAt, ← headSum]
      rcases (acpiIsRsdp_iff_signed first.inWindow).mp first.rsdp with ⟨signed, sum⟩
      by_contra head
      rcases lent k signed sum head with ⟨j, earlier, signed', head', tail'⟩
      have sum' : headSum mem j + tailSum mem j = 0 := by
        rw [head', tail']
        rfl
      have passed := (acpiIsRsdp_iff_signed signed'.inWindow).mpr ⟨signed', sum'⟩
      rw [first.first j earlier] at passed
      cases passed

/-- An ACPI 1.0 RSDP at the first candidate, right behind it a byte of something else. -/
def legacyFirmware : AcpiMemory := fun a =>
  ((cString "RSD PTR " ++ [0xD1, 0, 0, 0, 0, 0, 0, 0] ++ [0, 0x10, 0, 0] ++
    [1])[(a - 0xE0000).toNat]?).getD 0

theorem legacyFirmware_legacy : LegacyRsdp legacyFirmware 0 :=
  ⟨by decide, by decide, by decide, by decide, by decide⟩

/-- No other candidate carries the signature: memory is zero there. -/
theorem legacyFirmware_signature {k : Nat} (inWindow : 16 * k < 0xFFFFF)
    (signature : legacyFirmware.readBytes (acpiCandidate k) 8 = cString "RSD PTR ") : k = 0 := by
  have letter : legacyFirmware (acpiCandidate k) = 0x52 := (List.cons.inj signature).1
  have offset : (acpiCandidate k - 0xE0000).toNat = 16 * k := by
    simp only [acpiCandidate, acpiRsdpAddress]
    bv_omega
  rw [legacyFirmware, offset] at letter
  rcases Nat.lt_or_ge k 2 with few | many
  · have firstTwo : k = 0 ∨ k = 1 := by omega
    rcases firstTwo with rfl | rfl
    · rfl
    · revert letter
      decide
  · rw [List.getElem?_eq_none (Nat.le_trans (by decide) (Nat.mul_le_mul_left 16 many))] at letter
    cases letter

/-- The structure is there, and the scan finds nothing. -/
theorem acpiFindRsdp_misses : ¬ FindsLegacy legacyFirmware sampleObjects := by
  intro finds
  have success := (finds.found 0 legacyFirmware_legacy).1
  rcases (acpiFindRsdp_fst _ _).mp success with ⟨k, first⟩
  have passed := (acpiIsRsdp_iff _ _).mp first.rsdp
  rw [legacyFirmware_signature first.inWindow passed.1] at passed
  revert passed
  decide

/-! ## What a failing initialisation leaves behind -/

/-- The fields of the driver that the functions work on are the same. -/
structure AcpiUnchanged (driver driver' : RtAcpiDriver) : Prop where
  state : driver'.base.state = driver.base.state
  rsdp : driver'.rsdp = driver.rsdp
  acpi20Supported : driver'.acpi20Supported = driver.acpi20Supported
  numTables : driver'.numTables = driver.numTables
  loaded : driver'.loaded = driver.loaded

/-- If `ACPI_Init` fails, it leaves the driver as it was. -/
def FailsClean (mem : AcpiMemory) (ref : AcpiRef) (s : AcpiObjects) : Prop :=
  ∀ code s', acpiInit mem (some ref) s = .ok (code, s') → code ≠ .success →
    AcpiUnchanged (s.get ref) (s'.get ref)

/-- The RSDP that `ACPI_Init` reads after the scan has found one: the static instance has been
given it, another driver has not. -/
def AcpiObjects.rsdpAfter (s : AcpiObjects) (found : AcpiRsdp) : AcpiRef → AcpiRsdp
  | .acpiDriverInstance => found
  | .object => s.object.rsdp

/-- The driver, with an RSDP and the version flag that goes with it. -/
def RtAcpiDriver.withRsdp (driver : RtAcpiDriver) (rsdp : AcpiRsdp) : RtAcpiDriver :=
  { driver with rsdp, acpi20Supported := acpiIsModern rsdp || driver.acpi20Supported }

theorem acpiSetVersion_eq (driver : RtAcpiDriver) :
    acpiSetVersion driver = driver.withRsdp driver.rsdp := by
  unfold acpiSetVersion RtAcpiDriver.withRsdp
  split
  · rename_i modern
    rw [modern]
    rfl
  · rename_i old
    rw [Bool.eq_false_iff.mpr old]
    rfl

theorem acpiBeforeLoad_get {k : Nat} (found : FirstRsdp mem k) (ref : AcpiRef) (s : AcpiObjects) :
    (acpiBeforeLoad mem ref s).get ref =
      (s.get ref).withRsdp (s.rsdpAfter (acpiRsdpAt mem (acpiCandidate k)) ref) := by
  rw [acpiBeforeLoad, acpiFindRsdp_of_first found, AcpiObjects.get_set, acpiSetVersion_eq]
  cases ref <;> rfl

/-- Without an RSDP `ACPI_Init` changes no object. -/
theorem acpiInit_of_none (none : ∀ k, ¬ FirstRsdp mem k) (ref : AcpiRef) (s : AcpiObjects) :
    acpiInit mem (some ref) s = .ok (.hardwareFault, s) := by
  have missing : ¬ (acpiFindRsdp mem s).1 = true := by
    rw [acpiFindRsdp_fst]
    rintro ⟨k, found⟩
    exact none k found
  simp [acpiInit, missing]

/-- With a root table that is accepted it does not fail. -/
theorem acpiInit_of_accepted {k : Nat} (found : FirstRsdp mem k)
    (accepted : RootAccepted mem ((acpiBeforeLoad mem ref s).get ref)) {code : RtErrorCode}
    {s' : AcpiObjects} (returned : acpiInit mem (some ref) s = .ok (code, s')) :
    code = .success := by
  have success := (acpiFindRsdp_fst mem s).mpr ⟨k, found⟩
  simp only [acpiInit, success, acpiLoadTables_of_accepted accepted, Bool.not_true,
    Bool.false_eq_true, if_false] at returned
  cases loop : acpiLoadEntries mem ((acpiBeforeLoad mem ref s).get ref)
      (rootNumEntries mem ((acpiBeforeLoad mem ref s).get ref)) with
  | error fault =>
    rw [loop] at returned
    cases returned
  | ok after =>
    rw [loop] at returned
    cases returned
    rfl

/-- Without one it fails, and leaves the driver as it has handed it to `ACPI_LoadTables`. -/
theorem acpiInit_of_refused {k : Nat} (found : FirstRsdp mem k)
    (refused : ¬ RootAccepted mem ((acpiBeforeLoad mem ref s).get ref)) :
    ∃ code s', acpiInit mem (some ref) s = .ok (code, s') ∧ code ≠ .success ∧
      s'.get ref = (acpiBeforeLoad mem ref s).get ref := by
  have success := (acpiFindRsdp_fst mem s).mpr ⟨k, found⟩
  rcases acpiLoadTables_of_not_accepted refused with ⟨code, failed, returned⟩
  refine ⟨code, (acpiBeforeLoad mem ref s).set ((acpiBeforeLoad mem ref s).get ref) ref, ?_, failed,
    AcpiObjects.get_set _ _ _⟩
  simp [acpiInit, success, returned, failed]

theorem unchanged_withRsdp_iff (driver : RtAcpiDriver) (rsdp : AcpiRsdp) :
    AcpiUnchanged driver (driver.withRsdp rsdp) ↔
      rsdp = driver.rsdp ∧ (acpiIsModern rsdp = true → driver.acpi20Supported = true) := by
  constructor
  · rintro ⟨_, same, flag, _, _⟩
    refine ⟨same, ?_⟩
    intro modern
    simp only [RtAcpiDriver.withRsdp, modern, Bool.true_or] at flag
    exact flag.symm
  · rintro ⟨rfl, flag⟩
    refine ⟨rfl, rfl, ?_, rfl, rfl⟩
    cases modern : acpiIsModern driver.rsdp with
    | true => simp [RtAcpiDriver.withRsdp, modern, flag modern]
    | false => simp [RtAcpiDriver.withRsdp, modern]

/-- A failing `ACPI_Init` leaves the driver as it was exactly if the scan finds nothing, or the
root table is accepted, so that it does not fail, or the RSDP is the one that the driver has
and its version flag is set if it is going to be. -/
theorem acpiInit_failsClean_iff (mem : AcpiMemory) (ref : AcpiRef) (s : AcpiObjects) :
    FailsClean mem ref s ↔
      ∀ k, FirstRsdp mem k →
        RootAccepted mem ((s.get ref).withRsdp
          (s.rsdpAfter (acpiRsdpAt mem (acpiCandidate k)) ref)) ∨
        s.rsdpAfter (acpiRsdpAt mem (acpiCandidate k)) ref = (s.get ref).rsdp ∧
          (acpiIsModern (s.rsdpAfter (acpiRsdpAt mem (acpiCandidate k)) ref) = true →
            (s.get ref).acpi20Supported = true) := by
  constructor
  · intro clean k found
    have before := acpiBeforeLoad_get found ref s
    rw [← unchanged_withRsdp_iff, ← before]
    rcases Classical.em (RootAccepted mem ((acpiBeforeLoad mem ref s).get ref)) with
      accepted | refused
    · exact .inl accepted
    · right
      rcases acpiInit_of_refused found refused with ⟨code, s', returned, failed, left⟩
      rw [← left]
      exact clean code s' returned failed
  · intro conditions code s' returned failed
    by_cases found : ∃ k, FirstRsdp mem k
    · rcases found with ⟨k, found⟩
      have before := acpiBeforeLoad_get found ref s
      have condition := conditions k found
      rw [← unchanged_withRsdp_iff, ← before] at condition
      by_cases accepted : RootAccepted mem ((acpiBeforeLoad mem ref s).get ref)
      · exact absurd (acpiInit_of_accepted found accepted returned) failed
      · rcases acpiInit_of_refused found accepted with ⟨code', s'', returned', _, left⟩
        rw [returned'] at returned
        cases returned
        rw [left]
        exact condition.resolve_left accepted
    · rw [acpiInit_of_none (not_exists.mp found)] at returned
      cases returned
      exact ⟨rfl, rfl, rfl, rfl, rfl⟩

/-- The static instance keeps the RSDP that was found, in a state `ACPI_LoadTables` refuses. -/
theorem acpiInit_fails_changed :
    ¬ FailsClean sampleFirmware .acpiDriverInstance sampleObjects := by
  intro clean
  have first : FirstRsdp sampleFirmware 0 := by
    refine ⟨by decide, sampleFirmware_usable.rsdp, ?_⟩
    intro j before
    exact absurd before (Nat.not_lt_zero j)
  have before := acpiBeforeLoad_get first .acpiDriverInstance sampleObjects
  have refused : ¬ RootAccepted sampleFirmware
      ((acpiBeforeLoad sampleFirmware .acpiDriverInstance sampleObjects).get
        .acpiDriverInstance) := by
    rw [before]
    intro accepted
    cases accepted.initializing
  rcases acpiInit_of_refused first refused with ⟨code, s', returned, failed, left⟩
  have same := (clean code s' returned failed).rsdp
  rw [left, before] at same
  revert same
  decide

end LamaOS
