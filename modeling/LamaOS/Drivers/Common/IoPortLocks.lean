import LamaOS.Drivers.Common.IoPort
import Mathlib.Logic.Function.Basic

/-!
# The lock table and the accesses it guards

The state of `port_locks` after any sequence of `IO_LockPort`/`IO_UnlockPort` calls is a
function of the calls alone: a port is locked exactly when the last call addressed to it was
a lock. An access of width `w` at port `p` touches the ports `p` to `p + w - 1`, while all
six access functions test `p` only, so the table guards the whole access just when the
further ports happen to be open too.
-/

namespace LamaOS

/-- A call that changes the lock table. -/
inductive LockCall where
  | lock (port : RtIoPort)
  | unlock (port : RtIoPort)
  deriving DecidableEq, Repr

namespace LockCall

/-- The tables after the call; a failing call leaves them as they were. -/
def exec (tables : IoTables) : LockCall → IoTables
  | lock port => (ioLockPort port tables).2
  | unlock port => (ioUnlockPort port tables).2

/-- What the call does to the history of one port: a lock or an unlock of that port
overrides everything before it. -/
def marks (port : Nat) (held : Bool) : LockCall → Bool
  | lock q => if q.toNat = port then true else held
  | unlock q => if q.toNat = port then false else held

end LockCall

/-- The tables reached from the initial ones by a sequence of lock and unlock calls. -/
def lockRun (calls : List LockCall) : IoTables := calls.foldl LockCall.exec ioTablesInit

/-- The last call addressed to `port` was a lock. -/
def lockHeld (calls : List LockCall) (port : Nat) : Bool :=
  calls.foldl (LockCall.marks port) false

/-- One call writes the lock of the port it names, and no other. -/
theorem lockCall_exec_portLocks (call : LockCall) (tables : IoTables) (port : Fin maxIoPorts) :
    (call.exec tables).portLocks port = call.marks port (tables.portLocks port) := by
  cases call with
  | lock q =>
    simp only [LockCall.exec, LockCall.marks, ioLockPort]
    by_cases hq : q.toNat < maxIoPorts
    · rw [dif_pos hq]
      by_cases hp : q.toNat = port
      · obtain rfl : (⟨q.toNat, hq⟩ : Fin maxIoPorts) = port := Fin.ext hp
        -- a lock of a port that is locked already fails and leaves it locked
        split <;> simp_all
      · have hne : port ≠ ⟨q.toNat, hq⟩ := fun e => hp (congrArg Fin.val e).symm
        rw [if_neg hp]
        split
        · rfl
        · exact Function.update_of_ne hne _ _
    · have hp : q.toNat ≠ port := fun e => hq (e ▸ port.isLt)
      rw [dif_neg hq, if_neg hp]
  | unlock q =>
    simp only [LockCall.exec, LockCall.marks, ioUnlockPort]
    by_cases hq : q.toNat < maxIoPorts
    · rw [dif_pos hq]
      by_cases hp : q.toNat = port
      · obtain rfl : (⟨q.toNat, hq⟩ : Fin maxIoPorts) = port := Fin.ext hp
        simp
      · have hne : port ≠ ⟨q.toNat, hq⟩ := fun e => hp (congrArg Fin.val e).symm
        rw [if_neg hp]
        exact Function.update_of_ne hne _ _
    · have hp : q.toNat ≠ port := fun e => hq (e ▸ port.isLt)
      rw [dif_neg hq, if_neg hp]

/-- After any run the table holds exactly the locks of the call history. -/
theorem lockRun_portLocks (calls : List LockCall) (port : Fin maxIoPorts) :
    (lockRun calls).portLocks port = lockHeld calls port := by
  unfold lockRun lockHeld
  exact (List.foldl_hom (fun tables : IoTables => tables.portLocks port)
    fun tables call => (lockCall_exec_portLocks call tables port).symm).symm

/-! ## Accesses of every width -/

/-- A call of one of the six access functions. -/
inductive PortCall where
  | in8 (port : RtIoPort)
  | out8 (port : RtIoPort) (value : RtU8)
  | in16 (port : RtIoPort)
  | out16 (port : RtIoPort) (value : RtU16)
  | in32 (port : RtIoPort)
  | out32 (port : RtIoPort) (value : RtU32)
  deriving DecidableEq, Repr

namespace PortCall

variable {σ : Type}

/-- The port named by the call. -/
def port : PortCall → RtIoPort
  | in8 port | out8 port _ | in16 port | out16 port _ | in32 port | out32 port _ => port

/-- The number of consecutive ports the access touches. -/
def bytes : PortCall → Nat
  | in8 _ | out8 _ _ => 1
  | in16 _ | out16 _ _ => 2
  | in32 _ | out32 _ _ => 4

def exec (hw : Hardware σ) (m : Machine σ) : PortCall → Machine σ
  | in8 port => (ioIn8 hw port m).2
  | out8 port value => ioOut8 hw port value m
  | in16 port => (ioIn16 hw port m).2
  | out16 port value => ioOut16 hw port value m
  | in32 port => (ioIn32 hw port m).2
  | out32 port value => ioOut32 hw port value m

/-- The instruction of the call was executed. -/
def ReachesHardware (hw : Hardware σ) (m : Machine σ) (call : PortCall) : Prop :=
  ∃ access, (call.exec hw m).log = m.log ++ [access] ∧ access.performed = true

/-- All the ports the access touches are valid and unlocked. -/
def Covered (tables : IoTables) (call : PortCall) : Prop :=
  ∀ j < call.bytes, ∃ h : call.port.toNat + j < maxIoPorts,
    tables.portLocks ⟨call.port.toNat + j, h⟩ = false

end PortCall

variable {σ : Type}

theorem ioReaches_iff (tables : IoTables) (port : RtIoPort) :
    ioReaches tables port = true ↔
      ∃ h : port.toNat < maxIoPorts, tables.portLocks ⟨port.toNat, h⟩ = false := by
  unfold ioReaches ioIsValidPort ioIsPortLocked
  by_cases h : port.toNat < maxIoPorts <;> simp [h]

/-- Whatever its width, an access reaches the hardware on the strength of its first port. -/
theorem portCall_reachesHardware_iff (hw : Hardware σ) (m : Machine σ) (call : PortCall) :
    call.ReachesHardware hw m ↔ ioReaches m.tables call.port = true := by
  have single : ∃ access, (call.exec hw m).log = m.log ++ [access] ∧
      access.performed = ioReaches m.tables call.port := by
    cases call with
    | in8 port => obtain ⟨value, h⟩ := ioIn_log hw 8 port m; exact ⟨_, h, rfl⟩
    | out8 port value => exact ⟨_, ioOut_log hw 8 port value m, rfl⟩
    | in16 port => obtain ⟨value, h⟩ := ioIn_log hw 16 port m; exact ⟨_, h, rfl⟩
    | out16 port value => exact ⟨_, ioOut_log hw 16 port value m, rfl⟩
    | in32 port => obtain ⟨value, h⟩ := ioIn_log hw 32 port m; exact ⟨_, h, rfl⟩
    | out32 port value => exact ⟨_, ioOut_log hw 32 port value m, rfl⟩
  obtain ⟨access, logged, performed⟩ := single
  constructor
  · rintro ⟨other, logged', performed'⟩
    obtain rfl : access = other := by simpa [logged] using logged'
    rw [← performed, performed']
  · intro reaches
    exact ⟨access, logged, by rw [performed, reaches]⟩

/-- The further ports of the access, after the first, are valid and the calls so far leave
them unlocked. -/
def FurtherPortsOpen (calls : List LockCall) (call : PortCall) : Prop :=
  ∀ j, 0 < j → j < call.bytes →
    call.port.toNat + j < maxIoPorts ∧ lockHeld calls (call.port.toNat + j) = false

/-- In every reachable lock table, the lock check protects every port of an access exactly
when the access is refused at its first port, or its further ports are open as well. -/
theorem portLock_covers_access_iff (hw : Hardware σ) (device : σ) (log : List IoAccess)
    (calls : List LockCall) (call : PortCall) :
    (call.ReachesHardware hw ⟨lockRun calls, device, log⟩ → call.Covered (lockRun calls)) ↔
      (maxIoPorts ≤ call.port.toNat ∨ lockHeld calls call.port.toNat = true ∨
        FurtherPortsOpen calls call) := by
  rw [portCall_reachesHardware_iff, ioReaches_iff]
  simp only [lockRun_portLocks, PortCall.Covered]
  constructor
  · intro covers
    by_cases valid : call.port.toNat < maxIoPorts
    · right
      cases held : lockHeld calls call.port.toNat with
      | true => exact .inl rfl
      | false =>
        refine .inr fun j _ hj => ?_
        obtain ⟨bound, free⟩ := covers ⟨valid, held⟩ j hj
        exact ⟨bound, free⟩
    · exact .inl (Nat.le_of_not_lt valid)
  · rintro condition ⟨valid, free⟩ j hj
    rcases condition with invalid | held | further
    · omega
    · simp [free] at held
    · cases j with
      | zero => exact ⟨valid, free⟩
      | succ j =>
        obtain ⟨bound, free'⟩ := further (j + 1) (Nat.succ_pos j) hj
        exact ⟨bound, free'⟩

/-- With port `0x61` locked, a 16-bit read at port `0x60` reaches the hardware and reads
the locked port too. -/
theorem portLock_uncovered_in16 :
    ¬ ((PortCall.in16 0x60).ReachesHardware (⟨fun _ _ s => (0, s), fun _ _ _ s => s⟩ : Hardware Unit)
        ⟨lockRun [.lock 0x61], (), []⟩ →
      (PortCall.in16 0x60).Covered (lockRun [.lock 0x61])) := by
  rw [portCall_reachesHardware_iff, ioReaches_iff]
  simp only [lockRun_portLocks, PortCall.Covered]
  intro covers
  obtain ⟨_, free⟩ := covers ⟨by decide, by decide⟩ 1 (by decide)
  exact absurd free (by decide)

end LamaOS
