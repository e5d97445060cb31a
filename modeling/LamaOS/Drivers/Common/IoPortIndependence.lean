import LamaOS.Drivers.Common.IoPort

/-!
# Operations on different ports

The five functions that write `port_configs` or `port_locks` have one form: the port number is
checked, and then one entry of each table is read and written. Two of them that address
different ports therefore do the same in either order. `IO_InitPort` reads one more entry if the
configuration that it is handed is one of `port_configs` itself, and the other function must not
write that one.
-/

namespace LamaOS

/-- A call of a function that writes the tables. -/
inductive TableOperation where
  | initPort (config : IoConfigPtr)
  | lock (port : RtIoPort)
  | unlock (port : RtIoPort)
  | setMode (port : RtIoPort) (mode : IoPortMode)
  | setAccessType (port : RtIoPort) (accessType : IoPortAccessType)
  deriving DecidableEq, Repr

/-- The port that a call addresses, when it is made on these tables. -/
def TableOperation.port (tables : IoTables) : TableOperation → RtIoPort
  | .initPort config => (tables.configAt config).base
  | .lock port => port
  | .unlock port => port
  | .setMode port _ => port
  | .setAccessType port _ => port

/-- One call. -/
def TableOperation.exec (tables : IoTables) : TableOperation → RtErrorCode × IoTables
  | .initPort config => ioInitPort (some config) tables
  | .lock port => ioLockPort port tables
  | .unlock port => ioUnlockPort port tables
  | .setMode port mode => ioSetPortMode port mode tables
  | .setAccessType port accessType => ioSetPortAccessType port accessType tables

/-! ## The common form -/

/-- What an operation makes of the two entries of its port: the code it returns and the entries
after it. -/
def TableOperation.change (tables : IoTables) (config : IoPortConfig) (locked : Bool) :
    TableOperation → RtErrorCode × IoPortConfig × Bool
  | .initPort config' => (.success, tables.configAt config', locked)
  | .lock _ => (if locked then .portLocked else .success, config, true)
  | .unlock _ => (.success, config, false)
  | .setMode _ mode => (.success, { config with mode }, locked)
  | .setAccessType _ accessType => (.success, { config with accessType }, locked)

variable {tables : IoTables}

/-- With a port number that is out of range nothing is written. -/
theorem tableOperation_invalid {op : TableOperation}
    (invalid : ¬ (op.port tables).toNat < maxIoPorts) :
    op.exec tables = (.invalidPort, tables) := by
  cases op with
  | initPort config => exact dif_neg invalid
  | lock port => exact dif_neg invalid
  | unlock port => exact dif_neg invalid
  | setMode port mode => exact dif_neg invalid
  | setAccessType port accessType => exact dif_neg invalid

/-- Otherwise both tables are changed at the port and nowhere else. -/
theorem tableOperation_valid {op : TableOperation} (valid : (op.port tables).toNat < maxIoPorts) :
    op.exec tables =
      let entry := op.change tables (tables.portConfigs ⟨(op.port tables).toNat, valid⟩)
        (tables.portLocks ⟨(op.port tables).toNat, valid⟩)
      (entry.1, ⟨Function.update tables.portConfigs ⟨(op.port tables).toNat, valid⟩ entry.2.1,
        Function.update tables.portLocks ⟨(op.port tables).toNat, valid⟩ entry.2.2⟩) := by
  rcases tables with ⟨portConfigs, portLocks⟩
  cases op with
  | initPort config =>
    simp only [TableOperation.exec, ioInitPort, TableOperation.change, Function.update_eq_self]
    exact dif_pos valid
  | lock port =>
    have valid' : port.toNat < maxIoPorts := valid
    show ioLockPort port ⟨portConfigs, portLocks⟩ =
      (if portLocks ⟨port.toNat, valid'⟩ then .portLocked else .success,
        ⟨Function.update portConfigs ⟨port.toNat, valid'⟩ (portConfigs ⟨port.toNat, valid'⟩),
          Function.update portLocks ⟨port.toNat, valid'⟩ true⟩)
    rw [ioLockPort, dif_pos valid', Function.update_eq_self]
    by_cases locked : portLocks ⟨port.toNat, valid'⟩ = true
    · have same : Function.update portLocks ⟨port.toNat, valid'⟩ true = portLocks := by
        rw [← locked, Function.update_eq_self]
      rw [if_pos locked, if_pos locked, same]
    · rw [if_neg locked, if_neg locked]
  | unlock port =>
    simp only [TableOperation.exec, ioUnlockPort, TableOperation.change, Function.update_eq_self]
    exact dif_pos valid
  | setMode port mode =>
    simp only [TableOperation.exec, ioSetPortMode, ioSetConfig, TableOperation.change,
      Function.update_eq_self]
    exact dif_pos valid
  | setAccessType port accessType =>
    simp only [TableOperation.exec, ioSetPortAccessType, ioSetConfig, TableOperation.change,
      Function.update_eq_self]
    exact dif_pos valid

/-- Two states of the tables agree in the entries of a port. -/
structure SameEntry (port : Nat) (tables tables' : IoTables) : Prop where
  config : ∀ valid : port < maxIoPorts,
    tables.portConfigs ⟨port, valid⟩ = tables'.portConfigs ⟨port, valid⟩
  lock : ∀ valid : port < maxIoPorts,
    tables.portLocks ⟨port, valid⟩ = tables'.portLocks ⟨port, valid⟩

theorem SameEntry.trans {port : Nat} {tables tables' tables'' : IoTables}
    (same : SameEntry port tables tables') (same' : SameEntry port tables' tables'') :
    SameEntry port tables tables'' where
  config := fun valid => (same.config valid).trans (same'.config valid)
  lock := fun valid => (same.lock valid).trans (same'.lock valid)

theorem SameEntry.symm {port : Nat} {tables tables' : IoTables}
    (same : SameEntry port tables tables') : SameEntry port tables' tables where
  config := fun valid => (same.config valid).symm
  lock := fun valid => (same.lock valid).symm

/-- The tables are their entries. -/
theorem eq_of_sameEntry {tables tables' : IoTables}
    (same : ∀ port, SameEntry port tables tables') : tables = tables' := by
  have configs : tables.portConfigs = tables'.portConfigs := by
    funext i
    exact (same i.val).config i.isLt
  have locks : tables.portLocks = tables'.portLocks := by
    funext i
    exact (same i.val).lock i.isLt
  rcases tables with ⟨portConfigs, portLocks⟩
  rcases tables' with ⟨portConfigs', portLocks'⟩
  cases configs
  cases locks
  rfl

/-- An operation leaves the entries of other ports. -/
theorem tableOperation_elsewhere (op : TableOperation) {port : Nat}
    (other : port ≠ (op.port tables).toNat) : SameEntry port (op.exec tables).2 tables := by
  by_cases valid : (op.port tables).toNat < maxIoPorts
  · rw [tableOperation_valid valid]
    constructor
    · intro inRange
      apply Function.update_of_ne
      intro same
      exact other (congrArg Fin.val same)
    · intro inRange
      apply Function.update_of_ne
      intro same
      exact other (congrArg Fin.val same)
  · rw [tableOperation_invalid valid]
    exact ⟨fun _ => rfl, fun _ => rfl⟩

/-- A call that stores a configuration at a port. -/
def TableOperation.Configures (tables : IoTables) (port : Fin maxIoPorts) : TableOperation → Prop
  | .initPort config => (tables.configAt config).base.toNat = port
  | .setMode port' _ | .setAccessType port' _ => port'.toNat = port
  | .lock _ | .unlock _ => False

instance (tables : IoTables) (port : Fin maxIoPorts) (op : TableOperation) :
    Decidable (op.Configures tables port) :=
  match op with
  | .initPort config =>
    inferInstanceAs (Decidable ((tables.configAt config).base.toNat = port))
  | .setMode port' _ | .setAccessType port' _ => inferInstanceAs (Decidable (port'.toNat = port))
  | .lock _ | .unlock _ => inferInstanceAs (Decidable False)

/-- A call leaves the configuration that another one is handed. -/
def TableOperation.Spares (tables : IoTables) (op : TableOperation) : TableOperation → Prop
  | .initPort (.entry port) => ¬ op.Configures tables port
  | _ => True

instance (tables : IoTables) (op other : TableOperation) : Decidable (op.Spares tables other) :=
  match other with
  | .initPort (.entry port) => inferInstanceAs (Decidable (¬ op.Configures tables port))
  | .initPort (.object _) | .lock _ | .unlock _ | .setMode _ _ | .setAccessType _ _ =>
    inferInstanceAs (Decidable True)

/-- What a call is handed is the same. -/
def TableOperation.SameSource (tables tables' : IoTables) : TableOperation → Prop
  | .initPort config => tables.configAt config = tables'.configAt config
  | _ => True

/-- The lock functions write no configuration. -/
theorem tableOperation_configs {op : TableOperation} {port : Fin maxIoPorts}
    (leaves : ¬ op.Configures tables port) :
    (op.exec tables).2.portConfigs port = tables.portConfigs port := by
  have elsewhere (other : ¬ (op.port tables).toNat = port.val) :
      (op.exec tables).2.portConfigs port = tables.portConfigs port :=
    (tableOperation_elsewhere op (Ne.symm other)).config port.isLt
  cases op with
  | initPort config => exact elsewhere leaves
  | setMode port' mode => exact elsewhere leaves
  | setAccessType port' accessType => exact elsewhere leaves
  | lock port' =>
    rw [TableOperation.exec, ioLockPort]
    split
    · split <;> rfl
    · rfl
  | unlock port' =>
    rw [TableOperation.exec, ioUnlockPort]
    split <;> rfl

theorem TableOperation.Spares.sameSource {op other : TableOperation}
    (spares : op.Spares tables other) : other.SameSource tables (op.exec tables).2 := by
  cases other with
  | initPort config =>
    cases config with
    | object config => rfl
    | entry port => exact (tableOperation_configs spares).symm
  | lock _ | unlock _ | setMode _ _ | setAccessType _ _ => trivial

theorem TableOperation.SameSource.port_eq {op : TableOperation} {tables' : IoTables}
    (source : op.SameSource tables tables') : op.port tables' = op.port tables := by
  cases op with
  | initPort config => exact congrArg IoPortConfig.base (Eq.symm source)
  | lock _ | unlock _ | setMode _ _ | setAccessType _ _ => rfl

theorem TableOperation.SameSource.change_eq {op : TableOperation} {tables' : IoTables}
    (source : op.SameSource tables tables') (config : IoPortConfig) (locked : Bool) :
    op.change tables' config locked = op.change tables config locked := by
  cases op with
  | initPort handed => exact congrArg (fun handed => (_, handed, locked)) (Eq.symm source)
  | lock _ | unlock _ | setMode _ _ | setAccessType _ _ => rfl

/-- What an operation returns, and the entries it writes, depend on the entries of its port
and on the configuration that it is handed. -/
theorem tableOperation_here {op : TableOperation} {tables' : IoTables}
    (source : op.SameSource tables tables')
    (same : SameEntry (op.port tables).toNat tables tables') :
    (op.exec tables).1 = (op.exec tables').1 ∧
      SameEntry (op.port tables).toNat (op.exec tables).2 (op.exec tables').2 := by
  have there := source.port_eq
  by_cases valid : (op.port tables).toNat < maxIoPorts
  · have valid' : (op.port tables').toNat < maxIoPorts := by rwa [there]
    rw [tableOperation_valid valid, tableOperation_valid valid']
    simp only [source.change_eq, there]
    rw [same.config valid, same.lock valid]
    refine ⟨rfl, ?_, ?_⟩
    · intro _
      dsimp only
      rw [Function.update_self, Function.update_self]
    · intro _
      dsimp only
      rw [Function.update_self, Function.update_self]
  · have invalid : ¬ (op.port tables').toNat < maxIoPorts := by rwa [there]
    rw [tableOperation_invalid valid, tableOperation_invalid invalid]
    exact ⟨rfl, same⟩

/-! ## Two operations -/

/-- Two calls return the same codes and leave the same tables in either order, and the entries of
all ports but those they address stay as they are. -/
structure Independent (tables : IoTables) (first second : TableOperation) : Prop where
  firstCode : (first.exec (second.exec tables).2).1 = (first.exec tables).1
  secondCode : (second.exec (first.exec tables).2).1 = (second.exec tables).1
  left : (second.exec (first.exec tables).2).2 = (first.exec (second.exec tables).2).2
  elsewhere : ∀ i : Fin maxIoPorts, i.val ≠ (first.port tables).toNat →
    i.val ≠ (second.port tables).toNat →
      (second.exec (first.exec tables).2).2.portConfigs i = tables.portConfigs i ∧
        (second.exec (first.exec tables).2).2.portLocks i = tables.portLocks i

/-- Two operations on different ports are independent, if neither stores a configuration in the
entry of `port_configs` that the other one is handed. -/
theorem tableOperations_independent (first second : TableOperation) (tables : IoTables)
    (different : first.port tables ≠ second.port tables) (spares : first.Spares tables second)
    (spares' : second.Spares tables first) : Independent tables first second := by
  have apart : (first.port tables).toNat ≠ (second.port tables).toNat := by
    intro same
    exact different (BitVec.eq_of_toNat_eq same)
  -- each call addresses the same port when it comes second
  have firstThere : first.port (second.exec tables).2 = first.port tables :=
    spares'.sameSource.port_eq
  have secondThere : second.port (first.exec tables).2 = second.port tables :=
    spares.sameSource.port_eq
  have besideFirst : SameEntry (first.port tables).toNat tables (second.exec tables).2 :=
    (tableOperation_elsewhere second apart).symm
  have besideSecond : SameEntry (second.port tables).toNat tables (first.exec tables).2 :=
    (tableOperation_elsewhere first apart.symm).symm
  have elsewhere : ∀ {port}, port ≠ (first.port tables).toNat → port ≠ (second.port tables).toNat →
      SameEntry port (second.exec (first.exec tables).2).2 tables := by
    intro port notFirst notSecond
    rw [← secondThere] at notSecond
    exact (tableOperation_elsewhere second notSecond).trans
      (tableOperation_elsewhere first notFirst)
  rcases tableOperation_here spares'.sameSource besideFirst with ⟨firstCode, atFirst⟩
  rcases tableOperation_here spares.sameSource besideSecond with ⟨secondCode, atSecond⟩
  refine ⟨firstCode.symm, secondCode.symm, ?_, ?_⟩
  · apply eq_of_sameEntry
    intro port
    by_cases isFirst : port = (first.port tables).toNat
    · subst isFirst
      rw [← secondThere] at apart
      exact (tableOperation_elsewhere second apart).trans atFirst
    by_cases isSecond : port = (second.port tables).toNat
    · subst isSecond
      rw [← firstThere] at apart
      exact atSecond.symm.trans (tableOperation_elsewhere first apart.symm).symm
    · apply (elsewhere isFirst isSecond).trans
      apply SameEntry.symm
      rw [← firstThere] at isFirst
      exact (tableOperation_elsewhere first isFirst).trans
        (tableOperation_elsewhere second isSecond)
  · intro i notFirst notSecond
    have same := elsewhere notFirst notSecond
    exact ⟨same.config i.isLt, same.lock i.isLt⟩

/-- Copying the entry of port `0x60` and setting the mode of port `0x64`. -/
theorem tableOperations_independent_mouse :
    let copy : TableOperation := .initPort (.entry 0x60)
    let setMode : TableOperation := .setMode 0x64 .bidir
    (setMode.exec (copy.exec ioTablesInit).2).2 = (copy.exec (setMode.exec ioTablesInit).2).2 :=
  (tableOperations_independent (.initPort (.entry 0x60)) (.setMode 0x64 .bidir) ioTablesInit
    (by decide) (by decide) (by decide)).left

/-- On the first tables the entry of port 5 says that it is for port 0: `IO_InitPort` copies it
there, and copies the mode of port 5 if that has been set before. -/
theorem tableOperations_dependent :
    (TableOperation.initPort (.entry 5)).port ioTablesInit ≠
        (TableOperation.setMode 5 .bidir).port ioTablesInit ∧
      ¬ Independent ioTablesInit (.initPort (.entry 5)) (.setMode 5 .bidir) := by
  refine ⟨by decide, fun independent => ?_⟩
  have same := congrArg (fun tables => (tables.portConfigs 0).mode) independent.left
  revert same
  decide

end LamaOS
