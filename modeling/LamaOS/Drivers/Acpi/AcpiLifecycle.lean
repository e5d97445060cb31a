import LamaOS.Drivers.Acpi.AcpiRegistry
import LamaOS.Misc.Traces

/-!
# What the ACPI driver serves, and when

Whether a call on an object succeeds is a matter of the history of that object alone. Its state
is what its owner wrote last, or `DRIVER_STATE_READY` if `ACPI_Init` has succeeded since; a load
succeeds only in `DRIVER_STATE_INITIALIZING`, and the table lookup, the power state and the
suspension are served in `DRIVER_STATE_READY`. No function of the driver writes
`DRIVER_STATE_INITIALIZING`, so without its owner an object is never brought up.
-/

namespace LamaOS

/-- A call and its reply. -/
abbrev AcpiEvent := AcpiOperation × AcpiReply

/-- The state that an event puts the object `ref` into, if it does. -/
def statePut (ref : AcpiRef) : AcpiEvent → Option RtDriverState
  | (.setState ref' state, _) => if ref' = ref then some state else none
  | (.init _ (some ref'), .code .success) => if ref' = ref then some .ready else none
  | _ => none

/-- The state of the object `ref` after a history: the last one it was put into. -/
def stateAfter (start : AcpiRef → RtDriverState) (past : List AcpiEvent) (ref : AcpiRef) :
    RtDriverState :=
  past.foldl (fun state event => (statePut ref event).getD state) (start ref)

theorem stateAfter_snoc (start : AcpiRef → RtDriverState) (past : List AcpiEvent)
    (event : AcpiEvent) (ref : AcpiRef) :
    stateAfter start (past ++ [event]) ref =
      (statePut ref event).getD (stateAfter start past ref) := by
  simp [stateAfter]

/-- The code of a service that is offered in one state only. -/
def codeIn (needed state : RtDriverState) : RtErrorCode :=
  if state = needed then .success else .invalidParameter

/-- A reply that gives the caller what was asked for. -/
def Served : AcpiReply → Prop
  | .code code => code = .success
  | .table table => table ≠ none
  | .done => True

/-- The reply is one that the states of the objects allow. -/
def Earned (state : AcpiRef → RtDriverState) : AcpiEvent → Prop
  | (.init _ (some ref), reply) => Served reply → state ref = .initializing
  | (.loadTables _ (some ref), reply) => Served reply → state ref = .initializing
  | (.findTable _ (some ref) (some _), reply) => Served reply → state ref = .ready
  | (.setPowerState (some ref) _, reply) => reply = .code (codeIn .ready (state ref))
  | (.suspendCpu (some ref), reply) => reply = .code (codeIn .ready (state ref))
  | (.setState _ _, reply) => Served reply
  | (_, reply) => ¬ Served reply

/-- An event in which the processor was halted. -/
def isHalt : AcpiEvent → Bool
  | (.suspendCpu _, reply) => reply == .code .success
  | _ => false

namespace AcpiRegistries

def states (w : AcpiRegistries) (ref : AcpiRef) : RtDriverState := (w.registry ref).state

theorem set_states (w : AcpiRegistries) (ref : AcpiRef) (r : AcpiRegistry) (other : AcpiRef) :
    (w.set ref r).states other = if ref = other then r.state else w.states other := by
  by_cases same : ref = other
  · subst same
    simp [states, set]
  · simp [states, set, same, Ne.symm same]

end AcpiRegistries

variable {w : AcpiRegistries} {mem : AcpiMemory}

theorem AcpiRegistry.load_state (r : AcpiRegistry) (mem : AcpiMemory) :
    (r.load mem).1.state = r.state := by
  unfold AcpiRegistry.load
  split
  · rfl
  · split <;> rfl

/-- A load succeeds only while the object is being initialised. -/
theorem AcpiRegistry.load_success {r : AcpiRegistry} (success : (r.load mem).2 = .success) :
    r.state = .initializing := by
  unfold AcpiRegistry.load at success
  by_contra other
  rw [if_pos other] at success
  cases success

theorem AcpiRegistry.setReady_state (r : AcpiRegistry) (code : RtErrorCode) :
    (r.setReady code).state = if code = .success then .ready else r.state := by
  cases code <;> rfl

theorem AcpiRegistries.withRsdp_states (w : AcpiRegistries) (rsdp : AcpiRsdp) (ref : AcpiRef) :
    (w.withRsdp rsdp).states ref = w.states ref := by
  unfold withRsdp
  rw [set_states]
  split
  · rename_i same
    rw [← same]
    rfl
  · rfl

theorem AcpiRegistries.bringUp_states (w : AcpiRegistries) (mem : AcpiMemory) (ref : AcpiRef)
    (rsdp : AcpiRsdp) (other : AcpiRef) :
    (w.bringUp mem ref rsdp).1.states other =
      if ref = other ∧ (w.bringUp mem ref rsdp).2 = .success then .ready else w.states other := by
  have kept : ((w.withRsdp rsdp).registry ref).setVersion.state = w.states ref :=
    w.withRsdp_states rsdp ref
  unfold bringUp
  rw [set_states, AcpiRegistry.setReady_state, AcpiRegistry.load_state, kept, withRsdp_states]
  by_cases same : ref = other
  · simp [same]
  · simp [same]

/-- A call puts the objects into the states its event says. -/
theorem AcpiRegistries.operation_states (w : AcpiRegistries) (call : AcpiOperation)
    (ref : AcpiRef) :
    (w.operation call).1.states ref =
      (statePut ref (call, (w.operation call).2)).getD (w.states ref) := by
  cases call with
  | init mem driver =>
    cases driver with
    | none => rfl
    | some driver =>
      cases found : rsdpIn mem with
      | none => rw [operation, found]; rfl
      | some rsdp =>
        rw [w.operation_init found, bringUp_states]
        generalize (w.bringUp mem driver rsdp).2 = code
        by_cases success : code = .success
        · subst success
          by_cases same : driver = ref
          · simp [statePut, same]
          · simp [statePut, same]
        · simp [statePut, success]
  | loadTables mem driver =>
    cases driver with
    | none => rfl
    | some driver =>
      simp only [operation, statePut, Option.getD_none]
      rw [set_states, AcpiRegistry.load_state]
      split
      · rename_i same
        rw [← same]
        rfl
      · rfl
  | findTable mem driver signature => cases driver <;> cases signature <;> rfl
  | setPowerState driver state => cases driver <;> rfl
  | suspendCpu driver => cases driver <;> rfl
  | setState driver state =>
    simp only [operation, statePut]
    rw [set_states]
    split <;> rfl

/-- A call is answered as the states allow. -/
theorem AcpiRegistries.operation_earned (w : AcpiRegistries) (call : AcpiOperation) :
    Earned w.states (call, (w.operation call).2) := by
  cases call with
  | init mem driver =>
    cases driver with
    | none => simp [Earned, operation, Served]
    | some ref =>
      intro success
      cases found : rsdpIn mem with
      | none => rw [operation, found] at success; cases success
      | some rsdp =>
        rw [w.operation_init found] at success
        have code : (w.bringUp mem ref rsdp).2 = .success := success
        have loaded := AcpiRegistry.load_success code
        rw [← w.withRsdp_states rsdp ref]
        exact loaded
  | loadTables mem driver =>
    cases driver with
    | none => simp [Earned, operation, Served]
    | some ref => exact fun success => AcpiRegistry.load_success success
  | findTable mem driver signature =>
    cases driver with
    | none => simp [Earned, operation, Served]
    | some ref =>
      cases signature with
      | none => simp [Earned, operation, Served]
      | some signature =>
        intro found
        by_contra other
        exact found (if_neg other)
  | setPowerState driver state =>
    cases driver with
    | none => simp [Earned, operation, Served]
    | some ref => rfl
  | suspendCpu driver =>
    cases driver with
    | none => simp [Earned, operation, Served]
    | some ref => rfl
  | setState ref state => trivial

/-- The processor is halted by the suspensions that succeed. -/
theorem AcpiRegistries.operation_halts (w : AcpiRegistries) (call : AcpiOperation) :
    (w.operation call).1.halts =
      w.halts + if isHalt (call, (w.operation call).2) then 1 else 0 := by
  cases call with
  | init mem driver =>
    cases driver with
    | none => rfl
    | some ref =>
      cases found : rsdpIn mem with
      | none => rw [operation, found]; rfl
      | some rsdp => rw [w.operation_init found]; rfl
  | loadTables mem driver => cases driver <;> rfl
  | findTable mem driver signature => cases driver <;> cases signature <;> rfl
  | setPowerState driver state => cases driver <;> rfl
  | suspendCpu driver =>
    cases driver with
    | none => rfl
    | some ref =>
      by_cases ready : (w.registry ref).state = .ready
      · simp [operation, isHalt, AcpiRegistry.service, ready]
      · simp [operation, isHalt, AcpiRegistry.service, ready]
  | setState ref state => rfl

/-- What the history of a run says about the system. -/
structure Lived (start : AcpiSystem) (past : List AcpiEvent) (s : AcpiSystem) : Prop where
  bounded : s.Bounded
  states : s.registries.states = stateAfter start.registries.states past
  halts : s.halts = start.halts + past.countP isHalt
  follows : Traces.Follows (fun past => Earned (stateAfter start.registries.states past)) [] past

variable {start s s' : AcpiSystem} {call : AcpiOperation} {reply : AcpiReply}

/-- A call that is carried out is the call on the registries. -/
theorem acpiOperation_eq_ok (bounded : s.Bounded) (done : acpiOperation s call = .ok (s', reply)) :
    s'.Bounded ∧ s'.registries = (s.registries.operation call).1 ∧
      reply = (s.registries.operation call).2 := by
  obtain ⟨answers, stops⟩ := acpiOperation_iff_fits bounded call
  by_cases fits : (s.registries.operation call).1.Fits
  · obtain ⟨next, answered, bounded', same⟩ := answers fits
    obtain ⟨rfl, rfl⟩ := Calls.done_unique answered done
    exact ⟨bounded', same, rfl⟩
  · obtain ⟨fault, stopped⟩ := stops fits
    rw [stopped] at done
    cases done

theorem Lived.operation {past : List AcpiEvent} (lived : Lived start past s)
    (done : acpiOperation s call = .ok (s', reply)) :
    Lived start (past ++ [(call, reply)]) s' := by
  obtain ⟨bounded', same, rfl⟩ := acpiOperation_eq_ok lived.bounded done
  refine ⟨bounded', ?_, ?_, ?_⟩
  · funext ref
    rw [same, AcpiRegistries.operation_states, stateAfter_snoc, lived.states]
  · calc s'.halts = s'.registries.halts := rfl
      _ = s.registries.halts + _ := by rw [same, AcpiRegistries.operation_halts]
      _ = s.halts + (if isHalt (call, (s.registries.operation call).2) then 1 else 0) := rfl
      _ = _ := by rw [lived.halts, List.countP_append, List.countP_singleton, Nat.add_assoc]
  · apply lived.follows.snoc
    rw [List.nil_append, ← lived.states]
    exact s.registries.operation_earned call

/-- The history of a run. -/
theorem lived_of_run (bounded : start.Bounded) {calls : List AcpiOperation}
    {replies : List AcpiReply} (ran : Calls.run acpiOperation start calls = .ok (s, replies)) :
    Lived start (calls.zip replies) s := by
  have fresh : Lived start [] start := ⟨bounded, rfl, rfl, trivial⟩
  have free := @Calls.everywhere_of_forall _ _ _ _ acpiOperation (fun _ _ => True)
    (fun _ _ => trivial) start calls
  exact Calls.run_history (Lived start)
    (fun _ _ _ _ _ lived _ done => lived.operation done) fresh free ran

/-- In every run of the driver's functions on both objects, the state of an object at each
moment is the last one its history puts it into, and every reply is the one this state allows:
a load or an `ACPI_Init` that succeeds finds its object initialising, a lookup that finds
anything finds it ready, and the two power functions succeed exactly on a ready object. The
processor is halted as often as `ACPI_SuspendCPU` has succeeded. -/
theorem acpi_lifecycle (start s : AcpiSystem) (bounded : start.Bounded)
    (calls : List AcpiOperation) (replies : List AcpiReply)
    (ran : Calls.run acpiOperation start calls = .ok (s, replies)) :
    (∀ ref, (s.objects.get ref).base.state =
        stateAfter (fun ref => (start.objects.get ref).base.state) (calls.zip replies) ref) ∧
      s.halts = start.halts + (calls.zip replies).countP isHalt ∧
      ∀ past event rest, calls.zip replies = past ++ event :: rest →
        Earned (stateAfter (fun ref => (start.objects.get ref).base.state) past) event := by
  have lived := lived_of_run bounded ran
  refine ⟨fun ref => congrFun lived.states ref, lived.halts, ?_⟩
  intro past event rest place
  exact lived.follows.split place

/-- An object that its owner prepares loads a table; the processor is halted once it is ready. -/
theorem acpi_lifecycle_prepared :
    ∃ s, Calls.run acpiOperation ⟨sampleObjects, 0⟩
        [.suspendCpu (some .object), .setState .object .initializing,
          .loadTables (sampleTables 0x20) (some .object), .setState .object .ready,
          .suspendCpu (some .object)] =
        .ok (s, [.code .invalidParameter, .done, .code .success, .done, .code .success]) ∧
      s.halts = 1 := by
  obtain ⟨s, ran⟩ : ∃ s, Calls.run acpiOperation ⟨sampleObjects, 0⟩
      [.suspendCpu (some .object), .setState .object .initializing,
        .loadTables (sampleTables 0x20) (some .object), .setState .object .ready,
        .suspendCpu (some .object)] =
      .ok (s, [.code .invalidParameter, .done, .code .success, .done, .code .success]) :=
    ⟨_, rfl⟩
  have lived := acpi_lifecycle ⟨sampleObjects, 0⟩ s (by intro ref; cases ref <;> decide) _ _ ran
  exact ⟨s, ran, lived.2.1⟩

/-- An event that is not its owner's brings an object up only if it is being initialised. -/
theorem statePut_of_down {state : AcpiRef → RtDriverState}
    (down : ∀ ref, state ref = .uninitialized) {event : AcpiEvent} (earned : Earned state event)
    (unprepared : ∀ ref state, event.1 ≠ .setState ref state) :
    ¬ Served event.2 ∧ ∀ ref, statePut ref event = none := by
  obtain ⟨call, reply⟩ := event
  have idle (needed : RtDriverState) (other : needed ≠ .uninitialized) (ref : AcpiRef)
      (earned : Served reply → state ref = needed) : ¬ Served reply := by
    intro served
    rw [down ref] at earned
    exact other (earned served).symm
  cases call with
  | init mem driver =>
    have refused : ¬ Served reply := by
      cases driver with
      | none => exact earned
      | some ref => exact idle .initializing (by decide) ref earned
    refine ⟨refused, fun ref => ?_⟩
    unfold statePut
    split
    · rename_i same
      cases same
    · rename_i same
      obtain ⟨-, rfl⟩ := Prod.mk.inj same
      exact absurd rfl refused
    · rfl
  | loadTables mem driver =>
    refine ⟨?_, fun _ => rfl⟩
    cases driver with
    | none => exact earned
    | some ref => exact idle .initializing (by decide) ref earned
  | findTable mem driver signature =>
    refine ⟨?_, fun _ => rfl⟩
    cases driver with
    | none => exact earned
    | some ref =>
      cases signature with
      | none => exact earned
      | some signature => exact idle .ready (by decide) ref earned
  | setPowerState driver power =>
    refine ⟨?_, fun _ => rfl⟩
    cases driver with
    | none => exact earned
    | some ref =>
      rw [show reply = _ from earned, down ref]
      exact nofun
  | suspendCpu driver =>
    refine ⟨?_, fun _ => rfl⟩
    cases driver with
    | none => exact earned
    | some ref =>
      rw [show reply = _ from earned, down ref]
      exact nofun
  | setState ref state => exact absurd rfl (unprepared ref state)

/-- Objects that no owner prepares stay down, and nothing is served on them. -/
theorem stateAfter_unprepared {state : AcpiRef → RtDriverState}
    (down : ∀ ref, state ref = .uninitialized) {past : List AcpiEvent}
    (follows : Traces.Follows (fun past => Earned (stateAfter state past)) [] past)
    (unprepared : ∀ event ∈ past, ∀ ref state, event.1 ≠ .setState ref state) :
    (∀ ref, stateAfter state past ref = .uninitialized) ∧ ∀ event ∈ past, ¬ Served event.2 := by
  induction past using List.reverseRecOn with
  | nil => exact ⟨down, fun _ mem => absurd mem List.not_mem_nil⟩
  | append_singleton past event ih =>
    have earlier := ((Traces.follows_append _ _ _).mp follows).1
    obtain ⟨before, refused⟩ := ih earlier fun event mem => unprepared event (by simp [mem])
    obtain ⟨unserved, kept⟩ := statePut_of_down before (follows.split rfl)
      (unprepared event (by simp))
    constructor
    · intro ref
      rw [stateAfter_snoc, kept ref]
      exact before ref
    · intro event' mem
      rcases List.mem_append.mp mem with old | new
      · exact refused event' old
      · rw [List.mem_singleton.mp new]
        exact unserved

/-- Objects that no owner prepares are never of any use: no call on them succeeds, they keep
their states, and the processor is not halted. -/
theorem acpi_stays_down (start s : AcpiSystem) (bounded : start.Bounded)
    (down : ∀ ref, (start.objects.get ref).base.state = .uninitialized)
    (calls : List AcpiOperation) (unprepared : ∀ ref state, .setState ref state ∉ calls)
    (replies : List AcpiReply)
    (ran : Calls.run acpiOperation start calls = .ok (s, replies)) :
    (∀ ref, (s.objects.get ref).base.state = .uninitialized) ∧ s.halts = start.halts ∧
      ∀ event ∈ calls.zip replies, ¬ Served event.2 := by
  have lived := lived_of_run bounded ran
  have absent : ∀ event ∈ calls.zip replies, ∀ ref state, event.1 ≠ .setState ref state := by
    rintro ⟨call, reply⟩ mem ref state rfl
    exact unprepared ref state (List.of_mem_zip mem).1
  obtain ⟨stays, refused⟩ := stateAfter_unprepared down lived.follows absent
  refine ⟨fun ref => (congrFun lived.states ref).trans (stays ref), ?_, refused⟩
  have unhalted : (calls.zip replies).countP isHalt = 0 := by
    rw [List.countP_eq_zero]
    intro event mem halted
    apply refused event mem
    unfold isHalt at halted
    split at halted
    · have success := eq_of_beq halted
      subst success
      rfl
    · cases halted
  rw [lived.halts, unhalted, Nat.add_zero]

end LamaOS
