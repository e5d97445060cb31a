import Mathlib.Init

/-!
# Runs of calls

A component is a function that takes its state and a call to the next state and a reply, or
stops with a fault. `run` makes a list of calls one after the other and `spec` does the same
for a component that cannot fault. `run_refines` is the rule for proving that the one behaves
as the other: a relation between the two states that every call maintains; with
`run_refines_within` the one may have a limit that the other lacks, with `run_refines_seen` the
other is given what is seen of each call. `Everywhere` says that something holds of every call
of a run, `Always` that it holds of every state, and `gather` is what is seen along a run, which
`watched` keeps beside the state.
`run_history` is the rule for what the calls and replies
so far say about the state, `run_filter` the rule for leaving out calls that do nothing,
`run_project` the one for leaving out calls that do nothing to one part of the state; `recorded`
keeps the calls and replies so far beside the state.
-/

namespace LamaOS.Calls

variable {σ α ι ο ε β : Type}

/-- A call that is carried out leads to one state and has one reply. -/
theorem done_unique {result : Except ε (σ × ο)} {s s' : σ} {reply reply' : ο}
    (done : result = .ok (s, reply)) (done' : result = .ok (s', reply')) :
    s = s' ∧ reply = reply' := by
  rw [done] at done'
  exact Prod.mk.inj (Except.ok.inj done')

/-- The calls in order, up to the first fault. -/
def run (step : σ → ι → Except ε (σ × ο)) : σ → List ι → Except ε (σ × List ο)
  | s, [] => .ok (s, [])
  | s, call :: calls =>
    match step s call with
    | .error fault => .error fault
    | .ok (s', reply) => (run step s' calls).map fun rest => (rest.1, reply :: rest.2)

/-- A run that comes to its end has a first call that is carried out, and a run from where it
leads. -/
theorem run_cons {step : σ → ι → Except ε (σ × ο)} {s s' : σ} {call : ι} {calls : List ι}
    {replies : List ο} (ran : run step s (call :: calls) = .ok (s', replies)) :
    ∃ next reply rest, step s call = .ok (next, reply) ∧ run step next calls = .ok (s', rest) ∧
      replies = reply :: rest := by
  rw [run] at ran
  cases first : step s call with
  | error fault => rw [first] at ran; cases ran
  | ok result =>
    simp only [first] at ran
    cases later : run step result.1 calls with
    | error fault => rw [later] at ran; cases ran
    | ok result' =>
      rw [later] at ran
      obtain ⟨rfl, rfl⟩ := Prod.mk.inj (Except.ok.inj ran)
      exact ⟨result.1, result.2, result'.2, rfl, later, rfl⟩

/-- A run can be cut before its last call. -/
theorem run_snoc {step : σ → ι → Except ε (σ × ο)} {s s' : σ} {calls : List ι} {call : ι}
    {replies : List ο} (ran : run step s (calls ++ [call]) = .ok (s', replies)) :
    ∃ mid before reply, run step s calls = .ok (mid, before) ∧
      step mid call = .ok (s', reply) ∧ replies = before ++ [reply] := by
  induction calls generalizing s replies with
  | nil =>
    obtain ⟨next, reply, rest, first, later, rfl⟩ := run_cons ran
    obtain ⟨rfl, rfl⟩ := Prod.mk.inj (Except.ok.inj later)
    exact ⟨s, [], reply, rfl, first, rfl⟩
  | cons c calls ih =>
    obtain ⟨next, reply, rest, first, later, rfl⟩ := run_cons ran
    obtain ⟨mid, before, reply', ran', last, rfl⟩ := ih later
    exact ⟨mid, reply :: before, reply', by simp [run, first, ran', Except.map], last, rfl⟩

/-- A run goes on from where another one has ended. -/
theorem run_append {step : σ → ι → Except ε (σ × ο)} {s s' : σ} {calls : List ι}
    {replies : List ο} (ran : run step s calls = .ok (s', replies)) (more : List ι) :
    run step s (calls ++ more) =
      (run step s' more).map fun rest => (rest.1, replies ++ rest.2) := by
  induction calls generalizing s replies with
  | nil =>
    obtain ⟨rfl, rfl⟩ := Prod.mk.inj (Except.ok.inj ran)
    rw [List.nil_append]
    cases run step s more with
    | error fault => rfl
    | ok result => rfl
  | cons call calls ih =>
    obtain ⟨next, reply, rest, first, later, rfl⟩ := run_cons ran
    rw [List.cons_append, run, first]
    dsimp only
    rw [ih later]
    cases run step s' more with
    | error fault => rfl
    | ok result => rfl

theorem run_append_iff {step : σ → ι → Except ε (σ × ο)} {s s' s'' : σ} {calls more : List ι}
    {replies replies' : List ο} (ran : run step s calls = .ok (s', replies)) :
    run step s (calls ++ more) = .ok (s'', replies ++ replies') ↔
      run step s' more = .ok (s'', replies') := by
  rw [run_append ran]
  cases run step s' more with
  | error fault => simp [Except.map]
  | ok result => simp [Except.map, Prod.ext_iff]

/-- The calls of one kind among those of another. -/
theorem run_map {κ : Type} (step : σ → ι → Except ε (σ × ο)) (f : κ → ι) (s : σ)
    (calls : List κ) :
    run step s (calls.map f) = run (fun s call => step s (f call)) s calls := by
  induction calls generalizing s with
  | nil => rfl
  | cons call calls ih =>
    rw [List.map_cons, run, run]
    cases step s (f call) with
    | error fault => rfl
    | ok result => simp only [ih]

/-- The calls in order, for a component without faults. -/
def spec (abs : α → ι → α × ο) : α → List ι → α × List ο
  | a, [] => (a, [])
  | a, call :: calls =>
    let rest := spec abs (abs a call).1 calls
    (rest.1, (abs a call).2 :: rest.2)

/-- If every call is answered as the abstract component answers it and leads back to related
states, then a run from related states does not fault, gives the replies of the abstract run
and ends in related states. -/
theorem run_refines {step : σ → ι → Except ε (σ × ο)} {abs : α → ι → α × ο} (R : σ → α → Prop)
    (simulates : ∀ s a call, R s a →
      ∃ s', step s call = .ok (s', (abs a call).2) ∧ R s' (abs a call).1)
    {s : σ} {a : α} (related : R s a) (calls : List ι) :
    ∃ s', run step s calls = .ok (s', (spec abs a calls).2) ∧ R s' (spec abs a calls).1 := by
  induction calls generalizing s a with
  | nil => exact ⟨s, rfl, related⟩
  | cons call calls ih =>
    obtain ⟨s', first, related'⟩ := simulates s a call related
    obtain ⟨s'', rest, related''⟩ := ih related'
    exact ⟨s'', by simp [run, spec, first, rest, Except.map], related''⟩

/-- The rule for a component with a limit that the abstract one does not have. Every call that
the abstract component answers within the limit is answered as it answers it, every other one
faults, and what has gone over the limit stays over it. Then a run comes to its end exactly if
the abstract run ends within the limit, and it gives the replies of the abstract run. -/
theorem run_refines_within {step : σ → ι → Except ε (σ × ο)} {abs : α → ι → α × ο}
    (R : σ → α → Prop) (fits : α → Prop)
    (simulates : ∀ s a call, R s a → fits (abs a call).1 →
      ∃ s', step s call = .ok (s', (abs a call).2) ∧ R s' (abs a call).1)
    (stops : ∀ s a call, R s a → ¬ fits (abs a call).1 → ∃ fault, step s call = .error fault)
    (grows : ∀ a call, fits (abs a call).1 → fits a)
    {s : σ} {a : α} (related : R s a) (fit : fits a) (calls : List ι) :
    (fits (spec abs a calls).1 →
        ∃ s', run step s calls = .ok (s', (spec abs a calls).2) ∧ R s' (spec abs a calls).1) ∧
      (¬ fits (spec abs a calls).1 → ∃ fault, run step s calls = .error fault) := by
  have grows' (a : α) (calls : List ι) : fits (spec abs a calls).1 → fits a := by
    induction calls generalizing a with
    | nil => exact id
    | cons call calls ih => exact fun fit => grows a call (ih _ fit)
  induction calls generalizing s a with
  | nil => exact ⟨fun _ => ⟨s, rfl, related⟩, fun exceeds => absurd fit exceeds⟩
  | cons call calls ih =>
    by_cases next : fits (abs a call).1
    · obtain ⟨s', first, related'⟩ := simulates s a call related next
      obtain ⟨ends, faults⟩ := ih related' next
      constructor
      · intro fit'
        obtain ⟨s'', rest, related''⟩ := ends fit'
        exact ⟨s'', by simp [run, spec, first, rest, Except.map], related''⟩
      · intro exceeds
        obtain ⟨fault, rest⟩ := faults exceeds
        exact ⟨fault, by simp [run, first, rest, Except.map]⟩
    · obtain ⟨fault, first⟩ := stops s a call related next
      exact ⟨fun fit' => absurd (grows' _ calls fit') next, fun _ => ⟨fault, by simp [run, first]⟩⟩

/-- `P` holds of every call of a run and the state it is made in. -/
def Everywhere (step : σ → ι → Except ε (σ × ο)) (P : σ → ι → Prop) : σ → List ι → Prop
  | _, [] => True
  | s, call :: calls =>
    P s call ∧ ∀ s' reply, step s call = .ok (s', reply) → Everywhere step P s' calls

/-- One call that is carried out, and the rest of the run from where it leads. -/
theorem everywhere_cons {step : σ → ι → Except ε (σ × ο)} {P : σ → ι → Prop} {s s' : σ}
    {call : ι} {calls : List ι} {reply : ο} (done : step s call = .ok (s', reply))
    (here : P s call) (later : Everywhere step P s' calls) :
    Everywhere step P s (call :: calls) := by
  refine ⟨here, fun s'' reply' done' => ?_⟩
  obtain ⟨rfl, -⟩ := done_unique done done'
  exact later

theorem everywhere_of_forall {step : σ → ι → Except ε (σ × ο)} {P : σ → ι → Prop}
    (all : ∀ s call, P s call) (s : σ) (calls : List ι) : Everywhere step P s calls := by
  induction calls generalizing s with
  | nil => trivial
  | cons call calls ih => exact ⟨all s call, fun s' _ _ => ih s'⟩

/-- Where no call faults, a condition on the calls alone is one on each call of the run. -/
theorem everywhere_iff_forall {step : σ → ι → Except ε (σ × ο)} {P : ι → Prop}
    (total : ∀ s call, ∃ s' reply, step s call = .ok (s', reply)) {s : σ} {calls : List ι} :
    Everywhere step (fun _ => P) s calls ↔ ∀ call ∈ calls, P call := by
  induction calls generalizing s with
  | nil => simp [Everywhere]
  | cons call calls ih =>
    rw [Everywhere, List.forall_mem_cons]
    apply and_congr_right
    intro _
    constructor
    · intro later
      obtain ⟨s', reply, done⟩ := total s call
      exact ih.mp (later s' reply done)
    · intro all s' reply _
      exact ih.mpr all

/-- Two properties of calls agree along a run if they agree in the states of an invariant
that the calls with the property maintain. -/
theorem everywhere_iff {step : σ → ι → Except ε (σ × ο)} {P Q : σ → ι → Prop} (Inv : σ → Prop)
    (same : ∀ s call, Inv s → (P s call ↔ Q s call))
    (keeps : ∀ s call s' reply, Inv s → Q s call → step s call = .ok (s', reply) → Inv s')
    {s : σ} (start : Inv s) (calls : List ι) :
    Everywhere step P s calls ↔ Everywhere step Q s calls := by
  induction calls generalizing s with
  | nil => exact Iff.rfl
  | cons call calls ih =>
    rw [Everywhere, Everywhere, same s call start]
    apply and_congr_right
    intro here
    constructor
    · intro later s' reply step'
      exact (ih (keeps s call s' reply start here step')).mp (later s' reply step')
    · intro later s' reply step'
      exact (ih (keeps s call s' reply start here step')).mpr (later s' reply step')

/-- `P` holds of every state of a run. -/
def Always (step : σ → ι → Except ε (σ × ο)) (P : σ → Prop) : σ → List ι → Prop
  | s, [] => P s
  | s, call :: calls => P s ∧ ∀ s' reply, step s call = .ok (s', reply) → Always step P s' calls

theorem Always.here {step : σ → ι → Except ε (σ × ο)} {P : σ → Prop} {s : σ} {calls : List ι}
    (always : Always step P s calls) : P s := by
  cases calls with
  | nil => exact always
  | cons call calls => exact always.1

theorem Always.last {step : σ → ι → Except ε (σ × ο)} {P : σ → Prop} {s s' : σ}
    {calls : List ι} {replies : List ο} (always : Always step P s calls)
    (ran : run step s calls = .ok (s', replies)) : P s' := by
  induction calls generalizing s replies with
  | nil =>
    obtain ⟨rfl, -⟩ := Prod.mk.inj (Except.ok.inj ran)
    exact always
  | cons call calls ih =>
    obtain ⟨next, reply, rest, first, later, -⟩ := run_cons ran
    exact ih (always.2 next reply first) later

theorem Always.imp {step : σ → ι → Except ε (σ × ο)} {P Q : σ → Prop} {s : σ}
    {calls : List ι} (always : Always step P s calls) (weaker : ∀ s, P s → Q s) :
    Always step Q s calls := by
  induction calls generalizing s with
  | nil => exact weaker s always
  | cons call calls ih =>
    obtain ⟨here, later⟩ := always
    exact ⟨weaker s here, fun s' reply done => ih (later s' reply done)⟩

/-- Two properties that agree in the states of an invariant agree on runs through such states. -/
theorem Always.congr {step : σ → ι → Except ε (σ × ο)} {Inv P Q : σ → Prop} {s : σ}
    {calls : List ι} (invariant : Always step Inv s calls)
    (same : ∀ s, Inv s → (P s ↔ Q s)) : Always step P s calls ↔ Always step Q s calls := by
  induction calls generalizing s with
  | nil => exact same s invariant
  | cons call calls ih =>
    obtain ⟨here, later⟩ := invariant
    apply and_congr (same s here)
    constructor
    · intro all s' reply done
      exact (ih (later s' reply done)).mp (all s' reply done)
    · intro all s' reply done
      exact (ih (later s' reply done)).mpr (all s' reply done)

/-- A property that every call with an accepted reply keeps holds all along a run with accepted
replies. -/
theorem always_of_replies {step : σ → ι → Except ε (σ × ο)} {P : σ → Prop} {accepted : ο → Prop}
    (keeps : ∀ s call s' reply, P s → accepted reply → step s call = .ok (s', reply) → P s')
    {s s' : σ} {calls : List ι} {replies : List ο} (start : P s)
    (ran : run step s calls = .ok (s', replies)) (all : ∀ reply ∈ replies, accepted reply) :
    Always step P s calls := by
  induction calls generalizing s replies with
  | nil => exact start
  | cons call calls ih =>
    obtain ⟨next, reply, rest, first, later, rfl⟩ := run_cons ran
    refine ⟨start, fun next' reply' first' => ?_⟩
    obtain ⟨rfl, rfl⟩ := done_unique first first'
    exact ih (keeps s call next reply start (all reply List.mem_cons_self) first) later
      fun reply' mem => all reply' (List.mem_cons_of_mem _ mem)

/-- A property of states holds all along a run exactly when every call of the run meets a
condition, if from a state with the property these calls, and no others, lead to one. -/
theorem always_iff {step : σ → ι → Except ε (σ × ο)} {P : σ → Prop} {Q : σ → ι → Prop}
    (Inv : σ → Prop)
    (keeps : ∀ s call s' reply, Inv s → P s → Q s call → step s call = .ok (s', reply) →
      Inv s' ∧ P s')
    (breaks : ∀ s call, Inv s → P s → ¬ Q s call →
      ∃ s' reply, step s call = .ok (s', reply) ∧ ¬ P s')
    {s : σ} (start : Inv s) (here : P s) (calls : List ι) :
    Always step P s calls ↔ Everywhere step Q s calls := by
  induction calls generalizing s with
  | nil => exact ⟨fun _ => trivial, fun _ => here⟩
  | cons call calls ih =>
    constructor
    · rintro ⟨_, later⟩
      have allowed : Q s call := by
        apply Classical.byContradiction
        intro refused
        obtain ⟨s', reply, done, broken⟩ := breaks s call start here refused
        exact broken (later s' reply done).here
      refine ⟨allowed, fun s' reply done => ?_⟩
      obtain ⟨start', here'⟩ := keeps s call s' reply start here allowed done
      exact (ih start' here').mp (later s' reply done)
    · rintro ⟨allowed, later⟩
      refine ⟨here, fun s' reply done => ?_⟩
      obtain ⟨start', here'⟩ := keeps s call s' reply start here allowed done
      exact (ih start' here').mpr (later s' reply done)

/-- The same for the runs of calls that are allowed, by an invariant with the property. -/
theorem always_iff_of_everywhere {step : σ → ι → Except ε (σ × ο)} {P : σ → Prop}
    {A Q : σ → ι → Prop} (Inv : σ → Prop) (holds : ∀ s, Inv s → P s)
    (keeps : ∀ s call s' reply, Inv s → A s call → Q s call → step s call = .ok (s', reply) →
      Inv s')
    (breaks : ∀ s call, Inv s → ¬ Q s call → ∃ s' reply, step s call = .ok (s', reply) ∧ ¬ P s')
    {s : σ} {calls : List ι} (start : Inv s) (allowed : Everywhere step A s calls) :
    Always step P s calls ↔ Everywhere step Q s calls := by
  induction calls generalizing s with
  | nil => exact ⟨fun _ => trivial, fun _ => holds s start⟩
  | cons call calls ih =>
    constructor
    · rintro ⟨_, later⟩
      have meets : Q s call := by
        apply Classical.byContradiction
        intro fails
        obtain ⟨s', reply, done, broken⟩ := breaks s call start fails
        exact broken (later s' reply done).here
      refine ⟨meets, fun s' reply done => ?_⟩
      exact (ih (keeps s call s' reply start allowed.1 meets done) (allowed.2 s' reply done)).mp
        (later s' reply done)
    · rintro ⟨meets, later⟩
      refine ⟨holds s start, fun s' reply done => ?_⟩
      exact (ih (keeps s call s' reply start allowed.1 meets done) (allowed.2 s' reply done)).mpr
        (later s' reply done)

/-- A property that every call of a run keeps, in a state that allows the call, holds all along
the run. -/
theorem always_of_everywhere {step : σ → ι → Except ε (σ × ο)} {P : σ → Prop}
    {Q : σ → ι → Prop}
    (keeps : ∀ s call s' reply, P s → Q s call → step s call = .ok (s', reply) → P s')
    {s : σ} {calls : List ι} (start : P s) (allowed : Everywhere step Q s calls) :
    Always step P s calls := by
  induction calls generalizing s with
  | nil => exact start
  | cons call calls ih =>
    obtain ⟨here, later⟩ := allowed
    refine ⟨start, fun s' reply done => ?_⟩
    exact ih (keeps s call s' reply start here done) (later s' reply done)

/-- If every call from a state of an invariant is carried out and leads to one, then a run from
such a state comes to its end, and all along it the invariant holds. -/
theorem run_total {step : σ → ι → Except ε (σ × ο)} {Inv : σ → Prop}
    (total : ∀ s call, Inv s → ∃ s' reply, step s call = .ok (s', reply) ∧ Inv s')
    {s : σ} (start : Inv s) (calls : List ι) :
    Always step Inv s calls ∧ ∃ s' replies, run step s calls = .ok (s', replies) := by
  induction calls generalizing s with
  | nil => exact ⟨start, s, [], rfl⟩
  | cons call calls ih =>
    obtain ⟨next, reply, first, held⟩ := total s call start
    obtain ⟨always, s', replies, later⟩ := ih held
    refine ⟨⟨start, fun next' reply' first' => ?_⟩, s', reply :: replies, ?_⟩
    · obtain ⟨rfl, -⟩ := done_unique first first'
      exact always
    · simp [run, first, later, Except.map]

/-- Calls that change nothing and are answered by `idle` can be left out of a run: the other
calls are answered as before, and the run ends in the same state. -/
theorem run_filter {step : σ → ι → Except ε (σ × ο)} {Inv : σ → Prop} (noop : ι → Bool)
    (idle : ο) (stutters : ∀ s call, Inv s → noop call = true → step s call = .ok (s, idle))
    {s s' : σ} {calls : List ι} {replies : List ο} (always : Always step Inv s calls)
    (ran : run step s calls = .ok (s', replies)) :
    run step s (calls.filter fun call => !noop call) =
        .ok (s', ((calls.zip replies).filter fun event => !noop event.1).map Prod.snd) ∧
      ∀ event ∈ calls.zip replies, noop event.1 = true → event.2 = idle := by
  induction calls generalizing s replies with
  | nil =>
    obtain ⟨rfl, rfl⟩ := Prod.mk.inj (Except.ok.inj ran)
    exact ⟨rfl, fun _ mem => absurd mem List.not_mem_nil⟩
  | cons call calls ih =>
    obtain ⟨next, reply, rest, first, later, rfl⟩ := run_cons ran
    obtain ⟨filtered, idles⟩ := ih (always.2 next reply first) later
    rw [List.zip_cons_cons]
    cases isNoop : noop call with
    | true =>
      rw [stutters s call always.here isNoop] at first
      obtain ⟨rfl, rfl⟩ := Prod.mk.inj (Except.ok.inj first)
      refine ⟨by simpa [isNoop] using filtered, fun event mem isIdle => ?_⟩
      rcases List.mem_cons.mp mem with rfl | later'
      · rfl
      · exact idles event later' isIdle
    | false =>
      refine ⟨by simp [isNoop, run, first, filtered, Except.map], fun event mem isIdle => ?_⟩
      rcases List.mem_cons.mp mem with rfl | later'
      · simp [isNoop] at isIdle
      · exact idles event later' isIdle

/-- The calls that a relation between two states is not about can be left out of a run: if they
maintain the relation on their own, and every other call maintains it when it is made in both
states, and has one reply, then the run of the other calls from a related state ends in a
related one, and its replies are those of the whole run. -/
theorem run_project {step : σ → ι → Except ε (σ × ο)} (keep : ι → Bool) (R : σ → σ → Prop)
    (alike : ∀ s t call s' reply, R s t → keep call = true → step s call = .ok (s', reply) →
      ∃ t', step t call = .ok (t', reply) ∧ R s' t')
    (apart : ∀ s t call s' reply, R s t → keep call = false → step s call = .ok (s', reply) →
      R s' t)
    {s t s' : σ} {calls : List ι} {replies : List ο} (related : R s t)
    (ran : run step s calls = .ok (s', replies)) :
    ∃ t', run step t (calls.filter keep) =
        .ok (t', ((calls.zip replies).filter fun event => keep event.1).map Prod.snd) ∧
      R s' t' := by
  induction calls generalizing s t replies with
  | nil =>
    obtain ⟨rfl, rfl⟩ := Prod.mk.inj (Except.ok.inj ran)
    exact ⟨t, rfl, related⟩
  | cons call calls ih =>
    obtain ⟨next, reply, rest, first, later, rfl⟩ := run_cons ran
    rw [List.zip_cons_cons]
    cases kept : keep call with
    | true =>
      obtain ⟨t₁, first', related₁⟩ := alike s t call next reply related kept first
      obtain ⟨t', later', related'⟩ := ih related₁ later
      exact ⟨t', by simp [kept, run, first', later', Except.map], related'⟩
    | false =>
      obtain ⟨t', later', related'⟩ := ih (apart s t call next reply related kept first) later
      exact ⟨t', by simpa [kept] using later', related'⟩

/-- What holds between the ends of every call with a property, and is reflexive and transitive,
holds between the ends of a run of such calls. -/
theorem run_rel {step : σ → ι → Except ε (σ × ο)} {P : ι → Prop} (R : σ → σ → Prop)
    (refl : ∀ s, R s s) (trans : ∀ {a b c}, R a b → R b c → R a c)
    (one : ∀ s call s' reply, P call → step s call = .ok (s', reply) → R s s')
    {s s' : σ} {calls : List ι} {replies : List ο} (all : ∀ call ∈ calls, P call)
    (ran : run step s calls = .ok (s', replies)) : R s s' := by
  induction calls generalizing s replies with
  | nil =>
    obtain ⟨rfl, -⟩ := Prod.mk.inj (Except.ok.inj ran)
    exact refl s
  | cons call calls ih =>
    obtain ⟨next, reply, rest, first, later, -⟩ := run_cons ran
    rw [List.forall_mem_cons] at all
    exact trans (one s call next reply all.1 first) (ih all.2 later)

/-- What `observe` sees of the calls of a run, in order. -/
def gather (step : σ → ι → Except ε (σ × ο)) (observe : σ → ι → List β) : σ → List ι → List β
  | _, [] => []
  | s, call :: calls =>
    observe s call ++
      match step s call with
      | .error _ => []
      | .ok (s', _) => gather step observe s' calls

/-- A component with what has been seen of its calls so far. -/
def watched (step : σ → ι → Except ε (σ × ο)) (observe : σ → ι → List β) (world : σ × List β)
    (call : ι) : Except ε ((σ × List β) × ο) :=
  (step world.1 call).map fun done => ((done.1, world.2 ++ observe world.1 call), done.2)

theorem watched_eq_ok {step : σ → ι → Except ε (σ × ο)} {observe : σ → ι → List β}
    {world world' : σ × List β} {call : ι} {reply : ο}
    (done : watched step observe world call = .ok (world', reply)) :
    step world.1 call = .ok (world'.1, reply) ∧ world'.2 = world.2 ++ observe world.1 call := by
  rw [watched] at done
  cases first : step world.1 call with
  | error fault => rw [first] at done; cases done
  | ok result =>
    rw [first] at done
    obtain ⟨rfl, rfl⟩ := Prod.mk.inj (Except.ok.inj done)
    exact ⟨rfl, rfl⟩

/-- What has been seen at the end of a run is what is gathered along it. -/
theorem run_watched {step : σ → ι → Except ε (σ × ο)} {observe : σ → ι → List β} {s s' : σ}
    {calls : List ι} {replies : List ο} (ran : run step s calls = .ok (s', replies))
    (seen : List β) :
    run (watched step observe) (s, seen) calls =
      .ok ((s', seen ++ gather step observe s calls), replies) := by
  induction calls generalizing s seen replies with
  | nil =>
    obtain ⟨rfl, rfl⟩ := Prod.mk.inj (Except.ok.inj ran)
    rw [run, gather, List.append_nil]
  | cons call calls ih =>
    obtain ⟨next, reply, rest, first, later, rfl⟩ := run_cons ran
    have here : watched step observe (s, seen) call =
        .ok ((next, seen ++ observe s call), reply) := by
      rw [watched, first]
      rfl
    rw [run, here, gather, first]
    dsimp only
    rw [ih later, ← List.append_assoc]
    rfl

/-- What is seen of calls that look the same in every state. -/
theorem gather_eq_map {κ : Type} {step : σ → ι → Except ε (σ × ο)} {observe : σ → ι → List β}
    {f : κ → ι} {g : κ → β} (same : ∀ s call, observe s (f call) = [g call]) {s s' : σ}
    {calls : List κ} {replies : List ο} (ran : run step s (calls.map f) = .ok (s', replies)) :
    gather step observe s (calls.map f) = calls.map g := by
  induction calls generalizing s replies with
  | nil => rfl
  | cons call calls ih =>
    obtain ⟨next, reply, rest, first, later, rfl⟩ := run_cons ran
    rw [List.map_cons, gather, first, same, List.map_cons]
    exact congrArg (g call :: ·) (ih later)

/-- The rule of `run_refines` for an abstract component that is given of each call what is seen
of it in the state it is made in. -/
theorem run_refines_seen {κ : Type} {step : σ → ι → Except ε (σ × ο)} {abs : α → κ → α × ο}
    (see : σ → ι → κ) (R : σ → α → Prop)
    (simulates : ∀ s a call, R s a →
      ∃ s', step s call = .ok (s', (abs a (see s call)).2) ∧ R s' (abs a (see s call)).1)
    {s : σ} {a : α} (related : R s a) (calls : List ι) :
    ∃ s', run step s calls =
        .ok (s', (spec abs a (gather step (fun s call => [see s call]) s calls)).2) ∧
      R s' (spec abs a (gather step (fun s call => [see s call]) s calls)).1 := by
  induction calls generalizing s a with
  | nil => exact ⟨s, rfl, related⟩
  | cons call calls ih =>
    obtain ⟨s', first, related'⟩ := simulates s a call related
    obtain ⟨s'', rest, related''⟩ := ih related'
    refine ⟨s'', ?_, ?_⟩
    · simp [run, gather, spec, first, rest, Except.map]
    · rw [gather, first]
      exact related''

/-- What holds between the ends of a call, what is seen of it and its reply, holds between the
ends of a run, what is seen of the run and its replies, if it composes. -/
theorem gather_rel {step : σ → ι → Except ε (σ × ο)} {Inv : σ → Prop}
    {observe : σ → ι → List β} (Rel : σ → List β → List ο → σ → Prop)
    (nil : ∀ s, Rel s [] [] s)
    (comp : ∀ {a b c seen seen' replies replies'}, Rel a seen replies b →
      Rel b seen' replies' c → Rel a (seen ++ seen') (replies ++ replies') c)
    (one : ∀ s call s' reply, Inv s → step s call = .ok (s', reply) →
      Rel s (observe s call) [reply] s')
    {s s' : σ} {calls : List ι} {replies : List ο} (always : Always step Inv s calls)
    (ran : run step s calls = .ok (s', replies)) :
    Rel s (gather step observe s calls) replies s' := by
  induction calls generalizing s replies with
  | nil =>
    obtain ⟨rfl, rfl⟩ := Prod.mk.inj (Except.ok.inj ran)
    exact nil s
  | cons call calls ih =>
    obtain ⟨next, reply, rest, first, later, rfl⟩ := run_cons ran
    rw [gather, first]
    exact comp (one s call next reply always.here first) (ih (always.2 next reply first) later)

/-- An assertion about the past, as it was seen, and the present state that every permitted call
carries on holds at the end of a run of such calls. -/
theorem run_history_seen {κ : Type} {step : σ → ι → Except ε (σ × ο)} {P : σ → ι → Prop}
    (see : σ → ι → κ) (Inv : List (κ × ο) → σ → Prop)
    (keeps : ∀ past s call s' reply, Inv past s → P s call → step s call = .ok (s', reply) →
      Inv (past ++ [(see s call, reply)]) s')
    {past : List (κ × ο)} {s s' : σ} {calls : List ι} {replies : List ο} (start : Inv past s)
    (permitted : Everywhere step P s calls) (ran : run step s calls = .ok (s', replies)) :
    Inv (past ++ (gather step (fun s call => [see s call]) s calls).zip replies) s' := by
  induction calls generalizing past s replies with
  | nil =>
    obtain ⟨rfl, rfl⟩ := Prod.mk.inj (Except.ok.inj ran)
    simpa using start
  | cons call calls ih =>
    obtain ⟨next, reply, rest, first, later, rfl⟩ := run_cons ran
    have held := ih (keeps past s call next reply start permitted.1 first)
      (permitted.2 next reply first) later
    rw [List.append_assoc] at held
    rw [gather, first]
    exact held

/-- The same where the past is seen as it is. -/
theorem run_history {step : σ → ι → Except ε (σ × ο)} {P : σ → ι → Prop}
    (Inv : List (ι × ο) → σ → Prop)
    (keeps : ∀ past s call s' reply, Inv past s → P s call → step s call = .ok (s', reply) →
      Inv (past ++ [(call, reply)]) s')
    {past : List (ι × ο)} {s s' : σ} {calls : List ι} {replies : List ο} (start : Inv past s)
    (permitted : Everywhere step P s calls) (ran : run step s calls = .ok (s', replies)) :
    Inv (past ++ calls.zip replies) s' := by
  have held := run_history_seen (fun _ call => call) Inv keeps start permitted ran
  have all : gather step (fun _ call => [call]) s (calls.map id) = calls.map id :=
    gather_eq_map (f := id) (g := id) (fun _ _ => rfl) (by rw [List.map_id]; exact ran)
  rw [List.map_id] at all
  rwa [all] at held

/-- A component with the record of the calls it was given and its replies to them. -/
def recorded (step : σ → ι → Except ε (σ × ο)) (world : σ × List (ι × ο)) (call : ι) :
    Except ε ((σ × List (ι × ο)) × ο) :=
  (step world.1 call).map fun done => ((done.1, world.2 ++ [(call, done.2)]), done.2)

/-- A recorded call is a call of the component, and its event comes last in the record. -/
theorem recorded_eq_ok {step : σ → ι → Except ε (σ × ο)} {world world' : σ × List (ι × ο)}
    {call : ι} {reply : ο} (done : recorded step world call = .ok (world', reply)) :
    step world.1 call = .ok (world'.1, reply) ∧ world'.2 = world.2 ++ [(call, reply)] := by
  rw [recorded] at done
  cases first : step world.1 call with
  | error fault => rw [first] at done; cases done
  | ok result =>
    rw [first] at done
    obtain ⟨rfl, rfl⟩ := Prod.mk.inj (Except.ok.inj done)
    exact ⟨rfl, rfl⟩

end LamaOS.Calls
