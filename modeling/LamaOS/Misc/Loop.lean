import Mathlib.Init

/-!
# Loops that may not end

A loop whose body either goes on with a new state (`inl`) or leaves with a result (`inr`).
`run` bounds the number of passes, `Exits` says that some bound is enough. A fact about
every way the loop can leave, and the fact that it leaves at all, are both proved from an
assertion `Inv n s` on the state `s` reached after `n` passes.
-/

namespace LamaOS.Loop

variable {σ ρ : Type}

/-- At most `fuel` passes of the loop. -/
def run (step : σ → σ ⊕ ρ) : Nat → σ → Option ρ
  | 0, _ => none
  | fuel + 1, s =>
    match step s with
    | .inl s' => run step fuel s'
    | .inr r => some r

/-- The loop started in `s` leaves with the result `r`. -/
def Exits (step : σ → σ ⊕ ρ) (s : σ) (r : ρ) : Prop := ∃ fuel, run step fuel s = some r

/-- `n` passes lead from one state to another. -/
def Reaches (step : σ → σ ⊕ ρ) : Nat → σ → σ → Prop
  | 0, s, s' => s = s'
  | n + 1, s, s' => ∃ next, step s = .inl next ∧ Reaches step n next s'

variable {step : σ → σ ⊕ ρ}

theorem exits_of_inr {s : σ} {r : ρ} (h : step s = .inr r) : Exits step s r :=
  ⟨1, by simp [run, h]⟩

theorem exits_of_inl {s s' : σ} {r : ρ} (h : step s = .inl s') (later : Exits step s' r) :
    Exits step s r := by
  obtain ⟨fuel, run'⟩ := later
  exact ⟨fuel + 1, by simpa [run, h] using run'⟩

/-- Rule for invariants: an assertion that every pass carries on holds of every state that is
reached. -/
theorem reaches_inv (Inv : Nat → σ → Prop)
    (pass : ∀ n s s', Inv n s → step s = .inl s' → Inv (n + 1) s')
    {n : Nat} {s s' : σ} (start : Inv 0 s) (reached : Reaches step n s s') : Inv n s' := by
  have general : ∀ n k s, Inv k s → Reaches step n s s' → Inv (k + n) s' := by
    intro n
    induction n with
    | zero =>
      intro k s inv same
      obtain rfl : s = s' := same
      exact inv
    | succ n ih =>
      intro k s inv reached
      obtain ⟨next, hstep, later⟩ := reached
      rw [Nat.add_comm n 1, ← Nat.add_assoc]
      exact ih (k + 1) next (pass k s next inv hstep) later
  simpa using general n 0 s start reached

/-- Rule for results: if every pass carries the assertion on and every exit establishes
`Post`, then every result satisfies `Post` for the number of passes made before it. -/
theorem exits_post (Inv : Nat → σ → Prop) (Post : Nat → ρ → Prop)
    (pass : ∀ n s s', Inv n s → step s = .inl s' → Inv (n + 1) s')
    (leave : ∀ n s r, Inv n s → step s = .inr r → Post n r)
    {s : σ} {r : ρ} (start : Inv 0 s) (ends : Exits step s r) : ∃ n, Post n r := by
  obtain ⟨fuel, run'⟩ := ends
  have general : ∀ fuel n s, Inv n s → run step fuel s = some r → ∃ n, Post n r := by
    intro fuel
    induction fuel with
    | zero => intro n s _ h; simp [run] at h
    | succ fuel ih =>
      intro n s inv h
      cases hstep : step s with
      | inl s' =>
        rw [run, hstep] at h
        exact ih (n + 1) s' (pass n s s' inv hstep) h
      | inr r' =>
        rw [run, hstep] at h
        obtain rfl := Option.some.inj h
        exact ⟨n, leave n s r' inv hstep⟩
  exact general fuel 0 s start run'

/-- Rule for termination: the assertion admits a further pass only below `bound`. -/
theorem exists_exits (Inv : Nat → σ → Prop) (bound : Nat)
    (pass : ∀ n s s', Inv n s → step s = .inl s' → n < bound ∧ Inv (n + 1) s')
    {s : σ} (start : Inv 0 s) : ∃ r, Exits step s r := by
  have general : ∀ k n s, bound - n ≤ k → Inv n s → ∃ r, Exits step s r := by
    intro k
    induction k with
    | zero =>
      intro n s hk inv
      cases hstep : step s with
      | inl s' => have := (pass n s s' inv hstep).1; omega
      | inr r => exact ⟨r, exits_of_inr hstep⟩
    | succ k ih =>
      intro n s hk inv
      cases hstep : step s with
      | inl s' =>
        obtain ⟨below, inv'⟩ := pass n s s' inv hstep
        obtain ⟨r, later⟩ := ih (n + 1) s' (by omega) inv'
        exact ⟨r, exits_of_inl hstep later⟩
      | inr r => exact ⟨r, exits_of_inr hstep⟩
  exact general bound 0 s (by omega) start

/-- The loop leaves where some pass leaves it. -/
theorem exits_iff_reaches {s : σ} {r : ρ} :
    Exits step s r ↔ ∃ n s', Reaches step n s s' ∧ step s' = .inr r := by
  constructor
  · rintro ⟨fuel, ran⟩
    induction fuel generalizing s with
    | zero => simp [run] at ran
    | succ fuel ih =>
      rw [run] at ran
      cases first : step s with
      | inl next =>
        rw [first] at ran
        obtain ⟨n, s', reached, left⟩ := ih ran
        exact ⟨n + 1, s', ⟨next, first, reached⟩, left⟩
      | inr r' =>
        rw [first] at ran
        cases ran
        exact ⟨0, s, rfl, first⟩
  · rintro ⟨n, s', reached, left⟩
    induction n generalizing s with
    | zero =>
      obtain rfl : s = s' := reached
      exact exits_of_inr left
    | succ n ih =>
      obtain ⟨next, first, later⟩ := reached
      exact exits_of_inl first (ih later)

/-- A loop that is never left comes to every number of passes. -/
theorem reaches_of_endless {s : σ} (endless : ∀ r, ¬ Exits step s r) (n : Nat) :
    ∃ s', Reaches step n s s' := by
  induction n generalizing s with
  | zero => exact ⟨s, rfl⟩
  | succ n ih =>
    cases first : step s with
    | inl next =>
      have endless' : ∀ r, ¬ Exits step next r := by
        intro r later
        exact endless r (exits_of_inl first later)
      obtain ⟨s', later⟩ := ih endless'
      exact ⟨s', next, first, later⟩
    | inr r => exact absurd (exits_of_inr first) (endless r)

end LamaOS.Loop
