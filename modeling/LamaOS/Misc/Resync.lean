import LamaOS.Misc.Framing

/-!
# Getting back into step

Two readers of one stream that stand at different places in a frame cut it differently. Where
they stand is a number, the length of the unfinished frame, and every item moves it on; only
the items that start no frame hold back a reader that stands between two frames. A word brings
all readers into step if it leads them to one place, and then they read the same frames from
there on. For frames of three items these words are told by a scan of at most three items at a
time, `synchronises`.
-/

namespace LamaOS.Framing

variable {β : Type} (starts : β → Bool) (tail : Nat)

/-- Where a reader stands after one more item. -/
def next (place : Nat) (b : β) : Nat :=
  if place = 0 ∧ starts b = false then 0 else if place < tail then place + 1 else 0

/-- Where a reader stands after a word. -/
def place (start : Nat) (bs : List β) : Nat := bs.foldl (next starts tail) start

/-- The word leads the readers from every place to one. -/
def InStep (bs : List β) : Prop :=
  ∀ p ≤ tail, place starts tail p bs = place starts tail 0 bs

variable {starts tail}

/-- A reader that is not back between two frames has moved on by one. -/
theorem next_of_ne_zero {p : Nat} {b : β} (inside : next starts tail p b ≠ 0) :
    next starts tail p b = p + 1 := by
  unfold next at inside ⊢
  split at inside
  · exact absurd rfl inside
  · rename_i used
    rw [if_neg used]
    split at inside
    · rename_i room
      rw [if_pos room]
    · exact absurd rfl inside

theorem push_length (part : List β) (b : β) :
    (push starts tail part b).1.length = next starts tail part.length b := by
  unfold push next
  by_cases skipped : part = [] ∧ starts b = false
  · rw [if_pos skipped, if_pos ⟨List.length_eq_zero_iff.mpr skipped.1, skipped.2⟩]
    rfl
  · have begun : ¬ (part.length = 0 ∧ starts b = false) := by
      rwa [List.length_eq_zero_iff]
    rw [if_neg skipped, if_neg begun]
    by_cases room : part.length < tail
    · rw [if_pos room, if_pos room]
      exact List.length_append
    · rw [if_neg room, if_neg room]
      rfl

/-- A reader stands where its unfinished frame ends. -/
theorem feed_length (part bs : List β) :
    (feed starts tail part bs).2.length = place starts tail part.length bs := by
  induction bs generalizing part with
  | nil => rfl
  | cons b bs ih =>
    rw [feed, place, List.foldl_cons, ← push_length]
    exact ih _

theorem feed_append (part first second : List β) :
    feed starts tail part (first ++ second) =
      ((feed starts tail part first).1 ++
          (feed starts tail (feed starts tail part first).2 second).1,
        (feed starts tail (feed starts tail part first).2 second).2) := by
  induction first generalizing part with
  | nil => rfl
  | cons b first ih => simp only [List.cons_append, feed, ih, List.append_assoc]

theorem feed_partial {part : List β} (h : Partial starts tail part) (bs : List β) :
    Partial starts tail (feed starts tail part bs).2 := by
  induction bs generalizing part with
  | nil => exact h
  | cons b bs ih => exact ih (partial_push h b)

/-- Readers at different places meet between two frames. -/
theorem exists_meeting {p q : Nat} {bs : List β} (apart : p ≠ q)
    (met : place starts tail p bs = place starts tail q bs) :
    ∃ before after, bs = before ++ after ∧ place starts tail p before = 0 ∧
      place starts tail q before = 0 := by
  induction bs generalizing p q with
  | nil => exact absurd met apart
  | cons b bs ih =>
    by_cases same : next starts tail p b = next starts tail q b
    · have zero : next starts tail p b = 0 := by
        by_contra inside
        have onward := next_of_ne_zero inside
        rw [same] at inside onward
        exact apart (Nat.succ_inj.mp (onward.symm.trans (next_of_ne_zero inside)))
      exact ⟨[b], bs, rfl, zero, same.symm.trans zero⟩
    · obtain ⟨before, after, rfl, here, there⟩ := ih same met
      exact ⟨b :: before, after, rfl, here, there⟩

/-- A reader that has met one from the start of the word holds what that one holds. -/
theorem feed_of_met {part bs : List β} (h : Partial starts tail part)
    (met : place starts tail part.length bs = place starts tail 0 bs) :
    (feed starts tail part bs).2 = (feed starts tail [] bs).2 := by
  cases part with
  | nil => rfl
  | cons b part =>
    obtain ⟨before, after, rfl, here, there⟩ := exists_meeting (Nat.succ_ne_zero part.length) met
    have held : (feed starts tail (b :: part) before).2 = [] := by
      rw [← List.length_eq_zero_iff, feed_length]
      exact here
    have fresh : (feed starts tail [] before).2 = [] := by
      rw [← List.length_eq_zero_iff, feed_length]
      exact there
    rw [feed_append, feed_append, held, fresh]

/-- A reader that a word has brought into step holds what a reader from the start of the word
holds. -/
theorem feed_of_inStep {part bs : List β} (h : Partial starts tail part)
    (inStep : InStep starts tail bs) :
    (feed starts tail part bs).2 = (feed starts tail [] bs).2 :=
  feed_of_met h (inStep part.length h.short)

/-- Readers at different places cut what comes next differently: of items that may begin a frame
there are just enough for the one that is further on to complete its frame. -/
theorem exists_cut_differently (filler : β) {part part' : List β}
    (h' : Partial starts tail part') (behind : part.length < part'.length) :
    ∃ rest, (feed starts tail part rest).1.length ≠ (feed starts tail part' rest).1.length := by
  have short := h'.short
  have begun : part' ≠ [] := by
    rintro rfl
    exact Nat.not_lt_zero _ behind
  refine ⟨List.replicate (tail + 1 - part'.length) filler, ?_⟩
  rw [feed_filler_short (by omega), feed_filler_full begun short (by omega)]
  exact Nat.zero_ne_one

/-! ## Frames of three items -/

/-- A reader between two frames and one that waits for its last item, before items that may
begin a frame (`true`) or not (`false`): they get into step. -/
def closesUp : List Bool → Bool
  | false :: _ => true
  | true :: false :: word => closesUp word
  | true :: true :: _ :: word => closesUp word
  | _ => false

/-- The words that bring the readers from all three places into step. -/
def synchronises : List Bool → Bool
  | true :: word => synchronises word
  | false :: word => closesUp word
  | [] => false

theorem next_two (p : Nat) (b : β) :
    next starts 2 p b = if p = 0 then (if starts b then 1 else 0) else if p = 1 then 2 else 0 := by
  unfold next
  by_cases zero : p = 0
  · subst zero
    cases starts b <;> rfl
  · by_cases one : p = 1
    · subst one
      rfl
    · have far : ¬ p < 2 := by omega
      simp [zero, one, far]

theorem place_cons (p : Nat) (b : β) (bs : List β) :
    place starts tail p (b :: bs) = place starts tail (next starts tail p b) bs :=
  rfl

theorem closesUp_iff : ∀ bs : List β,
    place starts 2 2 bs = place starts 2 0 bs ↔ closesUp (bs.map starts) = true
  | [] => by simp [place, closesUp]
  | [b] => by
    cases hb : starts b with
    | false => simp [place, next_two, closesUp, hb]
    | true => simp [place, next_two, closesUp, hb]
  | [b, c] => by
    cases hb : starts b with
    | false => simp [place, next_two, closesUp, hb]
    | true =>
      cases hc : starts c with
      | false => simp [place, next_two, closesUp, hb, hc]
      | true => simp [place, next_two, closesUp, hb, hc]
  | b :: c :: d :: bs => by
    cases hb : starts b with
    | false => simp [place_cons, next_two, closesUp, hb]
    | true =>
      cases hc : starts c with
      | false =>
        -- the two have changed places
        have swapped := closesUp_iff (d :: bs)
        rw [eq_comm]
        simpa [place_cons, next_two, closesUp, hb, hc] using swapped
      | true =>
        -- one is two items behind the other, whatever the third item is
        have later := closesUp_iff bs
        simpa [place_cons, next_two, closesUp, hb, hc] using later

theorem inStep_two (bs : List β) :
    InStep starts 2 bs ↔
      place starts 2 1 bs = place starts 2 0 bs ∧ place starts 2 2 bs = place starts 2 0 bs := by
  constructor
  · intro inStep
    exact ⟨inStep 1 (by decide), inStep 2 (by decide)⟩
  · rintro ⟨one, two⟩ p below
    match p, below with
    | 0, _ => rfl
    | 1, _ => exact one
    | 2, _ => exact two

/-- The words that bring the readers of frames of three items into step. -/
theorem inStep_two_iff (bs : List β) :
    InStep starts 2 bs ↔ synchronises (bs.map starts) = true := by
  rw [inStep_two]
  induction bs with
  | nil => simp [place, synchronises]
  | cons b bs ih =>
    cases hb : starts b with
    | false => simp [place_cons, next_two, synchronises, hb, closesUp_iff]
    | true =>
      -- all three move on by one, and none of them meets another
      simp only [place_cons, next_two, hb, synchronises, List.map_cons, ← ih]
      constructor
      · rintro ⟨one, two⟩
        exact ⟨two.symm, one.trans two.symm⟩
      · rintro ⟨one, two⟩
        exact ⟨two.trans one.symm, one.symm⟩

end LamaOS.Framing
