import Mathlib.Data.List.Forall2

/-!
# Fixed-length frames in an unsynchronised stream

A stream is cut into frames of `tail + 1` items. A frame begins at an item that `starts`
accepts; other items between frames are skipped, and the `tail` items after the first one
belong to the frame whatever they are. `parse` reads the whole stream at once, `feed` takes
it item by item with the unfinished frame as its only state, and the two agree.
-/

namespace LamaOS.Framing

variable {β : Type} (starts : β → Bool) (tail : Nat)

/-- The frames of a stream, and the unfinished frame at its end. -/
def parse : List β → List (List β) × List β
  | [] => ([], [])
  | b :: bs =>
    if starts b then
      if bs.length < tail then ([], b :: bs)
      else
        let rest := parse (bs.drop tail)
        ((b :: bs.take tail) :: rest.1, rest.2)
    else parse bs
termination_by stream => stream.length
decreasing_by
  · simp only [List.length_drop, List.length_cons]; omega
  · simp

/-- One more item after the unfinished frame `part`: the new unfinished frame, and the frame
that the item completes. -/
def push (part : List β) (b : β) : List β × Option (List β) :=
  if part = [] ∧ starts b = false then ([], none)
  else if part.length < tail then (part ++ [b], none)
  else ([], some (part ++ [b]))

/-- Item-by-item reading of a stream. -/
def feed : List β → List β → List (List β) × List β
  | part, [] => ([], part)
  | part, b :: bs =>
    let pushed := push starts tail part b
    let rest := feed pushed.1 bs
    (pushed.2.toList ++ rest.1, rest.2)

/-- An unfinished frame: shorter than a frame, and begun at an accepted item. -/
structure Partial (part : List β) : Prop where
  short : part.length ≤ tail
  begun : ∀ b ∈ part.head?, starts b = true

variable {starts tail}

theorem partial_nil : Partial starts tail [] := ⟨Nat.zero_le _, by simp⟩

theorem parse_cons_of_not_starts {b : β} {bs : List β} (h : starts b = false) :
    parse starts tail (b :: bs) = parse starts tail bs := by
  rw [parse, if_neg (by simp [h])]

/-- A complete frame at the head of the stream is split off. -/
theorem parse_frame {b : β} (ts rest : List β) (h : starts b = true)
    (full : ts.length = tail) :
    parse starts tail (b :: ts ++ rest) =
      ((b :: ts) :: (parse starts tail rest).1, (parse starts tail rest).2) := by
  rw [List.cons_append, parse, if_pos h, if_neg (by simp; omega), ← full,
    List.take_left, List.drop_left]

/-- An unfinished frame alone is left over. -/
theorem parse_of_partial {part : List β} (h : Partial starts tail part) :
    parse starts tail part = ([], part) := by
  cases part with
  | nil => rw [parse]
  | cons b bs =>
    have short : bs.length < tail := h.short
    rw [parse, if_pos (h.begun b rfl), if_pos short]

/-- Items that start nothing are skipped. -/
theorem parse_skip {junk : List β} (rest : List β) (h : ∀ b ∈ junk, starts b = false) :
    parse starts tail (junk ++ rest) = parse starts tail rest := by
  induction junk with
  | nil => rfl
  | cons b junk ih =>
    rw [List.cons_append, parse_cons_of_not_starts (h b List.mem_cons_self),
      ih fun c hc => h c (List.mem_cons_of_mem _ hc)]

theorem partial_push {part : List β} (h : Partial starts tail part) (b : β) :
    Partial starts tail (push starts tail part b).1 := by
  unfold push
  split
  · exact partial_nil
  split
  · rename_i used room
    refine ⟨by simpa using Nat.succ_le_of_lt room, ?_⟩
    cases part with
    | nil => simpa using used
    | cons c cs => simpa using h.begun
  · exact partial_nil

/-- Reading item by item from an unfinished frame is parsing it together with the rest of
the stream. -/
theorem feed_eq_parse {part : List β} (h : Partial starts tail part) (bs : List β) :
    feed starts tail part bs = parse starts tail (part ++ bs) := by
  induction bs generalizing part with
  | nil => rw [feed, List.append_nil, parse_of_partial h]
  | cons b bs ih =>
    have next := ih (partial_push h b)
    rw [feed, next]
    unfold push
    by_cases skipped : part = [] ∧ starts b = false
    · obtain ⟨rfl, hb⟩ := skipped
      simp [hb, parse_cons_of_not_starts]
    rw [if_neg skipped]
    by_cases room : part.length < tail
    · simp [room]
    · -- the item completes the frame
      rw [if_neg room]
      have full : part.length = tail := by have := h.short; omega
      simp only [Option.toList_some, List.nil_append, List.singleton_append]
      cases part with
      | nil =>
        have hb : starts b = true := by simpa using skipped
        exact (parse_frame [] bs hb full).symm
      | cons c cs =>
        have frame := parse_frame (cs ++ [b]) bs (h.begun c rfl) (by simpa using full)
        simpa using frame.symm

/-- Every frame starts at an accepted item and has the full length. -/
theorem mem_parse {stream frame : List β} (h : frame ∈ (parse starts tail stream).1) :
    ∃ b ts, frame = b :: ts ∧ starts b = true ∧ ts.length = tail := by
  fun_induction parse starts tail stream with
  | case1 => simp at h
  | case2 b bs hb short => simp at h
  | case3 b bs hb full rest ih =>
    rcases List.mem_cons.mp h with rfl | later
    · exact ⟨b, _, rfl, hb, by rw [List.length_take]; omega⟩
    · exact ih later
  | case4 b bs hb ih => exact ih h

/-! ## What is left of an unfinished frame -/

/-- Too few items complete no frame. -/
theorem feed_filler_short {filler : β} {part : List β} {n : Nat}
    (short : part.length + n ≤ tail) :
    (feed starts tail part (List.replicate n filler)).1 = [] := by
  induction n generalizing part with
  | zero => rfl
  | succ n ih =>
    rw [List.replicate_succ, feed]
    unfold push
    split
    · exact ih (by rw [List.length_nil]; omega)
    · rw [if_pos (by omega)]
      exact ih (by rw [List.length_append, List.length_singleton]; omega)

/-- A begun frame is completed by whatever comes next. -/
theorem feed_filler_full {filler : β} {part : List β} {n : Nat} (begun : part ≠ [])
    (short : part.length ≤ tail) (full : part.length + n = tail + 1) :
    (feed starts tail part (List.replicate n filler)).1 = [part ++ List.replicate n filler] := by
  induction n generalizing part with
  | zero => omega
  | succ n ih =>
    rw [List.replicate_succ, feed]
    unfold push
    rw [if_neg fun none => begun none.1]
    by_cases room : part.length < tail
    · rw [if_pos room]
      have longer : (feed starts tail (part ++ [filler]) (List.replicate n filler)).1 =
          [part ++ [filler] ++ List.replicate n filler] := ih (by simp)
        (by rw [List.length_append, List.length_singleton]; omega)
        (by rw [List.length_append, List.length_singleton]; omega)
      rw [List.append_assoc] at longer
      exact longer
    · rw [if_neg room]
      obtain rfl : n = 0 := by omega
      rfl

/-- Two frames are the same but for what `mask` hides of their first items. -/
def Masked (mask : β → β) (part part' : List β) : Prop :=
  part.modifyHead mask = part'.modifyHead mask

variable {mask : β → β}

theorem Masked.append {part part' : List β} (same : Masked mask part part') (bs : List β) :
    Masked mask (part ++ bs) (part' ++ bs) := by
  cases part with
  | nil =>
    cases part' with
    | nil => rfl
    | cons _ _ => cases same
  | cons b part =>
    cases part' with
    | nil => cases same
    | cons b' part' =>
      obtain ⟨head, rfl⟩ := List.cons.inj same
      exact congrArg (· :: _) head

theorem Masked.of_append {part part' bs : List β} (begun : part ≠ []) (begun' : part' ≠ [])
    (same : Masked mask (part ++ bs) (part' ++ bs)) : Masked mask part part' := by
  obtain ⟨b, part, rfl⟩ := List.exists_cons_of_ne_nil begun
  obtain ⟨b', part', rfl⟩ := List.exists_cons_of_ne_nil begun'
  obtain ⟨head, rest⟩ := List.cons.inj same
  rw [List.append_cancel_right rest]
  exact congrArg (· :: _) head

/-- After unfinished frames that are the same but for what is hidden, a stream gives frames
that are the same but for what is hidden. -/
theorem feed_masked {part part' : List β} (same : Masked mask part part') (bs : List β) :
    List.Forall₂ (Masked mask) (feed starts tail part bs).1 (feed starts tail part' bs).1 := by
  induction bs generalizing part part' with
  | nil => exact .nil
  | cons b bs ih =>
    cases part with
    | nil =>
      cases part' with
      | nil => exact List.forall₂_same.mpr fun _ _ => rfl
      | cons _ _ => cases same
    | cons c part =>
      cases part' with
      | nil => cases same
      | cons c' part' =>
        have length : (c :: part).length = (c' :: part').length := by
          simpa using congrArg List.length same
        simp only [feed, push, List.cons_ne_nil, false_and, if_false, ← length]
        split
        · exact ih (same.append [b])
        · exact .cons (same.append [b]) (ih rfl)

end LamaOS.Framing
