import Mathlib.Data.List.Basic

/-!
# Forms of text

A form says how values are written as text and how they are read back from the beginning of
one. What is read is what was written and nothing else: reading succeeds exactly on texts that
begin with a value as it is written, and leaves the rest. Forms are put together from fixed
texts and fields that end with a mark; the law of the whole follows from those of the parts. A
text that is a sequence of values without anything between them is read by `readAll`.
-/

namespace LamaOS

/-- A way to write the values that are `Good`, and to read them. -/
structure Form (β α : Type) where
  Good : α → Prop
  write : α → List β
  read : List β → Option (α × List β)
  read_eq_some_iff : ∀ {text a rest},
    read text = some (a, rest) ↔ Good a ∧ text = write a ++ rest

namespace Form

variable {β α γ : Type}

/-! ## Parts -/

section

variable [DecidableEq β]

/-- A text that is always the same. -/
def literal (text : List β) : Form β Unit where
  Good _ := True
  write _ := text
  read input := if text <+: input then some ((), input.drop text.length) else none
  read_eq_some_iff := by
    intro input a rest
    rw [true_and]
    constructor
    · intro reads
      split at reads
      · rename_i begins
        obtain ⟨behind, rfl⟩ := begins
        have left := (Prod.mk.inj (Option.some.inj reads)).2
        rw [List.drop_left] at left
        rw [left]
      · cases reads
    · rintro rfl
      rw [if_pos (List.prefix_append text rest), List.drop_left]

/-- The text in front of the first mark, and the text behind it. -/
def readField (mark : β) : List β → Option (List β × List β)
  | [] => none
  | b :: input =>
    if b = mark then some ([], input)
    else (readField mark input).map fun found => (b :: found.1, found.2)

theorem readField_eq_some_iff {mark : β} {input field rest : List β} :
    readField mark input = some (field, rest) ↔ mark ∉ field ∧ input = field ++ mark :: rest := by
  induction input generalizing field with
  | nil => simp [readField]
  | cons b input ih =>
    rw [readField]
    by_cases marked : b = mark
    · subst marked
      rw [if_pos rfl]
      cases field with
      | nil => simp
      | cons c field =>
        simp only [Option.some.injEq, Prod.mk.injEq, reduceCtorEq, false_and, List.mem_cons,
          not_or, List.cons_append, List.cons.injEq, false_iff, not_and]
        exact fun absent same => absurd same absent.1
    · rw [if_neg marked, Option.map_eq_some_iff]
      constructor
      · rintro ⟨⟨field', rest'⟩, found, same⟩
        obtain ⟨rfl, rfl⟩ := Prod.mk.inj same
        obtain ⟨absent, rfl⟩ := ih.mp found
        exact ⟨by simp [absent, Ne.symm marked], rfl⟩
      · rintro ⟨absent, same⟩
        cases field with
        | nil => exact absurd (List.cons.inj same).1 marked
        | cons c field =>
          obtain ⟨rfl, rfl⟩ := List.cons.inj same
          have absent' : mark ∉ field := fun mem => absent (List.mem_cons_of_mem _ mem)
          exact ⟨(field, rest), ih.mpr ⟨absent', rfl⟩, rfl⟩

/-- A text that a mark ends, which is not in it. -/
def field (mark : β) : Form β (List β) where
  Good text := mark ∉ text
  write text := text ++ [mark]
  read := readField mark
  read_eq_some_iff := by
    intro input text rest
    rw [readField_eq_some_iff, List.append_assoc, List.singleton_append]

end

/-- One value behind another. -/
def pair (first : Form β α) (second : Form β γ) : Form β (α × γ) where
  Good values := first.Good values.1 ∧ second.Good values.2
  write values := first.write values.1 ++ second.write values.2
  read text := (first.read text).bind fun found =>
    (second.read found.2).map fun found' => ((found.1, found'.1), found'.2)
  read_eq_some_iff := by
    rintro text ⟨a, c⟩ rest
    simp only [Option.bind_eq_some_iff, Option.map_eq_some_iff, Prod.mk.injEq]
    constructor
    · rintro ⟨⟨a', between⟩, found, ⟨c', rest'⟩, found', ⟨rfl, rfl⟩, rfl⟩
      obtain ⟨good, rfl⟩ := first.read_eq_some_iff.mp found
      obtain ⟨good', rfl⟩ := second.read_eq_some_iff.mp found'
      exact ⟨⟨good, good'⟩, (List.append_assoc _ _ _).symm⟩
    · rintro ⟨⟨good, good'⟩, rfl⟩
      rw [List.append_assoc]
      exact ⟨(a, _), first.read_eq_some_iff.mpr ⟨good, rfl⟩, (c, rest),
        second.read_eq_some_iff.mpr ⟨good', rfl⟩, ⟨rfl, rfl⟩, rfl⟩

/-- Values that are written as other ones are. -/
def via (form : Form β α) (read : α → Option γ) (write : γ → α)
    (law : ∀ a c, read a = some c ↔ a = write c) : Form β γ where
  Good c := form.Good (write c)
  write c := form.write (write c)
  read text := (form.read text).bind fun found => (read found.1).map fun c => (c, found.2)
  read_eq_some_iff := by
    intro text c rest
    simp only [Option.bind_eq_some_iff, Option.map_eq_some_iff, Prod.mk.injEq]
    constructor
    · rintro ⟨⟨a, rest'⟩, found, c', reads, rfl, rfl⟩
      obtain rfl := (law _ _).mp reads
      exact form.read_eq_some_iff.mp found
    · intro written
      exact ⟨(write c, rest), form.read_eq_some_iff.mpr written, c, (law _ _).mpr rfl, rfl, rfl⟩

/-- Values that are written as blocks, each with the length that its first letter tells: what a
block seems to say is what it says if it is written so. -/
def block [DecidableEq β] (size : β → Nat) (guess : List β → Option α) (write : α → List β)
    (sized : ∀ a, ∃ b text, write a = b :: text ∧ size b = (write a).length)
    (guessed : ∀ a, guess (write a) = some a) : Form β α where
  Good _ := True
  write := write
  read text := text.head?.bind fun b =>
    (guess (text.take (size b))).bind fun a =>
      if write a = text.take (size b) then some (a, text.drop (size b)) else none
  read_eq_some_iff := by
    intro text a rest
    rw [true_and]
    constructor
    · intro reads
      obtain ⟨b, -, reads⟩ := Option.bind_eq_some_iff.mp reads
      obtain ⟨a', -, reads⟩ := Option.bind_eq_some_iff.mp reads
      split at reads
      · rename_i written
        obtain ⟨rfl, rfl⟩ := Prod.mk.inj (Option.some.inj reads)
        rw [written, List.take_append_drop]
      · cases reads
    · rintro rfl
      obtain ⟨b, text, begins, length⟩ := sized a
      have head : (write a ++ rest).head? = some b := by rw [begins]; rfl
      rw [head, Option.bind_some, length, List.take_left, List.drop_left, guessed,
        Option.bind_some, if_pos rfl]

section

variable [DecidableEq β]

@[simp] theorem literal_write (text : List β) (a : Unit) : (literal text).write a = text := rfl

@[simp] theorem literal_good (text : List β) (a : Unit) : (literal text).Good a := trivial

@[simp] theorem field_write (mark : β) (text : List β) :
    (field mark).write text = text ++ [mark] := rfl

@[simp] theorem field_good (mark : β) (text : List β) :
    (field mark).Good text ↔ mark ∉ text := Iff.rfl

end

@[simp] theorem pair_write (first : Form β α) (second : Form β γ) (values : α × γ) :
    (first.pair second).write values = first.write values.1 ++ second.write values.2 := rfl

@[simp] theorem pair_good (first : Form β α) (second : Form β γ) (values : α × γ) :
    (first.pair second).Good values ↔ first.Good values.1 ∧ second.Good values.2 := Iff.rfl

@[simp] theorem via_write (form : Form β α) {read : α → Option γ} {write : γ → α}
    (law : ∀ a c, read a = some c ↔ a = write c) (c : γ) :
    (form.via read write law).write c = form.write (write c) := rfl

@[simp] theorem via_good (form : Form β α) {read : α → Option γ} {write : γ → α}
    (law : ∀ a c, read a = some c ↔ a = write c) (c : γ) :
    (form.via read write law).Good c ↔ form.Good (write c) := Iff.rfl

/-! ## Sequences -/

/-- At most `n` values, up to the end of the text. -/
def readUpTo (form : Form β α) : Nat → List β → Option (List α)
  | _, [] => some []
  | 0, _ :: _ => none
  | n + 1, b :: text =>
    (form.read (b :: text)).bind fun found => (form.readUpTo n found.2).map (found.1 :: ·)

/-- All values of a text. -/
def readAll (form : Form β α) (text : List β) : Option (List α) :=
  form.readUpTo text.length text

theorem readUpTo_eq_some_iff (form : Form β α) (visible : ∀ a, form.write a ≠ []) {n : Nat}
    {text : List β} (enough : text.length ≤ n) {values : List α} :
    form.readUpTo n text = some values ↔
      (∀ a ∈ values, form.Good a) ∧ text = values.flatMap form.write := by
  induction n generalizing text values with
  | zero =>
    obtain rfl := List.eq_nil_of_length_eq_zero (Nat.le_zero.mp enough)
    cases values with
    | nil => simp [readUpTo]
    | cons a values => simp [readUpTo, visible a]
  | succ n ih =>
    cases text with
    | nil =>
      cases values with
      | nil => simp [readUpTo]
      | cons a values => simp [readUpTo, visible a]
    | cons b text =>
      simp only [readUpTo, Option.bind_eq_some_iff, Option.map_eq_some_iff]
      constructor
      · rintro ⟨⟨a, rest⟩, found, later, reads, rfl⟩
        obtain ⟨good, same⟩ := form.read_eq_some_iff.mp found
        have shorter : rest.length ≤ n := by
          have length := congrArg List.length same
          have positive := List.length_pos_iff.mpr (visible a)
          rw [List.length_append] at length
          omega
        obtain ⟨goods, rfl⟩ := (ih shorter).mp reads
        exact ⟨List.forall_mem_cons.mpr ⟨good, goods⟩, same⟩
      · rintro ⟨goods, same⟩
        cases values with
        | nil => cases same
        | cons a values =>
          obtain ⟨good, goods⟩ := List.forall_mem_cons.mp goods
          rw [List.flatMap_cons] at same
          have shorter : (values.flatMap form.write).length ≤ n := by
            have length := congrArg List.length same
            have positive := List.length_pos_iff.mpr (visible a)
            rw [List.length_append] at length
            omega
          exact ⟨(a, _), form.read_eq_some_iff.mpr ⟨good, same⟩, values,
            (ih shorter).mpr ⟨goods, rfl⟩, rfl⟩

/-- The values of a text are those it is written from: they can be told if each is good and none
is written as nothing. -/
theorem readAll_eq_some_iff (form : Form β α) (visible : ∀ a, form.write a ≠ []) {text : List β}
    {values : List α} :
    form.readAll text = some values ↔
      (∀ a ∈ values, form.Good a) ∧ text = values.flatMap form.write :=
  form.readUpTo_eq_some_iff visible (Nat.le_refl _)

end Form

end LamaOS
