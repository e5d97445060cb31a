import LamaOS.Misc.ByteMemory

/-!
# Numbers as bytes

Two ways to put a number into bytes: as the text that is printed of it in a base up to sixteen,
which tells the number, contains no byte but digits and can be read again, and as a word of some
bytes in either order.
-/

namespace LamaOS

/-! ## Text -/

/-- The digits of a number, as they are printed. -/
def numeral (b n : Nat) : List Byte := (Nat.toDigits b n).map fun c => BitVec.ofNat 8 c.toNat

/-- The byte of a digit. -/
def digitByte (d : Nat) : Byte := BitVec.ofNat 8 (Nat.digitChar d).toNat

theorem digitByte_inj {d e : Nat} (small : d < 16) (small' : e < 16)
    (same : digitByte d = digitByte e) : d = e := by
  have table : ∀ d < 16, ∀ e < 16, digitByte d = digitByte e → d = e := by decide
  exact table d small e small' same

variable {b m n : Nat}

theorem numeral_of_lt (below : n < b) : numeral b n = [digitByte n] := by
  rw [numeral, Nat.toDigits_of_lt_base below]
  rfl

theorem numeral_of_le (base : 1 < b) (above : b ≤ n) :
    numeral b n = numeral b (n / b) ++ [digitByte (n % b)] := by
  rw [numeral, Nat.toDigits_of_base_le base above, List.map_append]
  rfl

theorem numeral_ne_nil (b n : Nat) : numeral b n ≠ [] := by
  intro none
  exact Nat.toDigits_ne_nil (List.map_eq_nil_iff.mp none)

/-- The printed text tells the number. -/
theorem numeral_inj (base : 1 < b) (small : b ≤ 16) (same : numeral b m = numeral b n) :
    m = n := by
  induction m using Nat.strongRecOn generalizing n with
  | ind m ih =>
    by_cases below : m < b
    · by_cases below' : n < b
      · rw [numeral_of_lt below, numeral_of_lt below'] at same
        exact digitByte_inj (by omega) (by omega) (List.cons.inj same).1
      · rw [numeral_of_lt below, numeral_of_le base (Nat.le_of_not_lt below')] at same
        have cut : [] ++ [digitByte m] = numeral b (n / b) ++ [digitByte (n % b)] := same
        exact absurd (List.append_inj_left' cut rfl).symm (numeral_ne_nil b (n / b))
    · have above := Nat.le_of_not_lt below
      by_cases below' : n < b
      · rw [numeral_of_le base above, numeral_of_lt below'] at same
        have cut : numeral b (m / b) ++ [digitByte (m % b)] = [] ++ [digitByte n] := same
        exact absurd (List.append_inj_left' cut rfl) (numeral_ne_nil b (m / b))
      · have above' := Nat.le_of_not_lt below'
        rw [numeral_of_le base above, numeral_of_le base above'] at same
        have high : m / b = n / b :=
          ih (m / b) (Nat.div_lt_self (by omega) base) (List.append_inj_left' same rfl)
        have last := (List.cons.inj (List.append_inj_right' same rfl)).1
        have digit : ∀ k, k % b < 16 :=
          fun k => Nat.lt_of_lt_of_le (Nat.mod_lt k (by omega)) small
        have low : m % b = n % b := digitByte_inj (digit m) (digit n) last
        rw [← Nat.div_add_mod m b, ← Nat.div_add_mod n b, high, low]

/-- A byte that is no digit is not in the text. -/
theorem notMem_numeral (base : 1 < b) (small : b ≤ 16) {byte : Byte}
    (other : ∀ d < 16, digitByte d ≠ byte) (n : Nat) : byte ∉ numeral b n := by
  induction n using Nat.strongRecOn with
  | ind n ih =>
    intro mem
    by_cases below : n < b
    · rw [numeral_of_lt below] at mem
      exact other n (by omega) (List.mem_singleton.mp mem).symm
    · rw [numeral_of_le base (Nat.le_of_not_lt below)] at mem
      rcases List.mem_append.mp mem with before | last
      · exact ih (n / b) (Nat.div_lt_self (by omega) base) before
      · have digit : n % b < 16 := Nat.lt_of_lt_of_le (Nat.mod_lt n (by omega)) small
        exact other (n % b) digit (List.mem_singleton.mp last).symm

/-- The text is made of digits. -/
theorem mem_numeral (base : 1 < b) {byte : Byte} (mem : byte ∈ numeral b n) :
    ∃ d < b, byte = digitByte d := by
  induction n using Nat.strongRecOn with
  | ind n ih =>
    by_cases below : n < b
    · rw [numeral_of_lt below] at mem
      exact ⟨n, below, List.mem_singleton.mp mem⟩
    · rw [numeral_of_le base (Nat.le_of_not_lt below)] at mem
      rcases List.mem_append.mp mem with before | last
      · exact ih (n / b) (Nat.div_lt_self (by omega) base) before
      · exact ⟨n % b, Nat.mod_lt n (by omega), List.mem_singleton.mp last⟩

/-- No text of two digits or more begins with a zero. -/
theorem numeral_ne_zero_cons (base : 1 < b) (small : b ≤ 16) {rest : List Byte}
    (more : rest ≠ []) : numeral b n ≠ digitByte 0 :: rest := by
  intro same
  induction n using Nat.strongRecOn generalizing rest with
  | ind n ih =>
    by_cases below : n < b
    · rw [numeral_of_lt below] at same
      exact more (List.cons.inj same).2.symm
    · have above := Nat.le_of_not_lt below
      have positive : 0 < n / b := Nat.div_pos above (by omega)
      rw [numeral_of_le base above] at same
      cases digits : numeral b (n / b) with
      | nil => exact numeral_ne_nil b _ digits
      | cons digit rest' =>
        rw [digits] at same
        have first : digit = digitByte 0 := (List.cons.inj same).1
        by_cases one : rest' = []
        · -- what is in front of the last digit is a zero
          rw [first, one, ← numeral_of_lt (b := b) (n := 0) (by omega)] at digits
          have zero := numeral_inj base small digits
          omega
        · exact ih (n / b) (Nat.div_lt_self (by omega) base) one (first ▸ digits)

/-- Digits behind the text of a positive number make the text of another one. -/
theorem exists_numeral_append (base : 1 < b) (positive : 0 < m) {digits : List Byte}
    (each : ∀ byte ∈ digits, ∃ d < b, byte = digitByte d) :
    ∃ n, numeral b n = numeral b m ++ digits := by
  induction digits generalizing m with
  | nil => exact ⟨m, (List.append_nil _).symm⟩
  | cons byte digits ih =>
    rcases each byte List.mem_cons_self with ⟨d, below, rfl⟩
    have longer : numeral b (b * m + d) = numeral b m ++ [digitByte d] := by
      have text := congrArg (List.map fun c : Char => BitVec.ofNat 8 c.toNat)
        (Nat.toDigits_append_toDigits base positive below)
      rw [List.map_append, Nat.toDigits_of_lt_base below] at text
      exact text.symm
    have positive' : 0 < b * m + d :=
      Nat.add_pos_left (Nat.mul_pos (Nat.lt_trans Nat.zero_lt_one base) positive) d
    rcases ih positive' (fun byte mem => each byte (List.mem_cons_of_mem _ mem)) with ⟨n, text⟩
    refine ⟨n, ?_⟩
    rw [text, longer, List.append_assoc, List.singleton_append]

/-- Two texts that are ended by a byte they do not contain are equal if what is written is. -/
theorem append_end_inj {byte : Byte} {text text' rest rest' : List Byte} (other : byte ∉ text)
    (other' : byte ∉ text') (same : text ++ byte :: rest = text' ++ byte :: rest') :
    text = text' ∧ rest = rest' := by
  induction text generalizing text' with
  | nil =>
    cases text' with
    | nil => exact ⟨rfl, (List.cons.inj same).2⟩
    | cons b text' =>
      rw [(List.cons.inj same).1] at other'
      exact absurd List.mem_cons_self other'
  | cons b text ih =>
    cases text' with
    | nil =>
      rw [← (List.cons.inj same).1] at other
      exact absurd List.mem_cons_self other
    | cons b' text' =>
      rcases List.cons.inj same with ⟨rfl, later⟩
      rcases ih (fun mem => other (List.mem_cons_of_mem _ mem))
        (fun mem => other' (List.mem_cons_of_mem _ mem)) later with ⟨rfl, rest⟩
      exact ⟨rfl, rest⟩

/-- A number that is ended by a byte other than a digit is told by what is written. -/
theorem numeral_end_inj (base : 1 < b) (small : b ≤ 16) {byte : Byte}
    (other : ∀ d < 16, digitByte d ≠ byte) {rest rest' : List Byte}
    (same : numeral b m ++ byte :: rest = numeral b n ++ byte :: rest') : m = n ∧ rest = rest' := by
  rcases append_end_inj (notMem_numeral base small other m) (notMem_numeral base small other n) same
    with ⟨digits, rest⟩
  exact ⟨numeral_inj base small digits, rest⟩

/-! ## Reading a number -/

/-- The digit that a byte stands for. -/
def digitValue (byte : Byte) : Nat :=
  if byte.toNat < 0x3A then byte.toNat - 0x30 else byte.toNat - 0x57

theorem digitValue_digitByte {d : Nat} (small : d < 16) : digitValue (digitByte d) = d := by
  have table : ∀ d < 16, digitValue (digitByte d) = d := by decide
  exact table d small

/-- The number that some digits stand for. -/
def numeralValue (b : Nat) (digits : List Byte) : Nat :=
  digits.foldl (fun n byte => b * n + digitValue byte) 0

theorem numeralValue_numeral (base : 1 < b) (small : b ≤ 16) (n : Nat) :
    numeralValue b (numeral b n) = n := by
  induction n using Nat.strongRecOn with
  | ind n ih =>
    by_cases below : n < b
    · rw [numeral_of_lt below]
      simp [numeralValue, digitValue_digitByte (d := n) (by omega)]
    · have digit : n % b < 16 := Nat.lt_of_lt_of_le (Nat.mod_lt n (by omega)) small
      have high := ih (n / b) (Nat.div_lt_self (by omega) base)
      rw [numeralValue] at high
      rw [numeral_of_le base (Nat.le_of_not_lt below), numeralValue, List.foldl_append, high]
      simp only [List.foldl_cons, List.foldl_nil, digitValue_digitByte digit]
      exact Nat.div_add_mod n b

/-- The number that a text is printed of. -/
def readNumeral (b : Nat) (text : List Byte) : Option Nat :=
  if text = numeral b (numeralValue b text) then some (numeralValue b text) else none

theorem readNumeral_eq_some_iff (base : 1 < b) (small : b ≤ 16) (text : List Byte) (n : Nat) :
    readNumeral b text = some n ↔ text = numeral b n := by
  unfold readNumeral
  constructor
  · intro reads
    split at reads
    · rename_i printed
      rw [← Option.some.inj reads]
      exact printed
    · cases reads
  · rintro rfl
    rw [numeralValue_numeral base small, if_pos rfl]

/-! ## Words -/

/-- The order of the bytes in a word. -/
inductive ByteOrder where
  | little
  | big
  deriving DecidableEq, Repr

/-- The word that some bytes hold. -/
def ByteOrder.value : ByteOrder → List Byte → Nat
  | .little, bytes => bytes.foldr (fun b n => b.toNat + 256 * n) 0
  | .big, bytes => bytes.foldl (fun n b => 256 * n + b.toNat) 0

end LamaOS
