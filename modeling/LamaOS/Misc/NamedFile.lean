import Mathlib.Data.List.Infix
import Mathlib.Logic.Function.Basic

/-!
# A file under a name

What a name in a directory stands for while processes open, write and unlink the file. A file
is known to those that have it open by its number: one that the name no longer stands for is
still there for them, and a file created later under the name is another one.
-/

namespace LamaOS

/-- The files that have been created under one name. -/
structure NamedFile (β : Type) where
  current : Option Nat
  content : Nat → List β
  created : Nat

variable {β : Type}

/-- What `bytes` written from the beginning on leave of an old content. -/
def overwrite (bytes old : List β) : List β := bytes ++ old.drop bytes.length

theorem overwrite_eq_iff (bytes old : List β) :
    overwrite bytes old = bytes ↔ old.length ≤ bytes.length := by
  rw [overwrite, List.append_right_eq_self, List.drop_eq_nil_iff]

theorem overwrite_eq_old_iff (bytes old : List β) : overwrite bytes old = old ↔ bytes <+: old := by
  constructor
  · intro same
    exact ⟨old.drop bytes.length, same⟩
  · rintro ⟨rest, rfl⟩
    simp [overwrite]

theorem overwrite_nil (bytes : List β) : overwrite bytes [] = bytes := by
  rw [overwrite, List.drop_nil, List.append_nil]

theorem nil_overwrite (old : List β) : overwrite [] old = old := rfl

namespace NamedFile

/-- A directory with or without a file of this name. -/
def initial (text : Option (List β)) : NamedFile β where
  current := text.map fun _ => 0
  content := fun _ => text.getD []
  created := 1

/-- What is read under the name. -/
def text (file : NamedFile β) : Option (List β) := file.current.map file.content

/-- `open` for writing, with `O_CREAT` and `O_TRUNC`, and the number of the file opened. -/
def openTrunc (file : NamedFile β) : NamedFile β × Nat :=
  match file.current with
  | some i => ({ file with content := Function.update file.content i [] }, i)
  | none =>
    (⟨some file.created, Function.update file.content file.created [], file.created + 1⟩,
      file.created)

/-- `write` at the beginning of the file of this number. -/
def write (i : Nat) (bytes : List β) (file : NamedFile β) : NamedFile β :=
  { file with content := Function.update file.content i (overwrite bytes (file.content i)) }

def unlink (file : NamedFile β) : NamedFile β := { file with current := none }

theorem text_initial (held : Option (List β)) : (initial held).text = held := by
  cases held with
  | none => rfl
  | some bytes => rfl

/-- What has been opened is the named file. -/
theorem current_openTrunc (file : NamedFile β) :
    file.openTrunc.1.current = some file.openTrunc.2 := by
  unfold openTrunc
  cases current : file.current with
  | none => rfl
  | some i => rfl

/-- Opened again, the file stays the named one. -/
theorem current_openTrunc_of_current {file : NamedFile β} {i : Nat}
    (current : file.current = some i) : file.openTrunc.1.current = some i := by
  rw [openTrunc, current]

/-- And it is empty. -/
theorem content_openTrunc (file : NamedFile β) :
    file.openTrunc.1.content file.openTrunc.2 = [] := by
  unfold openTrunc
  cases current : file.current with
  | none => simp
  | some i => simp

theorem text_openTrunc (file : NamedFile β) : file.openTrunc.1.text = some [] := by
  unfold openTrunc
  cases current : file.current with
  | none => simp [text]
  | some i => simp [text]

theorem text_unlink (file : NamedFile β) : file.unlink.text = none := rfl

theorem text_write {file : NamedFile β} {i : Nat} (current : file.current = some i)
    (bytes : List β) : (file.write i bytes).text = some (overwrite bytes (file.content i)) := by
  simp [text, write, current]

/-- The same, by what was read before. -/
theorem text_write_of_text {file : NamedFile β} {i : Nat} (current : file.current = some i)
    {old : List β} (held : file.text = some old) (bytes : List β) :
    (file.write i bytes).text = some (overwrite bytes old) := by
  rw [text, current] at held
  rw [text_write current, Option.some.inj held]

theorem text_write_of_empty {file : NamedFile β} {i : Nat} (current : file.current = some i)
    (empty : file.text = some []) (bytes : List β) : (file.write i bytes).text = some bytes := by
  rw [text_write_of_text current empty, overwrite_nil]

/-- A file that the name does not stand for is written without a trace under the name. -/
theorem text_write_of_ne {file : NamedFile β} {i : Nat} (other : file.current ≠ some i)
    (bytes : List β) : (file.write i bytes).text = file.text := by
  cases current : file.current with
  | none => simp [text, write, current]
  | some j =>
    have different : j ≠ i := by
      rintro rfl
      exact other current
    simp [text, write, current, different]

/-- The file of this number is the named one and holds no more than is to be written, or it is
not, and the named one holds that already. -/
def Takes (file : NamedFile β) (i : Nat) (bytes : List β) : Prop :=
  (file.current = some i ∧ (file.content i).length ≤ bytes.length) ∨
    (file.current ≠ some i ∧ file.text = some bytes)

/-- After a write the name stands for what has been written exactly if the file takes it. -/
theorem text_write_eq_iff (file : NamedFile β) (i : Nat) (bytes : List β) :
    (file.write i bytes).text = some bytes ↔ file.Takes i bytes := by
  by_cases current : file.current = some i
  · rw [text_write current, Option.some_inj, overwrite_eq_iff]
    simp [Takes, current]
  · rw [text_write_of_ne current]
    simp [Takes, current]

/-! ## Operations -/

inductive Operation (β : Type) where
  | openTrunc
  | write (i : Nat) (bytes : List β)
  | unlink

def apply (file : NamedFile β) : Operation β → NamedFile β
  | .openTrunc => file.openTrunc.1
  | .write i bytes => file.write i bytes
  | .unlink => file.unlink

/-- The operation is a write, to another file or of what the file begins with. -/
def Spares (file : NamedFile β) : Operation β → Prop
  | .openTrunc => False
  | .write i bytes => file.current = some i → bytes <+: file.content i
  | .unlink => False

/-- A text that is not empty is kept exactly by the operations that spare it. -/
theorem text_apply_eq_iff {file : NamedFile β} {held : List β} (holds : file.text = some held)
    (nonempty : held ≠ []) (op : Operation β) :
    (file.apply op).text = some held ↔ file.Spares op := by
  cases op with
  | openTrunc =>
    rw [apply, text_openTrunc, Option.some_inj, Spares, iff_false]
    exact nonempty.symm
  | write i bytes =>
    rw [apply, Spares]
    by_cases current : file.current = some i
    · have same : file.content i = held := by
        rw [text, current] at holds
        exact Option.some.inj holds
      rw [text_write current, Option.some_inj, same, overwrite_eq_old_iff]
      exact ⟨fun begins _ => begins, fun begins => begins current⟩
    · rw [text_write_of_ne current]
      exact ⟨fun _ same => absurd same current, fun _ => holds⟩
  | unlink =>
    rw [apply, text_unlink, Spares, iff_false]
    exact nofun

end NamedFile

end LamaOS
