import Mathlib.Init

/-!
# Traces of events

A trace is a list of events in the order they happened. `Follows` says that each event of a
trace is allowed by what came before it; a trace that is built from the front is checked one
event at a time, and what is wanted of it in the end is a fact about each place it can be
split at.
-/

namespace LamaOS.Traces

variable {α : Type}

/-- Each event of the trace is allowed by the events before it, `past` first. -/
def Follows (allowed : List α → α → Prop) : List α → List α → Prop
  | _, [] => True
  | past, event :: trace => allowed past event ∧ Follows allowed (past ++ [event]) trace

variable {allowed : List α → α → Prop}

theorem follows_append (past first second : List α) :
    Follows allowed past (first ++ second) ↔
      Follows allowed past first ∧ Follows allowed (past ++ first) second := by
  induction first generalizing past with
  | nil => simp [Follows]
  | cons event first ih => simp [Follows, ih, and_assoc]

/-- A trace is extended by an event that is allowed. -/
theorem Follows.snoc {past trace : List α} (follows : Follows allowed past trace) {event : α}
    (permitted : allowed (past ++ trace) event) : Follows allowed past (trace ++ [event]) := by
  rw [follows_append]
  exact ⟨follows, permitted, trivial⟩

/-- The condition on one place of a trace. -/
theorem Follows.split {past trace : List α} (follows : Follows allowed past trace)
    {before after : List α} {event : α} (place : trace = before ++ event :: after) :
    allowed (past ++ before) event := by
  rw [place, follows_append] at follows
  exact follows.2.1

end LamaOS.Traces
