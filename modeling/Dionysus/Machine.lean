/-! Machines whose events carry every outside choice: which thread moves, what a
call returns, what arrives. The trace of a run collects what its events emit. -/

namespace Dionysus

universe u v w

structure Machine (σ : Type u) (ε : Type v) (ω : Type w) where
  initial : σ
  step : σ → ε → Option (σ × List ω)

/-- A condition on the next event, given the trace so far and the state in which
the event happens. -/
abbrev Guard (σ : Type u) (ε : Type v) (ω : Type w) := List ω → σ → ε → Prop

namespace Guard
variable {σ : Type u} {ε : Type v} {ω : Type w}

def free : Guard σ ε ω := fun _ _ _ => True

instance (trace : List ω) (state : σ) (event : ε) : Decidable (free trace state event) :=
  inferInstanceAs (Decidable True)

end Guard

namespace Machine
variable {σ : Type u} {ε : Type v} {ω : Type w} (machine : Machine σ ε ω)

/-- The traces and states of the finite runs whose events all meet the guard. -/
inductive Reaches (guard : Guard σ ε ω) : List ω → σ → Prop where
  | start : Reaches guard [] machine.initial
  | step {trace before event after emitted} (reached : Reaches guard trace before)
      (allowed : guard trace before event)
      (moved : machine.step before event = some (after, emitted)) :
      Reaches guard (trace ++ emitted) after

variable {machine} {guard : Guard σ ε ω} {trace : List ω} {state : σ}

theorem Reaches.invariant {property : List ω → σ → Prop} (reached : machine.Reaches guard trace state)
    (start : property [] machine.initial)
    (kept : ∀ trace before event after emitted, property trace before → guard trace before event →
      machine.step before event = some (after, emitted) → property (trace ++ emitted) after) :
    property trace state := by
  induction reached with
  | start => exact start
  | step _ allowed moved ih => exact kept _ _ _ _ _ ih allowed moved

/-- A machine whose steps either leave the projected state alone or project to steps
of another machine has the runs of that machine. -/
theorem Reaches.project {τ : Type u} {δ : Type v} {other : Machine τ δ ω} {bound : Guard τ δ ω}
    (view : σ → τ) (reached : machine.Reaches guard trace state) (start : view machine.initial = other.initial)
    (simulates : ∀ trace before event after emitted, guard trace before event →
      machine.step before event = some (after, emitted) →
      (view after = view before ∧ emitted = []) ∨
        ∃ move, bound trace (view before) move ∧ other.step (view before) move = some (view after, emitted)) :
    other.Reaches bound trace (view state) := by
  induction reached with
  | start => exact start ▸ .start
  | step _ allowed moved ih =>
    rcases simulates _ _ _ _ _ allowed moved with ⟨same, rfl⟩ | ⟨move, permitted, step⟩
    · rw [List.append_nil, same]
      exact ih
    · exact .step ih permitted step

variable (machine) (guard) [∀ trace state event, Decidable (guard trace state event)]

def run (trace : List ω) (state : σ) : List ε → Option (List ω × σ)
  | [] => some (trace, state)
  | event :: rest =>
    if guard trace state event then
      match machine.step state event with
      | some (next, emitted) => run (trace ++ emitted) next rest
      | none => none
    else none

variable {machine guard}

theorem run_cons {event : ε} {rest : List ε} {last : List ω} {final : σ}
    (executed : machine.run guard trace state (event :: rest) = some (last, final)) :
    ∃ next emitted, guard trace state event ∧ machine.step state event = some (next, emitted) ∧
      machine.run guard (trace ++ emitted) next rest = some (last, final) := by
  simp only [Machine.run] at executed
  split at executed
  next allowed =>
    split at executed
    next moved => exact ⟨_, _, allowed, moved, executed⟩
    next => cases executed
  next => cases executed

theorem Reaches.run {events : List ε} {last : List ω} {final : σ}
    (reached : machine.Reaches guard trace state)
    (executed : machine.run guard trace state events = some (last, final)) :
    machine.Reaches guard last final := by
  induction events generalizing trace state with
  | nil =>
    cases executed
    exact reached
  | cons event rest ih =>
    obtain ⟨next, emitted, allowed, moved, remaining⟩ := run_cons executed
    exact ih (reached.step allowed moved) remaining

theorem prefix_of_run {events : List ε} {last : List ω} {final : σ}
    (executed : machine.run guard trace state events = some (last, final)) : trace <+: last := by
  induction events generalizing trace state with
  | nil =>
    cases executed
    exact List.prefix_refl _
  | cons event rest ih =>
    obtain ⟨next, emitted, -, -, remaining⟩ := run_cons executed
    exact (List.prefix_append trace emitted).trans (ih remaining)

variable (machine guard)

/-- A run that can be evaluated, together with what evaluation finds at its end. -/
theorem reaches_of_run (events : List ε) (found : List ω → σ → Bool)
    (executed : (machine.run guard [] machine.initial events).map (fun last => found last.1 last.2) = some true) :
    ∃ trace state, machine.Reaches guard trace state ∧ found trace state = true := by
  obtain ⟨⟨trace, state⟩, final, holds⟩ := Option.map_eq_some_iff.mp executed
  exact ⟨trace, state, Reaches.start.run final, holds⟩

end Machine
end Dionysus
