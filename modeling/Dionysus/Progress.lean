import Dionysus.Machine

/-! Service within a bound. Somebody waits for something to be done, one actor's own
steps bring it closer, and nobody else's push it away; then it is done before that
actor has taken as many steps as are due, however the others interleave. -/

namespace Dionysus.Machine

universe u v w

variable {σ : Type u} {ε : Type v} {ω : Type w}

/-- Every step that leaves the wait unserved leaves less due, by one for an own step. -/
structure Serves (machine : Machine σ ε ω) (guard : Guard σ ε ω) (waiting : σ → Prop) (done : List ω → σ → Prop)
    (own : ε → Bool) (due : σ → Nat) : Prop where
  positive : ∀ state, waiting state → 0 < due state
  closer : ∀ trace before event after emitted, machine.Reaches guard trace before → waiting before →
    guard trace before event → machine.step before event = some (after, emitted) →
    done emitted after ∨ waiting after ∧ due after + (if own event then 1 else 0) ≤ due before

variable {machine : Machine σ ε ω} {guard : Guard σ ε ω} [∀ trace state event, Decidable (guard trace state event)]
variable {waiting : σ → Prop} {done : List ω → σ → Prop} {own : ε → Bool} {due : σ → Nat}

theorem run_append {trace last : List ω} {state final : σ} {events more : List ε}
    (executed : machine.run guard trace state events = some (last, final)) :
    machine.run guard trace state (events ++ more) = machine.run guard last final more := by
  induction events generalizing trace state with
  | nil =>
    cases executed
    rfl
  | cons event rest ih =>
    obtain ⟨next, emitted, allowed, moved, remaining⟩ := run_cons executed
    rw [List.cons_append, Machine.run, if_pos allowed, moved]
    exact ih remaining

/-- The run passes a step that serves the wait. -/
theorem Serves.served (serves : machine.Serves guard waiting done own due) {trace last : List ω} {state final : σ}
    {events : List ε} (reached : machine.Reaches guard trace state) (waits : waiting state)
    (executed : machine.run guard trace state events = some (last, final)) (enough : due state ≤ events.countP own) :
    ∃ first event rest middle before emitted after, events = first ++ event :: rest ∧
      (first ++ [event]).countP own ≤ due state ∧
      machine.run guard trace state first = some (middle, before) ∧
      machine.run guard trace state (first ++ [event]) = some (middle ++ emitted, after) ∧ done emitted after ∧
      machine.run guard (middle ++ emitted) after rest = some (last, final) := by
  induction events generalizing trace state with
  | nil =>
    have left := serves.positive state waits
    rw [List.countP_nil] at enough
    omega
  | cons event rest ih =>
    obtain ⟨next, emitted, allowed, moved, remaining⟩ := run_cons executed
    have one : machine.run guard trace state [event] = some (trace ++ emitted, next) := by
      rw [Machine.run, if_pos allowed, moved]
      rfl
    rcases serves.closer _ _ _ _ _ reached waits allowed moved with served | ⟨still, closer⟩
    · refine ⟨[], event, rest, trace, state, emitted, next, rfl, ?_, rfl, one, served, remaining⟩
      have left := serves.positive state waits
      rw [List.nil_append, List.countP_singleton]
      split <;> omega
    · rw [List.countP_cons] at enough
      obtain ⟨first, act, later, middle, before, marks, after, split, few, runs, there, served, final⟩ :=
        ih (reached.step allowed moved) still remaining (by omega)
      refine ⟨event :: first, act, later, middle, before, marks, after, by rw [split, List.cons_append], ?_, ?_, ?_,
        served, final⟩
      · rw [List.cons_append, List.countP_cons]
        omega
      · rw [← runs]
        exact run_append one
      · rw [← there]
        exact run_append one

end Dionysus.Machine
