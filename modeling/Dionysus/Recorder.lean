import Dionysus.Machine

/-! Machines with an observer who takes notes at every step. The notes change nothing:
without them a recorded run is a run of the machine. -/

namespace Dionysus

universe u v w x

namespace Guard
variable {σ : Type u} {ε : Type v} {ω : Type w}

/-- Both conditions at once. -/
def both (first second : Guard σ ε ω) : Guard σ ε ω := fun trace state event =>
  first trace state event ∧ second trace state event

instance (first second : Guard σ ε ω) (trace : List ω) (state : σ) (event : ε)
    [Decidable (first trace state event)] [Decidable (second trace state event)] :
    Decidable (both first second trace state event) :=
  inferInstanceAs (Decidable (_ ∧ _))

/-- The condition on the events of a recorded machine. -/
def recorded {ν : Type x} (guard : Guard σ ε ω) : Guard (σ × List ν) ε ω := fun trace state event =>
  guard trace state.1 event

instance {ν : Type x} (guard : Guard σ ε ω) (trace : List ω) (state : σ × List ν) (event : ε)
    [Decidable (guard trace state.1 event)] : Decidable (guard.recorded trace state event) :=
  inferInstanceAs (Decidable (guard trace state.1 event))

end Guard

namespace Machine
variable {σ : Type u} {ε : Type v} {ω : Type w} {ν : Type x}
variable {machine : Machine σ ε ω} {guard other : Guard σ ε ω} {trace : List ω} {state : σ}

theorem Reaches.mono (reached : machine.Reaches guard trace state)
    (weaker : ∀ trace state event, guard trace state event → other trace state event) :
    machine.Reaches other trace state := by
  induction reached with
  | start => exact .start
  | step _ allowed moved ih => exact .step ih (weaker _ _ _ allowed) moved

theorem Reaches.free (reached : machine.Reaches guard trace state) : machine.Reaches Guard.free trace state :=
  reached.mono fun _ _ _ _ => trivial

def record (machine : Machine σ ε ω) (note : σ → ε → List ν) : Machine (σ × List ν) ε ω where
  initial := (machine.initial, [])
  step state event := (machine.step state.1 event).map fun moved =>
    ((moved.1, state.2 ++ note state.1 event), moved.2)

variable {note : σ → ε → List ν} {notes : List ν}

theorem record_step {before after : σ × List ν} {event : ε} {emitted : List ω}
    (moved : (machine.record note).step before event = some (after, emitted)) :
    machine.step before.1 event = some (after.1, emitted) ∧ after.2 = before.2 ++ note before.1 event := by
  obtain ⟨⟨next, marks⟩, executed, same⟩ := Option.map_eq_some_iff.mp moved
  obtain ⟨rfl, rfl⟩ := Prod.mk.inj same
  exact ⟨executed, rfl⟩

theorem Reaches.unrecorded {record : σ × List ν}
    (reached : (machine.record note).Reaches guard.recorded trace record) :
    machine.Reaches guard trace record.1 := by
  induction reached with
  | start => exact .start
  | step _ allowed moved ih => exact .step ih allowed (record_step moved).1

/-- An invariant of the state and the notes, kept by every step of the machine itself. -/
theorem Reaches.record_invariant {property : σ → List ν → Prop} {record : σ × List ν}
    (reached : (machine.record note).Reaches guard.recorded trace record)
    (start : property machine.initial [])
    (kept : ∀ trace before notes event after emitted, machine.Reaches guard trace before → property before notes →
      guard trace before event → machine.step before event = some (after, emitted) →
      property after (notes ++ note before event)) : property record.1 record.2 := by
  induction reached with
  | start => exact start
  | step earlier allowed moved ih =>
    obtain ⟨executed, written⟩ := record_step moved
    rw [written]
    exact kept _ _ _ _ _ _ earlier.unrecorded ih allowed executed

end Machine
end Dionysus
