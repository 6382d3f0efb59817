import Dionysus.Recorder

/-! Accounts over the trace of a run. A machine that pays for every spending entry with
credit, and gets credit from earning entries only, never spends more than was earned. -/

namespace Dionysus

universe u v w

/-- What a weight adds up to over a list. -/
def total {ω : Type w} (weight : ω → Nat) : List ω → Nat
  | [] => 0
  | entry :: rest => weight entry + total weight rest

section
variable {ω : Type w} {weight : ω → Nat}

@[simp] theorem total_nil : total weight [] = 0 := rfl

@[simp] theorem total_cons (entry : ω) (rest : List ω) :
    total weight (entry :: rest) = weight entry + total weight rest :=
  rfl

@[simp] theorem total_append (entries more : List ω) :
    total weight (entries ++ more) = total weight entries + total weight more := by
  induction entries with
  | nil => simp
  | cons entry rest ih =>
    rw [List.cons_append, total_cons, total_cons, ih]
    omega

theorem total_add (first second : ω → Nat) (entries : List ω) :
    total (fun entry => first entry + second entry) entries = total first entries + total second entries := by
  induction entries with
  | nil => rfl
  | cons entry rest ih =>
    simp only [total_cons, ih]
    omega

theorem total_eq_zero {entries : List ω} : total weight entries = 0 ↔ ∀ entry ∈ entries, weight entry = 0 := by
  induction entries with
  | nil => exact ⟨fun _ => nofun, fun _ => rfl⟩
  | cons first rest ih => rw [total_cons, Nat.add_eq_zero_iff, List.forall_mem_cons, ih]

theorem total_eq_countP (counts : ω → Bool) (entries : List ω) :
    total (fun entry => if counts entry then 1 else 0) entries = entries.countP counts := by
  induction entries with
  | nil => rfl
  | cons entry rest ih =>
    rw [total_cons, ih, List.countP_cons, Nat.add_comm]

end

namespace Machine
variable {σ : Type u} {ε : Type v} {ω : Type w} {machine : Machine σ ε ω} {guard : Guard σ ε ω}

/-- What a run has spent and the credit it still has are covered by what it earned and
the credit it began with. -/
theorem Reaches.budget {trace : List ω} {state : σ} (spends earns : ω → Nat) (credit : σ → Nat)
    (reached : machine.Reaches guard trace state)
    (pays : ∀ trace before event after emitted, machine.Reaches guard trace before → guard trace before event →
      machine.step before event = some (after, emitted) →
      credit after + total spends emitted ≤ credit before + total earns emitted) :
    credit state + total spends trace ≤ credit machine.initial + total earns trace := by
  induction reached with
  | start => exact Nat.le_refl _
  | step earlier allowed moved ih =>
    have paid := pays _ _ _ _ _ earlier allowed moved
    rw [total_append, total_append]
    omega

end Machine
end Dionysus
