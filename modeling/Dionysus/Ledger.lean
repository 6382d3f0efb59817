import Mathlib.Data.List.Infix

/-! Resources that are acquired, used and released. Replaying a log of such
operations fails at the first one whose resource is not held at that moment, so a
balanced log releases every acquired resource once and never uses it afterwards. -/

namespace Dionysus.Ledger

universe u
variable {ρ : Type u}

inductive Op (ρ : Type u) where
  | acquire (resource : ρ)
  | use (resource : ρ)
  | release (resource : ρ)
deriving DecidableEq, Repr

variable [DecidableEq ρ]

def replay (held : List ρ) : List (Op ρ) → Option (List ρ)
  | [] => some held
  | .acquire resource :: rest => replay (resource :: held) rest
  | .use resource :: rest => if resource ∈ held then replay held rest else none
  | .release resource :: rest => if resource ∈ held then replay (held.erase resource) rest else none

/-- Every resource acquired in the log was released in it, once, and used only before. -/
def Balanced (log : List (Op ρ)) : Prop := replay [] log = some []

instance (log : List (Op ρ)) : Decidable (Balanced log) := inferInstanceAs (Decidable (_ = _))

theorem replay_append (held : List ρ) (log more : List (Op ρ)) :
    replay held (log ++ more) = (replay held log).bind (replay · more) := by
  induction log generalizing held with
  | nil => rfl
  | cons op rest ih =>
    cases op with
    | acquire resource => exact ih _
    | use resource =>
      simp only [List.cons_append, replay]
      split
      · exact ih _
      · rfl
    | release resource =>
      simp only [List.cons_append, replay]
      split
      · exact ih _
      · rfl

@[simp] theorem balanced_nil : Balanced ([] : List (Op ρ)) := rfl

theorem balanced_append {log more : List (Op ρ)} (balanced : Balanced log) :
    Balanced (log ++ more) ↔ Balanced more := by
  unfold Balanced at balanced ⊢
  rw [replay_append, balanced]
  rfl

/-- The life of one resource, whatever else is held. -/
theorem replay_once (held : List ρ) (resource : ρ) (uses : Nat) :
    replay held (.acquire resource :: List.replicate uses (.use resource) ++ [.release resource]) = some held := by
  suffices once : replay (resource :: held) (List.replicate uses (.use resource) ++ [.release resource]) = some held
    from once
  induction uses with
  | zero => simp [replay]
  | succ uses ih => simpa [List.replicate_succ, replay] using ih

theorem balanced_once (resource : ρ) (uses : Nat) :
    Balanced (.acquire resource :: List.replicate uses (.use resource) ++ [.release resource]) :=
  replay_once [] resource uses

end Dionysus.Ledger
