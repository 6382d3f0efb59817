import Mathlib.Data.Finset.Card
import Mathlib.Data.Nat.Count

/-! The positions of a list that hold items of one kind. Lists are compared by their
positions, and counted by them. -/

namespace Dionysus

universe u
variable {α : Type u}

/-- Where the items are that satisfy the predicate. -/
def positions (kind : α → Bool) (items : List α) : Finset Nat :=
  (Finset.range items.length).filter fun index => (items[index]?).any kind

variable {kind : α → Bool}

theorem mem_positions {items : List α} {index : Nat} :
    index ∈ positions kind items ↔ ∃ item, items[index]? = some item ∧ kind item = true := by
  rw [positions, Finset.mem_filter, Finset.mem_range, Option.any_eq_true]
  constructor
  · intro ⟨_, found⟩
    exact found
  · intro ⟨item, here, satisfies⟩
    exact ⟨(List.getElem?_eq_some_iff.mp here).1, item, here, satisfies⟩

private theorem countP_take (items : List α) {count : Nat} (inside : count ≤ items.length) :
    (items.take count).countP kind = Nat.count (fun index => (items[index]?).any kind) count := by
  induction count with
  | zero => rfl
  | succ count ih =>
    have here : count < items.length := inside
    rw [List.take_add_one, List.countP_append, ih (Nat.le_of_lt here), Nat.count_succ, List.getElem?_eq_getElem here]
    cases satisfies : kind items[count] <;> simp [satisfies]

@[simp] theorem card_positions (items : List α) : (positions kind items).card = items.countP kind := by
  have all : (items.take items.length).countP kind = _ := countP_take items (Nat.le_refl items.length)
  rw [List.take_length] at all
  rw [positions, ← Nat.count_eq_card_filter_range, all]

/-- A list whose positions include those of another counts these and the others. -/
theorem countP_eq_add_sdiff {first second : List α} (included : positions kind first ⊆ positions kind second) :
    second.countP kind = first.countP kind + (positions kind second \ positions kind first).card := by
  rw [← card_positions first, ← card_positions second, Nat.add_comm, Finset.card_sdiff_add_card_eq_card included]

end Dionysus
