import Mathlib.Data.List.Perm.Subperm
import Mathlib.Data.List.Nodup

/-! A store that holds one value under each key, and what is left of a sequence of
writes to it. -/

namespace Dionysus.KeyedStore

universe u v
variable {κ : Type u} {β : Type v} [DecidableEq κ]

def put (store : κ → Option β) (key : κ) (value : β) : κ → Option β :=
  fun other => if other = key then some value else store other

def putAll (store : κ → Option β) (entries : List (κ × β)) : κ → Option β :=
  entries.foldl (fun store entry => put store entry.1 entry.2) store

/-- Every entry has a key of its own that holds its value and was free before, and what
the store held before it still holds. -/
structure Keeps (store : κ → Option β) (entries : List (κ × β)) (after : κ → Option β) : Prop where
  stored : ∃ keys : List κ, keys.Nodup ∧ (∀ key ∈ keys, store key = none) ∧
    keys.map after = entries.map fun entry => some entry.2
  untouched : ∀ key value, store key = some value → after key = some value

theorem putAll_other {store : κ → Option β} {entries : List (κ × β)} {key : κ}
    (absent : key ∉ entries.map Prod.fst) : putAll store entries key = store key := by
  induction entries generalizing store with
  | nil => rfl
  | cons entry rest ih =>
    rw [List.map_cons, List.mem_cons, not_or] at absent
    exact (ih absent.2).trans (if_neg absent.1)

theorem putAll_keys {store : κ → Option β} {entries : List (κ × β)} (distinct : (entries.map Prod.fst).Nodup) :
    (entries.map Prod.fst).map (putAll store entries) = entries.map fun entry => some entry.2 := by
  induction entries generalizing store with
  | nil => rfl
  | cons entry rest ih =>
    obtain ⟨alone, others⟩ := List.nodup_cons.mp distinct
    have first : putAll store (entry :: rest) entry.1 = some entry.2 := (putAll_other alone).trans (if_pos rfl)
    rw [List.map_cons, List.map_cons, first, List.map_cons]
    exact congrArg _ (ih others)

/-- Writing keeps everything exactly when the keys are distinct and free. -/
theorem keeps_iff (store : κ → Option β) (entries : List (κ × β)) :
    Keeps store entries (putAll store entries) ↔
      (entries.map Prod.fst).Nodup ∧ ∀ key ∈ entries.map Prod.fst, store key = none := by
  constructor
  · intro keeps
    obtain ⟨keys, distinct, free, holds⟩ := keeps.stored
    have written : keys ⊆ entries.map Prod.fst := by
      intro key member
      by_contra absent
      have value : putAll store entries key ∈ entries.map fun entry => some entry.2 :=
        holds ▸ List.mem_map_of_mem member
      rw [putAll_other absent, free key member] at value
      simp at value
    have length := congrArg List.length holds
    simp only [List.length_map] at length
    have same : keys.Perm (entries.map Prod.fst) :=
      (List.subperm_of_subset distinct written).perm_of_length_le (by simp [length])
    exact ⟨same.nodup_iff.mp distinct, fun key member => free key (same.mem_iff.mpr member)⟩
  · intro condition
    obtain ⟨distinct, free⟩ := condition
    refine ⟨⟨_, distinct, free, putAll_keys distinct⟩, fun key value held => ?_⟩
    rw [putAll_other, held]
    intro member
    rw [free key member] at held
    cases held

end Dionysus.KeyedStore
