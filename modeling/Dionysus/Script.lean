import Mathlib.Data.List.Chain
import Dionysus.Machine

/-! Logs that follow a script. Of a trace only some entries are looked at, and what may
come next depends on the last of them, whatever else the machine does in between. -/

namespace Dionysus

universe u v w

section
variable {ω : Type w} {follows : Option ω → ω → Prop} {log : List ω}

/-- Every entry may follow the one before it, and the first may begin. -/
def Scripted (follows : Option ω → ω → Prop) (log : List ω) : Prop :=
  (log.IsChain fun last entry => follows (some last) entry) ∧ ∀ first ∈ log.head?, follows none first

@[simp] theorem scripted_nil : Scripted follows ([] : List ω) := ⟨.nil, nofun⟩

theorem scripted_snoc {entry : ω} :
    Scripted follows (log ++ [entry]) ↔ Scripted follows log ∧ follows log.getLast? entry := by
  rcases List.eq_nil_or_concat log with rfl | ⟨earlier, last, rfl⟩
  · simp [Scripted]
  · rw [Scripted, Scripted, List.isChain_append]
    simp [and_right_comm, and_assoc]

/-- A script that only goes up passes every place once, and in order. -/
theorem Scripted.increasing (scripted : Scripted follows log) (rank : ω → Nat)
    (rises : ∀ last entry, follows (some last) entry → rank last < rank entry) :
    (log.map rank).Pairwise (· < ·) := by
  apply List.isChain_iff_pairwise.mp
  rw [List.isChain_map]
  exact scripted.1.imp fun last entry => rises last entry

theorem Scripted.rank_le_last (scripted : Scripted follows log) (rank : ω → Nat)
    (rises : ∀ last entry, follows (some last) entry → rank last < rank entry) {entry last : ω} (member : entry ∈ log)
    (final : log.getLast? = some last) : rank entry ≤ rank last := by
  obtain ⟨earlier, rfl⟩ := List.getLast?_eq_some_iff.mp final
  have rising := scripted.increasing rank rises
  rw [List.map_append, List.pairwise_append] at rising
  rcases List.mem_append.mp member with old | new
  · exact Nat.le_of_lt (rising.2.2 _ (List.mem_map_of_mem old) _ (List.mem_singleton.mpr rfl))
  · rw [List.mem_singleton.mp new]

/-- What only comes directly behind something else is no more frequent. -/
theorem Scripted.count_le (scripted : Scripted follows log) (first second : ω → Bool)
    (apart : ∀ entry, second entry = true → first entry = false)
    (behind : ∀ last entry, follows last entry → second entry = true →
      ∃ earlier, last = some earlier ∧ first earlier = true) :
    log.countP second + (log.getLast?.any first).toNat ≤ log.countP first := by
  induction log using List.reverseRecOn with
  | nil => simp
  | append_singleton log entry ih =>
    obtain ⟨scripted, follows⟩ := scripted_snoc.mp scripted
    have counted := ih scripted
    rw [List.countP_append, List.countP_append, List.countP_singleton, List.countP_singleton, List.getLast?_concat]
    by_cases late : second entry = true
    · obtain ⟨earlier, last, early⟩ := behind _ _ follows late
      rw [last] at counted
      simp only [Option.any_some, early, Bool.toNat_true] at counted
      simp only [Option.any_some, late, apart entry late, ↓reduceIte, Bool.toNat_false, Bool.false_eq_true]
      omega
    · simp only [Option.any_some, late, Bool.false_eq_true, ↓reduceIte]
      cases first entry <;> simp only [Bool.toNat_true, Bool.toNat_false, ↓reduceIte, Bool.false_eq_true] <;> omega

end

namespace Machine
variable {σ : Type u} {ε : Type v} {ω : Type w}

/-- `stands` tells which entry was the last one looked at, as far as the state shows. -/
structure Scripts (machine : Machine σ ε ω) (looks : ω → Bool) (follows : Option ω → ω → Prop)
    (stands : σ → Option ω → Prop) : Prop where
  start : stands machine.initial none
  step : ∀ before event after emitted last, stands before last → machine.step before event = some (after, emitted) →
    (emitted.filter looks = [] ∧ stands after last) ∨
      ∃ entry, emitted.filter looks = [entry] ∧ follows last entry ∧ stands after (some entry)

variable {machine : Machine σ ε ω} {guard : Guard σ ε ω} {looks : ω → Bool} {follows : Option ω → ω → Prop}
variable {stands : σ → Option ω → Prop}

theorem Scripts.scripted (scripts : machine.Scripts looks follows stands) {trace : List ω} {state : σ}
    (reached : machine.Reaches guard trace state) :
    Scripted follows (trace.filter looks) ∧ stands state (trace.filter looks).getLast? := by
  apply reached.invariant ⟨scripted_nil, scripts.start⟩
  intro trace before event after emitted held _ moved
  obtain ⟨scripted, last⟩ := held
  rw [List.filter_append]
  rcases scripts.step _ _ _ _ _ last moved with ⟨silent, same⟩ | ⟨entry, only, next, now⟩
  · rw [silent, List.append_nil]
    exact ⟨scripted, same⟩
  · rw [only, List.getLast?_concat]
    exact ⟨scripted_snoc.mpr ⟨scripted, next⟩, now⟩

end Machine
end Dionysus
