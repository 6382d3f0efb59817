import Mathlib.Data.Nat.Notation

/-! Counting semaphores. Handing a give over to a waiting thread is left to the
machine that knows who waits; here is the count. -/

namespace Dionysus

structure Semaphore (limit : Nat) where
  count : Nat := 0
  bounded : count ≤ limit := by exact Nat.zero_le _
deriving DecidableEq, Repr

namespace Semaphore
variable {limit : Nat}

def give (sem : Semaphore limit) : Semaphore limit := ⟨min (sem.count + 1) limit, Nat.min_le_right _ _⟩

/-- A take that does not wait: it leaves a count of zero alone. -/
def take (sem : Semaphore limit) : Semaphore limit :=
  ⟨sem.count - 1, Nat.le_trans (Nat.sub_le _ _) sem.bounded⟩

end Semaphore
end Dionysus
