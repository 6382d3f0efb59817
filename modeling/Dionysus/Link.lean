import Mathlib.Data.List.Infix

/-! A link that keeps the order of its messages and may lose any of them. What has
arrived, and behind it what is on its way, is always a part of what was sent. -/

namespace Dionysus.Link

universe u
variable {α : Type u} {sent queue arrived : List α}

/-- The link neither makes messages up, nor repeats or reorders them. -/
def Conveys (sent queue arrived : List α) : Prop := (arrived ++ queue).Sublist sent

theorem Conveys.idle : Conveys ([] : List α) [] [] := .slnil

theorem Conveys.send (conveys : Conveys sent queue arrived) (message : α) :
    Conveys (sent ++ [message]) (queue ++ [message]) arrived := by
  rw [Conveys, ← List.append_assoc]
  exact conveys.append (.refl _)

theorem Conveys.take {message : α} (conveys : Conveys sent (message :: queue) arrived) :
    Conveys sent queue (arrived ++ [message]) := by
  rwa [Conveys, List.append_assoc, List.singleton_append]

theorem Conveys.lose (conveys : Conveys sent queue arrived) (index : Nat) :
    Conveys sent (queue.eraseIdx index) arrived :=
  ((List.eraseIdx_sublist queue index).append_left arrived).trans conveys

theorem Conveys.sublist (conveys : Conveys sent queue arrived) : arrived.Sublist sent :=
  (List.sublist_append_left arrived queue).trans conveys

/-- Nothing was lost. -/
def Complete (sent queue arrived : List α) : Prop := arrived ++ queue = sent

theorem Complete.send (complete : Complete sent queue arrived) (message : α) :
    Complete (sent ++ [message]) (queue ++ [message]) arrived := by
  rw [Complete, ← List.append_assoc, complete]

theorem Complete.take {message : α} (complete : Complete sent (message :: queue) arrived) :
    Complete sent queue (arrived ++ [message]) := by
  rwa [Complete, List.append_assoc, List.singleton_append]

end Dionysus.Link
