import Dionysus.DiscoSocket

/-! Who owns the socket of the Disco board. After a conversation that ends normally
`sock` still names the descriptor that was closed, and the next disconnect closes it
again. -/

namespace Dionysus.Proofs.SocketOwnership
open Disco Ledger

/-- Every close so far was of a descriptor that was open, what is still open is
`sock`, and `sock` is -1 or open. -/
def Owned (trace : List (Op Int)) (state : State) : Prop :=
  ∃ held, replay [] trace = some held ∧ (∀ descriptor ∈ held, descriptor = state.sock) ∧
    (state.sock = -1 ∨ state.sock ∈ held)

/-- No connection to the server is made. -/
def neverConnects : Guard State Event (Op Int) := fun _ _ event =>
  match event with
  | .connectResult status attempt => status = 0 → 0 ≤ attempt.socket → attempt.connect < 0
  | .disconnectResult _ => True

instance (trace : List (Op Int)) (state : State) (event : Event) : Decidable (neverConnects trace state event) :=
  match event with
  | .connectResult status attempt => inferInstanceAs (Decidable (status = 0 → 0 ≤ attempt.socket → attempt.connect < 0))
  | .disconnectResult _ => .isTrue trivial

variable {trace : List (Op Int)} {state before after : State} {event : Event} {emitted : List (Op Int)}

structure Closed (trace : List (Op Int)) (state : State) : Prop where
  sock : state.sock = -1
  balanced : Balanced trace

theorem Closed.owned (closed : Closed trace state) : Owned trace state :=
  ⟨[], closed.balanced, by simp, Or.inl closed.sock⟩

private theorem attempt_balanced (descriptor : Int) :
    Balanced [.acquire descriptor, .use descriptor, .release descriptor] :=
  balanced_once descriptor 1

private theorem conversation_balanced (descriptor : Int) :
    Balanced [.acquire descriptor, .use descriptor, .use descriptor, .use descriptor, .release descriptor] :=
  balanced_once descriptor 3

private theorem connectToServer_closed (closed : Closed trace before) {attempt : Attempt}
    (unconnected : 0 ≤ attempt.socket → attempt.connect < 0) :
    Closed (trace ++ (connectToServer attempt).2) (connectToServer attempt).1 := by
  unfold connectToServer
  by_cases failed : attempt.socket < 0
  · rw [if_pos failed]
    exact ⟨attempt.failsWithMinusOne failed, by simpa using closed.balanced⟩
  · rw [if_neg failed, if_pos (unconnected (by omega))]
    exact ⟨rfl, (balanced_append closed.balanced).mpr (attempt_balanced attempt.socket)⟩

private theorem closed_step (closed : Closed trace before) (allowed : neverConnects trace before event)
    (moved : machine.step before event = some (after, emitted)) : Closed (trace ++ emitted) after := by
  have handled : wifiEventHandler before event = (after, emitted) := Option.some.inj moved
  have same : after = (wifiEventHandler before event).1 ∧ emitted = (wifiEventHandler before event).2 := by
    rw [handled]
    exact ⟨rfl, rfl⟩
  rw [same.1, same.2]
  cases event with
  | connectResult status attempt =>
    rw [wifiEventHandler]
    by_cases zero : status = 0
    · rw [if_neg (not_not.mpr zero)]
      exact connectToServer_closed closed (allowed zero)
    · rw [if_pos zero]
      simpa using closed
  | disconnectResult status =>
    rw [wifiEventHandler, if_neg (by rw [closed.sock]; decide)]
    simpa using closed

theorem closed (reached : machine.Reaches neverConnects trace state) : Closed trace state := by
  apply reached.invariant
  · exact ⟨rfl, balanced_nil⟩
  · intro trace before event after emitted closed allowed moved
    exact closed_step closed allowed moved

/-- A conversation leaves `sock` naming a descriptor that nobody has open. -/
private theorem conversation_disowns {attempt : Attempt} (closed : Closed trace before)
    (opened : 0 ≤ attempt.socket) (connected : ¬attempt.connect < 0) :
    ¬Owned (trace ++ (connectToServer attempt).2) (connectToServer attempt).1 := by
  unfold connectToServer
  rw [if_neg (by omega), if_neg connected]
  intro ⟨held, replayed, _, named⟩
  have all : Balanced (trace ++ _) := (balanced_append closed.balanced).mpr (conversation_balanced attempt.socket)
  obtain rfl : [] = held := Option.some.inj (all.symm.trans replayed)
  rcases named with unset | member
  · have minus : attempt.socket = -1 := unset
    omega
  · cases member

/-- The socket is owned as long as no connection is made, and the first connection
that is made ends that. -/
theorem socket_owned (reached : machine.Reaches neverConnects trace state) :
    Owned trace state ∧ ∀ event after emitted, machine.step state event = some (after, emitted) →
      (Owned (trace ++ emitted) after ↔ neverConnects trace state event) := by
  have now := closed reached
  refine ⟨now.owned, ?_⟩
  intro event after emitted moved
  constructor
  · intro owned
    cases event with
    | connectResult status attempt =>
      intro zero opened
      by_contra connected
      subst zero
      have handled : connectToServer attempt = (after, emitted) := Option.some.inj moved
      apply conversation_disowns now opened connected
      rw [handled]
      exact owned
    | disconnectResult status => trivial
  · intro allowed
    exact (closed_step now allowed moved).owned

/-- A connection attempt that the server refuses. -/
theorem socket_owned_refused : ∃ trace state, machine.Reaches neverConnects trace state ∧ trace ≠ [] ∧
    Owned trace state ∧ ∀ event after emitted, machine.step state event = some (after, emitted) →
      (Owned (trace ++ emitted) after ↔ neverConnects trace state event) := by
  obtain ⟨trace, state, reached, found⟩ := machine.reaches_of_run neverConnects
    [.connectResult 0 ⟨3, -1, 0, 0, by decide⟩, .disconnectResult 0] (fun trace _ => decide (trace ≠ [])) (by decide)
  exact ⟨trace, state, reached, by simpa using found, socket_owned reached⟩

/-- The disconnect after a conversation closes its descriptor again. -/
theorem closed_twice : ¬∀ trace state, machine.Reaches Guard.free trace state → Owned trace state := by
  intro always
  obtain ⟨trace, state, reached, found⟩ := machine.reaches_of_run Guard.free
    [.connectResult 0 ⟨3, 0, 19, 0, by decide⟩, .disconnectResult 0]
    (fun trace _ => decide (replay [] trace = none)) (by decide)
  obtain ⟨held, replayed, -⟩ := always trace state reached
  rw [of_decide_eq_true found] at replayed
  cases replayed

end Dionysus.Proofs.SocketOwnership
