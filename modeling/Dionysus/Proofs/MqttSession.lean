import Dionysus.Proofs.MqttRuns

/-! Requests on an MQTT session. The semaphore that ends the wait is never withdrawn,
so it only tells that a session was accepted once; the test of
`client.internal.state` tells that none was lost since. -/

namespace Dionysus.Proofs.MqttSession
open MqttClient MqttRuns History

/-- The library has a connection: one was made or accepted, and no disconnect was
handled since. -/
def Connected : List Mark → Prop :=
  Since (fun mark => mark = .mqttConnected 0 ∨ accepts mark = true) (disconnects · = true)

/-- A CONNACK with result 0 was handled, and no disconnect since. -/
def Up : List Mark → Prop := Since (accepts · = true) (disconnects · = true)

/-- The library keeps `client.internal.state` zero while it is disconnected. -/
def keepsState (board : Board) : Guard State Event Mark := fun trace state event =>
  ∀ next ∈ step board state event, next.1.internalState ≠ 0 → Connected (trace ++ next.2)

instance (board : Board) (trace : List Mark) (state : State) (event : Event) :
    Decidable (keepsState board trace state event) :=
  have : DecidablePred Connected := decidableSince
  inferInstanceAs (Decidable (∀ next ∈ step board state event, _ → Connected _))

def isCall : Mark → Bool
  | .called _ => true
  | _ => false

structure CallsInSession (board : Board) (trace : List Mark) : Prop where
  own : ∀ request, .called request ∈ trace → request = board.request
  up : ∀ request, Whenever (· = .called request) Up trace
  once : (trace.filter isCall).length ≤ 1

/-- How far `main` is: before it connects, in the wait and the test, and afterwards. -/
def phase : Point → Nat
  | .counting | .inputting .bringUp _ | .living | .testing => 1
  | .calling | .polling | .inputting (.events _) _ | .disconnecting | .exited _ => 2
  | _ => 0

variable {board : Board} {trace : List Mark} {state before after : State} {event : Event} {emitted : List Mark}

theorem phase_mono (move : Move board before event after emitted) : phase before.point ≤ phase after.point := by
  cases move with
  | connectFailed | connectGave | disconnectFailed | disconnectTook | addressGave | dnsIgnored | dnsGave | accepted
  | heard | published | polled => exact Nat.le_refl _
  | _ here => simp [phase, here, mqttInput]

theorem phase_inLibrary {point : Point} (inside : point.inLibrary = true) : 0 < phase point := by
  cases point with
  | inputting loop busy => cases loop <;> simp [phase]
  | living | calling | disconnecting => simp [phase]
  | _ => cases inside

theorem emits_one (move : Move board before event after emitted) : emitted = [] ∨ ∃ mark, emitted = [mark] := by
  cases move <;> simp

theorem accepts_inLibrary (move : Move board before event after emitted) {mark : Mark} (member : mark ∈ emitted)
    (accepted : accepts mark = true) : before.point.inLibrary = true := by
  obtain ⟨shown, unread, rfl⟩ := accepts_handled accepted
  cases move with
  | accepted here | heard here | published here => exact here
  | _ => simp at member

theorem connected_from (move : Move board before event after emitted) {ret : Int}
    (member : .mqttConnected ret ∈ emitted) : before.point = .connecting := by
  cases move with
  | mqttFailed here | mqttConnected here => exact here
  | _ => simp at member

structure Call (board : Board) (before after : State) (emitted : List Mark) (request : Request) : Prop where
  tested : before.point = .testing
  nonzero : before.internalState ≠ 0
  own : request = board.request
  alone : emitted = [.called request]
  now : after.point = .calling

theorem call_from (move : Move board before event after emitted) {request : Request}
    (member : .called request ∈ emitted) : Call board before after emitted request := by
  cases move with
  | called here up =>
    obtain rfl : request = board.request := by simpa using member
    exact ⟨here, up, rfl, rfl, rfl⟩
  | _ => simp at member

theorem given_from (move : Move board before event after emitted) (given : 0 < after.semMqttConnected.count) :
    0 < before.semMqttConnected.count ∨ ∃ mark ∈ emitted, accepts mark = true := by
  cases move with
  | accepted here => exact Or.inr ⟨_, List.mem_cons_self, rfl⟩
  | _ => exact Or.inl given

theorem tested_from (move : Move board before event after emitted) (tested : after.point = .testing) :
    before.point = .testing ∨ 0 < before.semMqttConnected.count := by
  cases move with
  | left here positive => exact Or.inr positive
  | connectFailed | connectGave | disconnectFailed | disconnectTook | addressGave | dnsIgnored | dnsGave | accepted
  | heard | published | polled => exact Or.inl tested
  | _ => cases tested

structure Session (board : Board) (trace : List Mark) (state : State) : Prop where
  connected : state.internalState ≠ 0 → Connected trace
  given : 0 < state.semMqttConnected.count → ∃ mark ∈ trace, accepts mark = true
  tested : state.point = .testing → ∃ mark ∈ trace, accepts mark = true
  up : Connected trace → (∃ mark ∈ trace, accepts mark = true) → Up trace
  early : phase state.point = 0 → ∀ mark ∈ trace, accepts mark = false
  uncalled : phase state.point < 2 → trace.filter isCall = []
  calls : CallsInSession board trace

private theorem Session.up_step (kept : Session board trace before) (move : Move board before event after emitted)
    (connected : Connected (trace ++ emitted)) (accepted : ∃ mark ∈ trace ++ emitted, accepts mark = true) :
    Up (trace ++ emitted) := by
  rcases emits_one move with rfl | ⟨mark, rfl⟩
  · rw [List.append_nil] at connected accepted ⊢
    exact kept.up connected accepted
  · by_cases now : accepts mark = true
    · exact since_snoc.mpr (Or.inl now)
    · obtain ⟨found, member, earlier⟩ := accepted
      have old : found ∈ trace := by
        rcases List.mem_append.mp member with old | new
        · exact old
        · rw [List.mem_singleton.mp new] at earlier
          exact absurd earlier now
      rcases since_snoc.mp connected with (rfl | accepted) | ⟨still, remains⟩
      · have first : phase before.point = 0 := by simp [connected_from move List.mem_cons_self, phase]
        rw [kept.early first found old] at earlier
        cases earlier
      · exact absurd accepted now
      · exact since_snoc.mpr (Or.inr ⟨kept.up still ⟨found, old, earlier⟩, remains⟩)

private theorem Session.calls_step (kept : Session board trace before) (move : Move board before event after emitted) :
    CallsInSession board (trace ++ emitted) := by
  by_cases calls : ∃ request, .called request ∈ emitted
  · obtain ⟨request, member⟩ := calls
    obtain ⟨tested, nonzero, own, rfl, -⟩ := call_from move member
    have up : Up trace := kept.up (kept.connected nonzero) (kept.tested tested)
    have first : trace.filter isCall = [] := kept.uncalled (by simp [tested, phase])
    refine ⟨?_, ?_, by rw [List.filter_append, first]; exact Nat.le_refl 1⟩
    · intro other among
      rcases List.mem_append.mp among with old | new
      · exact kept.calls.own other old
      · obtain rfl : other = request := by simpa using new
        exact own
    · intro other
      exact whenever_snoc.mpr ⟨kept.calls.up other, fun _ => up⟩
  · have none : emitted.filter isCall = [] := by
      rw [List.filter_eq_nil_iff]
      intro mark member call
      cases mark with
      | called request => exact calls ⟨request, member⟩
      | _ => cases call
    refine ⟨?_, ?_, by simpa [none] using kept.calls.once⟩
    · intro other among
      rcases List.mem_append.mp among with old | new
      · exact kept.calls.own other old
      · exact absurd ⟨other, new⟩ calls
    · intro other
      exact (kept.calls.up other).append fun mark member same => calls ⟨other, same ▸ member⟩

private theorem session_step (kept : Session board trace before) (allowed : keepsState board trace before event)
    (moved : step board before event = some (after, emitted)) : Session board (trace ++ emitted) after := by
  have move := move_of_step moved
  have later := phase_mono move
  have keep : (∃ mark ∈ trace, accepts mark = true) → ∃ mark ∈ trace ++ emitted, accepts mark = true :=
    fun ⟨mark, member, accepts⟩ => ⟨mark, List.mem_append_left _ member, accepts⟩
  refine ⟨allowed _ moved, ?_, ?_, kept.up_step move, ?_, ?_, kept.calls_step move⟩
  · intro given
    rcases given_from move given with old | ⟨mark, member, accepts⟩
    · exact keep (kept.given old)
    · exact ⟨mark, List.mem_append_right _ member, accepts⟩
  · intro tested
    rcases tested_from move tested with old | given
    · exact keep (kept.tested old)
    · exact keep (kept.given given)
  · intro zero mark member
    rcases List.mem_append.mp member with old | new
    · exact kept.early (by omega) mark old
    · by_contra accepted
      have inside := phase_inLibrary (accepts_inLibrary move new (by simpa using accepted))
      omega
  · intro below
    rw [List.filter_append, kept.uncalled (by omega), List.nil_append, List.filter_eq_nil_iff]
    intro mark member call
    cases mark with
    | called request =>
      simp [(call_from move member).now, phase] at below
    | _ => cases call

theorem session (reached : (machine board).Reaches (keepsState board) trace state) : Session board trace state := by
  apply reached.invariant
  · exact ⟨by simp [machine], by simp [machine], by simp [machine], fun connected => absurd connected not_since_nil,
      by simp, by simp, ⟨by simp, fun _ => whenever_nil, by simp⟩⟩
  · intro trace before event after emitted kept allowed moved
    exact session_step kept allowed moved

/-- `main` asks for one thing at most, and only on a session that is up. -/
theorem calls_in_session (reached : (machine board).Reaches (keepsState board) trace state) :
    CallsInSession board trace :=
  (session reached).calls

/-- A session is accepted, and the board publishes on it. -/
theorem calls_in_session_run : ∃ trace state, (machine .esp32Dk).Reaches (keepsState .esp32Dk) trace state ∧
    .called .publish ∈ trace ∧ CallsInSession .esp32Dk trace := by
  obtain ⟨trace, state, reached, found⟩ := (machine .esp32Dk).reaches_of_run (keepsState .esp32Dk)
    [.initialised true, .wifiRequested 0, .wifiConnectResult 0, .main, .main, .ipv4AddrAdd, .main, .main,
      .dnsContext true, .dnsQueried 0, .dnsResult .allDone, .main, .main, .mqttConnected 0 2, .main,
      .delivered (.connack 0) 4, .inputReturned 0 4, .liveReturned 4, .main, .main]
    (fun trace _ => decide (.called .publish ∈ trace)) (by decide)
  exact ⟨trace, state, reached, by simpa using found, calls_in_session reached⟩

end Dionysus.Proofs.MqttSession
