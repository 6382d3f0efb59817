import Dionysus.Script
import Dionysus.Proofs.MqttRuns

/-! Bring-up is a script. The callbacks come in any order and at any time, but `main`
takes its steps one behind the other, each behind one that the script allows, and its
result narrows down which step was the last. A stage needs the one before it to have
succeeded, apart from a positive result of the resolver: `mqtt_connect_client` passes it
on, and `main` takes it for a connection. -/

namespace Dionysus.Proofs.BringUpOrder
open MqttClient MqttRuns

/-- The entries that `main` makes itself, up to its request. -/
def isStep : Mark → Bool
  | .started _ | .wifiRequested _ | .returned _ _ | .addressPassed | .mqttConnected _ | .called _ => true
  | _ => false

def steps (trace : List Mark) : List Mark := trace.filter isStep

/-- The steps that may come directly behind a step. A positive result of the resolver
counts as a connection, without a connect. -/
inductive Follows (board : Board) : Option Mark → Mark → Prop where
  | wifi : Follows board none (.started .wifi)
  | requested (ret : Int) : Follows board (some (.started .wifi)) (.wifiRequested ret)
  | connected (ret : Int) : Follows board (some (.wifiRequested ret)) (.returned .wifi ret)
  | address {ret : Int} (fine : 0 ≤ ret) : Follows board (some (.returned .wifi ret)) .addressPassed
  | noContext : Follows board (some .addressPassed) (.returned .dns (-1))
  | dns : Follows board (some .addressPassed) (.started .dns)
  | resolved (ret : Int) : Follows board (some (.started .dns)) (.returned .dns ret)
  | mqtt (ret : Int) : Follows board (some (.returned .dns 0)) (.mqttConnected ret)
  | accepted {ret : Int} (fine : 0 ≤ ret) : Follows board (some (.mqttConnected ret)) (.returned .mqtt 0)
  | unusual {ret : Int} (positive : 0 < ret) : Follows board (some (.returned .dns ret)) (.returned .mqtt 0)
  | called : Follows board (some (.returned .mqtt 0)) (.called board.request)

def rank : Mark → Nat
  | .wifiRequested _ => 1
  | .returned .wifi _ => 2
  | .addressPassed => 3
  | .started .dns => 4
  | .returned .dns _ => 5
  | .mqttConnected _ => 6
  | .returned .mqtt _ => 7
  | .called _ => 8
  | _ => 0

/-- Bring-up is over, with or without a request. -/
def Up (board : Board) (last : Option Mark) : Prop :=
  last = some (.returned .mqtt 0) ∨ last = some (.called board.request)

/-- The steps that can be the last of a run that ended with this result of `main`. -/
def Ended (board : Board) (result : Int) (last : Option Mark) : Prop :=
  (result = 0 ∧ (last = none ∨ (∃ ret < 0, last = some (.returned .wifi ret)) ∨ Up board last)) ∨
    (result = 1 ∧ ((∃ ret < 0, last = some (.returned .dns ret)) ∨ (∃ ret < 0, last = some (.mqttConnected ret)) ∨
      last = some (.called board.request)))

/-- The steps that can be the last, by the statement that `main` executes next. -/
def Stands (board : Board) (point : Point) (last : Option Mark) : Prop :=
  match point with
  | .starting => last = none
  | .requesting => last = some (.started .wifi)
  | .takingWifi ret | .waitingWifi ret | .tookWifi ret => last = some (.wifiRequested ret)
  | .takingIpv4 | .waitingIpv4 | .tookIpv4 => ∃ ret ≥ 0, last = some (.returned .wifi ret)
  | .findingContext => last = some .addressPassed
  | .querying | .takingDns | .waitingDns | .tookDns => last = some (.started .dns)
  | .connecting => last = some (.returned .dns 0)
  | .counting | .inputting .bringUp _ | .living =>
    (∃ ret ≥ 0, last = some (.mqttConnected ret)) ∨ ∃ ret > 0, last = some (.returned .dns ret)
  | .testing => last = some (.returned .mqtt 0)
  | .calling => last = some (.called board.request)
  | .polling | .inputting (.events _) _ | .disconnecting => Up board last
  | .exited result => Ended board result last

variable {board : Board} {trace : List Mark} {state before after : State} {emitted : List Mark}

theorem connected_point {ret : Int} {internal : Nat}
    (moved : step board before (.mqttConnected ret internal) = some (after, emitted)) :
    after.point = if ret < 0 then .exited 1 else .counting := by
  simp only [step] at moved
  split at moved <;> cases moved
  rfl

theorem scripts (board : Board) :
    (machine board).Scripts isStep (Follows board) (fun state last => Stands board state.point last) := by
  refine ⟨rfl, ?_⟩
  intro before event after emitted last stands moved
  cases move_of_step moved with
  | connectFailed | connectGave | disconnectFailed | disconnectTook | addressGave | dnsIgnored | dnsGave | accepted
  | heard | published | polled => exact Or.inl ⟨rfl, stands⟩
  | connectWoke here | addressWoke here | dnsWoke here | tookWifi here | waitedWifi here | tookIpv4 here
  | waitedIpv4 here | tookDns here | waitedDns here | queried here | round here | roundReturned here
  | liveReturned here | polledInput here | pollBroke here | inputReturned here | inputBroke here =>
    rw [here] at stands
    exact Or.inl ⟨rfl, stands⟩
  | initialised here =>
    rw [here] at stands
    exact Or.inr ⟨_, rfl, stands ▸ .wifi, rfl⟩
  | displayMissing here =>
    rw [here] at stands
    exact Or.inl ⟨rfl, Or.inl ⟨rfl, Or.inl stands⟩⟩
  | requested here =>
    rw [here] at stands
    exact Or.inr ⟨_, rfl, stands ▸ .requested _, rfl⟩
  | wifiReturned here fine =>
    rw [here] at stands
    exact Or.inr ⟨_, rfl, stands ▸ .connected _, _, fine, rfl⟩
  | wifiFailed here failed =>
    rw [here] at stands
    exact Or.inr ⟨_, rfl, stands ▸ .connected _, Or.inl ⟨rfl, Or.inr (Or.inl ⟨_, failed, rfl⟩)⟩⟩
  | addressPassed here =>
    rw [here] at stands
    obtain ⟨ret, fine, rfl⟩ := stands
    exact Or.inr ⟨_, rfl, .address fine, rfl⟩
  | contextFound here =>
    rw [here] at stands
    exact Or.inr ⟨_, rfl, stands ▸ .dns, rfl⟩
  | contextMissing here =>
    rw [here] at stands
    exact Or.inr ⟨_, rfl, stands ▸ .noContext, Or.inr ⟨rfl, Or.inl ⟨-1, by decide, rfl⟩⟩⟩
  | queryFailed here failed =>
    rw [here] at stands
    exact Or.inr ⟨_, rfl, stands ▸ .resolved _, Or.inr ⟨rfl, Or.inl ⟨_, failed, rfl⟩⟩⟩
  | queryUnusual here positive =>
    rw [here] at stands
    exact Or.inr ⟨_, rfl, stands ▸ .resolved _, Or.inr ⟨_, positive, rfl⟩⟩
  | dnsTimeout here =>
    rw [here] at stands
    exact Or.inr ⟨_, rfl, stands ▸ .resolved _, Or.inr ⟨rfl, Or.inl ⟨-2, by decide, rfl⟩⟩⟩
  | dnsReturned here =>
    rw [here] at stands
    exact Or.inr ⟨_, rfl, stands ▸ .resolved _, rfl⟩
  | @mqttFailed ret internal here =>
    have failed : ret < 0 := by
      have gone := @connected_point board _ _ _ _ _ moved
      by_contra fine
      rw [if_neg fine] at gone
      cases gone
    rw [here] at stands
    exact Or.inr ⟨_, rfl, stands ▸ .mqtt _, Or.inr ⟨rfl, Or.inr (Or.inl ⟨_, failed, rfl⟩)⟩⟩
  | @mqttConnected ret internal here =>
    have fine : 0 ≤ ret := by
      have on := @connected_point board _ _ _ _ _ moved
      by_contra failed
      rw [if_pos (by omega)] at on
      cases on
    rw [here] at stands
    exact Or.inr ⟨_, rfl, stands ▸ .mqtt _, Or.inl ⟨_, fine, rfl⟩⟩
  | left here positive =>
    rw [here] at stands
    refine Or.inr ⟨_, rfl, ?_, rfl⟩
    rcases stands with ⟨ret, fine, rfl⟩ | ⟨ret, positive, rfl⟩
    · exact .accepted fine
    · exact .unusual positive
  | called here up =>
    rw [here] at stands
    exact Or.inr ⟨_, rfl, stands ▸ .called, rfl⟩
  | skipped here down =>
    rw [here] at stands
    exact Or.inl ⟨rfl, Or.inl stands⟩
  | callReturned here =>
    rw [here] at stands
    exact Or.inl ⟨rfl, Or.inr stands⟩
  | callFailed here =>
    rw [here] at stands
    exact Or.inl ⟨rfl, Or.inr ⟨rfl, Or.inr (Or.inr stands)⟩⟩
  | disconnected here =>
    rw [here] at stands
    exact Or.inl ⟨rfl, Or.inl ⟨rfl, Or.inr (Or.inr stands)⟩⟩

theorem rank_rises {last entry : Mark} (follows : Follows board (some last) entry) : rank last < rank entry := by
  cases follows <;> simp [rank]

/-- In every run the steps of `main` follow the script, so each is taken once at most and
directly behind one that the script allows, and the last fits where `main` is, or what it
has returned. -/
theorem bring_up_in_order (reached : (machine board).Reaches Guard.free trace state) :
    Scripted (Follows board) (steps trace) ∧ ((steps trace).map rank).Pairwise (· < ·) ∧
      Stands board state.point (steps trace).getLast? := by
  obtain ⟨scripted, stands⟩ := (scripts board).scripted reached
  exact ⟨scripted, scripted.increasing rank fun _ _ => rank_rises, stands⟩

/-- Between the steps the link goes down and comes back, and the resolver times out. -/
theorem bring_up_in_order_timeout :
    ∃ trace state, (machine .m5Core2).Reaches Guard.free trace state ∧ state.point = .exited 1 ∧
      steps trace = [.started .wifi, .wifiRequested 0, .returned .wifi 0, .addressPassed, .started .dns,
        .returned .dns (-2)] ∧
      Scripted (Follows .m5Core2) (steps trace) ∧ ((steps trace).map rank).Pairwise (· < ·) ∧
      Stands .m5Core2 state.point (steps trace).getLast? := by
  obtain ⟨trace, state, reached, found⟩ := (machine .m5Core2).reaches_of_run Guard.free
    [.initialised true, .wifiRequested 0, .wifiConnectResult 0, .main, .wifiDisconnectResult 0, .main, .ipv4AddrAdd,
      .wifiConnectResult 0, .main, .main, .dnsContext true, .dnsQueried 0, .main, .dnsResult .fail, .dnsTimeout]
    (fun trace state => state.point == .exited 1 && steps trace == [.started .wifi, .wifiRequested 0,
      .returned .wifi 0, .addressPassed, .started .dns, .returned .dns (-2)]) (by decide)
  simp only [Bool.and_eq_true, beq_iff_eq] at found
  exact ⟨trace, state, reached, found.1, found.2, bring_up_in_order reached⟩

/-- Once the session was accepted, `main` never calls `mqtt_live` again, which alone keeps
an idle session alive. -/
theorem never_live_again (reached : (machine board).Reaches Guard.free trace state)
    (accepted : .returned .mqtt 0 ∈ trace) (internal : Nat) :
    (machine board).step state (.liveReturned internal) = none := by
  obtain ⟨scripted, stands⟩ := (scripts board).scripted reached
  have high : ∀ last, (steps trace).getLast? = some last → 7 ≤ rank last := fun last final =>
    scripted.rank_le_last rank (fun _ _ => rank_rises)
      (List.mem_filter.mpr ⟨accepted, rfl⟩ : Mark.returned .mqtt 0 ∈ steps trace) final
  have gone : state.point ≠ .living := by
    intro here
    rw [here] at stands
    rcases stands with ⟨ret, -, final⟩ | ⟨ret, -, final⟩
    · exact absurd (high _ final) (by simp [rank])
    · exact absurd (high _ final) (by simp [rank])
  simp only [machine, step]

/-- The board is in its event loop, and a message has come. -/
theorem never_live_again_polling :
    ∃ trace state, (machine .m5Core2).Reaches Guard.free trace state ∧
      state.point = .inputting (.events ⟨true, false, false⟩) false ∧
      (machine .m5Core2).step state (.liveReturned 4) = none := by
  obtain ⟨trace, state, reached, found⟩ := (machine .m5Core2).reaches_of_run Guard.free
    [.initialised true, .wifiRequested 0, .wifiConnectResult 0, .main, .main, .ipv4AddrAdd, .main, .main,
      .dnsContext true, .dnsQueried 0, .dnsResult .allDone, .main, .main, .mqttConnected 0 2, .main,
      .delivered (.connack 0) 4, .inputReturned 0 4, .liveReturned 4, .main, .main, .callReturned 0 4,
      .polled 1 ⟨true, false, false⟩]
    (fun trace state => decide (.returned .mqtt 0 ∈ trace) &&
      state.point == .inputting (.events ⟨true, false, false⟩) false) (by decide)
  simp only [Bool.and_eq_true, beq_iff_eq, decide_eq_true_eq] at found
  exact ⟨trace, state, reached, found.2, never_live_again reached found.1 4⟩

end Dionysus.Proofs.BringUpOrder
