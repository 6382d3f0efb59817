import Dionysus.Proofs.MqttRuns

/-! The address that bring-up waits for. A disconnect withdraws what a connect gave,
but not what an address gave, so an address of an earlier association can still be
signalled when the next one begins. -/

namespace Dionysus.Proofs.LinkAddress
open MqttClient MqttRuns History

/-- An address was added after the most recent successful connect result. -/
def Fresh : List Mark → Prop := Since (· = .ipv4AddrAdd) (· = .wifiConnectResult 0)

instance (trace : List Mark) : Decidable (Fresh trace) := decidableSince trace

/-- Every time the wait for an address was passed, the address was fresh. -/
def WaitsForLink : List Mark → Prop := Whenever (· = .addressPassed) Fresh

/-- An address was signalled and `main` has not gone on with it. -/
def Outstanding (state : State) : Prop := 0 < state.semIpv4.count ∨ state.point = .tookIpv4

instance (state : State) : Decidable (Outstanding state) := inferInstanceAs (Decidable (_ ∨ _))

/-- No successful connect result while an address is outstanding. -/
def nothingLeftOver : Guard State Event Mark :=
  fun _ state event => event = .wifiConnectResult 0 → ¬Outstanding state

instance (trace : List Mark) (state : State) (event : Event) : Decidable (nothingLeftOver trace state event) :=
  inferInstanceAs (Decidable (_ → _))

structure Signalled (trace : List Mark) (state : State) : Prop where
  fresh : Outstanding state → Fresh trace
  passed : WaitsForLink trace

variable {board : Board} {trace : List Mark} {state before after : State} {event : Event} {emitted : List Mark}

/-- A step that neither connects nor passes the wait keeps what it leaves outstanding. -/
private theorem Signalled.quiet (kept : Signalled trace before)
    (connects : .wifiConnectResult 0 ∉ emitted) (passes : .addressPassed ∉ emitted)
    (outstanding : Outstanding after → Outstanding before) : Signalled (trace ++ emitted) after := by
  refine ⟨?_, kept.passed.append fun entry member same => passes (same ▸ member)⟩
  intro left
  exact (kept.fresh (outstanding left)).append fun entry member same => connects (same ▸ member)

/-- After an address event there is nothing stale to be outstanding. -/
private theorem Signalled.added (kept : Signalled trace before) : Signalled (trace ++ [.ipv4AddrAdd]) after :=
  ⟨fun _ => since_snoc.mpr (Or.inl rfl), whenever_snoc.mpr ⟨kept.passed, by simp⟩⟩

private theorem Signalled.connected (kept : Signalled trace before) (nothing : ¬Outstanding after) :
    Signalled (trace ++ [.wifiConnectResult 0]) after :=
  ⟨fun left => absurd left nothing, whenever_snoc.mpr ⟨kept.passed, by simp⟩⟩

private theorem Signalled.untouched (kept : Signalled trace before)
    (connects : .wifiConnectResult 0 ∉ emitted) (passes : .addressPassed ∉ emitted)
    (sem : after.semIpv4 = before.semIpv4) (elsewhere : after.point = .tookIpv4 → before.point = .tookIpv4) :
    Signalled (trace ++ emitted) after := by
  apply kept.quiet connects passes
  intro left
  rw [Outstanding, sem] at left
  exact left.imp_right elsewhere

private theorem signalled_step (kept : Signalled trace before) (allowed : nothingLeftOver trace before event)
    (move : Move board before event after emitted) : Signalled (trace ++ emitted) after := by
  cases move with
  | connectWoke here =>
    apply kept.connected
    intro left
    apply allowed rfl
    simpa [Outstanding, here] using left
  | connectGave here => exact kept.connected (allowed rfl)
  | connectFailed failed => exact kept.quiet (by simpa using failed.symm) (by simp) id
  | addressWoke => exact kept.added
  | addressGave => exact kept.added
  | tookIpv4 here positive => exact kept.quiet (by simp) (by simp) fun _ => Or.inl positive
  | addressPassed here =>
    have fresh : Fresh trace := kept.fresh (Or.inr here)
    refine ⟨fun _ => ?_, whenever_snoc.mpr ⟨kept.passed, fun _ => fresh⟩⟩
    exact since_snoc.mpr (Or.inr ⟨fresh, by simp⟩)
  | _ => exact kept.untouched (by simp) (by simp) rfl (by simp [mqttInput])

theorem signalled (reached : (machine board).Reaches nothingLeftOver trace state) : Signalled trace state := by
  apply reached.invariant
  · exact ⟨by simp [Outstanding, machine], whenever_nil⟩
  · intro trace before event after emitted kept allowed moved
    exact signalled_step kept allowed (move_of_step moved)

/-- When no association begins with an address outstanding, bring-up goes on with an
address of the current link only. -/
theorem link_address_fresh (reached : (machine board).Reaches nothingLeftOver trace state) : WaitsForLink trace :=
  (signalled reached).passed

/-- The wait is passed on the address that the current association obtained. -/
theorem link_address_fresh_run : ∃ trace state,
    (machine .m5Core2).Reaches nothingLeftOver trace state ∧ .addressPassed ∈ trace ∧ WaitsForLink trace := by
  obtain ⟨trace, state, reached, passed⟩ := (machine .m5Core2).reaches_of_run nothingLeftOver
    [.initialised true, .wifiRequested 0, .main, .wifiConnectResult 0, .ipv4AddrAdd, .main, .main, .main]
    (fun trace _ => decide (.addressPassed ∈ trace)) (by decide)
  exact ⟨trace, state, reached, by simpa using passed, link_address_fresh reached⟩

/-- The link is lost after its address was signalled and before `main` takes it. -/
theorem left_over_address_passed :
    ¬∀ board trace state, (machine board).Reaches Guard.free trace state → WaitsForLink trace := by
  intro always
  obtain ⟨trace, state, reached, found⟩ := (machine .esp32Dk).reaches_of_run Guard.free
    [.initialised true, .wifiRequested 0, .wifiConnectResult 0, .ipv4AddrAdd, .wifiDisconnectResult 0,
      .wifiConnectResult 0, .main, .main, .main, .main]
    (fun trace _ => decide (trace = [.started .wifi, .wifiRequested 0, .wifiConnectResult 0, .ipv4AddrAdd,
      .wifiDisconnectResult 0, .wifiConnectResult 0, .returned .wifi 0] ++ [.addressPassed])) (by decide)
  obtain rfl := of_decide_eq_true found
  have fresh := always _ _ _ reached _ .addressPassed [] rfl rfl
  revert fresh
  decide

end Dionysus.Proofs.LinkAddress
