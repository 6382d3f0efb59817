import Dionysus.Proofs.MqttRuns

/-! Payload left unread. The handler reads once, at most 127 bytes of at most 65535,
and the library refuses to go on while payload is unread, so one message that is
not read whole ends the event loop. -/

namespace Dionysus.Proofs.MessageDrain
open MqttClient MqttRuns History

def inMqttInput : Point → Bool
  | .inputting _ _ => true
  | _ => false

/-- `mqtt_input` was called with payload unread. -/
def calledBusy : Point → Bool
  | .inputting _ busy => busy
  | _ => false

/-- `mqtt_input` delivers nothing and fails while payload is unread. -/
def refusesUnread : Guard State Event Mark := fun _ state event =>
  match event with
  | .delivered _ _ => inMqttInput state.point = true → state.unread = 0
  | .inputReturned ret _ => calledBusy state.point = true → ret < 0
  | _ => True

/-- A read that does not fail returns the whole payload. -/
def WholeRead : MqttEvent → Prop
  | .publish message ret => ret < 0 ∨ ret = message.payload.length
  | _ => True

def readsWhole : Guard State Event Mark := fun trace state event =>
  refusesUnread trace state event ∧
    match event with
    | .delivered message _ => WholeRead message
    | _ => True

instance (trace : List Mark) (state : State) (event : Event) : Decidable (refusesUnread trace state event) :=
  match event with
  | .delivered _ _ => inferInstanceAs (Decidable (_ → state.unread = 0))
  | .inputReturned ret _ => inferInstanceAs (Decidable (_ → ret < 0))
  | .main | .wifiConnectResult _ | .wifiDisconnectResult _ | .ipv4AddrAdd | .dnsResult _ | .initialised _
  | .wifiRequested _ | .dnsContext _ | .dnsQueried _ | .dnsTimeout | .mqttConnected _ _ | .liveReturned _
  | .callReturned _ _ | .polled _ _ | .disconnected _ => .isTrue trivial

instance (event : MqttEvent) : Decidable (WholeRead event) :=
  match event with
  | .publish message ret => inferInstanceAs (Decidable (_ ∨ ret = message.payload.length))
  | .connack _ | .disconnect | .other _ => .isTrue trivial

instance (trace : List Mark) (state : State) (event : Event) : Decidable (readsWhole trace state event) :=
  have : Decidable (refusesUnread trace state event) := inferInstance
  match event with
  | .delivered message _ => inferInstanceAs (Decidable (_ ∧ WholeRead message))
  | .inputReturned _ _ | .main | .wifiConnectResult _ | .wifiDisconnectResult _ | .ipv4AddrAdd | .dnsResult _
  | .initialised _ | .wifiRequested _ | .dnsContext _ | .dnsQueried _ | .dnsTimeout | .mqttConnected _ _
  | .liveReturned _ | .callReturned _ _ | .polled _ _ | .disconnected _ => inferInstanceAs (Decidable (_ ∧ True))

/-- A run of the handler whose read failed, and one whose read did not. -/
def readFailed : Mark → Bool
  | .handled (.publish _ ret) _ _ => decide (ret < 0)
  | _ => false

def readDone : Mark → Bool
  | .handled (.publish _ ret) _ _ => decide (0 ≤ ret)
  | _ => false

def failsBusy : Mark → Bool
  | .inputReturned _ busy => busy
  | _ => false

/-- Handled messages leave nothing unread, and where `mqtt_input` was called with
payload unread, the read of the last message had failed. -/
structure Drains (trace : List Mark) : Prop where
  drained : ∀ message ret shown unread, .handled (.publish message ret) shown unread ∈ trace → 0 ≤ ret → unread = 0
  unbroken : Whenever (failsBusy · = true) (Since (readFailed · = true) (readDone · = true)) trace

structure Kept (trace : List Mark) (state : State) : Prop where
  unread : state.unread ≠ 0 → Since (readFailed · = true) (readDone · = true) trace
  busy : calledBusy state.point = true → state.unread ≠ 0
  drains : Drains trace

variable {board : Board} {trace : List Mark} {state before after : State} {event : Event} {emitted : List Mark}

/-- A step outside `mqtt_input` that handles no message. -/
private theorem Kept.quiet (kept : Kept trace before) (silent : ∀ mark ∈ emitted, ∀ message ret shown unread,
      mark ≠ .handled (.publish message ret) shown unread) (calm : ∀ mark ∈ emitted, failsBusy mark = false)
    (unread : after.unread = before.unread) (busy : calledBusy after.point = true → before.unread ≠ 0) :
    Kept (trace ++ emitted) after := by
  have undone : ∀ mark ∈ emitted, ¬readDone mark = true := by
    intro mark member done
    cases mark with
    | handled event shown unread =>
      cases event with
      | publish message ret => exact silent _ member message ret shown unread rfl
      | _ => cases done
    | _ => cases done
  refine ⟨?_, ?_, ?_, ?_⟩
  · intro left
    exact (kept.unread (unread ▸ left)).append undone
  · intro now
    rw [unread]
    exact busy now
  · intro message ret shown left member
    rcases List.mem_append.mp member with old | new
    · exact kept.drains.drained message ret shown left old
    · exact absurd rfl (silent _ new message ret shown left)
  · exact kept.drains.unbroken.append fun mark member => by simp [calm mark member]

private theorem Kept.published {message : Publish} {ret : Int} {shown : Option Printed} {internal : Nat}
    (kept : Kept trace before) (free : inMqttInput before.point = true → before.unread = 0)
    (whole : WholeRead (.publish message ret)) :
    Kept (trace ++ [.handled (.publish message ret) shown (remainingPayload message ret)])
      { before with unread := remainingPayload message ret, internalState := internal } := by
  refine ⟨?_, ?_, ?_, whenever_snoc.mpr ⟨kept.drains.unbroken, by simp [failsBusy]⟩⟩
  · intro left
    rcases whole with failed | all
    · exact since_snoc.mpr (Or.inl (by simpa [readFailed] using failed))
    · exact absurd (by rw [remainingPayload, all, Int.toNat_natCast, Nat.sub_self]) left
  · intro busy
    have inside : inMqttInput before.point = true := by
      cases here : before.point <;> rw [here] at busy <;> first | rfl | cases busy
    exact absurd (free inside) (kept.busy busy)
  · intro other count line left member fine
    rcases List.mem_append.mp member with old | new
    · exact kept.drains.drained other count line left old fine
    · obtain ⟨⟨rfl, rfl⟩, -, rfl⟩ :
          (other = message ∧ count = ret) ∧ line = shown ∧ left = remainingPayload message ret := by
        simpa using new
      rcases whole with failed | all
      · omega
      · rw [remainingPayload, all, Int.toNat_natCast, Nat.sub_self]

private theorem Kept.returned {loop : Loop} {busy : Bool} {ret : Int} (kept : Kept trace before)
    (here : before.point = .inputting loop busy) (unread : after.unread = before.unread)
    (calm : calledBusy after.point = false) : Kept (trace ++ [.inputReturned ret busy]) after := by
  refine ⟨?_, by simp [calm], ?_, whenever_snoc.mpr ⟨kept.drains.unbroken, ?_⟩⟩
  · intro left
    exact (kept.unread (unread ▸ left)).append (by simp [readDone])
  · intro message count shown left member
    exact kept.drains.drained message count shown left (by simpa using member)
  · intro broken
    exact kept.unread (kept.busy (by rw [here]; exact broken))

private theorem kept_step (kept : Kept trace before) (allowed : readsWhole trace before event)
    (move : Move board before event after emitted) : Kept (trace ++ emitted) after := by
  cases move with
  | published here may prints => exact kept.published allowed.1 allowed.2
  | roundReturned here => exact kept.returned here rfl rfl
  | inputReturned here => exact kept.returned here rfl rfl
  | inputBroke here => exact kept.returned here rfl rfl
  | heard here other unpublished =>
    refine kept.quiet ?_ (by simp [failsBusy]) rfl kept.busy
    simpa using fun message ret same => absurd same (unpublished message ret)
  | connectFailed | connectGave | disconnectFailed | disconnectTook | addressGave | dnsIgnored | dnsGave | accepted
  | polled =>
    exact kept.quiet (by simp) (by simp [failsBusy]) rfl kept.busy
  | round here zero => exact kept.quiet (by simp) (by simp) rfl (by simp [calledBusy, mqttInput, Nat.pos_iff_ne_zero])
  | polledInput here => exact kept.quiet (by simp) (by simp) rfl (by simp [calledBusy, mqttInput, Nat.pos_iff_ne_zero])
  | _ => exact kept.quiet (by simp) (by simp [failsBusy]) rfl (by simp [calledBusy])

theorem kept (reached : (machine board).Reaches readsWhole trace state) : Kept trace state := by
  apply reached.invariant
  · exact ⟨by simp [machine], by simp [machine, calledBusy], ⟨by simp, whenever_nil⟩⟩
  · intro trace before event after emitted kept allowed moved
    exact kept_step kept allowed (move_of_step moved)

private theorem whole_of_drains (drains : Drains (trace ++ emitted)) {message : MqttEvent} {internal : Nat}
    (move : Move board before (.delivered message internal) after emitted) : WholeRead message := by
  cases move with
  | accepted here => trivial
  | heard here other unpublished =>
    cases message with
    | publish message ret => exact absurd rfl (unpublished message ret)
    | _ => trivial
  | @published message ret shown internal here may prints =>
    by_cases failed : ret < 0
    · exact Or.inl failed
    · have nothing : remainingPayload message ret = 0 :=
        drains.drained message ret shown _ (List.mem_append_right _ List.mem_cons_self) (by omega)
      have fewer := may.le
      have enough := publishLen_le message
      rw [remainingPayload] at nothing
      exact Or.inr (by omega)

/-- Messages that are read whole leave nothing unread and never end the event loop,
and the first one that is not read whole leaves something. -/
theorem messages_drained (reached : (machine board).Reaches readsWhole trace state) :
    Drains trace ∧ ∀ event after emitted, refusesUnread trace state event →
      step board state event = some (after, emitted) →
        (Drains (trace ++ emitted) ↔ readsWhole trace state event) := by
  refine ⟨(kept reached).drains, ?_⟩
  intro event after emitted refuses moved
  constructor
  · intro drains
    refine ⟨refuses, ?_⟩
    cases event with
    | delivered message internal => exact whole_of_drains drains (move_of_step moved)
    | _ => trivial
  · intro allowed
    exact (kept_step (kept reached) allowed (move_of_step moved)).drains

/-- The run that brings `main` to its event loop on an accepted session. -/
def bringUp : List Event :=
  [.initialised true, .wifiRequested 0, .wifiConnectResult 0, .main, .main, .ipv4AddrAdd, .main, .main,
    .dnsContext true, .dnsQueried 0, .dnsResult .allDone, .main, .main, .mqttConnected 0 2, .main,
    .delivered (.connack 0) 4, .inputReturned 0 4, .liveReturned 4, .main, .main, .callReturned 0 4]

/-- A PUBLISH of two bytes. -/
def twoBytes : Publish where
  rxBuff := ⟨List.replicate mqttClientRxBufLen 0, List.length_replicate⟩
  topicOffset := 4
  topicSize := 0
  payload := [0x6F, 0x6E]
  topicInside := by decide
  payloadBounded := by decide

/-- A message is read whole, and `main` polls on. -/
theorem messages_drained_run : ∃ trace state, (machine .m5Core2).Reaches readsWhole trace state ∧
    .handled (.publish twoBytes 2) (onPublish twoBytes 2).join 0 ∈ trace ∧ state.point = .polling ∧
      Drains trace ∧ ∀ event after emitted, refusesUnread trace state event →
        step .m5Core2 state event = some (after, emitted) →
          (Drains (trace ++ emitted) ↔ readsWhole trace state event) := by
  obtain ⟨trace, state, reached, found⟩ := (machine .m5Core2).reaches_of_run readsWhole
    (bringUp ++ [.polled 1 { pollin := true }, .delivered (.publish twoBytes 2) 4, .inputReturned 0 4])
    (fun trace state => decide (.handled (.publish twoBytes 2) (onPublish twoBytes 2).join 0 ∈ trace ∧
      state.point = .polling)) (by decide)
  obtain ⟨handled, here⟩ := of_decide_eq_true found
  exact ⟨trace, state, reached, handled, here, messages_drained reached⟩

/-- One byte is read of two, and the next call of `mqtt_input` ends the event loop. -/
theorem split_message_disconnects : ¬∀ board trace state,
    (machine board).Reaches refusesUnread trace state → Drains trace := by
  intro always
  obtain ⟨trace, state, reached, found⟩ := (machine .m5Core2).reaches_of_run refusesUnread
    (bringUp ++ [.polled 1 { pollin := true }, .delivered (.publish twoBytes 1) 4, .inputReturned 0 4,
      .polled 1 { pollin := true }, .inputReturned (-16) 4])
    (fun trace state => decide (.handled (.publish twoBytes 1) (onPublish twoBytes 1).join 1 ∈ trace ∧
      .inputReturned (-16) true ∈ trace ∧ state.point = .disconnecting)) (by decide)
  obtain ⟨handled, -, -⟩ := of_decide_eq_true found
  have none := (always _ _ _ reached).drained twoBytes 1 _ 1 handled (by decide)
  cases none

end Dionysus.Proofs.MessageDrain
