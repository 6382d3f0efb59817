import Dionysus.BrokerAddress
import Dionysus.Proofs.MqttRuns

/-! Which address a successful resolution leaves in `broker`. The resolver signals its
end and delivers its records by separate calls, and `resolve_dns` only waits for the
signal. -/

namespace Dionysus.Proofs.BrokerRecords
open BrokerAddress MqttRuns History

/-- The address of an IPv4 record. -/
def recorded : Mark → Option UInt32
  | .dnsResult .inProgress (some (.inet sinAddr)) => some sinAddr
  | _ => none

/-- The address of the last IPv4 record. -/
def lastRecord (trace : List Mark) : Option UInt32 := trace.reverse.findSome? recorded

/-- What happened before the wait ended. -/
def beforeWait (trace : List Mark) : List Mark := (trace.reverse.dropWhile (· != .waitEnded)).tail.reverse

def hivemq (sinAddr : UInt32) : SockaddrIn := { sinFamily := .inet, sinPort := hivemqPort, sinAddr := sinAddr }

/-- `resolve_dns` only returns 0 with the last record before the end of its wait in
place, and so never without a record, and `mqtt_connect` is only called with a record. -/
structure Resolved (trace : List Mark) : Prop where
  resolved : ∀ broker, Whenever (· = .client (.returned .dns 0) broker)
    (fun past => ∃ sinAddr, lastRecord (beforeWait past) = some sinAddr ∧ broker = hivemq sinAddr) trace
  unresolved : lastRecord trace = none → ∀ broker, .client (.returned .dns 0) broker ∉ trace
  connected : ∀ ret broker, Whenever (· = .client (.mqttConnected ret) broker)
    (fun past => ∃ sinAddr, lastRecord past = some sinAddr ∧ broker = hivemq sinAddr) trace

/-- The wait only ends well behind an IPv4 record, and no callback changes the address
between the end of the wait and the return. -/
def recordFirst : Guard State Event Mark := fun trace state event =>
  match event with
  | .client event => event = .main → state.client.point = .tookDns → (lastRecord (beforeWait trace)).isSome = true
  | .dnsResult status info => state.client.point = .tookDns → dnsResultCb state.broker status info = state.broker

instance (trace : List Mark) (state : State) (event : Event) : Decidable (recordFirst trace state event) :=
  match event with
  | .client event => inferInstanceAs (Decidable (event = .main → _))
  | .dnsResult _ _ => inferInstanceAs (Decidable (_ → _))

/-- What the client and the address have to do with the records so far. -/
structure Learned (trace : List Mark) (state : State) : Prop where
  held : ∀ sinAddr, lastRecord trace = some sinAddr → state.broker = hivemq sinAddr
  waited : state.client.point = .tookDns →
    ∀ sinAddr, lastRecord (beforeWait trace) = some sinAddr → state.broker = hivemq sinAddr
  connecting : state.client.point = .connecting → lastRecord trace ≠ none
  resolved : Resolved trace

variable {board : MqttClient.Board} {trace : List Mark} {state before after : State} {event : Event}
  {emitted : List Mark} {client next : MqttClient.State} {marks : List MqttClient.Mark} {broker : SockaddrIn}

theorem dnsResultCb_eq (broker : SockaddrIn) (status : MqttClient.DnsStatus) (info : Option DnsAddrinfo) :
    dnsResultCb broker status info = ((recorded (.dnsResult status info)).map hivemq).getD broker := by
  unfold dnsResultCb recorded
  split <;> simp_all [hivemq]

@[simp] theorem lastRecord_append (trace more : List Mark) :
    lastRecord (trace ++ more) = (lastRecord more).or (lastRecord trace) := by
  simp [lastRecord, List.findSome?_append]

theorem lastRecord_append_eq_none {more : List Mark} :
    lastRecord (trace ++ more) = none ↔ lastRecord more = none ∧ lastRecord trace = none := by
  rw [lastRecord_append, Option.or_eq_none_iff]

@[simp] theorem lastRecord_singleton (mark : Mark) : lastRecord [mark] = recorded mark := by
  simp [lastRecord]

@[simp] theorem lastRecord_client (marks : List MqttClient.Mark) (broker : SockaddrIn) :
    lastRecord (marks.map (.client · broker)) = none := by
  simp [lastRecord, recorded]

@[simp] theorem lastRecord_waitEnd (client next : MqttClient.State) : lastRecord (waitEnd client next) = none := by
  unfold waitEnd
  split <;> rfl

@[simp] theorem beforeWait_snoc (trace : List Mark) (mark : Mark) :
    beforeWait (trace ++ [mark]) = if mark = .waitEnded then trace else beforeWait trace := by
  by_cases ended : mark = .waitEnded <;> simp [beforeWait, ended]

@[simp] theorem beforeWait_client (trace : List Mark) (marks : List MqttClient.Mark) (broker : SockaddrIn) :
    beforeWait (trace ++ marks.map (.client · broker)) = beforeWait trace := by
  induction marks generalizing trace with
  | nil => simp
  | cons mark rest ih => rw [List.map_cons, List.append_cons, ih, beforeWait_snoc, if_neg (by simp)]

theorem beforeWait_waitEnd (trace : List Mark) (client next : MqttClient.State) :
    beforeWait (trace ++ waitEnd client next) =
      if next.point = .tookDns ∧ client.point ≠ .tookDns then trace else beforeWait trace := by
  unfold waitEnd
  split <;> simp

/-- Whether the wait goes on or ends here, what holds of the last record carries over
to the last one before its end. -/
theorem waited_waitEnd {trace : List Mark}
    (held : ∀ sinAddr, lastRecord trace = some sinAddr → broker = hivemq sinAddr)
    (waited : client.point = .tookDns →
      ∀ sinAddr, lastRecord (beforeWait trace) = some sinAddr → broker = hivemq sinAddr)
    (here : next.point = .tookDns) (sinAddr : UInt32)
    (last : lastRecord (beforeWait (trace ++ waitEnd client next)) = some sinAddr) : broker = hivemq sinAddr := by
  rw [beforeWait_waitEnd] at last
  split at last
  next => exact held sinAddr last
  next old =>
    apply waited _ sinAddr last
    simpa [here] using old

theorem lastRecord_beforeWait (unrecorded : lastRecord trace = none) : lastRecord (beforeWait trace) = none := by
  rw [lastRecord, List.findSome?_eq_none_iff] at unrecorded ⊢
  intro mark member
  apply unrecorded
  simp only [beforeWait, List.reverse_reverse] at member
  exact (List.dropWhile_sublist _).subset (List.mem_of_mem_tail member)

theorem returned_of_move {event : MqttClient.Event} (move : Move board client event next marks)
    (returned : .returned .dns 0 ∈ marks) : event = .main ∧ client.point = .tookDns := by
  cases move <;> simp_all

theorem connected_of_move {event : MqttClient.Event} {ret : Int} (move : Move board client event next marks)
    (connected : .mqttConnected ret ∈ marks) : client.point = .connecting := by
  cases move <;> simp_all

theorem connecting_of_move {event : MqttClient.Event} (move : Move board client event next marks)
    (connecting : next.point = .connecting) :
    client.point = .connecting ∨ event = .main ∧ client.point = .tookDns := by
  cases move <;> simp_all [MqttClient.mqttInput]

theorem whenever_client {happened : Mark → Prop} {past : List Mark → Prop} (always : Whenever happened past trace)
    (now : ∀ earlier : List MqttClient.Mark, ∀ mark ∈ marks, happened (.client mark broker) →
      past (trace ++ earlier.map (.client · broker))) :
    Whenever happened past (trace ++ marks.map (.client · broker)) := by
  induction marks generalizing trace with
  | nil => simpa using always
  | cons mark rest ih =>
    rw [List.map_cons, List.append_cons]
    apply ih
    · refine whenever_snoc.mpr ⟨always, ?_⟩
      intro happens
      simpa using now [] mark List.mem_cons_self happens
    · intro earlier later member happens
      simpa using now (mark :: earlier) later (List.mem_cons_of_mem mark member) happens

/-- Entries of others say nothing about what the client did. -/
theorem Resolved.quiet (kept : Resolved trace) {more : List Mark}
    (others : ∀ mark broker, .client mark broker ∉ more) : Resolved (trace ++ more) := by
  refine ⟨?_, ?_, ?_⟩
  · intro broker
    exact (kept.resolved broker).append fun entry member same => others _ _ (same ▸ member)
  · intro unrecorded broker member
    rcases List.mem_append.mp member with old | new
    · exact kept.unresolved (lastRecord_append_eq_none.mp unrecorded).2 broker old
    · exact others _ _ new
  · intro ret broker
    exact (kept.connected ret broker).append fun entry member same => others _ _ (same ▸ member)

theorem not_mem_waitEnd {mark : MqttClient.Mark} : .client mark broker ∉ waitEnd client next := by
  unfold waitEnd
  split <;> simp

/-- What a callback writes is what the last record says. -/
private theorem Learned.delivered {status : MqttClient.DnsStatus} {info : Option DnsAddrinfo}
    (kept : Learned trace before) (allowed : recordFirst trace before (.dnsResult status info))
    (moved : step board before (.dnsResult status info) = some (after, emitted)) :
    Learned (trace ++ emitted) after := by
  obtain ⟨marks, stepped, address, rfl⟩ := step_dnsResult moved
  have move := move_of_step stepped
  have held : ∀ sinAddr, lastRecord (trace ++ [.dnsResult status info]) = some sinAddr →
      after.broker = hivemq sinAddr := by
    intro sinAddr last
    rw [lastRecord_append, lastRecord_singleton] at last
    rw [address, dnsResultCb_eq]
    cases found : recorded (.dnsResult status info) with
    | some other => simpa [found] using congrArg (Option.map hivemq) last
    | none => exact kept.held sinAddr (by simpa [found] using last)
  rw [List.append_cons]
  refine ⟨?_, ?_, ?_, ?_⟩
  · intro sinAddr last
    rw [lastRecord_append, lastRecord_waitEnd, Option.none_or] at last
    exact held sinAddr last
  · apply waited_waitEnd held
    intro already sinAddr last
    rw [beforeWait_snoc, if_neg (by simp)] at last
    rw [address, allowed already]
    exact kept.waited already sinAddr last
  · intro here unrecorded
    rw [lastRecord_append_eq_none, lastRecord_append_eq_none] at unrecorded
    rcases connecting_of_move move here with already | ⟨other, -⟩
    · exact kept.connecting already unrecorded.2.2
    · cases other
  · apply Resolved.quiet
    · exact kept.resolved.quiet (by simp)
    · intro mark broker
      exact not_mem_waitEnd

private theorem Learned.moved {event : MqttClient.Event} (kept : Learned trace before)
    (allowed : recordFirst trace before (.client event))
    (moved : step board before (.client event) = some (after, emitted)) : Learned (trace ++ emitted) after := by
  obtain ⟨-, marks, stepped, address, rfl⟩ := step_client moved
  have move := move_of_step stepped
  have returns : event = .main ∧ before.client.point = .tookDns →
      ∃ sinAddr, lastRecord (beforeWait trace) = some sinAddr ∧ before.broker = hivemq sinAddr := by
    rintro ⟨rfl, here⟩
    obtain ⟨sinAddr, last⟩ := Option.isSome_iff_exists.mp (allowed rfl here)
    exact ⟨sinAddr, last, kept.waited here sinAddr last⟩
  have recordedFirst : event = .main ∧ before.client.point = .tookDns → lastRecord trace ≠ none := by
    intro here unrecorded
    obtain ⟨sinAddr, last, -⟩ := returns here
    rw [lastRecord_beforeWait unrecorded] at last
    cases last
  rw [← List.append_assoc]
  refine ⟨?_, ?_, ?_, ?_⟩
  · intro sinAddr last
    rw [address]
    exact kept.held sinAddr (by simpa using last)
  · rw [address]
    apply waited_waitEnd
    · intro sinAddr last
      exact kept.held sinAddr (by simpa using last)
    · rw [beforeWait_client]
      exact kept.waited
  · intro here unrecorded
    rw [lastRecord_append_eq_none, lastRecord_append_eq_none] at unrecorded
    rcases connecting_of_move move here with already | returned
    · exact kept.connecting already unrecorded.2.2
    · exact recordedFirst returned unrecorded.2.2
  · refine Resolved.quiet ⟨?_, ?_, ?_⟩ fun mark broker => not_mem_waitEnd
    · intro broker
      apply whenever_client (kept.resolved.resolved broker)
      intro earlier mark member same
      cases same
      obtain ⟨sinAddr, last, same⟩ := returns (returned_of_move move member)
      exact ⟨sinAddr, by simpa using last, same⟩
    · intro unrecorded broker member
      have before' : lastRecord trace = none := by simpa using unrecorded
      rcases List.mem_append.mp member with old | new
      · exact kept.resolved.unresolved before' broker old
      · obtain ⟨mark, emits, same⟩ := List.mem_map.mp new
        cases same
        exact recordedFirst (returned_of_move move emits) before'
    · intro ret broker
      apply whenever_client (kept.resolved.connected ret broker)
      intro earlier mark member same
      cases same
      obtain ⟨sinAddr, last⟩ := Option.ne_none_iff_exists'.mp (kept.connecting (connected_of_move move member))
      exact ⟨sinAddr, by simpa using last, kept.held sinAddr last⟩

/-- Every resolution that `resolve_dns` reports is one, as long as the wait only ends
behind a record. -/
theorem resolutions_usable (reached : (machine board).Reaches recordFirst trace state) : Resolved trace := by
  suffices learned : Learned trace state from learned.resolved
  apply reached.invariant
  · refine ⟨?_, ?_, ?_, ?_, ?_, ?_⟩
    · intro sinAddr last
      cases last
    · intro here
      cases here
    · intro here
      cases here
    · intro broker
      exact whenever_nil
    · intro _ broker
      exact List.not_mem_nil
    · intro ret broker
      exact whenever_nil
  · intro trace before event after emitted kept allowed moved
    cases event with
    | dnsResult status info => exact kept.delivered allowed moved
    | client event => exact kept.moved allowed moved

/-- Nor can it be otherwise: a return of 0 is only in order behind a record whose
address is still in place. -/
theorem record_of_resolved (resolved : Resolved (trace ++ emitted)) (here : before.client.point = .tookDns)
    (moved : step board before (.client .main) = some (after, emitted)) :
    ∃ sinAddr, lastRecord (beforeWait trace) = some sinAddr ∧ before.broker = hivemq sinAddr := by
  obtain ⟨-, marks, stepped, -, rfl⟩ := step_client moved
  have executed : MqttClient.mainStep board before.client = some (after.client, marks) := stepped
  rw [MqttClient.mainStep, here] at executed
  obtain ⟨-, rfl⟩ := Prod.mk.inj (Option.some.inj executed)
  apply resolved.resolved before.broker trace _ _ rfl
  rfl

/-- The run that brings `main` to the wait for the resolver. -/
def asking : List Event :=
  ([.initialised true, .wifiRequested 0, .wifiConnectResult 0, .main, .main, .ipv4AddrAdd, .main, .main,
    .dnsContext true, .dnsQueried 0] : List MqttClient.Event).map .client

/-- Of two IPv4 records the later one is used, whatever comes between and after them. -/
theorem resolutions_usable_second : ∃ trace state, (machine .m5Core2).Reaches recordFirst trace state ∧
    .client (.returned .dns 0) (hivemq 2) ∈ trace ∧ .client (.mqttConnected 0) (hivemq 2) ∈ trace ∧
      Resolved trace := by
  obtain ⟨trace, state, reached, found⟩ := (machine .m5Core2).reaches_of_run recordFirst
    (asking ++ [.client .main, .dnsResult .inProgress (some (.inet 1)), .dnsResult .inProgress none,
      .dnsResult .inProgress (some (.inet 2)), .dnsResult .inProgress (some (.inet6 3)), .dnsResult .allDone none,
      .client .main, .client (.mqttConnected 0 2)])
    (fun trace _ => decide (.client (.returned .dns 0) (hivemq 2) ∈ trace ∧
      .client (.mqttConnected 0) (hivemq 2) ∈ trace)) (by decide)
  obtain ⟨returned, connected⟩ := of_decide_eq_true found
  exact ⟨trace, state, reached, returned, connected, resolutions_usable reached⟩

/-- The resolver finishes with nothing but an IPv6 record. -/
theorem unset_broker_connected :
    ¬∀ board trace state, (machine board).Reaches Guard.free trace state → Resolved trace := by
  intro always
  obtain ⟨trace, state, reached, found⟩ := (machine .esp32Dk).reaches_of_run Guard.free
    (asking ++ [.client .main, .dnsResult .inProgress (some (.inet6 3)), .dnsResult .allDone none,
      .client .main, .client (.mqttConnected 0 2)])
    (fun trace _ => decide (lastRecord trace = none ∧ .client (.returned .dns 0) {} ∈ trace)) (by decide)
  obtain ⟨unrecorded, returned⟩ := of_decide_eq_true found
  exact (always _ _ _ reached).unresolved unrecorded {} returned

end Dionysus.Proofs.BrokerRecords
