import Dionysus.MqttClient

/-! The address of the broker. `dns_result_cb` writes it and `mqtt_connect` reads it, and
`main` only knows of a resolution through `dns_sem`. The client runs as it does in
`MqttClient`, with the records of the resolver beside it. -/

namespace Dionysus.BrokerAddress

def hivemqPort : UInt16 := 1883

inductive Family where
  | unspec
  | inet
  | inet6
  | other (family : Nat)
deriving DecidableEq, Repr

/-- `broker`, which is zero at first. The port and the address are in host order. -/
structure SockaddrIn where
  sinFamily : Family := .unspec
  sinPort : UInt16 := 0
  sinAddr : UInt32 := 0
deriving DecidableEq, Repr

inductive DnsAddrinfo where
  | inet (sinAddr : UInt32)
  | inet6 (sin6Addr : Nat)
  | other (family : Nat)
deriving DecidableEq, Repr

structure State where
  client : MqttClient.State := {}
  broker : SockaddrIn := {}
deriving DecidableEq, Repr

/-- A call of `dns_result_cb`, or any other event of the client. -/
inductive Event where
  | dnsResult (status : MqttClient.DnsStatus) (info : Option DnsAddrinfo)
  | client (event : MqttClient.Event)
deriving DecidableEq, Repr

/-- What the client does is noted with the address as it is then. -/
inductive Mark where
  | dnsResult (status : MqttClient.DnsStatus) (info : Option DnsAddrinfo)
  | waitEnded
  | client (mark : MqttClient.Mark) (broker : SockaddrIn)
deriving DecidableEq, Repr

/-- `dns_result_cb`, as far as it writes the address. -/
def dnsResultCb (broker : SockaddrIn) (status : MqttClient.DnsStatus) (info : Option DnsAddrinfo) : SockaddrIn :=
  match status, info with
  | .inProgress, some (.inet sinAddr) => { sinFamily := .inet, sinPort := hivemqPort, sinAddr := sinAddr }
  | _, _ => broker

/-- The wait for `dns_sem` ends with a take, by `main` or by a give that wakes it. -/
def waitEnd (before after : MqttClient.State) : List Mark :=
  if after.point = .tookDns ∧ before.point ≠ .tookDns then [.waitEnded] else []

def step (board : MqttClient.Board) (state : State) (event : Event) : Option (State × List Mark) :=
  match event with
  | .dnsResult status info =>
    (MqttClient.step board state.client (.dnsResult status)).map fun moved =>
      (⟨moved.1, dnsResultCb state.broker status info⟩, .dnsResult status info :: waitEnd state.client moved.1)
  | .client (.dnsResult _) => none
  | .client event =>
    (MqttClient.step board state.client event).map fun moved =>
      ({ state with client := moved.1 }, moved.2.map (.client · state.broker) ++ waitEnd state.client moved.1)

def machine (board : MqttClient.Board) : Machine State Event Mark :=
  ⟨{ client := (MqttClient.machine board).initial }, step board⟩

theorem step_dnsResult {board : MqttClient.Board} {before after : State} {status : MqttClient.DnsStatus}
    {info : Option DnsAddrinfo} {emitted : List Mark}
    (moved : step board before (.dnsResult status info) = some (after, emitted)) :
    ∃ marks, MqttClient.step board before.client (.dnsResult status) = some (after.client, marks) ∧
      after.broker = dnsResultCb before.broker status info ∧
      emitted = .dnsResult status info :: waitEnd before.client after.client := by
  obtain ⟨⟨client, marks⟩, stepped, same⟩ := Option.map_eq_some_iff.mp moved
  cases same
  exact ⟨marks, stepped, rfl, rfl⟩

theorem step_client {board : MqttClient.Board} {before after : State} {event : MqttClient.Event} {emitted : List Mark}
    (moved : step board before (.client event) = some (after, emitted)) :
    (∀ status, event ≠ .dnsResult status) ∧
      ∃ marks, MqttClient.step board before.client event = some (after.client, marks) ∧
        after.broker = before.broker ∧
        emitted = marks.map (.client · before.broker) ++ waitEnd before.client after.client := by
  have other : ∀ status, event ≠ .dnsResult status := by
    rintro status rfl
    cases moved
  have same : step board before (.client event) = (MqttClient.step board before.client event).map fun moved =>
      ({ before with client := moved.1 },
        moved.2.map (.client · before.broker) ++ waitEnd before.client moved.1) := by
    cases event with
    | dnsResult status => exact absurd rfl (other status)
    | _ => rfl
  rw [same] at moved
  obtain ⟨⟨client, marks⟩, stepped, rest⟩ := Option.map_eq_some_iff.mp moved
  cases rest
  exact ⟨other, marks, stepped, rfl, rfl⟩

/-- The client of every run is a client that `MqttClient` can have. -/
theorem client_reaches {board : MqttClient.Board} {guard : Guard State Event Mark} {trace : List Mark} {state : State}
    (reached : (machine board).Reaches guard trace state) :
    ∃ marks, (MqttClient.machine board).Reaches Guard.free marks state.client := by
  induction reached with
  | start => exact ⟨[], .start⟩
  | @step _ before event after _ _ _ moved ih =>
    obtain ⟨marks, earlier⟩ := ih
    have moves : ∃ move new, (MqttClient.machine board).step before.client move = some (after.client, new) := by
      cases event with
      | dnsResult status info =>
        obtain ⟨new, stepped, -, -⟩ := step_dnsResult moved
        exact ⟨.dnsResult status, new, stepped⟩
      | client event =>
        obtain ⟨-, new, stepped, -, -⟩ := step_client moved
        exact ⟨event, new, stepped⟩
    obtain ⟨move, new, stepped⟩ := moves
    exact ⟨marks ++ new, earlier.step trivial stepped⟩

end Dionysus.BrokerAddress
