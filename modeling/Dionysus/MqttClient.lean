import Dionysus.Machine
import Dionysus.Semaphore
import Dionysus.MqttMessage

/-! The MQTT clients (`Project/M5_Core2/src/main.c` and `Project/ESP32_DK/src/main.c`):
`main` with its two loops, the network callbacks beside it, and `mqtt_evt_handler`,
which the MQTT library calls in main's own thread. A give to a waiting `main` wakes
it, and it goes on at a later step. -/

namespace Dionysus.MqttClient

inductive Board where
  | m5Core2
  | esp32Dk
deriving DecidableEq, Repr

/-- `mqtt_subscribe_topic` and `mqtt_publish_message`. -/
inductive Request where
  | subscribe
  | publish
deriving DecidableEq, Repr

def Board.request : Board → Request
  | .m5Core2 => .subscribe
  | .esp32Dk => .publish

/-- The parts of bring-up that can be reported as failed. -/
inductive Stage where
  | wifi
  | dns
  | mqtt
deriving DecidableEq, Repr

structure Revents where
  pollin : Bool := false
  pollerr : Bool := false
  pollhup : Bool := false
deriving DecidableEq, Repr

/-- The loop that called `mqtt_input`; the event loop looks at `revents` again
afterwards. -/
inductive Loop where
  | bringUp
  | events (revents : Revents)
deriving DecidableEq, Repr

/-- The statement `main` executes next. `waiting` points lie inside a take that found
the count at zero, `took` points behind a take that succeeded. `busy` tells whether
payload was unread when `mqtt_input` was called. -/
inductive Point where
  | starting
  | requesting
  | takingWifi (ret : Int)
  | waitingWifi (ret : Int)
  | tookWifi (ret : Int)
  | takingIpv4
  | waitingIpv4
  | tookIpv4
  | findingContext
  | querying
  | takingDns
  | waitingDns
  | tookDns
  | connecting
  | counting
  | inputting (loop : Loop) (busy : Bool)
  | living
  | testing
  | calling
  | polling
  | disconnecting
  | exited (ret : Int)
deriving DecidableEq, Repr

/-- Where the library may call `mqtt_evt_handler`. -/
def Point.inLibrary : Point → Bool
  | .inputting _ _ | .living | .calling | .disconnecting => true
  | _ => false

inductive DnsStatus where
  | canceled
  | fail
  | nodata
  | allDone
  | inProgress
  | other (status : Int)
deriving DecidableEq, Repr

def DnsStatus.fails : DnsStatus → Bool
  | .allDone | .inProgress => false
  | _ => true

/-- An event of the MQTT library. A PUBLISH comes with the result of the read that
the handler makes. -/
inductive MqttEvent where
  | connack (result : Int)
  | disconnect
  | publish (message : Publish) (ret : Int)
  | other (type : Nat)
deriving DecidableEq, Repr

/-- `internalState` is `client.internal.state` and `unread` the library's count of
payload bytes that the last PUBLISH left unread. -/
structure State where
  point : Point := .starting
  semWifi : Semaphore 1 := {}
  semIpv4 : Semaphore 1 := {}
  dnsSem : Semaphore 1 := {}
  semMqttConnected : Semaphore 1 := {}
  queried : Bool := false
  internalState : Nat := 0
  unread : Nat := 0
deriving DecidableEq, Repr

/-- A callback, a statement of `main` that needs no outside result, or the result of
a call that `main` makes. Library calls also tell what `client.internal.state` is
afterwards. -/
inductive Event where
  | wifiConnectResult (status : Int)
  | wifiDisconnectResult (status : Int)
  | ipv4AddrAdd
  | dnsResult (status : DnsStatus)
  | main
  | initialised (displayReady : Bool)
  | wifiRequested (ret : Int)
  | dnsContext (available : Bool)
  | dnsQueried (ret : Int)
  | dnsTimeout
  | mqttConnected (ret : Int) (internal : Nat)
  | delivered (event : MqttEvent) (internal : Nat)
  | inputReturned (ret : Int) (internal : Nat)
  | liveReturned (internal : Nat)
  | callReturned (ret : Int) (internal : Nat)
  | polled (ret : Int) (revents : Revents)
  | disconnected (internal : Nat)
deriving DecidableEq, Repr

inductive Mark where
  | started (stage : Stage)
  | wifiRequested (ret : Int)
  | wifiConnectResult (status : Int)
  | wifiDisconnectResult (status : Int)
  | ipv4AddrAdd
  | addressPassed
  | dnsResult (status : DnsStatus)
  | returned (stage : Stage) (ret : Int)
  | mqttConnected (ret : Int)
  | handled (event : MqttEvent) (shown : Option Printed) (unread : Nat)
  | inputReturned (ret : Int) (busy : Bool)
  | called (request : Request)
deriving DecidableEq, Repr

def giveWifi (state : State) : State :=
  match state.point with
  | .waitingWifi ret => { state with point := .tookWifi ret }
  | _ => { state with semWifi := state.semWifi.give }

def giveIpv4 (state : State) : State :=
  match state.point with
  | .waitingIpv4 => { state with point := .tookIpv4 }
  | _ => { state with semIpv4 := state.semIpv4.give }

def giveDns (state : State) : State :=
  match state.point with
  | .waitingDns => { state with point := .tookDns }
  | _ => { state with dnsSem := state.dnsSem.give }

/-- `on_wifi_connection_event` for a connect result. -/
def onWifiConnectResult (state : State) (status : Int) : State :=
  if status ≠ 0 then state else giveWifi state

/-- `on_wifi_connection_event` for a disconnect result. -/
def onWifiDisconnectResult (state : State) (status : Int) : State :=
  if status ≠ 0 then state else { state with semWifi := state.semWifi.take }

def dnsResultCb (state : State) (status : DnsStatus) : State :=
  if status = .allDone then giveDns state else state

def mqttEvtHandler (state : State) : MqttEvent → Option (State × Option Printed)
  | .connack result =>
    if result = 0 then some ({ state with semMqttConnected := state.semMqttConnected.give }, none)
    else some (state, none)
  | .disconnect => some (state, none)
  | .publish message ret =>
    if MayRead message ret then
      (onPublish message ret).map fun shown => ({ state with unread := remainingPayload message ret }, shown)
    else none
  | .other _ => some (state, none)

/-- `main` after `mqtt_connect_client`. -/
def afterConnectClient (state : State) (ret : Int) : State :=
  { state with point := if ret < 0 then .exited 1 else .counting }

/-- `mqtt_connect_client` after `resolve_dns`. -/
def afterResolveDns (state : State) (ret : Int) : State :=
  if ret ≠ 0 then afterConnectClient state ret else { state with point := .connecting }

def mqttInput (state : State) (loop : Loop) : State :=
  { state with point := .inputting loop (decide (0 < state.unread)) }

def afterInput (state : State) (loop : Loop) (ret : Int) : State :=
  match loop with
  | .bringUp => { state with point := .living }
  | .events revents =>
    { state with point := if ret ≠ 0 ∨ revents.pollerr ∨ revents.pollhup then .disconnecting else .polling }

def afterPoll (state : State) (ret : Int) (revents : Revents) : State :=
  if ret < 0 then { state with point := .disconnecting }
  else if revents.pollin then mqttInput state (.events revents)
  else { state with point := if revents.pollerr ∨ revents.pollhup then .disconnecting else .polling }

/-- Takes, tests and returns. -/
def mainStep (board : Board) (state : State) : Option (State × List Mark) :=
  match state.point with
  | .takingWifi ret =>
    if 0 < state.semWifi.count then some ({ state with semWifi := state.semWifi.take, point := .tookWifi ret }, [])
    else some ({ state with point := .waitingWifi ret }, [])
  | .tookWifi ret =>
    some ({ state with point := if ret < 0 then .exited 0 else .takingIpv4 }, [.returned .wifi ret])
  | .takingIpv4 =>
    if 0 < state.semIpv4.count then some ({ state with semIpv4 := state.semIpv4.take, point := .tookIpv4 }, [])
    else some ({ state with point := .waitingIpv4 }, [])
  | .tookIpv4 => some ({ state with point := .findingContext }, [.addressPassed])
  | .takingDns =>
    if 0 < state.dnsSem.count then some ({ state with dnsSem := state.dnsSem.take, point := .tookDns }, [])
    else some ({ state with point := .waitingDns }, [])
  | .tookDns => some (afterResolveDns state 0, [.returned .dns 0])
  | .counting =>
    if state.semMqttConnected.count = 0 then some (mqttInput state .bringUp, [])
    else some ({ state with point := .testing }, [.returned .mqtt 0])
  | .testing =>
    if state.internalState ≠ 0 then some ({ state with point := .calling }, [.called board.request])
    else some ({ state with point := .polling }, [])
  | _ => none

def step (board : Board) (state : State) (event : Event) : Option (State × List Mark) :=
  match event with
  | .wifiConnectResult status =>
    if state.point = .starting then none else some (onWifiConnectResult state status, [.wifiConnectResult status])
  | .wifiDisconnectResult status =>
    if state.point = .starting then none
    else some (onWifiDisconnectResult state status, [.wifiDisconnectResult status])
  | .ipv4AddrAdd => if state.point = .starting then none else some (giveIpv4 state, [.ipv4AddrAdd])
  | .dnsResult status => if state.queried then some (dnsResultCb state status, [.dnsResult status]) else none
  | .main => mainStep board state
  | .initialised displayReady =>
    match state.point with
    | .starting =>
      if board = .m5Core2 ∧ displayReady = false then some ({ state with point := .exited 0 }, [])
      else some ({ state with point := .requesting }, [.started .wifi])
    | _ => none
  | .wifiRequested ret =>
    match state.point with
    | .requesting => some ({ state with point := .takingWifi ret }, [.wifiRequested ret])
    | _ => none
  | .dnsContext available =>
    match state.point with
    | .findingContext =>
      if available then some ({ state with point := .querying, queried := true }, [.started .dns])
      else some (afterResolveDns state (-1), [.returned .dns (-1)])
    | _ => none
  | .dnsQueried ret =>
    match state.point with
    | .querying =>
      if ret ≠ 0 then some (afterResolveDns state ret, [.returned .dns ret])
      else some ({ state with point := .takingDns }, [])
    | _ => none
  | .dnsTimeout =>
    match state.point with
    | .waitingDns => some (afterResolveDns state (-2), [.returned .dns (-2)])
    | _ => none
  | .mqttConnected ret internal =>
    match state.point with
    | .connecting =>
      some ({ afterConnectClient state ret with internalState := internal }, [.mqttConnected ret])
    | _ => none
  | .delivered event internal =>
    if state.point.inLibrary then
      (mqttEvtHandler state event).map fun after =>
        ({ after.1 with internalState := internal }, [.handled event after.2 after.1.unread])
    else none
  | .inputReturned ret internal =>
    match state.point with
    | .inputting loop busy =>
      some ({ afterInput state loop ret with internalState := internal }, [.inputReturned ret busy])
    | _ => none
  | .liveReturned internal =>
    match state.point with
    | .living => some ({ state with point := .counting, internalState := internal }, [])
    | _ => none
  | .callReturned ret internal =>
    match state.point with
    | .calling =>
      some ({ state with point := if ret < 0 then .exited 1 else .polling, internalState := internal }, [])
    | _ => none
  | .polled ret revents =>
    match state.point with
    | .polling => some (afterPoll state ret revents, [])
    | _ => none
  | .disconnected internal =>
    match state.point with
    | .disconnecting => some ({ state with point := .exited 0, internalState := internal }, [])
    | _ => none

def machine (board : Board) : Machine State Event Mark := ⟨{}, step board⟩

end Dionysus.MqttClient
