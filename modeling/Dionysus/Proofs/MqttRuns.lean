import Dionysus.History
import Dionysus.MqttClient

/-! What one step of an MQTT client can do, with the branch it took. Every invariant
is proved by cases on this, and most cases only need that a step is quiet. -/

namespace Dionysus.Proofs.MqttRuns
open MqttClient

inductive Move (board : Board) (before : State) : Event → State → List Mark → Prop where
  | connectFailed {status : Int} (failed : status ≠ 0) :
      Move board before (.wifiConnectResult status) before [.wifiConnectResult status]
  | connectWoke {ret : Int} (here : before.point = .waitingWifi ret) :
      Move board before (.wifiConnectResult 0) { before with point := .tookWifi ret } [.wifiConnectResult 0]
  | connectGave (here : ∀ ret, before.point ≠ .waitingWifi ret) :
      Move board before (.wifiConnectResult 0) { before with semWifi := before.semWifi.give } [.wifiConnectResult 0]
  | disconnectFailed {status : Int} (failed : status ≠ 0) :
      Move board before (.wifiDisconnectResult status) before [.wifiDisconnectResult status]
  | disconnectTook :
      Move board before (.wifiDisconnectResult 0) { before with semWifi := before.semWifi.take }
        [.wifiDisconnectResult 0]
  | addressWoke (here : before.point = .waitingIpv4) :
      Move board before .ipv4AddrAdd { before with point := .tookIpv4 } [.ipv4AddrAdd]
  | addressGave (here : before.point ≠ .waitingIpv4) :
      Move board before .ipv4AddrAdd { before with semIpv4 := before.semIpv4.give } [.ipv4AddrAdd]
  | dnsIgnored {status : DnsStatus} (unfinished : status ≠ .allDone) :
      Move board before (.dnsResult status) before [.dnsResult status]
  | dnsWoke (here : before.point = .waitingDns) :
      Move board before (.dnsResult .allDone) { before with point := .tookDns } [.dnsResult .allDone]
  | dnsGave (here : before.point ≠ .waitingDns) :
      Move board before (.dnsResult .allDone) { before with dnsSem := before.dnsSem.give } [.dnsResult .allDone]
  | tookWifi {ret : Int} (here : before.point = .takingWifi ret) (positive : 0 < before.semWifi.count) :
      Move board before .main { before with semWifi := before.semWifi.take, point := .tookWifi ret } []
  | waitedWifi {ret : Int} (here : before.point = .takingWifi ret) (zero : before.semWifi.count = 0) :
      Move board before .main { before with point := .waitingWifi ret } []
  | wifiReturned {ret : Int} (here : before.point = .tookWifi ret) (fine : 0 ≤ ret) :
      Move board before .main { before with point := .takingIpv4 } [.returned .wifi ret]
  | wifiFailed {ret : Int} (here : before.point = .tookWifi ret) (failed : ret < 0) :
      Move board before .main { before with point := .exited 0 } [.returned .wifi ret]
  | tookIpv4 (here : before.point = .takingIpv4) (positive : 0 < before.semIpv4.count) :
      Move board before .main { before with semIpv4 := before.semIpv4.take, point := .tookIpv4 } []
  | waitedIpv4 (here : before.point = .takingIpv4) (zero : before.semIpv4.count = 0) :
      Move board before .main { before with point := .waitingIpv4 } []
  | addressPassed (here : before.point = .tookIpv4) :
      Move board before .main { before with point := .findingContext } [.addressPassed]
  | tookDns (here : before.point = .takingDns) (positive : 0 < before.dnsSem.count) :
      Move board before .main { before with dnsSem := before.dnsSem.take, point := .tookDns } []
  | waitedDns (here : before.point = .takingDns) (zero : before.dnsSem.count = 0) :
      Move board before .main { before with point := .waitingDns } []
  | dnsReturned (here : before.point = .tookDns) :
      Move board before .main { before with point := .connecting } [.returned .dns 0]
  | round (here : before.point = .counting) (zero : before.semMqttConnected.count = 0) :
      Move board before .main (mqttInput before .bringUp) []
  | left (here : before.point = .counting) (positive : 0 < before.semMqttConnected.count) :
      Move board before .main { before with point := .testing } [.returned .mqtt 0]
  | called (here : before.point = .testing) (up : before.internalState ≠ 0) :
      Move board before .main { before with point := .calling } [.called board.request]
  | skipped (here : before.point = .testing) (down : before.internalState = 0) :
      Move board before .main { before with point := .polling } []
  | displayMissing {ready : Bool} (here : before.point = .starting) :
      Move board before (.initialised ready) { before with point := .exited 0 } []
  | initialised {ready : Bool} (here : before.point = .starting) :
      Move board before (.initialised ready) { before with point := .requesting } [.started .wifi]
  | requested {ret : Int} (here : before.point = .requesting) :
      Move board before (.wifiRequested ret) { before with point := .takingWifi ret } [.wifiRequested ret]
  | contextFound (here : before.point = .findingContext) :
      Move board before (.dnsContext true) { before with point := .querying, queried := true } [.started .dns]
  | contextMissing (here : before.point = .findingContext) :
      Move board before (.dnsContext false) { before with point := .exited 1 } [.returned .dns (-1)]
  | queried (here : before.point = .querying) :
      Move board before (.dnsQueried 0) { before with point := .takingDns } []
  | queryFailed {ret : Int} (here : before.point = .querying) (failed : ret < 0) :
      Move board before (.dnsQueried ret) { before with point := .exited 1 } [.returned .dns ret]
  | queryUnusual {ret : Int} (here : before.point = .querying) (positive : 0 < ret) :
      Move board before (.dnsQueried ret) { before with point := .counting } [.returned .dns ret]
  | dnsTimeout (here : before.point = .waitingDns) :
      Move board before .dnsTimeout { before with point := .exited 1 } [.returned .dns (-2)]
  | mqttFailed {ret : Int} {internal : Nat} (here : before.point = .connecting) :
      Move board before (.mqttConnected ret internal) { before with point := .exited 1, internalState := internal }
        [.mqttConnected ret]
  | mqttConnected {ret : Int} {internal : Nat} (here : before.point = .connecting) :
      Move board before (.mqttConnected ret internal) { before with point := .counting, internalState := internal }
        [.mqttConnected ret]
  | accepted {internal : Nat} (here : before.point.inLibrary = true) :
      Move board before (.delivered (.connack 0) internal)
        { before with semMqttConnected := before.semMqttConnected.give, internalState := internal }
        [.handled (.connack 0) none before.unread]
  | heard {event : MqttEvent} {internal : Nat} (here : before.point.inLibrary = true)
      (other : event ≠ .connack 0) (unpublished : ∀ message ret, event ≠ .publish message ret) :
      Move board before (.delivered event internal) { before with internalState := internal }
        [.handled event none before.unread]
  | published {message : Publish} {ret : Int} {shown : Option Printed} {internal : Nat}
      (here : before.point.inLibrary = true) (may : MayRead message ret) (prints : onPublish message ret = some shown) :
      Move board before (.delivered (.publish message ret) internal)
        { before with unread := remainingPayload message ret, internalState := internal }
        [.handled (.publish message ret) shown (remainingPayload message ret)]
  | roundReturned {busy : Bool} {ret : Int} {internal : Nat} (here : before.point = .inputting .bringUp busy) :
      Move board before (.inputReturned ret internal) { before with point := .living, internalState := internal }
        [.inputReturned ret busy]
  | inputReturned {revents : Revents} {busy : Bool} {internal : Nat}
      (here : before.point = .inputting (.events revents) busy) :
      Move board before (.inputReturned 0 internal) { before with point := .polling, internalState := internal }
        [.inputReturned 0 busy]
  | inputBroke {revents : Revents} {busy : Bool} {ret : Int} {internal : Nat}
      (here : before.point = .inputting (.events revents) busy) :
      Move board before (.inputReturned ret internal) { before with point := .disconnecting, internalState := internal }
        [.inputReturned ret busy]
  | liveReturned {internal : Nat} (here : before.point = .living) :
      Move board before (.liveReturned internal) { before with point := .counting, internalState := internal } []
  | callReturned {ret : Int} {internal : Nat} (here : before.point = .calling) :
      Move board before (.callReturned ret internal) { before with point := .polling, internalState := internal } []
  | callFailed {ret : Int} {internal : Nat} (here : before.point = .calling) :
      Move board before (.callReturned ret internal) { before with point := .exited 1, internalState := internal } []
  | polledInput {ret : Int} {revents : Revents} (here : before.point = .polling) :
      Move board before (.polled ret revents) (mqttInput before (.events revents)) []
  | polled {ret : Int} {revents : Revents} (here : before.point = .polling) :
      Move board before (.polled ret revents) before []
  | pollBroke {ret : Int} {revents : Revents} (here : before.point = .polling) :
      Move board before (.polled ret revents) { before with point := .disconnecting } []
  | disconnected {internal : Nat} (here : before.point = .disconnecting) :
      Move board before (.disconnected internal) { before with point := .exited 0, internalState := internal } []

/-- The handling of a CONNACK with result 0. -/
def accepts : Mark → Bool
  | .handled (.connack result) _ _ => result == 0
  | _ => false

/-- The handling of a disconnect. -/
def disconnects : Mark → Bool
  | .handled .disconnect _ _ => true
  | _ => false

theorem accepts_handled {mark : Mark} (accepted : accepts mark = true) :
    ∃ shown unread, mark = .handled (.connack 0) shown unread := by
  cases mark with
  | handled event shown unread =>
    cases event with
    | connack result =>
      obtain rfl : result = 0 := by simpa [accepts] using accepted
      exact ⟨shown, unread, rfl⟩
    | disconnect | publish | other => cases accepted
  | _ => cases accepted

variable {board : Board} {before after : State} {event : Event} {emitted : List Mark}

private theorem giveWifi_move :
    Move board before (.wifiConnectResult 0) (giveWifi before) [.wifiConnectResult 0] := by
  unfold giveWifi
  split
  next here => exact .connectWoke here
  next here => exact .connectGave here

private theorem giveIpv4_move : Move board before .ipv4AddrAdd (giveIpv4 before) [.ipv4AddrAdd] := by
  unfold giveIpv4
  split
  next here => exact .addressWoke here
  next here => exact .addressGave here

private theorem giveDns_move : Move board before (.dnsResult .allDone) (giveDns before) [.dnsResult .allDone] := by
  unfold giveDns
  split
  next here => exact .dnsWoke here
  next here => exact .dnsGave here

private theorem mainStep_move (moved : mainStep board before = some (after, emitted)) :
    Move board before .main after emitted := by
  unfold mainStep at moved
  split at moved
  next ret here =>
    split at moved <;> cases moved
    next positive => exact .tookWifi here positive
    next zero => exact .waitedWifi here (by omega)
  next ret here =>
    cases moved
    split
    next failed => exact .wifiFailed here failed
    next fine => exact .wifiReturned here (by omega)
  next here =>
    split at moved <;> cases moved
    next positive => exact .tookIpv4 here positive
    next zero => exact .waitedIpv4 here (by omega)
  next here =>
    cases moved
    exact .addressPassed here
  next here =>
    split at moved <;> cases moved
    next positive => exact .tookDns here positive
    next zero => exact .waitedDns here (by omega)
  next here =>
    cases moved
    exact .dnsReturned here
  next here =>
    split at moved <;> cases moved
    next zero => exact .round here zero
    next positive => exact .left here (by omega)
  next here =>
    split at moved <;> cases moved
    next up => exact .called here up
    next down => exact .skipped here (by omega)
  next => cases moved

private theorem delivered_move {message : MqttEvent} {internal : Nat} (here : before.point.inLibrary = true)
    (moved : (mqttEvtHandler before message).map (fun handled =>
      (({ handled.1 with internalState := internal } : State), [Mark.handled message handled.2 handled.1.unread])) =
        some (after, emitted)) :
    Move board before (.delivered message internal) after emitted := by
  cases message with
  | connack result =>
    simp only [mqttEvtHandler] at moved
    split at moved
    next zero =>
      subst zero
      cases moved
      exact .accepted here
    next refused =>
      cases moved
      exact .heard here (by simpa using refused) (by simp)
  | disconnect =>
    cases moved
    exact .heard here (by simp) (by simp)
  | publish message ret =>
    simp only [mqttEvtHandler] at moved
    split at moved
    next may =>
      cases prints : onPublish message ret with
      | none =>
        rw [prints] at moved
        cases moved
      | some shown =>
        rw [prints] at moved
        cases moved
        exact .published here may prints
    next => cases moved
  | other type =>
    cases moved
    exact .heard here (by simp) (by simp)

theorem move_of_step (moved : step board before event = some (after, emitted)) :
    Move board before event after emitted := by
  cases event with
  | wifiConnectResult status =>
    simp only [step] at moved
    split at moved
    · cases moved
    · cases moved
      by_cases zero : status = 0
      · subst zero
        exact giveWifi_move
      · rw [onWifiConnectResult, if_pos zero]
        exact .connectFailed zero
  | wifiDisconnectResult status =>
    simp only [step] at moved
    split at moved
    · cases moved
    · cases moved
      by_cases zero : status = 0
      · subst zero
        exact .disconnectTook
      · rw [onWifiDisconnectResult, if_pos zero]
        exact .disconnectFailed zero
  | ipv4AddrAdd =>
    simp only [step] at moved
    split at moved <;> cases moved
    exact giveIpv4_move
  | dnsResult status =>
    simp only [step] at moved
    split at moved <;> cases moved
    by_cases done : status = .allDone
    · subst done
      exact giveDns_move
    · rw [dnsResultCb, if_neg done]
      exact .dnsIgnored done
  | main => exact mainStep_move moved
  | initialised ready =>
    simp only [step] at moved
    split at moved
    next here =>
      split at moved <;> cases moved
      · exact .displayMissing here
      · exact .initialised here
    next => cases moved
  | wifiRequested ret =>
    simp only [step] at moved
    split at moved <;> cases moved
    next here => exact .requested here
  | dnsContext available =>
    simp only [step] at moved
    split at moved
    next here =>
      cases available with
      | true =>
        cases moved
        exact .contextFound here
      | false =>
        cases moved
        exact .contextMissing here
    next => cases moved
  | dnsQueried ret =>
    simp only [step] at moved
    split at moved
    next here =>
      by_cases zero : ret = 0
      · subst zero
        cases moved
        exact .queried here
      · rw [if_pos zero, afterResolveDns, if_pos zero] at moved
        cases moved
        unfold afterConnectClient
        split
        next failed => exact .queryFailed here failed
        next other => exact .queryUnusual here (by omega)
    next => cases moved
  | dnsTimeout =>
    simp only [step] at moved
    split at moved <;> cases moved
    next here => exact .dnsTimeout here
  | mqttConnected ret internal =>
    simp only [step] at moved
    split at moved <;> cases moved
    next here =>
      unfold afterConnectClient
      split
      · exact .mqttFailed here
      · exact .mqttConnected here
  | delivered message internal =>
    simp only [step] at moved
    split at moved
    next here => exact delivered_move here moved
    next => cases moved
  | inputReturned ret internal =>
    simp only [step] at moved
    split at moved <;> cases moved
    next loop busy here =>
      cases loop with
      | bringUp => exact .roundReturned here
      | events revents =>
        simp only [afterInput]
        split
        · exact .inputBroke here
        next fine =>
          obtain rfl : ret = 0 := by simpa using fun failed => fine (Or.inl failed)
          exact .inputReturned here
  | liveReturned internal =>
    simp only [step] at moved
    split at moved <;> cases moved
    next here => exact .liveReturned here
  | callReturned ret internal =>
    simp only [step] at moved
    split at moved <;> cases moved
    next here =>
      split
      · exact .callFailed here
      · exact .callReturned here
  | polled ret revents =>
    simp only [step] at moved
    split at moved
    next here =>
      cases moved
      unfold afterPoll
      split
      · exact .pollBroke here
      · split
        · exact .polledInput here
        · split
          · exact .pollBroke here
          · exact here ▸ .polled here
    next => cases moved
  | disconnected internal =>
    simp only [step] at moved
    split at moved <;> cases moved
    next here => exact .disconnected here

end Dionysus.Proofs.MqttRuns
