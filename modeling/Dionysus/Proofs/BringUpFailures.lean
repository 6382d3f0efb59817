import Dionysus.Proofs.MqttRuns

/-! Failures during bring-up. The request, the connect result, the CONNACK and the
broken session are only printed, and the waits they belong to end with success
alone; a failed query is different, because its wait ends after ten seconds. -/

namespace Dionysus.Proofs.BringUpFailures
open MqttClient MqttRuns History

/-- The stage that a mark reports as failed. -/
def reports : Mark → Option Stage
  | .wifiRequested ret => if ret = 0 then none else some .wifi
  | .wifiConnectResult status => if status = 0 then none else some .wifi
  | .dnsResult status => if status.fails then some .dns else none
  | .handled (.connack result) _ _ => if result = 0 then none else some .mqtt
  | .handled .disconnect _ _ => some .mqtt
  | .inputReturned ret _ => if ret = 0 then none else some .mqtt
  | _ => none

/-- A failure of the stage was reported since it began; for the session, before it
was accepted. -/
def Failed : Stage → List Mark → Prop
  | .mqtt => Sometime (reports · = some .mqtt) fun past => ∀ mark ∈ past, accepts mark = false
  | stage => Since (reports · = some stage) (· = .started stage)

/-- `main` sits in a wait that only the success of the stage ends. The take of
`dns_sem` is no such wait. -/
def Awaits : Stage → State → Prop
  | .wifi, state => ∃ ret, state.point = .waitingWifi ret
  | .dns, _ => False
  | .mqtt, state => state.semMqttConnected.count = 0 ∧
      (state.point = .counting ∨ (∃ busy, state.point = .inputting .bringUp busy) ∨ state.point = .living)

structure FailuresReturned (trace : List Mark) (state : State) : Prop where
  unawaited : ∀ stage, Failed stage trace → ¬Awaits stage state
  returned : ∀ stage, Whenever (· = .returned stage 0) (fun past => ¬Failed stage past) trace

def inWifiConnect : Point → Bool
  | .requesting | .takingWifi _ | .waitingWifi _ | .tookWifi _ => true
  | _ => false

/-- The query has been reported as done and `main` has not returned from it. -/
def Resolved (state : State) : Prop := 0 < state.dnsSem.count ∨ state.point = .tookDns

/-- What the request returned, when `main` is about to take `sem_wifi`. -/
def requestResult : Point → Option Int
  | .takingWifi ret => some ret
  | _ => none

/-- Nothing fails inside `wifi_connect` or in the wait for the session, and no query
ends both ways. -/
def nothingFails : Guard State Event Mark := fun trace state event =>
  match event with
  | .main => ∀ ret ∈ requestResult state.point, state.semWifi.count = 0 → ret = 0
  | .wifiConnectResult status => inWifiConnect state.point = true → status = 0
  | .dnsResult status => (status = .allDone → ¬Failed .dns trace) ∧ (status.fails = true → ¬Resolved state)
  | .delivered event _ => state.semMqttConnected.count = 0 → reports (.handled event none 0) = none
  | .inputReturned ret _ => state.semMqttConnected.count = 0 → ret = 0
  | _ => True

instance (trace : List Mark) (state : State) (event : Event) : Decidable (nothingFails trace state event) :=
  match event with
  | .main => inferInstanceAs (Decidable (∀ ret ∈ requestResult state.point, _ → ret = 0))
  | .wifiConnectResult status => inferInstanceAs (Decidable (_ → status = 0))
  | .dnsResult status =>
    have : Decidable (Failed .dns trace) := decidableSince trace
    have : Decidable (Resolved state) := inferInstanceAs (Decidable (_ ∨ _))
    inferInstanceAs (Decidable ((status = .allDone → _) ∧ (_ → _)))
  | .delivered event _ => inferInstanceAs (Decidable (_ → reports (.handled event none 0) = none))
  | .inputReturned ret _ => inferInstanceAs (Decidable (_ → ret = 0))
  | .wifiDisconnectResult _ | .ipv4AddrAdd | .initialised _ | .wifiRequested _ | .dnsContext _ | .dnsQueried _
  | .dnsTimeout | .mqttConnected _ _ | .liveReturned _ | .callReturned _ _ | .polled _ _ | .disconnected _ =>
    .isTrue trivial

/-- What a failure in `wifi_connect` has led to, by what `main` executes next. -/
def WifiHeard (failed : Prop) : Point → Prop
  | .requesting | .waitingWifi _ => ¬failed
  | .takingWifi ret | .tookWifi ret => failed → ret ≠ 0
  | _ => True

theorem WifiHeard.mono {failed other : Prop} {point : Point} (heard : WifiHeard failed point)
    (fewer : other → failed) : WifiHeard other point := by
  cases point with
  | requesting => exact fun now => heard (fewer now)
  | waitingWifi ret => exact fun now => heard (fewer now)
  | takingWifi ret => exact fun now => heard (fewer now)
  | tookWifi ret => exact fun now => heard (fewer now)
  | _ => trivial

structure Heard (trace : List Mark) (state : State) : Prop where
  wifi : WifiHeard (Failed .wifi trace) state.point
  dns : Resolved state → ¬Failed .dns trace
  mqtt : ¬Failed .mqtt trace
  accepted : 0 < state.semMqttConnected.count → ∃ mark ∈ trace, accepts mark = true
  returned : ∀ stage, Whenever (· = .returned stage 0) (fun past => ¬Failed stage past) trace

variable {board : Board} {trace : List Mark} {state before after : State} {event : Event} {emitted : List Mark}

theorem Failed.of_append {stage : Stage} (failed : Failed stage (trace ++ emitted))
    (silent : ∀ mark ∈ emitted, reports mark ≠ some stage) : Failed stage trace := by
  cases stage with
  | wifi => exact Since.of_append failed silent
  | dns => exact Since.of_append failed silent
  | mqtt => exact Sometime.of_append failed silent

theorem failed_mqtt_of_accepted {mark : Mark} (accepted : ∃ mark ∈ trace, accepts mark = true)
    (failed : Failed .mqtt (trace ++ [mark])) : Failed .mqtt trace := by
  obtain ⟨found, member, accepts⟩ := accepted
  rcases sometime_snoc.mp failed with old | ⟨-, none⟩
  · exact old
  · rw [none found member] at accepts
    cases accepts

theorem wifiHeard_elsewhere {failed : Prop} {point : Point} (elsewhere : inWifiConnect point = false) :
    WifiHeard failed point := by
  cases point with
  | requesting | takingWifi | waitingWifi | tookWifi => cases elsewhere
  | _ => trivial

theorem reports_handled (event : MqttEvent) (shown : Option Printed) (unread : Nat) :
    reports (.handled event shown unread) = reports (.handled event none 0) := by
  cases event <;> rfl

theorem reports_handled_session {event : MqttEvent} {shown : Option Printed} {unread : Nat} {stage : Stage}
    (reported : reports (.handled event shown unread) = some stage) : stage = .mqtt := by
  cases event with
  | connack result =>
    simp only [reports] at reported
    split at reported <;> cases reported
    rfl
  | disconnect =>
    cases reported
    rfl
  | publish | other => cases reported

private theorem Resolved.earlier (done : Resolved after) (sem : after.dnsSem = before.dnsSem)
    (away : after.point ≠ .tookDns) : Resolved before := by
  rcases done with positive | here
  · exact Or.inl (sem ▸ positive)
  · exact absurd here away

private theorem Heard.kept_accepted (kept : Heard trace before) (sem : after.semMqttConnected = before.semMqttConnected)
    (positive : 0 < after.semMqttConnected.count) : ∃ mark ∈ trace ++ emitted, accepts mark = true := by
  rw [sem] at positive
  obtain ⟨mark, member, accepts⟩ := kept.accepted positive
  exact ⟨mark, List.mem_append_left _ member, accepts⟩

private theorem Heard.kept_returned (kept : Heard trace before) (returns : ∀ stage, .returned stage 0 ∉ emitted)
    (stage : Stage) : Whenever (· = .returned stage 0) (fun past => ¬Failed stage past) (trace ++ emitted) :=
  (kept.returned stage).append fun _ member same => returns stage (same ▸ member)

/-- A step that reports no failure and ends no stage. -/
private theorem Heard.quiet (kept : Heard trace before) (silent : ∀ mark ∈ emitted, reports mark = none)
    (returns : ∀ stage, .returned stage 0 ∉ emitted) (wifi : WifiHeard (Failed .wifi trace) after.point)
    (dns : Resolved after → Resolved before) (sem : after.semMqttConnected = before.semMqttConnected) :
    Heard (trace ++ emitted) after := by
  have failed : ∀ {stage}, Failed stage (trace ++ emitted) → Failed stage trace := by
    intro stage now
    exact now.of_append fun _ member => by simp [silent _ member]
  exact ⟨wifi.mono failed, fun done now => kept.dns (dns done) (failed now), fun now => kept.mqtt (failed now),
    kept.kept_accepted sem, kept.kept_returned returns⟩

/-- A quiet step that does not take `dns_sem` either. -/
private theorem Heard.passed (kept : Heard trace before) (silent : ∀ mark ∈ emitted, reports mark = none)
    (returns : ∀ stage, .returned stage 0 ∉ emitted) (wifi : WifiHeard (Failed .wifi trace) after.point)
    (dns : after.dnsSem = before.dnsSem) (away : after.point ≠ .tookDns)
    (sem : after.semMqttConnected = before.semMqttConnected) : Heard (trace ++ emitted) after := by
  apply kept.quiet silent returns wifi _ sem
  intro done
  exact done.earlier dns away

/-- A step that may report a failure; of the session only once that was accepted. -/
private theorem Heard.reported {mark : Mark} (kept : Heard trace before)
    (unreturned : ∀ stage, mark ≠ .returned stage 0)
    (wifi : WifiHeard (Failed .wifi (trace ++ [mark])) after.point)
    (dns : Resolved after → ¬Failed .dns (trace ++ [mark]))
    (mqtt : reports mark = some .mqtt → 0 < before.semMqttConnected.count)
    (sem : after.semMqttConnected = before.semMqttConnected) : Heard (trace ++ [mark]) after := by
  refine ⟨wifi, dns, ?_, kept.kept_accepted sem, kept.kept_returned ?_⟩
  · intro failed
    by_cases session : reports mark = some .mqtt
    · exact kept.mqtt (failed_mqtt_of_accepted (kept.accepted (mqtt session)) failed)
    · exact kept.mqtt (failed.of_append (by simpa using session))
  · intro stage member
    exact unreturned stage (List.mem_singleton.mp member).symm

/-- A step that may only report the session as failed, once it was accepted. -/
private theorem Heard.session {mark : Mark} (kept : Heard trace before)
    (unreturned : ∀ stage, mark ≠ .returned stage 0)
    (session : ∀ stage, reports mark = some stage → stage = .mqtt ∧ 0 < before.semMqttConnected.count)
    (wifi : WifiHeard (Failed .wifi trace) after.point) (dns : Resolved after → Resolved before)
    (sem : after.semMqttConnected = before.semMqttConnected) : Heard (trace ++ [mark]) after := by
  have others : ∀ {stage}, stage ≠ .mqtt → Failed stage (trace ++ [mark]) → Failed stage trace := by
    intro stage other now
    exact now.of_append (by simpa using fun same => other (session stage same).1)
  apply kept.reported unreturned
  · exact wifi.mono (others (by simp))
  · intro done now
    exact kept.dns (dns done) (others (by simp) now)
  · exact fun same => (session _ same).2
  · exact sem

/-- A step that ends a stage, with success only when nothing was reported. -/
private theorem Heard.ended {stage : Stage} {ret : Int} (kept : Heard trace before)
    (clean : ret = 0 → ¬Failed stage trace) (elsewhere : inWifiConnect after.point = false)
    (dns : after.dnsSem = before.dnsSem) (away : after.point ≠ .tookDns)
    (sem : after.semMqttConnected = before.semMqttConnected) : Heard (trace ++ [.returned stage ret]) after := by
  have failed : ∀ {other}, Failed other (trace ++ [.returned stage ret]) → Failed other trace := by
    intro other now
    exact now.of_append (by simp [reports])
  refine ⟨wifiHeard_elsewhere elsewhere, fun done now => kept.dns (done.earlier dns away) (failed now),
    fun now => kept.mqtt (failed now), kept.kept_accepted sem, ?_⟩
  intro other
  refine whenever_snoc.mpr ⟨kept.returned other, ?_⟩
  intro same
  obtain ⟨rfl, zero⟩ := Mark.returned.inj same
  exact clean zero

private theorem Heard.input {ret : Int} {busy : Bool} (kept : Heard trace before)
    (elsewhere : inWifiConnect after.point = false) (away : after.point ≠ .tookDns)
    (dns : after.dnsSem = before.dnsSem) (sem : after.semMqttConnected = before.semMqttConnected)
    (allowed : before.semMqttConnected.count = 0 → ret = 0) : Heard (trace ++ [.inputReturned ret busy]) after := by
  refine kept.session (by simp) ?_ (wifiHeard_elsewhere elsewhere) (fun done => done.earlier dns away) sem
  intro stage reported
  simp only [reports] at reported
  split at reported <;> cases reported
  next failed =>
    refine ⟨rfl, ?_⟩
    by_contra zero
    exact failed (allowed (by omega))

private theorem heard_step (kept : Heard trace before) (allowed : nothingFails trace before event)
    (move : Move board before event after emitted) : Heard (trace ++ emitted) after := by
  cases move with
  | connectFailed failed =>
    apply kept.reported (by simp)
    · apply wifiHeard_elsewhere
      by_contra inside
      exact failed (allowed (by simpa using inside))
    · intro done now
      exact kept.dns done (now.of_append (by simp [reports, failed]))
    · simp [reports, failed]
    · rfl
  | connectWoke here =>
    have clean : WifiHeard (Failed .wifi trace) (.waitingWifi _) := here ▸ kept.wifi
    exact kept.passed (by simp [reports]) (by simp) (fun now => absurd now clean) rfl (by simp) rfl
  | connectGave here => exact kept.quiet (by simp [reports]) (by simp) kept.wifi id rfl
  | disconnectFailed failed => exact kept.quiet (by simp [reports]) (by simp) kept.wifi id rfl
  | disconnectTook => exact kept.quiet (by simp [reports]) (by simp) kept.wifi id rfl
  | addressGave => exact kept.quiet (by simp [reports]) (by simp) kept.wifi id rfl
  | dnsIgnored unfinished =>
    apply kept.reported (by simp)
    · exact kept.wifi.mono fun now => now.of_append (by simp [reports])
    · intro done now
      refine kept.dns done (now.of_append ?_)
      intro mark member
      obtain rfl := List.mem_singleton.mp member
      intro fails
      exact allowed.2 (by simpa [reports] using fails) done
    · simp [reports]
    · rfl
  | dnsWoke here =>
    apply kept.reported (by simp)
    · trivial
    · intro _ now
      exact allowed.1 rfl (now.of_append (by simp [reports, DnsStatus.fails]))
    · simp [reports]
    · rfl
  | dnsGave here =>
    apply kept.reported (by simp)
    · exact kept.wifi.mono fun now => now.of_append (by simp [reports])
    · intro _ now
      exact allowed.1 rfl (now.of_append (by simp [reports, DnsStatus.fails]))
    · simp [reports]
    · rfl
  | tookWifi here positive =>
    have heard : WifiHeard (Failed .wifi trace) (.takingWifi _) := here ▸ kept.wifi
    exact kept.passed (by simp) (by simp) heard rfl (by simp) rfl
  | waitedWifi here zero =>
    have heard : WifiHeard (Failed .wifi trace) (.takingWifi _) := here ▸ kept.wifi
    refine kept.passed (by simp) (by simp) ?_ rfl (by simp) rfl
    intro now
    exact heard now (allowed _ (by simp [here, requestResult]) zero)
  | wifiReturned here fine =>
    have heard : WifiHeard (Failed .wifi trace) (.tookWifi _) := here ▸ kept.wifi
    exact kept.ended (fun zero now => heard now zero) rfl rfl (by simp) rfl
  | wifiFailed here failed => exact kept.ended (by omega) rfl rfl (by simp) rfl
  | tookDns here positive => exact kept.quiet (by simp) (by simp) trivial (fun _ => Or.inl positive) rfl
  | dnsReturned here =>
    exact kept.ended (fun _ => kept.dns (Or.inr here)) rfl rfl (by simp) rfl
  | left here positive => exact kept.ended (fun _ => kept.mqtt) rfl rfl (by simp) rfl
  | initialised here =>
    apply kept.reported (by simp)
    · intro now
      rcases since_snoc.mp now with reported | ⟨-, later⟩
      · simp [reports] at reported
      · exact later rfl
    · intro done now
      exact kept.dns (done.earlier rfl (by simp)) (now.of_append (by simp [reports]))
    · simp [reports]
    · rfl
  | requested here =>
    have clean : WifiHeard (Failed .wifi trace) .requesting := here ▸ kept.wifi
    have only : ∀ {ret stage}, reports (.wifiRequested ret) = some stage → stage = .wifi := by
      intro ret stage reported
      simp only [reports] at reported
      split at reported <;> cases reported
      rfl
    apply kept.reported (by simp)
    · intro now zero
      exact clean (now.of_append (by simp [reports, zero]))
    · intro done now
      refine kept.dns (done.earlier rfl (by simp)) (now.of_append ?_)
      intro mark member reported
      rw [List.mem_singleton.mp member] at reported
      cases only reported
    · intro session
      cases only session
    · rfl
  | accepted here =>
    have failed : ∀ {stage},
        Failed stage (trace ++ [.handled (.connack 0) none before.unread]) → Failed stage trace := by
      intro stage now
      exact now.of_append (by simp [reports])
    refine ⟨kept.wifi.mono failed, fun done now => kept.dns done (failed now), fun now => kept.mqtt (failed now), ?_,
      kept.kept_returned (by simp)⟩
    intro _
    exact ⟨_, List.mem_append_right _ List.mem_cons_self, rfl⟩
  | heard here other unpublished =>
    refine kept.session (by simp) ?_ kept.wifi id rfl
    intro stage reported
    have positive : 0 < before.semMqttConnected.count := by
      by_contra zero
      rw [reports_handled, allowed (by omega)] at reported
      cases reported
    exact ⟨reports_handled_session reported, positive⟩
  | published here may prints => exact kept.quiet (by simp [reports]) (by simp) kept.wifi id rfl
  | roundReturned here => exact kept.input rfl (by simp) rfl rfl allowed
  | inputReturned here => exact kept.input rfl (by simp) rfl rfl allowed
  | inputBroke here => exact kept.input rfl (by simp) rfl rfl allowed
  | polled here => exact kept.quiet (by simp) (by simp) kept.wifi id rfl
  | queryFailed here failed => exact kept.ended (by omega) rfl rfl (by simp) rfl
  | queryUnusual here positive => exact kept.ended (by omega) rfl rfl (by simp) rfl
  | dnsTimeout here => exact kept.ended (by omega) rfl rfl (by simp) rfl
  | contextMissing here => exact kept.ended (by omega) rfl rfl (by simp) rfl
  | _ => exact kept.passed (by simp [reports]) (by simp) trivial rfl (by simp [mqttInput]) rfl

theorem heard (reached : (machine board).Reaches nothingFails trace state) : Heard trace state := by
  apply reached.invariant
  · refine ⟨trivial, ?_, not_sometime_nil, ?_, fun _ => whenever_nil⟩
    · simp [Resolved, machine]
    · simp [machine]
  · intro trace before event after emitted kept allowed moved
    exact heard_step kept allowed (move_of_step moved)

theorem failures_returned (reached : (machine board).Reaches nothingFails trace state) :
    FailuresReturned trace state := by
  have kept := heard reached
  refine ⟨?_, kept.returned⟩
  intro stage failed awaits
  cases stage with
  | wifi =>
    obtain ⟨ret, here⟩ := awaits
    have clean : WifiHeard (Failed .wifi trace) (.waitingWifi ret) := here ▸ kept.wifi
    exact clean failed
  | dns => exact awaits
  | mqtt => exact kept.mqtt failed

/-- A query fails, its wait runs out, and `main` returns. -/
theorem failures_returned_run : ∃ trace state, (machine .m5Core2).Reaches nothingFails trace state ∧
    .dnsResult .fail ∈ trace ∧ .returned .dns (-2) ∈ trace ∧ state.point = .exited 1 ∧
      FailuresReturned trace state := by
  obtain ⟨trace, state, reached, found⟩ := (machine .m5Core2).reaches_of_run nothingFails
    [.initialised true, .wifiRequested 0, .main, .wifiConnectResult 0, .ipv4AddrAdd, .main, .main, .main,
      .dnsContext true, .dnsQueried 0, .main, .dnsResult .fail, .dnsTimeout]
    (fun trace state => decide (.dnsResult .fail ∈ trace ∧ .returned .dns (-2) ∈ trace ∧ state.point = .exited 1))
    (by decide)
  obtain ⟨reported, returned, here⟩ := of_decide_eq_true found
  exact ⟨trace, state, reached, reported, returned, here, failures_returned reached⟩

/-- The request is refused, and `main` waits for a result that nothing announces. -/
theorem refused_request_awaited :
    ¬∀ board trace state, (machine board).Reaches Guard.free trace state → FailuresReturned trace state := by
  intro always
  obtain ⟨trace, state, reached, found⟩ := (machine .m5Core2).reaches_of_run Guard.free
    [.initialised true, .wifiRequested (-5), .main]
    (fun trace state => decide (trace = [.started .wifi] ++ [.wifiRequested (-5)] ∧ state.point = .waitingWifi (-5)))
    (by decide)
  obtain ⟨rfl, here⟩ := of_decide_eq_true found
  exact (always _ _ _ reached).unawaited .wifi (since_snoc.mpr (Or.inl rfl)) ⟨-5, here⟩

end Dionysus.Proofs.BringUpFailures
