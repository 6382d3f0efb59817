import Dionysus.Proofs.MqttSession

/-! Waits that miss nothing. A callback may come before the wait it ends, while `main`
is still on its way there; the semaphore keeps it, so `main` never waits for something
that has happened already. -/

namespace Dionysus.Proofs.BringUpWaits
open MqttClient MqttRuns MqttSession History

/-- The takes of bring-up that can wait. -/
inductive Wait where
  | wifi
  | ipv4
  | dns

def count : Wait → State → Nat
  | .wifi, state => state.semWifi.count
  | .ipv4, state => state.semIpv4.count
  | .dns, state => state.dnsSem.count

def gives : Wait → Mark → Prop
  | .wifi, mark => mark = .wifiConnectResult 0
  | .ipv4, mark => mark = .ipv4AddrAdd
  | .dns, mark => mark = .dnsResult .allDone

def withdraws : Wait → Mark → Prop
  | .wifi, mark => mark = .wifiDisconnectResult 0
  | _, _ => False

/-- What ends the wait has happened and was not withdrawn. -/
def Due (wait : Wait) : List Mark → Prop := Since (gives wait) (withdraws wait)

/-- Every take has a place, and the wait inside it the next one. -/
def Wait.place : Wait → Nat
  | .wifi => 0
  | .ipv4 => 2
  | .dns => 4

def place : Point → Nat
  | .starting | .requesting | .takingWifi _ => 0
  | .waitingWifi _ => 1
  | .tookWifi _ | .takingIpv4 => 2
  | .waitingIpv4 => 3
  | .tookIpv4 | .findingContext | .querying | .takingDns => 4
  | .waitingDns => 5
  | _ => 6

/-- Ahead of the take the count remembers, and inside it nothing is due. -/
structure Heard (wait : Wait) (trace : List Mark) (state : State) : Prop where
  ahead : place state.point ≤ wait.place → Due wait trace → 0 < count wait state
  inside : place state.point = wait.place + 1 → ¬Due wait trace

variable {board : Board} {wait : Wait} {trace : List Mark} {state before after : State} {event : Event}
variable {emitted : List Mark}

theorem Heard.quiet (heard : Heard wait trace before) (silent : ∀ mark ∈ emitted, ¬gives wait mark)
    (ahead : place after.point ≤ wait.place → place before.point ≤ wait.place ∧ count wait before ≤ count wait after)
    (inside : place after.point = wait.place + 1 → place before.point = wait.place + 1) :
    Heard wait (trace ++ emitted) after where
  ahead here due := by
    obtain ⟨earlier, kept⟩ := ahead here
    exact Nat.lt_of_lt_of_le (heard.ahead earlier (due.of_append silent)) kept
  inside here due := heard.inside (inside here) (due.of_append silent)

/-- `main` begins to wait on a count of zero only. -/
theorem Heard.waits (heard : Heard wait trace before) (here : place before.point ≤ wait.place)
    (zero : count wait before = 0) (there : place after.point = wait.place + 1) : Heard wait (trace ++ []) after where
  ahead earlier := by omega
  inside _ due := by
    rw [List.append_nil] at due
    have remembered := heard.ahead here due
    omega

theorem Heard.woke {mark : Mark} (there : wait.place + 1 < place after.point) : Heard wait (trace ++ [mark]) after where
  ahead earlier := by omega
  inside here := by omega

theorem Heard.gave {mark : Mark} (remembered : 0 < count wait after) (elsewhere : place after.point ≠ wait.place + 1) :
    Heard wait (trace ++ [mark]) after where
  ahead _ _ := remembered
  inside here := absurd here elsewhere

theorem Heard.withdrawn {mark : Mark} (withdrawn : withdraws wait mark) (other : ¬gives wait mark) :
    Heard wait (trace ++ [mark]) after := by
  have undue : ¬Due wait (trace ++ [mark]) := by
    intro due
    rcases since_snoc.mp due with given | ⟨-, kept⟩
    · exact other given
    · exact kept withdrawn
  exact ⟨fun _ due => absurd due undue, fun _ => undue⟩

theorem give_pos (sem : Semaphore 1) : 0 < sem.give.count := by
  simp only [Semaphore.give]
  omega

theorem heard_wifi (heard : Heard .wifi trace before) (move : Move board before event after emitted) :
    Heard .wifi (trace ++ emitted) after := by
  cases move with
  | connectWoke => exact .woke (by simp [place, Wait.place])
  | connectGave here =>
    refine .gave (give_pos _) ?_
    cases point : before.point with
    | waitingWifi ret => exact absurd point (here ret)
    | _ => simp [place, Wait.place]
  | disconnectTook => exact .withdrawn rfl (by simp [gives])
  | waitedWifi here zero => exact heard.waits (by simp [place, here]) zero rfl
  | connectFailed failed | disconnectFailed failed =>
    exact heard.quiet (by simp [gives, failed]) (fun earlier => ⟨earlier, Nat.le_refl _⟩) id
  | addressGave | dnsIgnored | dnsGave | accepted | heard | published | polled =>
    exact heard.quiet (by simp [gives]) (fun earlier => ⟨earlier, Nat.le_refl _⟩) id
  | _ here =>
    exact heard.quiet (by simp [gives]) (by simp [place, Wait.place, count, here, mqttInput])
      (by simp [place, Wait.place, here, mqttInput])

theorem heard_ipv4 (heard : Heard .ipv4 trace before) (move : Move board before event after emitted) :
    Heard .ipv4 (trace ++ emitted) after := by
  cases move with
  | addressWoke => exact .woke (by simp [place, Wait.place])
  | addressGave here =>
    refine .gave (give_pos _) ?_
    cases point : before.point with
    | waitingIpv4 => exact absurd point here
    | _ => simp [place, Wait.place]
  | waitedIpv4 here zero => exact heard.waits (by simp [place, Wait.place, here]) zero rfl
  | connectFailed | connectGave | disconnectFailed | disconnectTook | dnsIgnored | dnsGave | accepted | heard
  | published | polled => exact heard.quiet (by simp [gives]) (fun earlier => ⟨earlier, Nat.le_refl _⟩) id
  | _ here =>
    exact heard.quiet (by simp [gives]) (by simp [place, Wait.place, count, here, mqttInput])
      (by simp [place, Wait.place, here, mqttInput])

theorem heard_dns (heard : Heard .dns trace before) (move : Move board before event after emitted) :
    Heard .dns (trace ++ emitted) after := by
  cases move with
  | dnsWoke => exact .woke (by simp [place, Wait.place])
  | dnsGave here =>
    refine .gave (give_pos _) ?_
    cases point : before.point with
    | waitingDns => exact absurd point here
    | _ => simp [place, Wait.place]
  | waitedDns here zero => exact heard.waits (by simp [place, Wait.place, here]) zero rfl
  | dnsIgnored unfinished =>
    exact heard.quiet (by simp [gives, unfinished]) (fun earlier => ⟨earlier, Nat.le_refl _⟩) id
  | connectFailed | connectGave | disconnectFailed | disconnectTook | addressGave | accepted | heard
  | published | polled => exact heard.quiet (by simp [gives]) (fun earlier => ⟨earlier, Nat.le_refl _⟩) id
  | _ here =>
    exact heard.quiet (by simp [gives]) (by simp [place, Wait.place, count, here, mqttInput])
      (by simp [place, Wait.place, here, mqttInput])

theorem heard (wait : Wait) (reached : (machine board).Reaches Guard.free trace state) : Heard wait trace state := by
  apply reached.invariant
  · exact ⟨fun _ due => absurd due not_since_nil, fun _ => not_since_nil⟩
  · intro trace before event after emitted held _ moved
    cases wait with
    | wifi => exact heard_wifi held (move_of_step moved)
    | ipv4 => exact heard_ipv4 held (move_of_step moved)
    | dns => exact heard_dns held (move_of_step moved)

theorem accepted_from (move : Move board before event after emitted)
    (accepted : ∃ mark ∈ emitted, accepts mark = true) : 0 < after.semMqttConnected.count := by
  obtain ⟨mark, member, accepted⟩ := accepted
  obtain ⟨shown, unread, rfl⟩ := accepts_handled accepted
  cases move with
  | accepted => exact give_pos _
  | heard here other => exact absurd (Mark.handled.inj (List.mem_singleton.mp member)).1.symm other
  | _ => simp at member

theorem given_kept (move : Move board before event after emitted) (given : 0 < before.semMqttConnected.count) :
    0 < after.semMqttConnected.count := by
  cases move with
  | accepted => exact give_pos _
  | _ => exact given

/-- The semaphore of the session is never taken. -/
theorem accepted_iff (reached : (machine board).Reaches Guard.free trace state) :
    0 < state.semMqttConnected.count ↔ ∃ mark ∈ trace, accepts mark = true := by
  apply reached.invariant (by simp [machine])
  intro trace before event after emitted same _ moved
  have move := move_of_step moved
  constructor
  · intro given
    rcases given_from move given with old | ⟨mark, member, accepts⟩
    · obtain ⟨mark, member, accepts⟩ := same.mp old
      exact ⟨mark, List.mem_append_left _ member, accepts⟩
    · exact ⟨mark, List.mem_append_right _ member, accepts⟩
  · rintro ⟨mark, member, accepts⟩
    rcases List.mem_append.mp member with old | new
    · exact given_kept move (same.mpr ⟨mark, old, accepts⟩)
    · exact accepted_from move ⟨mark, new, accepts⟩

/-- The link came up and has not gone down since. -/
def LinkUp : List Mark → Prop := Since (· = .wifiConnectResult 0) (· = .wifiDisconnectResult 0)

/-- While `main` waits, what ends the wait has not happened: the link is not up, no
address was ever added, no query was finished. And it polls for the session once more
only if none was ever accepted. -/
structure MissesNothing (board : Board) (trace : List Mark) (state : State) : Prop where
  wifi : ∀ ret, state.point = .waitingWifi ret → ¬LinkUp trace
  ipv4 : state.point = .waitingIpv4 → .ipv4AddrAdd ∉ trace
  dns : state.point = .waitingDns → .dnsResult .allDone ∉ trace
  mqtt : state.point = .counting →
    ((machine board).step state .main = some (mqttInput state .bringUp, []) ↔ ∀ mark ∈ trace, accepts mark = false)

theorem mem_due {mark : Mark} (member : mark ∈ trace) (given : gives wait mark) (never : ∀ mark, ¬withdraws wait mark) :
    Due wait trace := by
  obtain ⟨earlier, later, rfl⟩ := List.append_of_mem member
  exact ⟨earlier, mark, later, rfl, given, fun mark _ => never mark⟩

theorem round_iff (here : state.point = .counting) :
    (machine board).step state .main = some (mqttInput state .bringUp, []) ↔ state.semMqttConnected.count = 0 := by
  simp only [machine, step, mainStep, here]
  split
  next zero => simp [zero]
  next positive => simp [mqttInput, positive]

/-- In every run, however the callbacks fall between the statements of `main`. -/
theorem misses_nothing (reached : (machine board).Reaches Guard.free trace state) :
    MissesNothing board trace state where
  wifi ret here := (heard .wifi reached).inside (by simp [place, here, Wait.place])
  ipv4 here added :=
    (heard .ipv4 reached).inside (by simp [place, here, Wait.place]) (mem_due added rfl fun _ => id)
  dns here finished :=
    (heard .dns reached).inside (by simp [place, here, Wait.place]) (mem_due finished rfl fun _ => id)
  mqtt here := by
    have unaccepted := not_congr (accepted_iff reached)
    rw [Nat.not_lt, Nat.le_zero] at unaccepted
    rw [round_iff here, unaccepted]
    simp

/-- The link and the address are there before `main` takes the first semaphore, and it
waits for the resolver only. -/
theorem misses_nothing_early :
    ∃ trace state, (machine .esp32Dk).Reaches Guard.free trace state ∧ state.point = .waitingDns ∧
      trace = [.started .wifi, .ipv4AddrAdd, .wifiRequested 0, .wifiConnectResult 0, .returned .wifi 0, .addressPassed,
        .started .dns] ∧ MissesNothing .esp32Dk trace state := by
  obtain ⟨trace, state, reached, found⟩ := (machine .esp32Dk).reaches_of_run Guard.free
    [.initialised true, .ipv4AddrAdd, .wifiRequested 0, .wifiConnectResult 0, .main, .main, .main, .main,
      .dnsContext true, .dnsQueried 0, .main]
    (fun trace state => state.point == .waitingDns && trace == [.started .wifi, .ipv4AddrAdd, .wifiRequested 0,
      .wifiConnectResult 0, .returned .wifi 0, .addressPassed, .started .dns]) (by decide)
  simp only [Bool.and_eq_true, beq_iff_eq] at found
  exact ⟨trace, state, reached, found.1, found.2, misses_nothing reached⟩

end Dionysus.Proofs.BringUpWaits
