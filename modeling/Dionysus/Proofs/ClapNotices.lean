import Dionysus.Proofs.BaseUpdates

/-! What the clap flag promises. Every line resets the count, but only the clap
branch lowers the flag, so a line for temperature and light uses up the count of a
notice that is still pending. -/

namespace Dionysus.Proofs.ClapNotices
open Base BaseRuns BaseUpdates

/-- The count is that of the last clap packet, and no line was printed since. -/
def Standing (trace : List Entry) (count : UInt16) : Prop :=
  ∃ since, LastReceived trace .clap count since ∧ ∀ line, .printed line ∉ since

/-- The last line shows the count of the last clap packet and is the first to do so. -/
def Shown (trace : List Entry) : Prop :=
  ∃ (value : UInt16) (since : List Entry) (line : JsonData), LastReceived trace .clap value (since ++ [.printed line]) ∧
    line.clap = value.toNat ∧ ∀ line, .printed line ∉ since

/-- Under its flag the count stands, and the line that `main` is about to print
because of the flag shows it first. Behind that line only the flag is left. -/
structure NoticesStand (trace : List Entry) (state : State) : Prop where
  pending : state.globals.newClap = true → state.point ≠ .clearClap →
    ∃ since, LastReceived trace .clap state.globals.clap since
  line : state.point = .printClap → ∃ value since, LastReceived trace .clap value since ∧
    (jsonPrint state.globals).2.data.clap = value.toNat ∧ ∀ line, .printed line ∉ since
  shown : state.point = .clearClap → Shown trace

/-- No line is printed for temperature and light while a clap notice is pending. -/
def onePending : Guard State Event Entry := fun _ state event =>
  match event with
  | .main => state.point = .printBoth → state.globals.newClap = false
  | .deviceFound _ _ => True

instance (trace : List Entry) (state : State) (event : Event) : Decidable (onePending trace state event) :=
  match event with
  | .main => inferInstanceAs (Decidable (_ → state.globals.newClap = false))
  | .deviceFound _ _ => .isTrue trivial

structure Notified (trace : List Entry) (state : State) : Prop where
  standing : state.globals.newClap = true → state.point ≠ .clearClap → Standing trace state.globals.clap
  flagged : state.point = .stopClap ∨ state.point = .printClap → state.globals.newClap = true
  shown : state.point = .clearClap → Shown trace

variable {trace : List Entry} {state before : State}

theorem Standing.received (trace : List Entry) (packet : Nat) (value : UInt16) :
    Standing (trace ++ [.received packet .clap value]) value :=
  ⟨[], ⟨trace, packet, rfl, by simp⟩, by simp⟩

theorem Standing.other {count value : UInt16} {packet : Nat} {channel : Channel} (standing : Standing trace count)
    (other : channel ≠ .clap) : Standing (trace ++ [.received packet channel value]) count := by
  obtain ⟨since, ⟨before, first, rfl, last⟩, unprinted⟩ := standing
  refine ⟨since ++ [.received packet channel value], ⟨before, first, by simp, ?_⟩, by simpa using unprinted⟩
  intro packet value member
  rcases List.mem_append.mp member with old | new
  · exact last packet value old
  · cases List.mem_singleton.mp new
    exact other rfl

theorem Standing.printed {count : UInt16} (standing : Standing trace count) {line : JsonData}
    (shows : line.clap = count.toNat) : Shown (trace ++ [.printed line]) := by
  obtain ⟨since, ⟨before, first, rfl, last⟩, unprinted⟩ := standing
  exact ⟨count, since, line, ⟨before, first, by simp, by simpa using last⟩, shows, unprinted⟩

/-- A step of `main` that leaves the count alone and prints nothing. -/
private theorem Notified.quiet {point : Point} {newTemp newLight scanning : Bool} (kept : Notified trace before)
    (open' : before.point ≠ .clearClap) (still : point ≠ .clearClap)
    (flagged : point = .stopClap ∨ point = .printClap → before.globals.newClap = true) :
    Notified (trace ++ [])
      { before with globals := { before.globals with newTemp, newLight }, point, scanning } := by
  rw [List.append_nil]
  exact ⟨fun flag _ => kept.standing flag open', flagged, fun here => absurd here still⟩

private theorem notified_main (kept : Notified trace before) (allowed : onePending trace before .main) :
    Notified (trace ++ (mainStep before).2) (mainStep before).1 := by
  cases here : before.point <;> simp only [mainStep, here, jsonPrint_globals]
  case testTemp | testLight =>
    apply kept.quiet (by simp [here])
    · split <;> simp
    · split <;> simp
  case testClap =>
    apply kept.quiet (by simp [here])
    · split <;> simp
    · split
      next flag => exact fun _ => flag
      next => simp
  case stopClap => exact kept.quiet (by simp [here]) (by simp) fun _ => kept.flagged (Or.inl here)
  case stopBoth | clearTemp | clearLight | startBoth | startClap =>
    exact kept.quiet (by simp [here]) (by simp) (by simp)
  case printBoth =>
    have quiet : before.globals.newClap = false := allowed here
    exact ⟨by simp [quiet], by simp, by simp⟩
  case printClap =>
    have standing := kept.standing (kept.flagged (Or.inr here)) (by simp [here])
    exact ⟨by simp, by simp, fun _ => standing.printed rfl⟩
  case clearClap => exact ⟨by simp, by simp, by simp⟩

private theorem notified_received {packet : Nat} {channel : Channel} {value : UInt16} (kept : Notified trace before)
    (open' : before.point ≠ .clearClap) :
    Notified (trace ++ [.received packet channel value])
      { before with globals := before.globals.store channel value } := by
  cases channel with
  | clap => exact ⟨fun _ _ => Standing.received trace packet value, fun _ => rfl, fun here => absurd here open'⟩
  | temp | light =>
    refine ⟨?_, kept.flagged, fun here => absurd here open'⟩
    intro flag _
    exact (kept.standing flag open').other (by simp)

theorem notified (reached : machine.Reaches onePending trace state) : Notified trace state := by
  induction reached with
  | start => exact ⟨by simp [machine], by simp [machine], by simp [machine]⟩
  | @step trace before event after emitted reached allowed moved kept =>
    cases event with
    | main =>
      have executed : mainStep before = (after, emitted) := Option.some.inj moved
      have step := notified_main kept allowed
      rw [executed] at step
      exact step
    | deviceFound packet ad =>
      cases step_moves moved with
      | ignored nothing =>
        rw [List.append_nil]
        exact kept
      | received scanning delivered =>
        apply notified_received kept
        intro here
        have stopped := quiet_not_scanning reached (by rw [here]; rfl)
        rw [stopped] at scanning
        cases scanning

theorem notices_stand (reached : machine.Reaches onePending trace state) : NoticesStand trace state := by
  have kept := notified reached
  refine ⟨?_, ?_, kept.shown⟩
  · intro flag open'
    obtain ⟨since, last, -⟩ := kept.standing flag open'
    exact ⟨since, last⟩
  · intro here
    obtain ⟨since, last, unprinted⟩ := kept.standing (kept.flagged (Or.inr here)) (by simp [here])
    exact ⟨_, since, last, rfl, unprinted⟩

/-- Seven claps alone are about to be printed. -/
theorem notices_stand_alone : ∃ trace state, machine.Reaches onePending trace state ∧
    state.point = .printClap ∧ state.globals.clap = 7 ∧ NoticesStand trace state := by
  obtain ⟨trace, state, reached, found⟩ := machine.reaches_of_run onePending
    [.deviceFound 0 (Packets.report .clap 7), .main, .main, .main]
    (fun _ state => decide (state.point = .printClap ∧ state.globals.clap = 7)) (by decide)
  obtain ⟨here, count⟩ := of_decide_eq_true found
  exact ⟨trace, state, reached, here, count, notices_stand reached⟩

/-- With temperature and light pending as well, the first line shows the seven claps
and the clap line shows none. -/
theorem notice_shows_no_claps : ¬∀ trace state, machine.Reaches Guard.free trace state → NoticesStand trace state := by
  intro always
  obtain ⟨trace, state, reached, found⟩ := machine.reaches_of_run Guard.free
    [.deviceFound 0 (Packets.report .clap 7), .deviceFound 1 (Packets.report .temp 2350),
      .deviceFound 2 (Packets.report .light 300),
      .main, .main, .main, .main, .main, .main, .main, .main, .main]
    (fun trace state => decide (state.point = .printClap ∧ (jsonPrint state.globals).2.data.clap = 0 ∧
      trace = [.received 0 .clap 7, .received 1 .temp 2350, .received 2 .light 300, .printed ⟨2350, 300, 7⟩]))
    (by decide)
  obtain ⟨here, shown, rfl⟩ := of_decide_eq_true found
  obtain ⟨value, since, ⟨before, packet, split, -⟩, shows, -⟩ := (always _ _ reached).line here
  have received : Entry.received packet .clap value ∈
      [Entry.received 0 .clap 7, .received 1 .temp 2350, .received 2 .light 300, .printed ⟨2350, 300, 7⟩] := by
    rw [split]
    simp
  obtain ⟨-, rfl⟩ : packet = 0 ∧ value = 7 := by simpa using received
  rw [shown] at shows
  cases shows

end Dionysus.Proofs.ClapNotices
