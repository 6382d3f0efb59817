import Dionysus.Budget
import Dionysus.Proofs.BaseRuns

/-! The base node prints nothing of its own accord. A line is paid for with a clap
packet, or with a temperature packet and a light packet, and no packet pays twice. -/

namespace Dionysus.Proofs.BaseLines
open Base BaseRuns

/-- The points at which the flag of a channel is still up, although its reading is
printed. -/
def spent : Channel → Point → Bool
  | .temp, .clearTemp | .light, .clearTemp | .light, .clearLight | .clap, .clearClap => true
  | _, _ => false

/-- One reading that has not paid for a line. -/
def unspent (channel : Channel) (state : State) : Nat :=
  if state.globals.isNew channel && !spent channel state.point then 1 else 0

/-- What the loop has tested is still so when it prints: only the loop takes flags down. -/
def tested (state : State) : Bool :=
  match state.point with
  | .testLight => state.globals.newTemp
  | .stopBoth | .printBoth => state.globals.newTemp && state.globals.newLight
  | .stopClap | .printClap => state.globals.newClap
  | _ => true

variable {guard : Guard State Event Entry} {trace : List Entry} {state : State}

theorem tested_main (kept : tested state = true) : tested (mainStep state).1 = true := by
  obtain ⟨⟨temp, light, clap, newTemp, newLight, newClap⟩, point, scanning⟩ := state
  revert kept
  cases newTemp <;> cases newLight <;> cases newClap <;> cases point <;> simp [mainStep, tested]

theorem isNew_store_mono (globals : Globals) (channel other : Channel) (value : UInt16)
    (new : globals.isNew other = true) : (globals.store channel value).isNew other = true := by
  by_cases same : other = channel
  · subst same
    simp
  · rw [Globals.isNew_store_other _ _ _ _ same, new]

theorem tested_received (kept : tested state = true) (channel : Channel) (value : UInt16) :
    tested { state with globals := state.globals.store channel value } = true := by
  have mono := fun other => isNew_store_mono state.globals channel other value
  have both : (state.globals.newTemp && state.globals.newLight) = true →
      ((state.globals.store channel value).newTemp && (state.globals.store channel value).newLight) = true := by
    intro new
    obtain ⟨temp, light⟩ := (Bool.and_eq_true _ _ ▸ new : _ ∧ _)
    rw [Bool.and_eq_true]
    exact ⟨mono .temp temp, mono .light light⟩
  unfold tested at kept ⊢
  dsimp only
  split
  next at' =>
    rw [at'] at kept
    exact mono .temp kept
  next at' =>
    rw [at'] at kept
    exact both kept
  next at' =>
    rw [at'] at kept
    exact both kept
  next at' =>
    rw [at'] at kept
    exact mono .clap kept
  next at' =>
    rw [at'] at kept
    exact mono .clap kept
  next => rfl

theorem tested_reached (reached : machine.Reaches guard trace state) : tested state = true := by
  induction reached with
  | start => rfl
  | @step trace before event after emitted _ _ moved ih =>
    cases event with
    | main =>
      have executed := Option.some.inj moved
      rw [← show (mainStep before).1 = after by rw [executed]]
      exact tested_main ih
    | deviceFound packet ad =>
      cases step_moves moved with
      | ignored _ => exact ih
      | received _ _ => exact tested_received ih _ _

def isLine (entry : Entry) : Nat :=
  match entry with
  | .printed _ => 1
  | _ => 0

def isPacket (channel : Channel) (entry : Entry) : Nat :=
  match entry with
  | .received _ other _ => if other = channel then 1 else 0
  | _ => 0

def lines (trace : List Entry) : Nat := total isLine trace

/-- The packets received on a channel. -/
def packets (channel : Channel) (trace : List Entry) : Nat := total (isPacket channel) trace

theorem unspent_received (channel other : Channel) (value : UInt16) :
    unspent channel { state with globals := state.globals.store other value } ≤
      unspent channel state + if other = channel then 1 else 0 := by
  by_cases same : other = channel
  · simp only [unspent, same, ↓reduceIte]
    split <;> omega
  · have kept : (state.globals.store other value).isNew channel = state.globals.isNew channel :=
      Globals.isNew_store_other _ _ _ _ (Ne.symm same)
    simp only [unspent, kept]
    omega

/-- A line spends the readings it was printed for. -/
theorem unspent_main (kept : tested state = true) {channel : Channel} (other : channel ≠ .clap) :
    unspent .clap (mainStep state).1 + unspent channel (mainStep state).1 + total isLine (mainStep state).2 ≤
      unspent .clap state + unspent channel state := by
  obtain ⟨⟨temp, light, clap, newTemp, newLight, newClap⟩, point, scanning⟩ := state
  revert kept other
  cases channel <;> cases newTemp <;> cases newLight <;> cases newClap <;> cases point <;>
    simp [mainStep, tested, unspent, spent, Globals.isNew, isLine]

theorem unspent_step {before after : State} {event : Event} {emitted : List Entry} (kept : tested before = true)
    {channel : Channel} (other : channel ≠ .clap) (moved : machine.step before event = some (after, emitted)) :
    unspent .clap after + unspent channel after + total isLine emitted ≤
      unspent .clap before + unspent channel before +
        total (fun entry => isPacket .clap entry + isPacket channel entry) emitted := by
  cases event with
  | main =>
    have executed := Option.some.inj moved
    rw [← show (mainStep before).1 = after by rw [executed], ← show (mainStep before).2 = emitted by rw [executed]]
    exact Nat.le_trans (unspent_main kept other) (Nat.le_add_right _ _)
  | deviceFound packet ad =>
    cases step_moves moved with
    | ignored _ => exact Nat.le_refl _
    | @received _ _ stored value _ _ =>
      have claps := @unspent_received before .clap stored value
      have others := @unspent_received before channel stored value
      simp only [total_cons, total_nil, isLine, isPacket]
      omega

/-- Every line is paid for by a clap packet or a packet of the other channel. -/
theorem lines_paid (reached : machine.Reaches guard trace state) {channel : Channel} (other : channel ≠ .clap) :
    lines trace ≤ packets .clap trace + packets channel trace := by
  have budget := reached.budget isLine (fun entry => isPacket .clap entry + isPacket channel entry)
    (fun state => unspent .clap state + unspent channel state)
    fun _ _ _ _ _ earlier _ moved => unspent_step (tested_reached earlier) other moved
  have none' : unspent .clap machine.initial + unspent channel machine.initial = 0 := by cases channel <;> rfl
  rw [total_add] at budget
  show total isLine trace ≤ total (isPacket .clap) trace + total (isPacket channel) trace
  omega

/-- In every run the lines are at most the clap packets with the temperature packets,
and at most the clap packets with the light packets. -/
theorem lines_le_packets (reached : machine.Reaches Guard.free trace state) :
    lines trace ≤ packets .clap trace + packets .temp trace ∧
      lines trace ≤ packets .clap trace + packets .light trace :=
  ⟨lines_paid reached nofun, lines_paid reached nofun⟩

/-- Two temperatures with one light pay for one line, a clap packet for another. -/
theorem lines_le_packets_two :
    ∃ trace state, machine.Reaches Guard.free trace state ∧ lines trace = 2 ∧
      lines trace ≤ packets .clap trace + packets .temp trace ∧
      lines trace ≤ packets .clap trace + packets .light trace := by
  obtain ⟨trace, state, reached, found⟩ := machine.reaches_of_run Guard.free
    [.deviceFound 0 (Packets.report .temp 21), .deviceFound 1 (Packets.report .temp 22),
      .deviceFound 2 (Packets.report .light 9), .main, .main, .main, .main, .main, .main, .main,
      .deviceFound 3 (Packets.report .clap 3), .main, .main, .main]
    (fun trace _ => lines trace == 2) (by decide)
  exact ⟨trace, state, reached, beq_iff_eq.mp found, lines_le_packets reached⟩

end Dionysus.Proofs.BaseLines
