import Dionysus.Proofs.Packets

/-! Steps of the base node, said once for every proof about its runs. -/

namespace Dionysus.Proofs.BaseRuns
open Base

@[simp] theorem jsonPrint_globals (globals : Globals) : (jsonPrint globals).1 = { globals with clap := 0 } := by
  simp only [jsonPrint]
  split
  · rfl
  next none =>
    cases globals
    simp_all

@[simp] theorem jsonPrint_field (globals : Globals) (channel : Channel) :
    (jsonPrint globals).2.data.field channel = (globals.value channel).toNat := by
  cases channel <;> rfl

def cleared (globals : Globals) : Channel → Globals
  | .temp => { globals with newTemp := false }
  | .light => { globals with newLight := false }
  | .clap => { globals with newClap := false }

@[simp] theorem value_cleared (globals : Globals) (channel other : Channel) :
    (cleared globals channel).value other = globals.value other := by
  cases channel <;> cases other <;> rfl

def quiet : Point → Bool
  | .printBoth | .clearTemp | .clearLight | .startBoth | .printClap | .clearClap | .startClap => true
  | _ => false

def settled : Point → Bool
  | .clearTemp | .clearLight | .startBoth | .clearClap | .startClap => true
  | _ => false

theorem settled_quiet {point : Point} (printed : settled point = true) : quiet point = true := by
  cases point <;> first | rfl | cases printed

/-- Everything the base node can do in one step. Proofs about runs take these seven
cases, never the statements of the loop one by one. -/
inductive Moves (before : State) : Event → State → List Entry → Prop where
  | test {point} (awake : quiet point = false) : Moves before .main { before with point } []
  | stop {point} (unprinted : settled point = false) :
      Moves before .main { before with scanning := false, point } []
  | print {point} (stopped : quiet before.point = true) :
      Moves before .main { before with globals := { before.globals with clap := 0 }, point }
        [.printed (jsonPrint before.globals).2.data]
  | clear {point} (channel : Channel) (printed : settled before.point = true) :
      Moves before .main { before with globals := cleared before.globals channel, point } []
  | start {point} (awake : quiet point = false) :
      Moves before .main { before with scanning := true, point } []
  | ignored {packet ad} (nothing : accepted ad = none) : Moves before (.deviceFound packet ad) before []
  | received {packet ad channel value} (scanning : before.scanning = true)
      (delivered : accepted ad = some (channel, value)) :
      Moves before (.deviceFound packet ad) { before with globals := before.globals.store channel value }
        [.received packet channel value]

private theorem mainStep_moves (before : State) :
    Moves before .main (mainStep before).1 (mainStep before).2 := by
  cases point : before.point <;> simp only [mainStep, point, jsonPrint_globals]
  case testTemp | testLight | testClap => exact .test (by split <;> rfl)
  case stopBoth | stopClap => exact .stop rfl
  case printBoth | printClap => exact .print (by rw [point]; rfl)
  case clearTemp => exact .clear .temp (by rw [point]; rfl)
  case clearLight => exact .clear .light (by rw [point]; rfl)
  case clearClap => exact .clear .clap (by rw [point]; rfl)
  case startBoth | startClap => exact .start rfl

theorem step_moves {before after : State} {event : Event} {emitted : List Entry}
    (moved : machine.step before event = some (after, emitted)) : Moves before event after emitted := by
  cases event with
  | main =>
    have executed := Option.some.inj moved
    rw [show after = (mainStep before).1 by rw [executed], show emitted = (mainStep before).2 by rw [executed]]
    exact mainStep_moves before
  | deviceFound packet ad =>
    simp only [machine, step] at moved
    split at moved
    next scanning =>
      obtain ⟨console, parsed⟩ := Packets.deviceFound_eq ad before.globals
      simp only [parsed, Option.some.injEq, Prod.mk.injEq] at moved
      obtain ⟨rfl, rfl⟩ := moved
      cases delivered : accepted ad with
      | none => exact .ignored delivered
      | some stored => exact .received scanning delivered
    next => cases moved

/-- No report is handled between a scan stop and the following scan start. -/
theorem quiet_not_scanning {guard : Guard State Event Entry} {trace : List Entry} {state : State}
    (reached : machine.Reaches guard trace state) : quiet state.point = true → state.scanning = false := by
  induction reached with
  | start =>
    intro impossible
    cases impossible
  | step _ _ moved held =>
    cases step_moves moved with
    | test awake | start awake => exact fun impossible => by simp [awake] at impossible
    | stop _ => exact fun _ => rfl
    | print stopped => exact fun _ => held stopped
    | clear channel printed => exact fun _ => held (settled_quiet printed)
    | ignored _ => exact held
    | received scanning _ => exact fun stopped => absurd (held stopped) (by simp [scanning])

end Dionysus.Proofs.BaseRuns
