import Dionysus.ThingyNode
import Dionysus.Proofs.ClapCount
import Dionysus.Proofs.PdmCleanup

/-! What the Thingy does over all its rounds. Each packet tells of one round only, the
microphone is quiet and its buffers are back before it is advertised, and the first
transfer that fails is the end. -/

namespace Dionysus.Proofs.ThingyRounds
open BigEndian Ledger Thingy Microphone ThingyNode PdmCleanup ClapCount

variable (hundredths : SensorValue → UInt16)

def succeeds (round : Round) : Bool := decide (0 ≤ (transfer hundredths round).ret)

/-- The rounds in front of the first whose transfer fails. -/
def completed (rounds : List Round) : List Round := rounds.takeWhile (succeeds hundredths)

/-- What one round measures: nothing of any other round is in it. -/
def described (round : Round) : Values where
  temp := if round.temperature.reads then hundredths round.temperature.value else 0
  light := if round.light.reads then round.light.value.val1.toUInt32.toUInt16 else 0
  clap := UInt16.ofNat (claps (samples round.driver blockCount))
  newtemp := if round.temperature.reads then 1 else 0
  newlight := if round.light.reads then 1 else 0
  newclap := if claps (samples round.driver blockCount) = 0 then 0 else 1

/-- What is handed to `bt_le_adv_start`. -/
def packet : ThingyNode.Action → Option (List BtData)
  | .advStart ad _ => some ad
  | _ => none

/-- What goes on air. -/
def onAir : ThingyNode.Action → Option (List BtData)
  | .advStart ad err => if err = 0 then some ad else none
  | _ => none

inductive Resource where
  | stream
  | buffer (number : Nat)
deriving DecidableEq, Repr

def onBuffer : Op Nat → Op Resource
  | .acquire number => .acquire (.buffer number)
  | .use number => .use (.buffer number)
  | .release number => .release (.buffer number)

/-- What an action does to the buffers and to the stream of the microphone. -/
def resourceOp : ThingyNode.Action → Option (Op Resource)
  | .mic (.buffer op) => some (onBuffer op)
  | .mic .start => some (.acquire .stream)
  | .mic .stop => some (.release .stream)
  | _ => none

def ops (actions : List ThingyNode.Action) : List (Op Resource) := actions.filterMap resourceOp

structure Describes (rounds : List Round) (outcome : Bool × List ThingyNode.Action) : Prop where
  runs : outcome.1 = true ↔ ∀ round ∈ rounds, succeeds hundredths round = true
  packets : outcome.2.filterMap packet =
    (completed hundredths rounds).map fun round => advertiseThingy (described hundredths round)
  airs : outcome.2.filterMap onAir = ((completed hundredths rounds).filter fun round => round.advStart == 0).map
    fun round => advertiseThingy (described hundredths round)
  quiet : ∀ before ad err after, outcome.2 = before ++ .advStart ad err :: after → Balanced (ops before)

variable {hundredths} {round : Round} {driver : Driver}

theorem readBlocks_ret (driver : Driver) (remaining i : Nat) (data : Values) :
    0 ≤ (readBlocks driver remaining i data).ret ↔
      (∀ k, k < remaining → 0 ≤ (driver.read (i + k)).1) ∧ 0 ≤ driver.stop := by
  induction remaining generalizing i data with
  | zero => simp [readBlocks]
  | succ remaining ih =>
    rw [readBlocks]
    split
    next failed =>
      apply iff_of_false (Int.not_le.mpr failed)
      intro fine
      exact absurd (fine.1 0 (Nat.succ_pos remaining)) (Int.not_le.mpr failed)
    next read =>
      rw [ih]
      apply and_congr_left
      intro _
      constructor
      · intro fine k below
        cases k with
        | zero => exact Int.not_lt.mp read
        | succ k =>
          rw [← Nat.succ_add_eq_add_succ]
          exact fine k (Nat.lt_of_succ_lt_succ below)
      · intro fine k below
        rw [Nat.succ_add_eq_add_succ]
        exact fine (k + 1) (Nat.succ_lt_succ below)

/-- A transfer that returns no error has had none. -/
theorem delivers_of_ret {blockCount : Nat} {data : Values} (fine : 0 ≤ (doPdmTransfer driver blockCount data).ret) :
    Delivers driver blockCount := by
  unfold doPdmTransfer at fine
  split at fine
  next refused => exact absurd fine (Int.not_le.mpr refused)
  next configured =>
    split at fine
    next refused => exact absurd fine (Int.not_le.mpr refused)
    next started =>
      refine ⟨Int.not_lt.mp configured, Int.not_lt.mp started, ?_⟩
      simpa using ((readBlocks_ret driver blockCount 0 data).mp fine).1

theorem readTemperature_eq (sensor : Sensor) (data : Values) : readTemperature hundredths sensor data =
    if sensor.reads then { data with temp := hundredths sensor.value, newtemp := 1 } else data := by
  unfold readTemperature Sensor.reads
  cases sensor.ready <;> simp

theorem readLight_eq (sensor : Sensor) (data : Values) : readLight sensor data =
    if sensor.reads then { data with light := sensor.value.val1.toUInt32.toUInt16, newlight := 1 } else data := by
  unfold readLight Sensor.reads
  cases sensor.ready <;> simp

theorem readSensors_eq (round : Round) : readSensors hundredths round =
    { described hundredths round with clap := 0, newclap := 0 } := by
  rw [readSensors, readLight_eq, readTemperature_eq, described]
  cases round.temperature.reads <;> cases round.light.reads <;> rfl

theorem transfer_described (fine : succeeds hundredths round = true) :
    (transfer hundredths round).data = described hundredths round := by
  have delivers : Delivers round.driver blockCount := delivers_of_ret (of_decide_eq_true fine)
  rw [transfer, transfer_data delivers, readSensors_eq, addClaps]
  simp [described]

theorem readBlocks_actions (driver : Driver) (remaining i : Nat) (data : Values)
    (reads : ∀ k, k < remaining → 0 ≤ (driver.read (i + k)).1) :
    (readBlocks driver remaining i data).actions =
      ((List.range' i remaining).flatMap fun k => handleBlock (driver.read k).2) ++ [.stop] := by
  induction remaining generalizing i data with
  | zero => rfl
  | succ remaining ih =>
    have first : ¬(driver.read i).1 < 0 := Int.not_lt.mpr (reads 0 (Nat.succ_pos remaining))
    rw [readBlocks, if_neg first, List.range'_succ, List.flatMap_cons, List.append_assoc]
    apply congrArg (handleBlock (driver.read i).2 ++ ·)
    apply ih
    intro k below
    rw [Nat.succ_add_eq_add_succ]
    exact reads (k + 1) (Nat.succ_lt_succ below)

@[simp] theorem ops_append (actions more : List ThingyNode.Action) : ops (actions ++ more) = ops actions ++ ops more :=
  List.filterMap_append

theorem ops_handleBlock (block : Block) : ops ((handleBlock block).map .mic) =
    .acquire (.buffer block.buffer) :: List.replicate block.sampleCount (.use (.buffer block.buffer)) ++
      [.release (.buffer block.buffer)] := by
  have uses : (List.replicate block.sampleCount (ThingyNode.Action.mic (.buffer (.use block.buffer)))).filterMap
      resourceOp = List.replicate block.sampleCount (.use (.buffer block.buffer)) :=
    List.filterMap_replicate_of_some rfl
  rw [ops, handleBlock, List.map_append, List.map_cons, List.map_replicate, List.filterMap_append, List.filterMap_cons,
    uses]
  rfl

/-- The blocks of a stream that runs leave it running, and no buffer behind. -/
theorem replay_blocks (blocks : List Block) :
    replay [.stream] (ops ((blocks.flatMap handleBlock).map .mic)) = some [.stream] := by
  induction blocks with
  | nil => rfl
  | cons block rest ih =>
    rw [List.flatMap_cons, List.map_append, ops_append, replay_append, ops_handleBlock, replay_once]
    exact ih

theorem transfer_balanced (fine : succeeds hundredths round = true) :
    Balanced (ops ((transfer hundredths round).actions.map .mic)) := by
  have delivers : Delivers round.driver blockCount := delivers_of_ret (of_decide_eq_true fine)
  have blocks := replay_blocks ((List.range' 0 blockCount).map fun k => (round.driver.read k).2)
  rw [List.flatMap_map] at blocks
  have reads : ∀ k, k < blockCount → 0 ≤ (round.driver.read (0 + k)).1 := by simpa using delivers.reads
  rw [transfer, doPdmTransfer, if_neg (Int.not_lt.mpr delivers.configured), if_neg (Int.not_lt.mpr delivers.started)]
  simp only [readBlocks_actions round.driver blockCount 0 _ reads, List.map_cons, List.map_append]
  show replay [Resource.stream] (ops (_ ++ [.mic .stop])) = some []
  rw [ops_append, replay_append, blocks]
  rfl

theorem advertise_packets (data : Values) (err : Int) :
    (advertise data err).filterMap packet = [advertiseThingy data] := by
  unfold advertise
  split <;> rfl

theorem advertise_airs (data : Values) (err : Int) :
    (advertise data err).filterMap onAir = if err = 0 then [advertiseThingy data] else [] := by
  by_cases fine : err = 0
  · subst fine
    rfl
  · simp [advertise, List.filterMap_cons, onAir, fine]

theorem advertise_ops (data : Values) (err : Int) : ops (advertise data err) = [] := by
  unfold advertise
  split <;> rfl

/-- The microphone advertises nothing. -/
theorem mic_silent {α : Type} (actions : List Microphone.Action) {look : ThingyNode.Action → Option α}
    (silent : ∀ action, look (.mic action) = none) : (actions.map ThingyNode.Action.mic).filterMap look = [] := by
  rw [List.filterMap_map]
  exact List.filterMap_eq_nil_iff.mpr fun action _ => silent action

theorem completed_cons (round : Round) (rest : List Round) : completed hundredths (round :: rest) =
    if succeeds hundredths round then round :: completed hundredths rest else [] := by
  rw [completed, List.takeWhile_cons]
  rfl

/-- What an observer who does not look at the microphone sees of the loop. -/
theorem filterMap_loop {α : Type} {look : ThingyNode.Action → Option α} (silent : ∀ action, look (.mic action) = none)
    (rounds : List Round) : (loop hundredths rounds).2.filterMap look =
      (completed hundredths rounds).flatMap fun round =>
        (advertise (described hundredths round) round.advStart).filterMap look := by
  induction rounds with
  | nil => rfl
  | cons round rest ih =>
    rw [loop]
    split
    next failed =>
      have fails : succeeds hundredths round = false := decide_eq_false (Int.not_le.mpr failed)
      rw [mic_silent _ silent, completed_cons, if_neg (by simp [fails])]
      rfl
    next fine =>
      have succeeds' : succeeds hundredths round = true := decide_eq_true (Int.not_lt.mp fine)
      rw [List.filterMap_append, List.filterMap_append, mic_silent _ silent, ih, completed_cons, if_pos succeeds',
        transfer_described succeeds']
      rfl

theorem flatMap_started {α : Type} (rounds : List Round) (air : Round → α) :
    (rounds.flatMap fun round => if round.advStart = 0 then [air round] else []) =
      (rounds.filter fun round => round.advStart == 0).map air := by
  induction rounds with
  | nil => rfl
  | cons round rest ih =>
    rw [List.flatMap_cons, ih, List.filter_cons]
    by_cases started : round.advStart = 0 <;> simp [started]

theorem mic_split (actions : List Microphone.Action) (before after : List ThingyNode.Action) (ad : List BtData)
    (err : Int) : actions.map ThingyNode.Action.mic ≠ before ++ .advStart ad err :: after := by
  intro same
  have member : ThingyNode.Action.advStart ad err ∈ actions.map .mic := by
    rw [same]
    simp
  simp at member

/-- An advertisement in a list of actions lies in one of its parts. -/
theorem split_append {first second before after : List ThingyNode.Action} {action : ThingyNode.Action}
    (split : first ++ second = before ++ action :: after) :
    (∃ rest, first = before ++ action :: rest) ∨ ∃ rest, before = first ++ rest ∧ second = rest ++ action :: after := by
  rcases List.append_eq_append_iff.mp split with ⟨rest, same, later⟩ | ⟨rest, same, later⟩
  · exact Or.inr ⟨rest, same, later⟩
  · cases rest with
    | nil => exact Or.inr ⟨[], by simpa using same.symm, later.symm⟩
    | cons head tail =>
      obtain ⟨rfl, _⟩ := List.cons_eq_cons.mp later
      exact Or.inl ⟨tail, same⟩

theorem loop_runs (rounds : List Round) :
    (loop hundredths rounds).1 = true ↔ ∀ round ∈ rounds, succeeds hundredths round = true := by
  induction rounds with
  | nil => simp [loop]
  | cons round rest ih =>
    rw [loop]
    split
    next failed =>
      have fails : succeeds hundredths round = false := decide_eq_false (Int.not_le.mpr failed)
      simp [fails]
    next fine =>
      have succeeds' : succeeds hundredths round = true := decide_eq_true (Int.not_lt.mp fine)
      simpa only [List.mem_cons, forall_eq_or_imp, succeeds', true_and] using ih

theorem loop_quiet (rounds : List Round) {before after : List ThingyNode.Action} {ad : List BtData} {err : Int}
    (same : (loop hundredths rounds).2 = before ++ .advStart ad err :: after) : Balanced (ops before) := by
  induction rounds generalizing before with
  | nil => simp [loop] at same
  | cons round rest ih =>
    rw [loop] at same
    split at same
    next => exact absurd same (mic_split _ _ _ _ _)
    next fine =>
      have balanced := transfer_balanced (decide_eq_true (Int.not_lt.mp fine) : succeeds hundredths round = true)
      rcases split_append same with ⟨others, within⟩ | ⟨middle, rfl, later⟩
      · exact absurd within (mic_split _ _ _ _ _)
      · rw [ops_append]
        apply (balanced_append balanced).mpr
        have silent := advertise_ops (transfer hundredths round).data round.advStart
        rcases split_append later with ⟨others, within⟩ | ⟨earlier, rfl, last⟩
        · rw [within, ops_append] at silent
          rw [(List.append_eq_nil_iff.mp silent).1]
          exact balanced_nil
        · rw [ops_append, silent]
          exact ih last

theorem loop_describes (rounds : List Round) : Describes hundredths rounds (loop hundredths rounds) where
  runs := loop_runs rounds
  packets := by
    rw [filterMap_loop fun _ => rfl]
    simp only [advertise_packets]
    exact List.map_eq_flatMap.symm
  airs := by
    rw [filterMap_loop fun _ => rfl]
    simp only [advertise_airs]
    exact flatMap_started _ _
  quiet _ _ _ _ same := loop_quiet rounds same

def boots (boot : Boot) : Bool :=
  boot.btEnable == 0 && boot.dmicReady && decide (0 ≤ boot.ledConfigure) && boot.hts221Ready && boot.expanderReady

variable (hundredths) in
/-- Behind a boot without errors the packets that the node hands to `bt_le_adv_start` are,
in order, those of its rounds up to the first failed transfer, each made of its own
round's results, and go on air when the start succeeds; whenever one is handed over, the
stream is stopped and every buffer is freed. -/
theorem rounds_described (boot : Boot) (rounds : List Round) :
    (boots boot = false → main hundredths boot rounds = (false, [])) ∧
      (boots boot = true → Describes hundredths rounds (main hundredths boot rounds)) := by
  obtain ⟨btEnable, dmicReady, ledConfigure, hts221Ready, expanderReady⟩ := boot
  have described := @loop_describes hundredths rounds
  constructor
  · intro failed
    simp only [boots, Bool.and_eq_false_iff, beq_eq_false_iff_ne, decide_eq_false_iff_not, Int.not_le] at failed
    simp only [main]
    split_ifs <;> simp_all
  · intro fine
    simp only [boots, Bool.and_eq_true, beq_iff_eq, decide_eq_true_eq] at fine
    obtain ⟨⟨⟨⟨enabled, dmic⟩, led⟩, hts221⟩, expander⟩ := fine
    simpa [main, enabled, dmic, Int.not_lt.mpr led, hts221, expander] using described

end Dionysus.Proofs.ThingyRounds
