import Dionysus.Radio
import Dionysus.Proofs.BaseRuns

/-! Steps of the air and the base node together. The air decides which reports reach
the base node and when, and adds nothing to its runs. -/

namespace Dionysus.Proofs.RadioRuns
open Base

inductive Moves (before : Radio.State) : Radio.Event → Radio.State → List Entry → Prop where
  | advStart (ad : List BtData) :
      Moves before (.advStart ad)
        { before with onAir := (before.next, ad) :: before.onAir, next := before.next + 1 } []
  | advStop (packet : Nat) :
      Moves before (.advStop packet)
        { before with onAir := before.onAir.filter fun advertised => advertised.1 != packet } []
  | deliver {packet ad base emitted} (aired : (packet, ad) ∈ before.onAir)
      (handled : machine.step before.base (.deviceFound packet ad) = some (base, emitted)) :
      Moves before (.deliver packet) { before with base, heard := packet :: before.heard } emitted
  | main {base emitted heard} (ran : machine.step before.base .main = some (base, emitted)) :
      Moves before .main { before with base, heard } emitted

theorem onAir_mem {state : Radio.State} {packet : Nat} {ad : List BtData} (aired : Radio.onAir state packet = some ad) :
    (packet, ad) ∈ state.onAir := by
  obtain ⟨⟨number, found⟩, first, rfl⟩ := Option.map_eq_some_iff.mp aired
  have named := List.find?_some first
  obtain rfl : number = packet := beq_iff_eq.mp named
  exact List.mem_of_find?_eq_some first

theorem step_moves {before after : Radio.State} {event : Radio.Event} {emitted : List Entry}
    (moved : Radio.machine.step before event = some (after, emitted)) : Moves before event after emitted := by
  cases event with
  | advStart ad =>
    cases moved
    exact .advStart ad
  | advStop packet =>
    cases moved
    exact .advStop packet
  | main =>
    cases moved
    exact .main rfl
  | deliver packet =>
    simp only [Radio.machine, Radio.step] at moved
    split at moved
    next => cases moved
    next ad aired =>
      split at moved
      next => cases moved
      next =>
        split at moved
        next => cases moved
        next base entries handled =>
          cases moved
          exact .deliver (onAir_mem aired) handled

/-- Every run of the air is a run of the base node. -/
theorem base_reached {guard : Guard Radio.State Radio.Event Entry} {trace : List Entry} {state : Radio.State}
    (reached : Radio.machine.Reaches guard trace state) : machine.Reaches Guard.free trace state.base := by
  apply reached.project Radio.State.base rfl
  intro trace before event after emitted _ moved
  cases step_moves moved with
  | advStart ad | advStop packet => exact Or.inl ⟨rfl, rfl⟩
  | deliver aired handled => exact Or.inr ⟨_, trivial, handled⟩
  | main ran => exact Or.inr ⟨_, trivial, ran⟩

end Dionysus.Proofs.RadioRuns
