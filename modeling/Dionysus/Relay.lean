import Dionysus.Base
import Dionysus.History

/-! What the base node is for, without its loop, its flags and its scan: a reading is
kept until the next one on its channel, and a line shows all readings of one moment.
The clap count is used up by the line that shows it. -/

namespace Dionysus.Relay
open Base History

abbrev Readings := Channel → UInt16

inductive Event where
  | receive (packet : Nat) (channel : Channel) (value : UInt16)
  | report
deriving DecidableEq, Repr

def receive (readings : Readings) (channel : Channel) (value : UInt16) : Readings := fun other =>
  if other = channel then value else readings other

def reported (readings : Readings) : Readings := fun channel => if channel = .clap then 0 else readings channel

def line (readings : Readings) : JsonData :=
  ⟨(readings .temp).toNat, (readings .light).toNat, (readings .clap).toNat⟩

def step (readings : Readings) : Event → Option (Readings × List Entry)
  | .receive packet channel value => some (receive readings channel value, [.received packet channel value])
  | .report => some (reported readings, [.printed (line readings)])

def machine : Machine Readings Event Entry := ⟨fun _ => 0, step⟩

/-- The readings that a history leaves. -/
def readings (start : Readings) : List Entry → Readings
  | [] => start
  | .received _ channel value :: rest => readings (receive start channel value) rest
  | .printed _ :: rest => readings (reported start) rest

theorem readings_append (start : Readings) (trace later : List Entry) :
    readings start (trace ++ later) = readings (readings start trace) later := by
  induction trace generalizing start with
  | nil => rfl
  | cons first rest ih => cases first <;> exact ih _

/-- Every line shows the readings of its moment. -/
def ShowsReadings (trace : List Entry) : Prop :=
  ∀ shown, Whenever (· = .printed shown) (fun past => shown = line (readings (fun _ => 0) past)) trace

theorem lines_show_readings {guard : Guard Readings Event Entry} {trace : List Entry} {state : Readings}
    (reached : machine.Reaches guard trace state) :
    state = readings (fun _ => 0) trace ∧ ShowsReadings trace := by
  induction reached with
  | start => exact ⟨rfl, fun _ => whenever_nil⟩
  | @step trace before event after emitted _ _ moved ih =>
    obtain ⟨state, shows⟩ := ih
    cases event with
    | receive packet channel value =>
      cases moved
      refine ⟨by rw [readings_append, ← state]; rfl, fun shown => ?_⟩
      exact whenever_snoc.mpr ⟨shows shown, nofun⟩
    | report =>
      cases moved
      refine ⟨by rw [readings_append, ← state]; rfl, fun shown => ?_⟩
      refine whenever_snoc.mpr ⟨shows shown, ?_⟩
      intro same
      rw [← Entry.printed.inj same, state]

end Dionysus.Relay
