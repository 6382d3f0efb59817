import Dionysus.Base

/-! The air between the advertisers and the base node. A packet may be delivered any
number of times while its advertising window is open. The controller filters
duplicates (`BT_LE_SCAN_OPT_FILTER_DUPLICATE`) within one scan session, which ends
when the polling loop stops the scan to print. -/

namespace Dionysus.Radio
open Base

/-- `onAir` holds the packets whose window is open, `heard` the packets the filter
has passed in the present scan session, `next` the number of the next packet. -/
structure State where
  base : Base.State := {}
  onAir : List (Nat × List BtData) := []
  heard : List Nat := []
  next : Nat := 0
deriving DecidableEq

/-- `bt_le_adv_start` opens the window of a new packet and `bt_le_adv_stop` closes
it; in between the controller may deliver it. -/
inductive Event where
  | advStart (ad : List BtData)
  | advStop (packet : Nat)
  | deliver (packet : Nat)
  | main

def onAir (state : State) (packet : Nat) : Option (List BtData) :=
  (state.onAir.find? fun advertised => advertised.1 == packet).map Prod.snd

def step (state : State) : Event → Option (State × List Entry)
  | .advStart ad => some ({ state with onAir := (state.next, ad) :: state.onAir, next := state.next + 1 }, [])
  | .advStop packet => some ({ state with onAir := state.onAir.filter fun advertised => advertised.1 != packet }, [])
  | .deliver packet =>
    match onAir state packet with
    | none => none
    | some ad =>
      if packet ∈ state.heard then none
      else
        match Base.step state.base (.deviceFound packet ad) with
        | none => none
        | some (base, entries) => some ({ state with base, heard := packet :: state.heard }, entries)
  | .main =>
    let (base, entries) := mainStep state.base
    let heard := if !state.base.scanning && base.scanning then [] else state.heard
    some ({ state with base, heard }, entries)

def machine : Machine State Event Entry := ⟨{}, step⟩

end Dionysus.Radio
