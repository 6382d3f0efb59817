import Dionysus.Ledger
import Dionysus.Thingy

/-! The microphone of the Thingy:52 (`do_pdm_transfer` in `Project/Thingy52/src/main.c`),
with the results of the driver as its input and the calls it makes as part of its
output. -/

namespace Dionysus.Microphone
open Thingy

def maxSampleRate : Nat := 16000

def bytesPerSample : Nat := 2

def blockSize (sampleRate numberOfChannels : Nat) : Nat := bytesPerSample * (sampleRate / 10) * numberOfChannels

def blockCount : Nat := 4

/-- What a `dmic_read` that succeeds hands over: a buffer of the slab, the bytes in
it, and its memory as 16-bit samples. -/
structure Block where
  buffer : Nat
  size : Nat
  samples : Nat → Int16

structure Driver where
  configure : Int
  start : Int
  read : Nat → Int × Block
  stop : Int

inductive Action where
  | configure
  | start
  | buffer (op : Ledger.Op Nat)
  | stop
deriving DecidableEq, Repr

structure Transfer where
  ret : Int
  data : Values
  actions : List Action

def Block.sampleCount (block : Block) : Nat := block.size / bytesPerSample

/-- The samples the loop looks at. -/
def Block.delivered (block : Block) : List Int16 := (List.range block.sampleCount).map block.samples

/-- `abs` takes the sample as an `int`. -/
def loud (sample : Int16) : Bool := decide (sample.toInt.natAbs > 10000)

def detectClap (data : Values) (sample : Int16) : Values :=
  if loud sample then { data with clap := data.clap + 1, newclap := 1 } else data

def handleBlock (block : Block) : List Action :=
  .buffer (.acquire block.buffer) :: List.replicate block.sampleCount (.buffer (.use block.buffer)) ++
    [.buffer (.release block.buffer)]

/-- The loop from its `i`-th iteration on, and the STOP trigger behind it. -/
def readBlocks (driver : Driver) : Nat → Nat → Values → Transfer
  | 0, _, data => ⟨driver.stop, data, [.stop]⟩
  | remaining + 1, i, data =>
    if (driver.read i).1 < 0 then ⟨(driver.read i).1, data, []⟩
    else
      { readBlocks driver remaining (i + 1) ((driver.read i).2.delivered.foldl detectClap data) with
        actions := handleBlock (driver.read i).2 ++
          (readBlocks driver remaining (i + 1) ((driver.read i).2.delivered.foldl detectClap data)).actions }

def doPdmTransfer (driver : Driver) (blockCount : Nat) (data : Values) : Transfer :=
  if driver.configure < 0 then ⟨driver.configure, data, [.configure]⟩
  else if driver.start < 0 then ⟨driver.start, data, [.configure, .start]⟩
  else
    { readBlocks driver blockCount 0 data with
      actions := .configure :: .start :: (readBlocks driver blockCount 0 data).actions }

end Dionysus.Microphone
