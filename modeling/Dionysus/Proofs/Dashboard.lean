import Dionysus.Proofs.BaseRelay
import Dionysus.Proofs.RadioRuns
import Dionysus.Proofs.Records

/-! From the air to the dashboard. Whatever is advertised and however it interleaves
with the base node, the parser on the PC drops every line, so the point that is
published stays what it was at the start. -/

namespace Dionysus.Proofs.Dashboard
open Base Json Ibeacon Relay RadioRuns

def printedLine : Entry → Option JsonData
  | .printed shown => some shown
  | _ => none

def recordText (shown : JsonData) : Text := objectText (dataStruct.map fun field => (field.1, field.2 shown))

/-- A line as the PC reads it: behind other output of the console, in which no brace
opens, and with or without its line end. -/
def Reads (shown : JsonData) (text : Text) : Prop :=
  ∃ noise blanks, '\x7b' ∉ noise ∧ skipBlank blanks = [] ∧ text = noise ++ recordText shown ++ blanks

/-- The lines of a run as the PC reads them. -/
def Console (trace : List Entry) (texts : List Text) : Prop :=
  List.Forall₂ Reads (trace.filterMap printedLine) texts

/-- `parse_data` on one line after another. -/
def parseLines (array : Slots) (texts : List Text) : Slots :=
  texts.foldl (fun array text => (parseData (.str text) array).2) array

theorem recordText_line (readings : Readings) : ∃ globals : Globals,
    recordText (line readings) = objectText (Records.record globals) :=
  ⟨⟨readings .temp, readings .light, readings .clap, false, false, false⟩, rfl⟩

theorem line_dropped (readings : Readings) {text : Text} (reads : Reads (line readings) text) (array : Slots) :
    parseData (.str text) array = (.dropped, array) := by
  obtain ⟨noise, blanks, noBrace, blank, rfl⟩ := reads
  obtain ⟨globals, same⟩ := recordText_line readings
  rw [same]
  exact Records.record_dropped globals noBrace blank array

theorem parseLines_dropped {lines : List JsonData} (snapshots : ∀ shown ∈ lines, ∃ readings, shown = line readings)
    {texts : List Text} (reads : List.Forall₂ Reads lines texts) (array : Slots) : parseLines array texts = array := by
  induction reads with
  | nil => rfl
  | @cons shown text lines texts reads _ ih =>
    obtain ⟨readings, rfl⟩ := snapshots shown (List.mem_cons_self ..)
    rw [parseLines, List.foldl_cons, line_dropped readings reads]
    exact ih fun other member => snapshots other (List.mem_cons_of_mem _ member)

variable {trace : List Entry} {state : Radio.State}

/-- No run of the air and the base node changes the array of the PC. -/
theorem dashboard_never_moves (reached : Radio.machine.Reaches Guard.free trace state) {texts : List Text}
    (console : Console trace texts) (array : Slots) : parseLines array texts = array := by
  apply parseLines_dropped _ console array
  intro shown member
  obtain ⟨entry, there, same⟩ := List.mem_filterMap.mp member
  cases entry with
  | received packet channel value => cases same
  | printed other =>
    cases same
    obtain ⟨before, after, rfl⟩ := List.append_of_mem there
    exact ⟨_, (lines_show_readings (BaseRelay.refines (base_reached reached))).2 shown before _ after rfl rfl⟩

theorem dashboard_never_moves_claps :
    ∃ trace state texts, Radio.machine.Reaches Guard.free trace state ∧
      texts = [receivedText 3 ++ recordText ⟨0, 0, 3⟩ ++ ['\r', '\n']] ∧ Console trace texts ∧
      parseLines initial texts = initial := by
  obtain ⟨trace, state, reached, found⟩ := Radio.machine.reaches_of_run Guard.free
    [.advStart (Packets.report .clap 3), .deliver 0, .main, .main, .main, .main]
    (fun trace _ => trace == [.received 0 .clap 3, .printed ⟨0, 0, 3⟩]) (by decide)
  obtain rfl := beq_iff_eq.mp found
  have console : Console [.received 0 .clap 3, .printed ⟨0, 0, 3⟩]
      [receivedText 3 ++ recordText ⟨0, 0, 3⟩ ++ ['\r', '\n']] :=
    .cons ⟨receivedText 3, ['\r', '\n'], by decide, rfl, rfl⟩ .nil
  exact ⟨_, state, _, reached, rfl, console, dashboard_never_moves reached console initial⟩

end Dionysus.Proofs.Dashboard
