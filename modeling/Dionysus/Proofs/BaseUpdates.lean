import Dionysus.Proofs.BaseRuns

/-! The base node relays the last value of every channel. A value is either still
held under its flag or has been printed since it arrived, for every interleaving of
the callback with the polling loop. -/

namespace Dionysus.Proofs.BaseUpdates
open Base BaseRuns

/-- The last value the trace received on a channel, and what happened since. -/
def LastReceived (trace : List Entry) (channel : Channel) (value : UInt16) (since : List Entry) : Prop :=
  ∃ before packet, trace = before ++ .received packet channel value :: since ∧
    ∀ packet value, .received packet channel value ∉ since

def Appeared (channel : Channel) (value : UInt16) (since : List Entry) : Prop :=
  ∃ line, .printed line ∈ since ∧ line.field channel = (value.toNat : Int)

theorem Appeared.append {channel : Channel} {value : UInt16} {since : List Entry}
    (appeared : Appeared channel value since) (later : List Entry) : Appeared channel value (since ++ later) := by
  obtain ⟨line, member, shown⟩ := appeared
  exact ⟨line, List.mem_append.mpr (Or.inl member), shown⟩

theorem LastReceived.of_snoc {trace : List Entry} {entry : Entry} {channel : Channel} {value : UInt16}
    {since : List Entry} (last : LastReceived (trace ++ [entry]) channel value since) :
    (∃ packet, entry = .received packet channel value ∧ since = []) ∨
      ∃ earlier, LastReceived trace channel value earlier ∧ since = earlier ++ [entry] := by
  obtain ⟨before, packet, split, none⟩ := last
  rcases List.eq_nil_or_concat since with rfl | ⟨earlier, final, rfl⟩
  · obtain ⟨-, same⟩ := List.append_inj' split rfl
    exact Or.inl ⟨packet, List.head_eq_of_cons_eq same, rfl⟩
  · rw [List.concat_eq_append, ← List.cons_append, ← List.append_assoc] at split
    obtain ⟨rfl, same⟩ := List.append_inj' split rfl
    obtain rfl := List.head_eq_of_cons_eq same
    refine Or.inr ⟨earlier, ⟨before, packet, rfl, ?_⟩, List.concat_eq_append⟩
    intro packet value member
    exact none packet value (by simp [member])

theorem LastReceived.of_received {trace : List Entry} {packet : Nat} {other channel : Channel}
    {stored value : UInt16} {since : List Entry}
    (last : LastReceived (trace ++ [.received packet other stored]) channel value since) :
    (channel = other ∧ value = stored) ∨
      channel ≠ other ∧ ∃ earlier, LastReceived trace channel value earlier ∧
        since = earlier ++ [.received packet other stored] := by
  rcases last.of_snoc with ⟨_, same, -⟩ | ⟨earlier, old, rfl⟩
  · cases same
    exact Or.inl ⟨rfl, rfl⟩
  · refine Or.inr ⟨?_, earlier, old, rfl⟩
    intro same
    subst same
    obtain ⟨_, _, -, none⟩ := last
    exact none packet stored (by simp)

structure Kept (trace : List Entry) (state : State) : Prop where
  held : ∀ channel value since, LastReceived trace channel value since →
    (state.globals.isNew channel = true ∧ state.globals.value channel = value) ∨ Appeared channel value since
  printed : settled state.point = true → ∀ channel value since, LastReceived trace channel value since →
    Appeared channel value since

private theorem Kept.print {trace : List Entry} {before : State} (kept : Kept trace before)
    {channel : Channel} {value : UInt16} {since : List Entry}
    (last : LastReceived (trace ++ [.printed (jsonPrint before.globals).2.data]) channel value since) :
    Appeared channel value since := by
  rcases last.of_snoc with ⟨_, impossible, -⟩ | ⟨earlier, old, rfl⟩
  · cases impossible
  · rcases kept.held channel value earlier old with ⟨-, rfl⟩ | appeared
    · exact ⟨_, by simp, jsonPrint_field before.globals channel⟩
    · exact appeared.append _

private theorem Kept.receive {trace : List Entry} {before : State} (kept : Kept trace before)
    {packet : Nat} {other channel : Channel} {stored value : UInt16} {since : List Entry}
    (last : LastReceived (trace ++ [.received packet other stored]) channel value since) :
    ((before.globals.store other stored).isNew channel = true ∧
      (before.globals.store other stored).value channel = value) ∨ Appeared channel value since := by
  rcases last.of_received with ⟨rfl, rfl⟩ | ⟨different, earlier, old, rfl⟩
  · exact Or.inl ⟨by simp, by simp⟩
  · rw [Globals.isNew_store_other _ _ _ _ different, Globals.value_store_other _ _ _ _ different]
    exact (kept.held channel value earlier old).imp_right fun appeared => appeared.append _

private theorem Kept.clear {trace : List Entry} {before : State} (kept : Kept trace before)
    (cleared' : settled before.point = true) (channel : Channel) {point : Point} :
    Kept trace { before with globals := cleared before.globals channel, point } :=
  ⟨fun other value since last => Or.inr (kept.printed cleared' other value since last),
    fun _ other value since last => kept.printed cleared' other value since last⟩

theorem kept {guard : Guard State Event Entry} {trace : List Entry} {state : State}
    (reached : machine.Reaches guard trace state) : Kept trace state := by
  induction reached with
  | start =>
    constructor
    · intro channel value since last
      obtain ⟨before, packet, impossible, -⟩ := last
      simp at impossible
    · intro impossible
      cases impossible
  | step reached allowed moved ih =>
    cases step_moves moved with
    | test awake | start awake =>
      rw [List.append_nil]
      exact ⟨ih.held, fun printed => absurd (settled_quiet printed) (by simp [awake])⟩
    | stop unprinted =>
      rw [List.append_nil]
      exact ⟨ih.held, fun printed => absurd printed (by simp [unprinted])⟩
    | print stopped =>
      exact ⟨fun _ _ _ last => Or.inr (ih.print last), fun _ _ _ _ last => ih.print last⟩
    | clear channel printed =>
      rw [List.append_nil]
      exact ih.clear printed channel
    | ignored nothing =>
      rw [List.append_nil]
      exact ih
    | received scanning delivered =>
      refine ⟨fun _ _ _ last => ih.receive last, fun printed => ?_⟩
      exact absurd (quiet_not_scanning reached (settled_quiet printed)) (by simp [scanning])

/-- No update is lost: once its flag is down the last value of a channel has been
printed since it was received, and while its flag is up the global still holds it or
it has been printed already. -/
theorem no_lost_update {trace : List Entry} {state : State} (reached : machine.Reaches Guard.free trace state)
    {channel : Channel} {value : UInt16} {since : List Entry} (last : LastReceived trace channel value since) :
    (state.globals.isNew channel = false → Appeared channel value since) ∧
    (state.globals.isNew channel = true →
      state.globals.value channel = value ∨ Appeared channel value since) := by
  rcases (kept reached).held channel value since last with ⟨flag, holds⟩ | appeared
  · exact ⟨fun down => absurd flag (by simp [down]), fun _ => Or.inl holds⟩
  · exact ⟨fun _ => appeared, fun _ => Or.inr appeared⟩

theorem temperature_printed_with_light :
    ∃ trace state since, machine.Reaches Guard.free trace state ∧ LastReceived trace .temp 2350 since ∧
      state.globals.isNew .temp = false ∧ Appeared .temp 2350 since := by
  have executed : machine.run Guard.free [] machine.initial
      [.deviceFound 0 (Packets.report .temp 2350), .deviceFound 1 (Packets.report .light 300),
        .main, .main, .main, .main, .main, .main, .main] =
      some ([.received 0 .temp 2350, .received 1 .light 300, .printed ⟨2350, 300, 0⟩],
        { globals := { temp := 2350, light := 300 }, point := .testClap }) := by decide
  have reached := Machine.Reaches.start.run executed
  have last : LastReceived [.received 0 .temp 2350, .received 1 .light 300, .printed ⟨2350, 300, 0⟩] .temp 2350
      [.received 1 .light 300, .printed ⟨2350, 300, 0⟩] := ⟨[], 0, rfl, by simp⟩
  exact ⟨_, _, _, reached, last, rfl, (no_lost_update reached last).1 rfl⟩

end Dionysus.Proofs.BaseUpdates
