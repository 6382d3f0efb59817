import Dionysus.Thingy
import Dionysus.Proofs.Packets

/-! The Thingy and the base node read the major and minor of a beacon differently:
one packs three truncated measurements into them, the other takes the major for the
number of a channel and the minor for its value. -/

namespace Dionysus.Proofs.BeaconAgreement
open BigEndian Base Thingy

def measured (data : Values) : Channel → UInt16
  | .temp => data.temp
  | .light => data.light
  | .clap => data.clap

def flagged (data : Values) : Channel → Bool
  | .temp => data.newtemp != 0
  | .light => data.newlight != 0
  | .clap => data.newclap != 0

/-- The base took over the flagged measurements of a record and nothing else. -/
def Agrees (data : Values) (before after : Globals) : Prop :=
  ∀ channel,
    if flagged data channel then
      after.value channel = measured data channel ∧ after.isNew channel = true
    else
      after.value channel = before.value channel ∧ after.isNew channel = before.isNew channel

/-- The record's temperature and light, truncated and packed into the major, happen
to spell the number of this channel. -/
def Addresses (data : Values) (channel : Channel) : Prop :=
  data.temp.toNat % 256 = 0 ∧ data.light.toNat % 256 = channel.number

instance (data : Values) (channel : Channel) : Decidable (Addresses data channel) :=
  inferInstanceAs (Decidable (_ ∧ _))

def Coincides (data : Values) : Channel → Prop
  | .temp => False
  | .light => data.light.toNat / 256 = data.clap.toNat % 256
  | .clap => data.clap.toNat = 257

/-- The records and base states for which the two readings agree: the addressed
channel coincides with the packed clap count, or is not flagged and already holds it,
and the base already holds every other flagged measurement. -/
def Fits (data : Values) (base : Globals) : Prop :=
  ∀ channel,
    if Addresses data channel then
      if flagged data channel then Coincides data channel
      else (base.value channel).toNat = 256 * (data.clap.toNat % 256) + 1 ∧ base.isNew channel = true
    else
      flagged data channel = true → base.value channel = measured data channel ∧ base.isNew channel = true

theorem beacon_manufacturerStructure (data : Values) :
    beacon (manufacturerStructure data) = some (majorPart data, minorPart data) := by
  have payload : (manufacturerStructure data).data = beaconTemplate.take 20 ++
      [high (majorPart data), low (majorPart data), high (minorPart data), low (minorPart data), 0xC8] :=
    beaconData_eq data
  rw [beacon, if_pos]
  · simp [payload, beaconTemplate]
  · refine ⟨rfl, ?_, ?_⟩
    · simp [BtData.dataLen, payload, beaconTemplate]
    · simp [payload, beaconTemplate, iBeaconHeader, expectedUuid]

theorem ofMajor_majorPart (data : Values) (channel : Channel) :
    Channel.ofMajor (majorPart data) = some channel ↔ Addresses data channel := by
  rw [Packets.ofMajor_eq_some, majorPart_toNat]
  cases channel <;> simp only [Channel.number, Addresses] <;> omega

theorem handled_beacon (data : Values) (base : Globals) :
    ∃ handled, advDataCb (manufacturerStructure data) base = some handled ∧
      ∀ channel,
        handled.globals.value channel = (if Addresses data channel then minorPart data else base.value channel) ∧
        handled.globals.isNew channel = (if Addresses data channel then true else base.isNew channel) := by
  obtain ⟨console, handled⟩ := Packets.advDataCb_beacon base (beacon_manufacturerStructure data)
  refine ⟨_, handled, fun channel => ?_⟩
  simp only [← ofMajor_majorPart]
  cases addressed : Channel.ofMajor (majorPart data) with
  | none => simp
  | some other =>
    by_cases same : channel = other
    · subst other
      simp
    · have different : ¬other = channel := fun equal => same equal.symm
      simp [different, Globals.value_store_other _ _ _ _ same, Globals.isNew_store_other _ _ _ _ same]

private theorem coincides_iff (data : Values) (channel : Channel) (addressed : Addresses data channel) :
    minorPart data = measured data channel ↔ Coincides data channel := by
  rw [← UInt16.toNat_inj, minorPart_toNat]
  obtain ⟨temp, light⟩ := addressed
  cases channel <;> simp only [measured, Coincides, Channel.number] at light ⊢
  case temp =>
    -- a multiple of 256 is never the packed clap count, whose low byte is 1
    exact iff_of_false (by omega) id
  case light => omega
  case clap =>
    have := data.clap.toNat_lt
    omega

private theorem held_iff (data : Values) (base : Globals) (channel : Channel) :
    minorPart data = base.value channel ↔ (base.value channel).toNat = 256 * (data.clap.toNat % 256) + 1 := by
  rw [← UInt16.toNat_inj, minorPart_toNat]
  exact eq_comm

/-- Feeding a Thingy record's beacon to the base node carries the record over exactly
for the records and states that fit. -/
theorem beacon_agreement (data : Values) (base : Globals) :
    (∃ handled, advDataCb (manufacturerStructure data) base = some handled ∧
      Agrees data base handled.globals) ↔ Fits data base := by
  obtain ⟨handled, result, effect⟩ := handled_beacon data base
  have unique : (∃ handled, advDataCb (manufacturerStructure data) base = some handled ∧
      Agrees data base handled.globals) ↔ Agrees data base handled.globals := by
    simp [result]
  rw [unique, Agrees, Fits]
  apply forall_congr'
  intro channel
  rw [(effect channel).1, (effect channel).2]
  by_cases addressed : Addresses data channel
  · cases flag : flagged data channel with
    | true => simp [addressed, coincides_iff data channel addressed]
    | false => simp only [addressed, ↓reduceIte, Bool.false_eq_true, held_iff, @eq_comm _ true]
  · cases flag : flagged data channel <;> simp [addressed]

theorem warm_bright_room_ignored :
    ¬∃ handled, advDataCb (manufacturerStructure { temp := 2350, light := 300, newtemp := 1, newlight := 1 }) {} =
        some handled ∧
      Agrees { temp := 2350, light := 300, newtemp := 1, newlight := 1 } {} handled.globals := by
  intro carried
  obtain ⟨handled, result, agrees⟩ := carried
  have ignored : advDataCb (manufacturerStructure { temp := 2350, light := 300, newtemp := 1, newlight := 1 }) {} =
      some ⟨false, {}, []⟩ := by decide
  cases ignored.symm.trans result
  have temp := agrees .temp
  rw [if_pos (by decide)] at temp
  exact absurd temp.1 (by decide)

end Dionysus.Proofs.BeaconAgreement
