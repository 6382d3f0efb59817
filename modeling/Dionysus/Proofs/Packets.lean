import Dionysus.Base

/-! What one advertisement report does to the base node's globals. -/

namespace Dionysus.Proofs.Packets
open BigEndian Base

theorem sameBytes_eq (payload : List UInt8) (expected : List UInt8) (offset : Nat)
    (inside : offset + expected.length ≤ payload.length) :
    sameBytes payload offset expected = some (decide ((payload.drop offset).take expected.length = expected)) := by
  induction expected generalizing offset with
  | nil => simp [sameBytes]
  | cons byte rest ih =>
    rw [List.length_cons] at inside
    have position : offset < payload.length := by omega
    rw [List.drop_eq_getElem_cons position, List.length_cons, List.take_succ_cons]
    simp only [sameBytes, List.getElem?_eq_getElem position, bind, Option.bind_some, List.cons.injEq, Bool.decide_and]
    by_cases same : payload[offset] = byte
    · simp only [same, ↓reduceIte, decide_true, Bool.true_and]
      exact ih (offset + 1) (by omega)
    · simp [same]

theorem bigEndianAt_eq (payload : List UInt8) (offset : Nat) (inside : offset + 1 < payload.length) :
    bigEndianAt payload offset = some (word (payload.getD offset 0) (payload.getD (offset + 1) 0)) := by
  simp only [bigEndianAt, List.getD_eq_getElem?_getD, List.getElem?_eq_getElem inside,
    List.getElem?_eq_getElem (show offset < payload.length by omega), bind, Option.bind_some, Option.getD_some]
  rfl

private theorem header_and_uuid (payload : List UInt8) (long : 25 ≤ payload.length) :
    payload.take 20 = iBeaconHeader ++ expectedUuid ↔
      (payload.drop 0).take 4 = iBeaconHeader ∧ (payload.drop 4).take 16 = expectedUuid := by
  rw [show payload.take 20 = payload.take 4 ++ (payload.drop 4).take 16 by
    rw [← List.take_add]]
  constructor
  · intro same
    exact List.append_inj same (by simp [iBeaconHeader]; omega)
  · intro compared
    obtain ⟨header, uuid⟩ := compared
    rw [uuid, ← header, List.drop_zero]

private theorem branches_eq (globals : Globals) (major minor : UInt16) :
    (if major = 0 then
      some (⟨false, { globals with temp := minor, newTemp := true }, receivedText minor⟩ : Handled)
    else if major = 1 then
      some ⟨false, { globals with light := minor, newLight := true }, receivedText minor⟩
    else if major = 2 then
      some ⟨false, { globals with clap := minor, newClap := true }, receivedText minor⟩
    else some ⟨false, globals, []⟩) =
    some (match Channel.ofMajor major with
      | none => ⟨false, globals, []⟩
      | some channel => ⟨false, globals.store channel minor, receivedText minor⟩) := by
  unfold Channel.ofMajor
  by_cases zero : major = 0
  · simp [zero, Globals.store]
  · by_cases one : major = 1
    · simp [one, Globals.store]
    · by_cases two : major = 2
      · simp [two, Globals.store]
      · simp [zero, one, two]

/-- The whole of what the callback does: it never reads outside a structure, passes
over what is no beacon, and stops at a beacon, storing under the channel its major
names. -/
theorem advDataCb_eq (data : BtData) (globals : Globals) :
    advDataCb data globals = some (match beacon data with
      | none => ⟨true, globals, []⟩
      | some (major, minor) => match Channel.ofMajor major with
        | none => ⟨false, globals, []⟩
        | some channel => ⟨false, globals.store channel minor, receivedText minor⟩) := by
  by_cases candidate : data.type = BtData.manufacturerData ∧ 25 ≤ data.data.length
  · obtain ⟨kind, long⟩ := candidate
    have enter : ¬(data.type ≠ BtData.manufacturerData ∨ data.dataLen < 25) := by
      simp only [kind, BtData.dataLen, ne_eq, not_true_eq_false, false_or]
      omega
    have header := sameBytes_eq data.data iBeaconHeader 0 (by simp [iBeaconHeader]; omega)
    have uuid := sameBytes_eq data.data expectedUuid 4 (by simp [expectedUuid]; omega)
    rw [show iBeaconHeader.length = 4 from rfl] at header
    rw [show expectedUuid.length = 16 from rfl] at uuid
    rw [advDataCb, if_neg enter]
    simp only [beacon, kind, BtData.dataLen, long, true_and, header_and_uuid data.data long, header, uuid,
      bigEndianAt_eq data.data 20 (by omega), bigEndianAt_eq data.data 22 (by omega), bind, Option.bind_some]
    by_cases sameHeader : (data.data.drop 0).take 4 = iBeaconHeader
    · by_cases sameUuid : (data.data.drop 4).take 16 = expectedUuid
      · simp only [sameHeader, sameUuid, decide_true, and_self, ↓reduceIte, Bool.true_eq_false]
        exact branches_eq globals _ _
      · simp only [sameHeader, sameUuid, decide_true, decide_false, Bool.true_eq_false, and_false, ↓reduceIte]
    · simp only [sameHeader, decide_false, false_and, ↓reduceIte]
  · have leave : data.type ≠ BtData.manufacturerData ∨ data.dataLen < 25 := by
      by_cases kind : data.type = BtData.manufacturerData
      · exact Or.inr (Nat.lt_of_not_le fun long => candidate ⟨kind, long⟩)
      · exact Or.inl kind
    have none : beacon data = none := by
      rw [beacon, if_neg]
      exact fun found => candidate ⟨found.1, found.2.1⟩
    rw [advDataCb, if_pos leave, none]

theorem advDataCb_beacon {data : BtData} {major minor : UInt16} (globals : Globals)
    (found : beacon data = some (major, minor)) :
    ∃ console, advDataCb data globals = some ⟨false,
      ((Channel.ofMajor major).elim globals fun channel => globals.store channel minor), console⟩ := by
  rw [advDataCb_eq, found]
  cases channel : Channel.ofMajor major with
  | none => exact ⟨[], by simp [channel]⟩
  | some channel => exact ⟨receivedText minor, by simp [*]⟩

theorem deviceFound_eq (ad : List BtData) (globals : Globals) :
    ∃ console, deviceFound ad globals = some
      ((accepted ad).elim globals fun stored => globals.store stored.1 stored.2, console) := by
  induction ad with
  | nil => exact ⟨[], rfl⟩
  | cons data rest ih =>
    cases found : beacon data with
    | none =>
      obtain ⟨console, parsed⟩ := ih
      refine ⟨console, ?_⟩
      simp [deviceFound, advDataCb_eq, found, parsed, accepted]
    | some packet =>
      obtain ⟨major, minor⟩ := packet
      obtain ⟨console, handled⟩ := advDataCb_beacon globals found
      refine ⟨console, ?_⟩
      cases channel : Channel.ofMajor major <;>
        simp [deviceFound, handled, accepted, found, channel]

theorem ofMajor_eq_some (major : UInt16) (channel : Channel) :
    Channel.ofMajor major = some channel ↔ major.toNat = channel.number := by
  have zero : major = 0 ↔ major.toNat = 0 := UInt16.toNat_inj.symm
  have one : major = 1 ↔ major.toNat = 1 := UInt16.toNat_inj.symm
  have two : major = 2 ↔ major.toNat = 2 := UInt16.toNat_inj.symm
  simp only [Channel.ofMajor, zero, one, two]
  cases channel <;> simp only [Channel.number] <;> (repeat' split) <;> simp <;> omega

def report (channel : Channel) (value : UInt16) : List BtData :=
  [⟨BtData.manufacturerData,
    iBeaconHeader ++ expectedUuid ++ [0, UInt8.ofNat (channel.number), high value, low value, 0xC8],
    by simp [iBeaconHeader, expectedUuid]⟩]

end Dionysus.Proofs.Packets
