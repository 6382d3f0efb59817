import Dionysus.Proofs.Packets

/-! What a report of any origin can do to the base node. Only the first structure
with the project's prefix and UUID counts, and it stores one value at most. -/

namespace Dionysus.Proofs.GenuineBeacons
open BigEndian Base Packets

/-- Manufacturer data in the form that only the project's nodes send. -/
structure Genuine (data : BtData) : Prop where
  type : data.type = BtData.manufacturerData
  long : 25 ≤ data.dataLen
  begins : iBeaconHeader ++ expectedUuid <+: data.data

/-- The big-endian number in two bytes. -/
def number (data : BtData) (offset : Nat) : Nat :=
  256 * (data.data.getD offset 0).toNat + (data.data.getD (offset + 1) 0).toNat

/-- The globals afterwards: bytes 20 and 21 choose a channel, bytes 22 and 23 are its
value, and everything else stands. -/
def Stores (data : BtData) (before after : Globals) : Prop :=
  ∀ channel,
    after.value channel =
        (if number data 20 = channel.number then UInt16.ofNat (number data 22) else before.value channel) ∧
      after.isNew channel = (if number data 20 = channel.number then true else before.isNew channel)

variable {data : BtData} {ad : List BtData} {globals : Globals}

theorem genuine_iff : Genuine data ↔
    data.type = BtData.manufacturerData ∧ 25 ≤ data.dataLen ∧ data.data.take 20 = iBeaconHeader ++ expectedUuid := by
  have length : (iBeaconHeader ++ expectedUuid).length = 20 := rfl
  constructor
  · intro genuine
    exact ⟨genuine.type, genuine.long, (length ▸ List.prefix_iff_eq_take.mp genuine.begins).symm⟩
  · intro ⟨type, long, begins⟩
    exact ⟨type, long, begins ▸ List.take_prefix 20 data.data⟩

theorem beacon_genuine (genuine : Genuine data) :
    beacon data = some
      (word (data.data.getD 20 0) (data.data.getD 21 0), word (data.data.getD 22 0) (data.data.getD 23 0)) := by
  rw [beacon, if_pos (genuine_iff.mp genuine)]

theorem beacon_stranger (stranger : ¬Genuine data) : beacon data = none := by
  rw [beacon, if_neg (mt genuine_iff.mpr stranger)]

theorem findSome?_strangers (strangers : ∀ data ∈ ad, ¬Genuine data) : ad.findSome? beacon = none := by
  apply List.findSome?_eq_none_iff.mpr
  intro data member
  exact beacon_stranger (strangers data member)

theorem accepted_strangers (strangers : ∀ data ∈ ad, ¬Genuine data) : accepted ad = none := by
  rw [accepted, findSome?_strangers strangers]
  rfl

/-- The first genuine structure decides, whatever follows it. -/
theorem accepted_genuine {before after : List BtData} (strangers : ∀ data ∈ before, ¬Genuine data)
    (genuine : Genuine data) :
    accepted (before ++ data :: after) =
      (Channel.ofMajor (word (data.data.getD 20 0) (data.data.getD 21 0))).map fun channel =>
        (channel, word (data.data.getD 22 0) (data.data.getD 23 0)) := by
  rw [accepted, List.findSome?_append, findSome?_strangers strangers, Option.none_or,
    List.findSome?_cons_of_isSome (by rw [beacon_genuine genuine]; rfl), beacon_genuine genuine]
  simp only [bind, Option.bind_some]
  cases Channel.ofMajor (word (data.data.getD 20 0) (data.data.getD 21 0)) <;> rfl

private theorem word_number (data : BtData) (offset : Nat) :
    word (data.data.getD offset 0) (data.data.getD (offset + 1) 0) = UInt16.ofNat (number data offset) := by
  apply UInt16.toNat_inj.mp
  have high := (data.data.getD offset 0).toNat_lt
  have low := (data.data.getD (offset + 1) 0).toNat_lt
  have fits : number data offset < UInt16.size := by
    show 256 * _ + _ < 65536
    omega
  rw [word_toNat, UInt16.toNat_ofNat_of_lt' fits, number]

private theorem addresses_iff (data : BtData) (channel : Channel) :
    Channel.ofMajor (word (data.data.getD 20 0) (data.data.getD 21 0)) = some channel ↔
      number data 20 = channel.number := by
  rw [ofMajor_eq_some, word_toNat, number]

private theorem stores_genuine {before after : List BtData} (strangers : ∀ data ∈ before, ¬Genuine data)
    (genuine : Genuine data) :
    Stores data globals
      ((accepted (before ++ data :: after)).elim globals fun stored => globals.store stored.1 stored.2) := by
  intro channel
  simp only [accepted_genuine strangers genuine, ← addresses_iff, word_number data 22]
  cases addressed : Channel.ofMajor (word (data.data.getD 20 0) (data.data.getD 21 0)) with
  | none => simp
  | some other =>
    by_cases same : other = channel
    · subst same
      simp
    · have different : channel ≠ other := fun equal => same equal.symm
      simp [same, Globals.value_store_other _ _ _ _ different, Globals.isNew_store_other _ _ _ _ different]

/-- Reading stays inside every structure; a report without a genuine structure
changes nothing, and any other report does what its first genuine structure says. -/
theorem only_genuine_beacons (ad : List BtData) (globals : Globals) :
    (∀ data ∈ ad, ∀ globals, (advDataCb data globals).isSome) ∧
      ∃ final console, deviceFound ad globals = some (final, console) ∧
        ((∀ data ∈ ad, ¬Genuine data) → final = globals) ∧
        ∀ before data after, ad = before ++ data :: after → (∀ other ∈ before, ¬Genuine other) → Genuine data →
          Stores data globals final := by
  constructor
  · intro data _ globals
    rw [advDataCb_eq]
    rfl
  · obtain ⟨console, parsed⟩ := deviceFound_eq ad globals
    refine ⟨_, console, parsed, ?_, ?_⟩
    · intro strangers
      rw [accepted_strangers strangers]
      rfl
    · intro before data after split strangers genuine
      subst split
      exact stores_genuine strangers genuine

end Dionysus.Proofs.GenuineBeacons
