import Dionysus.Proofs.BaseLines
import Dionysus.Proofs.BaseRelay
import Dionysus.Proofs.BeaconAgreement
import Dionysus.Proofs.GenuineBeacons
import Dionysus.Proofs.RadioRuns

/-! From the Thingys through the air to the console. The base node takes the packed
major for a channel and the packed minor for its value, so no reading comes through:
what it prints are clap bytes, and as a rule it prints nothing. -/

namespace Dionysus.Proofs.Pipeline
open Base Thingy Relay History BeaconAgreement GenuineBeacons RadioRuns BaseLines

/-- A packet of a Thingy with such a record, or one that is not the project's. -/
def Airs (allowed : Values → Prop) (ad : List BtData) : Prop :=
  (∃ data, allowed data ∧ ad = advertiseThingy data) ∨ ∀ structure' ∈ ad, ¬Genuine structure'

/-- Who else advertises, no one else does it in the project's name. -/
def Thingys (allowed : Values → Prop) : Guard Radio.State Radio.Event Entry := fun _ _ event =>
  match event with
  | .advStart ad => Airs allowed ad
  | _ => True

variable {allowed : Values → Prop} {trace : List Entry} {state : Radio.State}

theorem accepted_advertiseThingy (data : Values) :
    accepted (advertiseThingy data) =
      (Channel.ofMajor (majorPart data)).map fun channel => (channel, minorPart data) := by
  have first : (advertiseThingy data).findSome? beacon = some (majorPart data, minorPart data) := by
    rw [advertiseThingy, List.findSome?_cons, List.findSome?_cons, beacon_manufacturerStructure]
    rfl
  rw [accepted, first]
  simp only [bind, Option.bind_some]
  cases Channel.ofMajor (majorPart data) <;> rfl

/-- The value came out of a record that happens to address its channel. -/
def FromRecord (allowed : Values → Prop) (channel : Channel) (value : UInt16) : Prop :=
  ∃ data, allowed data ∧ Addresses data channel ∧ value = minorPart data

theorem accepted_airs {ad : List BtData} (airs : Airs allowed ad) {channel : Channel} {value : UInt16}
    (delivered : accepted ad = some (channel, value)) : FromRecord allowed channel value := by
  rcases airs with ⟨data, holds, rfl⟩ | strangers
  · rw [accepted_advertiseThingy] at delivered
    obtain ⟨other, addressed, same⟩ := Option.map_eq_some_iff.mp delivered
    obtain ⟨rfl, rfl⟩ := Prod.mk.inj same
    exact ⟨data, holds, (ofMajor_majorPart data other).mp addressed, rfl⟩
  · rw [accepted_strangers strangers] at delivered
    cases delivered

structure Carries (allowed : Values → Prop) (trace : List Entry) (state : Radio.State) : Prop where
  airs : ∀ advertised ∈ state.onAir, Airs allowed advertised.2
  received : ∀ packet channel value, .received packet channel value ∈ trace → FromRecord allowed channel value

theorem carries (reached : Radio.machine.Reaches (Thingys allowed) trace state) : Carries allowed trace state := by
  apply reached.invariant ⟨nofun, nofun⟩
  intro trace before event after emitted held allowed' moved
  cases step_moves moved with
  | advStart ad =>
    rw [List.append_nil]
    refine ⟨?_, held.received⟩
    intro advertised member
    rcases List.mem_cons.mp member with rfl | old
    · exact allowed'
    · exact held.airs advertised old
  | advStop packet =>
    rw [List.append_nil]
    exact ⟨fun advertised member => held.airs advertised (List.mem_filter.mp member).1, held.received⟩
  | @deliver packet ad base emitted aired handled =>
    refine ⟨held.airs, ?_⟩
    intro number channel value member
    rcases List.mem_append.mp member with old | new
    · exact held.received number channel value old
    · cases BaseRuns.step_moves handled with
      | ignored _ => cases new
      | received _ delivered =>
        cases List.mem_singleton.mp new
        exact accepted_airs (held.airs _ aired) delivered
  | main ran =>
    refine ⟨held.airs, ?_⟩
    intro number channel value member
    rcases List.mem_append.mp member with old | new
    · exact held.received number channel value old
    · cases BaseRuns.step_moves ran with
      | print _ => simp at new
      | _ => cases new

/-- A reading is 0 or was received. -/
theorem readings_received (start : Readings) (trace : List Entry) (channel : Channel) :
    readings start trace channel = start channel ∨ readings start trace channel = 0 ∨
      ∃ packet, .received packet channel (readings start trace channel) ∈ trace := by
  induction trace generalizing start with
  | nil => exact Or.inl rfl
  | cons first rest ih =>
    cases first with
    | received packet other value =>
      rcases ih (receive start other value) with kept | none' | ⟨number, member⟩
      · simp only [readings, kept]
        by_cases same : channel = other
        · subst same
          refine Or.inr (Or.inr ⟨packet, ?_⟩)
          simp [receive]
        · exact Or.inl (by simp [receive, same])
      · exact Or.inr (Or.inl none')
      · exact Or.inr (Or.inr ⟨number, List.mem_cons_of_mem _ member⟩)
    | printed shown =>
      rcases ih (reported start) with kept | none' | ⟨number, member⟩
      · simp only [readings, kept]
        by_cases clap : channel = .clap
        · exact Or.inr (Or.inl (by simp [reported, clap]))
        · exact Or.inl (by simp [reported, clap])
      · exact Or.inr (Or.inl none')
      · exact Or.inr (Or.inr ⟨number, List.mem_cons_of_mem _ member⟩)

theorem line_field (readings : Readings) (channel : Channel) :
    (line readings).field channel = (readings channel).toNat := by
  cases channel <;> rfl

/-- Every number on the console is 0 or the clap byte of a record, in front of a byte 1,
on a channel that the record's temperature and light happen to address. -/
theorem lines_carry_clap_bytes (reached : Radio.machine.Reaches (Thingys allowed) trace state) :
    ∀ shown, .printed shown ∈ trace → ∀ channel, shown.field channel = 0 ∨
      ∃ data, allowed data ∧ Addresses data channel ∧
        shown.field channel = 256 * (data.clap.toNat % 256 : Int) + 1 := by
  intro shown member channel
  obtain ⟨before, after, rfl⟩ := List.append_of_mem member
  rw [(lines_show_readings (BaseRelay.refines (base_reached reached))).2 shown before _ after rfl rfl, line_field]
  rcases readings_received (fun _ => 0) before channel with none' | none' | ⟨packet, old⟩
  · exact Or.inl (by rw [none']; rfl)
  · exact Or.inl (by rw [none']; rfl)
  · obtain ⟨data, holds, addressed, same⟩ := (carries reached).received packet channel _
      (List.mem_append.mpr (Or.inl old))
    refine Or.inr ⟨data, holds, addressed, ?_⟩
    rw [same, minorPart_toNat]
    omega

/-- Only this advertisement goes on air. -/
def airing (ad : List BtData) : Guard Radio.State Radio.Event Entry := fun _ _ event =>
  match event with
  | .advStart other => other = ad
  | _ => True

instance (ad : List BtData) (trace : List Entry) (state : Radio.State) (event : Radio.Event) :
    Decidable (airing ad trace state event) :=
  match event with
  | .advStart other => inferInstanceAs (Decidable (other = ad))
  | .advStop _ | .deliver _ | .main => inferInstanceAs (Decidable True)

theorem thingys_of_airing {data : Values}
    (reached : Radio.machine.Reaches (airing (advertiseThingy data)) trace state) :
    Radio.machine.Reaches (Thingys (· = data)) trace state := by
  apply reached.mono
  intro trace state event airing'
  cases event with
  | advStart ad => exact Or.inl ⟨data, rfl, airing'⟩
  | advStop packet | deliver packet | main => trivial

/-- 2.56 degrees and two lux spell the channel of the claps: seven claps read 1793. -/
theorem lines_carry_clap_bytes_seven :
    ∃ trace state, Radio.machine.Reaches (Thingys (· = { temp := 256, light := 2, clap := 7 })) trace state ∧
      .printed ⟨0, 0, 1793⟩ ∈ trace ∧
      ∀ shown, .printed shown ∈ trace → ∀ channel, shown.field channel = 0 ∨
        ∃ data, data = { temp := 256, light := 2, clap := 7 } ∧ Addresses data channel ∧
          shown.field channel = 256 * (data.clap.toNat % 256 : Int) + 1 := by
  obtain ⟨trace, state, reached, found⟩ := Radio.machine.reaches_of_run
    (airing (advertiseThingy { temp := 256, light := 2, clap := 7 }))
    [.advStart (advertiseThingy { temp := 256, light := 2, clap := 7 }), .deliver 0, .main, .main, .main, .main]
    (fun trace _ => decide (.printed ⟨0, 0, 1793⟩ ∈ trace)) (by decide)
  have reached' := thingys_of_airing reached
  exact ⟨trace, state, reached', of_decide_eq_true found, lines_carry_clap_bytes reached'⟩

/-- As long as no temperature is a multiple of 256 hundredths of a degree, the base node
receives nothing and prints nothing. -/
theorem base_stays_silent (odd : ∀ data, allowed data → data.temp.toNat % 256 ≠ 0)
    (reached : Radio.machine.Reaches (Thingys allowed) trace state) : trace = [] := by
  have unreceived : ∀ packet channel value, .received packet channel value ∉ trace := by
    intro packet channel value member
    obtain ⟨data, holds, addressed, -⟩ := (carries reached).received packet channel value member
    exact odd data holds addressed.1
  have none' : ∀ channel, packets channel trace = 0 := by
    intro channel
    apply total_eq_zero.mpr
    intro entry there
    cases entry with
    | received packet other value => exact absurd there (unreceived packet other value)
    | printed shown => rfl
  have few := lines_paid (base_reached reached) (show Channel.temp ≠ .clap by decide)
  rw [none' .clap, none' .temp] at few
  have unprinted := total_eq_zero.mp (Nat.le_zero.mp few)
  apply List.eq_nil_iff_forall_not_mem.mpr
  intro entry member
  cases entry with
  | received packet channel value => exact unreceived packet channel value member
  | printed shown => exact absurd (unprinted _ member) Nat.one_ne_zero

/-- 23.5 degrees, 300 lux and three claps are delivered and leave no trace. -/
theorem base_stays_silent_warm_bright_room :
    ∃ trace state, Radio.machine.Reaches (Thingys (· = { temp := 2350, light := 300, clap := 3 })) trace state ∧
      state.heard = [0] ∧ trace = [] := by
  obtain ⟨trace, state, reached, found⟩ := Radio.machine.reaches_of_run
    (airing (advertiseThingy { temp := 2350, light := 300, clap := 3 }))
    [.advStart (advertiseThingy { temp := 2350, light := 300, clap := 3 }), .main, .deliver 0, .main]
    (fun _ state => state.heard == [0]) (by decide)
  have reached' := thingys_of_airing reached
  refine ⟨trace, state, reached', beq_iff_eq.mp found, base_stays_silent ?_ reached'⟩
  rintro data rfl
  decide

end Dionysus.Proofs.Pipeline
