import Dionysus.ImageStore

/-! The store-and-forward server keeps every image exactly when no two arrive in the
same second of the local clock and no file has the name of an arrival already. -/

namespace Dionysus.Proofs.ImageNames
open ImageStore KeyedStore

theorem twoDigits_inj {first second : Nat} (small : first < 100) (less : second < 100)
    (same : twoDigits first = twoDigits second) : first = second := by
  have read : ∀ number < 100, Nat.ofDigitChars 10 (twoDigits number) 0 = number := by decide
  rw [← read first small, ← read second less, same]

theorem toDigits_inj {first second : Nat} (same : Nat.toDigits 10 first = Nat.toDigits 10 second) : first = second := by
  have read := congrArg (Nat.ofDigitChars 10 · 0) same
  rwa [Nat.ofDigitChars_ten_toDigits, Nat.ofDigitChars_ten_toDigits] at read

/-- Everything behind the year has a fixed width, so a timestamp is read from its end. -/
theorem timestamp_eq_iff {first second : Clock} : timestamp first = timestamp second ↔ first.time = second.time := by
  constructor
  · intro same
    obtain ⟨year, same⟩ := List.append_inj' same rfl
    obtain ⟨month, same⟩ := List.append_inj same rfl
    obtain ⟨day, same⟩ := List.append_inj same rfl
    obtain ⟨hour, same⟩ := List.append_inj (List.cons.inj same).2 rfl
    obtain ⟨minute, second'⟩ := List.append_inj same rfl
    have years := toDigits_inj year
    have months := twoDigits_inj (by omega) (by omega) month
    have days := twoDigits_inj (by omega) (by omega) day
    have hours := twoDigits_inj (by omega) (by omega) hour
    have minutes := twoDigits_inj (by omega) (by omega) minute
    have seconds := twoDigits_inj (by omega) (by omega) second'
    obtain ⟨⟨_, _, _, _, _, _⟩, _⟩ := first
    obtain ⟨⟨_, _, _, _, _, _⟩, _⟩ := second
    simp only [LocalTime.mk.injEq, Fin.ext_iff] at *
    omega
  · intro same
    rw [timestamp, same]
    rfl

theorem filename_eq_iff {first second : Clock} : filename first = filename second ↔ first.time = second.time := by
  rw [← timestamp_eq_iff]
  exact ⟨fun same => (List.append_inj' (List.append_cancel_left same) rfl).1, fun same => by rw [filename, same]; rfl⟩

def writes (messages : List Message) : List (List Char × Payload) :=
  messages.map fun message => (filename message.clock, message.payload)

theorem process_folder (before : State) (messages : List Message) :
    (process before messages).folder = putAll before.folder (writes messages) := by
  induction messages generalizing before with
  | nil => rfl
  | cons message rest ih => exact ih (onMessage before message)

theorem process_published (before : State) (messages : List Message) :
    (process before messages).published =
      before.published ++ messages.map fun message => ("image/stored", message.payload) := by
  induction messages generalizing before with
  | nil => simp [process]
  | cons message rest ih =>
    have later := ih (onMessage before message)
    simp only [onMessage, List.append_assoc, List.cons_append, List.nil_append] at later
    exact later

/-- Every message has a file of its own with its payload, no image stored before has
been overwritten, and the payloads have been published in order, each once. -/
structure KeepsEvery (before : State) (messages : List Message) : Prop where
  stored : ∃ names : List (List Char), names.Nodup ∧ (∀ name ∈ names, before.folder name = none) ∧
    names.map (process before messages).folder = messages.map fun message => some message.payload
  untouched : ∀ name payload, before.folder name = some payload →
    (process before messages).folder name = some payload
  published : (process before messages).published =
    before.published ++ messages.map fun message => ("image/stored", message.payload)

theorem keepsEvery_iff_keeps {before : State} {messages : List Message} :
    KeepsEvery before messages ↔ Keeps before.folder (writes messages) (putAll before.folder (writes messages)) := by
  have payloads : (writes messages).map (fun entry => some entry.2) =
      messages.map fun message => some message.payload := by
    simp [writes]
  rw [← process_folder]
  constructor
  · intro keeps
    obtain ⟨names, distinct, free, holds⟩ := keeps.stored
    exact ⟨⟨names, distinct, free, holds.trans payloads.symm⟩, keeps.untouched⟩
  · intro keeps
    obtain ⟨names, distinct, free, holds⟩ := keeps.stored
    exact ⟨⟨names, distinct, free, holds.trans payloads⟩, keeps.untouched, process_published before messages⟩

theorem nodup_writes {messages : List Message} :
    ((writes messages).map Prod.fst).Nodup ↔ (messages.map fun message => message.clock.time).Nodup := by
  simp only [writes, List.map_map, List.Nodup, List.pairwise_map, Function.comp_apply, ne_eq, filename_eq_iff]

/-- The server keeps every image if and only if the local clock reads a different second
at every arrival and gives none of them the name of a file already there. -/
theorem keeps_every_image_iff (before : State) (messages : List Message) :
    KeepsEvery before messages ↔
      (messages.map fun message => message.clock.time).Nodup ∧
        ∀ message ∈ messages, before.folder (filename message.clock) = none := by
  rw [keepsEvery_iff_keeps, keeps_iff, nodup_writes]
  simp [writes]

theorem second_image_replaces_first :
    ¬KeepsEvery ⟨fun _ => none, []⟩
      [⟨[0xFF, 0xD8, 0x01], ⟨⟨2025, 4, 20, 12, 0, 0⟩, 0⟩⟩,
        ⟨[0xFF, 0xD8, 0x02], ⟨⟨2025, 4, 20, 12, 0, 0⟩, 500000⟩⟩] := by
  intro keeps
  have distinct := nodup_writes.mp ((keeps_iff _ _).mp (keepsEvery_iff_keeps.mp keeps)).1
  exact absurd distinct (by decide)

end Dionysus.Proofs.ImageNames
