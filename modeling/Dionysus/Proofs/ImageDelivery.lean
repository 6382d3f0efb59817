import Dionysus.History
import Dionysus.ImagePipeline
import Dionysus.Link
import Dionysus.Recorder

/-! Images on their way from the sender to the receiver. They arrive in order, none
twice and none that was not sent, and each has been in the server's folder before the
receiver gets it. -/

namespace Dionysus.Proofs.ImageDelivery
open ImagePipeline Link History KeyedStore
open ImageStore (Payload Clock filename onMessage)

def sent (trace : List Mark) : List Payload := trace.filterMap Mark.sentImage

/-- The files that the server has written, with their names and what they held then. -/
def files (trace : List Mark) : List (List Char × Payload) := trace.filterMap Mark.storedFile

def stored (trace : List Mark) : List Payload := (files trace).map Prod.snd

def received (trace : List Mark) : List Payload := trace.filterMap Mark.receivedImage

variable {trace : List Mark} {state before after : State} {event : Event} {emitted : List Mark}

@[simp] theorem sent_append (trace later : List Mark) : sent (trace ++ later) = sent trace ++ sent later :=
  List.filterMap_append

@[simp] theorem files_append (trace later : List Mark) : files (trace ++ later) = files trace ++ files later :=
  List.filterMap_append

@[simp] theorem stored_append (trace later : List Mark) : stored (trace ++ later) = stored trace ++ stored later := by
  simp [stored]

@[simp] theorem received_append (trace later : List Mark) :
    received (trace ++ later) = received trace ++ received later :=
  List.filterMap_append

@[simp] theorem sent_singleton (mark : Mark) : sent [mark] = mark.sentImage.toList := by
  cases mark <;> rfl

@[simp] theorem files_singleton (mark : Mark) : files [mark] = mark.storedFile.toList := by
  rw [files, List.filterMap_cons]
  cases mark.storedFile <;> rfl

@[simp] theorem stored_singleton (mark : Mark) : stored [mark] = (mark.storedFile.map Prod.snd).toList := by
  rw [stored, files_singleton, Option.toList_map]

@[simp] theorem received_singleton (mark : Mark) : received [mark] = mark.receivedImage.toList := by
  cases mark <;> rfl

@[simp] theorem forwarded_onMessage (store : ImageStore.State) (payload : Payload) (clock : Clock) :
    forwarded store (onMessage store ⟨payload, clock⟩) = [payload] := by
  simp [forwarded, onMessage, subscribed]

@[simp] theorem folder_onMessage (store : ImageStore.State) (payload : Payload) (clock : Clock) :
    (onMessage store ⟨payload, clock⟩).folder (filename clock) = some payload := by
  simp [onMessage, put]

/-- What a step does, with the work of `on_message` in its place. -/
inductive Moves (before : State) : Event → State → List Mark → Prop where
  | send (img : Payload) : Moves before (.send img) { before with uploads := before.uploads ++ [img] } [.sent img]
  | store {clock payload rest} (waiting : before.uploads = payload :: rest) :
      Moves before (.store clock) { before with
        store := onMessage before.store ⟨payload, clock⟩
        uploads := rest
        forwards := before.forwards ++ [payload] } [.handled (filename clock) (some payload)]
  | receive {payload rest} (waiting : before.forwards = payload :: rest) :
      Moves before .receive { before with forwards := rest, latest := some payload } [.received payload]
  | loseUpload (index : Nat) :
      Moves before (.loseUpload index) { before with uploads := before.uploads.eraseIdx index } []
  | loseForward (index : Nat) :
      Moves before (.loseForward index) { before with forwards := before.forwards.eraseIdx index } []

theorem step_moves (moved : machine.step before event = some (after, emitted)) : Moves before event after emitted := by
  cases event with
  | send img =>
    cases moved
    exact .send img
  | store clock =>
    simp only [machine, step] at moved
    split at moved
    next => cases moved
    next payload rest waiting =>
      simp only [forwarded_onMessage, folder_onMessage] at moved
      cases moved
      exact .store waiting
  | receive =>
    simp only [machine, step] at moved
    split at moved <;> cases moved
    next waiting => exact .receive waiting
  | loseUpload index =>
    cases moved
    exact .loseUpload index
  | loseForward index =>
    cases moved
    exact .loseForward index

structure Delivers (trace : List Mark) (state : State) : Prop where
  uploads : Conveys (sent trace) state.uploads (stored trace)
  forwards : Conveys (stored trace) state.forwards (received trace)
  folder : state.store.folder = putAll (fun _ => none) (files trace)
  latest : state.latest = (received trace).getLast?
  first : ∀ payload, Whenever (· = .received payload) (fun past => payload ∈ stored past) trace
  written : ∀ filename, .handled filename none ∉ trace

theorem delivers {guard : Guard State Event Mark} (reached : machine.Reaches guard trace state) :
    Delivers trace state := by
  apply reached.invariant ⟨.idle, .idle, rfl, rfl, fun _ => whenever_nil, by simp⟩
  intro trace before event after emitted held _ moved
  cases step_moves moved with
  | send img =>
    refine ⟨?_, ?_, ?_, ?_, fun payload => whenever_snoc.mpr ⟨held.first payload, by simp⟩, ?_⟩
    · simpa [Mark.storedFile, Mark.sentImage] using held.uploads.send img
    · simpa [Mark.storedFile, Mark.receivedImage] using held.forwards
    · simpa [Mark.storedFile] using held.folder
    · simpa [Mark.receivedImage] using held.latest
    · simpa using held.written
  | @store clock payload rest waiting =>
    have uploads := held.uploads
    rw [waiting] at uploads
    refine ⟨?_, ?_, ?_, ?_, fun other => whenever_snoc.mpr ⟨held.first other, by simp⟩, ?_⟩
    · simpa [Mark.storedFile, Mark.sentImage] using uploads.take
    · simpa [Mark.storedFile, Mark.receivedImage] using held.forwards.send payload
    · rw [files_append, putAll, List.foldl_append]
      exact congrArg (put · (filename clock) payload) held.folder
    · simpa [Mark.receivedImage] using held.latest
    · simpa using held.written
  | @receive payload rest waiting =>
    have forwards := held.forwards
    rw [waiting] at forwards
    refine ⟨?_, ?_, ?_, ?_, fun other => whenever_snoc.mpr ⟨held.first other, ?_⟩, ?_⟩
    · simpa [Mark.storedFile, Mark.sentImage] using held.uploads
    · simpa [Mark.storedFile, Mark.receivedImage] using forwards.take
    · simpa [Mark.storedFile] using held.folder
    · simp [Mark.receivedImage]
    · intro same
      rw [← Mark.received.inj same]
      exact forwards.subset (List.mem_append.mpr (Or.inr (List.mem_cons_self ..)))
    · simpa using held.written
  | loseUpload index =>
    rw [List.append_nil]
    exact { held with uploads := held.uploads.lose index }
  | loseForward index =>
    rw [List.append_nil]
    exact { held with forwards := held.forwards.lose index }

/-- The states that the run has left behind. -/
def visited (state : State) (_ : Event) : List State := [state]

def InFolder (payload : Payload) (state : State) : Prop := ∃ filename, state.store.folder filename = some payload

/-- What the receiver has, or will get, was in the folder in some state of this run. -/
structure Kept (trace : List Mark) (record : State × List State) : Prop where
  forwards : ∀ payload ∈ record.1.forwards, ∃ earlier ∈ record.2 ++ [record.1], InFolder payload earlier
  delivered : ∀ payload ∈ received trace, ∃ earlier ∈ record.2, InFolder payload earlier

/-- A step that forwards nothing new, and delivers nothing that was not on its way. -/
theorem Kept.step {passed : List State} (kept : Kept trace (before, passed))
    (forwards : ∀ payload ∈ after.forwards, payload ∈ before.forwards)
    (arrived : ∀ payload ∈ received emitted, payload ∈ before.forwards) :
    Kept (trace ++ emitted) (after, passed ++ [before]) := by
  constructor
  · intro payload member
    obtain ⟨earlier, left, held⟩ := kept.forwards payload (forwards payload member)
    exact ⟨earlier, List.mem_append.mpr (Or.inl left), held⟩
  · intro payload member
    rw [received_append] at member
    rcases List.mem_append.mp member with old | new
    · obtain ⟨earlier, left, held⟩ := kept.delivered payload old
      exact ⟨earlier, List.mem_append.mpr (Or.inl left), held⟩
    · exact kept.forwards payload (arrived payload new)

theorem kept {record : State × List State}
    (reached : (machine.record visited).Reaches (Guard.recorded Guard.free) trace record) : Kept trace record := by
  apply reached.invariant ⟨by simp [Machine.record, machine], by simp [received]⟩
  rintro trace ⟨before, passed⟩ event ⟨after, _⟩ emitted held _ recorded
  obtain ⟨moved, rfl⟩ := Machine.record_step recorded
  cases step_moves moved with
  | send img => exact held.step (fun _ member => member) (by simp [Mark.receivedImage])
  | @store clock payload rest waiting =>
    constructor
    · intro other member
      rcases List.mem_append.mp member with old | new
      · obtain ⟨earlier, left, there⟩ := held.forwards other old
        exact ⟨earlier, List.mem_append.mpr (Or.inl left), there⟩
      · -- The state behind `on_message`: the file it has just written holds the image.
        rw [List.mem_singleton.mp new]
        exact ⟨_, List.mem_append.mpr (Or.inr (List.mem_singleton.mpr rfl)), filename clock, if_pos rfl⟩
    · intro other member
      obtain ⟨earlier, left, there⟩ := held.delivered other (by simpa [Mark.receivedImage] using member)
      exact ⟨earlier, List.mem_append.mpr (Or.inl left), there⟩
  | @receive payload rest waiting =>
    have queue : before.forwards = payload :: rest := waiting
    refine held.step (fun _ member => ?_) ?_
    · rw [queue]
      exact List.mem_cons_of_mem _ member
    · simp [Mark.receivedImage, queue]
  | loseUpload index => exact held.step (fun _ member => member) (by simp [received])
  | loseForward index => exact held.step (fun _ member => List.mem_of_mem_eraseIdx member) (by simp [received])

/-- In every run what the receiver gets is, in order, a part of what the server stored,
which is a part of what was sent, and its file holds the last of it. The server stores
every message it handles, and what the receiver gets was stored before, and was in the
folder in a state that the run has left behind. -/
theorem images_in_order {record : State × List State}
    (reached : (machine.record visited).Reaches (Guard.recorded Guard.free) trace record) :
    (received trace).Sublist (stored trace) ∧ (stored trace).Sublist (sent trace) ∧
      record.1.latest = (received trace).getLast? ∧
      (∀ filename, .handled filename none ∉ trace) ∧
      (∀ payload, Whenever (· = .received payload) (fun past => payload ∈ stored past) trace) ∧
      ∀ payload ∈ received trace, ∃ earlier ∈ record.2, InFolder payload earlier := by
  have held := delivers reached.unrecorded
  exact ⟨held.forwards.sublist, held.uploads.sublist, held.latest, held.written, held.first, (kept reached).delivered⟩

/-- The second of three uploads is lost. -/
theorem images_in_order_lost :
    ∃ trace record, (machine.record visited).Reaches (Guard.recorded Guard.free) trace record ∧
      received trace = [[1], [3]] ∧
      (received trace).Sublist (stored trace) ∧ (stored trace).Sublist (sent trace) ∧
      record.1.latest = (received trace).getLast? ∧
      (∀ filename, .handled filename none ∉ trace) ∧
      (∀ payload, Whenever (· = .received payload) (fun past => payload ∈ stored past) trace) ∧
      ∀ payload ∈ received trace, ∃ earlier ∈ record.2, InFolder payload earlier := by
  obtain ⟨trace, record, reached, found⟩ := (machine.record visited).reaches_of_run (Guard.recorded Guard.free)
    [.send [1], .send [2], .send [3], .loseUpload 1, .store ⟨⟨2025, 4, 20, 12, 0, 0⟩, 0⟩, .receive,
      .store ⟨⟨2025, 4, 20, 12, 0, 0⟩, 5⟩, .receive]
    (fun trace _ => received trace == [[1], [3]]) (by decide)
  exact ⟨trace, record, reached, beq_iff_eq.mp found, images_in_order reached⟩

/-- The broker loses nothing. -/
def reliable : Guard State Event Mark := fun _ _ event =>
  match event with
  | .loseUpload _ | .loseForward _ => False
  | _ => True

instance (trace : List Mark) (state : State) (event : Event) : Decidable (reliable trace state event) :=
  match event with
  | .loseUpload _ | .loseForward _ => inferInstanceAs (Decidable False)
  | .send _ | .store _ | .receive => inferInstanceAs (Decidable True)

theorem complete (reached : machine.Reaches reliable trace state) :
    Complete (sent trace) state.uploads (stored trace) ∧ Complete (stored trace) state.forwards (received trace) := by
  apply reached.invariant ⟨rfl, rfl⟩
  intro trace before event after emitted held allowed moved
  obtain ⟨uploads, forwards⟩ := held
  cases step_moves moved with
  | send img =>
    exact ⟨by simpa [Mark.storedFile, Mark.sentImage] using uploads.send img,
      by simpa [Mark.storedFile, Mark.receivedImage] using forwards⟩
  | @store clock payload rest waiting =>
    rw [waiting] at uploads
    exact ⟨by simpa [Mark.storedFile, Mark.sentImage] using uploads.take,
      by simpa [Mark.storedFile, Mark.receivedImage] using forwards.send payload⟩
  | receive waiting =>
    rw [waiting] at forwards
    exact ⟨by simpa [Mark.storedFile, Mark.sentImage] using uploads,
      by simpa [Mark.storedFile, Mark.receivedImage] using forwards.take⟩
  | loseUpload _ | loseForward _ => exact allowed.elim

/-- Over a broker that loses nothing every image is at the receiver or on its way, in
order, and the folder holds each stored image as long as no two were stored under one
name. -/
theorem images_complete (reached : machine.Reaches reliable trace state) :
    sent trace = received trace ++ state.forwards ++ state.uploads ∧
      (((files trace).map Prod.fst).Nodup → ∀ file ∈ files trace, state.store.folder file.1 = some file.2) := by
  obtain ⟨uploads, forwards⟩ := complete reached
  constructor
  · rw [← uploads, ← forwards]
  · intro distinct file member
    have kept := @putAll_keys _ _ _ (fun _ => none) (files trace) distinct
    rw [List.map_map] at kept
    rw [(delivers reached).folder]
    exact List.map_inj_left.mp kept file member

theorem images_complete_two :
    ∃ trace state, machine.Reaches reliable trace state ∧ sent trace = [[1], [2], [3]] ∧ received trace = [[1]] ∧
      sent trace = received trace ++ state.forwards ++ state.uploads ∧
      (((files trace).map Prod.fst).Nodup → ∀ file ∈ files trace, state.store.folder file.1 = some file.2) := by
  obtain ⟨trace, state, reached, found⟩ := machine.reaches_of_run reliable
    [.send [1], .send [2], .store ⟨⟨2025, 4, 20, 12, 0, 0⟩, 0⟩, .send [3], .store ⟨⟨2025, 4, 20, 12, 0, 1⟩, 0⟩,
      .receive]
    (fun trace _ => sent trace == [[1], [2], [3]] && received trace == [[1]]) (by decide)
  simp only [Bool.and_eq_true, beq_iff_eq] at found
  exact ⟨trace, state, reached, found.1, found.2, images_complete reached⟩

end Dionysus.Proofs.ImageDelivery
