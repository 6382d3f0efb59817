import Dionysus.ImageSocket

/-! The PC client decodes the longest list of frames in the bytes it receives, however
they are split, and stops early only when the user presses q. -/

namespace Dionysus.Proofs.ImageStream
open ImageSocket

/-- The frames up to the first after which the user pressed q. -/
def untilQuit (keys : Nat → Int) (count : Nat) : List (List UInt8) → List (List UInt8)
  | [] => []
  | frame :: rest => frame :: if quits (keys count) then [] else untilQuit keys (count + 1) rest

theorem untilQuit_never {keys : Nat → Int} (never : ∀ count, quits (keys count) = false) (count : Nat)
    (frames : List (List UInt8)) : untilQuit keys count frames = frames := by
  induction frames generalizing count with
  | nil => rfl
  | cons frame rest ih => simp [untilQuit, never, ih]

theorem untilQuit_subset {keys : Nat → Int} {count : Nat} {frames : List (List UInt8)} {frame : List UInt8}
    (member : frame ∈ untilQuit keys count frames) : frame ∈ frames := by
  induction frames generalizing count with
  | nil => cases member
  | cons first rest ih =>
    rw [untilQuit, List.mem_cons] at member
    rcases member with same | later
    · exact List.mem_cons.mpr (Or.inl same)
    · split at later
      next => cases later
      next => exact List.mem_cons.mpr (Or.inr (ih later))

theorem received_message {sock : Socket} {frame rest : List UInt8} (sized : frame.length = messages.size)
    (unread : sock.unread = messages.header ++ (frame ++ rest)) :
    (recvExact sock readySize).1 = some readyMessage ∧
      (recvExact (recvExact sock readySize).2 frameSize).1 = some frame ∧
      (recvExact (recvExact sock readySize).2 frameSize).2.unread = rest := by
  have body : (recvExact sock readySize).2.unread = frame ++ rest := by
    rw [recvExact_unread, unread]
    exact List.drop_left' rfl
  have size : frameSize = frame.length := sized.symm
  refine ⟨?_, ?_, ?_⟩
  · rw [recvExact_data, unread, if_pos (by simp [messages, readyMessage, readySize])]
    exact congrArg some (List.take_left' rfl)
  · rw [recvExact_data, body, size, if_pos (by simp), List.take_left]
  · rw [recvExact_unread, body, size, List.drop_left]

theorem message_of_received {sock : Socket} {frame : List UInt8}
    (ready : (recvExact sock readySize).1 = some readyMessage)
    (received : (recvExact (recvExact sock readySize).2 frameSize).1 = some frame) :
    frame.length = messages.size ∧ ∃ rest, sock.unread = messages.header ++ (frame ++ rest) := by
  rw [recvExact_data] at ready received
  split at ready
  next headed =>
    split at received
    next full =>
      have header := Option.some.inj ready
      obtain rfl := Option.some.inj received
      rw [recvExact_unread] at full ⊢
      refine ⟨by rw [List.length_take]; exact Nat.min_eq_left full, ((sock.unread.drop readySize).drop frameSize), ?_⟩
      rw [List.take_append_drop]
      exact (List.take_append_drop readySize sock.unread).symm.trans (congrArg (· ++ _) header)
    next => cases received
  next => cases ready

theorem mainLoop_frames (keys : Nat → Int) (count : Nat) (sock : Socket) :
    (mainLoop keys count sock).frames = untilQuit keys count (messages.decode sock.unread) := by
  rcases messages.message_or_stop sock.unread with ⟨frame, rest, sized, unread⟩ | stop
  · obtain ⟨ready, received, later⟩ := received_message sized unread
    have next := mainLoop_frames keys (count + 1) (recvExact (recvExact sock readySize).2 frameSize).2
    rw [later] at next
    rw [mainLoop, unread, Format.decode_message frame rest sized, untilQuit]
    simp only [ready, received, ne_eq, not_true_eq_false, ↓reduceIte]
    split
    · rfl
    · exact congrArg (frame :: ·) next
  · rw [Format.decode_stop stop, mainLoop]
    simp only
    split
    next => rfl
    next ready =>
      split
      next => rfl
      next frame received =>
        obtain ⟨sized, rest, unread⟩ := message_of_received (of_not_not ready) received
        exact absurd unread (stop frame rest sized)
termination_by sock.unread.length
decreasing_by
  rw [later, unread]
  simp only [messages, readyMessage, List.length_append, List.length_cons]
  omega

theorem main_frames (sock : Socket) (keys : Nat → Int) :
    (main sock keys).frames = untilQuit keys 0 (messages.decode sock.unread) :=
  mainLoop_frames keys 0 sock

/-- The client decodes the longest list of frames its bytes start with, up to the first
after which the user presses q. The pieces the bytes arrive in make no difference, and
no byte beyond those asked for is taken. -/
theorem decodes_exactly (sock : Socket) (keys : Nat → Int) :
    (∃ frames, messages.Longest sock.unread frames ∧ (main sock keys).frames = untilQuit keys 0 frames) ∧
    ((∀ count, quits (keys count) = false) → messages.Longest sock.unread (main sock keys).frames) ∧
    (∀ other, other.unread = sock.unread → (main other keys).frames = (main sock keys).frames) ∧
    (∀ size, ∃ taken, taken.length ≤ size ∧ sock.unread = taken ++ (recvExact sock size).2.unread) ∧
    (∀ frames, messages.Sized frames → sock.unread = messages.encode frames →
      (main sock keys).frames = untilQuit keys 0 frames) := by
  have longest := messages.longest_decode sock.unread
  refine ⟨⟨_, longest, main_frames sock keys⟩, ?_, ?_, ?_, ?_⟩
  · intro never
    rw [main_frames, untilQuit_never never]
    exact longest
  · intro other same
    rw [main_frames, main_frames, same]
  · intro size
    refine ⟨sock.unread.take size, List.length_take_le size sock.unread, ?_⟩
    rw [recvExact_unread, List.take_append_drop]
  · intro frames sized unread
    rw [main_frames, unread, Format.decode_encode sized]

/-- The user presses q at the first of two frames. -/
theorem quit_drops_second_frame :
    ¬∀ (sock : Socket) (keys : Nat → Int), messages.Longest sock.unread (main sock keys).frames := by
  intro longest
  let black : List UInt8 := List.replicate frameSize 0
  have sized : messages.Sized [black, black] := by simp [black, messages]
  let sock : Socket := ⟨[⟨messages.encode [black, black], by simp [messages, readyMessage]⟩], .closed⟩
  have unread : sock.unread = messages.encode [black, black] := List.append_nil _
  have quit : (main sock fun _ => 'q'.toNat).frames = [black] := by
    rw [main_frames, unread, Format.decode_encode sized]
    rfl
  have both := (longest sock fun _ => 'q'.toNat).longest [black, black] sized (by rw [unread])
  rw [quit] at both
  exact absurd both.length_le (by simp)

end Dionysus.Proofs.ImageStream
