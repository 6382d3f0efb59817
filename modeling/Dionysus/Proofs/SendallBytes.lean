import Dionysus.Sendall

/-! What the socket accepts during `sendall`. The loop keeps pointer, length and
accepted bytes together through every short write; the header has no loop. -/

namespace Dionysus.Proofs.SendallBytes
open Sendall

/-- READY and then the buffer, each byte once. -/
def message (len : Nat) : List Source := readyBytes 5 ++ bodyBytes 0 len

structure Transmits (len : Nat) (ret : Int) (accepted : List Source) : Prop where
  outcome : ret ≤ 0
  whole : ret = 0 → accepted = message len
  part : ret < 0 → accepted <+: message len ∧ accepted ≠ message len

/-- What the loop has done when it ends; only a refusal of its first call leaves
nothing accepted. -/
structure Looped (socket : Socket) (call offset len : Nat) (ret : Int) (accepted : List Source) : Prop where
  outcome : ret ≤ 0
  whole : ret = 0 → accepted = bodyBytes offset len
  part : ret < 0 → ∃ count, count < len ∧ accepted = bodyBytes offset count ∧ (count = 0 ↔ socket.send call len < 0)
  refused : 0 < len → socket.send call len < 0 → ret < 0

@[simp] theorem length_readyBytes (count : Nat) : (readyBytes count).length = count := by
  simp [readyBytes]

@[simp] theorem length_bodyBytes (offset count : Nat) : (bodyBytes offset count).length = count := by
  simp [bodyBytes]

theorem bodyBytes_append (offset first second : Nat) :
    bodyBytes offset first ++ bodyBytes (offset + first) second = bodyBytes offset (first + second) := by
  rw [bodyBytes, bodyBytes, bodyBytes, ← List.map_append, List.range'_append_1]

theorem prefix_bodyBytes (offset : Nat) {count len : Nat} (le : count ≤ len) :
    bodyBytes offset count <+: bodyBytes offset len := by
  obtain ⟨rest, rfl⟩ := Nat.exists_eq_add_of_le le
  exact ⟨_, bodyBytes_append offset count rest⟩

variable {socket : Socket} {call offset len : Nat} {ret : Int} {accepted : List Source}

private theorem looped_empty : Looped socket call offset 0 0 [] := by
  constructor
  · exact Int.le_refl 0
  · intro _
    rfl
  · intro impossible
    omega
  · intro impossible
    omega

private theorem looped_refused (positive : 0 < len) (refused : socket.send call len < 0) :
    Looped socket call offset len (socket.send call len) [] := by
  constructor
  · omega
  · intro zero
    omega
  · intro _
    exact ⟨0, positive, rfl, by simp [refused]⟩
  · intro _ _
    exact refused

private theorem looped_sent {count : Nat} (sent : socket.send call len = count) (positive : 0 < count)
    (most : count ≤ len) (rest : Looped socket (call + 1) (offset + count) (len - count) ret accepted) :
    Looped socket call offset len ret (bodyBytes offset count ++ accepted) := by
  constructor
  · exact rest.outcome
  · intro zero
    rw [rest.whole zero, bodyBytes_append, Nat.add_sub_cancel' most]
  · intro failed
    obtain ⟨more, less, rfl, -⟩ := rest.part failed
    refine ⟨count + more, by omega, bodyBytes_append offset count more, ?_⟩
    rw [sent]
    omega
  · intro _ refused
    omega

/-- The loop ends after at most one call for each byte. -/
theorem sendLoop_ends (socket : Socket) (len : Nat) : ∀ call offset, ∃ ret accepted,
    (∀ fuel, len < fuel → sendLoop socket fuel call offset len = some (ret, accepted)) ∧
      Looped socket call offset len ret accepted := by
  induction len using Nat.strongRecOn with
  | ind len ih =>
    intro call offset
    by_cases done : len = 0
    · subst done
      refine ⟨0, [], ?_, looped_empty⟩
      intro fuel enough
      cases fuel with
      | zero => omega
      | succ fuel => rw [sendLoop, if_pos rfl]
    · rcases socket.accepts call len (by omega) with refused | ⟨positive, most⟩
      · refine ⟨_, [], ?_, looped_refused (by omega) refused⟩
        intro fuel enough
        cases fuel with
        | zero => omega
        | succ fuel => rw [sendLoop, if_neg done, if_pos refused]
      · obtain ⟨count, sent⟩ := Int.eq_ofNat_of_zero_le (by omega : 0 ≤ socket.send call len)
        obtain ⟨ret, accepted, ends, rest⟩ := ih (len - count) (by omega) (call + 1) (offset + count)
        refine ⟨ret, _, ?_, looped_sent sent (by omega) (by omega) rest⟩
        intro fuel enough
        cases fuel with
        | zero => omega
        | succ fuel =>
          rw [sendLoop, if_neg done, if_neg (by omega), sent, Int.toNat_natCast, ends fuel (by omega)]
          rfl

private theorem prefix_readyBytes {count : Nat} (le : count ≤ 5) : readyBytes count <+: readyBytes 5 := by
  have front : readyBytes count = (readyBytes 5).take count := by
    rw [readyBytes, readyBytes, ← List.map_take, List.take_range, Nat.min_eq_left le]
  rw [front]
  exact List.take_prefix count _

private theorem prefix_header {count : Nat} (le : count ≤ 5) (len : Nat) : readyBytes count <+: message len :=
  (prefix_readyBytes le).trans (List.prefix_append _ _)

/-- After a short header the body does not continue it. -/
private theorem misplaced {header count : Nat} (short : header < 5) (positive : 0 < count) (len : Nat) :
    ¬readyBytes header ++ bodyBytes 0 count <+: message len := by
  intro ⟨rest, whole⟩
  have byte : (message len)[header]? = some (.ready header) := by
    rw [message, List.getElem?_append_left (by simpa using short)]
    simp [readyBytes, short]
  have other : (readyBytes header ++ bodyBytes 0 count ++ rest)[header]? = some (.body 0) := by
    rw [List.append_assoc, List.getElem?_append_right (by simp), List.getElem?_append_left (by simpa using positive)]
    simp [bodyBytes, positive]
  rw [whole, byte] at other
  cases other

private theorem transmits_of_header {body : List Source} (looped : Looped socket 1 0 len ret body) :
    Transmits len ret (readyBytes 5 ++ body) := by
  refine ⟨looped.outcome, ?_, ?_⟩
  · intro zero
    rw [looped.whole zero, message]
  · intro failed
    obtain ⟨count, less, rfl, -⟩ := looped.part failed
    refine ⟨(List.prefix_append_right_inj _).mpr (prefix_bodyBytes 0 (Nat.le_of_lt less)), ?_⟩
    intro same
    have lengths := congrArg List.length same
    simp [message] at lengths
    omega

private theorem transmits_short_iff {header : Nat} {body : List Source} (short : header < 5)
    (looped : Looped socket 1 0 len ret body) :
    Transmits len ret (readyBytes header ++ body) ↔ 0 < len ∧ socket.send 1 len < 0 := by
  constructor
  · intro transmits
    by_cases zero : ret = 0
    · have lengths := congrArg List.length (transmits.whole zero)
      rw [looped.whole zero] at lengths
      simp [message] at lengths
      omega
    · have failed : ret < 0 := by
        have outcome := looped.outcome
        omega
      obtain ⟨count, less, rfl, first⟩ := looped.part failed
      refine ⟨by omega, first.mp ?_⟩
      rcases Nat.eq_zero_or_pos count with none | positive
      · exact none
      · exact absurd (transmits.part failed).1 (misplaced short positive len)
  · intro ⟨nonempty, refused⟩
    have failed := looped.refused nonempty refused
    obtain ⟨count, less, rfl, first⟩ := looped.part failed
    obtain rfl := first.mpr refused
    refine ⟨looped.outcome, by omega, ?_⟩
    intro _
    have none : readyBytes header ++ bodyBytes 0 0 = readyBytes header := List.append_nil _
    rw [none]
    refine ⟨prefix_header (by omega) len, ?_⟩
    intro same
    have lengths := congrArg List.length same
    simp [message] at lengths
    omega

theorem message_bytes (buf : Nat → UInt8) (len : Nat) :
    (message len).map (Source.byte buf) = Eye.readyMessage ++ (List.range len).map buf := by
  have header : (readyBytes 5).map (Source.byte buf) = Eye.readyMessage := rfl
  rw [message, List.map_append, header, bodyBytes, List.map_map, List.range_eq_range']
  rfl

/-- A proper part of the message is one of its bytes too, whatever the buffer holds. -/
theorem part_bytes (part : accepted <+: message len) (proper : accepted ≠ message len) (buf : Nat → UInt8) :
    accepted.map (Source.byte buf) <+: Eye.readyMessage ++ (List.range len).map buf ∧
      accepted.map (Source.byte buf) ≠ Eye.readyMessage ++ (List.range len).map buf := by
  rw [← message_bytes]
  refine ⟨part.map _, ?_⟩
  intro same
  have lengths := congrArg List.length same
  rw [List.length_map, List.length_map] at lengths
  exact proper (part.eq_of_length lengths)

/-- `sendall` ends for every socket, and transmits everything or a proper part when
READY is accepted whole, or when nothing follows it. -/
theorem sendall_transmits_iff (socket : Socket) (len : Nat) : ∃ ret accepted,
    (∀ fuel, len < fuel → sendall socket fuel len = some (ret, accepted)) ∧
      (Transmits len ret accepted ↔ socket.send 0 5 = 5 ∨ 0 < len ∧ socket.send 1 len < 0) ∧
      (Transmits len ret accepted → ∀ buf,
        (ret = 0 → accepted.map (Source.byte buf) = Eye.readyMessage ++ (List.range len).map buf) ∧
          (ret < 0 → accepted.map (Source.byte buf) <+: Eye.readyMessage ++ (List.range len).map buf ∧
            accepted.map (Source.byte buf) ≠ Eye.readyMessage ++ (List.range len).map buf)) := by
  obtain ⟨ret, body, ends, looped⟩ := sendLoop_ends socket len 1 0
  have range := socket.accepts 0 5 (by decide)
  refine ⟨ret, readyBytes (socket.send 0 5).toNat ++ body, ?_, ?_, ?_⟩
  · intro fuel enough
    rw [sendall, ends fuel enough]
    rfl
  · by_cases header : socket.send 0 5 = 5
    · rw [header]
      exact iff_of_true (transmits_of_header looped) (Or.inl rfl)
    · rw [transmits_short_iff (by omega) looped]
      simp only [header, false_or]
  · intro transmits buf
    constructor
    · intro zero
      rw [transmits.whole zero, message_bytes]
    · intro failed
      obtain ⟨part, proper⟩ := transmits.part failed
      exact part_bytes part proper buf

/-- A socket with room for two bytes of READY, and then for one byte at a time. -/
def narrow : Socket where
  send call count := if call = 0 then (min 2 count : Nat) else 1
  accepts := by
    intro call count positive
    split <;> omega

theorem short_header_sent : ¬∀ socket len buf, ∃ ret accepted,
    (∀ fuel, len < fuel → sendall socket fuel len = some (ret, accepted)) ∧
      (ret = 0 → accepted.map (Source.byte buf) = Eye.readyMessage ++ (List.range len).map buf) := by
  intro always
  obtain ⟨ret, accepted, ends, whole⟩ := always narrow 1 (fun _ => 7)
  have sent : sendall narrow 2 1 = some (0, [.ready 0, .ready 1, .body 0]) := by decide
  obtain ⟨rfl, rfl⟩ := Prod.mk.inj (Option.some.inj (sent.symm.trans (ends 2 (by decide))))
  exact absurd (whole rfl) (by decide)

end Dionysus.Proofs.SendallBytes
