import Mathlib.Data.List.Infix

/-! Streams of messages without a length field: every message is a fixed header and
then a body of a fixed size, so only alignment tells one from the next. -/

namespace Dionysus

universe u

structure Format (α : Type u) where
  header : List α
  size : Nat
  headed : 0 < header.length

namespace Format
variable {α : Type u} {format : Format α}

def messageSize (format : Format α) : Nat := format.header.length + format.size

def encode (format : Format α) (frames : List (List α)) : List α := frames.flatMap (format.header ++ ·)

def Sized (format : Format α) (frames : List (List α)) : Prop := ∀ frame ∈ frames, frame.length = format.size

/-- The stream is made of whole messages. -/
def Aligned (format : Format α) (stream : List α) : Prop :=
  ∃ frames, format.Sized frames ∧ stream = format.encode frames

/-- The stream is a prefix of a stream of whole messages. -/
def Framed (format : Format α) (stream : List α) : Prop :=
  ∃ frames, format.Sized frames ∧ stream <+: format.encode frames

/-- The longest list of frames whose messages the stream starts with. -/
structure Longest (format : Format α) (stream : List α) (frames : List (List α)) : Prop where
  sized : format.Sized frames
  starts : format.encode frames <+: stream
  longest : ∀ other, format.Sized other → format.encode other <+: stream → other <+: frames

@[simp] theorem encode_nil : format.encode [] = [] := rfl

@[simp] theorem encode_cons (frame : List α) (frames : List (List α)) :
    format.encode (frame :: frames) = format.header ++ (frame ++ format.encode frames) := by
  simp [encode]

@[simp] theorem encode_append (frames more : List (List α)) :
    format.encode (frames ++ more) = format.encode frames ++ format.encode more := by
  simp [encode]

@[simp] theorem sized_nil : format.Sized [] := by simp [Sized]

@[simp] theorem sized_cons {frame : List α} {frames : List (List α)} :
    format.Sized (frame :: frames) ↔ frame.length = format.size ∧ format.Sized frames := by
  simp [Sized]

theorem Sized.append {frames more : List (List α)} (sized : format.Sized frames) (other : format.Sized more) :
    format.Sized (frames ++ more) := by
  intro frame member
  exact (List.mem_append.mp member).elim (sized frame) (other frame)

theorem length_encode {frames : List (List α)} (sized : format.Sized frames) :
    (format.encode frames).length = frames.length * format.messageSize := by
  induction frames with
  | nil => simp
  | cons frame frames ih =>
    obtain ⟨size, others⟩ := sized_cons.mp sized
    rw [encode_cons, List.length_append, List.length_append, size, ih others, List.length_cons, Nat.succ_mul,
      messageSize]
    omega

theorem Aligned.nil : format.Aligned [] := ⟨[], sized_nil, rfl⟩

theorem Aligned.append {stream : List α} (aligned : format.Aligned stream) {frame : List α}
    (sized : frame.length = format.size) : format.Aligned (stream ++ format.header ++ frame) := by
  obtain ⟨frames, others, rfl⟩ := aligned
  exact ⟨frames ++ [frame], others.append (by simp [sized]), by simp⟩

theorem Aligned.framed_append {stream : List α} (aligned : format.Aligned stream) (frame : List α)
    (sized : frame.length = format.size) {part : List α} (begins : part <+: format.header ++ frame) :
    format.Framed (stream ++ part) := by
  obtain ⟨frames, others, rfl⟩ := aligned
  refine ⟨frames ++ [frame], others.append (by simp [sized]), ?_⟩
  rw [encode_append]
  simpa using begins

theorem Aligned.framed {stream : List α} (aligned : format.Aligned stream) : format.Framed stream := by
  obtain ⟨frames, sized, rfl⟩ := aligned
  exact ⟨frames, sized, List.prefix_refl _⟩

theorem Framed.header {stream : List α} (framed : format.Framed stream) :
    stream.take format.header.length <+: format.header := by
  obtain ⟨frames, sized, begins⟩ := framed
  cases frames with
  | nil => simp [List.prefix_nil.mp begins]
  | cons frame frames =>
    have shorter := begins.take format.header.length
    rwa [encode_cons, List.take_left] at shorter

theorem Framed.drop {stream : List α} (framed : format.Framed stream) :
    format.Framed (stream.drop format.messageSize) := by
  obtain ⟨frames, sized, begins⟩ := framed
  cases frames with
  | nil => exact ⟨[], sized, by simp [List.prefix_nil.mp begins]⟩
  | cons frame frames =>
    obtain ⟨size, others⟩ := sized_cons.mp sized
    have later := begins.drop format.messageSize
    rw [encode_cons, messageSize, ← size, ← List.append_assoc,
      List.drop_left' (List.length_append)] at later
    exact ⟨frames, others, by rwa [messageSize, ← size]⟩

theorem message_or_stop (format : Format α) (stream : List α) :
    (∃ frame rest, frame.length = format.size ∧ stream = format.header ++ (frame ++ rest)) ∨
      ∀ frame rest, frame.length = format.size → stream ≠ format.header ++ (frame ++ rest) := by
  by_cases starts : ∃ frame rest, frame.length = format.size ∧ stream = format.header ++ (frame ++ rest)
  · exact Or.inl starts
  · exact Or.inr fun frame rest sized same => starts ⟨frame, rest, sized, same⟩

theorem encode_prefix_message {frame other rest : List α} {more : List (List α)} (sized : frame.length = format.size)
    (same : other.length = format.size)
    (starts : format.encode (other :: more) <+: format.header ++ (frame ++ rest)) :
    other = frame ∧ format.encode more <+: rest := by
  obtain ⟨tail, split⟩ := starts
  rw [encode_cons, List.append_assoc, List.append_assoc] at split
  obtain ⟨rfl, later⟩ := List.append_inj (List.append_cancel_left split) (same.trans sized.symm)
  exact ⟨rfl, tail, later⟩

theorem Longest.unique {stream : List α} {frames others : List (List α)} (longest : format.Longest stream frames)
    (other : format.Longest stream others) : frames = others :=
  (other.longest frames longest.sized longest.starts).eq_of_length_le
    (longest.longest others other.sized other.starts).length_le

variable [DecidableEq α]

def decode (format : Format α) (stream : List α) : List (List α) :=
  if format.header <+: stream ∧ format.messageSize ≤ stream.length then
    (stream.drop format.header.length).take format.size :: decode format (stream.drop format.messageSize)
  else []
termination_by stream.length
decreasing_by
  next holds =>
  have headed := format.headed
  simp only [List.length_drop, messageSize] at *
  omega

@[simp] theorem decode_message (frame rest : List α) (sized : frame.length = format.size) :
    format.decode (format.header ++ (frame ++ rest)) = frame :: format.decode rest := by
  rw [decode, if_pos ⟨List.prefix_append _ _, by simp [messageSize, sized]⟩]
  rw [List.drop_left, ← sized, List.take_left]
  rw [messageSize, ← sized, ← List.append_assoc, List.drop_left' List.length_append]

theorem decode_stop {stream : List α}
    (stop : ∀ frame rest, frame.length = format.size → stream ≠ format.header ++ (frame ++ rest)) :
    format.decode stream = [] := by
  rw [decode, if_neg]
  intro starts
  obtain ⟨⟨body, rfl⟩, fits⟩ := starts
  refine stop (body.take format.size) (body.drop format.size) ?_ (by rw [List.take_append_drop])
  simp only [messageSize, List.length_append] at fits
  rw [List.length_take]
  omega

theorem longest_decode (format : Format α) (stream : List α) : format.Longest stream (format.decode stream) := by
  rcases message_or_stop format stream with ⟨frame, rest, sized, rfl⟩ | stop
  · rw [decode_message frame rest sized]
    have later := longest_decode format rest
    refine ⟨sized_cons.mpr ⟨sized, later.sized⟩, ?_, ?_⟩
    · rw [encode_cons, List.prefix_append_right_inj, List.prefix_append_right_inj]
      exact later.starts
    · intro others sizes starts
      cases others with
      | nil => exact List.nil_prefix
      | cons other more =>
        obtain ⟨size, smaller⟩ := sized_cons.mp sizes
        obtain ⟨rfl, tail⟩ := encode_prefix_message sized size starts
        exact List.cons_prefix_cons.mpr ⟨rfl, later.longest more smaller tail⟩
  · rw [decode_stop stop]
    refine ⟨sized_nil, List.nil_prefix, ?_⟩
    intro others sizes starts
    cases others with
    | nil => exact List.nil_prefix
    | cons other more =>
      obtain ⟨tail, rfl⟩ := starts
      exact absurd (by simp) (stop other (format.encode more ++ tail) (sized_cons.mp sizes).1)
termination_by stream.length
decreasing_by
  have headed := format.headed
  subst_vars
  simp only [List.length_append]
  omega

theorem decode_prefix {stream longer : List α} (begins : stream <+: longer) :
    format.decode stream <+: format.decode longer :=
  (longest_decode format longer).longest _ (longest_decode format stream).sized
    ((longest_decode format stream).starts.trans begins)

theorem decode_short {stream : List α} (short : stream.length < format.messageSize) : format.decode stream = [] := by
  apply decode_stop
  intro frame rest sized same
  rw [same, List.length_append, List.length_append, sized, messageSize] at short
  omega

theorem decode_append {frames : List (List α)} (sized : format.Sized frames) (rest : List α) :
    format.decode (format.encode frames ++ rest) = frames ++ format.decode rest := by
  induction frames with
  | nil => rfl
  | cons frame frames ih =>
    obtain ⟨size, others⟩ := sized_cons.mp sized
    rw [encode_cons, List.append_assoc, List.append_assoc, decode_message frame _ size, ih others, List.cons_append]

theorem decode_encode {frames : List (List α)} (sized : format.Sized frames) :
    format.decode (format.encode frames) = frames := by
  induction frames with
  | nil =>
    apply decode_stop
    intro frame rest _ same
    have headed := format.headed
    rw [(List.append_eq_nil_iff.mp same.symm).1] at headed
    exact absurd headed (Nat.lt_irrefl 0)
  | cons frame frames ih =>
    obtain ⟨size, others⟩ := sized_cons.mp sized
    rw [encode_cons, decode_message frame _ size, ih others]

end Format
end Dionysus
