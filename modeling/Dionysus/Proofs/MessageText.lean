import Dionysus.MqttMessage

/-! What an incoming message prints. The payload and its terminator are written over
the header, the length is cut to sixteen bits before it is bounded, and the
terminator stands where the payload was asked to end. -/

namespace Dionysus.Proofs.MessageText
open MqttClient

/-- The C string of the first bytes of the payload that fit, or of those that were
read when the library returned fewer than it was asked for. -/
def expectedText (message : Publish) (ret : Int) : List UInt8 :=
  cString (message.payload.take
    (if ret < publishLen message then ret.toNat else min message.payload.length (mqttClientRxBufLen - 1)))

structure Faithful (message : Publish) (ret : Int) (printed : Printed) : Prop where
  topic : printed.topic = message.topic
  text : printed.text = expectedText message ret

/-- What follows the bytes that were read is where the text should end. -/
def TextEnds (message : Publish) (ret : Int) : Prop :=
  if ret < publishLen message then message.rxBuff.bytes[ret.toNat]? = some 0
  else publishLen message = min message.payload.length (mqttClientRxBufLen - 1) ∨
    message.payload[publishLen message]? = some 0

/-- No write changes the topic, which is a C string itself, and the text ends by
itself or where it should. -/
structure Undisturbed (message : Publish) (ret : Int) : Prop where
  topic : 0 ∉ message.topic
  kept : ∀ index, message.topicOffset ≤ index → index < message.topicOffset + message.topicSize →
    index ≠ publishLen message ∧
      (index < ret.toNat → message.payload[index]? = message.rxBuff.bytes[index]?)
  text : 0 ∈ message.payload.take ret.toNat ∨ TextEnds message ret

/-- `rx_buff` when the line is printed. -/
def finalBytes (message : Publish) (ret : Int) : List UInt8 :=
  (message.payload.take ret.toNat ++ message.rxBuff.bytes.drop ret.toNat).set (publishLen message) 0

variable {message : Publish} {ret : Int}

private theorem length_read (may : MayRead message ret) : (message.payload.take ret.toNat).length = ret.toNat := by
  have fewer := may.le
  have enough := publishLen_le message
  rw [List.length_take]
  omega

/-- Both writes stay inside `rx_buff`. -/
theorem onPublish_eq (may : MayRead message ret) (read : 0 ≤ ret) :
    ∃ ended : RxBuff, ended.bytes = finalBytes message ret ∧
      onPublish message ret =
        some (some ⟨cString (ended.slice message.topicOffset message.topicSize), cString ended.bytes⟩) := by
  have length := length_read may
  have fewer := may.le
  have inside := publishLen_lt message
  obtain ⟨filled, fill, filledBytes⟩ :=
    message.rxBuff.fill_eq (by omega : (message.payload.take ret.toNat).length ≤ mqttClientRxBufLen)
  obtain ⟨ended, store, endedBytes⟩ := filled.store_eq 0 inside
  refine ⟨ended, ?_, ?_⟩
  · rw [endedBytes, filledBytes, length, finalBytes]
  · rw [onPublish, if_neg (by omega), fill, Option.bind_some, store, Option.map_some]

theorem finalBytes_getElem? (may : MayRead message ret) (index : Nat) :
    (finalBytes message ret)[index]? =
      if index = publishLen message then some 0
      else if index < ret.toNat then message.payload[index]? else message.rxBuff.bytes[index]? := by
  have length := length_read may
  have fewer := may.le
  have inside := publishLen_lt message
  have sized := message.rxBuff.sized
  rw [finalBytes, List.getElem?_set]
  by_cases terminator : index = publishLen message
  · rw [if_pos terminator.symm, if_pos terminator, if_pos]
    rw [List.length_append, List.length_drop]
    omega
  · rw [if_neg (Ne.symm terminator), if_neg terminator]
    by_cases front : index < ret.toNat
    · rw [if_pos front, List.getElem?_append_left (by omega), List.getElem?_take_of_lt front]
    · rw [if_neg front, List.getElem?_append_right (by omega), List.getElem?_drop, length]
      congr 1
      omega

private theorem cString_eq_iff {bytes other : List UInt8} (same : bytes.length = other.length) :
    cString bytes = other ↔ bytes = other ∧ 0 ∉ other := by
  constructor
  · intro shown
    have whole : cString bytes = bytes := by
      apply (List.takeWhile_prefix _).eq_of_length
      rw [← cString, shown, same]
    rw [← shown, whole]
    exact ⟨rfl, (cString_eq_self_iff bytes).mp whole⟩
  · rintro ⟨equal, absent⟩
    rw [equal]
    exact (cString_eq_self_iff other).mpr absent

private theorem topic_iff (may : MayRead message ret) {ended : RxBuff} (final : ended.bytes = finalBytes message ret) :
    cString (ended.slice message.topicOffset message.topicSize) = message.topic ↔
      0 ∉ message.topic ∧ ∀ index, message.topicOffset ≤ index → index < message.topicOffset + message.topicSize →
        index ≠ publishLen message ∧
          (index < ret.toNat → message.payload[index]? = message.rxBuff.bytes[index]?) := by
  have lengths : (ended.slice message.topicOffset message.topicSize).length = message.topic.length := by
    rw [Publish.topic, Buffer.length_slice _ message.topicInside, Buffer.length_slice _ message.topicInside]
  rw [cString_eq_iff lengths, and_comm]
  apply and_congr_right
  intro absent
  rw [Publish.topic, Buffer.slice_eq_iff]
  refine forall_congr' fun index => forall_congr' fun first => forall_congr' fun last => ?_
  have nonzero : message.rxBuff.bytes[index]? ≠ some 0 := by
    intro zero
    obtain ⟨place, rfl⟩ := Nat.exists_eq_add_of_le first
    rw [← Buffer.slice_getElem? _ (by omega : place < message.topicSize)] at zero
    exact absent (List.mem_of_getElem? zero)
  rw [final, finalBytes_getElem? may]
  by_cases terminator : index = publishLen message
  · simp [terminator, terminator ▸ nonzero.symm]
  · by_cases front : index < ret.toNat
    · simp [terminator, front]
    · simp [terminator, front]

private theorem finalText (may : MayRead message ret) :
    cString (finalBytes message ret) =
      cString (message.payload.take ret.toNat ++
        (message.rxBuff.bytes.drop ret.toNat).take (publishLen message - ret.toNat)) := by
  have length := length_read may
  have fewer := may.le
  have inside := publishLen_lt message
  have sized := message.rxBuff.sized
  rw [finalBytes, cString_set_zero]
  · rw [List.take_append, length, List.take_of_length_le (by omega)]
  · rw [List.length_append, List.length_drop]
    omega

private theorem head?_take_drop (bytes : List UInt8) {index count : Nat} (positive : 0 < count) :
    ((bytes.drop index).take count).head? = bytes[index]? := by
  rw [List.head?_take, if_neg (by omega), List.head?_drop]

private theorem text_iff (may : MayRead message ret) (read : 0 ≤ ret) :
    cString (finalBytes message ret) = expectedText message ret ↔
      0 ∈ message.payload.take ret.toNat ∨ TextEnds message ret := by
  have fewer := may.le
  have inside := publishLen_lt message
  have sized := message.rxBuff.sized
  rw [finalText may, expectedText, TextEnds]
  by_cases short : ret < publishLen message
  · have room : 0 < publishLen message - ret.toNat := by omega
    have nonempty : (message.rxBuff.bytes.drop ret.toNat).take (publishLen message - ret.toNat) ≠ [] := by
      rw [ne_eq, ← List.length_eq_zero_iff, List.length_take, List.length_drop]
      omega
    rw [if_pos short, if_pos short, cString_append_eq_iff, head?_take_drop _ room]
    simp only [nonempty, false_or]
  · have all : ret.toNat = publishLen message := by omega
    have enough := publishLen_le message
    obtain ⟨more, total⟩ : ∃ more, min message.payload.length (mqttClientRxBufLen - 1) = publishLen message + more :=
      Nat.exists_eq_add_of_le (by omega)
    rw [if_neg short, if_neg short, all, Nat.sub_self, List.take_zero, List.append_nil, total, List.take_add, eq_comm,
      cString_append_eq_iff]
    cases more with
    | zero => simp
    | succ more =>
      have nonempty : (message.payload.drop (publishLen message)).take (more + 1) ≠ [] := by
        rw [ne_eq, ← List.length_eq_zero_iff, List.length_take, List.length_drop]
        omega
      rw [head?_take_drop _ (Nat.succ_pos more)]
      simp [nonempty]

theorem publish_faithful_iff (may : MayRead message ret) (read : 0 ≤ ret) :
    ∃ printed, onPublish message ret = some (some printed) ∧
      (Faithful message ret printed ↔ Undisturbed message ret) := by
  obtain ⟨ended, final, printed⟩ := onPublish_eq may read
  refine ⟨_, printed, ?_⟩
  constructor
  · intro ⟨topic, text⟩
    obtain ⟨absent, kept⟩ := (topic_iff may final).mp topic
    exact ⟨absent, kept, (text_iff may read).mp (final ▸ text)⟩
  · intro ⟨absent, kept, text⟩
    refine ⟨(topic_iff may final).mpr ⟨absent, kept⟩, ?_⟩
    simpa only [final] using (text_iff may read).mpr text

/-- A PUBLISH on the topic `test`, its header in `rx_buff` as the library leaves it. -/
def onTest (payload : List UInt8) (payloadBounded : payload.length < UInt32.size) : Publish where
  rxBuff := ⟨[0x30, 0x0C, 0x00, 0x04, 0x74, 0x65, 0x73, 0x74] ++ List.replicate 120 0, by simp [mqttClientRxBufLen]⟩
  topicOffset := 4
  topicSize := 4
  payload := payload
  topicInside := by decide
  payloadBounded := payloadBounded

/-- Two bytes do not reach the topic. -/
theorem publish_faithful_iff_short : ∃ printed, onPublish (onTest [0x6F, 0x6E] (by decide)) 2 = some (some printed) ∧
    (Faithful (onTest [0x6F, 0x6E] (by decide)) 2 printed ↔ Undisturbed (onTest [0x6F, 0x6E] (by decide)) 2) :=
  publish_faithful_iff (by decide) (by decide)

/-- Six bytes do: the line shows the last of them as the topic. -/
theorem topic_overwritten : ¬∀ message ret, MayRead message ret → 0 ≤ ret →
    ∃ printed, onPublish message ret = some (some printed) ∧ Faithful message ret printed := by
  intro always
  obtain ⟨printed, shown, faithful⟩ :=
    always (onTest [0x68, 0x65, 0x6C, 0x6C, 0x6F, 0x21] (by decide)) 6 (by decide) (by decide)
  have line : onPublish (onTest [0x68, 0x65, 0x6C, 0x6C, 0x6F, 0x21] (by decide)) 6 =
      some (some ⟨[0x6F, 0x21], [0x68, 0x65, 0x6C, 0x6C, 0x6F, 0x21]⟩) := rfl
  rw [line] at shown
  obtain rfl := Option.some.inj (Option.some.inj shown)
  exact absurd faithful.topic (by decide)

end Dionysus.Proofs.MessageText
