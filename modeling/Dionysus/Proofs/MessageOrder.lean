import Mathlib.Algebra.Group.Nat.Defs
import Dionysus.Link
import Dionysus.MessageFeed
import Dionysus.Proofs.MessageText
import Dionysus.Proofs.MqttRuns

/-! The counter of the PC on the console of the display board. The numbers only go up
and each is shown as it was sent, but never under its topic, which the payload has
overwritten by then. -/

namespace Dionysus.Proofs.MessageOrder
open MqttClient hiding State Event step machine
open MessageFeed MessageText Link

/-- The line of a message that was read to its end. -/
def line : Mark → Option Printed
  | .handled (.publish _ _) (some shown) 0 => some shown
  | _ => none

def lines (trace : List Mark) : List Printed := trace.filterMap line

theorem lines_append (trace later : List Mark) : lines (trace ++ later) = lines trace ++ lines later :=
  List.filterMap_append

variable {trace : List Mark} {state before after : State} {event : Event} {emitted : List Mark} {message : Publish}
variable {msgCount : Nat} {ret : Int}

theorem length_msg (few : msgCount < 10 ^ 117) : 10 < (msg msgCount).length ∧ (msg msgCount).length ≤ 127 := by
  have short := (Nat.length_toDigits_le_iff (by decide : 1 < 10) (by decide : 0 < 117)).mpr few
  have some := @Nat.length_toDigits_pos 10 msgCount
  rw [msg, encode, List.length_map, List.length_append]
  have ten : heading.length = 10 := rfl
  omega

theorem digit_byte {char : Char} (digit : char.isDigit = true) : Char.ofNat char.toUInt8.toNat = char := by
  have small : char.toNat < UInt8.size := by
    have nine : char.toNat ≤ 57 := (Char.isDigit_iff_toNat.mp digit).2
    unfold UInt8.size
    omega
  have byte : char.toUInt8.toNat = char.toNat := by
    show (UInt8.ofNat char.toNat).toNat = _
    rw [UInt8.toNat_ofNat_of_lt' small]
  rw [byte, Char.ofNat_toNat]

/-- The number that a text ends with. -/
def readMsg (text : List UInt8) : Nat :=
  Nat.ofDigitChars 10 ((text.drop heading.length).map fun byte => Char.ofNat byte.toNat) 0

theorem readMsg_msg (msgCount : Nat) : readMsg (msg msgCount) = msgCount := by
  have digits : ((msg msgCount).drop heading.length).map (fun byte => Char.ofNat byte.toNat) =
      Nat.toDigits 10 msgCount := by
    rw [msg, encode, List.map_append, List.drop_append_of_le_length (by decide)]
    show ((Nat.toDigits 10 msgCount).map Char.toUInt8).map _ = _
    rw [List.map_map]
    conv_rhs => rw [← List.map_id (Nat.toDigits 10 msgCount)]
    apply List.map_inj_left.mpr
    intro char member
    exact digit_byte (Nat.isDigit_of_mem_toDigits (by decide) (by decide) member)
  rw [readMsg, digits, Nat.ofDigitChars_ten_toDigits]

theorem msg_inj {first second : Nat} (same : msg first = msg second) : first = second := by
  rw [← readMsg_msg first, same, readMsg_msg]

theorem zero_notMem_msg (msgCount : Nat) : 0 ∉ msg msgCount := by
  have front : 0 ∉ encode heading := by decide
  intro member
  obtain ⟨char, among, zero⟩ := List.mem_map.mp member
  rcases List.mem_append.mp among with early | digits
  · exact front (List.mem_map.mpr ⟨char, early, zero⟩)
  · have read := digit_byte (Nat.isDigit_of_mem_toDigits (by decide) (by decide) digits)
    rw [zero] at read
    have digit := Nat.isDigit_of_mem_toDigits (by decide) (by decide) digits
    rw [← read] at digit
    cases digit

/-- No byte of the text before the number is the first of the topic. -/
theorem msg_getElem? {index : Nat} (front : index < 10) : (msg msgCount)[index]? ≠ topic.head? := by
  rw [msg, encode, List.map_append, List.getElem?_append_left front]
  revert front
  revert index
  decide

structure Shows (shown : Printed) (msgCount : Nat) : Prop where
  text : shown.text = msg msgCount
  topic : shown.topic ≠ topic

theorem shows_whole (brings : Brings message msgCount) (few : msgCount < 10 ^ 117) (may : MayRead message ret)
    {shown : Printed} (prints : onPublish message ret = some (some shown)) (whole : remainingPayload message ret = 0) :
    Shows shown msgCount := by
  obtain ⟨long, short⟩ := length_msg few
  rw [← brings.payload] at long short
  have all : publishLen message = message.payload.length := by
    rw [publishLen, Nat.mod_eq_of_lt (Nat.lt_of_le_of_lt short (by decide)), if_neg]
    unfold mqttClientRxBufLen
    omega
  have fewer := may.le
  rw [remainingPayload] at whole
  obtain ⟨ended, final, line⟩ := onPublish_eq may (by omega)
  rw [prints] at line
  obtain rfl := Option.some.inj (Option.some.inj line)
  have read : message.payload.take ret.toNat = message.payload := List.take_of_length_le (by omega)
  refine ⟨?_, ?_⟩
  · show cString ended.bytes = _
    rw [final, finalBytes, read, all, cString_set_zero, List.take_left', (cString_eq_self_iff _).mpr, brings.payload]
    · rw [brings.payload]
      exact zero_notMem_msg msgCount
    · rfl
    · rw [List.length_append, List.length_drop, message.rxBuff.sized]
      unfold mqttClientRxBufLen
      omega
  · intro same
    obtain ⟨first, last⟩ := brings.header
    have sized : message.topicSize = 11 := by
      rw [← message.rxBuff.length_slice message.topicInside]
      exact congrArg List.length brings.topic
    obtain ⟨rest, begins⟩ := List.takeWhile_prefix (l := ended.slice message.topicOffset message.topicSize) (· != 0)
    have head : (ended.slice message.topicOffset message.topicSize).head? = topic.head? := by
      rw [← begins]
      show (cString _ ++ rest).head? = _
      rw [show cString (ended.slice message.topicOffset message.topicSize) = topic from same]
      rfl
    rw [Buffer.slice, List.head?_take, if_neg (by omega), List.head?_drop, final, finalBytes_getElem? may,
      if_neg (by omega), if_pos (by omega), brings.payload] at head
    exact msg_getElem? (by omega) head

inductive Moves (before : State) : Event → State → List Mark → Prop where
  | publish :
      Moves before .publish
        { before with msgCount := before.msgCount + 1, waiting := before.waiting ++ [before.msgCount] } []
  | lose (index : Nat) : Moves before (.lose index) { before with waiting := before.waiting.eraseIdx index } []
  | deliver {message ret internal msgCount rest client emitted} (waiting : before.waiting = msgCount :: rest)
      (brings : Brings message msgCount)
      (handled : MqttClient.step .m5Core2 before.client (.delivered (.publish message ret) internal) =
        some (client, emitted)) :
      Moves before (.deliver message ret internal) { before with waiting := rest, client } emitted
  | client {event client emitted} (other : isPublish event = false)
      (handled : MqttClient.step .m5Core2 before.client event = some (client, emitted)) :
      Moves before (.client event) { before with client } emitted

theorem step_moves (moved : machine.step before event = some (after, emitted)) : Moves before event after emitted := by
  cases event with
  | publish =>
    cases moved
    exact .publish
  | lose index =>
    cases moved
    exact .lose index
  | deliver message ret internal =>
    simp only [machine, step] at moved
    split at moved
    next => cases moved
    next waiting =>
      split at moved
      next brings =>
        obtain ⟨⟨client, marks⟩, handled, same⟩ := Option.map_eq_some_iff.mp moved
        cases same
        exact .deliver waiting brings handled
      next => cases moved
  | client event =>
    simp only [machine, step] at moved
    split at moved
    next => cases moved
    next other =>
      obtain ⟨⟨client, marks⟩, handled, same⟩ := Option.map_eq_some_iff.mp moved
      cases same
      exact .client (by simpa using other) handled

variable {board : Board} {client client' : MqttClient.State} {internal : Nat}

/-- Anything but a PUBLISH prints no such line. -/
theorem lines_other {event : MqttClient.Event} (other : isPublish event = false)
    (handled : MqttClient.step board client event = some (client', emitted)) : lines emitted = [] := by
  cases MqttRuns.move_of_step handled with
  | published => cases other
  | @heard event internal here accepted unpublished =>
    cases event with
    | publish message ret => exact absurd rfl (unpublished message ret)
    | _ => rfl
  | _ => rfl

theorem lines_publish
    (handled : MqttClient.step board client (.delivered (.publish message ret) internal) = some (client', emitted)) :
    lines emitted = [] ∨ ∃ shown, lines emitted = [shown] ∧ MayRead message ret ∧
      onPublish message ret = some (some shown) ∧ remainingPayload message ret = 0 := by
  cases MqttRuns.move_of_step handled with
  | heard here other unpublished => exact absurd rfl (unpublished message ret)
  | @published _ _ shown _ here may prints =>
    cases shown with
    | none => exact Or.inl rfl
    | some shown =>
      by_cases whole : remainingPayload message ret = 0
      · exact Or.inr ⟨shown, by rw [whole]; rfl, may, prints, whole⟩
      · apply Or.inl
        obtain ⟨more, left⟩ := Nat.exists_eq_succ_of_ne_zero whole
        rw [left]
        rfl

/-- The counts that have arrived cover the lines, and each line stands under another
topic. -/
structure Ordered (trace : List Mark) (state : State) : Prop where
  conveyed : ∃ arrived, Conveys (List.range state.msgCount) state.waiting arrived ∧
    ((lines trace).map Printed.text).Sublist (arrived.map msg)
  topics : ∀ shown ∈ lines trace, shown.topic ≠ topic

theorem Ordered.quiet (ordered : Ordered trace before) (silent : lines emitted = [])
    (kept : ∀ arrived, Conveys (List.range before.msgCount) before.waiting arrived →
      ∃ more, Conveys (List.range after.msgCount) after.waiting (arrived ++ more)) :
    Ordered (trace ++ emitted) after := by
  have same : lines (trace ++ emitted) = lines trace := by rw [lines_append, silent, List.append_nil]
  obtain ⟨⟨arrived, conveys, covered⟩, topics⟩ := ordered
  obtain ⟨more, conveyed⟩ := kept arrived conveys
  refine ⟨⟨arrived ++ more, conveyed, ?_⟩, same ▸ topics⟩
  rw [same, List.map_append]
  exact covered.trans (List.sublist_append_left _ _)

theorem Ordered.shown (ordered : Ordered trace before) {rest : List Nat} (waiting : before.waiting = msgCount :: rest)
    {shown : Printed} (only : lines emitted = [shown]) (shows : Shows shown msgCount)
    (count : after.msgCount = before.msgCount) (left : after.waiting = rest) : Ordered (trace ++ emitted) after := by
  have longer : lines (trace ++ emitted) = lines trace ++ [shown] := by rw [lines_append, only]
  obtain ⟨⟨arrived, conveys, covered⟩, topics⟩ := ordered
  rw [waiting] at conveys
  refine ⟨⟨arrived ++ [msgCount], ?_, ?_⟩, ?_⟩
  · rw [count, left]
    exact conveys.take
  · rw [longer, List.map_append, List.map_append, List.map_singleton, List.map_singleton, shows.text]
    exact covered.append (.refl _)
  · intro other member
    rw [longer] at member
    rcases List.mem_append.mp member with old | new
    · exact topics other old
    · rw [List.mem_singleton.mp new]
      exact shows.topic

theorem ordered (reached : machine.Reaches Guard.free trace state) (few : state.msgCount ≤ 10 ^ 117) :
    Ordered trace state := by
  induction reached with
  | start => exact ⟨⟨[], .idle, .slnil⟩, nofun⟩
  | @step trace before event after emitted _ _ moved ih =>
    cases step_moves moved with
    | publish =>
      apply (ih (Nat.le_of_succ_le few)).quiet rfl
      intro arrived conveys
      refine ⟨[], ?_⟩
      rw [List.append_nil, List.range_succ]
      exact conveys.send _
    | lose index =>
      apply (ih few).quiet rfl
      intro arrived conveys
      exact ⟨[], by rw [List.append_nil]; exact conveys.lose index⟩
    | client other handled =>
      apply (ih few).quiet (lines_other other handled)
      intro arrived conveys
      exact ⟨[], by rwa [List.append_nil]⟩
    | @deliver message ret internal msgCount rest client _ waiting brings handled =>
      have kept := ih few
      obtain ⟨arrived, conveys, -⟩ := kept.conveyed
      rw [waiting] at conveys
      have sent : msgCount < before.msgCount :=
        List.mem_range.mp (conveys.subset (List.mem_append_right _ (List.mem_cons_self ..)))
      rcases lines_publish handled with silent | ⟨shown, only, may, prints, whole⟩
      · apply kept.quiet silent
        intro arrived conveys
        rw [waiting] at conveys
        exact ⟨[msgCount], conveys.take⟩
      · exact kept.shown waiting only (shows_whole brings (Nat.lt_of_lt_of_le sent few) may prints whole) rfl rfl

/-- In every run the numbers on the console go up, and each line that was read to its
end is a message of the PC, word for word, under another topic than its own. -/
theorem messages_in_order (reached : machine.Reaches Guard.free trace state) (few : state.msgCount ≤ 10 ^ 117) :
    ∃ counts : List Nat, counts.Pairwise (· < ·) ∧ (∀ count ∈ counts, count < state.msgCount) ∧
      (lines trace).map Printed.text = counts.map msg ∧ ((lines trace).map Printed.text).Nodup ∧
      ∀ shown ∈ lines trace, shown.topic ≠ topic := by
  obtain ⟨⟨arrived, conveys, covered⟩, topics⟩ := ordered reached few
  obtain ⟨counts, among, texts⟩ := List.sublist_map_iff.mp covered
  have sent := among.trans conveys.sublist
  have rising : counts.Pairwise (· < ·) := List.pairwise_lt_range.sublist sent
  refine ⟨counts, rising, fun count member => List.mem_range.mp (sent.subset member), texts, ?_, topics⟩
  rw [texts]
  exact (rising.imp Nat.ne_of_lt).map msg fun _ _ differ same => differ (msg_inj same)

/-- `rx_buff` as the library leaves it in front of a payload of eleven bytes. -/
def onTopic (payload : List UInt8) (payloadBounded : payload.length < UInt32.size) : Publish where
  rxBuff := ⟨[0x30, 0x18, 0x00, 0x0B] ++ topic ++ List.replicate 113 0, by simp [topic, encode, mqttClientRxBufLen]⟩
  topicOffset := 4
  topicSize := 11
  payload := payload
  topicInside := by decide
  payloadBounded := payloadBounded

/-- The second of three messages is lost. -/
theorem messages_in_order_lost :
    ∃ trace state, machine.Reaches Guard.free trace state ∧ state.msgCount = 3 ∧
      (lines trace).map Printed.text = [msg 0, msg 2] ∧
      ∃ counts : List Nat, counts.Pairwise (· < ·) ∧ (∀ count ∈ counts, count < state.msgCount) ∧
        (lines trace).map Printed.text = counts.map msg ∧ ((lines trace).map Printed.text).Nodup ∧
        ∀ shown ∈ lines trace, shown.topic ≠ topic := by
  obtain ⟨trace, state, reached, found⟩ := machine.reaches_of_run Guard.free
    [.client (.initialised true), .client (.wifiRequested 0), .client (.wifiConnectResult 0), .client .main,
      .client .main, .client .ipv4AddrAdd, .client .main, .client .main, .client (.dnsContext true),
      .client (.dnsQueried 0), .client (.dnsResult .allDone), .client .main, .client .main,
      .client (.mqttConnected 0 2), .client .main, .client (.delivered (.connack 0) 4), .client (.inputReturned 0 4),
      .client (.liveReturned 4), .client .main, .client .main, .client (.callReturned 0 4), .publish, .publish,
      .publish, .lose 1, .client (.polled 1 ⟨true, false, false⟩), .deliver (onTopic (msg 0) (by decide)) 11 4,
      .deliver (onTopic (msg 2) (by decide)) 11 4, .client (.inputReturned 0 4)]
    (fun trace state => state.msgCount == 3 && (lines trace).map Printed.text == [msg 0, msg 2]) (by decide)
  simp only [Bool.and_eq_true, beq_iff_eq] at found
  refine ⟨trace, state, reached, found.1, found.2, messages_in_order reached ?_⟩
  rw [found.1]
  decide

end Dionysus.Proofs.MessageOrder
