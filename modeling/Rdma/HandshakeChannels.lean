import Mathlib.Algebra.Order.Ring.Nat
import Mathlib.Data.List.Basic
import Rdma.Types

/-!
The TCP channel of the handshake (`handshake_channel.h`, `tcp_handshake.cpp`).
`send` and `receive` move the bytes of one message in a loop of `write` or
`read` calls. The kernel's answers to these calls are a list; a call for which
there is no answer yet is blocked. However the kernel splits the two streams,
the messages received are those sent, in order (`messages_survive`).
-/
namespace Rdma.HandshakeChannels
open Rdma.Types

/-- `sizeof(HandshakeMessage)`. -/
def handshakeMessageSize : Nat := 128

/-- A message is the bytes of the object. -/
structure HandshakeMessage where
  bytes : List UInt8
  size : bytes.length = handshakeMessageSize

/-- What `write` or `read` returns: a number of bytes, or -1 with an error number. -/
inductive Answer
  | count (n : Nat)
  | error (errno : Int)
  deriving DecidableEq, Repr

def EINTR : Int := 4

structure TcpHandshakeChannel where
  fd : Int

/-- Where a call of `send` or `receive` is: the status that it has returned, unless it is blocked, the bytes that it has
    moved, the stream behind it, and the answers that are left. -/
structure Progress where
  status : Option Status
  moved : List UInt8
  stream : List UInt8
  answers : List Answer

/-- The loop of `send`, with `sent` bytes of the message accepted. `stream` is all that the kernel has accepted; it
    accepts no more than it is given. -/
def sendLoop (data : List UInt8) (sent : Nat) (stream : List UInt8) : List Answer → Progress
  | [] => if sent < data.length then ⟨none, data.take sent, stream, []⟩ else ⟨some Status.OK, data.take sent, stream, []⟩
  | answer :: rest =>
    if sent < data.length then
      match answer with
      | .error errno =>
        if errno = EINTR then sendLoop data sent stream rest
        else ⟨some (Status.ioError "write failed" errno), data.take sent, stream, rest⟩
      | .count n =>
        if n ≤ data.length - sent then sendLoop data (sent + n) (stream ++ (data.drop sent).take n) rest
        else ⟨none, data.take sent, stream, .count n :: rest⟩
    else ⟨some Status.OK, data.take sent, stream, answer :: rest⟩

def TcpHandshakeChannel.send (channel : TcpHandshakeChannel) (msg : HandshakeMessage) (stream : List UInt8)
    (answers : List Answer) : Progress :=
  if channel.fd < 0 then ⟨some (Status.invalidArgument "Channel not connected"), [], stream, answers⟩
  else sendLoop msg.bytes 0 stream answers

/-- The loop of `receive`, with the bytes read so far. `stream` is what is still to be read; the kernel returns no more
    than it is asked for, and while it has fewer bytes than it returns the call is blocked. -/
def receiveLoop (received stream : List UInt8) : List Answer → Progress
  | [] =>
    if received.length < handshakeMessageSize then ⟨none, received, stream, []⟩
    else ⟨some Status.OK, received, stream, []⟩
  | answer :: rest =>
    if received.length < handshakeMessageSize then
      match answer with
      | .error errno =>
        if errno = EINTR then receiveLoop received stream rest
        else ⟨some (Status.ioError "read failed" errno), received, stream, rest⟩
      | .count n =>
        if n = 0 then ⟨some (Status.connectionReset "Connection closed"), received, stream, rest⟩
        else if n ≤ handshakeMessageSize - received.length ∧ n ≤ stream.length then
          receiveLoop (received ++ stream.take n) (stream.drop n) rest
        else ⟨none, received, stream, .count n :: rest⟩
    else ⟨some Status.OK, received, stream, answer :: rest⟩

def TcpHandshakeChannel.receive (channel : TcpHandshakeChannel) (stream : List UInt8) (answers : List Answer) : Progress :=
  if channel.fd < 0 then ⟨some (Status.invalidArgument "Channel not connected"), [], stream, answers⟩
  else receiveLoop [] stream answers

/-! ### Sequences of calls -/

/-- One `send` for each message: what the calls have returned so far, and all that the kernel has accepted. -/
def sendAll (channel : TcpHandshakeChannel) : List HandshakeMessage → List UInt8 → List Answer → List Status × List UInt8
  | [], stream, _ => ([], stream)
  | msg :: rest, stream, answers =>
    let progress := channel.send msg stream answers
    match progress.status with
    | none => ([], progress.stream)
    | some status =>
      let (statuses, stream) := sendAll channel rest progress.stream progress.answers
      (status :: statuses, stream)

/-- So many calls of `receive`: what they have returned so far, with the bytes that they have read. -/
def receiveAll (channel : TcpHandshakeChannel) : Nat → List UInt8 → List Answer → List (Status × List UInt8)
  | 0, _, _ => []
  | calls + 1, stream, answers =>
    let progress := channel.receive stream answers
    match progress.status with
    | none => []
    | some status => (status, progress.moved) :: receiveAll channel calls progress.stream progress.answers

/-- The bytes of the messages that were received successfully. -/
def successes (returned : List (Status × List UInt8)) : List (List UInt8) :=
  (returned.filter (·.1.ok)).map (·.2)

theorem successes_ok {status : Status} (ok : status.ok = true) (bytes : List UInt8) (rest : List (Status × List UInt8)) :
    successes ((status, bytes) :: rest) = bytes :: successes rest := by simp [successes, ok]

theorem successes_failed {status : Status} (failed : status.ok = false) (bytes : List UInt8)
    (rest : List (Status × List UInt8)) : successes ((status, bytes) :: rest) = successes rest := by
  simp [successes, failed]

/-- How many bytes move. -/
def Answer.bytes : Answer → Nat
  | .count n => n
  | .error _ => 0

/-- The end of the stream, or an error other than an interruption. -/
def Answer.stops : Answer → Bool
  | .count n => n = 0
  | .error errno => errno ≠ EINTR

/-- No more bytes move on a stream that has ended or failed. -/
def Settled (answers : List Answer) : Prop :=
  answers.Pairwise fun earlier later => earlier.stops = true → later.bytes = 0

/-! ### One call -/

/-- What holds of a call of `send` that had `sent` bytes accepted, however far it has come. -/
structure Sends (data before : List UInt8) (sent : Nat) (answers : List Answer) (progress : Progress) : Prop where
  moved : progress.moved <+: data
  stream : progress.stream = before ++ progress.moved
  ok : ∀ status, progress.status = some status → (status.ok = true ↔ progress.moved = data)
  consumed : ∃ consumed, answers = consumed ++ progress.answers ∧
    progress.moved.length = min data.length (sent + (consumed.map Answer.bytes).sum) ∧
    ∀ status, progress.status = some status → status.ok = false → ∃ answer ∈ consumed, answer.stops = true

/-- What holds of a call of `receive` that had read `received` bytes, however far it has come. -/
structure Receives (before : List UInt8) (received : Nat) (answers : List Answer) (progress : Progress) : Prop where
  moved : progress.moved.length ≤ handshakeMessageSize
  stream : progress.moved ++ progress.stream = before
  ok : ∀ status, progress.status = some status →
    (status.ok = true ↔ progress.moved.length = handshakeMessageSize)
  consumed : ∃ consumed, answers = consumed ++ progress.answers ∧
    progress.moved.length = received + (consumed.map Answer.bytes).sum ∧
    ∀ status, progress.status = some status → (status.ok = false ↔ ∃ answer ∈ consumed, answer.stops = true)

theorem Sends.cons {data before : List UInt8} {sent : Nat} {answers : List Answer} {progress : Progress}
    (answer : Answer) (sends : Sends data before (sent + answer.bytes) answers progress) :
    Sends data before sent (answer :: answers) progress := by
  obtain ⟨consumed, same, length, fails⟩ := sends.consumed
  refine ⟨sends.moved, sends.stream, sends.ok, answer :: consumed, by rw [same]; rfl, ?_, fun status returned failed => ?_⟩
  · rw [length, List.map_cons, List.sum_cons, Nat.add_assoc]
  · obtain ⟨stop, member, stops⟩ := fails status returned failed
    exact ⟨stop, List.mem_cons_of_mem _ member, stops⟩

theorem Receives.cons {before : List UInt8} {received : Nat} {answers : List Answer} {progress : Progress}
    (answer : Answer) (receives : Receives before (received + answer.bytes) answers progress)
    (passes : answer.stops = false) : Receives before received (answer :: answers) progress := by
  obtain ⟨consumed, same, length, fails⟩ := receives.consumed
  refine ⟨receives.moved, receives.stream, receives.ok, answer :: consumed, by rw [same]; rfl, ?_,
    fun status returned => ?_⟩
  · rw [length, List.map_cons, List.sum_cons, Nat.add_assoc]
  · rw [fails status returned]
    simp [passes]

theorem sendLoop_done {data : List UInt8} {sent : Nat} (all : data.length ≤ sent) (stream : List UInt8)
    (answers : List Answer) : sendLoop data sent stream answers = ⟨some Status.OK, data, stream, answers⟩ := by
  have finished : ¬sent < data.length := Nat.not_lt.mpr all
  cases answers <;> simp [sendLoop, finished, List.take_of_length_le all]

theorem receiveLoop_done {received : List UInt8} (all : handshakeMessageSize ≤ received.length) (stream : List UInt8)
    (answers : List Answer) : receiveLoop received stream answers = ⟨some Status.OK, received, stream, answers⟩ := by
  have finished : ¬received.length < handshakeMessageSize := Nat.not_lt.mpr all
  cases answers <;> simp [receiveLoop, finished]

/-- A prefix that is not all. -/
theorem take_ne {data : List UInt8} {sent : Nat} (more : sent < data.length) : data.take sent ≠ data := by
  intro whole
  have length := congrArg List.length whole
  rw [List.length_take] at length
  omega

theorem sendLoop_sends (data base : List UInt8) (answers : List Answer) (sent : Nat) :
    Sends data base sent answers (sendLoop data sent (base ++ data.take sent) answers) := by
  induction answers generalizing sent with
  | nil =>
    by_cases more : sent < data.length
    · rw [sendLoop, if_pos more]
      exact ⟨List.take_prefix .., rfl, nofun, [], rfl, by simp [Nat.min_comm], nofun⟩
    · rw [sendLoop_done (Nat.not_lt.mp more), List.take_of_length_le (Nat.not_lt.mp more)]
      exact ⟨List.prefix_rfl, rfl, by simp, [], rfl, by simp; omega, by simp⟩
  | cons answer rest ih =>
    by_cases more : sent < data.length
    · cases answer with
      | error errno =>
        rw [sendLoop, if_pos more]
        split
        · exact (ih sent).cons (.error errno)
        · rename_i fails
          refine ⟨List.take_prefix .., rfl, ?_, [.error errno], rfl, ?_, ?_⟩
          · simp [take_ne more]
          · simp [Answer.bytes, Nat.min_comm]
          · simp [Answer.stops, fails]
      | count n =>
        rw [sendLoop, if_pos more]
        split
        · have next : base ++ data.take sent ++ (data.drop sent).take n = base ++ data.take (sent + n) := by
            rw [List.append_assoc, List.take_add]
          rw [next]
          exact (ih (sent + n)).cons (.count n)
        · exact ⟨List.take_prefix .., rfl, nofun, [], rfl, by simp [Nat.min_comm], nofun⟩
    · rw [sendLoop_done (Nat.not_lt.mp more), List.take_of_length_le (Nat.not_lt.mp more)]
      exact ⟨List.prefix_rfl, rfl, by simp, [], rfl, by simp; omega, by simp⟩

theorem receiveLoop_receives (received stream : List UInt8) (answers : List Answer)
    (inside : received.length ≤ handshakeMessageSize) :
    Receives (received ++ stream) received.length answers (receiveLoop received stream answers) := by
  induction answers generalizing received stream with
  | nil =>
    by_cases more : received.length < handshakeMessageSize
    · rw [receiveLoop, if_pos more]
      exact ⟨inside, rfl, nofun, [], rfl, rfl, nofun⟩
    · rw [receiveLoop_done (Nat.not_lt.mp more)]
      exact ⟨inside, rfl, by simp; omega, [], rfl, rfl, by simp⟩
  | cons answer rest ih =>
    by_cases more : received.length < handshakeMessageSize
    · cases answer with
      | error errno =>
        rw [receiveLoop, if_pos more]
        split
        · rename_i interrupted
          exact (ih received stream inside).cons (.error errno) (by simp [Answer.stops, interrupted])
        · rename_i fails
          refine ⟨inside, rfl, ?_, [.error errno], rfl, rfl, ?_⟩
          · simp [Nat.ne_of_lt more]
          · simp [Answer.stops, fails]
      | count n =>
        rw [receiveLoop, if_pos more]
        split
        · rename_i ended
          refine ⟨inside, rfl, ?_, [.count n], rfl, ?_, ?_⟩
          · simp [Nat.ne_of_lt more]
          · simp [Answer.bytes, ended]
          · simp [Answer.stops, ended]
        · rename_i some_bytes
          split
          · rename_i fits
            have length : (received ++ stream.take n).length = received.length + n := by
              rw [List.length_append, List.length_take, Nat.min_eq_left fits.2]
            have whole : received ++ stream = (received ++ stream.take n) ++ stream.drop n := by
              rw [List.append_assoc, List.take_append_drop]
            have later := ih (received ++ stream.take n) (stream.drop n) (by omega)
            rw [length, ← whole] at later
            exact later.cons (.count n) (by simp [Answer.stops, some_bytes])
          · exact ⟨inside, rfl, nofun, [], rfl, rfl, nofun⟩
    · rw [receiveLoop_done (Nat.not_lt.mp more)]
      exact ⟨inside, rfl, by simp; omega, [], rfl, rfl, by simp⟩

section Calls
variable {channel : TcpHandshakeChannel} (connected : 0 ≤ channel.fd)
include connected

theorem send_sends (msg : HandshakeMessage) (stream : List UInt8) (answers : List Answer) :
    Sends msg.bytes stream 0 answers (channel.send msg stream answers) := by
  have loop := sendLoop_sends msg.bytes stream answers 0
  rw [List.take_zero, List.append_nil] at loop
  rw [TcpHandshakeChannel.send, if_neg (Int.not_lt.mpr connected)]
  exact loop

theorem receive_receives (stream : List UInt8) (answers : List Answer) :
    Receives stream 0 answers (channel.receive stream answers) := by
  have loop := receiveLoop_receives [] stream answers (Nat.zero_le _)
  rw [TcpHandshakeChannel.receive, if_neg (Int.not_lt.mpr connected)]
  exact loop

/-! ### Streams that have ended -/

/-- No more bytes move. -/
def Dry (answers : List Answer) : Prop := ∀ answer ∈ answers, answer.bytes = 0

omit connected in
theorem dry_sum {consumed left : List Answer} (dry : Dry (consumed ++ left)) :
    (consumed.map Answer.bytes).sum = 0 ∧ Dry left := by
  constructor
  · rw [List.sum_eq_zero_iff_forall_eq_nat]
    intro n listed
    obtain ⟨answer, member, rfl⟩ := List.mem_map.mp listed
    exact dry answer (List.mem_append_left _ member)
  · exact fun answer member => dry answer (List.mem_append_right _ member)

omit connected in
/-- Behind an answer that stops, the stream is dry. -/
theorem settled_dry {consumed left : List Answer} (settled : Settled (consumed ++ left)) {stop : Answer}
    (member : stop ∈ consumed) (stops : stop.stops = true) : Dry left :=
  fun answer later => (List.pairwise_append.mp settled).2.2 stop member answer later stops

omit connected in
theorem settled_left {consumed left : List Answer} (settled : Settled (consumed ++ left)) : Settled left :=
  (List.pairwise_append.mp settled).2.1

/-- Nothing more is accepted. -/
theorem dry_sendAll (messages : List HandshakeMessage) (stream : List UInt8) {answers : List Answer} (dry : Dry answers) :
    (sendAll channel messages stream answers).2 = stream := by
  induction messages generalizing stream answers with
  | nil => rfl
  | cons msg rest ih =>
    have sends := send_sends connected msg stream answers
    obtain ⟨consumed, same, length, -⟩ := sends.consumed
    rw [same] at dry
    obtain ⟨nothing, left⟩ := dry_sum dry
    rw [nothing, Nat.add_zero, Nat.min_zero] at length
    have unchanged := sends.stream
    rw [List.eq_nil_of_length_eq_zero length, List.append_nil] at unchanged
    rw [sendAll]
    cases status : (channel.send msg stream answers).status with
    | none => exact unchanged
    | some status =>
      dsimp only
      rw [unchanged]
      exact ih stream left

/-- Nothing more is received successfully. -/
theorem dry_receiveAll (calls : Nat) (stream : List UInt8) {answers : List Answer} (dry : Dry answers) :
    successes (receiveAll channel calls stream answers) = [] := by
  induction calls generalizing stream answers with
  | zero => rfl
  | succ calls ih =>
    have receives := receive_receives connected stream answers
    obtain ⟨consumed, same, length, -⟩ := receives.consumed
    rw [same] at dry
    obtain ⟨nothing, left⟩ := dry_sum dry
    rw [receiveAll]
    cases returned : (channel.receive stream answers).status with
    | none => rfl
    | some status =>
      have failed : status.ok = false := by
        rw [← Bool.not_eq_true, receives.ok status returned, length, nothing]
        decide
      dsimp only
      rw [successes_failed failed]
      exact ih (channel.receive stream answers).stream left

/-! ### Whole streams -/

/-- What the kernel accepts is the messages in order, up to where it stops. -/
theorem sendAll_prefix (messages : List HandshakeMessage) (stream : List UInt8) {answers : List Answer}
    (settled : Settled answers) :
    ∃ accepted, (sendAll channel messages stream answers).2 = stream ++ accepted ∧
      accepted <+: (messages.map HandshakeMessage.bytes).flatten := by
  induction messages generalizing stream answers with
  | nil => exact ⟨[], (List.append_nil _).symm, List.prefix_rfl⟩
  | cons msg rest ih =>
    have sends := send_sends connected msg stream answers
    obtain ⟨consumed, same, -, stops⟩ := sends.consumed
    rw [same] at settled
    have first : (channel.send msg stream answers).moved <+: ((msg :: rest).map HandshakeMessage.bytes).flatten :=
      sends.moved.trans (List.prefix_append ..)
    rw [sendAll]
    cases returned : (channel.send msg stream answers).status with
    | none => exact ⟨_, sends.stream, first⟩
    | some status =>
      dsimp only
      cases ok : status.ok with
      | true =>
        have whole := (sends.ok status returned).mp ok
        obtain ⟨accepted, more, ordered⟩ := ih (channel.send msg stream answers).stream (settled_left settled)
        refine ⟨msg.bytes ++ accepted, ?_, ?_⟩
        · rw [more, sends.stream, whole, List.append_assoc]
        · rw [List.map_cons, List.flatten_cons]
          exact (List.prefix_append_right_inj _).mpr ordered
      | false =>
        obtain ⟨stop, member, stopped⟩ := stops status returned ok
        rw [dry_sendAll connected rest _ (settled_dry settled member stopped)]
        exact ⟨_, sends.stream, first⟩

/-- The successful calls of `receive` return the messages of a stream in order. -/
theorem receiveAll_prefix (messages : List HandshakeMessage) (calls : Nat) {stream : List UInt8} {answers : List Answer}
    (settled : Settled answers) (ordered : stream <+: (messages.map HandshakeMessage.bytes).flatten) :
    successes (receiveAll channel calls stream answers) <+: messages.map HandshakeMessage.bytes := by
  induction calls generalizing messages stream answers with
  | zero => exact List.nil_prefix
  | succ calls ih =>
    have receives := receive_receives connected stream answers
    obtain ⟨consumed, same, -, stops⟩ := receives.consumed
    rw [same] at settled
    rw [receiveAll]
    cases returned : (channel.receive stream answers).status with
    | none => exact List.nil_prefix
    | some status =>
      dsimp only
      cases ok : status.ok with
      | true =>
        have full := (receives.ok status returned).mp ok
        obtain ⟨behind, whole⟩ := ordered
        rw [← receives.stream, List.append_assoc] at whole
        cases messages with
        | nil =>
          have empty := (List.append_eq_nil_iff.mp whole).1
          rw [empty] at full
          cases full
        | cons msg rest =>
          obtain ⟨first, others⟩ := List.append_inj whole (full.trans msg.size.symm)
          rw [successes_ok ok, List.map_cons]
          exact List.cons_prefix_cons.mpr ⟨first, ih rest (settled_left settled) ⟨behind, others⟩⟩
      | false =>
        obtain ⟨stop, member, stopped⟩ := (stops status returned).mp ok
        rw [successes_failed ok, dry_receiveAll connected calls _ (settled_dry settled member stopped)]
        exact List.nil_prefix

/-- What a returned call of `receive` says: it succeeds exactly if it has read all bytes of a message, and fails
    exactly if the stream has ended or failed meanwhile. -/
theorem receive_whole_iff (stream : List UInt8) (answers : List Answer) {status : Status}
    (returned : (channel.receive stream answers).status = some status) :
    (status.ok = true ↔ (channel.receive stream answers).moved.length = handshakeMessageSize) ∧
      ∃ consumed, answers = consumed ++ (channel.receive stream answers).answers ∧
        (status.ok = false ↔ ∃ answer ∈ consumed, answer.stops = true) := by
  have receives := receive_receives connected stream answers
  obtain ⟨consumed, same, -, stops⟩ := receives.consumed
  exact ⟨receives.ok status returned, consumed, same, stops status returned⟩

end Calls

/-! ### Every splitting -/

/-- Some interruptions, and then some bytes. -/
structure Piece where
  interruptions : Nat
  bytes : Nat

def Piece.answers (piece : Piece) : List Answer :=
  List.replicate piece.interruptions (.error EINTR) ++ [.count piece.bytes]

/-- The pieces of one message. -/
def Splits (size : Nat) (pieces : List Piece) : Prop :=
  (∀ piece ∈ pieces, 0 < piece.bytes) ∧ (pieces.map Piece.bytes).sum = size

theorem sendLoop_piece (data : List UInt8) (sent : Nat) (stream : List UInt8) (piece : Piece)
    (fits : sent + piece.bytes ≤ data.length) (positive : 0 < piece.bytes) (rest : List Answer) :
    sendLoop data sent stream (piece.answers ++ rest) =
      sendLoop data (sent + piece.bytes) (stream ++ (data.drop sent).take piece.bytes) rest := by
  obtain ⟨interruptions, bytes⟩ := piece
  have more : sent < data.length := Nat.lt_of_lt_of_le (Nat.lt_add_of_pos_right positive) fits
  induction interruptions with
  | zero =>
    change sendLoop data sent stream (.count bytes :: rest) = _
    rw [sendLoop, if_pos more, if_pos (by dsimp only at fits; omega)]
  | succ interruptions ih =>
    rw [← ih fits positive]
    change sendLoop data sent stream (.error EINTR :: _) = _
    rw [sendLoop, if_pos more, if_pos rfl]
    rfl

theorem receiveLoop_piece (received stream : List UInt8) (piece : Piece)
    (fits : received.length + piece.bytes ≤ handshakeMessageSize) (there : piece.bytes ≤ stream.length)
    (positive : 0 < piece.bytes) (rest : List Answer) :
    receiveLoop received stream (piece.answers ++ rest) =
      receiveLoop (received ++ stream.take piece.bytes) (stream.drop piece.bytes) rest := by
  obtain ⟨interruptions, bytes⟩ := piece
  have more : received.length < handshakeMessageSize := Nat.lt_of_lt_of_le (Nat.lt_add_of_pos_right positive) fits
  induction interruptions with
  | zero =>
    change receiveLoop received stream (.count bytes :: rest) = _
    rw [receiveLoop, if_pos more, if_neg (Nat.ne_of_gt positive), if_pos ⟨by dsimp only at fits; omega, there⟩]
  | succ interruptions ih =>
    rw [← ih fits there positive]
    change receiveLoop received stream (.error EINTR :: _) = _
    rw [receiveLoop, if_pos more, if_pos rfl]
    rfl

theorem splits_cons {size : Nat} {piece : Piece} {pieces : List Piece} (splits : Splits size (piece :: pieces)) :
    0 < piece.bytes ∧ piece.bytes ≤ size ∧ Splits (size - piece.bytes) pieces := by
  obtain ⟨positive, total⟩ := splits
  rw [List.map_cons, List.sum_cons] at total
  exact ⟨positive piece List.mem_cons_self, by omega, fun other member => positive other (List.mem_cons_of_mem _ member),
    by omega⟩

theorem sendLoop_splits (data : List UInt8) (sent : Nat) (stream : List UInt8) {pieces : List Piece}
    (inside : sent ≤ data.length) (splits : Splits (data.length - sent) pieces) (rest : List Answer) :
    sendLoop data sent stream (pieces.flatMap Piece.answers ++ rest) =
      ⟨some Status.OK, data, stream ++ data.drop sent, rest⟩ := by
  induction pieces generalizing sent stream with
  | nil =>
    have all : data.length ≤ sent := by
      have none_left : 0 = data.length - sent := splits.2
      omega
    rw [List.drop_of_length_le all, List.append_nil]
    exact sendLoop_done all ..
  | cons piece pieces ih =>
    obtain ⟨positive, fits, others⟩ := splits_cons splits
    rw [List.flatMap_cons, List.append_assoc, sendLoop_piece data sent stream piece (by omega) positive,
      ih (sent + piece.bytes) _ (by omega) (by rwa [Nat.sub_add_eq]), List.append_assoc, ← List.drop_drop,
      List.take_append_drop]

theorem receiveLoop_splits (received stream : List UInt8) {pieces : List Piece}
    (inside : received.length ≤ handshakeMessageSize)
    (there : handshakeMessageSize - received.length ≤ stream.length)
    (splits : Splits (handshakeMessageSize - received.length) pieces) (rest : List Answer) :
    receiveLoop received stream (pieces.flatMap Piece.answers ++ rest) =
      ⟨some Status.OK, received ++ stream.take (handshakeMessageSize - received.length),
        stream.drop (handshakeMessageSize - received.length), rest⟩ := by
  induction pieces generalizing received stream with
  | nil =>
    have none_left : 0 = handshakeMessageSize - received.length := splits.2
    rw [← none_left, List.take_zero, List.append_nil, List.drop_zero]
    exact receiveLoop_done (by omega) ..
  | cons piece pieces ih =>
    obtain ⟨positive, fits, others⟩ := splits_cons splits
    have length : (received ++ stream.take piece.bytes).length = received.length + piece.bytes := by
      rw [List.length_append, List.length_take, Nat.min_eq_left (by omega)]
    obtain ⟨left, total⟩ : ∃ left, handshakeMessageSize - received.length = piece.bytes + left :=
      ⟨_, (Nat.add_sub_cancel' fits).symm⟩
    have behind : handshakeMessageSize - (received ++ stream.take piece.bytes).length = left := by omega
    rw [total, Nat.add_sub_cancel_left] at others
    rw [List.flatMap_cons, List.append_assoc, receiveLoop_piece received stream piece (by omega) (by omega) positive,
      ih (received ++ stream.take piece.bytes) (stream.drop piece.bytes) (by omega) (by rw [List.length_drop]; omega)
        (by rwa [behind]), behind, total, List.append_assoc, List.drop_drop, List.take_add]

/-- The messages sent and received in pieces, one list of pieces for each of them. -/
def piecewise (splitting : List (List Piece)) : List Answer := splitting.flatMap (·.flatMap Piece.answers)

/-- However each message is split, all of them are sent. -/
theorem sendAll_splits {channel : TcpHandshakeChannel} (connected : 0 ≤ channel.fd) (messages : List HandshakeMessage)
    (stream : List UInt8) {splitting : List (List Piece)} (each : splitting.length = messages.length)
    (splits : ∀ pieces ∈ splitting, Splits handshakeMessageSize pieces) :
    sendAll channel messages stream (piecewise splitting) =
      (messages.map fun _ => Status.OK, stream ++ (messages.map HandshakeMessage.bytes).flatten) := by
  induction messages generalizing stream splitting with
  | nil => simp [sendAll]
  | cons msg rest ih =>
    obtain ⟨pieces, others, rfl⟩ := List.exists_cons_of_length_eq_add_one each
    have first : channel.send msg stream (piecewise (pieces :: others)) =
        ⟨some Status.OK, msg.bytes, stream ++ msg.bytes, piecewise others⟩ := by
      rw [TcpHandshakeChannel.send, if_neg (Int.not_lt.mpr connected)]
      refine sendLoop_splits msg.bytes 0 stream (Nat.zero_le _) ?_ _
      rw [msg.size]
      exact splits pieces List.mem_cons_self
    have later := ih (stream ++ msg.bytes) (Nat.succ.inj each) fun other member => splits other (List.mem_cons_of_mem _ member)
    rw [sendAll, first]
    dsimp only
    rw [later, List.map_cons, List.map_cons, List.flatten_cons, List.append_assoc]

/-- However each message is split, all of them are received. -/
theorem receiveAll_splits {channel : TcpHandshakeChannel} (connected : 0 ≤ channel.fd) (messages : List HandshakeMessage)
    (behind : List UInt8) {splitting : List (List Piece)} (each : splitting.length = messages.length)
    (splits : ∀ pieces ∈ splitting, Splits handshakeMessageSize pieces) :
    receiveAll channel messages.length ((messages.map HandshakeMessage.bytes).flatten ++ behind) (piecewise splitting) =
      messages.map fun msg => (Status.OK, msg.bytes) := by
  induction messages generalizing splitting with
  | nil => rfl
  | cons msg rest ih =>
    obtain ⟨pieces, others, rfl⟩ := List.exists_cons_of_length_eq_add_one each
    have first : channel.receive (((msg :: rest).map HandshakeMessage.bytes).flatten ++ behind)
        (piecewise (pieces :: others)) =
        ⟨some Status.OK, msg.bytes, (rest.map HandshakeMessage.bytes).flatten ++ behind, piecewise others⟩ := by
      rw [TcpHandshakeChannel.receive, if_neg (Int.not_lt.mpr connected), List.map_cons, List.flatten_cons,
        List.append_assoc]
      have loop := receiveLoop_splits [] (msg.bytes ++ ((rest.map HandshakeMessage.bytes).flatten ++ behind))
        (Nat.zero_le _) (by simp [msg.size]) (splits pieces List.mem_cons_self) (piecewise others)
      rw [List.length_nil, Nat.sub_zero, List.nil_append, ← msg.size, List.take_left, List.drop_left] at loop
      exact loop
    have later := ih (Nat.succ.inj each) fun other member => splits other (List.mem_cons_of_mem _ member)
    rw [List.length_cons, receiveAll, first]
    dsimp only
    rw [later, List.map_cons]

/-- The messages received successfully are the first of those sent, however the kernel splits the streams and wherever
    they end. If every message gets through in pieces, all are sent and received. And a call of `receive` succeeds
    exactly if it has read a whole message, and fails exactly if the stream has ended or failed meanwhile. -/
theorem messages_survive {sender receiver : TcpHandshakeChannel} (connected : 0 ≤ sender.fd ∧ 0 ≤ receiver.fd)
    (messages : List HandshakeMessage) :
    (∀ writes reads stream calls, Settled writes → Settled reads → stream <+: (sendAll sender messages [] writes).2 →
      successes (receiveAll receiver calls stream reads) <+: messages.map HandshakeMessage.bytes) ∧
    (∀ writes reads : List (List Piece), writes.length = messages.length → reads.length = messages.length →
      (∀ pieces ∈ writes ++ reads, Splits handshakeMessageSize pieces) →
      sendAll sender messages [] (piecewise writes) =
        (messages.map fun _ => Status.OK, (messages.map HandshakeMessage.bytes).flatten) ∧
      receiveAll receiver messages.length (messages.map HandshakeMessage.bytes).flatten (piecewise reads) =
        messages.map fun msg => (Status.OK, msg.bytes)) ∧
    ∀ stream answers status, (receiver.receive stream answers).status = some status →
      (status.ok = true ↔ (receiver.receive stream answers).moved.length = handshakeMessageSize) ∧
      ∃ consumed, answers = consumed ++ (receiver.receive stream answers).answers ∧
        (status.ok = false ↔ ∃ answer ∈ consumed, answer.stops = true) := by
  refine ⟨fun writes reads stream calls written read arrived => ?_, fun writes reads sends receives splits => ?_,
    fun stream answers status returned => receive_whole_iff connected.2 stream answers returned⟩
  · obtain ⟨accepted, all, ordered⟩ := sendAll_prefix connected.1 messages [] written
    rw [all, List.nil_append] at arrived
    exact receiveAll_prefix connected.2 messages calls read (arrived.trans ordered)
  · have sent := sendAll_splits connected.1 messages [] sends fun pieces member => splits pieces (by simp [member])
    have received := receiveAll_splits connected.2 messages [] receives fun pieces member => splits pieces (by simp [member])
    rw [List.append_nil] at received
    exact ⟨sent, received⟩

/-- Two messages, sent in one piece each; the first is read in two pieces after three interruptions, the second at
    once. -/
theorem two_messages_received :
    receiveAll ⟨4⟩ 2 (List.replicate 128 7 ++ List.replicate 128 9) (piecewise [[⟨1, 100⟩, ⟨2, 28⟩], [⟨0, 128⟩]]) =
      [(Status.OK, List.replicate 128 7), (Status.OK, List.replicate 128 9)] := by
  have survive := messages_survive (show 0 ≤ (TcpHandshakeChannel.mk 3).fd ∧ 0 ≤ (TcpHandshakeChannel.mk 4).fd by decide)
    [⟨List.replicate 128 7, List.length_replicate⟩, ⟨List.replicate 128 9, List.length_replicate⟩]
  have both := survive.2.1 [[⟨0, 128⟩], [⟨0, 128⟩]] [[⟨1, 100⟩, ⟨2, 28⟩], [⟨0, 128⟩]] rfl rfl
    (by simp [Splits, handshakeMessageSize])
  simpa using both.2

end Rdma.HandshakeChannels
