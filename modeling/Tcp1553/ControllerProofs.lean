import Tcp1553.EncoderProofs
import Tcp1553.RunProofs

/-! # Requests and replies of the controller

    `sendAcyclicFrame` writes a packet and, for a transmit request, reads one
    reply with a receive timeout.  `beginSend` is the call up to the read,
    `endSend` the rest; between them the simulator may answer or not.

    The calls are serialised by `m_apiMutex`, the replies are not: the reply to a
    call that timed out stays in the socket, and the next read takes it.
    `Correlated` is what a caller expects, that the words it gets are those of the
    reply to its own request.  `correlated_iff` says when it is so: as long as no
    call reads a reply after an earlier call on the connection has timed out. -/

namespace TcpController

open TcpWire TcpEncoder LabelledRuns

/-! ## One call -/

/-- Where a call stands after its write: returned, or about to read. -/
inductive SendProgress where
  | returned (ret : Int)
  | reading (config : FrameConfig)
  deriving DecidableEq, Repr

/-- `sendAcyclicFrame` up to the read: the bytes handed to `write`, whether the
    write failed, and where the call stands. -/
structure SendStart where
  written     : Option (List UInt8)
  writeFailed : Bool
  progress    : SendProgress

/-- The first half of `sendAcyclicFrame`; `bytesSent` is what `write` returns. -/
def beginSend (frame : Option FrameConfig) (currentClientFd bytesSent : Int) : SendStart :=
  -- no simulator is connected
  if currentClientFd < 0 then ⟨none, false, .returned (-1)⟩
  else
    match frame with
    | none => ⟨none, false, .returned (-1)⟩
    | some config =>
        -- a short count is taken for a success
        if bytesSent < 0 then ⟨some (packetBytes config), true, .returned (-1)⟩
        else if config.mode = .rtToBc then ⟨some (packetBytes config), false, .reading config⟩
        else ⟨some (packetBytes config), false, .returned 0⟩

/-- The loop that copies the words of a response. -/
def storeResponse (response : Qemu1553Packet) (receivedData : Vector UInt16 32) :
    Vector UInt16 32 :=
  let receivedWords := if response.wc = 0 then 32 else response.wc.toNat
  Vector.ofFn fun i : Fin 32 =>
    if i.val < receivedWords then ntohs response.dataWords[i] else receivedData[i]

/-- The second half of `sendAcyclicFrame`; `bytes` is what `read` delivers, `none`
    when it fails or times out. -/
def endSend (response : Qemu1553Packet) (receivedData : Vector UInt16 32)
    (bytes : Option (List UInt8)) : Int × Vector UInt16 32 :=
  match bytes with
  | none => (-1, receivedData)
  | some bs =>
      -- a header is enough, and neither rt nor sa is compared
      if 6 ≤ bs.length then (0, storeResponse (response.readInto bs) receivedData)
      else (-1, receivedData)

/-- A whole packet is a success, and its words are stored. -/
theorem endSend_packet (response packet : Qemu1553Packet) (receivedData : Vector UInt16 32) :
    endSend response receivedData (some packet.bytes)
      = (0, storeResponse packet receivedData) := by
  have hlen : 6 ≤ packet.bytes.length := by
    rw [packet.length_bytes]
    decide
  rw [endSend]
  show (if 6 ≤ packet.bytes.length then _ else _) = _
  rw [if_pos hlen, Qemu1553Packet.readInto_bytes]

/-- `sendAcyclicFrame` as a whole; `bytesSent` is what `write` returns and `bytes` what
    `read` delivers. -/
def sendAcyclicFrame (config : FrameConfig) (currentClientFd bytesSent : Int)
    (response : Qemu1553Packet) (receivedData : Vector UInt16 32)
    (bytes : Option (List UInt8)) : Int × Vector UInt16 32 :=
  match (beginSend (some config) currentClientFd bytesSent).progress with
  | .returned ret => (ret, receivedData)
  | .reading _ => endSend response receivedData bytes

/-- Without a connection, or with a write that fails, nothing is stored. -/
theorem sendAcyclicFrame_failed (config : FrameConfig) {currentClientFd bytesSent : Int}
    (h : currentClientFd < 0 ∨ bytesSent < 0) (response : Qemu1553Packet)
    (receivedData : Vector UInt16 32) (bytes : Option (List UInt8)) :
    sendAcyclicFrame config currentClientFd bytesSent response receivedData bytes
      = (-1, receivedData) := by
  by_cases hfd : currentClientFd < 0
  · simp only [sendAcyclicFrame, beginSend, if_pos hfd]
  · have hsent : bytesSent < 0 := h.resolve_left hfd
    simp only [sendAcyclicFrame, beginSend, if_neg hfd, if_pos hsent]

section Written

variable {config : FrameConfig} {currentClientFd bytesSent : Int}

/-- A transmit request that was written reads. -/
theorem sendAcyclicFrame_reading (hmode : config.mode = .rtToBc) (hfd : ¬currentClientFd < 0)
    (hsent : ¬bytesSent < 0) (response : Qemu1553Packet) (receivedData : Vector UInt16 32)
    (bytes : Option (List UInt8)) :
    sendAcyclicFrame config currentClientFd bytesSent response receivedData bytes
      = endSend response receivedData bytes := by
  simp only [sendAcyclicFrame, beginSend, if_neg hfd, if_neg hsent, if_pos hmode]

/-- Any other frame that was written is a success. -/
theorem sendAcyclicFrame_written (hmode : config.mode ≠ .rtToBc) (hfd : ¬currentClientFd < 0)
    (hsent : ¬bytesSent < 0) (response : Qemu1553Packet) (receivedData : Vector UInt16 32)
    (bytes : Option (List UInt8)) :
    sendAcyclicFrame config currentClientFd bytesSent response receivedData bytes
      = (0, receivedData) := by
  simp only [sendAcyclicFrame, beginSend, if_neg hfd, if_neg hsent, if_neg hmode]

end Written

/-! ## The connection -/

/-- A transmit request on the wire. -/
structure Request where
  id     : Nat
  config : FrameConfig

/-- A reply in the socket, with the request it answers. -/
structure Reply where
  request : Nat
  packet  : Qemu1553Packet

/-- A call that waits in `read`, with the two buffers on its stack. -/
structure Reading where
  request      : Nat
  config       : FrameConfig
  response     : Qemu1553Packet
  receivedData : Vector UInt16 32

/-- What a finished call returned, the request it wrote, the request whose reply it
    read, and `receivedData` as it was given and as it is on return.  `sourced_step`
    ties `source` to the words. -/
structure SendRecord where
  frame        : Option FrameConfig
  request      : Option Nat
  ret          : Int
  source       : Option Nat
  given        : Vector UInt16 32
  receivedData : Vector UInt16 32

/-- One simulator connection: requests the simulator has not answered, all its
    replies, those of them nobody has read, the call that holds the mutex, and a
    record of the past. -/
structure Connection where
  clientFd    : Int
  nextRequest : Nat
  unanswered  : List Request
  answers     : List Reply
  socket      : List Reply
  reading     : Option Reading
  timeouts    : Nat
  returned    : List SendRecord

/-- A fresh connection. -/
def Connection.init (clientFd : Int) : Connection := ⟨clientFd, 0, [], [], [], none, 0, []⟩

/-- A call that starts, a reply that arrives, and the two ends of a read. -/
inductive ConnectionLabel where
  | call (frame : Option FrameConfig) (bytesSent : Int) (response : Qemu1553Packet)
      (receivedData : Vector UInt16 32)
  | arrive (packet : Qemu1553Packet)
  | read
  | timeout

/-- The start of a call on the connection. -/
def Connection.call (s : Connection) (frame : Option FrameConfig) (bytesSent : Int)
    (response : Qemu1553Packet) (receivedData : Vector UInt16 32) : Connection :=
  let start := beginSend frame s.clientFd bytesSent
  match start.progress with
  | .returned ret =>
      { s with
        clientFd := if start.writeFailed then -1 else s.clientFd
        returned := s.returned ++ [⟨frame, none, ret, none, receivedData, receivedData⟩] }
  | .reading config =>
      { s with
        nextRequest := s.nextRequest + 1
        unanswered := s.unanswered ++ [⟨s.nextRequest, config⟩]
        reading := some ⟨s.nextRequest, config, response, receivedData⟩ }

/-- The end of the waiting call, with what `read` delivered. -/
def Connection.finish (s : Connection) (c : Reading) (reply : Option Reply) : Connection :=
  let r := endSend c.response c.receivedData (reply.map fun m => m.packet.bytes)
  { s with
    socket := if reply.isSome then s.socket.tail else s.socket
    reading := none
    timeouts := if reply.isSome then s.timeouts else s.timeouts + 1
    returned := s.returned
      ++ [⟨some c.config, some c.request, r.1, reply.map Reply.request, c.receivedData, r.2⟩] }

/-- Steps of the connection.  A write that succeeds sends the whole packet, a reply
    carries the addresses of the oldest unanswered request, and a read times out
    only while no reply is there. -/
def connectionStep (s : Connection) : ConnectionLabel → Option Connection
  | .call frame bytesSent response receivedData =>
      match s.reading with
      | some _ => none
      | none =>
          if bytesSent = 70 ∨ bytesSent = -1 then
            some (s.call frame bytesSent response receivedData)
          else none
  | .arrive packet =>
      match s.unanswered with
      | [] => none
      | r :: rest =>
          if packet.rt = toUInt8 r.config.rt ∧ packet.sa = toUInt8 r.config.sa then
            some { s with
              unanswered := rest
              answers := s.answers ++ [⟨r.id, packet⟩]
              socket := s.socket ++ [⟨r.id, packet⟩] }
          else none
  | .read =>
      match s.reading, s.socket with
      | some c, m :: _ => some (s.finish c (some m))
      | _, _ => none
  | .timeout =>
      match s.reading, s.socket with
      | some c, [] => some (s.finish c none)
      | _, _ => none

/-- The words of a reply, as many as it announces, in place of those given. -/
def WordsOf (packet : Qemu1553Packet) (given words : Vector UInt16 32) : Prop :=
  ∀ i : Fin 32,
    words[i] = if i.val < meaningfulWords packet.wc then ntohs packet.dataWords[i] else given[i]

/-- What a call returned is what the reply to this request says. -/
def SendRecord.Tells (r : SendRecord) (answers : List Reply) (id : Nat) : Prop :=
  ∃ packet, ⟨id, packet⟩ ∈ answers ∧ WordsOf packet r.given r.receivedData

/-- Every transmit request that returned 0 read the reply to itself, and returned the
    words of that reply. -/
def Correlated (s : Connection) : Prop :=
  ∀ r ∈ s.returned, ∀ config, r.frame = some config → config.mode = .rtToBc → r.ret = 0 →
    ∃ id, r.request = some id ∧ r.source = some id ∧ r.Tells s.answers id

/-- No reply is read after a call on the connection has timed out. -/
def NoEarlierTimeout (s : Connection) : ConnectionLabel → Prop
  | .read => s.reading.isSome → s.socket ≠ [] → s.timeouts = 0
  | _ => True

/-! ## Replies come in request order -/

/-- The replies still to be read answer the last requests, one each: one for the
    waiting call and one for every call that has timed out.  No request is answered
    twice. -/
structure Ordered (s : Connection) : Prop where
  queue   : ∃ first, s.socket.map Reply.request ++ s.unanswered.map Request.id
      = List.range' first (s.timeouts + if s.reading.isSome then 1 else 0) ∧
    first + (s.timeouts + if s.reading.isSome then 1 else 0) = s.nextRequest
  reading : ∀ c, s.reading = some c → c.config.mode = .rtToBc ∧ c.request + 1 = s.nextRequest
  once    : s.answers.map Reply.request ++ s.unanswered.map Request.id = List.range s.nextRequest
  arrived : ∀ m ∈ s.socket, m ∈ s.answers

theorem ordered_init (clientFd : Int) : Ordered (Connection.init clientFd) where
  queue   := ⟨0, rfl, rfl⟩
  reading := fun _ hc => nomatch hc
  once    := rfl
  arrived := fun _ hm => nomatch hm

/-- A request has one reply, so `Tells` leaves no choice of words. -/
theorem Ordered.answer_unique {s : Connection} (h : Ordered s) {m m' : Reply} (hm : m ∈ s.answers)
    (hm' : m' ∈ s.answers) (heq : m.request = m'.request) : m = m' := by
  have hnodup : (s.answers.map Reply.request).Nodup :=
    List.Nodup.of_append_left (h.once ▸ List.nodup_range)
  exact List.inj_on_of_nodup_map hnodup hm hm' heq

/-- A call that returns without reading was no transmit request, or failed. -/
theorem beginSend_cases (frame : Option FrameConfig) (currentClientFd bytesSent : Int) :
    (∃ ret, (beginSend frame currentClientFd bytesSent).progress = .returned ret ∧
      ∀ config, frame = some config → config.mode = .rtToBc → ret ≠ 0) ∨
    ∃ config, (beginSend frame currentClientFd bytesSent).progress = .reading config ∧
      frame = some config ∧ config.mode = .rtToBc := by
  by_cases hfd : currentClientFd < 0
  · simp only [beginSend, if_pos hfd]
    exact Or.inl ⟨-1, rfl, fun _ _ _ => by decide⟩
  · cases frame with
    | none =>
        simp only [beginSend, if_neg hfd]
        exact Or.inl ⟨-1, rfl, fun _ _ _ => by decide⟩
    | some config =>
        by_cases hsent : bytesSent < 0
        · simp only [beginSend, if_neg hfd, if_pos hsent]
          exact Or.inl ⟨-1, rfl, fun _ _ _ => by decide⟩
        · by_cases hmode : config.mode = .rtToBc
          · simp only [beginSend, if_neg hfd, if_neg hsent, if_pos hmode]
            exact Or.inr ⟨config, rfl, rfl, hmode⟩
          · simp only [beginSend, if_neg hfd, if_neg hsent, if_neg hmode]
            refine Or.inl ⟨0, rfl, ?_⟩
            rintro c ⟨⟩ hc
            exact absurd hc hmode

/-- **What a call does first.**  It returns and leaves the wire alone, or it
    becomes the waiting call behind a new request. -/
theorem call_cases (s : Connection) (frame : Option FrameConfig) (bytesSent : Int)
    (response : Qemu1553Packet) (receivedData : Vector UInt16 32) :
    (∃ fd ret, s.call frame bytesSent response receivedData
        = { s with
            clientFd := fd
            returned := s.returned ++ [⟨frame, none, ret, none, receivedData, receivedData⟩] } ∧
      ∀ config, frame = some config → config.mode = .rtToBc → ret ≠ 0) ∨
    ∃ config, s.call frame bytesSent response receivedData
        = { s with
            nextRequest := s.nextRequest + 1
            unanswered := s.unanswered ++ [⟨s.nextRequest, config⟩]
            reading := some ⟨s.nextRequest, config, response, receivedData⟩ } ∧
      config.mode = .rtToBc := by
  rcases beginSend_cases frame s.clientFd bytesSent with ⟨ret, hp, hret⟩ | ⟨config, hp, -, hmode⟩
  · refine Or.inl ⟨if (beginSend frame s.clientFd bytesSent).writeFailed then -1 else s.clientFd,
      ret, ?_, hret⟩
    rw [Connection.call]
    simp only [hp]
  · refine Or.inr ⟨config, ?_, hmode⟩
    rw [Connection.call]
    simp only [hp]

/-- The end of a call, in both of its forms. -/
theorem finish_reply (s : Connection) (c : Reading) (m : Reply) :
    s.finish c (some m)
      = { s with
          socket := s.socket.tail
          reading := none
          returned := s.returned ++ [⟨some c.config, some c.request, 0, some m.request,
            c.receivedData, storeResponse m.packet c.receivedData⟩] } := by
  have hend := endSend_packet c.response m.packet c.receivedData
  rw [Connection.finish]
  simp only [Option.map_some, hend]
  rfl

theorem finish_timeout (s : Connection) (c : Reading) :
    s.finish c none
      = { s with
          reading := none
          timeouts := s.timeouts + 1
          returned := s.returned ++ [⟨some c.config, some c.request, -1, none,
            c.receivedData, c.receivedData⟩] } := rfl

/-- What a step does, one constructor for each way it can go. -/
inductive Connection.Moves (s : Connection) : ConnectionLabel → Connection → Prop where
  | returned {frame : Option FrameConfig} {bytesSent : Int} {response : Qemu1553Packet}
      {receivedData : Vector UInt16 32} {fd ret : Int} : s.reading = none →
      (∀ config, frame = some config → config.mode = .rtToBc → ret ≠ 0) →
      Moves s (.call frame bytesSent response receivedData)
        { s with
          clientFd := fd
          returned := s.returned ++ [⟨frame, none, ret, none, receivedData, receivedData⟩] }
  | requested {frame : Option FrameConfig} {bytesSent : Int} {response : Qemu1553Packet}
      {receivedData : Vector UInt16 32} {config : FrameConfig} : s.reading = none →
      config.mode = .rtToBc →
      Moves s (.call frame bytesSent response receivedData)
        { s with
          nextRequest := s.nextRequest + 1
          unanswered := s.unanswered ++ [⟨s.nextRequest, config⟩]
          reading := some ⟨s.nextRequest, config, response, receivedData⟩ }
  | arrived {packet : Qemu1553Packet} {r : Request} {rest : List Request} :
      s.unanswered = r :: rest →
      packet.rt = toUInt8 r.config.rt ∧ packet.sa = toUInt8 r.config.sa →
      Moves s (.arrive packet)
        { s with
          unanswered := rest
          answers := s.answers ++ [⟨r.id, packet⟩]
          socket := s.socket ++ [⟨r.id, packet⟩] }
  | replied {c : Reading} {m : Reply} {rest : List Reply} : s.reading = some c →
      s.socket = m :: rest →
      Moves s .read
        { s with
          socket := rest
          reading := none
          returned := s.returned ++ [⟨some c.config, some c.request, 0, some m.request,
            c.receivedData, storeResponse m.packet c.receivedData⟩] }
  | timedOut {c : Reading} : s.reading = some c → s.socket = [] →
      Moves s .timeout
        { s with
          reading := none
          timeouts := s.timeouts + 1
          returned := s.returned ++ [⟨some c.config, some c.request, -1, none,
            c.receivedData, c.receivedData⟩] }

/-- **The step function does nothing else.** -/
theorem connectionStep_moves {s s' : Connection} {l : ConnectionLabel}
    (hstep : connectionStep s l = some s') : s.Moves l s' := by
  cases l with
  | call frame bytesSent response receivedData =>
      simp only [connectionStep] at hstep
      split at hstep
      · cases hstep
      · rename_i hidle
        obtain ⟨-, heq⟩ := Option.ite_none_right_eq_some.mp hstep
        cases heq
        rcases call_cases s frame bytesSent response receivedData with
          ⟨fd, ret, hcall, hret⟩ | ⟨config, hcall, hmode⟩
        · rw [hcall]
          exact .returned hidle hret
        · rw [hcall]
          exact .requested hidle hmode
  | arrive packet =>
      simp only [connectionStep] at hstep
      split at hstep
      · cases hstep
      · rename_i r rest hun
        obtain ⟨haddress, heq⟩ := Option.ite_none_right_eq_some.mp hstep
        cases heq
        exact .arrived hun haddress
  | read =>
      simp only [connectionStep] at hstep
      split at hstep
      · rename_i c m rest hc hsock
        cases hstep
        rw [finish_reply, hsock]
        exact .replied hc hsock
      · cases hstep
  | timeout =>
      simp only [connectionStep] at hstep
      split at hstep
      · rename_i c hc hsock
        cases hstep
        rw [finish_timeout]
        exact .timedOut hc hsock
      · cases hstep

theorem ordered_step (s : Connection) (l : ConnectionLabel) (s' : Connection) (h : Ordered s)
    (hstep : connectionStep s l = some s') : Ordered s' := by
  obtain ⟨⟨first, hqueue, hnext⟩, hreading, honce, harrived⟩ := h
  cases connectionStep_moves hstep with
  | returned hidle => exact ⟨⟨first, hqueue, hnext⟩, hreading, honce, harrived⟩
  | @requested frame bytesSent response receivedData config hidle hmode =>
      -- the new request goes behind the outstanding ones
      rw [hidle] at hqueue hnext
      have hrange : List.range' first (s.timeouts + 1)
          = List.range' first s.timeouts ++ [s.nextRequest] := by
        rw [List.range'_concat, ← hnext]
        simp
      refine ⟨⟨first, ?_, ?_⟩, ?_, ?_, harrived⟩
      · show s.socket.map Reply.request
          ++ (s.unanswered ++ [(⟨s.nextRequest, config⟩ : Request)]).map Request.id
            = List.range' first (s.timeouts + 1)
        rw [List.map_append, ← List.append_assoc, hqueue, hrange]
        rfl
      · show first + (s.timeouts + 1) = s.nextRequest + 1
        rw [← hnext]
        rfl
      · intro c hc
        obtain rfl := Option.some.inj hc
        exact ⟨hmode, rfl⟩
      · show s.answers.map Reply.request
          ++ (s.unanswered ++ [(⟨s.nextRequest, config⟩ : Request)]).map Request.id
            = List.range (s.nextRequest + 1)
        rw [List.map_append, ← List.append_assoc, honce, List.range_succ]
        rfl
  | @arrived packet r rest hun =>
      -- its request moves from the unanswered ones to the socket
      rw [hun, List.map_cons] at hqueue honce
      refine ⟨⟨first, ?_, hnext⟩, hreading, ?_, fun m hm => ?_⟩
      · show (s.socket ++ [(⟨r.id, packet⟩ : Reply)]).map Reply.request ++ rest.map Request.id = _
        rw [List.map_append, List.append_assoc]
        exact hqueue
      · show (s.answers ++ [(⟨r.id, packet⟩ : Reply)]).map Reply.request ++ rest.map Request.id = _
        rw [List.map_append, List.append_assoc]
        exact honce
      · rcases List.mem_append.mp hm with hold | hnew
        · exact List.mem_append_left _ (harrived m hold)
        · exact List.mem_append_right _ hnew
  | @replied c m rest hc hsock =>
      rw [hc] at hqueue hnext
      refine ⟨⟨first + 1, ?_, ?_⟩, (fun c hc => by cases hc), honce, fun n hn => ?_⟩
      · show rest.map Reply.request ++ _ = List.range' (first + 1) s.timeouts
        rw [hsock, List.map_cons] at hqueue
        exact (List.cons.inj (hqueue.trans (List.range'_succ ..))).2
      · show first + 1 + s.timeouts = s.nextRequest
        rw [← hnext, Nat.add_assoc, Nat.add_comm 1]
        rfl
      · refine harrived n ?_
        rw [hsock]
        exact List.mem_cons_of_mem m hn
  | timedOut hc hsock =>
      rw [hc] at hqueue hnext
      exact ⟨⟨first, hqueue, hnext⟩, (fun c hc => by cases hc), honce, harrived⟩

/-- The reply a read takes answers the waiting call exactly when no earlier call
    has timed out. -/
theorem front_reply {s : Connection} (h : Ordered s) {c : Reading} {m : Reply}
    {rest : List Reply} (hc : s.reading = some c) (hsock : s.socket = m :: rest) :
    m.request = c.request ↔ s.timeouts = 0 := by
  obtain ⟨⟨first, hqueue, hnext⟩, hreading, -, -⟩ := h
  rw [hc] at hqueue hnext
  rw [hsock, List.map_cons] at hqueue
  have hfirst : m.request = first :=
    (List.cons.inj (hqueue.trans (List.range'_succ ..))).1
  have hlast := (hreading c hc).2
  have hone : first + (s.timeouts + 1) = s.nextRequest := hnext
  omega

/-! ## Words and replies -/

/-- The loop stores the words of the response. -/
theorem wordsOf_storeResponse (packet : Qemu1553Packet) (receivedData : Vector UInt16 32) :
    WordsOf packet receivedData (storeResponse packet receivedData) := by
  intro i
  have hcount : i.val < meaningfulWords packet.wc
      ↔ i.val < if packet.wc = 0 then 32 else packet.wc.toNat := by
    rw [meaningfulWords]
    split
    · exact Iff.rfl
    · split <;> omega
  show (storeResponse packet receivedData)[i.val] = _
  rw [storeResponse, Vector.getElem_ofFn]
  simp only [hcount]

theorem SendRecord.Tells.mono {r : SendRecord} {answers : List Reply} {id : Nat}
    (h : r.Tells answers id) (more : List Reply) : r.Tells (answers ++ more) id := by
  obtain ⟨packet, hin, hwords⟩ := h
  exact ⟨packet, List.mem_append_left _ hin, hwords⟩

/-- A call that read a reply returned the words of that reply. -/
def Sourced (s : Connection) : Prop :=
  ∀ r ∈ s.returned, ∀ id, r.source = some id → r.Tells s.answers id

theorem sourced_append {s : Connection} {r : SendRecord} (h : Sourced s)
    (hr : ∀ id, r.source = some id → r.Tells s.answers id) :
    ∀ r' ∈ s.returned ++ [r], ∀ id, r'.source = some id → r'.Tells s.answers id := by
  intro r' hin
  rcases List.mem_append.mp hin with hold | hnew
  · exact h r' hold
  · obtain rfl := List.mem_singleton.mp hnew
    exact hr

/-- **Step lemma** of the record: `source` is where the words come from. -/
theorem sourced_step (s : Connection) (l : ConnectionLabel) (s' : Connection)
    (h : Ordered s ∧ Sourced s) (hstep : connectionStep s l = some s') :
    Ordered s' ∧ Sourced s' := by
  refine ⟨ordered_step s l s' h.1 hstep, ?_⟩
  cases connectionStep_moves hstep with
  | returned => exact sourced_append h.2 fun id hid => by cases hid
  | requested => exact h.2
  | arrived => exact fun r hr id hid => (h.2 r hr id hid).mono _
  | @replied c m rest hc hsock =>
      refine sourced_append h.2 fun id hid => ?_
      cases hid
      have hin : m ∈ s.answers := h.1.arrived m (hsock ▸ List.mem_cons_self)
      exact ⟨m.packet, hin, wordsOf_storeResponse m.packet c.receivedData⟩
  | timedOut => exact sourced_append h.2 fun id hid => by cases hid

/-! ## Correlation -/

/-- Appending a record keeps correlation exactly when the record has it. -/
theorem correlated_append {s s' : Connection} {r : SendRecord} (h : Correlated s)
    (hret : s'.returned = s.returned ++ [r]) (hanswers : s'.answers = s.answers) :
    Correlated s' ↔ ∀ config, r.frame = some config → config.mode = .rtToBc → r.ret = 0 →
      ∃ id, r.request = some id ∧ r.source = some id ∧ r.Tells s.answers id := by
  rw [Correlated, hret, hanswers]
  constructor
  · intro hall
    exact hall r (List.mem_append_right _ List.mem_cons_self)
  · intro hr r' hin
    rcases List.mem_append.mp hin with hold | hnew
    · exact h r' hold
    · obtain rfl := List.mem_singleton.mp hnew
      exact hr

/-- **What one step can do to correlation.** -/
theorem correlated_step_iff {s s' : Connection} {l : ConnectionLabel} (h : Ordered s ∧ Sourced s)
    (hcor : Correlated s) (hstep : connectionStep s l = some s') :
    Correlated s' ↔ NoEarlierTimeout s l := by
  have hsourced := (sourced_step s l s' h hstep).2
  cases connectionStep_moves hstep with
  | returned hidle hret =>
      refine ⟨fun _ => trivial, fun _ => Iff.mpr (correlated_append hcor rfl rfl) ?_⟩
      intro config hframe hmode hzero
      exact absurd hzero (hret config hframe hmode)
  | requested => exact ⟨fun _ => trivial, fun _ => hcor⟩
  | arrived =>
      refine ⟨fun _ => trivial, fun _ r hr config hframe hmode hzero => ?_⟩
      obtain ⟨id, hreq, hsrc, htells⟩ := hcor r hr config hframe hmode hzero
      exact ⟨id, hreq, hsrc, htells.mono _⟩
  | @replied c m rest hc hsock =>
      have hfront := front_reply h.1 hc hsock
      refine Iff.trans (correlated_append hcor rfl rfl) ?_
      constructor
      · intro hr _ _
        obtain ⟨id, hreq, hsrc, -⟩ := hr c.config rfl (h.1.reading c hc).1 rfl
        refine hfront.mp ?_
        exact (Option.some.inj hsrc).trans (Option.some.inj hreq).symm
      · intro hok config _ _ _
        have hzero : s.timeouts = 0 :=
          hok (by rw [hc]; rfl) (by rw [hsock]; exact List.cons_ne_nil m rest)
        have hown : m.request = c.request := hfront.mpr hzero
        -- the last record is the one of this call
        have htells := hsourced _ (List.mem_append_right _ List.mem_cons_self) m.request rfl
        exact ⟨c.request, rfl, congrArg some hown, hown ▸ htells⟩
  | timedOut hc hsock =>
      refine ⟨fun _ => trivial, fun _ => Iff.mpr (correlated_append hcor rfl rfl) ?_⟩
      intro config _ _ hzero
      cases hzero

/-- **Every successful transmit request gets the words of its own reply, for exactly
    the runs in which no reply is read after a call has timed out.**  For any sequence
    of calls and any timing of the replies. -/
theorem correlated_iff (clientFd : Int) (ls : List ConnectionLabel) :
    Always connectionStep Correlated (Connection.init clientFd) ls ↔
      Guarded connectionStep NoEarlierTimeout (Connection.init clientFd) ls := by
  have hstuck : ∀ s l, connectionStep s l = none → NoEarlierTimeout s l := by
    intro s l hnone
    cases l with
    | read =>
        intro hreading hsock
        simp only [connectionStep] at hnone
        split at hnone
        · cases hnone
        · rename_i hno
          obtain ⟨c, hc⟩ := Option.isSome_iff_exists.mp hreading
          obtain ⟨m, rest, hm⟩ := List.exists_cons_of_ne_nil hsock
          exact absurd hm (hno c m rest hc)
    | call frame bytesSent response receivedData => exact trivial
    | arrive packet => exact trivial
    | timeout => exact trivial
  have hinit : Correlated (Connection.init clientFd) := by
    intro r hr
    cases hr
  have hsourced : Sourced (Connection.init clientFd) := by
    intro r hr
    cases hr
  exact always_iff_guarded connectionStep sourced_step
    (fun s l s' h hcor hstep => correlated_step_iff h hcor hstep) hstuck ls
    ⟨ordered_init clientFd, hsourced⟩ hinit

/-! ## A reply that comes too late -/

/-- A transmit request to a remote terminal. -/
def requestFrame (rt : Int) : FrameConfig := { syncFrame with rt := rt }

/-- A packet with one word repeated. -/
def constantPacket (rt : Int) (word : UInt16) : Qemu1553Packet where
  magic0    := 0xAA
  magic1    := 0x55
  mode      := 0x01
  rt        := toUInt8 rt
  sa        := 0x02
  wc        := 0x00
  dataWords := Vector.replicate 32 (htons word)

/-- A call to one terminal times out, its reply arrives, and a call to another
    terminal reads. -/
def lateReply : List ConnectionLabel :=
  [.call (some (requestFrame 1)) 70 (constantPacket 0 0) (Vector.replicate 32 0), .timeout,
    .arrive (constantPacket 1 0x1111),
    .call (some (requestFrame 2)) 70 (constantPacket 0 0) (Vector.replicate 32 0), .read]

/-- The second call returns 0 with the words of the first terminal. -/
theorem lateReply_misread :
    ∃ s, run connectionStep (Connection.init 3) lateReply = some s ∧
      s.returned.getLast? = some ⟨some (requestFrame 2), some 1, 0, some 0,
        Vector.replicate 32 0, Vector.replicate 32 0x1111⟩ ∧
      ¬Correlated s := by
  refine ⟨_, rfl, ?_⟩
  show (Connection.finish _ _ (some _)).returned.getLast? = _ ∧
    ¬Correlated (Connection.finish _ _ (some _))
  rw [finish_reply]
  have hwords : storeResponse (constantPacket 1 0x1111) (Vector.replicate 32 0)
      = Vector.replicate 32 0x1111 := by decide
  refine ⟨?_, fun hcor => ?_⟩
  · rw [List.getLast?_concat]
    exact congrArg (fun words => some (SendRecord.mk (some (requestFrame 2)) (some 1) 0 (some 0)
      (Vector.replicate 32 0) words)) hwords
  obtain ⟨id, hreq, hsrc, -⟩ := hcor _ (List.mem_append_right _ List.mem_cons_self)
    (requestFrame 2) rfl rfl rfl
  exact absurd (hreq.trans hsrc.symm) (by decide)

end TcpController
