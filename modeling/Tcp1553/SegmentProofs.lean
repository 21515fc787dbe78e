import Tcp1553.ReplyProofs

/-! # Replies that arrive in pieces

    `sendAcyclicFrame` reads its reply with one `read`, and a `read` of a stream
    returns whatever part of the reply has arrived.  Six bytes are taken for a
    success (`endSend_ret_iff`), the words behind the bytes that were read come from
    the memory of `response` (`stores_take_iff`), and the rest of the reply stays in
    the socket for the next call.  `inStep_iff` says which reads do no harm. -/

namespace TcpController

open TcpWire TcpParser TcpFraming TcpEncoder LabelledRuns

/-! ## One short read -/

/-- The first six bytes decide the result. -/
theorem endSend_ret_iff (response : Qemu1553Packet) (receivedData : Vector UInt16 32)
    (bs : List UInt8) : (endSend response receivedData (some bs)).1 = 0 ↔ 6 ≤ bs.length := by
  rw [endSend]
  show (if 6 ≤ bs.length then _ else _ : Int × Vector UInt16 32).1 = 0 ↔ _
  by_cases h : 6 ≤ bs.length
  · rw [if_pos h]
    exact ⟨fun _ => h, fun _ => rfl⟩
  · rw [if_neg h]
    exact ⟨fun hzero => absurd (show (-1 : Int) = 0 from hzero) (by decide),
      fun h' => absurd h' h⟩

/-- The response structure after a read, as memory. -/
def responseMemory (response : Qemu1553Packet) (bs : List UInt8) : List UInt8 :=
  bs ++ response.bytes.drop bs.length

theorem endSend_some (response : Qemu1553Packet) (receivedData : Vector UInt16 32)
    {bs : List UInt8} (h : 6 ≤ bs.length) :
    (endSend response receivedData (some bs)).2
      = storeResponse (.ofBytes (responseMemory response bs)) receivedData := by
  rw [endSend]
  show (if 6 ≤ bs.length then _ else _ : Int × Vector UInt16 32).2 = _
  rw [if_pos h]
  rfl

/-- A byte that was read. -/
theorem byteAt_responseMemory (response : Qemu1553Packet) {bs : List UInt8} {j : Nat}
    (h : j < bs.length) : byteAt (responseMemory response bs) j = byteAt bs j :=
  byteAt_append h _

/-- A byte that was not read. -/
theorem byteAt_responseMemory_of_le (response : Qemu1553Packet) {bs : List UInt8} {j : Nat}
    (h : bs.length ≤ j) : byteAt (responseMemory response bs) j = byteAt response.bytes j := by
  obtain ⟨k, rfl⟩ := Nat.exists_eq_add_of_le h
  rw [responseMemory, byteAt_append_right, byteAt_drop]

/-- A word that was read in full. -/
theorem payloadWord_read (response : Qemu1553Packet) {bs : List UInt8} {i : Nat}
    (h : 8 + 2 * i ≤ bs.length) :
    payloadWord ((responseMemory response bs).drop 6) i = payloadWord (bs.drop 6) i := by
  rw [responseMemory, List.drop_append_of_le_length (by omega)]
  refine payloadWord_append ?_ _
  rw [List.length_drop]
  omega

/-- The second byte of a word in the memory of a packet. -/
theorem byteAt_bytes (packet : Qemu1553Packet) {i : Nat} (hi : i < 32) :
    byteAt packet.bytes (6 + (2 * i + 1)) = UInt8.ofNat (packet.dataWords[i].toNat / 256) := by
  have hlen : i < packet.dataWords.toList.length := by
    rw [Vector.length_toList]
    exact hi
  have hget : packet.dataWords.toList.getD i 0 = packet.dataWords[i] := by
    rw [List.getD_eq_getElem?_getD, List.getElem?_eq_getElem hlen, Option.getD_some,
      Vector.getElem_toList]
  rw [← hget, ← (byteAt_flatMap_storeUInt16 packet.dataWords.toList hlen).2]
  exact byteAt_append_right
    [packet.magic0, packet.magic1, packet.mode, packet.rt, packet.sa, packet.wc] _ _

/-- **A word that was not read in full** has the low byte of what was on the stack. -/
theorem payloadWord_responseMemory (response : Qemu1553Packet) {bs : List UInt8} {i : Nat}
    (hi : i < 32) (h : bs.length < 8 + 2 * i) :
    (payloadWord ((responseMemory response bs).drop 6) i).toNat % 256
      = response.dataWords[i].toNat / 256 := by
  have hword : response.dataWords[i].toNat < 65536 := UInt16.toNat_lt _
  have hhigh : (byteAt ((responseMemory response bs).drop 6) (2 * i)).toNat < 256 := UInt8.toNat_lt _
  have hlow : (byteAt ((responseMemory response bs).drop 6) (2 * i + 1)).toNat
      = response.dataWords[i].toNat / 256 := by
    rw [byteAt_drop, byteAt_responseMemory_of_le response (by omega), byteAt_bytes response hi,
      UInt8.toNat_ofNat', Nat.mod_eq_of_lt (by omega)]
  rw [payloadWord_eq, hlow, UInt16.toNat_ofNat']
  omega

/-- A stack that held one word everywhere. -/
def stackOf (w : UInt16) : Qemu1553Packet := ⟨0, 0, 0, 0, 0, 0, Vector.replicate 32 w⟩

/-- Two stacks that no word read in part can hide. -/
theorem payloadWord_stackOf_ne {bs : List UInt8} {i : Nat} (hi : i < 32)
    (h : bs.length < 8 + 2 * i) :
    payloadWord ((responseMemory (stackOf 0) bs).drop 6) i
      ≠ payloadWord ((responseMemory (stackOf 0xFFFF) bs).drop 6) i := by
  intro heq
  have hzero := payloadWord_responseMemory (stackOf 0) hi h
  have hones := payloadWord_responseMemory (stackOf 0xFFFF) hi h
  have hget : ∀ w, (stackOf w).dataWords[i] = w := fun w => Vector.getElem_replicate hi
  rw [heq, hones, hget, hget] at hzero
  exact absurd hzero (by decide)

/-- The words of the reply are stored in front, the rest is as before. -/
def Stores (reply : List UInt8) (receivedData receivedData' : Vector UInt16 32) : Prop :=
  receivedData'.toList = wordsAt reply 0 ++ receivedData.toList.drop (wordCountAt reply 0)

theorem length_wordsAt (s : List UInt8) (o : Nat) : (wordsAt s o).length = wordCountAt s o := by
  rw [wordsAt, List.length_map, List.length_range]

theorem wordCountAt_le (s : List UInt8) (o : Nat) : wordCountAt s o ≤ 32 := by
  rw [← meaningfulWords_byteAt]
  exact meaningfulWords_le _

theorem wordCountAt_pos (s : List UInt8) (o : Nat) : 0 < wordCountAt s o := by
  rw [wordCountAt]
  split <;> omega

/-- A word the call stores. -/
theorem getElem_endSend (response : Qemu1553Packet) (receivedData : Vector UInt16 32)
    {bs : List UInt8} (h : 6 ≤ bs.length) {i : Nat} (hi : i < 32) :
    (endSend response receivedData (some bs)).2[i]
      = if i < wordCountAt bs 0 then payloadWord ((responseMemory response bs).drop 6) i
        else receivedData[i] := by
  have hcount := meaningfulWords_byteAt bs 0
  rw [List.drop_zero] at hcount
  simp only [endSend_some response receivedData h]
  rw [getElem_storeResponse _ _ hi, byteAt_responseMemory response (by omega), hcount]

/-- A stored word that does not depend on the stack was read in full. -/
theorem covered_of_same_word {bs : List UInt8} (h : 6 ≤ bs.length) (receivedData : Vector UInt16 32)
    {i : Nat} (hi : i < 32) (hcount : i < wordCountAt bs 0)
    (hsame : ∀ response response', (endSend response receivedData (some bs)).2[i]
      = (endSend response' receivedData (some bs)).2[i]) : 8 + 2 * i ≤ bs.length := by
  by_contra hshort
  have hword := hsame (stackOf 0) (stackOf 0xFFFF)
  rw [getElem_endSend _ _ h hi, getElem_endSend _ _ h hi, if_pos hcount, if_pos hcount] at hword
  exact payloadWord_stackOf_ne hi (Nat.lt_of_not_le hshort) hword

/-- What is stored, by the words of the memory. -/
theorem storeResponse_wordsAt (memory : List UInt8) (receivedData : Vector UInt16 32) :
    Stores memory receivedData (storeResponse (.ofBytes memory) receivedData) := by
  have hwords := decodeFrame_dataWords memory 0
  rw [List.drop_zero] at hwords
  rw [Stores, storeResponse_payload, hwords, length_wordsAt]

/-- The words of a reply depend on the bytes they are made of. -/
theorem wordsAt_congr {s t : List UInt8} (hcount : byteAt s 5 = byteAt t 5)
    (hbytes : ∀ j, 6 ≤ j → j < 6 + 2 * wordCountAt t 0 → byteAt s j = byteAt t j) :
    wordCountAt s 0 = wordCountAt t 0 ∧ wordsAt s 0 = wordsAt t 0 := by
  have hsame : wordCountAt s 0 = wordCountAt t 0 := by
    rw [wordCountAt, wordCountAt, Nat.zero_add, hcount]
  refine ⟨hsame, ?_⟩
  rw [wordsAt, wordsAt, hsame]
  refine List.map_congr_left fun i hi => ?_
  have hlt := List.mem_range.mp hi
  rw [hbytes (0 + 6 + 2 * i) (by omega) (by omega), hbytes (0 + 6 + 2 * i + 1) (by omega) (by omega)]

/-- **When a short read stores the reply's words**, whatever was on the stack: when
    it covers them. -/
theorem stores_take_iff {reply : List UInt8} (hlen : reply.length = 70) {n : Nat} (h6 : 6 ≤ n)
    (hn : n ≤ 70) (receivedData : Vector UInt16 32) :
    (∀ response, Stores reply receivedData
        (endSend response receivedData (some (reply.take n))).2)
      ↔ 6 + 2 * wordCountAt reply 0 ≤ n := by
  have htake : (reply.take n).length = n := by
    rw [List.length_take, hlen, Nat.min_eq_left hn]
  have hread : ∀ response j, j < n →
      byteAt (responseMemory response (reply.take n)) j = byteAt reply j := by
    intro response j hj
    rw [byteAt_responseMemory response (by rw [htake]; exact hj)]
    simp only [byteAt, List.getD_eq_getElem?_getD, List.getElem?_take_of_lt hj]
  have hstored : ∀ response, Stores (responseMemory response (reply.take n)) receivedData
      (endSend response receivedData (some (reply.take n))).2 := by
    intro response
    rw [endSend_some response receivedData (by rw [htake]; exact h6)]
    exact storeResponse_wordsAt _ _
  constructor
  · intro hall
    have hle := wordCountAt_le reply 0
    -- the last word does not depend on the stack, so it was covered
    obtain ⟨i, hi⟩ := Nat.exists_eq_succ_of_ne_zero (Nat.pos_iff_ne_zero.mp (wordCountAt_pos reply 0))
    have hi32 : i < 32 := by omega
    have hcount : wordCountAt (reply.take n) 0 = wordCountAt reply 0 := by
      rw [wordCountAt, wordCountAt, Nat.zero_add, ← byteAt_responseMemory (stackOf 0) (by omega),
        hread (stackOf 0) 5 (by omega)]
    have hcovered : 8 + 2 * i ≤ (reply.take n).length := by
      refine covered_of_same_word (by omega) receivedData hi32 (by omega) fun response response' => ?_
      rw [Vector.toList_inj.mp ((hall response).trans (hall response').symm)]
    omega
  · intro hcover response
    obtain ⟨hcount, hwords⟩ := wordsAt_congr (hread response 5 (by omega))
      fun j _ hj => hread response j (by omega)
    have h := hstored response
    rw [Stores, hwords, hcount] at h
    exact h

/-- A reply read in full: 0, and its words. -/
theorem endSend_whole {reply : List UInt8} (hlen : reply.length = 70) (response : Qemu1553Packet)
    (receivedData : Vector UInt16 32) :
    (endSend response receivedData (some reply)).1 = 0 ∧
      Stores reply receivedData (endSend response receivedData (some reply)).2 := by
  refine ⟨(endSend_ret_iff _ _ _).mpr (by omega), ?_⟩
  have h := (stores_take_iff hlen (n := 70) (by omega) (Nat.le_refl 70) receivedData).mpr
    (by have := wordCountAt_le reply 0; omega) response
  rw [← hlen, List.take_length] at h
  exact h

/-! ## Exchange after exchange -/

/-- A transmit request that is written, the reply the simulator gives to it, and how
    many bytes the `read` returns. -/
structure Exchange where
  config       : FrameConfig
  bytesSent    : Nat
  response     : Qemu1553Packet
  receivedData : Vector UInt16 32
  reply        : List UInt8
  count        : Nat
  transmit     : config.mode = .rtToBc
  valid        : IsFrame reply
  nonempty     : 0 < count
  fits         : count ≤ 70

/-- What became of an exchange: the result, and the words before and after it. -/
structure Exchanged where
  reply        : List UInt8
  ret          : Int
  receivedData : Vector UInt16 32
  stored       : Vector UInt16 32

/-- The receiving side of a connection: its descriptor, the bytes that arrived and
    that no call has read, and the calls that have returned. -/
structure Stream where
  clientFd : Nat
  unread   : List UInt8
  returned : List Exchanged

/-- The call reads some bytes, in the order in which they arrived. -/
def exchangeStep (s : Stream) (e : Exchange) : Option Stream :=
  let arrived := s.unread ++ e.reply
  let r := sendAcyclicFrame e.config s.clientFd e.bytesSent e.response e.receivedData
    (some (arrived.take e.count))
  some ⟨s.clientFd, arrived.drop e.count, s.returned ++ [⟨e.reply, r.1, e.receivedData, r.2⟩]⟩

/-- Every call returned 0 with the words of its own reply, and the next one starts on
    a packet boundary. -/
structure InStep (s : Stream) : Prop where
  boundary : s.unread = []
  answered : ∀ x ∈ s.returned, x.ret = 0 ∧ Stores x.reply x.receivedData x.stored

/-- **Step lemma**: a call stays in step exactly when its read returns the whole
    reply. -/
theorem inStep_step_iff {s s' : Stream} {e : Exchange} (h : InStep s)
    (hstep : exchangeStep s e = some s') : InStep s' ↔ e.count = 70 := by
  have hlen : e.reply.length = 70 := e.valid.1
  have hcall := fun bytes => sendAcyclicFrame_reading e.transmit
    (Int.not_lt.mpr (Int.natCast_nonneg s.clientFd)) (Int.not_lt.mpr (Int.natCast_nonneg e.bytesSent))
    e.response e.receivedData bytes
  cases hstep
  constructor
  · intro h'
    have hrest : (s.unread ++ e.reply).drop e.count = [] := h'.boundary
    rw [h.boundary, List.nil_append, List.drop_eq_nil_iff, hlen] at hrest
    exact Nat.le_antisymm e.fits hrest
  · intro hcount
    have htake : (s.unread ++ e.reply).take e.count = e.reply := by
      rw [h.boundary, List.nil_append, hcount, ← hlen, List.take_length]
    refine ⟨?_, fun x hx => ?_⟩
    · show (s.unread ++ e.reply).drop e.count = []
      rw [h.boundary, List.nil_append, hcount, ← hlen, List.drop_length]
    · rcases List.mem_append.mp hx with hold | hnew
      · exact h.answered x hold
      · obtain rfl := List.mem_singleton.mp hnew
        simp only [hcall, htake]
        exact endSend_whole hlen e.response e.receivedData

/-- **When segmentation does not show.**  On one connection, every transmit request
    returns 0 with the words of its reply and leaves the stream on a packet boundary
    exactly when every read returns all 70 bytes of a reply. -/
theorem inStep_iff (clientFd : Nat) (es : List Exchange) :
    Always exchangeStep InStep ⟨clientFd, [], []⟩ es
      ↔ Guarded exchangeStep (fun _ e => e.count = 70) ⟨clientFd, [], []⟩ es :=
  always_iff_guarded exchangeStep (fun _ _ _ (htrue : True) _ => htrue)
    (fun _ _ _ _ h hstep => inStep_step_iff h hstep) (fun _ _ hnone => by cases hnone) es
    trivial ⟨rfl, fun _ hx => (by cases hx)⟩

/-- A reply that is read in two parts. -/
def cutExchange : Exchange where
  config       := syncFrame
  bytesSent    := 70
  response     := stackOf 0
  receivedData := Vector.replicate 32 0
  reply        := packetBytes syncFrame
  count        := 6
  transmit     := rfl
  valid        := ⟨length_packetBytes syncFrame, frameAt_packetBytes syncFrame⟩
  nonempty     := by decide
  fits         := by decide

/-- The header alone is taken for the reply: 0 is returned with words from the stack,
    and 64 bytes are left for the next call. -/
theorem cut_reply_breaks_step : ¬∀ es, Always exchangeStep InStep ⟨3, [], []⟩ es := by
  intro hall
  have hrest : ((packetBytes syncFrame).drop 6) = [] :=
    ((hall [cutExchange]).2 _ rfl).boundary
  have hlen := congrArg List.length hrest
  rw [List.length_drop, length_packetBytes] at hlen
  exact absurd hlen (by decide)

end TcpController
