import Tcp1553.CaptureProofs

/-! # The payload of a captured frame

    `TcpProxy::packetHandler` finds the TCP payload of a frame from two header lengths
    and takes it to reach to the end of the capture.  It looks at neither the
    total length of the IP packet nor, before it reads a header, at the number of
    bytes captured.

    The handler is modelled with checked reads, an error being a read at or beyond
    `caplen`.  `packetHandler_ipv4` says what it does with an IPv4 frame, and
    `extractsPayload_iff` for which frames that is right. -/

namespace TcpCapture

open TcpWire TcpParser

/-! ## The handler -/

def dltNull : Int := 0
def dltEn10mb : Int := 1
def dltLinuxSll : Int := 113

/-- Where the IP header starts, for the link types the handler knows. -/
def linkOffset (linkType : Int) : Option Nat :=
  if linkType = dltEn10mb then some 14
  else if linkType = dltNull then some 4
  else if linkType = dltLinuxSll then some 16
  else none

/-- The snapshot length given to `pcap_open_live`. -/
def kSnapLen : Nat := 65535

/-- The bytes of a frame that were captured; there are `caplen` of them. -/
structure CapturedFrame where
  bytes : List UInt8
  fits  : bytes.length ≤ kSnapLen

/-- A read of one byte of the capture; the error is the offset of a byte that is not
    in it. -/
def CapturedFrame.read (frame : CapturedFrame) (i : Nat) : Except Nat UInt8 :=
  if i < frame.bytes.length then .ok (byteAt frame.bytes i) else .error i

/-- A read of some bytes in a row. -/
def CapturedFrame.readRange (frame : CapturedFrame) (i n : Nat) : Except Nat (List UInt8) :=
  if i + n ≤ frame.bytes.length then .ok ((frame.bytes.drop i).take n)
  else .error frame.bytes.length

/-- `int payloadLen = pkthdr->caplen - payloadOffset`: the difference is unsigned, the
    result is not. -/
def payloadLen (caplen payloadOffset : Nat) : Int :=
  (BitVec.ofNat 32 caplen - BitVec.ofNat 32 payloadOffset).toInt

/-- The end of `packetHandler`, where the offset of the payload is known. -/
def pushRest (frame : CapturedFrame) (payloadOffset : Nat) (payloadQueue : List (List UInt8)) :
    Except Nat (List (List UInt8)) :=
  let len := payloadLen frame.bytes.length payloadOffset
  if 0 < len then
    (frame.readRange payloadOffset len.toNat).map (pushPayload payloadQueue)
  else .ok payloadQueue

/-- `packetHandler`, on the queue. -/
def packetHandler (linkType : Int) (frame : CapturedFrame) (payloadQueue : List (List UInt8)) :
    Except Nat (List (List UInt8)) :=
  match linkOffset linkType with
  | none => .ok payloadQueue
  | some offset => do
      -- `ip_hl` is the low half of the first byte, `ip_v` the high half
      let first ← frame.read offset
      let ipHeaderLen := if first.toNat / 16 = 4 then first.toNat % 16 * 4 else 40
      -- `doff` is the high half of byte 12
      let twelfth ← frame.read (offset + ipHeaderLen + 12)
      let tcpHeaderLen := twelfth.toNat / 16 * 4
      pushRest frame (offset + ipHeaderLen + tcpHeaderLen) payloadQueue

/-! ## What the headers say -/

/-- `ip_v` of a header at `o`. -/
def ipVersion (bytes : List UInt8) (o : Nat) : Nat := (byteAt bytes o).toNat / 16

/-- Bytes of an IPv4 header. -/
def ipHeaderBytes (bytes : List UInt8) (o : Nat) : Nat := (byteAt bytes o).toNat % 16 * 4

/-- Bytes of the IP packet, headers and data. -/
def ipTotalLength (bytes : List UInt8) (o : Nat) : Nat :=
  256 * (byteAt bytes (o + 2)).toNat + (byteAt bytes (o + 3)).toNat

/-- Bytes of the TCP header behind the IPv4 header at `o`. -/
def tcpHeaderBytes (bytes : List UInt8) (o : Nat) : Nat :=
  (byteAt bytes (o + ipHeaderBytes bytes o + 12)).toNat / 16 * 4

/-- A whole TCP segment in a whole IPv4 packet at `o`. -/
structure HoldsSegment (bytes : List UInt8) (o : Nat) : Prop where
  version : ipVersion bytes o = 4
  ip      : 20 ≤ ipHeaderBytes bytes o
  tcp     : 20 ≤ tcpHeaderBytes bytes o
  headers : ipHeaderBytes bytes o + tcpHeaderBytes bytes o ≤ ipTotalLength bytes o
  within  : o + ipTotalLength bytes o ≤ bytes.length

/-- The data of the segment. -/
def segmentData (bytes : List UInt8) (o : Nat) : List UInt8 :=
  (bytes.drop (o + ipHeaderBytes bytes o + tcpHeaderBytes bytes o)).take
    (ipTotalLength bytes o - (ipHeaderBytes bytes o + tcpHeaderBytes bytes o))

/-- An IPv4 header at `o`, and behind it the two ports, as the capture filter asks. -/
def HoldsPorts (bytes : List UInt8) (o : Nat) : Prop :=
  ipVersion bytes o = 4 ∧ o + ipHeaderBytes bytes o + 4 ≤ bytes.length

/-! ## What the handler does -/

theorem ipHeaderBytes_le (bytes : List UInt8) (o : Nat) : ipHeaderBytes bytes o ≤ 60 := by
  rw [ipHeaderBytes]
  omega

theorem tcpHeaderBytes_le (bytes : List UInt8) (o : Nat) : tcpHeaderBytes bytes o ≤ 60 := by
  have hbyte := UInt8.toNat_lt (byteAt bytes (o + ipHeaderBytes bytes o + 12))
  rw [tcpHeaderBytes]
  omega

/-- In the range of captures and headers the mixed arithmetic is plain. -/
theorem payloadLen_eq {caplen payloadOffset : Nat} (hcap : caplen < 2 ^ 31)
    (hoff : payloadOffset < 2 ^ 31) :
    payloadLen caplen payloadOffset = (caplen : Int) - payloadOffset := by
  rw [payloadLen, BitVec.toInt_eq_toNat_cond, BitVec.toNat_sub, BitVec.toNat_ofNat,
    BitVec.toNat_ofNat, Nat.mod_eq_of_lt (by omega : caplen < 2 ^ 32),
    Nat.mod_eq_of_lt (by omega : payloadOffset < 2 ^ 32)]
  split <;> omega

theorem linkOffset_le {linkType : Int} {o : Nat} (h : linkOffset linkType = some o) : o ≤ 16 := by
  rw [linkOffset] at h
  split at h
  · cases h
    decide
  · split at h
    · cases h
      decide
    · cases (Option.ite_none_right_eq_some.mp h).2
      decide

/-- The rest of the capture is pushed; there may be none. -/
theorem pushRest_eq (frame : CapturedFrame) {payloadOffset : Nat} (h : payloadOffset < 2 ^ 31)
    (payloadQueue : List (List UInt8)) :
    pushRest frame payloadOffset payloadQueue
      = .ok (pushPayload payloadQueue (frame.bytes.drop payloadOffset)) := by
  have hsnap : frame.bytes.length ≤ 65535 := frame.fits
  have hlen := payloadLen_eq (by omega : frame.bytes.length < 2 ^ 31) h
  rw [pushRest, hlen]
  by_cases hpos : payloadOffset < frame.bytes.length
  · have hsub : ((frame.bytes.length : Int) - payloadOffset).toNat
        = (frame.bytes.drop payloadOffset).length := by
      rw [List.length_drop]
      omega
    have hin : payloadOffset + (frame.bytes.drop payloadOffset).length ≤ frame.bytes.length := by
      rw [List.length_drop]
      omega
    simp only [if_pos (Int.sub_pos.mpr (Int.ofNat_lt.mpr hpos)), CapturedFrame.readRange, hsub,
      if_pos hin, List.take_length]
    rfl
  · have hnil : frame.bytes.drop payloadOffset = [] :=
      List.drop_eq_nil_of_le (Nat.not_lt.mp hpos)
    simp only [if_neg fun hlt => hpos (Int.ofNat_lt.mp (Int.sub_pos.mp hlt)), hnil]
    rfl

/-- **What the handler does with an IPv4 frame.**  If the byte with the length of the
    TCP header was captured, it pushes what stands behind that header, up to the end
    of the capture. -/
theorem packetHandler_ipv4 {linkType : Int} {o : Nat} (ho : linkOffset linkType = some o)
    {frame : CapturedFrame} (hports : HoldsPorts frame.bytes o)
    (payloadQueue : List (List UInt8)) :
    packetHandler linkType frame payloadQueue
      = if o + ipHeaderBytes frame.bytes o + 12 < frame.bytes.length then
          .ok (pushPayload payloadQueue (frame.bytes.drop
            (o + ipHeaderBytes frame.bytes o + tcpHeaderBytes frame.bytes o)))
        else .error (o + ipHeaderBytes frame.bytes o + 12) := by
  obtain ⟨hversion, hlen⟩ := hports
  have hoffset := linkOffset_le ho
  have hip := ipHeaderBytes_le frame.bytes o
  have htcp := tcpHeaderBytes_le frame.bytes o
  have hfirst : frame.read o = .ok (byteAt frame.bytes o) := if_pos (by omega)
  have hlength : (if (byteAt frame.bytes o).toNat / 16 = 4 then (byteAt frame.bytes o).toNat % 16 * 4
      else 40) = ipHeaderBytes frame.bytes o := if_pos hversion
  rw [packetHandler, ho]
  simp only [hfirst, bind, Except.bind, hlength]
  by_cases htwelfth : o + ipHeaderBytes frame.bytes o + 12 < frame.bytes.length
  · have hsmall : o + ipHeaderBytes frame.bytes o + tcpHeaderBytes frame.bytes o < 2 ^ 31 := by
      omega
    rw [if_pos htwelfth, CapturedFrame.read, if_pos htwelfth]
    exact pushRest_eq frame hsmall payloadQueue
  · rw [if_neg htwelfth, CapturedFrame.read, if_neg htwelfth]

/-- The handler is the capture step of the pipeline, for that payload. -/
theorem packetHandler_pipelineStep {linkType : Int} {o : Nat}
    (ho : linkOffset linkType = some o) {frame : CapturedFrame}
    (hports : HoldsPorts frame.bytes o)
    (hlength : o + ipHeaderBytes frame.bytes o + 12 < frame.bytes.length) (s : Pipeline) :
    ∃ s', pipelineStep s (.packetHandler (frame.bytes.drop
        (o + ipHeaderBytes frame.bytes o + tcpHeaderBytes frame.bytes o))) = some s' ∧
      packetHandler linkType frame s.payloadQueue = .ok s'.payloadQueue := by
  refine ⟨_, rfl, ?_⟩
  rw [packetHandler_ipv4 ho hports, if_pos hlength]

/-! ## When that is right -/

/-- The queue shows what was pushed. -/
theorem pushPayload_inj {q : List (List UInt8)} {p p' : List UInt8} :
    pushPayload q p = pushPayload q p' ↔ p = p' := by
  constructor
  · intro h
    have hbytes := congrArg List.flatten h
    rw [pushPayload_flatten, pushPayload_flatten] at hbytes
    exact List.append_cancel_left hbytes
  · intro h
    rw [h]

theorem HoldsSegment.ports {bytes : List UInt8} {o : Nat} (h : HoldsSegment bytes o) :
    HoldsPorts bytes o ∧ o + ipHeaderBytes bytes o + 12 < bytes.length := by
  have htcp := h.tcp
  have hheaders := h.headers
  have hwithin := h.within
  exact ⟨⟨h.version, by omega⟩, by omega⟩

/-- The rest of the capture is the data of the segment when the capture ends with it. -/
theorem drop_eq_segmentData_iff {bytes : List UInt8} {o : Nat} (h : HoldsSegment bytes o) :
    bytes.drop (o + ipHeaderBytes bytes o + tcpHeaderBytes bytes o) = segmentData bytes o
      ↔ bytes.length = o + ipTotalLength bytes o := by
  have hheaders := h.headers
  have hwithin := h.within
  rw [segmentData, eq_comm, List.take_eq_self_iff, List.length_drop]
  omega

/-- The handler pushes the data of every whole segment and nothing else, and stays
    within every other IPv4 frame. -/
structure ExtractsPayload (linkType : Int) (o : Nat) (frame : CapturedFrame)
    (payloadQueue : List (List UInt8)) : Prop where
  segment : HoldsSegment frame.bytes o → packetHandler linkType frame payloadQueue
    = .ok (pushPayload payloadQueue (segmentData frame.bytes o))
  within  : ¬HoldsSegment frame.bytes o → HoldsPorts frame.bytes o →
    ∃ q, packetHandler linkType frame payloadQueue = .ok q

/-- The capture of a segment ends with the IP packet, and that of any other IPv4 frame
    has the byte with the length of the TCP header. -/
structure EndsWithPacket (bytes : List UInt8) (o : Nat) : Prop where
  unpadded : HoldsSegment bytes o → bytes.length = o + ipTotalLength bytes o
  length   : ¬HoldsSegment bytes o → HoldsPorts bytes o →
    o + ipHeaderBytes bytes o + 12 < bytes.length

/-- **When the payload is extracted.**  For each link type, frame and queue. -/
theorem extractsPayload_iff {linkType : Int} {o : Nat} (ho : linkOffset linkType = some o)
    (frame : CapturedFrame) (payloadQueue : List (List UInt8)) :
    ExtractsPayload linkType o frame payloadQueue ↔ EndsWithPacket frame.bytes o := by
  have hdoes := fun hports : HoldsPorts frame.bytes o => packetHandler_ipv4 ho hports payloadQueue
  have hsegment : HoldsSegment frame.bytes o →
      (packetHandler linkType frame payloadQueue
          = .ok (pushPayload payloadQueue (segmentData frame.bytes o))
        ↔ frame.bytes.length = o + ipTotalLength frame.bytes o) := by
    intro h
    obtain ⟨hports, htwelfth⟩ := h.ports
    rw [hdoes hports, if_pos htwelfth, Except.ok.injEq, pushPayload_inj,
      drop_eq_segmentData_iff h]
  have hother : HoldsPorts frame.bytes o →
      ((∃ q, packetHandler linkType frame payloadQueue = .ok q)
        ↔ o + ipHeaderBytes frame.bytes o + 12 < frame.bytes.length) := by
    intro hports
    rw [hdoes hports]
    by_cases htwelfth : o + ipHeaderBytes frame.bytes o + 12 < frame.bytes.length
    · rw [if_pos htwelfth]
      exact iff_of_true ⟨_, rfl⟩ htwelfth
    · rw [if_neg htwelfth]
      exact iff_of_false (fun ⟨q, hq⟩ => by cases hq) htwelfth
  constructor
  · intro h
    exact ⟨fun hs => (hsegment hs).mp (h.segment hs),
      fun hs hports => (hother hports).mp (h.within hs hports)⟩
  · intro h
    exact ⟨fun hs => (hsegment hs).mpr (h.unpadded hs),
      fun hs hports => (hother hports).mpr (h.length hs hports)⟩

/-- An acknowledgement without data from port 5002, as an Ethernet pads it to 60 bytes. -/
def paddedAck : CapturedFrame where
  bytes := List.replicate 12 0 ++ [0x08, 0x00]
    ++ ([0x45, 0x00, 0x00, 0x28, 0x00, 0x00, 0x40, 0x00, 0x40, 0x06] ++ List.replicate 10 0)
    ++ ([0x13, 0x8A, 0xC0, 0x00] ++ List.replicate 8 0 ++ [0x50, 0x10] ++ List.replicate 6 0)
    ++ List.replicate 6 0
  fits  := by decide

theorem holdsSegment_paddedAck : HoldsSegment paddedAck.bytes 14 :=
  ⟨by decide, by decide, by decide, by decide, by decide⟩

theorem extractsPayload_iff_paddedAck :
    ExtractsPayload dltEn10mb 14 paddedAck [] ↔ EndsWithPacket paddedAck.bytes 14 :=
  extractsPayload_iff rfl paddedAck []

/-- Its six bytes of padding are pushed as payload. -/
theorem padding_pushed :
    ¬∀ linkType o frame payloadQueue, linkOffset linkType = some o →
      ExtractsPayload linkType o frame payloadQueue := by
  intro hall
  have hpushed := (hall dltEn10mb 14 paddedAck [] rfl).segment holdsSegment_paddedAck
  have hports := holdsSegment_paddedAck.ports
  rw [packetHandler_ipv4 rfl hports.1, if_pos hports.2, Except.ok.injEq, pushPayload_inj,
    drop_eq_segmentData_iff holdsSegment_paddedAck] at hpushed
  exact absurd hpushed (by decide)

end TcpCapture
