import Tcp1553.ExtractProofs
import Tcp1553.WritesProofs

/-! # From the network to the transactions

    The capture filter lets TCP segments through, in IPv4 packets and in IPv6 packets
    that have the TCP header right behind their own, on any of three link types.
    `packetHandler` knows both versions.

    `sniffed_decodes` goes from frames on the network to what the monitor has decoded:
    the capture thread handles the frames, the monitor thread reads the queue, in any
    interleaving. -/

namespace TcpCapture

open TcpWire TcpParser TcpFraming TcpEncoder TcpController LabelledRuns StreamScanner

/-! ## Segments -/

/-- Bytes of the network header: IPv4 says it, IPv6 has 40. -/
def networkHeaderBytes (bytes : List UInt8) (o : Nat) : Nat :=
  if ipVersion bytes o = 4 then ipHeaderBytes bytes o else 40

/-- Bytes of the packet, headers and data: IPv6 does not count its header. -/
def packetLength (bytes : List UInt8) (o : Nat) : Nat :=
  if ipVersion bytes o = 4 then ipTotalLength bytes o
  else 40 + (256 * (byteAt bytes (o + 4)).toNat + (byteAt bytes (o + 5)).toNat)

/-- Bytes of the TCP header. -/
def transportHeaderBytes (bytes : List UInt8) (o : Nat) : Nat :=
  (byteAt bytes (o + networkHeaderBytes bytes o + 12)).toNat / 16 * 4

/-- A whole TCP segment in a whole packet, with nothing behind it.  `next` is what the
    filter asks of an IPv6 header. -/
structure WholeSegment (bytes : List UInt8) (o : Nat) : Prop where
  version   : ipVersion bytes o = 4 ∨ ipVersion bytes o = 6
  next      : ipVersion bytes o = 6 → byteAt bytes (o + 6) = 6
  network   : 20 ≤ networkHeaderBytes bytes o
  transport : 20 ≤ transportHeaderBytes bytes o
  headers   : networkHeaderBytes bytes o + transportHeaderBytes bytes o ≤ packetLength bytes o
  ends      : bytes.length = o + packetLength bytes o

/-- The data of the segment. -/
def segment (bytes : List UInt8) (o : Nat) : List UInt8 :=
  (bytes.drop (o + networkHeaderBytes bytes o + transportHeaderBytes bytes o)).take
    (packetLength bytes o - (networkHeaderBytes bytes o + transportHeaderBytes bytes o))

theorem networkHeaderBytes_le (bytes : List UInt8) (o : Nat) : networkHeaderBytes bytes o ≤ 60 := by
  have hip := ipHeaderBytes_le bytes o
  rw [networkHeaderBytes]
  split <;> omega

theorem transportHeaderBytes_le (bytes : List UInt8) (o : Nat) :
    transportHeaderBytes bytes o ≤ 60 := by
  have hbyte := UInt8.toNat_lt (byteAt bytes (o + networkHeaderBytes bytes o + 12))
  rw [transportHeaderBytes]
  omega

/-- **What the handler does with a whole segment**, of either version: it reads within
    the capture and pushes the data. -/
theorem packetHandler_segment {linkType : Int} {o : Nat} (ho : linkOffset linkType = some o)
    {frame : CapturedFrame} (h : WholeSegment frame.bytes o) (payloadQueue : List (List UInt8)) :
    packetHandler linkType frame payloadQueue
      = .ok (pushPayload payloadQueue (segment frame.bytes o)) := by
  have hnetwork := h.network
  have htransport := h.transport
  have hheaders := h.headers
  have hends := h.ends
  have hoffset := linkOffset_le ho
  have hnet := networkHeaderBytes_le frame.bytes o
  have htcp := transportHeaderBytes_le frame.bytes o
  have hfirst : frame.read o = .ok (byteAt frame.bytes o) := if_pos (by omega)
  have hlength : (if (byteAt frame.bytes o).toNat / 16 = 4 then (byteAt frame.bytes o).toNat % 16 * 4
      else 40) = networkHeaderBytes frame.bytes o := rfl
  have htwelfth : frame.read (o + networkHeaderBytes frame.bytes o + 12)
      = .ok (byteAt frame.bytes (o + networkHeaderBytes frame.bytes o + 12)) := if_pos (by omega)
  have hsmall : o + networkHeaderBytes frame.bytes o + transportHeaderBytes frame.bytes o < 2 ^ 31 := by
    omega
  have hdata : segment frame.bytes o = frame.bytes.drop
      (o + networkHeaderBytes frame.bytes o + transportHeaderBytes frame.bytes o) := by
    rw [segment, List.take_of_length_le]
    rw [List.length_drop]
    omega
  rw [packetHandler, ho]
  simp only [hfirst, bind, Except.bind, hlength, htwelfth]
  rw [hdata]
  exact pushRest_eq frame hsmall payloadQueue

/-! ## The two threads, on frames -/

/-- A frame arriving, or one pass of the monitor loop. -/
inductive SnifferLabel where
  | packetHandler (frame : CapturedFrame)
  | monitorLoop

/-- The pipeline behind the network.  A read beyond the capture has no successor. -/
def snifferStep (linkType : Int) (s : Pipeline) : SnifferLabel → Option Pipeline
  | .packetHandler frame =>
      match packetHandler linkType frame s.payloadQueue with
      | .ok payloadQueue => some { s with payloadQueue := payloadQueue }
      | .error _ => none
  | .monitorLoop => some (monitorLoop s)

/-- The step of the pipeline, whose labels carry the data. -/
def onData (o : Nat) : SnifferLabel → PipelineLabel
  | .packetHandler frame => .packetHandler (segment frame.bytes o)
  | .monitorLoop => .monitorLoop

/-- A pipeline without the record of what was pushed. -/
def Pipeline.unrecorded (s : Pipeline) : Pipeline := { s with pushed := [] }

/-- The loop does not look at that record. -/
theorem monitorLoop_unrecorded (s : Pipeline) :
    monitorLoop s.unrecorded = (monitorLoop s).unrecorded := by
  rw [monitorLoop, monitorLoop]
  by_cases hread : 0 < (receiveData s.payloadQueue kMonitorBufferBytes).1.length
  · rw [if_pos hread]
    exact if_pos hread
  · rw [if_neg hread]
    exact if_neg hread

/-- Every frame of a schedule is a whole segment. -/
def AllWhole (o : Nat) (ls : List SnifferLabel) : Prop :=
  ∀ frame, .packetHandler frame ∈ ls → WholeSegment frame.bytes o

/-- **The network refines the pipeline**, over whole segments. -/
theorem sniffer_run {linkType : Int} {o : Nat} (ho : linkOffset linkType = some o)
    {ls : List SnifferLabel} (h : AllWhole o ls) (s : Pipeline) :
    run (snifferStep linkType) s.unrecorded ls
      = (run pipelineStep s (ls.map (onData o))).map Pipeline.unrecorded := by
  induction ls generalizing s with
  | nil => rfl
  | cons l ls ih =>
      have hrest : AllWhole o ls := fun frame hin => h frame (List.mem_cons_of_mem l hin)
      cases l with
      | monitorLoop =>
          show run (snifferStep linkType) (monitorLoop s.unrecorded) ls = _
          rw [monitorLoop_unrecorded]
          exact ih hrest (monitorLoop s)
      | packetHandler frame =>
          have hstep : snifferStep linkType s.unrecorded (.packetHandler frame)
              = some { s with
                  payloadQueue := pushPayload s.payloadQueue (segment frame.bytes o)
                  pushed := s.pushed ++ [segment frame.bytes o] : Pipeline }.unrecorded := by
            show (match packetHandler linkType frame s.payloadQueue with
              | .ok q => some { s.unrecorded with payloadQueue := q }
              | .error _ => none) = _
            rw [packetHandler_segment ho (h frame List.mem_cons_self)]
            rfl
          rw [run_cons_of_step _ hstep]
          exact ih hrest _

/-- The pipeline never gets stuck. -/
theorem pipeline_total (ls : List PipelineLabel) (s : Pipeline) :
    ∃ t, run pipelineStep s ls = some t := by
  induction ls generalizing s with
  | nil => exact ⟨s, rfl⟩
  | cons l ls ih =>
      cases l with
      | packetHandler payload => exact ih _
      | monitorLoop => exact ih _

/-- The data of the frames, in the order of their capture. -/
def sniffed (o : Nat) (ls : List SnifferLabel) : List (List UInt8) :=
  payloadsOf (ls.map (onData o))

/-- **From the network to the transactions.**  The frames are whole segments of either
    IP version, with nothing behind them and data the monitor's buffer can hold, and
    their data is the stream of the controller's packets with junk around them, cut in
    any way.  Then, however the two threads are interleaved, no frame is read beyond
    its capture, and a monitor that has read everything has decoded the packets. -/
theorem sniffed_decodes {linkType : Int} {o : Nat} (ho : linkOffset linkType = some o)
    {ls : List SnifferLabel} (hwhole : AllWhole o ls)
    (hfit : ∀ payload ∈ sniffed o ls, payload.length ≤ kMonitorBufferBytes)
    (items : List (List UInt8 × FrameConfig)) (trailing : List UInt8)
    (hjunk : ∀ it ∈ items, NoSync it.1) (htrail : NoSync trailing)
    (hedit : ∀ it ∈ items, Editable it.2)
    (hstream : (sniffed o ls).flatten = wireStream items trailing) :
    ∃ t, run (snifferStep linkType) Pipeline.init ls = some t ∧
      (t.payloadQueue = [] → List.Forall₂ Shows (items.map Prod.snd) t.decoded) := by
  obtain ⟨t, hrun⟩ := pipeline_total (ls.map (onData o)) Pipeline.init
  have hsniffer := sniffer_run ho hwhole Pipeline.init
  rw [hrun] at hsniffer
  refine ⟨t.unrecorded, hsniffer, fun hempty => ?_⟩
  have hdecoded := drained_run hfit hrun hempty
  show List.Forall₂ Shows (items.map Prod.snd) t.decoded
  rw [hdecoded]
  show List.Forall₂ Shows _ (transactions (scan parserScanner (sniffed o ls).flatten).1)
  rw [hstream]
  exact shows_wireStream htrail items hjunk hedit

/-! ## Headers in front of data -/

/-- Headers of which the IP header at `o` and the TCP header behind it are the last. -/
structure Headers (front : List UInt8) (o : Nat) : Prop where
  version   : ipVersion front o = 4 ∨ ipVersion front o = 6
  next      : ipVersion front o = 6 → byteAt front (o + 6) = 6
  network   : 20 ≤ networkHeaderBytes front o
  transport : 20 ≤ transportHeaderBytes front o
  last      : front.length = o + networkHeaderBytes front o + transportHeaderBytes front o

/-- **Data behind headers that announce it is a whole segment of that data.** -/
theorem Headers.whole {front data : List UInt8} {o : Nat} (h : Headers front o)
    (hlength : packetLength front o
      = networkHeaderBytes front o + transportHeaderBytes front o + data.length) :
    WholeSegment (front ++ data) o ∧ segment (front ++ data) o = data := by
  have hnetwork := h.network
  have htransport := h.transport
  have hlast := h.last
  have hbyte : ∀ i < front.length, byteAt (front ++ data) i = byteAt front i :=
    fun i hi => byteAt_append hi data
  have hversion : ipVersion (front ++ data) o = ipVersion front o := by
    rw [ipVersion, hbyte o (by omega), ipVersion]
  have hnet : networkHeaderBytes (front ++ data) o = networkHeaderBytes front o := by
    rw [networkHeaderBytes, hversion, ipHeaderBytes, hbyte o (by omega)]
    rfl
  have hpacket : packetLength (front ++ data) o = packetLength front o := by
    rw [packetLength, hversion, ipTotalLength, hbyte (o + 2) (by omega), hbyte (o + 3) (by omega),
      hbyte (o + 4) (by omega), hbyte (o + 5) (by omega)]
    rfl
  have htcp : transportHeaderBytes (front ++ data) o = transportHeaderBytes front o := by
    rw [transportHeaderBytes, hnet, hbyte _ (by omega), transportHeaderBytes]
  constructor
  · refine ⟨hversion ▸ h.version, fun hsix => ?_, hnet ▸ hnetwork, htcp ▸ htransport, ?_, ?_⟩
    · rw [hbyte _ (by omega)]
      exact h.next (hversion ▸ hsix)
    · rw [hnet, htcp, hpacket]
      omega
    · rw [List.length_append, hpacket]
      omega
  · rw [segment, hnet, htcp, hpacket, hlength, ← hlast, List.drop_left, Nat.add_sub_cancel_left,
      List.take_length]

/-- The headers of a segment with 40 bytes of data, on an Ethernet in IPv6. -/
def headers6 : List UInt8 :=
  List.replicate 12 0 ++ [0x86, 0xDD]
    ++ ([0x60, 0x00, 0x00, 0x00, 0x00, 0x3C, 0x06, 0x40] ++ List.replicate 32 0)
    ++ ([0x13, 0x8A, 0xC0, 0x00] ++ List.replicate 8 0 ++ [0x50, 0x18] ++ List.replicate 6 0)

/-- The headers of a segment with 30 bytes of data, in IPv4. -/
def headers4 : List UInt8 :=
  List.replicate 12 0 ++ [0x08, 0x00]
    ++ ([0x45, 0x00, 0x00, 0x46, 0x00, 0x00, 0x40, 0x00, 0x40, 0x06] ++ List.replicate 10 0)
    ++ ([0x13, 0x8A, 0xC0, 0x00] ++ List.replicate 8 0 ++ [0x50, 0x18] ++ List.replicate 6 0)

theorem headers_headers6 : Headers headers6 14 :=
  ⟨by decide, by decide, by decide, by decide, by decide⟩

theorem headers_headers4 : Headers headers4 14 :=
  ⟨by decide, by decide, by decide, by decide, by decide⟩

/-- A frame with the first 40 bytes of a packet, and one with the others. -/
def splitPacket (packet : List UInt8) (h : packet.length = 70) : List SnifferLabel :=
  [.packetHandler ⟨headers6 ++ packet.take 40, by
      rw [List.length_append, List.length_take, h]
      decide⟩,
    .monitorLoop,
    .packetHandler ⟨headers4 ++ packet.drop 40, by
      rw [List.length_append, List.length_drop, h]
      decide⟩,
    .monitorLoop]

/-- What the handler makes of them. -/
theorem whole_splitPacket {packet : List UInt8} (h : packet.length = 70) :
    AllWhole 14 (splitPacket packet h) ∧
      sniffed 14 (splitPacket packet h) = [packet.take 40, packet.drop 40] := by
  have hlength6 : packetLength headers6 14 = networkHeaderBytes headers6 14
      + transportHeaderBytes headers6 14 + (packet.take 40).length := by
    rw [List.length_take, h]
    decide
  have hlength4 : packetLength headers4 14 = networkHeaderBytes headers4 14
      + transportHeaderBytes headers4 14 + (packet.drop 40).length := by
    rw [List.length_drop, h]
    decide
  obtain ⟨hwhole6, hdata6⟩ := headers_headers6.whole hlength6
  obtain ⟨hwhole4, hdata4⟩ := headers_headers4.whole hlength4
  constructor
  · intro frame hin
    simp only [splitPacket, List.mem_cons, SnifferLabel.packetHandler.injEq, List.not_mem_nil,
      or_false, reduceCtorEq, false_or] at hin
    rcases hin with rfl | rfl
    · exact hwhole6
    · exact hwhole4
  · show [segment (headers6 ++ packet.take 40) 14, segment (headers4 ++ packet.drop 40) 14] = _
    rw [hdata6, hdata4]

/-- One packet in two segments, one of each version. -/
theorem sniffed_decodes_syncFrame :
    ∃ t, run (snifferStep dltEn10mb) Pipeline.init
        (splitPacket (packetBytes syncFrame) (length_packetBytes syncFrame)) = some t ∧
      (t.payloadQueue = [] → List.Forall₂ Shows [syncFrame] t.decoded) := by
  have hlen := length_packetBytes syncFrame
  obtain ⟨hwhole, hsniffed⟩ := whole_splitPacket hlen
  refine sniffed_decodes rfl hwhole (fun payload hin => ?_) [([], syncFrame)] [] ?_ (by decide) ?_ ?_
  · rw [hsniffed] at hin
    simp only [List.mem_cons, List.not_mem_nil, or_false] at hin
    rcases hin with rfl | rfl
    · rw [List.length_take, hlen]
      decide
    · rw [List.length_drop, hlen]
      decide
  · exact fun it hit => List.mem_singleton.mp hit ▸ (by decide : NoSync [])
  · exact fun it hit => List.mem_singleton.mp hit ▸ (by decide : Editable syncFrame)
  · rw [hsniffed, wireStream, wireStream, List.flatten_cons, List.flatten_singleton,
      List.take_append_drop, List.nil_append, List.append_nil]

end TcpCapture
