import Tcp1553.CaptureProofs
import Tcp1553.FramingProofs
import Tcp1553.TaggedProofs

/-! # The two directions of the monitored connection

    The capture filter takes both directions of the connection, and one queue and
    one accumulator carry them.  Each captured byte is tagged with the direction
    it travelled in; the tags are the model's, the monitor never sees them.

    * `DecodedIndependently` is what a monitor of two directions should do: the
      transactions are a merge of those each direction decodes to alone, and
      each was assembled from the bytes of one direction.
    * `SwitchesAtPackets` says that the capture changes direction at packet
      boundaries only.
    * `decodedIndependently_iff`: the monitor does the first exactly for the
      captures with the second. -/

namespace TcpDirection

open TcpWire TcpParser TcpFraming TcpCapture TaggedMerge StreamScanner LabelledRuns

/-- The direction a captured segment travelled in. -/
inductive Direction where
  | bcToSim
  | simToBc
  deriving DecidableEq, Repr

/-- The captured bytes in capture order, each with its direction. -/
def capturedBytes (segments : List (Direction × List UInt8)) : List (Direction × UInt8) :=
  segments.flatMap fun s => tagged s.1 s.2

theorem capturedBytes_cons (m : Direction × List UInt8) (ms : List (Direction × List UInt8)) :
    capturedBytes (m :: ms) = tagged m.1 m.2 ++ capturedBytes ms := List.flatMap_cons

/-- Segments as they are captured: each direction carries whole packets, cut
    anywhere, and no segment exceeds the monitor's buffer. -/
structure Capture where
  segments : List (Direction × List UInt8)
  whole    : ∀ d, ∃ packets : List (List UInt8), (∀ p ∈ packets, IsFrame p) ∧
    only d (capturedBytes segments) = packets.flatten
  fits     : ∀ s ∈ segments, s.2.length ≤ kMonitorBufferBytes

/-- The transactions one direction decodes to on its own. -/
def decodedAlone (d : Direction) (T : List (Direction × UInt8)) : List MessageTransaction :=
  transactions (ProtocolParser.reset.parseStream (only d T)).1

/-- Keep the windows of decoded transactions. -/
def decodedWindows : List (List Direction × ParserEvent) →
    List (List Direction × MessageTransaction)
  | [] => []
  | (_, .warn _) :: ws => decodedWindows ws
  | (w, .messageDecoded t) :: ws => (w, t) :: decodedWindows ws

/-- Each transaction of the merged stream with the directions of its 70 bytes. -/
def provenance (T : List (Direction × UInt8)) : List (List Direction × MessageTransaction) :=
  decodedWindows (windows parserScanner (T.map Prod.fst)
    (ProtocolParser.reset.parseStream (T.map Prod.snd)).1)

/-- The emitted transactions are a merge of those of the two directions, and
    none was assembled from bytes of both. -/
def DecodedIndependently (T : List (Direction × UInt8)) (emitted : List MessageTransaction) :
    Prop :=
  ∃ merged : List (Direction × MessageTransaction),
    merged.map Prod.snd = emitted ∧
      (∀ d, only d merged = decodedAlone d T) ∧
      provenance T = merged.map fun m => (List.replicate kTcp1553PacketBytes m.1, m.2)

/-- A byte of one direction is captured only when the other direction has
    delivered whole packets. -/
def SwitchesAtPackets (T : List (Direction × UInt8)) : Prop :=
  WholeBlocks kTcp1553PacketBytes (T.map Prod.fst)

/-! ## One direction alone -/

/-- A direction of whole packets decodes to one transaction a packet. -/
theorem decodedAlone_frames {d : Direction} {T : List (Direction × UInt8)}
    {packets : List (List UInt8)} (hframes : ∀ p ∈ packets, IsFrame p)
    (honly : only d T = packets.flatten) : decodedAlone d T = packets.map decodeFrame := by
  have hscan : (ProtocolParser.reset.parseStream (only d T)).1
      = (packets.map decodeFrame).map ParserEvent.messageDecoded := by
    show (scan parserScanner (only d T)).1 = _
    rw [honly, scan_frames packets hframes, List.map_map]
    rfl
  rw [decodedAlone, hscan, transactions_map_decoded]

/-- Whole packets have 70 bytes each. -/
theorem frames_flatten_length {packets : List (List UInt8)}
    (hframes : ∀ p ∈ packets, IsFrame p) :
    packets.flatten.length = kTcp1553PacketBytes * packets.length := by
  induction packets with
  | nil => rfl
  | cons p packets ih =>
      rw [List.flatten_cons, List.length_append, (hframes p List.mem_cons_self).1,
        ih fun q hq => hframes q (List.mem_cons_of_mem p hq), List.length_cons, Nat.mul_succ,
        Nat.add_comm]
      rfl

/-- Items of the two directions are all the items. -/
theorem length_only_add {α : Type} (T : List (Direction × α)) :
    (only .bcToSim T).length + (only .simToBc T).length = T.length := by
  induction T with
  | nil => rfl
  | cons p T ih =>
      obtain ⟨d, a⟩ := p
      cases d with
      | bcToSim =>
          rw [only_cons_self, only_cons_of_ne (by decide), List.length_cons, List.length_cons,
            ← ih]
          omega
      | simToBc =>
          rw [only_cons_self, only_cons_of_ne (by decide), List.length_cons, List.length_cons,
            ← ih]
          omega

/-! ## Captures that switch at packets -/

/-- Seventy bytes of one direction in front of a capture are its next packet. -/
theorem frame_of_whole {c : Direction} {bytes : List UInt8} {U : List (Direction × UInt8)}
    (hlen : bytes.length = 70)
    (hwhole : ∀ d, ∃ packets : List (List UInt8), (∀ p ∈ packets, IsFrame p) ∧
      only d (tagged c bytes ++ U) = packets.flatten) :
    IsFrame bytes ∧ ∀ d, ∃ packets : List (List UInt8), (∀ p ∈ packets, IsFrame p) ∧
      only d U = packets.flatten := by
  obtain ⟨packets, hframes, honly⟩ := hwhole c
  rw [only_append, only_tagged_self] at honly
  cases packets with
  | nil =>
      have hnil : bytes = [] := (List.append_eq_nil_iff.mp honly).1
      rw [hnil] at hlen
      cases hlen
  | cons p packets =>
      rw [List.flatten_cons] at honly
      obtain ⟨rfl, hrest⟩ := List.append_inj honly
        (hlen.trans (hframes p List.mem_cons_self).1.symm)
      refine ⟨hframes bytes List.mem_cons_self, fun d => ?_⟩
      by_cases hd : c = d
      · subst hd
        exact ⟨packets, fun q hq => hframes q (List.mem_cons_of_mem _ hq), hrest⟩
      · obtain ⟨qs, hqs, hq⟩ := hwhole d
        rw [only_append, only_tagged_of_ne hd, List.nil_append] at hq
        exact ⟨qs, hqs, hq⟩

/-- **Splitting a capture into packets.**  Tags in runs of 70 and whole packets in
    each direction make the capture a sequence of packets of single directions. -/
theorem split_packets (ds : List Direction) :
    ∀ T : List (Direction × UInt8), T.map Prod.fst = blocks kTcp1553PacketBytes ds →
      (∀ d, ∃ packets : List (List UInt8), (∀ p ∈ packets, IsFrame p) ∧
        only d T = packets.flatten) →
      ∃ ms : List (Direction × List UInt8), (∀ m ∈ ms, IsFrame m.2) ∧ T = capturedBytes ms := by
  induction ds with
  | nil =>
      intro T htags _
      exact ⟨[], (fun m hm => by cases hm), List.map_eq_nil_iff.mp htags⟩
  | cons c ds ih =>
      intro T htags hwhole
      rw [blocks_cons] at htags
      -- the first run of tags is one packet of direction c
      obtain ⟨F, U, rfl, hF, hU⟩ := List.map_eq_append_iff.mp htags
      have hFtag : F = tagged c (F.map Prod.snd) := eq_tagged_of_tags hF
      have hFlen : (F.map Prod.snd).length = 70 := by
        have := congrArg List.length hF
        rw [List.length_map, List.length_replicate] at this
        rw [List.length_map, this]
        rfl
      generalize F.map Prod.snd = bytes at hFtag hFlen
      subst hFtag
      obtain ⟨hframe, hrest⟩ := frame_of_whole hFlen hwhole
      obtain ⟨ms, hms, rfl⟩ := ih U hU hrest
      refine ⟨(c, bytes) :: ms, List.forall_mem_cons.mpr ⟨hframe, hms⟩, ?_⟩
      rw [capturedBytes_cons]

/-- The bytes of a sequence of packets. -/
theorem capturedBytes_map_snd (ms : List (Direction × List UInt8)) :
    (capturedBytes ms).map Prod.snd = (ms.map Prod.snd).flatten := by
  induction ms with
  | nil => rfl
  | cons m ms ih =>
      rw [capturedBytes_cons, List.map_append, tagged_map_snd]
      exact congrArg (m.2 ++ ·) ih

/-- A direction's bytes are its segments in order. -/
theorem only_capturedBytes (d : Direction) (ms : List (Direction × List UInt8)) :
    only d (capturedBytes ms) = (only d ms).flatten := by
  induction ms with
  | nil => rfl
  | cons m ms ih =>
      obtain ⟨e, bytes⟩ := m
      rw [capturedBytes_cons, only_append]
      by_cases h : e = d
      · subst h
        rw [only_tagged_self, only_cons_self, List.flatten_cons]
        exact congrArg (bytes ++ ·) ih
      · rw [only_tagged_of_ne h, only_cons_of_ne h]
        exact ih

/-- The windows of packets decoded one by one are the packets. -/
theorem decodedWindows_packets (ms : List (Direction × List UInt8))
    (hframes : ∀ m ∈ ms, IsFrame m.2) :
    decodedWindows (windows parserScanner ((capturedBytes ms).map Prod.fst)
        (ms.map fun m => .messageDecoded (decodeFrame m.2)))
      = ms.map fun m => (List.replicate kTcp1553PacketBytes m.1, decodeFrame m.2) := by
  induction ms with
  | nil => rfl
  | cons m ms ih =>
      have hlen : (tagged m.1 m.2).length = 70 := by
        rw [tagged, List.length_map]
        exact (hframes m List.mem_cons_self).1
      have htags : ((tagged m.1 m.2).map Prod.fst).length = 70 := by
        rw [List.length_map, hlen]
      have hwidth (t : MessageTransaction) : parserScanner.width (.messageDecoded t) = 70 := rfl
      rw [capturedBytes_cons, List.map_append, List.map_cons, windows, hwidth,
        List.take_left' htags, List.drop_left' htags, decodedWindows, List.map_cons,
        tagged_map_fst, (hframes m List.mem_cons_self).1]
      exact congrArg (_ :: ·) (ih fun n hn => hframes n (List.mem_cons_of_mem m hn))

theorem only_mem {α : Type} {d : Direction} {a : α} {ms : List (Direction × α)}
    (h : a ∈ only d ms) : (d, a) ∈ ms := by
  rw [only] at h
  obtain ⟨⟨e, b⟩, hin, rfl⟩ := List.mem_map.mp h
  obtain ⟨hmem, htag⟩ := List.mem_filter.mp hin
  rw [← of_decide_eq_true htag]
  exact hmem

/-- A capture made of packets of single directions is decoded independently. -/
theorem decodedIndependently_packets (ms : List (Direction × List UInt8))
    (hframes : ∀ m ∈ ms, IsFrame m.2) :
    DecodedIndependently (capturedBytes ms)
      (transactions (scan parserScanner ((capturedBytes ms).map Prod.snd)).1) := by
  have hscan : (scan parserScanner ((capturedBytes ms).map Prod.snd)).1
      = ms.map fun m => .messageDecoded (decodeFrame m.2) := by
    rw [capturedBytes_map_snd, scan_frames, List.map_map]
    · rfl
    · intro f hf
      obtain ⟨m, hm, rfl⟩ := List.mem_map.mp hf
      exact hframes m hm
  refine ⟨ms.map fun m => (m.1, decodeFrame m.2), ?_, ?_, ?_⟩
  · rw [hscan, List.map_map]
    have hcomp : (ms.map fun m => ParserEvent.messageDecoded (decodeFrame m.2))
        = (ms.map fun m => decodeFrame m.2).map ParserEvent.messageDecoded := by
      rw [List.map_map]
      rfl
    rw [hcomp, transactions_map_decoded]
    rfl
  · intro d
    have hdir : ∀ p ∈ only d ms, IsFrame p := fun p hp => hframes (d, p) (only_mem hp)
    rw [only_map, decodedAlone_frames hdir (only_capturedBytes d ms)]
  · rw [List.map_map]
    show decodedWindows (windows parserScanner _
      (scan parserScanner ((capturedBytes ms).map Prod.snd)).1) = _
    rw [hscan]
    exact decodedWindows_packets ms hframes

/-! ## Captures that are decoded independently -/

/-- Transactions take 70 bytes each, warnings take more. -/
theorem transactions_span (es : List ParserEvent) :
    kTcp1553PacketBytes * (transactions es).length ≤ span parserScanner es := by
  induction es with
  | nil => exact Nat.zero_le _
  | cons e es ih =>
      rw [span_cons]
      cases e with
      | warn w => exact Nat.le_trans ih (Nat.le_add_left _ _)
      | messageDecoded t =>
          rw [transactions, List.length_cons, Nat.mul_succ, Nat.add_comm]
          exact Nat.add_le_add_left ih _

/-- If the transactions account for every byte, their windows are all windows. -/
theorem decodedWindows_all (es : List ParserEvent) :
    ∀ tags : List Direction,
      span parserScanner es ≤ kTcp1553PacketBytes * (transactions es).length →
      (decodedWindows (windows parserScanner tags es)).map Prod.fst
        = (windows parserScanner tags es).map Prod.fst := by
  induction es with
  | nil => intro tags _; rfl
  | cons e es ih =>
      intro tags hle
      rw [span_cons] at hle
      cases e with
      | warn w =>
          -- a warning would be a byte no transaction accounts for
          have h1 : 1 + span parserScanner es ≤ kTcp1553PacketBytes * (transactions es).length :=
            hle
          have h2 := transactions_span es
          omega
      | messageDecoded t =>
          rw [transactions, List.length_cons, Nat.mul_succ, Nat.add_comm] at hle
          rw [windows, decodedWindows, List.map_cons, List.map_cons,
            ih _ (Nat.add_le_add_iff_right.mp hle)]

/-- The tags of a capture that is decoded independently come in runs of 70. -/
theorem blocks_of_independent {T : List (Direction × UInt8)}
    (hwhole : ∀ d, ∃ packets : List (List UInt8), (∀ p ∈ packets, IsFrame p) ∧
      only d T = packets.flatten)
    (h : DecodedIndependently T
      (transactions (scan parserScanner (T.map Prod.snd)).1)) :
    ∃ ds, T.map Prod.fst = blocks kTcp1553PacketBytes ds := by
  obtain ⟨merged, hemit, honly, hprov⟩ := h
  have hdir : ∀ d, kTcp1553PacketBytes * (only d merged).length = (only d T).length := by
    intro d
    obtain ⟨packets, hframes, hp⟩ := hwhole d
    rw [honly d, decodedAlone_frames hframes hp, hp, frames_flatten_length hframes,
      List.length_map]
  have htotal : kTcp1553PacketBytes * merged.length = T.length := by
    rw [← length_only_add merged, Nat.mul_add, hdir, hdir, length_only_add]
  have hcount : kTcp1553PacketBytes
      * (transactions (scan parserScanner (T.map Prod.snd)).1).length = T.length := by
    rw [← hemit, List.length_map, htotal]
  have hspan : span parserScanner (scan parserScanner (T.map Prod.snd)).1 = T.length := by
    have hle := span_le parserScanner (T.map Prod.snd)
    rw [List.length_map] at hle
    have hge := transactions_span (scan parserScanner (T.map Prod.snd)).1
    omega
  have hall := decodedWindows_all (scan parserScanner (T.map Prod.snd)).1 (T.map Prod.fst)
    (by rw [hspan, hcount])
  refine ⟨merged.map Prod.fst, ?_⟩
  calc T.map Prod.fst
      = ((windows parserScanner (T.map Prod.fst)
          (scan parserScanner (T.map Prod.snd)).1).map Prod.fst).flatten := by
        rw [windows_flatten, hspan, List.take_of_length_le]
        rw [List.length_map]
    _ = ((provenance T).map Prod.fst).flatten := by
        rw [← hall]
        rfl
    _ = blocks kTcp1553PacketBytes (merged.map Prod.fst) := by
        rw [hprov, blocks, List.flatMap_def, List.map_map, List.map_map]
        rfl

/-- **The two directions are decoded independently exactly when the capture
    changes direction at packet boundaries.**  For every capture and every
    schedule of the capture thread and the monitor thread that drains it. -/
theorem decodedIndependently_iff (c : Capture) (ls : List PipelineLabel) (t : Pipeline)
    (hrun : run pipelineStep Pipeline.init ls = some t)
    (hpush : payloadsOf ls = c.segments.map Prod.snd) (hempty : t.payloadQueue = []) :
    DecodedIndependently (capturedBytes c.segments) t.decoded ↔
      SwitchesAtPackets (capturedBytes c.segments) := by
  have hfits : ∀ payload ∈ payloadsOf ls, payload.length ≤ kMonitorBufferBytes := by
    intro payload hp
    rw [hpush] at hp
    obtain ⟨seg, hseg, rfl⟩ := List.mem_map.mp hp
    exact c.fits seg hseg
  have hdecoded : t.decoded
      = transactions (scan parserScanner ((capturedBytes c.segments).map Prod.snd)).1 := by
    rw [drained_run hfits hrun hempty, hpush, capturedBytes_map_snd]
  have hwhole := c.whole
  rw [hdecoded]
  generalize capturedBytes c.segments = T at hwhole
  constructor
  · intro h
    obtain ⟨ds, hds⟩ := blocks_of_independent hwhole h
    rw [SwitchesAtPackets, hds]
    exact wholeBlocks_blocks _ ds
  · intro h
    have hcount : ∀ d, kTcp1553PacketBytes ∣ (T.map Prod.fst).count d := by
      intro d
      obtain ⟨packets, hframes, hp⟩ := hwhole d
      rw [count_tags, hp, frames_flatten_length hframes]
      exact Nat.dvd_mul_right _ _
    obtain ⟨ds, hds⟩ := (wholeBlocks_iff (by decide) _ hcount).mp h
    obtain ⟨ms, hms, rfl⟩ := split_packets ds T hds hwhole
    exact decodedIndependently_packets ms hms

/-! ## A packet cut by the other direction -/

/-- The controller's packet arrives in two segments with the simulator's between. -/
def cutCapture : Capture where
  segments := [(.bcToSim, (samplePacket 0x00 0x11).take 35), (.simToBc, samplePacket 0x01 0x22),
    (.bcToSim, (samplePacket 0x00 0x11).drop 35)]
  whole := by
    intro d
    cases d with
    | bcToSim => exact ⟨[samplePacket 0x00 0x11], by decide, by decide⟩
    | simToBc => exact ⟨[samplePacket 0x01 0x22], by decide, by decide⟩
  fits := by decide

/-- All three segments are captured, then the monitor drains the queue. -/
def cutSchedule : List PipelineLabel :=
  cutCapture.segments.map (fun s => .packetHandler s.2) ++ [.monitorLoop, .monitorLoop, .monitorLoop]

/-- Where that schedule ends. -/
def cutPipeline : Pipeline :=
  monitorLoop (monitorLoop (monitorLoop
    { Pipeline.init with
      payloadQueue := cutCapture.segments.map Prod.snd
      pushed := cutCapture.segments.map Prod.snd }))

theorem cutCapture_iff :
    run pipelineStep Pipeline.init cutSchedule = some cutPipeline ∧
      (DecodedIndependently (capturedBytes cutCapture.segments) cutPipeline.decoded ↔
        SwitchesAtPackets (capturedBytes cutCapture.segments)) :=
  ⟨rfl, decodedIndependently_iff cutCapture cutSchedule cutPipeline rfl rfl rfl⟩

/-- The monitor emits one transaction for the two packets, so what it emits is no
    merge of what the directions decode to. -/
theorem cutCapture_loses :
    run pipelineStep Pipeline.init cutSchedule = some cutPipeline ∧
      payloadsOf cutSchedule = cutCapture.segments.map Prod.snd ∧
      cutPipeline.payloadQueue = [] ∧
      ¬∃ merged : List (Direction × MessageTransaction),
        merged.map Prod.snd = cutPipeline.decoded ∧
          ∀ d, only d merged = decodedAlone d (capturedBytes cutCapture.segments) := by
  refine ⟨rfl, rfl, rfl, ?_⟩
  rintro ⟨merged, hemit, honly⟩
  have hone : cutPipeline.decoded.length = 1 := by decide +kernel
  have hbc : (decodedAlone .bcToSim (capturedBytes cutCapture.segments)).length = 1 := by
    decide +kernel
  have hsim : (decodedAlone .simToBc (capturedBytes cutCapture.segments)).length = 1 := by
    decide +kernel
  rw [← honly] at hbc hsim
  rw [← hemit, List.length_map, ← length_only_add, hbc, hsim] at hone
  exact absurd hone (by decide)

end TcpDirection
