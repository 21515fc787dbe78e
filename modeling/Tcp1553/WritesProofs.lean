import Tcp1553.ControllerProofs

/-! # What the controller puts on the wire

    Two questions about the 70 bytes `sendAcyclicFrame` hands to `write`.

    Which frames share them: the wire format has no place for the bus and for the
    second terminal and knows two modes, so `written_eq_iff` lists what the bytes
    determine.

    Whether they stay aligned: `write` may take fewer bytes than it is given, and
    the call looks only at the sign of the result.  `aligned_iff` says which
    results keep the stream a sequence of whole packets. -/

namespace TcpController

open TcpWire TcpParser TcpFraming TcpEncoder LabelledRuns StreamScanner

/-! ## Frames with the same bytes -/

/-- What the editor can produce. -/
structure Editable (config : FrameConfig) : Prop where
  bus : config.bus = 'A' ∨ config.bus = 'B'
  rt  : 0 ≤ config.rt ∧ config.rt < 32
  sa  : 0 ≤ config.sa ∧ config.sa < 32
  rt2 : 0 ≤ config.rt2 ∧ config.rt2 < 32
  sa2 : 0 ≤ config.sa2 ∧ config.sa2 < 32
  wc  : 0 ≤ config.wc ∧ config.wc ≤ 32

instance (config : FrameConfig) : Decidable (Editable config) :=
  decidable_of_iff
    ((config.bus = 'A' ∨ config.bus = 'B') ∧ (0 ≤ config.rt ∧ config.rt < 32) ∧
      (0 ≤ config.sa ∧ config.sa < 32) ∧ (0 ≤ config.rt2 ∧ config.rt2 < 32) ∧
      (0 ≤ config.sa2 ∧ config.sa2 < 32) ∧ 0 ≤ config.wc ∧ config.wc ≤ 32)
    ⟨fun ⟨bus, rt, sa, rt2, sa2, wc⟩ => ⟨bus, rt, sa, rt2, sa2, wc⟩,
      fun h => ⟨h.bus, h.rt, h.sa, h.rt2, h.sa2, h.wc⟩⟩

/-- What the packet tells of a frame. -/
structure SameOnWire (c d : FrameConfig) : Prop where
  mode : c.mode = .rtToBc ↔ d.mode = .rtToBc
  rt   : c.rt = d.rt
  sa   : c.sa = d.sa
  wc   : c.wc = d.wc
  data : encodedWords c = encodedWords d

/-- Swapping twice is no swap. -/
theorem ntohs_htons (w : UInt16) : ntohs (htons w) = w := by
  have hw : w.toNat < 65536 := UInt16.toNat_lt w
  apply UInt16.toNat_inj.mp
  rw [ntohs, htons_toNat, htons_mod, htons_div]
  omega

/-- The structure can be read off its bytes. -/
theorem bytes_injective {p q : Qemu1553Packet} (h : p.bytes = q.bytes) : p = q := by
  rw [← p.ofBytes_bytes, ← q.ofBytes_bytes, h]

/-- Byte values in range are told apart. -/
theorem toUInt8_inj {m n : Int} (hm : 0 ≤ m ∧ m < 256) (hn : 0 ≤ n ∧ n < 256) :
    toUInt8 m = toUInt8 n ↔ m = n := by
  constructor
  · intro h
    rw [← toUInt8_toNat hm.1 hm.2, ← toUInt8_toNat hn.1 hn.2, h]
  · rintro rfl
    rfl

/-- The mode byte tells transmit requests from everything else. -/
theorem framePacket_mode_inj (c d : FrameConfig) :
    (framePacket c).mode = (framePacket d).mode ↔ (c.mode = .rtToBc ↔ d.mode = .rtToBc) := by
  have hmode : ∀ config : FrameConfig,
      (framePacket config).mode = if config.mode = .rtToBc then 0x01 else 0x00 := by
    intro config
    show (if config.mode = .bcToRt then (0x00 : UInt8)
      else if config.mode = .rtToBc then 0x01 else 0x00) = _
    cases config.mode <;> rfl
  rw [hmode, hmode]
  by_cases hc : c.mode = .rtToBc <;> by_cases hd : d.mode = .rtToBc <;> simp [hc, hd]

/-- The payload words are the encoded words in network order. -/
theorem framePacket_dataWords_inj (c d : FrameConfig) :
    (framePacket c).dataWords = (framePacket d).dataWords ↔ encodedWords c = encodedWords d := by
  have hwords : ∀ config : FrameConfig,
      (framePacket config).dataWords.toList = (encodedWords config).map htons := by
    intro config
    rw [encodedWords, List.map_map]
    exact Vector.toList_map
  have hswap : Function.Injective htons :=
    Function.LeftInverse.injective (g := ntohs) ntohs_htons
  rw [← Vector.toList_inj, hwords, hwords]
  exact (List.map_injective_iff.mpr hswap).eq_iff

/-- **Which frames share their bytes.** -/
theorem packetBytes_eq_iff {c d : FrameConfig} (hc : Editable c) (hd : Editable d) :
    packetBytes c = packetBytes d ↔ SameOnWire c d := by
  have hrt : toUInt8 c.rt = toUInt8 d.rt ↔ c.rt = d.rt :=
    toUInt8_inj ⟨hc.rt.1, by have := hc.rt.2; omega⟩ ⟨hd.rt.1, by have := hd.rt.2; omega⟩
  have hsa : toUInt8 c.sa = toUInt8 d.sa ↔ c.sa = d.sa :=
    toUInt8_inj ⟨hc.sa.1, by have := hc.sa.2; omega⟩ ⟨hd.sa.1, by have := hd.sa.2; omega⟩
  have hwc : toUInt8 c.wc = toUInt8 d.wc ↔ c.wc = d.wc :=
    toUInt8_inj ⟨hc.wc.1, by have := hc.wc.2; omega⟩ ⟨hd.wc.1, by have := hd.wc.2; omega⟩
  constructor
  · intro h
    have hpacket : framePacket c = framePacket d := bytes_injective h
    exact ⟨(framePacket_mode_inj c d).mp (congrArg Qemu1553Packet.mode hpacket),
      hrt.mp (congrArg Qemu1553Packet.rt hpacket), hsa.mp (congrArg Qemu1553Packet.sa hpacket),
      hwc.mp (congrArg Qemu1553Packet.wc hpacket),
      (framePacket_dataWords_inj c d).mp (congrArg Qemu1553Packet.dataWords hpacket)⟩
  · intro h
    have hpacket : framePacket c = framePacket d := by
      rw [Qemu1553Packet.mk.injEq]
      exact ⟨rfl, rfl, (framePacket_mode_inj c d).mpr h.mode, hrt.mpr h.rt, hsa.mpr h.sa,
        hwc.mpr h.wc, (framePacket_dataWords_inj c d).mpr h.data⟩
    rw [packetBytes, packetBytes, hpacket]

/-- What the monitor decodes from the packet of any frame the editor can make. -/
theorem shows_editable {config : FrameConfig} (h : Editable config) :
    Shows config (decodeFrame (packetBytes config)) := by
  by_cases hmode : config.mode = .rtToBc
  · exact decodeFrame_packet ⟨Or.inr hmode, h.rt, h.sa, h.wc⟩
  · -- on the wire it is a frame for a terminal
    have hreceive : Editable { config with mode := .bcToRt } := { h with }
    have hbytes : packetBytes { config with mode := .bcToRt } = packetBytes config := by
      refine (packetBytes_eq_iff hreceive h).mpr ⟨?_, rfl, rfl, rfl, rfl⟩
      exact ⟨(fun heq => by cases heq), fun heq => absurd heq hmode⟩
    have hsendable : Sendable { config with mode := .bcToRt } := ⟨Or.inl rfl, h.rt, h.sa, h.wc⟩
    have hshows := decodeFrame_packet hsendable
    rw [hbytes] at hshows
    refine ⟨hshows.tr.trans ?_, hshows.rt, hshows.sa, hshows.wc, hshows.data⟩
    exact ⟨(fun heq => by cases heq), fun heq => absurd heq hmode⟩

/-- Packets with junk around them are decoded one by one. -/
theorem transactions_wireStream {trailing : List UInt8} (htrail : NoSync trailing)
    (items : List (List UInt8 × FrameConfig)) (hjunk : ∀ it ∈ items, NoSync it.1) :
    transactions (scan parserScanner (wireStream items trailing)).1
      = items.map fun it => decodeFrame (packetBytes it.2) := by
  induction items with
  | nil =>
      rw [wireStream, scan_junk trailing htrail]
      rfl
  | cons it items ih =>
      obtain ⟨junk, config⟩ := it
      have hhead := scan_junk_frame (length_packetBytes config) (frameAt_packetBytes config)
        (wireStream items trailing) junk (hjunk _ List.mem_cons_self)
      rw [wireStream, hhead.1, ih fun it hit => hjunk it (List.mem_cons_of_mem _ hit)]
      rfl

/-- And each is shown as it was sent. -/
theorem shows_wireStream {trailing : List UInt8} (htrail : NoSync trailing)
    (items : List (List UInt8 × FrameConfig)) (hjunk : ∀ it ∈ items, NoSync it.1)
    (hedit : ∀ it ∈ items, Editable it.2) :
    List.Forall₂ Shows (items.map Prod.snd)
      (transactions (scan parserScanner (wireStream items trailing)).1) := by
  rw [transactions_wireStream htrail items hjunk, List.forall₂_map_left_iff,
    List.forall₂_map_right_iff, List.forall₂_same]
  exact fun it hit => shows_editable (hedit it hit)

/-- Every frame is handed to `write`, whatever its mode. -/
theorem beginSend_written (config : FrameConfig) {fd : Int} (hfd : 0 ≤ fd) (bytesSent : Int) :
    (beginSend (some config) fd bytesSent).written = some (packetBytes config) := by
  have hopen : ¬fd < 0 := by omega
  by_cases hsent : bytesSent < 0
  · simp only [beginSend, if_neg hopen, if_pos hsent]
  · by_cases hmode : config.mode = .rtToBc
    · simp only [beginSend, if_neg hopen, if_neg hsent, if_pos hmode]
    · simp only [beginSend, if_neg hopen, if_neg hsent, if_neg hmode]

/-- **What the wire tells of a frame.**  Every frame goes out as a whole packet, and
    two frames go out as the same one exactly when they agree on what a packet
    carries. -/
theorem written_eq_iff {c d : FrameConfig} (hc : Editable c) (hd : Editable d) {fd : Int}
    (hfd : 0 ≤ fd) (m n : Int) :
    (∃ bytes, (beginSend (some c) fd m).written = some bytes ∧ bytes.length = 70) ∧
      ((beginSend (some c) fd m).written = (beginSend (some d) fd n).written
        ↔ SameOnWire c d) := by
  rw [beginSend_written c hfd, beginSend_written d hfd, Option.some_inj]
  exact ⟨⟨_, rfl, length_packetBytes c⟩, packetBytes_eq_iff hc hd⟩

theorem editable_syncFrame : Editable syncFrame := by decide

/-- A terminal-to-terminal transfer on bus B. -/
def transferFrame : FrameConfig :=
  { syncFrame with bus := 'B', mode := .rtToRt, rt2 := 7, sa2 := 1 }

theorem editable_transferFrame : Editable transferFrame := by decide

/-- A transmit request and a terminal-to-terminal transfer differ on the wire. -/
theorem written_eq_iff_transferFrame :
    (∃ bytes, (beginSend (some syncFrame) 3 70).written = some bytes ∧ bytes.length = 70) ∧
      ((beginSend (some syncFrame) 3 70).written = (beginSend (some transferFrame) 3 70).written
        ↔ SameOnWire syncFrame transferFrame) :=
  written_eq_iff editable_syncFrame editable_transferFrame (by decide) 70 70

/-- A terminal-to-terminal transfer on bus B goes out as a data write on bus A. -/
theorem transfer_sent_as_write :
    ¬∀ c d, Editable c → Editable d →
      (beginSend (some c) 3 70).written = (beginSend (some d) 3 70).written →
        c.bus = d.bus ∧ c.mode = d.mode := by
  intro hall
  have hwrite : Editable { syncFrame with mode := .bcToRt } := by decide
  obtain ⟨hbus, -⟩ := hall transferFrame { syncFrame with mode := .bcToRt }
    editable_transferFrame hwrite rfl
  exact absurd hbus (by decide)

/-! ## Alignment of the stream -/

/-- What a finished call returned, and what its write put on the connection. -/
structure SendCall where
  frame     : Option FrameConfig
  delivered : List UInt8
  ret       : Int

/-- The sending side of one connection, with a record of the calls. -/
structure Wire where
  clientFd : Int
  calls    : List SendCall

/-- A fresh connection. -/
def Wire.init (clientFd : Int) : Wire := ⟨clientFd, []⟩

/-- One call: `sent` is what `write` does with the 70 bytes, an error or a count;
    `reply` is what a read delivers. -/
structure WireLabel where
  frame        : Option FrameConfig
  sent         : Option (Fin 71)
  response     : Qemu1553Packet
  receivedData : Vector UInt16 32
  reply        : Option (List UInt8)

/-- The result of `write`. -/
def WireLabel.bytesSent (l : WireLabel) : Int :=
  match l.sent with
  | none => -1
  | some n => n.val

/-- A call of `sendAcyclicFrame`, from its first statement to its return. -/
def wireStep (s : Wire) (l : WireLabel) : Option Wire :=
  let start := beginSend l.frame s.clientFd l.bytesSent
  some {
    clientFd := if start.writeFailed then -1 else s.clientFd
    calls := s.calls ++ [{
      frame := l.frame
      -- the bytes the count says were taken
      delivered := (start.written.getD []).take l.bytesSent.toNat
      ret :=
        match start.progress with
        | .returned ret => ret
        | .reading _ => (endSend l.response l.receivedData l.reply).1 }] }

/-- Whole packets, and behind them at most one that was cut. -/
def Framed (deliveries : List (List UInt8)) : Prop :=
  ∃ packets cut, deliveries.filter (· ≠ []) = packets ++ cut ∧
    (∀ p ∈ packets, p.length = 70) ∧ cut.length ≤ 1

/-- What a reader of the stream and a caller rely on. -/
structure Aligned (s : Wire) : Prop where
  framed   : Framed (s.calls.map SendCall.delivered)
  complete : ∀ c ∈ s.calls, c.ret = 0 → ∀ config, c.frame = some config →
    config.mode ≠ .rtToBc → c.delivered = packetBytes config

/-- No write so far was cut short. -/
def Wire.Unbroken (s : Wire) : Prop := ∀ c ∈ s.calls, c.delivered = [] ∨ c.delivered.length = 70

/-- A write that fails; one that takes the whole packet, or is for a transmit
    request, on a stream no write has cut; or one for a transmit request that takes
    nothing. -/
def KeepsPackets (s : Wire) (l : WireLabel) : Prop :=
  0 ≤ s.clientFd → ∀ config, l.frame = some config →
    l.sent = none ∨ (config.mode = .rtToBc ∧ l.sent = some 0) ∨
      ((config.mode = .rtToBc ∨ l.sent = some 70) ∧ s.Unbroken)

theorem aligned_init (clientFd : Int) : Aligned (Wire.init clientFd) where
  framed   := ⟨[], [], rfl, (fun _ hp => by cases hp), Nat.zero_le 1⟩
  complete := fun _ hc => by cases hc

/-- **What a call does.**  It returns -1 and delivers nothing, or it delivers as many
    bytes of the packet as `write` took, and returns 0 unless it has to read. -/
theorem wireStep_cases {s s' : Wire} {l : WireLabel} (hstep : wireStep s l = some s') :
    ∃ fd c, s' = ⟨fd, s.calls ++ [c]⟩ ∧ c.frame = l.frame ∧
      ((c.delivered = [] ∧ c.ret = -1 ∧ (s.clientFd < 0 ∨ l.frame = none ∨ l.sent = none)) ∨
        ∃ config n, 0 ≤ s.clientFd ∧ l.frame = some config ∧ l.sent = some n ∧
          c.delivered = (packetBytes config).take n.val ∧ (config.mode ≠ .rtToBc → c.ret = 0)) := by
  refine ⟨_, _, (Option.some.inj hstep).symm, rfl, ?_⟩
  by_cases hfd : s.clientFd < 0
  · left
    simp only [beginSend, if_pos hfd]
    exact ⟨List.take_nil, trivial, Or.inl hfd⟩
  · cases hframe : l.frame with
    | none =>
        left
        simp only [beginSend, if_neg hfd]
        exact ⟨List.take_nil, trivial, Or.inr (Or.inl trivial)⟩
    | some config =>
        cases hsent : l.sent with
        | none =>
            left
            have hfailed : l.bytesSent = -1 := by rw [WireLabel.bytesSent, hsent]
            simp only [beginSend, if_neg hfd, hfailed]
            exact ⟨rfl, rfl, Or.inr (Or.inr trivial)⟩
        | some n =>
            right
            have hcount : l.bytesSent = n.val := by rw [WireLabel.bytesSent, hsent]
            have hsent : ¬((n.val : Int) < 0) := by omega
            refine ⟨config, n, by omega, rfl, rfl, ?_, ?_⟩
            · rw [beginSend_written config (by omega), hcount]
              rfl
            · intro hmode
              simp only [beginSend, if_neg hfd, hcount, if_neg hsent, if_neg hmode]

/-- The delivery that comes next. -/
theorem framed_concat (ds : List (List UInt8)) (d : List UInt8) :
    Framed (ds ++ [d]) ↔ if d = [] then Framed ds else ∀ p ∈ ds, p = [] ∨ p.length = 70 := by
  rw [Framed, List.filter_append]
  by_cases hd : d = []
  · subst hd
    have hfilter : [([] : List UInt8)].filter (· ≠ []) = [] :=
      List.filter_cons_of_neg (by simp)
    rw [if_pos rfl, hfilter, List.append_nil]
    exact Iff.rfl
  · have hfilter : [d].filter (· ≠ []) = [d] := List.filter_cons_of_pos (by simp [hd])
    rw [if_neg hd, hfilter]
    constructor
    · rintro ⟨packets, cut, hsplit, hwhole, hcut⟩ p hp
      by_cases hnil : p = []
      · exact Or.inl hnil
      · -- what stands in front of the last delivery is among the packets
        refine Or.inr (hwhole p ?_)
        have hin : p ∈ ds.filter (· ≠ []) := List.mem_filter.mpr ⟨hp, by simp [hnil]⟩
        match cut with
        | [] =>
            rw [List.append_nil] at hsplit
            rw [← hsplit]
            exact List.mem_append_left _ hin
        | [last] =>
            obtain ⟨rfl, -⟩ := List.append_inj' hsplit rfl
            exact hin
        | _ :: _ :: rest => exact absurd hcut (by simp)
    · intro hwhole
      refine ⟨ds.filter (· ≠ []), [d], rfl, ?_, Nat.le_refl 1⟩
      intro p hp
      obtain ⟨hin, hne⟩ := List.mem_filter.mp hp
      exact (hwhole p hin).resolve_left (of_decide_eq_true hne)

/-- Calls so far, and one more. -/
theorem aligned_concat {s : Wire} (h : Aligned s) (fd : Int) (c : SendCall) :
    Aligned ⟨fd, s.calls ++ [c]⟩ ↔ (c.delivered = [] ∨ s.Unbroken) ∧
      (c.ret = 0 → ∀ config, c.frame = some config → config.mode ≠ .rtToBc →
        c.delivered = packetBytes config) := by
  have hframed : Framed ((s.calls ++ [c]).map SendCall.delivered) ↔
      c.delivered = [] ∨ s.Unbroken := by
    rw [List.map_append, List.map_singleton, framed_concat]
    by_cases hd : c.delivered = []
    · rw [if_pos hd]
      exact ⟨fun _ => Or.inl hd, fun _ => h.framed⟩
    · rw [if_neg hd, List.forall_mem_map]
      exact ⟨Or.inr, fun hor => hor.resolve_left hd⟩
  constructor
  · intro h'
    exact ⟨hframed.mp h'.framed, h'.complete c (List.mem_append_right _ (List.mem_singleton_self c))⟩
  · rintro ⟨hnext, hlast⟩
    refine ⟨hframed.mpr hnext, fun d hd => ?_⟩
    rcases List.mem_append.mp hd with hold | hnew
    · exact h.complete d hold
    · obtain rfl := List.mem_singleton.mp hnew
      exact hlast

/-- Only a count of 70 is the whole packet. -/
theorem take_eq_packetBytes (config : FrameConfig) (n : Fin 71) :
    (packetBytes config).take n.val = packetBytes config ↔ n = 70 := by
  have hlen := length_packetBytes config
  rw [List.take_eq_self_iff, hlen, Fin.ext_iff]
  have := n.isLt
  show 70 ≤ n.val ↔ n.val = 70
  omega

/-- Only a count of 0 is nothing. -/
theorem take_eq_nil (config : FrameConfig) (n : Fin 71) :
    (packetBytes config).take n.val = [] ↔ n = 0 := by
  have hlen := length_packetBytes config
  rw [← List.length_eq_zero_iff, List.length_take, hlen, Nat.min_eq_left (Nat.le_of_lt_succ n.isLt),
    Fin.ext_iff]
  rfl

/-- What the guard asks of a call whose write succeeds. -/
theorem keepsPackets_written {s : Wire} {l : WireLabel} {config : FrameConfig} {n : Fin 71}
    (hfd : 0 ≤ s.clientFd) (hconfig : l.frame = some config) (hsent : l.sent = some n) :
    KeepsPackets s l ↔ (config.mode = .rtToBc ∧ n = 0) ∨
      ((config.mode = .rtToBc ∨ n = 70) ∧ s.Unbroken) := by
  rw [KeepsPackets, hconfig, hsent]
  constructor
  · intro h
    rcases h hfd config rfl with herr | ⟨hmode, hzero⟩ | ⟨hwhole, hunbroken⟩
    · cases herr
    · exact Or.inl ⟨hmode, Option.some.inj hzero⟩
    · exact Or.inr ⟨hwhole.imp_right Option.some.inj, hunbroken⟩
  · rintro h - config' hsome
    obtain rfl : config = config' := Option.some.inj hsome
    rcases h with ⟨hmode, hzero⟩ | ⟨hwhole, hunbroken⟩
    · exact Or.inr (Or.inl ⟨hmode, congrArg some hzero⟩)
    · exact Or.inr (Or.inr ⟨hwhole.imp_right (congrArg some), hunbroken⟩)

/-- **Step lemma**: a call keeps the stream aligned exactly when it keeps packets
    whole. -/
theorem aligned_step_iff {s s' : Wire} {l : WireLabel} (h : Aligned s)
    (hstep : wireStep s l = some s') : Aligned s' ↔ KeepsPackets s l := by
  obtain ⟨fd, c, rfl, hframe, hcases⟩ := wireStep_cases hstep
  rw [aligned_concat h]
  rcases hcases with ⟨hnone, hret, hwhy⟩ | ⟨config, n, hfd, hconfig, hsent, hdelivered, hret⟩
  · -- nothing is delivered and the call fails
    constructor
    · intro _ hfd config hconfig
      rcases hwhy with hclosed | hnull | herr
      · omega
      · rw [hnull] at hconfig
        cases hconfig
      · exact Or.inl herr
    · intro _
      refine ⟨Or.inl hnone, fun hzero => ?_⟩
      rw [hret] at hzero
      exact absurd hzero (by decide)
  · have hlast : (c.ret = 0 → ∀ config', c.frame = some config' → config'.mode ≠ .rtToBc →
        c.delivered = packetBytes config') ↔ (config.mode ≠ .rtToBc → n = 70) := by
      rw [hframe, hconfig, hdelivered, ← take_eq_packetBytes config n]
      constructor
      · intro hall hmode
        exact hall (hret hmode) config rfl hmode
      · rintro hfull - config' hsome hmode
        obtain rfl : config = config' := Option.some.inj hsome
        exact hfull hmode
    rw [hlast, hdelivered, take_eq_nil, keepsPackets_written hfd hconfig hsent]
    by_cases hmode : config.mode = .rtToBc
    · -- a transmit request need not be whole, and may be nothing
      simp only [hmode, ne_eq, not_true_eq_false, false_imp_iff, and_true, true_and, true_or]
    · simp only [hmode, ne_eq, not_false_eq_true, true_imp_iff, false_and, false_or]
      constructor
      · rintro ⟨hzero | hunbroken, hfull⟩
        · exact absurd (hzero.symm.trans hfull) (by decide)
        · exact ⟨hfull, hunbroken⟩
      · rintro ⟨hfull, hunbroken⟩
        exact ⟨Or.inr hunbroken, hfull⟩

/-- **When the stream stays aligned.**  A run of calls on one connection keeps it a
    sequence of whole packets, with every call that reports success delivered,
    exactly when each of its calls keeps packets whole. -/
theorem aligned_iff (clientFd : Int) (ls : List WireLabel) :
    Always wireStep Aligned (Wire.init clientFd) ls
      ↔ Guarded wireStep KeepsPackets (Wire.init clientFd) ls :=
  always_iff_guarded wireStep (fun _ _ _ (htrue : True) _ => htrue)
    (fun _ _ _ _ h hstep => aligned_step_iff h hstep) (fun _ _ hnone => by cases hnone) ls
    trivial (aligned_init clientFd)

/-- A call for a frame; no reply is read. -/
def sendLabel (config : FrameConfig) (sent : Option (Fin 71)) : WireLabel :=
  ⟨some config, sent, framePacket config, Vector.replicate 32 0, none⟩

/-- Half a packet, reported as success, and a whole one behind it. -/
theorem short_write_breaks_alignment :
    ¬∀ ls, Always wireStep Aligned (Wire.init 3) ls := by
  intro hall
  have h := hall [sendLabel { syncFrame with mode := .bcToRt } (some 35),
    sendLabel { syncFrame with mode := .bcToRt } (some 70)]
  have hfirst := (h.2 _ rfl).1.complete _ List.mem_cons_self rfl _ rfl (by decide)
  exact absurd ((take_eq_packetBytes _ 35).mp hfirst) (by decide)

end TcpController
